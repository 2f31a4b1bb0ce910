import Mathlib.Data.Set.Lattice
import Mathlib.Order.Interval.Set.Basic
import Mathlib.Tactic.IntervalCases
import Mathlib.Tactic.MkIffOfInductiveProp
import OwlsRan.Rlc.RlcRxUmEntity

/-!
# The segments of an SDU at the receiver

`store_segment` keeps the bytes that have arrived, each of them once, whatever the order of the segments and however they
overlap. `update_segment_inventory` then knows whether the SDU is complete.
-/

namespace OwlsRan.Rlc
open OwlsRan.Lib

namespace RlcRxAmSduSegment

variable (segment : RlcRxAmSduSegment)

def start : Nat := segment.so.toNat

def stop : Nat := segment.so.toNat + segment.payload.length

def offsets : Set Nat := Set.Ico segment.start segment.stop

/-- The segment without its bytes before an offset. -/
def cutTo (offset : Nat) : RlcRxAmSduSegment :=
  { segment with payload := segment.payload.drop (offset - segment.start), so := .ofNat offset }

end RlcRxAmSduSegment

open RlcRxAmSduSegment

/-- Some bytes of an SDU, with their offset. The segment is called the last one if it has the last byte. -/
@[mk_iff]
structure SegmentOf (sdu : List UInt8) (segment : RlcRxAmSduSegment) : Prop where
  pos : 0 < segment.payload.length
  bytes : segment.payload = (sdu.drop segment.start).take segment.payload.length
  inside : segment.stop ≤ sdu.length
  last : segment.si = .lastSegment ↔ segment.stop = sdu.length

instance (sdu : List UInt8) (segment : RlcRxAmSduSegment) : Decidable (SegmentOf sdu segment) :=
  decidable_of_iff' _ (segmentOf_iff sdu segment)

def Before (x y : RlcRxAmSduSegment) : Prop := x.stop ≤ y.start

def offsetsOf (set : List RlcRxAmSduSegment) : Set Nat := {x | ∃ segment ∈ set, x ∈ segment.offsets}

/-- The set of `store_segment`: segments of the SDU in the order of their offsets, without common bytes. -/
structure SegmentsOf (sdu : List UInt8) (set : List RlcRxAmSduSegment) : Prop where
  segment : ∀ segment ∈ set, SegmentOf sdu segment
  sorted : set.Pairwise Before

/-- A byte is missing before one that is there. -/
def Gap (offsets : Set Nat) : Prop := ∃ x y, x < y ∧ x ∉ offsets ∧ y ∈ offsets

section Sets

variable {sdu : List UInt8} {set visited rest : List RlcRxAmSduSegment} {new cur x : RlcRxAmSduSegment} {n i : Nat}

lemma SegmentOf.start_lt (h : SegmentOf sdu new) : new.start < new.stop := Nat.lt_add_of_pos_right h.pos

lemma SegmentOf.cutTo (h : SegmentOf sdu new) (hsdu : sdu.length ≤ 65536) (hle : new.start ≤ n) (hlt : n < new.stop) :
    SegmentOf sdu (new.cutTo n) ∧ (new.cutTo n).start = n ∧ (new.cutTo n).stop = new.stop := by
  have hinside := h.inside
  have hstart : (UInt16.ofNat n).toNat = n := UInt16.toNat_ofNat_of_lt' (by unfold UInt16.size; omega)
  have hstop : (UInt16.ofNat n).toNat + (new.payload.drop (n - new.start)).length = new.stop := by
    rw [hstart, List.length_drop]
    unfold stop start at *
    omega
  refine ⟨⟨?_, ?_, ?_, ?_⟩, hstart, hstop⟩
  · change 0 < (new.payload.drop (n - new.start)).length
    omega
  · change new.payload.drop (n - new.start) = (sdu.drop (UInt16.ofNat n).toNat).take (new.payload.drop (n - new.start)).length
    rw [hstart, List.length_drop]
    conv_lhs => rw [h.bytes, List.drop_take, List.drop_drop, Nat.add_sub_cancel' hle]
  · exact hstop.trans_le hinside
  · change _ ↔ (UInt16.ofNat n).toNat + (new.payload.drop (n - new.start)).length = sdu.length
    rw [hstop]
    exact h.last

@[simp] lemma offsetsOf_nil : offsetsOf [] = ∅ := by
  ext x
  simp [offsetsOf]

@[simp] lemma offsetsOf_cons : offsetsOf (x :: set) = x.offsets ∪ offsetsOf set := by
  ext y
  simp [offsetsOf]

@[simp] lemma offsetsOf_append : offsetsOf (visited ++ rest) = offsetsOf visited ∪ offsetsOf rest := by
  ext y
  simp [offsetsOf, or_and_right, exists_or]

lemma mem_offsetsOf_lt (h : SegmentsOf sdu set) (hi : i ∈ offsetsOf set) : i < sdu.length := by
  obtain ⟨segment, hsegment, -, hstop⟩ := hi
  exact hstop.trans_le (h.segment segment hsegment).inside

end Sets

section Storing

variable {sdu : List UInt8} {set set' visited rest before behind : List RlcRxAmSduSegment}
  {new new' cur x : RlcRxAmSduSegment} {i : Nat}

lemma SegmentsOf.tail (h : SegmentsOf sdu (cur :: set)) : SegmentsOf sdu set :=
  ⟨fun x hx => h.segment x (List.mem_cons_of_mem cur hx), h.sorted.of_cons⟩

lemma SegmentsOf.sublist (h : SegmentsOf sdu set) (hsub : set'.Sublist set) : SegmentsOf sdu set' :=
  ⟨fun x hx => h.segment x (hsub.subset hx), h.sorted.sublist hsub⟩

lemma Before.lt (h : Before x cur) (hx : SegmentOf sdu x) : x.start < cur.start := hx.start_lt.trans_le h

lemma SegmentsOf.middle (h : SegmentsOf sdu (visited ++ rest)) (hnew : SegmentOf sdu new)
    (hbefore : ∀ x ∈ visited, Before x new) (hbehind : ∀ x ∈ rest, Before new x) :
    SegmentsOf sdu (visited ++ new :: rest) := by
  obtain ⟨hvisited, hrest, hapart⟩ := List.pairwise_append.mp h.sorted
  refine ⟨fun x hx => ?_, List.pairwise_append.mpr ⟨hvisited, hrest.cons hbehind, fun x hx y hy => ?_⟩⟩
  · rcases List.mem_append.mp hx with hx | hx
    · exact h.segment x (List.mem_append_left _ hx)
    · obtain rfl | hx := List.mem_cons.mp hx
      · exact hnew
      · exact h.segment x (List.mem_append_right _ hx)
  · obtain rfl | hy := List.mem_cons.mp hy
    · exact hbefore x hx
    · exact hapart x hx y hy

/-- A segment without bytes of the set is inserted at its place. -/
lemma insertSegment_spec (hset : SegmentsOf sdu set) (hnew : SegmentOf sdu new)
    (hapart : ∀ x ∈ set, Before x new ∨ Before new x) : ∃ before behind, set = before ++ behind ∧
      insertSegment new set = before ++ new :: behind ∧ (∀ x ∈ before, Before x new) ∧ ∀ x ∈ behind, Before new x := by
  induction set with
  | nil => exact ⟨[], [], rfl, rfl, nofun, nofun⟩
  | cons cur rest ih =>
    have hcur := hset.segment cur List.mem_cons_self
    unfold insertSegment
    rcases hapart cur List.mem_cons_self with hbefore | hbehind
    · have hlt : cur.so < new.so := UInt16.lt_iff_toNat_lt.mpr (hbefore.lt hcur)
      rw [if_neg (UInt16.lt_asymm hlt), if_pos hlt]
      obtain ⟨before, behind, hrest, hinsert, hb, ha⟩ := ih hset.tail fun x hx => hapart x (List.mem_cons_of_mem cur hx)
      refine ⟨cur :: before, behind, by rw [hrest]; rfl, by rw [hinsert]; rfl, fun x hx => ?_, ha⟩
      obtain rfl | hx := List.mem_cons.mp hx
      · exact hbefore
      · exact hb x hx
    · have hlt : new.so < cur.so := UInt16.lt_iff_toNat_lt.mpr (hbehind.lt hnew)
      rw [if_pos hlt]
      refine ⟨[], cur :: rest, rfl, rfl, nofun, fun x hx => ?_⟩
      obtain rfl | hx := List.mem_cons.mp hx
      · exact hbehind
      · have hnext := (List.pairwise_cons.mp hset.sorted).1 x hx
        exact hbehind.trans (hcur.start_lt.le.trans hnext)

lemma SegmentsOf.insert (hset : SegmentsOf sdu set) (hnew : SegmentOf sdu new)
    (hapart : ∀ x ∈ set, Before x new ∨ Before new x) :
    SegmentsOf sdu (insertSegment new set) ∧ offsetsOf (insertSegment new set) = offsetsOf set ∪ new.offsets ∧
      ∀ x ∈ insertSegment new set, x = new ∨ x ∈ set := by
  obtain ⟨before, behind, rfl, hinsert, hbefore, hbehind⟩ := insertSegment_spec hset hnew hapart
  rw [hinsert]
  refine ⟨hset.middle hnew hbefore hbehind, ?_, fun x hx => ?_⟩
  · rw [offsetsOf_append, offsetsOf_cons, offsetsOf_append, Set.union_left_comm, Set.union_comm]
  · rw [List.mem_append, List.mem_cons] at hx
    rw [List.mem_append]
    tauto

/-- What is left of a new segment has no bytes of the set, and its first byte was not there before. -/
structure Trimmed (sdu : List UInt8) (set : List RlcRxAmSduSegment) (new : RlcRxAmSduSegment)
    (set' : List RlcRxAmSduSegment) (new' : RlcRxAmSduSegment) : Prop where
  segments : SegmentsOf sdu set'
  segment : SegmentOf sdu new'
  apart : ∀ x ∈ set', Before x new' ∨ Before new' x
  offsets : offsetsOf set' ∪ new'.offsets = offsetsOf set ∪ new.offsets
  unknown : new'.start ∉ offsetsOf set

lemma Trimmed.of_covered (h : Trimmed sdu (visited ++ rest) new set' new') (hinside : cur.offsets ⊆ new.offsets)
    (hunknown : new'.start ∉ offsetsOf (visited ++ cur :: rest)) : Trimmed sdu (visited ++ cur :: rest) new set' new' := by
  refine { h with offsets := ?_, unknown := hunknown }
  rw [h.offsets, offsetsOf_append, offsetsOf_append, offsetsOf_cons, Set.union_assoc, Set.union_assoc, Set.union_assoc,
    Set.union_left_comm cur.offsets, Set.union_eq_self_of_subset_left hinside]

lemma offsetsOf_union_cutTo (hmem : cur ∈ set) (hle : cur.start ≤ new.start) (hstart : new'.start = cur.stop)
    (hstop : new'.stop = new.stop) (hmeets : new.start < cur.stop) :
    offsetsOf set ∪ new'.offsets = offsetsOf set ∪ new.offsets := by
  ext i
  have hin : cur.start ≤ i ∧ i < cur.stop → i ∈ offsetsOf set := fun h => ⟨cur, hmem, h⟩
  simp only [Set.mem_union, RlcRxAmSduSegment.offsets, Set.mem_Ico, hstart, hstop]
  constructor
  · rintro (h | h)
    · exact .inl h
    · exact .inr ⟨by omega, h.2⟩
  · rintro (h | h)
    · exact .inl h
    · by_cases hi : i < cur.stop
      · exact .inl (hin ⟨by omega, hi⟩)
      · exact .inr ⟨by omega, h.2⟩

lemma SegmentsOf.before_rest (h : SegmentsOf sdu (visited ++ cur :: rest)) : ∀ x ∈ rest, Before cur x :=
  (List.pairwise_cons.mp (List.pairwise_append.mp h.sorted).2.1).1

lemma SegmentsOf.start_unknown (h : SegmentsOf sdu (visited ++ cur :: rest)) (hvisited : ∀ x ∈ visited, Before x new)
    (hlt : new.start < cur.start) : new.start ∉ offsetsOf (visited ++ cur :: rest) := by
  have hcur := h.segment cur (List.mem_append_right _ List.mem_cons_self)
  rw [offsetsOf_append, offsetsOf_cons]
  rintro (⟨x, hx, -, hstop⟩ | ⟨hstart, -⟩ | ⟨x, hx, hstart, -⟩)
  · exact Nat.not_lt.mpr (hvisited x hx) hstop
  · exact Nat.not_le.mpr hlt hstart
  · exact Nat.not_le.mpr (hlt.trans ((h.before_rest x hx).lt hcur)) hstart

/-- The new segment ends before the current one starts. -/
lemma SegmentsOf.trimmed_before (h : SegmentsOf sdu (visited ++ cur :: rest)) (hnew : SegmentOf sdu new)
    (hvisited : ∀ x ∈ visited, Before x new) (hbefore : Before new cur) :
    Trimmed sdu (visited ++ cur :: rest) new (visited ++ cur :: rest) new := by
  have hcur := (h.segment cur (List.mem_append_right _ List.mem_cons_self)).start_lt
  refine ⟨h, hnew, fun x hx => ?_, rfl, h.start_unknown hvisited (hbefore.lt hnew)⟩
  rw [List.mem_append, List.mem_cons] at hx
  rcases hx with hx | rfl | hx
  · exact .inl (hvisited x hx)
  · exact .inr hbefore
  · exact .inr (hbefore.trans (hcur.le.trans (h.before_rest x hx)))

/-- The new segment ends within the current one, which loses its first bytes and is inserted again. -/
lemma SegmentsOf.trimmed_cut (h : SegmentsOf sdu (visited ++ cur :: rest)) (hsdu : sdu.length ≤ 65536)
    (hnew : SegmentOf sdu new) (hvisited : ∀ x ∈ visited, Before x new) (hlt : new.start < cur.start)
    (hmeets : cur.start ≤ new.stop) (hends : new.stop < cur.stop) :
    Trimmed sdu (visited ++ cur :: rest) new (insertSegment (cur.cutTo new.stop) (visited ++ rest)) new := by
  have hcur := h.segment cur (List.mem_append_right _ List.mem_cons_self)
  have hothers := h.sublist ((List.sublist_cons_self cur rest).append_left visited)
  have hnewPos := hnew.start_lt
  obtain ⟨hcut, hstart, hstop⟩ := hcur.cutTo hsdu hmeets hends
  generalize cur.cutTo new.stop = cut at hcut hstart hstop
  obtain ⟨hsegments, hoffsets, hmem⟩ := hothers.insert hcut fun x hx => by
    rcases List.mem_append.mp hx with hx | hx
    · exact .inl ((hvisited x hx).trans (by omega))
    · exact .inr (hstop.trans_le (h.before_rest x hx))
  refine ⟨hsegments, hnew, fun x hx => ?_, ?_, h.start_unknown hvisited hlt⟩
  · obtain rfl | hx := hmem x hx
    · exact .inr hstart.ge
    rcases List.mem_append.mp hx with hx | hx
    · exact .inl (hvisited x hx)
    · exact .inr (hends.le.trans (h.before_rest x hx))
  · have hsame : cut.offsets ∪ new.offsets = cur.offsets ∪ new.offsets := by
      ext i
      simp only [Set.mem_union, RlcRxAmSduSegment.offsets, Set.mem_Ico, hstart, hstop]
      omega
    rw [hoffsets, Set.union_assoc, hsame, offsetsOf_append, offsetsOf_append, offsetsOf_cons, ← Set.union_assoc,
      Set.union_assoc (offsetsOf visited), Set.union_comm (offsetsOf rest)]

/-- The loop of `store_segment`: nothing is left exactly if no byte is new. A segment that starts before all others keeps
its bytes. -/
lemma trimSegment_spec (hsdu : sdu.length ≤ 65536) (hset : SegmentsOf sdu (visited ++ rest)) (hnew : SegmentOf sdu new)
    (hvisited : ∀ x ∈ visited, Before x new) :
    (match trimSegment visited new rest with
      | none => new.offsets ⊆ offsetsOf (visited ++ rest)
      | some (set', new') => Trimmed sdu (visited ++ rest) new set' new') ∧
    ((∀ x ∈ rest, new.start < x.start) → ∃ set', trimSegment visited new rest = some (set', new)) := by
  induction rest generalizing visited new with
  | nil =>
    rw [List.append_nil] at hset ⊢
    refine ⟨⟨hset, hnew, fun x hx => .inl (hvisited x hx), rfl, ?_⟩, fun _ => ⟨visited, rfl⟩⟩
    rintro ⟨x, hx, -, hlt⟩
    exact Nat.not_lt.mpr (hvisited x hx) hlt
  | cons cur rest ih =>
    have hmem : cur ∈ visited ++ cur :: rest := List.mem_append_right _ List.mem_cons_self
    have hcur := hset.segment cur hmem
    have hcurPos : cur.start < cur.stop := hcur.start_lt
    have hnewPos : new.start < new.stop := hnew.start_lt
    have hmoved : visited ++ cur :: rest = (visited ++ [cur]) ++ rest := List.append_cons visited cur rest
    have hpast : ∀ {y : RlcRxAmSduSegment}, (∀ x ∈ visited, Before x y) → Before cur y → ∀ x ∈ visited ++ [cur], Before x y := by
      intro y hy hcury x hx
      rcases List.mem_append.mp hx with hx | hx
      · exact hy x hx
      · obtain rfl := List.mem_singleton.mp hx
        exact hcury
    have hcurLast : cur.so.toNat + cur.payload.length - 1 + 1 = cur.stop := by
      unfold stop start at *
      omega
    have hnewLast : new.so.toNat + new.payload.length - 1 + 1 = new.stop := by
      unfold stop start at *
      omega
    unfold trimSegment
    dsimp only
    rw [hcurLast, hnewLast]
    by_cases hafter : new.so.toNat > cur.so.toNat + cur.payload.length - 1
    · -- the new segment starts after the current one
      rw [if_pos hafter, hmoved]
      have hbefore : Before cur new := by
        unfold Before start
        omega
      obtain ⟨hspec, hkept⟩ := ih (hmoved ▸ hset) hnew (hpast hvisited hbefore)
      exact ⟨hspec, fun hall => hkept fun x hx => hall x (List.mem_cons_of_mem cur hx)⟩
    rw [if_neg hafter]
    have hmeets : new.start < cur.stop := by
      unfold start
      omega
    by_cases hge : new.so ≥ cur.so
    · rw [if_pos hge]
      have hle : cur.start ≤ new.start := UInt16.le_iff_toNat_le.mp hge
      have hnotAll : ¬∀ x ∈ cur :: rest, new.start < x.start :=
        fun hall => Nat.not_lt.mpr hle (hall cur List.mem_cons_self)
      by_cases hin : new.so.toNat + new.payload.length - 1 ≤ cur.so.toNat + cur.payload.length - 1
      · rw [if_pos hin]
        exact ⟨fun i hi => ⟨cur, hmem, hle.trans hi.1, hi.2.trans_le (by omega)⟩, fun hall => absurd hall hnotAll⟩
      · -- the new segment loses the bytes of the current one
        rw [if_neg hin]
        obtain ⟨hcut, hstart, hstop⟩ := hnew.cutTo hsdu hmeets.le (n := cur.stop) (by omega)
        change (match trimSegment (visited ++ [cur]) (new.cutTo cur.stop) rest with
          | none => new.offsets ⊆ offsetsOf (visited ++ cur :: rest)
          | some (set', new') => Trimmed sdu (visited ++ cur :: rest) new set' new') ∧ _
        generalize new.cutTo cur.stop = cut at hcut hstart hstop
        have hsame := offsetsOf_union_cutTo hmem hle hstart hstop hmeets
        obtain ⟨hspec, -⟩ := ih (hmoved ▸ hset) hcut (hpast (fun x hx => (hvisited x hx).trans (by omega)) hstart.ge)
        refine ⟨?_, fun hall => absurd hall hnotAll⟩
        rw [← hmoved] at hspec
        split at hspec
        · rw [← Set.union_eq_left, ← hsame, Set.union_eq_left]
          exact hspec
        · exact { hspec with offsets := hspec.offsets.trans hsame }
    · rw [if_neg hge]
      have hlt : new.start < cur.start := Nat.not_le.mp (mt UInt16.le_iff_toNat_le.mpr hge)
      by_cases hends : new.so.toNat + new.payload.length - 1 < cur.so.toNat
      · rw [if_pos hends]
        have hbefore : Before new cur := by
          unfold Before start
          omega
        exact ⟨hset.trimmed_before hnew hvisited hbefore, fun _ => ⟨_, rfl⟩⟩
      rw [if_neg hends]
      have hreaches : cur.start ≤ new.stop := by
        unfold start
        omega
      by_cases hcuts : new.so.toNat + new.payload.length - 1 < cur.so.toNat + cur.payload.length - 1
      · rw [if_pos hcuts]
        exact ⟨hset.trimmed_cut hsdu hnew hvisited hlt hreaches (by omega), fun _ => ⟨_, rfl⟩⟩
      · -- the current segment has no byte of its own
        rw [if_neg hcuts]
        obtain ⟨hspec, hkept⟩ := ih (hset.sublist ((List.sublist_cons_self cur rest).append_left visited)) hnew hvisited
        obtain ⟨set', hset'⟩ := hkept fun x hx => hlt.trans ((hset.before_rest x hx).lt hcur)
        rw [hset'] at hspec ⊢
        exact ⟨hspec.of_covered (Set.Ico_subset_Ico hlt.le (by omega)) (hset.start_unknown hvisited hlt),
          fun _ => ⟨set', rfl⟩⟩

/-- `store_segment` on the set: whether the segment has new bytes, and the set with them. -/
def storeIn (set : List RlcRxAmSduSegment) (new : RlcRxAmSduSegment) : Bool × List RlcRxAmSduSegment :=
  match trimSegment [] new set with
  | none => (false, set)
  | some (set, new) => (true, insertSegment new set)

lemma storeSegment_eq (sduInfo : RlcRxAmSduInfo) (new : RlcRxAmSduSegment) : storeSegment sduInfo new =
    ((storeIn (segmentSet sduInfo.sduData) new).1,
      { sduInfo with sduData := .segments (storeIn (segmentSet sduInfo.sduData) new).2 }) := by
  unfold storeSegment storeIn
  dsimp only
  cases trimSegment [] new (segmentSet sduInfo.sduData) <;> rfl

lemma storeIn_spec (hsdu : sdu.length ≤ 65536) (hset : SegmentsOf sdu set) (hnew : SegmentOf sdu new) :
    SegmentsOf sdu (storeIn set new).2 ∧ offsetsOf (storeIn set new).2 = offsetsOf set ∪ new.offsets ∧
      ((storeIn set new).1 = true ↔ ¬new.offsets ⊆ offsetsOf set) := by
  have htrim := (trimSegment_spec hsdu (show SegmentsOf sdu ([] ++ set) from hset) hnew nofun).1
  rw [List.nil_append] at htrim
  unfold storeIn
  generalize trimSegment [] new set = trimmed at htrim
  match trimmed with
  | none => exact ⟨hset, (Set.union_eq_self_of_subset_right htrim).symm, ⟨nofun, fun h => absurd htrim h⟩⟩
  | some (set', new') =>
    obtain ⟨hsegments, hoffsets, -⟩ := htrim.segments.insert htrim.segment htrim.apart
    refine ⟨hsegments, hoffsets.trans htrim.offsets, fun _ hknown => htrim.unknown ?_, fun _ => rfl⟩
    have hin : new'.start ∈ offsetsOf set ∪ new.offsets := by
      rw [← htrim.offsets]
      exact .inr ⟨le_rfl, htrim.segment.start_lt⟩
    rwa [Set.union_eq_self_of_subset_right hknown] at hin

end Storing

section Inventory

variable {sdu : List UInt8} {set : List RlcRxAmSduSegment} {x : RlcRxAmSduSegment} {n : Nat}

lemma SegmentOf.payload_append (h : SegmentOf sdu x) : x.payload ++ sdu.drop x.stop = sdu.drop x.start := by
  have hdrop : sdu.drop x.stop = (sdu.drop x.start).drop x.payload.length := List.drop_drop.symm
  have htake : x.payload = (sdu.drop x.start).take x.payload.length := h.bytes
  rw [hdrop]
  conv_lhs => arg 1; rw [htake]
  exact List.take_append_drop _ _

lemma mem_offsets_iff {i : Nat} : i ∈ x.offsets ↔ x.start ≤ i ∧ i < x.stop := Iff.rfl

/-- The loop of `update_segment_inventory` from an offset on. -/
lemma segmentInventory_spec (h : SegmentsOf sdu set) (hn : n < sdu.length) (hfrom : ∀ x ∈ set, n ≤ x.start) :
    ((segmentInventory n set).2 = true ↔ Set.Ico n sdu.length ⊆ offsetsOf set) ∧
    ((segmentInventory n set).1 = true ↔ ∃ x y, n ≤ x ∧ x < y ∧ x ∉ offsetsOf set ∧ y ∈ offsetsOf set) ∧
    ((segmentInventory n set).2 = true → set.flatMap RlcRxAmSduSegment.payload = sdu.drop n) := by
  induction set generalizing n with
  | nil =>
    rw [offsetsOf_nil]
    refine ⟨⟨nofun, fun hall => absurd (hall ⟨le_rfl, hn⟩) (Set.notMem_empty n)⟩, ⟨nofun, ?_⟩, nofun⟩
    rintro ⟨x, y, -, -, -, hy⟩
    exact absurd hy (Set.notMem_empty y)
  | cons cur rest ih =>
    have hcur := h.segment cur List.mem_cons_self
    have hrest : ∀ x ∈ rest, Before cur x := (List.pairwise_cons.mp h.sorted).1
    have hpos := hcur.start_lt
    have hle := hfrom cur List.mem_cons_self
    unfold segmentInventory
    by_cases hgap : cur.so.toNat ≠ n
    · rw [if_pos hgap]
      have hlt : n < cur.start := lt_of_le_of_ne hle (Ne.symm hgap)
      have hmissing : n ∉ offsetsOf (cur :: rest) := by
        rw [offsetsOf_cons]
        rintro (⟨hstart, -⟩ | ⟨x, hx, hstart, -⟩)
        · exact Nat.not_le.mpr hlt hstart
        · exact Nat.not_le.mpr (hlt.trans ((hrest x hx).lt hcur)) hstart
      refine ⟨⟨nofun, fun hall => absurd (hall ⟨le_rfl, hn⟩) hmissing⟩, ⟨fun _ => ?_, fun _ => rfl⟩, nofun⟩
      exact ⟨n, cur.start, le_rfl, hlt, hmissing, cur, List.mem_cons_self, le_rfl, hpos⟩
    rw [if_neg hgap]
    obtain rfl : cur.start = n := not_not.mp hgap
    rw [offsetsOf_cons]
    by_cases hlast : cur.si = .lastSegment
    · rw [if_pos hlast]
      have hstop := hcur.last.mp hlast
      refine ⟨⟨fun _ i hi => .inl ⟨hi.1, hi.2.trans_eq hstop.symm⟩, fun _ => rfl⟩, ⟨nofun, ?_⟩, fun _ => ?_⟩
      · rintro ⟨x, y, hx, hxy, hmissing, hy⟩
        have hy' : y < sdu.length := mem_offsetsOf_lt h (offsetsOf_cons ▸ hy)
        exact absurd (.inl ⟨hx, by omega⟩) hmissing
      · have hnil : rest = [] := by
          apply List.eq_nil_iff_forall_not_mem.mpr
          intro x hx
          have hinside := (h.tail.segment x hx).inside
          have hxpos := (h.tail.segment x hx).start_lt
          have hafter : cur.stop ≤ x.start := hrest x hx
          omega
        rw [hnil, List.flatMap_singleton, ← hcur.payload_append, hstop, List.drop_length, List.append_nil]
    · rw [if_neg hlast]
      have hstop : cur.stop < sdu.length := lt_of_le_of_ne hcur.inside (mt hcur.last.mpr hlast)
      obtain ⟨hfull, hgaps, hbytes⟩ := ih h.tail hstop hrest
      change ((segmentInventory cur.stop rest).2 = true ↔ _) ∧ ((segmentInventory cur.stop rest).1 = true ↔ _) ∧
        ((segmentInventory cur.stop rest).2 = true → _)
      refine ⟨hfull.trans ⟨fun hall i hi => ?_, fun hall i hi => ?_⟩, hgaps.trans ⟨?_, ?_⟩, fun hreceived => ?_⟩
      · by_cases hin : i < cur.stop
        · exact .inl ⟨hi.1, hin⟩
        · exact .inr (hall ⟨Nat.not_lt.mp hin, hi.2⟩)
      · rcases hall ⟨hpos.le.trans hi.1, hi.2⟩ with hin | hin
        · exact absurd hin.2 (Nat.not_lt.mpr hi.1)
        · exact hin
      · rintro ⟨x, y, hx, hxy, hmissing, hy⟩
        refine ⟨x, y, by omega, hxy, ?_, .inr hy⟩
        rintro (hin | hin)
        · exact absurd hin.2 (Nat.not_lt.mpr hx)
        · exact hmissing hin
      · rintro ⟨x, y, hx, hxy, hmissing, hy⟩
        have hpast : cur.stop ≤ x := Nat.not_lt.mp fun hin => hmissing (.inl ⟨hx, hin⟩)
        refine ⟨x, y, hpast, hxy, fun hin => hmissing (.inr hin), ?_⟩
        rcases hy with hin | hin
        · exact absurd hin.2 (by omega)
        · exact hin
      · rw [List.flatMap_cons, hbytes hreceived, hcur.payload_append]

end Inventory

section Runs

variable {sdu : List UInt8} {set segments : List RlcRxAmSduSegment} {segment : RlcRxAmSduSegment} {info : RlcRxAmSduInfo}

/-- What is known of an SDU at the receiver: the bytes of the segments that have arrived. -/
structure Collected (sdu : List UInt8) (received : Set Nat) (set : List RlcRxAmSduSegment) (hasGap fullyReceived : Bool) :
    Prop where
  segments : SegmentsOf sdu set
  offsets : offsetsOf set = received
  flags : segmentInventory 0 set = (hasGap, fullyReceived)

lemma Collected.fullyReceived_iff {received : Set Nat} {hasGap fullyReceived : Bool} (hpos : 0 < sdu.length)
    (h : Collected sdu received set hasGap fullyReceived) :
    fullyReceived = true ↔ ∀ x < sdu.length, x ∈ received := by
  have hspec := (segmentInventory_spec h.segments hpos fun _ _ => Nat.zero_le _).1
  rw [h.flags, h.offsets] at hspec
  exact hspec.trans ⟨fun hall x hx => hall ⟨Nat.zero_le x, hx⟩, fun hall x hx => hall x hx.2⟩

lemma Collected.hasGap_iff {received : Set Nat} {hasGap fullyReceived : Bool} (hpos : 0 < sdu.length)
    (h : Collected sdu received set hasGap fullyReceived) : hasGap = true ↔ Gap received := by
  have hspec := (segmentInventory_spec h.segments hpos fun _ _ => Nat.zero_le _).2.1
  rw [h.flags, h.offsets] at hspec
  refine hspec.trans ⟨?_, ?_⟩
  · rintro ⟨x, y, -, hxy, hx, hy⟩
    exact ⟨x, y, hxy, hx, hy⟩
  · rintro ⟨x, y, hxy, hx, hy⟩
    exact ⟨x, y, Nat.zero_le x, hxy, hx, hy⟩

lemma Collected.reassembled {received : Set Nat} {hasGap fullyReceived : Bool} (hpos : 0 < sdu.length)
    (h : Collected sdu received set hasGap fullyReceived) (hfull : fullyReceived = true) :
    set.flatMap RlcRxAmSduSegment.payload = sdu := by
  apply (segmentInventory_spec h.segments hpos fun _ _ => Nat.zero_le _).2.2
  rw [h.flags]
  exact hfull

lemma Collected.store {received : Set Nat} {hasGap fullyReceived : Bool} (hsdu : sdu.length ≤ 65536)
    (h : Collected sdu received set hasGap fullyReceived) (hsegment : SegmentOf sdu segment) :
    Collected sdu (received ∪ segment.offsets) (storeIn set segment).2 (segmentInventory 0 (storeIn set segment).2).1
      (segmentInventory 0 (storeIn set segment).2).2 := by
  obtain ⟨hsegments, hoffsets, -⟩ := storeIn_spec hsdu h.segments hsegment
  exact ⟨hsegments, hoffsets.trans (by rw [h.offsets]), rfl⟩

lemma collected_nil (sdu : List UInt8) : Collected sdu ∅ [] false false := ⟨⟨nofun, .nil⟩, offsetsOf_nil, rfl⟩

/-- `store_segment` and `update_segment_inventory`, as `handle_segment_data_sdu` calls them for a segment of an SDU. -/
def collectSegment (info : RlcRxAmSduInfo) (segment : RlcRxAmSduSegment) : Except RlcAbort RlcRxAmSduInfo :=
  updateSegmentInventory (storeSegment info segment).2

lemma collectSegment_ok (info : RlcRxAmSduInfo) (segment : RlcRxAmSduSegment) : collectSegment info segment =
    .ok ⟨(segmentInventory 0 (storeIn (segmentSet info.sduData) segment).2).2,
      (segmentInventory 0 (storeIn (segmentSet info.sduData) segment).2).1,
      .segments (storeIn (segmentSet info.sduData) segment).2⟩ := by
  unfold collectSegment
  rw [storeSegment_eq]
  rfl

lemma run_collected (hsdu : sdu.length ≤ 65536) (hsegments : ∀ segment ∈ segments, SegmentOf sdu segment) :
    ∃ info, runEvents collectSegment .default segments = .ok info ∧
      Collected sdu (offsetsOf segments) (segmentSet info.sduData) info.hasGap info.fullyReceived ∧
      (segments ≠ [] → info.sduData = .segments (segmentSet info.sduData)) := by
  induction segments using List.reverseRecOn with
  | nil =>
    refine ⟨.default, rfl, ?_, fun h => absurd rfl h⟩
    rw [offsetsOf_nil]
    exact collected_nil sdu
  | append_singleton segments segment ih =>
    obtain ⟨info, hrun, hcollected, -⟩ := ih fun x hx => hsegments x (List.mem_append_left _ hx)
    refine ⟨_, runEvents_concat_ok.mpr ⟨info, hrun, collectSegment_ok info segment⟩, ?_, fun _ => rfl⟩
    rw [offsetsOf_append, offsetsOf_cons, offsetsOf_nil, Set.union_empty]
    exact hcollected.store hsdu (hsegments segment (List.mem_append_right _ List.mem_cons_self))

/-- Segments of one SDU, in any order, repeated and overlapping: the SDU is complete exactly when they have all its bytes,
and then it is reassembled as it was. The flag for a gap and the one for new bytes are exact as well. -/
theorem am_segments_reassembled (sdu : List UInt8) (hpos : 0 < sdu.length) (hsdu : sdu.length ≤ 65536)
    (segments : List RlcRxAmSduSegment) (hne : segments ≠ []) (hsegments : ∀ segment ∈ segments, SegmentOf sdu segment) :
    ∃ info, runEvents collectSegment .default segments = .ok info ∧
      (info.fullyReceived = true ↔ ∀ x < sdu.length, x ∈ offsetsOf segments) ∧
      (info.fullyReceived = true → reassembleSdu info = sdu) ∧
      (info.hasGap = true ↔ Gap (offsetsOf segments)) ∧
      ∀ next, SegmentOf sdu next → ((storeSegment info next).1 = true ↔ ∃ x ∈ next.offsets, x ∉ offsetsOf segments) := by
  obtain ⟨info, hrun, hcollected, hset⟩ := run_collected hsdu hsegments
  refine ⟨info, hrun, hcollected.fullyReceived_iff hpos, fun hfull => ?_, hcollected.hasGap_iff hpos, fun next hnext => ?_⟩
  · unfold reassembleSdu
    rw [hset hne]
    exact hcollected.reassembled hpos hfull
  · rw [storeSegment_eq, (storeIn_spec hsdu hcollected.segments hnext).2.2, hcollected.offsets]
    exact Set.not_subset

/-- The last segment comes first, and the others overlap. -/
theorem am_segments_reassembled_overlapping : ∃ info, runEvents collectSegment .default
    [⟨.lastSegment, 3, [4, 5]⟩, ⟨.firstSegment, 0, [1, 2]⟩, ⟨.middleSegment, 1, [2, 3, 4]⟩] = .ok info ∧
      reassembleSdu info = [1, 2, 3, 4, 5] := by
  obtain ⟨info, hrun, hfull, hbytes, -⟩ := am_segments_reassembled [1, 2, 3, 4, 5] (by decide) (by decide)
    [⟨.lastSegment, 3, [4, 5]⟩, ⟨.firstSegment, 0, [1, 2]⟩, ⟨.middleSegment, 1, [2, 3, 4]⟩] (by decide) (by decide)
  refine ⟨info, hrun, hbytes (hfull.mpr fun x hx => ?_)⟩
  simp only [offsetsOf_cons, offsetsOf_nil, Set.mem_union, mem_offsets_iff, start, stop]
  change x < 5 at hx
  interval_cases x <;> decide

end Runs

end OwlsRan.Rlc
