import Mathlib.Data.List.Basic
import Mathlib.Data.List.Rotate
import Mathlib.Tactic.Lemma
import OwlsRan.Lib.OrderedList
import OwlsRan.Ran.SlotPoint

/-!
# The rotation of the UE groups

The UEs of a call are the first of the cyclic order that starts at the offset.
-/

/-!
## UE groups of a slice

`slice_ue_group_scheduler` chooses the UEs that the policy sees in a slot. In a large slice these are the first UEs with
data behind an offset, which moves on from frame to frame.
-/

namespace OwlsRan.Sched
open OwlsRan.Ran

/-- `slice_ue_repository`: the indexes of its UEs, in the order in which its `slotted_id_table` is iterated. An iterator
is a position in this order. -/
structure SliceUeRepository where
  ueIndexes : List Nat
  sorted : ueIndexes.Pairwise (· < ·)

namespace SliceUeRepository

def size (r : SliceUeRepository) : Nat := r.ueIndexes.length

/-- The UE at a position that is not `end()`. -/
def ueAt (r : SliceUeRepository) (it : Nat) : Nat := r.ueIndexes.getD it 0

/-- `lower_bound`: the first UE whose index is not below the given one, or `end()`. -/
def lowerBound (r : SliceUeRepository) (ueIndex : Nat) : Nat := r.ueIndexes.findIdx fun i => decide (ueIndex ≤ i)

end SliceUeRepository

structure SliceUeGroupScheduler where
  groupOffset : Nat
  lastPdcchTx : SlotPoint
  maxDlUeCount : Nat
  maxUlUeCount : Nat

def SliceUeGroupScheduler.init : SliceUeGroupScheduler := ⟨0, .invalid, 0, 0⟩

/-- A call of `fill_ue_dl_candidate_group` or `fill_ue_ul_candidate_group`. `isCandidate` tells which UEs have pending
data and become candidates when they are looked at. -/
structure GroupCall where
  pdcchSlot : SlotPoint
  isDl : Bool
  isCandidate : Nat → Bool
  valid : pdcchSlot.valid

structure GroupWalk where
  count : Nat
  lastCandidateCount : Nat
  candidates : List Nat
  visited : List Nat

namespace GroupWalk

def start : GroupWalk := ⟨0, 0, [], []⟩

def visit (w : GroupWalk) (ueIndex : Nat) : GroupWalk :=
  { w with count := w.count + 1, visited := w.visited ++ [ueIndex] }

def accept (w : GroupWalk) (ueIndex : Nat) : GroupWalk :=
  { w with candidates := w.candidates ++ [ueIndex], lastCandidateCount := w.count }

end GroupWalk

/-- The loop of `fill_ue_candidate_group`, which ends when `count` has reached the number of UEs. The first argument is
what `count` lacks, the second the iterator. -/
def walkGroup (ues : SliceUeRepository) (isCandidate : Nat → Bool) (groupSize : Nat) :
    Nat → Nat → GroupWalk → GroupWalk
  | 0, _, w => w
  | left + 1, ueIt, w =>
    let ueIt := if ueIt = ues.size then 0 else ueIt
    let ueIndex := ues.ueAt ueIt
    let w := w.visit ueIndex
    if isCandidate ueIndex then
      let w := w.accept ueIndex
      if groupSize ≤ w.candidates.length then w else walkGroup ues isCandidate groupSize left (ueIt + 1) w
    else walkGroup ues isCandidate groupSize left (ueIt + 1) w

namespace SliceUeGroupScheduler

def EntersFrame (s : SliceUeGroupScheduler) (sfn : Nat) : Prop := ¬ s.lastPdcchTx.valid ∨ s.lastPdcchTx.sfn ≠ sfn

instance (s : SliceUeGroupScheduler) (sfn : Nat) : Decidable (s.EntersFrame sfn) := inferInstanceAs (Decidable (_ ∨ _))

/-- The first part of `fill_ue_candidate_group`, which updates the offset. `groupSize` is
`pre_policy_rr_ue_group_size`. -/
def updateOffset (groupSize : Nat) (ues : SliceUeRepository) (pdcchSlot : SlotPoint) (s : SliceUeGroupScheduler) :
    SliceUeGroupScheduler :=
  if groupSize < ues.size then
    if s.EntersFrame pdcchSlot.sfn then
      let ueIdxMod := ues.ueAt (ues.size - 1) + 1
      let jump := max (min s.maxDlUeCount s.maxUlUeCount) groupSize
      ⟨(s.groupOffset + jump) % ueIdxMod, pdcchSlot, 0, 0⟩
    else { s with lastPdcchTx := pdcchSlot }
  else { s with groupOffset := 0, lastPdcchTx := pdcchSlot }

def saveCount (s : SliceUeGroupScheduler) (isDl : Bool) (lastCandidateCount : Nat) : SliceUeGroupScheduler :=
  if isDl then { s with maxDlUeCount := max s.maxDlUeCount lastCandidateCount }
  else { s with maxUlUeCount := max s.maxUlUeCount lastCandidateCount }

def fillUeCandidateGroup (groupSize : Nat) (ues : SliceUeRepository) (s : SliceUeGroupScheduler) (call : GroupCall) :
    SliceUeGroupScheduler × GroupWalk :=
  let s := s.updateOffset groupSize ues call.pdcchSlot
  let w := walkGroup ues call.isCandidate (min ues.size groupSize) ues.size (ues.lowerBound s.groupOffset) .start
  (s.saveCount call.isDl w.lastCandidateCount, w)

end SliceUeGroupScheduler

open OwlsRan.Lib

section Order

variable {M a b x jump : Nat} {l : List Nat}

/-- The way from `a` up to `x`, around `M`. -/
def cyclicDist (M a x : Nat) : Nat := if a ≤ x then x - a else x + M - a

/-- `x` lies in the cyclic interval from `a` up to `b`, which is left out. -/
def InCyclicInterval (a b x : Nat) : Prop := if a ≤ b then a ≤ x ∧ x < b else a ≤ x ∨ x < b

instance : Decidable (InCyclicInterval a b x) := by
  unfold InCyclicInterval
  infer_instance

lemma cyclicDist_lt (ha : a < M) (hx : x < M) (hjump : jump ≤ M) (h : InCyclicInterval a ((a + jump) % M) x) :
    cyclicDist M a x < jump := by
  have hmod : (a + jump) % M = a + jump ∧ a + jump < M ∨ (a + jump) % M = a + jump - M ∧ M ≤ a + jump := by
    by_cases hlt : a + jump < M
    · exact Or.inl ⟨Nat.mod_eq_of_lt hlt, hlt⟩
    · right
      rw [Nat.mod_eq_sub_mod (by omega), Nat.mod_eq_of_lt (by omega)]
      exact ⟨rfl, by omega⟩
  unfold InCyclicInterval at h
  unfold cyclicDist
  split_ifs at h ⊢ <;> omega

lemma mem_take_of_measure {f : Nat → Nat} (hl : l.Pairwise fun y z => f y < f z) (hx : x ∈ l) (hlt : f x < jump) :
    x ∈ l.take jump := by
  obtain ⟨before, after, rfl⟩ := List.append_of_mem hx
  have hpair := List.pairwise_append.mp hl
  have hsorted : (before.map f).Pairwise (· < ·) := List.pairwise_map.mpr hpair.1
  have hlen : (before.map f).length ≤ f x - 0 := by
    apply length_le_of_mem_range (hsorted.imp fun h => Nat.ne_of_lt h)
    intro m hm
    obtain ⟨y, hy, rfl⟩ := List.mem_map.mp hm
    exact ⟨Nat.zero_le _, hpair.2.2 y hy x List.mem_cons_self⟩
  rw [List.length_map] at hlen
  rw [List.take_append, List.take_of_length_le (by omega)]
  apply List.mem_append_right
  rw [show jump - before.length = jump - before.length - 1 + 1 by omega, List.take_succ_cons]
  exact List.mem_cons_self

lemma take_rotate_succ {α : Type} {l : List α} {k n : Nat} (hk : k < l.length) (hn : n + 1 ≤ l.length) :
    (l.rotate k).take (n + 1) = l[k] :: (l.rotate (k + 1)).take n := by
  rw [List.rotate_eq_drop_append_take (Nat.le_of_lt hk), List.rotate_eq_drop_append_take hk,
    List.drop_eq_getElem_cons hk, List.cons_append, List.take_succ_cons]
  congr 1
  rw [List.take_succ_eq_append_getElem hk, ← List.append_assoc]
  have hlen : n ≤ (l.drop (k + 1) ++ l.take k).length := by
    rw [List.length_append, List.length_drop, List.length_take]
    omega
  exact (List.take_append_of_le_length hlen).symm

end Order

namespace SliceUeRepository

variable (r : SliceUeRepository)

def idxMod : Nat := r.ueAt (r.size - 1) + 1

def orderFrom (offset : Nat) : List Nat := r.ueIndexes.rotate (r.lowerBound offset)

lemma length_orderFrom (offset : Nat) : (r.orderFrom offset).length = r.size := List.length_rotate _ _

lemma mem_orderFrom {offset ue : Nat} : ue ∈ r.orderFrom offset ↔ ue ∈ r.ueIndexes := List.mem_rotate

lemma lowerBound_le (offset : Nat) : r.lowerBound offset ≤ r.size := List.findIdx_le_length

lemma ueAt_of_lt {it : Nat} (h : it < r.ueIndexes.length) : r.ueAt it = r.ueIndexes[it] := by
  unfold ueAt
  rw [List.getD_eq_getElem?_getD, List.getElem?_eq_getElem h]
  rfl

lemma lt_idxMod {ue : Nat} (h : ue ∈ r.ueIndexes) : ue < r.idxMod := by
  obtain ⟨k, hk, rfl⟩ := List.mem_iff_getElem.mp h
  unfold idxMod
  rw [r.ueAt_of_lt (show r.size - 1 < r.ueIndexes.length by unfold size; omega)]
  by_cases hlast : k = r.ueIndexes.length - 1
  · subst hlast
    exact Nat.lt_succ_self _
  · have := List.pairwise_iff_getElem.mp r.sorted k (r.ueIndexes.length - 1) hk (by omega) (by omega)
    exact Nat.lt_succ_of_lt this

lemma size_le_idxMod : r.size ≤ r.idxMod :=
  length_le_of_mem_range (r.sorted.imp fun h => Nat.ne_of_lt h) fun _ hx => ⟨Nat.zero_le _, r.lt_idxMod hx⟩

lemma lowerBound_spec (offset : Nat) :
    (∀ x ∈ r.ueIndexes.drop (r.lowerBound offset), offset ≤ x) ∧ ∀ x ∈ r.ueIndexes.take (r.lowerBound offset), x < offset := by
  constructor
  · intro x hx
    obtain ⟨k, hk, rfl⟩ := List.mem_iff_getElem.mp hx
    rw [List.length_drop] at hk
    rw [List.getElem_drop]
    have hfirst : offset ≤ r.ueIndexes[r.lowerBound offset] := by
      have hlt : r.ueIndexes.findIdx (fun i => decide (offset ≤ i)) < r.ueIndexes.length := by
        change r.lowerBound offset < _
        omega
      have hfound := List.findIdx_getElem (w := hlt)
      exact of_decide_eq_true hfound
    by_cases hzero : k = 0
    · subst hzero
      exact hfirst
    · have := List.pairwise_iff_getElem.mp r.sorted (r.lowerBound offset) (r.lowerBound offset + k) (by omega) (by omega)
        (by omega)
      omega
  · intro x hx
    obtain ⟨k, hk, rfl⟩ := List.mem_iff_getElem.mp hx
    rw [List.length_take] at hk
    rw [List.getElem_take]
    have hnot := List.not_of_lt_findIdx (show k < r.lowerBound offset by omega)
    simpa using hnot

lemma orderFrom_pairwise {offset : Nat} (h : offset < r.idxMod) :
    (r.orderFrom offset).Pairwise fun y z => cyclicDist r.idxMod offset y < cyclicDist r.idxMod offset z := by
  obtain ⟨hbehind, hbefore⟩ := r.lowerBound_spec offset
  unfold orderFrom
  rw [List.rotate_eq_drop_append_take (r.lowerBound_le offset), List.pairwise_append]
  refine ⟨?_, ?_, ?_⟩
  · refine (r.sorted.sublist (List.drop_sublist _ _)).imp_of_mem fun hy hz hlt => ?_
    have := hbehind _ hy
    have := hbehind _ hz
    unfold cyclicDist
    split_ifs
    omega
  · refine (r.sorted.sublist (List.take_sublist _ _)).imp_of_mem fun hy hz hlt => ?_
    have := hbefore _ hy
    have := hbefore _ hz
    unfold cyclicDist
    split_ifs <;> omega
  · intro y hy z hz
    have := hbehind y hy
    have := hbefore z hz
    have := r.lt_idxMod (List.mem_of_mem_drop hy)
    unfold cyclicDist
    split_ifs <;> omega

end SliceUeRepository

section Walk

variable (isCandidate : Nat → Bool) (groupSize : Nat)

def scanGroup (isCandidate : Nat → Bool) (groupSize : Nat) : List Nat → GroupWalk → GroupWalk
  | [], w => w
  | ue :: ues, w =>
    if isCandidate ue then
      let w := (w.visit ue).accept ue
      if groupSize ≤ w.candidates.length then w else scanGroup isCandidate groupSize ues w
    else scanGroup isCandidate groupSize ues (w.visit ue)

lemma walkGroup_eq_scan (r : SliceUeRepository) {left it : Nat} (hleft : left ≤ r.size) (hit : it ≤ r.size) (w : GroupWalk) :
    walkGroup r isCandidate groupSize left it w =
      scanGroup isCandidate groupSize ((r.ueIndexes.rotate it).take left) w := by
  induction left generalizing it w with
  | zero => simp [walkGroup, scanGroup]
  | succ left ih =>
    have hnext : ∃ k < r.ueIndexes.length, (if it = r.size then 0 else it) = k ∧
        r.ueIndexes.rotate it = r.ueIndexes.rotate k := by
      by_cases hend : it = r.size
      · refine ⟨0, Nat.lt_of_lt_of_le (Nat.succ_pos left) hleft, if_pos hend, ?_⟩
        rw [hend, List.rotate_zero]
        exact List.rotate_length _
      · exact ⟨it, Nat.lt_of_le_of_ne hit hend, if_neg hend, rfl⟩
    obtain ⟨k, hk, hpos, hrotate⟩ := hnext
    rw [hrotate, take_rotate_succ hk hleft]
    unfold walkGroup scanGroup
    simp only [hpos, r.ueAt_of_lt hk]
    rw [ih (Nat.le_of_succ_le hleft) hk, ih (Nat.le_of_succ_le hleft) hk]

/-- What a walk leaves behind: it has looked at the first UEs of the list, at all of them unless the last one it looked
at filled the group. -/
lemma scanGroup_spec (ues : List Nat) (w : GroupWalk) (hcount : w.candidates.length ≤ w.count)
    (hlast : w.lastCandidateCount ≤ w.count) :
    ∃ k ≤ ues.length, (scanGroup isCandidate groupSize ues w).visited = w.visited ++ ues.take k ∧
      (scanGroup isCandidate groupSize ues w).lastCandidateCount ≤ w.count + k ∧
      (k = ues.length ∨ (scanGroup isCandidate groupSize ues w).lastCandidateCount = w.count + k ∧
        groupSize ≤ w.count + k) := by
  induction ues generalizing w with
  | nil => exact ⟨0, Nat.le_refl 0, by simp [scanGroup], hlast, Or.inl rfl⟩
  | cons ue ues ih =>
    have hrest : ∀ w' : GroupWalk, w'.candidates.length ≤ w'.count → w'.lastCandidateCount ≤ w'.count →
        w'.visited = w.visited ++ [ue] → w'.count = w.count + 1 →
        scanGroup isCandidate groupSize (ue :: ues) w = scanGroup isCandidate groupSize ues w' →
        ∃ k ≤ (ue :: ues).length,
          (scanGroup isCandidate groupSize (ue :: ues) w).visited = w.visited ++ (ue :: ues).take k ∧
          (scanGroup isCandidate groupSize (ue :: ues) w).lastCandidateCount ≤ w.count + k ∧
          (k = (ue :: ues).length ∨ (scanGroup isCandidate groupSize (ue :: ues) w).lastCandidateCount = w.count + k ∧
            groupSize ≤ w.count + k) := by
      intro w' hcount' hlast' hvisited hnext heq
      obtain ⟨k, hk, hv, hle, hall⟩ := ih w' hcount' hlast'
      refine ⟨k + 1, Nat.succ_le_succ hk, ?_, ?_, ?_⟩
      · rw [heq, hv, hvisited, List.take_succ_cons, List.append_assoc]
        rfl
      · rw [heq]
        omega
      · rw [heq, List.length_cons]
        omega
    by_cases hcandidate : isCandidate ue = true
    · have hlen : ((w.visit ue).accept ue).candidates.length = w.candidates.length + 1 := by
        simp [GroupWalk.visit, GroupWalk.accept]
      by_cases hfull : groupSize ≤ ((w.visit ue).accept ue).candidates.length
      · have hstop : scanGroup isCandidate groupSize (ue :: ues) w = (w.visit ue).accept ue := by
          simp only [scanGroup, hcandidate, if_true, if_pos hfull]
        refine ⟨1, Nat.succ_le_succ (Nat.zero_le _), ?_, ?_, Or.inr ⟨?_, by omega⟩⟩
        · rw [hstop]
          rfl
        · rw [hstop]
          exact Nat.le_refl _
        · rw [hstop]
          rfl
      · apply hrest ((w.visit ue).accept ue)
        · rw [hlen]
          exact Nat.succ_le_succ hcount
        · exact Nat.le_refl _
        · rfl
        · rfl
        · simp only [scanGroup, hcandidate, if_true, if_neg hfull]
    · apply hrest (w.visit ue)
      · exact Nat.le_succ_of_le hcount
      · exact Nat.le_succ_of_le hlast
      · rfl
      · rfl
      · simp only [scanGroup, hcandidate, if_false, Bool.false_eq_true]

end Walk

namespace SliceUeGroupScheduler

variable (groupSize : Nat) (r : SliceUeRepository)

def next (s : SliceUeGroupScheduler) (call : GroupCall) : SliceUeGroupScheduler := (fillUeCandidateGroup groupSize r s call).1

def visited (s : SliceUeGroupScheduler) (call : GroupCall) : List Nat := (fillUeCandidateGroup groupSize r s call).2.visited

def after (s : SliceUeGroupScheduler) (calls : List GroupCall) : SliceUeGroupScheduler := calls.foldl (next groupSize r) s

def examined (isDl : Bool) : SliceUeGroupScheduler → List GroupCall → List Nat
  | _, [] => []
  | s, call :: calls =>
    (if call.isDl = isDl then visited groupSize r s call else []) ++ examined isDl (next groupSize r s call) calls

def ueCount (s : SliceUeGroupScheduler) (isDl : Bool) : Nat := if isDl then s.maxDlUeCount else s.maxUlUeCount

variable {groupSize r} {s : SliceUeGroupScheduler} {call : GroupCall} {calls : List GroupCall} {isDl : Bool} {sfn : Nat}

@[simp] lemma saveCount_groupOffset (n : Nat) : (s.saveCount isDl n).groupOffset = s.groupOffset := by
  cases isDl <;> rfl

@[simp] lemma saveCount_lastPdcchTx (n : Nat) : (s.saveCount isDl n).lastPdcchTx = s.lastPdcchTx := by
  cases isDl <;> rfl

lemma ueCount_saveCount_self (n : Nat) : (s.saveCount isDl n).ueCount isDl = max (s.ueCount isDl) n := by
  cases isDl <;> rfl

lemma ueCount_saveCount_ne {other : Bool} (h : isDl ≠ other) (n : Nat) :
    (s.saveCount isDl n).ueCount other = s.ueCount other := by
  cases isDl <;> cases other <;> first | rfl | exact absurd rfl h

@[simp] lemma updateOffset_lastPdcchTx (pdcchSlot : SlotPoint) :
    (s.updateOffset groupSize r pdcchSlot).lastPdcchTx = pdcchSlot := by
  unfold updateOffset
  split_ifs <;> rfl

lemma next_lastPdcchTx : (next groupSize r s call).lastPdcchTx = call.pdcchSlot := by
  unfold next fillUeCandidateGroup
  simp

lemma updateOffset_of_same (hbig : groupSize < r.size) (h : ¬ s.EntersFrame call.pdcchSlot.sfn) :
    s.updateOffset groupSize r call.pdcchSlot = { s with lastPdcchTx := call.pdcchSlot } := by
  unfold updateOffset
  rw [if_pos hbig, if_neg h]

lemma fill_updateOffset (hbig : groupSize < r.size) (call : GroupCall) :
    fillUeCandidateGroup groupSize r (s.updateOffset groupSize r call.pdcchSlot) call =
      fillUeCandidateGroup groupSize r s call := by
  have hsame : ¬ (s.updateOffset groupSize r call.pdcchSlot).EntersFrame call.pdcchSlot.sfn := by
    unfold EntersFrame
    rw [updateOffset_lastPdcchTx, not_or, not_not, not_not]
    exact ⟨call.valid, rfl⟩
  have hid : (s.updateOffset groupSize r call.pdcchSlot).updateOffset groupSize r call.pdcchSlot =
      s.updateOffset groupSize r call.pdcchSlot := by
    rw [updateOffset_of_same hbig hsame]
    calc { s.updateOffset groupSize r call.pdcchSlot with lastPdcchTx := call.pdcchSlot }
      _ = { s.updateOffset groupSize r call.pdcchSlot with
            lastPdcchTx := (s.updateOffset groupSize r call.pdcchSlot).lastPdcchTx } := by
          rw [updateOffset_lastPdcchTx]
      _ = s.updateOffset groupSize r call.pdcchSlot := rfl
  unfold fillUeCandidateGroup
  rw [hid]

lemma visited_spec (groupSize : Nat) (r : SliceUeRepository) (s : SliceUeGroupScheduler) (call : GroupCall) :
    ∃ k ≤ r.size, ∃ n ≤ k,
      visited groupSize r s call = (r.orderFrom (s.updateOffset groupSize r call.pdcchSlot).groupOffset).take k ∧
      next groupSize r s call = (s.updateOffset groupSize r call.pdcchSlot).saveCount call.isDl n ∧
      (k = r.size ∨ n = k ∧ min r.size groupSize ≤ k) := by
  let u := s.updateOffset groupSize r call.pdcchSlot
  have hwalk := walkGroup_eq_scan call.isCandidate (min r.size groupSize) r (Nat.le_refl r.size)
    (r.lowerBound_le u.groupOffset) .start
  have hwhole : (r.ueIndexes.rotate (r.lowerBound u.groupOffset)).take r.size = r.orderFrom u.groupOffset :=
    List.take_of_length_le (Nat.le_of_eq (r.length_orderFrom _))
  rw [hwhole] at hwalk
  obtain ⟨k, hk, hvisited, hle, hall⟩ := scanGroup_spec call.isCandidate (min r.size groupSize)
    (r.orderFrom u.groupOffset) .start (Nat.le_refl 0) (Nat.le_refl 0)
  rw [r.length_orderFrom] at hk hall
  rw [← hwalk] at hvisited hle hall
  have hzero : GroupWalk.start.count + k = k := Nat.zero_add k
  rw [hzero] at hle hall
  exact ⟨k, hk, _, hle, hvisited, rfl, hall⟩

lemma visited_once (groupSize : Nat) (r : SliceUeRepository) (s : SliceUeGroupScheduler) (call : GroupCall) :
    (visited groupSize r s call).Nodup ∧ (visited groupSize r s call).length ≤ r.size ∧
      ∀ ue ∈ visited groupSize r s call, ue ∈ r.ueIndexes := by
  obtain ⟨k, hk, n, -, hvisited, -, -⟩ := visited_spec groupSize r s call
  have hnodup : r.ueIndexes.Nodup := r.sorted.imp fun h => Nat.ne_of_lt h
  rw [hvisited]
  refine ⟨(List.nodup_rotate.mpr hnodup).sublist (List.take_sublist _ _), ?_, ?_⟩
  · rw [List.length_take]
    omega
  · exact fun ue hue => r.mem_orderFrom.mp (List.mem_of_mem_take hue)

section Frames

variable {groupSize : Nat} {r : SliceUeRepository} {s : SliceUeGroupScheduler} {call : GroupCall} {calls : List GroupCall}
variable {sfn : Nat}

lemma visited_covers (hbig : groupSize < r.size) (s : SliceUeGroupScheduler) (call : GroupCall) :
    ∃ n ≤ r.size, next groupSize r s call = (s.updateOffset groupSize r call.pdcchSlot).saveCount call.isDl n ∧
      ∀ ue ∈ (r.orderFrom (s.updateOffset groupSize r call.pdcchSlot).groupOffset).take (max n groupSize),
        ue ∈ visited groupSize r s call := by
  obtain ⟨k, hk, n, hn, hvisited, hnext, hall⟩ := visited_spec groupSize r s call
  refine ⟨n, Nat.le_trans hn hk, hnext, ?_⟩
  intro ue hue
  rw [hvisited]
  rcases hall with hwhole | ⟨hlast, hfull⟩
  · rw [List.take_of_length_le (by rw [r.length_orderFrom, hwhole])]
    exact List.mem_of_mem_take hue
  · rwa [show max n groupSize = k by omega] at hue

/-- The calls of a frame after its update: the offset stays, and what they look at reaches as far as they count. -/
lemma frame_covers (isDl : Bool) (hbig : groupSize < r.size) (hvalid : s.lastPdcchTx.valid) (hsfn : s.lastPdcchTx.sfn = sfn)
    (hcalls : ∀ c ∈ calls, c.pdcchSlot.sfn = sfn) :
    (after groupSize r s calls).groupOffset = s.groupOffset ∧
      (after groupSize r s calls).ueCount isDl ≤ max (s.ueCount isDl) r.size ∧
      ((after groupSize r s calls).ueCount isDl = s.ueCount isDl ∨
        ∀ ue ∈ (r.orderFrom s.groupOffset).take ((after groupSize r s calls).ueCount isDl),
          ue ∈ examined groupSize r isDl s calls) ∧
      ((∃ c ∈ calls, c.isDl = isDl) →
        ∀ ue ∈ (r.orderFrom s.groupOffset).take groupSize, ue ∈ examined groupSize r isDl s calls) := by
  induction calls generalizing s with
  | nil => exact ⟨rfl, Nat.le_max_left _ _, Or.inl rfl, fun h => by simp at h⟩
  | cons call calls ih =>
    have hsame : ¬ s.EntersFrame call.pdcchSlot.sfn := by
      unfold EntersFrame
      rw [not_or, not_not, not_not, hsfn]
      exact ⟨hvalid, (hcalls call List.mem_cons_self).symm⟩
    obtain ⟨n, hn, hnext, hcovers⟩ := visited_covers hbig s call
    rw [updateOffset_of_same hbig hsame] at hnext hcovers
    have hoffset : (next groupSize r s call).groupOffset = s.groupOffset := by
      rw [hnext, saveCount_groupOffset]
    obtain ⟨hend, hle, hgrown, hfull⟩ := ih (s := next groupSize r s call)
      (by rw [next_lastPdcchTx]; exact call.valid)
      (by rw [next_lastPdcchTx]; exact hcalls call List.mem_cons_self)
      fun c hc => hcalls c (List.mem_cons_of_mem call hc)
    rw [hoffset] at hend hgrown hfull
    have hrest : ∀ ue ∈ examined groupSize r isDl (next groupSize r s call) calls,
        ue ∈ examined groupSize r isDl s (call :: calls) := fun ue hue => List.mem_append_right _ hue
    change (after groupSize r (next groupSize r s call) calls).groupOffset = _ ∧
      (after groupSize r (next groupSize r s call) calls).ueCount isDl ≤ _ ∧
      ((after groupSize r (next groupSize r s call) calls).ueCount isDl = _ ∨
        ∀ ue ∈ List.take ((after groupSize r (next groupSize r s call) calls).ueCount isDl) _, _) ∧ _
    by_cases hdir : call.isDl = isDl
    · have hcount : (next groupSize r s call).ueCount isDl = max (s.ueCount isDl) n := by
        rw [hnext, ← hdir]
        exact ueCount_saveCount_self n
      have hthis : ∀ m ≤ max n groupSize, ∀ ue ∈ (r.orderFrom s.groupOffset).take m,
          ue ∈ examined groupSize r isDl s (call :: calls) := by
        intro m hm ue hue
        have hvisited := hcovers ue (List.take_subset_take_left _ hm hue)
        unfold examined
        rw [if_pos hdir]
        exact List.mem_append_left _ hvisited
      rw [hcount] at hle hgrown
      refine ⟨hend, by omega, ?_, fun _ => hthis groupSize (Nat.le_max_right _ _)⟩
      rcases hgrown with heq | hmore
      · rw [heq]
        by_cases hbefore : n ≤ s.ueCount isDl
        · exact Or.inl (Nat.max_eq_left hbefore)
        · right
          exact hthis _ (by omega)
      · exact Or.inr fun ue hue => hrest ue (hmore ue hue)
    · have hcount : (next groupSize r s call).ueCount isDl = s.ueCount isDl := by
        rw [hnext]
        exact ueCount_saveCount_ne hdir n
      rw [hcount] at hle hgrown
      refine ⟨hend, hle, hgrown.imp_right fun hmore ue hue => hrest ue (hmore ue hue), ?_⟩
      rintro ⟨c, hc, hcdir⟩ ue hue
      rcases List.mem_cons.mp hc with rfl | hc
      · exact absurd hcdir hdir
      · exact hrest ue (hfull ⟨c, hc, hcdir⟩ ue hue)

end Frames

end SliceUeGroupScheduler

structure GroupFrame where
  sfn : Nat
  calls : List GroupCall
  inFrame : ∀ c ∈ calls, c.pdcchSlot.sfn = sfn
  callsDl : ∃ c ∈ calls, c.isDl = true
  callsUl : ∃ c ∈ calls, c.isDl = false

lemma GroupFrame.calls_dir (f : GroupFrame) (isDl : Bool) : ∃ c ∈ f.calls, c.isDl = isDl := by
  cases isDl with
  | true => exact f.callsDl
  | false => exact f.callsUl

lemma GroupFrame.calls_eq (f : GroupFrame) : ∃ c calls, f.calls = c :: calls := by
  obtain ⟨c, hc, -⟩ := f.callsDl
  exact List.exists_cons_of_ne_nil (List.ne_nil_of_mem hc)

namespace SliceUeGroupScheduler

variable {groupSize : Nat} {r : SliceUeRepository} {s : SliceUeGroupScheduler}

lemma after_append (s : SliceUeGroupScheduler) (calls later : List GroupCall) :
    after groupSize r s (calls ++ later) = after groupSize r (after groupSize r s calls) later := List.foldl_append

lemma after_lastPdcchTx (groupSize : Nat) (r : SliceUeRepository) (f : GroupFrame) (s : SliceUeGroupScheduler) :
    (after groupSize r s f.calls).lastPdcchTx.valid ∧ (after groupSize r s f.calls).lastPdcchTx.sfn = f.sfn := by
  obtain ⟨c, calls, hcalls⟩ := f.calls_eq
  have hlast : ∃ k ∈ f.calls, (after groupSize r s f.calls).lastPdcchTx = k.pdcchSlot := by
    rw [hcalls]
    clear hcalls
    induction calls generalizing s c with
    | nil => exact ⟨c, List.mem_cons_self, next_lastPdcchTx⟩
    | cons c' calls ih =>
      obtain ⟨k, hk, hslot⟩ := ih (next groupSize r s c) c'
      exact ⟨k, List.mem_cons_of_mem c hk, hslot⟩
  obtain ⟨k, hk, hslot⟩ := hlast
  rw [hslot]
  exact ⟨k.valid, f.inFrame k hk⟩

lemma entersFrame_of_run (groupSize : Nat) (r : SliceUeRepository) {pre post : List GroupFrame} {f : GroupFrame}
    (hchain : (pre ++ f :: post).IsChain fun f g => f.sfn ≠ g.sfn)
    (hstart : ∀ g ∈ (pre ++ f :: post).head?, s.EntersFrame g.sfn) :
    (after groupSize r s (pre.flatMap GroupFrame.calls)).EntersFrame f.sfn := by
  induction pre generalizing s with
  | nil => exact hstart f rfl
  | cons g pre ih =>
    rw [List.flatMap_cons, after_append]
    rw [List.cons_append, List.isChain_cons] at hchain
    apply ih hchain.2
    intro h hh
    have hlast := after_lastPdcchTx groupSize r g s
    exact Or.inr (by rw [hlast.2]; exact hchain.1 h hh)

lemma updateOffset_of_enters (hbig : groupSize < r.size) {pdcchSlot : SlotPoint} (h : s.EntersFrame pdcchSlot.sfn) :
    s.updateOffset groupSize r pdcchSlot =
      ⟨(s.groupOffset + max (min s.maxDlUeCount s.maxUlUeCount) groupSize) % r.idxMod, pdcchSlot, 0, 0⟩ := by
  unfold updateOffset
  rw [if_pos hbig, if_pos h]
  rfl

lemma after_updateOffset (hbig : groupSize < r.size) (s : SliceUeGroupScheduler) (c : GroupCall) (calls : List GroupCall) :
    after groupSize r s (c :: calls) = after groupSize r (s.updateOffset groupSize r c.pdcchSlot) (c :: calls) := by
  change after groupSize r (next groupSize r s c) calls = after groupSize r (next groupSize r _ c) calls
  unfold next
  rw [fill_updateOffset hbig]

lemma examined_updateOffset (hbig : groupSize < r.size) (s : SliceUeGroupScheduler) (c : GroupCall)
    (calls : List GroupCall) (isDl : Bool) :
    examined groupSize r isDl s (c :: calls) =
      examined groupSize r isDl (s.updateOffset groupSize r c.pdcchSlot) (c :: calls) := by
  unfold examined visited next
  rw [fill_updateOffset hbig]

lemma frame_offset (hbig : groupSize < r.size) (f : GroupFrame) (hf : s.EntersFrame f.sfn) :
    (after groupSize r s f.calls).groupOffset =
        (s.groupOffset + max (min s.maxDlUeCount s.maxUlUeCount) groupSize) % r.idxMod ∧
      (∀ k, 0 < k → (after groupSize r s (f.calls.take k)).groupOffset = (after groupSize r s f.calls).groupOffset) ∧
      ∀ isDl, (after groupSize r s f.calls).ueCount isDl ≤ r.size ∧
        ∀ ue ∈ (r.orderFrom (after groupSize r s f.calls).groupOffset).take
            (max ((after groupSize r s f.calls).ueCount isDl) groupSize),
          ue ∈ examined groupSize r isDl s f.calls := by
  obtain ⟨c, calls, hcalls⟩ := f.calls_eq
  have hc : c.pdcchSlot.sfn = f.sfn := f.inFrame c (by rw [hcalls]; exact List.mem_cons_self)
  have hupdate := updateOffset_of_enters hbig (show s.EntersFrame c.pdcchSlot.sfn by rwa [hc])
  have hin : ∀ k, ∀ d ∈ f.calls.take k, d.pdcchSlot.sfn = f.sfn := fun k d hd => f.inFrame d (List.mem_of_mem_take hd)
  have hsfn : (s.updateOffset groupSize r c.pdcchSlot).lastPdcchTx.sfn = f.sfn := by rw [updateOffset_lastPdcchTx, hc]
  have hvalid : (s.updateOffset groupSize r c.pdcchSlot).lastPdcchTx.valid := by
    rw [updateOffset_lastPdcchTx]
    exact c.valid
  -- every prefix of the frame keeps the offset that the first call has set
  have hwithin : ∀ k, 0 < k → (after groupSize r s (f.calls.take k)).groupOffset =
      (s.groupOffset + max (min s.maxDlUeCount s.maxUlUeCount) groupSize) % r.idxMod := by
    intro k hk
    have htake : f.calls.take k = c :: calls.take (k - 1) := by
      rw [hcalls, show k = k - 1 + 1 by omega, List.take_succ_cons, Nat.add_sub_cancel]
    have hkept := (frame_covers true hbig hvalid hsfn (hin k)).1
    rw [htake] at hkept ⊢
    rw [after_updateOffset hbig, hkept, hupdate]
  have hwhole : (after groupSize r s f.calls).groupOffset =
      (s.groupOffset + max (min s.maxDlUeCount s.maxUlUeCount) groupSize) % r.idxMod := by
    have := hwithin (f.calls.length) (by rw [hcalls]; exact Nat.succ_pos _)
    rwa [List.take_length] at this
  refine ⟨hwhole, fun k hk => (hwithin k hk).trans hwhole.symm, ?_⟩
  intro isDl
  obtain ⟨-, hle, hgrown, hfull⟩ := frame_covers isDl hbig hvalid hsfn f.inFrame
  have hzero : (s.updateOffset groupSize r c.pdcchSlot).ueCount isDl = 0 := by
    rw [hupdate]
    cases isDl <;> rfl
  have hstate : after groupSize r (s.updateOffset groupSize r c.pdcchSlot) f.calls = after groupSize r s f.calls := by
    rw [hcalls, ← after_updateOffset hbig]
  have hlooks : examined groupSize r isDl (s.updateOffset groupSize r c.pdcchSlot) f.calls =
      examined groupSize r isDl s f.calls := by
    rw [hcalls, ← examined_updateOffset hbig]
  have hoffset : (s.updateOffset groupSize r c.pdcchSlot).groupOffset = (after groupSize r s f.calls).groupOffset := by
    rw [hupdate, hwhole]
  rw [hstate, hzero, hoffset, hlooks] at hgrown
  rw [hstate, hzero] at hle
  rw [hoffset, hlooks] at hfull
  refine ⟨by omega, ?_⟩
  intro ue hue
  rcases hgrown with hnone | hmore
  · rw [hnone, Nat.zero_max] at hue
    exact hfull (f.calls_dir isDl) ue hue
  · by_cases hlong : groupSize ≤ (after groupSize r s f.calls).ueCount isDl
    · rw [Nat.max_eq_left hlong] at hue
      exact hmore ue hue
    · rw [Nat.max_eq_right (by omega)] at hue
      exact hfull (f.calls_dir isDl) ue hue

/-- In the frame that it enters, the scheduler looks in each direction at the UEs that its next offset passes. -/
lemma frame_skips_nobody (hbig : groupSize < r.size) (f g : GroupFrame) (hf : s.EntersFrame f.sfn)
    (hne : f.sfn ≠ g.sfn) (isDl : Bool) {ue : Nat} (hue : ue ∈ r.ueIndexes)
    (hpassed : InCyclicInterval (after groupSize r s f.calls).groupOffset
      (after groupSize r (after groupSize r s f.calls) g.calls).groupOffset ue) :
    ue ∈ examined groupSize r isDl s f.calls := by
  have hnext : (after groupSize r s f.calls).EntersFrame g.sfn := by
    right
    rw [(after_lastPdcchTx groupSize r f s).2]
    exact hne
  obtain ⟨hold, -, hcovers⟩ := frame_offset hbig f hf
  obtain ⟨hnew, -, -⟩ := frame_offset hbig g hnext
  have hdl := (hcovers true).1
  have hul := (hcovers false).1
  change (after groupSize r s f.calls).maxDlUeCount ≤ r.size at hdl
  have hmod := r.size_le_idxMod
  have hlt : (after groupSize r s f.calls).groupOffset < r.idxMod := by
    rw [hold]
    exact Nat.mod_lt _ (by omega)
  rw [hnew] at hpassed
  have hdist := cyclicDist_lt hlt (r.lt_idxMod hue) (by omega) hpassed
  have hin := mem_take_of_measure (r.orderFrom_pairwise hlt) (r.mem_orderFrom.mpr hue) hdist
  apply (hcovers isDl).2
  refine List.take_subset_take_left _ ?_ hin
  cases isDl with
  | true =>
    change _ ≤ max (after groupSize r s f.calls).maxDlUeCount groupSize
    omega
  | false =>
    change _ ≤ max (after groupSize r s f.calls).maxUlUeCount groupSize
    omega

/-- Between two updates of the offset every UE that the offset passes has been looked at in both directions, and no call
looks at a UE twice. -/
theorem group_rotation_skips_nobody (hbig : groupSize < r.size) (frames : List GroupFrame)
    (hchain : frames.IsChain fun f g => f.sfn ≠ g.sfn) (hstart : ∀ f ∈ frames.head?, s.EntersFrame f.sfn) :
    (∀ (s : SliceUeGroupScheduler) (call : GroupCall), (visited groupSize r s call).Nodup ∧
      (visited groupSize r s call).length ≤ r.size ∧ ∀ ue ∈ visited groupSize r s call, ue ∈ r.ueIndexes) ∧
    ∀ pre f g post, frames = pre ++ f :: g :: post →
      let before := after groupSize r s (pre.flatMap GroupFrame.calls)
      let old := after groupSize r before f.calls
      let new := after groupSize r old g.calls
      (∀ k, 0 < k → (after groupSize r before (f.calls.take k)).groupOffset = old.groupOffset) ∧
        (∀ k, 0 < k → (after groupSize r old (g.calls.take k)).groupOffset = new.groupOffset) ∧
        ∀ ue ∈ r.ueIndexes, InCyclicInterval old.groupOffset new.groupOffset ue →
          ue ∈ examined groupSize r true before f.calls ∧ ue ∈ examined groupSize r false before f.calls := by
  refine ⟨visited_once groupSize r, ?_⟩
  rintro pre f g post rfl
  have hf := entersFrame_of_run groupSize r hchain hstart
  have hne : f.sfn ≠ g.sfn := by
    have htail := (List.isChain_append.mp hchain).2.1
    exact (List.isChain_cons_cons.mp htail).1
  have hg : (after groupSize r (after groupSize r s (pre.flatMap GroupFrame.calls)) f.calls).EntersFrame g.sfn := by
    right
    rw [(after_lastPdcchTx groupSize r f _).2]
    exact hne
  refine ⟨(frame_offset hbig f hf).2.1, (frame_offset hbig g hg).2.1, ?_⟩
  intro ue hue hpassed
  exact ⟨frame_skips_nobody hbig f g hf hne true hue hpassed, frame_skips_nobody hbig f g hf hne false hue hpassed⟩

def sparseUes : SliceUeRepository := ⟨[0, 2, 5], by decide⟩

/-- A frame with one call in each direction, in which all UEs have data. -/
def busyFrame (sfn : Nat) (h : sfn < NOF_SFNS) : GroupFrame where
  sfn := sfn
  calls := [⟨⟨0, 10 * sfn⟩, true, fun _ => true, Nat.succ_pos 4⟩, ⟨⟨0, 10 * sfn + 1⟩, false, fun _ => true, Nat.succ_pos 4⟩]
  inFrame := by
    unfold NOF_SFNS at h
    intro c hc
    simp only [List.mem_cons, List.not_mem_nil, or_false] at hc
    rcases hc with rfl | rfl
    · change 10 * sfn / 10 % 1024 = sfn
      omega
    · change (10 * sfn + 1) / 10 % 1024 = sfn
      omega
  callsDl := ⟨_, List.mem_cons_self, rfl⟩
  callsUl := ⟨_, List.mem_cons_of_mem _ List.mem_cons_self, rfl⟩

/-- The offset goes from 2 to 4 and passes UE 2. -/
theorem group_rotation_skips_nobody_sparse :
    2 ∈ examined 2 sparseUes true .init (busyFrame 7 (by decide)).calls ∧
      2 ∈ examined 2 sparseUes false .init (busyFrame 7 (by decide)).calls :=
  ((group_rotation_skips_nobody (show 2 < sparseUes.size by decide)
      [busyFrame 7 (by decide), busyFrame 8 (by decide)] (List.isChain_pair.mpr (by decide))
      fun f _ => Or.inl SlotPoint.not_valid_invalid).2 [] _ _ [] rfl).2.2 2 (by decide) (by decide)

end SliceUeGroupScheduler

end OwlsRan.Sched
