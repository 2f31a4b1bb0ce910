import OwlsRan.Sched.PucchHarqBits
import OwlsRan.Sched.UciAllocator
import Mathlib.Order.Interval.Finset.Nat

/-!
# Timing and order of HARQ-ACKs

A counter in the ring of the UCI allocator says how many HARQ-ACKs a UE has in a slot.
-/

namespace OwlsRan.Sched

open OwlsRan.Lib

namespace UciAllocator

variable {c : UciAllocatorCell} {s s' s'' : UciAllocator} {slot slot' rnti : Nat}

section Entries

lemma ring_pos (c : UciAllocatorCell) : 0 < c.pucch.ringAllocatorSize := Nat.lt_of_le_of_lt (Nat.zero_le _) c.ring_gt

lemma eq_of_entry_eq {first : Nat} (hslot : first ≤ slot ∧ slot < first + c.pucch.ringAllocatorSize)
    (hslot' : first ≤ slot' ∧ slot' < first + c.pucch.ringAllocatorSize) (h : entry c slot = entry c slot') :
    slot = slot' :=
  Nat.mod_injOn_Ico first c.pucch.ringAllocatorSize (Finset.coe_Ico first _ ▸ Set.mem_Ico.mpr hslot)
    (Finset.coe_Ico first _ ▸ Set.mem_Ico.mpr hslot') h

lemma entry_ne {first : Nat} (hslot : first ≤ slot ∧ slot < first + c.pucch.ringAllocatorSize)
    (hslot' : first ≤ slot' ∧ slot' < first + c.pucch.ringAllocatorSize) (h : slot ≠ slot') :
    entry c slot ≠ entry c slot' :=
  fun heq => h (eq_of_entry_eq hslot hslot' heq)

lemma counter_countHarqAck (rnti r : Nat) (l : List UeUci) :
    ((countHarqAck rnti l).find? fun uci => uci.rnti == r).elim 0 (fun uci => uci.scheduledDlPdcchCounter) =
      (l.find? fun uci => uci.rnti == r).elim 0 (fun uci => uci.scheduledDlPdcchCounter) + if r = rnti then 1 else 0 := by
  induction l with
  | nil =>
    by_cases hr : r = rnti
    · simp [countHarqAck, hr]
    · simp [countHarqAck, hr, Ne.symm hr]
  | cons uci l ih =>
    rw [countHarqAck]
    by_cases huci : uci.rnti = rnti
    · rw [if_pos huci, List.find?_cons, List.find?_cons]
      by_cases hr : r = rnti
      · simp [hr, huci]
      · have hne : uci.rnti ≠ r := fun h => hr (h.symm.trans huci)
        simp only [beq_eq_false_iff_ne.mpr hne, if_neg hr, Nat.add_zero]
    · rw [if_neg huci, List.find?_cons, List.find?_cons]
      by_cases hr : uci.rnti = r
      · have hne : r ≠ rnti := fun h => huci (hr.trans h)
        simp [hr, hne]
      · simp only [beq_eq_false_iff_ne.mpr hr]
        exact ih

lemma counter_withUcis (hentry : s'.uciAllocGrid = Function.update s.uciAllocGrid (entry c slot)
      (countHarqAck rnti (s.uciAllocGrid (entry c slot)))) (slot' r : Nat) :
    s'.getScheduledPdschCounterInUeUci c slot' r = s.getScheduledPdschCounterInUeUci c slot' r +
      if entry c slot' = entry c slot ∧ r = rnti then 1 else 0 := by
  unfold getScheduledPdschCounterInUeUci getUciAlloc
  rw [hentry]
  by_cases hslot : entry c slot' = entry c slot
  · rw [hslot, Function.update_self, counter_countHarqAck]
    simp
  · rw [Function.update_of_ne hslot]
    simp [hslot]

end Entries

section Search

variable {pdschSlot minK1 maxK1 slInc : Nat}

lemma le_getMinPdschToAckSlotDistance (hmin : minK1 ≤ slInc) (hmax : slInc ≤ maxK1)
    (h : (s.getUciAlloc c (pdschSlot + slInc) rnti).isSome = true) :
    slInc ≤ s.getMinPdschToAckSlotDistance c pdschSlot rnti minK1 maxK1 := by
  unfold getMinPdschToAckSlotDistance
  have hmem : slInc ∈ (List.range' minK1 (maxK1 + 1 - minK1)).reverse := by
    rw [List.mem_reverse, List.mem_range'_1]
    omega
  have hsorted : (List.range' minK1 (maxK1 + 1 - minK1)).reverse.Pairwise (· > ·) := by
    rw [List.pairwise_reverse]
    exact List.pairwise_lt_range'
  cases hfind : (List.range' minK1 (maxK1 + 1 - minK1)).reverse.find? fun slInc =>
      (s.getUciAlloc c (pdschSlot + slInc) rnti).isSome with
  | none => exact absurd h (List.find?_eq_none.mp hfind slInc hmem)
  | some found =>
    rw [Option.getD_some]
    obtain ⟨-, before, after, hlist, hbefore⟩ := List.find?_eq_some_iff_append.mp hfind
    rw [hlist] at hmem hsorted
    rcases List.mem_append.mp hmem with hin | hin
    · have hno := hbefore slInc hin
      rw [h] at hno
      cases hno
    · rcases List.mem_cons.mp hin with rfl | hin
      · exact Nat.le_refl _
      · have hpairs := (List.pairwise_append.mp hsorted).2.1
        exact Nat.le_of_lt (List.rel_of_pairwise_cons hpairs hin)

lemma isSome_of_counter_pos (h : 0 < s.getScheduledPdschCounterInUeUci c slot rnti) :
    (s.getUciAlloc c slot rnti).isSome = true := by
  unfold getScheduledPdschCounterInUeUci at h
  cases hfind : s.getUciAlloc c slot rnti with
  | none =>
    rw [hfind] at h
    cases h
  | some uci => rfl

end Search

section Calls

/-- The counters and the PUSCHs are the same, and no UE has lost HARQ-ACK bits on PUCCH. -/
structure Kept (s s' : UciAllocator) : Prop where
  slotTx : s'.slotTx = s.slotTx
  uciAllocGrid : s'.uciAllocGrid = s.uciAllocGrid
  puschs : s'.puschs = s.puschs
  harqBits : ∀ i, PucchSlot.HarqBitsKept (s.pucch i) (s'.pucch i)

lemma Kept.refl (s : UciAllocator) : Kept s s := ⟨rfl, rfl, rfl, fun _ _ => Nat.le_refl _⟩

lemma Kept.trans (h : Kept s s') (h' : Kept s' s'') : Kept s s'' :=
  ⟨h'.slotTx.trans h.slotTx, h'.uciAllocGrid.trans h.uciAllocGrid, h'.puschs.trans h.puschs,
    fun i r => (h.harqBits i r).trans (h'.harqBits i r)⟩

lemma kept_withPucchSlot {p : PucchSlot} (h : PucchSlot.HarqBitsKept (s.pucch (entry c slot)) p) :
    Kept s (s.withPucchSlot c slot p) := by
  refine ⟨rfl, rfl, rfl, fun i => ?_⟩
  change (s.pucch i).HarqBitsKept (Function.update s.pucch (entry c slot) p i)
  by_cases hi : i = entry c slot
  · rw [hi, Function.update_self]
    exact h
  · rw [Function.update_of_ne hi]
    exact fun _ => Nat.le_refl _

/-- The call for a HARQ-ACK is successful: it registers the HARQ-ACK in a slot without a PUSCH, and the PUCCH grants of
the UE have got a bit more. -/
structure Allocates (c : UciAllocatorCell) (req : HarqAckRequest) (minDistance : Nat) (s s' : UciAllocator) (res : UciAllocation) :
    Prop where
  k1_mem : res.k1 ∈ req.k1List
  distance_le : minDistance ≤ res.k1
  noPusch : s.puschs (s.uciSlot req c res.k1) = []
  harqBitIdx : res.harqBitIdx = s.getScheduledPdschCounterInUeUci c (s.uciSlot req c res.k1) req.rnti % 2 ^ 8
  slotTx : s'.slotTx = s.slotTx
  puschs : s'.puschs = s.puschs
  uciAllocGrid : s'.uciAllocGrid = Function.update s.uciAllocGrid (entry c (s.uciSlot req c res.k1))
    (countHarqAck req.rnti (s.uciAllocGrid (entry c (s.uciSlot req c res.k1))))
  harqBits : ∀ i, PucchSlot.HarqBitsKept (s.pucch i) (s'.pucch i)
  harqBits_lt : (s.pucch (entry c (s.uciSlot req c res.k1))).harqBits req.rnti + 1 ≤
    (s'.pucch (entry c (s.uciSlot req c res.k1))).harqBits req.rnti

section Loop

variable {ue : UciUeCellConfiguration c} {req : HarqAckRequest} {ul : Nat → UlSlotContext} {minDistance : Nat}
  {out : Option UciAllocation × UciAllocator} {k1s : List Nat}

lemma puschs_of_isCandidate {k1 : Nat} (h : s.isCandidate ue req ul minDistance k1 ≠ false) :
    minDistance ≤ k1 ∧ s.puschs (s.uciSlot req c k1) = [] := by
  have htrue := Bool.eq_true_of_not_eq_false h
  unfold isCandidate at htrue
  simp only [Bool.and_eq_true, decide_eq_true_eq] at htrue
  have hempty := htrue.1.1.1.1.2
  rw [List.isEmpty_iff, ulContext, List.append_eq_nil_iff] at hempty
  exact ⟨htrue.1.1.1.1.1, List.map_eq_nil_iff.mp hempty.1⟩

lemma Allocates.of_kept {res : UciAllocation} (h : Allocates c req minDistance s' s'' res) (hk : Kept s s') :
    Allocates c req minDistance s s'' res := by
  have hslot : s'.uciSlot req c res.k1 = s.uciSlot req c res.k1 := by rw [uciSlot, uciSlot, pdschSlot, pdschSlot, hk.slotTx]
  have hcounter (slot : Nat) : s'.getScheduledPdschCounterInUeUci c slot req.rnti =
      s.getScheduledPdschCounterInUeUci c slot req.rnti := by
    unfold getScheduledPdschCounterInUeUci getUciAlloc
    rw [hk.uciAllocGrid]
  refine ⟨h.k1_mem, h.distance_le, ?_, ?_, h.slotTx.trans hk.slotTx, h.puschs.trans hk.puschs, ?_,
    fun i r => (hk.harqBits i r).trans (h.harqBits i r), ?_⟩
  · rw [← hk.puschs, ← hslot]
    exact h.noPusch
  · rw [← hcounter, ← hslot]
    exact h.harqBitIdx
  · rw [← hk.uciAllocGrid, ← hslot]
    exact h.uciAllocGrid
  · rw [← hslot]
    exact (Nat.add_le_add_right (hk.harqBits _ req.rnti) 1).trans h.harqBits_lt

lemma allocHarqAckLoop_spec (hmem : ∀ k1 ∈ k1s, k1 ∈ req.k1List)
    (h : s.allocHarqAckLoop ue req ul minDistance k1s = .ok out) :
    (out.1 = none ∧ Kept s out.2) ∨ ∃ res, out.1 = some res ∧ Allocates c req minDistance s out.2 res := by
  induction k1s generalizing s with
  | nil =>
    cases h
    exact .inl ⟨rfl, .refl s⟩
  | cons k1 k1s ih =>
    have hrest := fun k hk => hmem k (List.mem_cons_of_mem k1 hk)
    rw [allocHarqAckLoop] at h
    split at h
    case isTrue => exact ih hrest h
    case isFalse hcandidate =>
      obtain ⟨ack, hack, h⟩ := bind_eq_ok.mp h
      have hbits := PucchSlot.allocDedHarqAck_harqBits hack
      have hkept : Kept s (s.withPucchSlot c (s.uciSlot req c k1) ack.2) := kept_withPucchSlot hbits.1
      split at h
      case h_1 =>
        rcases ih hrest h with ⟨hnone, hout⟩ | ⟨res, hres, hout⟩
        · exact .inl ⟨hnone, hkept.trans hout⟩
        · exact .inr ⟨res, hres, hout.of_kept hkept⟩
      case h_2 pucchResIndicator hsome =>
        cases h
        obtain ⟨hdistance, hpusch⟩ := puschs_of_isCandidate hcandidate
        refine .inr ⟨_, rfl, hmem k1 List.mem_cons_self, hdistance, hpusch, rfl, rfl, rfl, rfl, hkept.harqBits, ?_⟩
        change _ ≤ (Function.update s.pucch (entry c (s.uciSlot req c k1)) ack.2 _).harqBits req.rnti
        rw [register, Function.update_self]
        exact hbits.2 (hsome ▸ Option.some_ne_none _)

end Loop

lemma uciSlot_mem (req : HarqAckRequest) {k1 : Nat} (h : k1 ∈ req.k1List) :
    s.slotTx ≤ s.uciSlot req c k1 ∧ s.uciSlot req c k1 < s.slotTx + c.pucch.ringAllocatorSize := by
  have hk0 := req.k0_le
  have hk1 := req.k1_le k1 h
  have hring := c.ring_gt
  unfold getMaxSlotUlAllocDelay at hring
  unfold uciSlot pdschSlot
  omega

end Calls

end UciAllocator

namespace UciAllocatorRun

open UciAllocator (entry)

variable {c : UciAllocatorCell} {ues : Nat → UciUeCellConfiguration c} {r r' : UciAllocatorRun}

def acksOf (r : UciAllocatorRun) (rnti slot : Nat) : List HarqAckRecord :=
  r.acks.filter fun a => a.rnti == rnti && a.uciSlot == slot

/-- The PUCCH grants of a UE carry a number of HARQ-ACK bits, or a PUSCH to which they were moved does. -/
def Carries (c : UciAllocatorCell) (r : UciAllocatorRun) (rnti slot n : Nat) : Prop :=
  n ≤ (r.alloc.pucch (entry c slot)).harqBits rnti ∨
    ∃ pusch ∈ r.alloc.puschs slot, pusch.rnti = rnti ∧ n ≤ pusch.harqAckNofBits

/-- No HARQ-ACK overtakes that of a PDSCH in an earlier slot. The HARQ-ACKs of a UE in a slot have the indices 0, 1, 2 and
so on, and those of the slots to come have a bit each. -/
structure HarqAckTiming (c : UciAllocatorCell) (r : UciAllocatorRun) : Prop where
  inOrder : r.acks.Pairwise fun a b => a.rnti = b.rnti → a.pdschSlot < b.pdschSlot → a.uciSlot ≤ b.uciSlot
  indices : ∀ rnti slot, (r.acksOf rnti slot).map HarqAckRecord.harqBitIdx = List.range (r.acksOf rnti slot).length
  carried : ∀ rnti slot, r.alloc.slotTx ≤ slot → r.Carries c rnti slot (r.acksOf rnti slot).length

structure Inv (c : UciAllocatorCell) (r : UciAllocatorRun) : Prop extends HarqAckTiming c r where
  uciSlot_lt : ∀ a ∈ r.acks, a.uciSlot < r.alloc.slotTx + c.pucch.ringAllocatorSize
  counter : ∀ rnti slot, r.alloc.slotTx ≤ slot → slot < r.alloc.slotTx + c.pucch.ringAllocatorSize →
    r.alloc.getScheduledPdschCounterInUeUci c slot rnti = (r.acksOf rnti slot).length

/-- Every HARQ-ACK of a PDSCH before the one to be acknowledged is in the window of the search, or not after the first
candidate. -/
def SearchSeesLastAck (c : UciAllocatorCell) (r : UciAllocatorRun) (req : HarqAckRequest) : Prop :=
  ∀ a ∈ r.acks, a.rnti = req.rnti → a.pdschSlot < r.alloc.pdschSlot req →
    a.uciSlot ≤ r.alloc.pdschSlot req + req.maxK1 ∨ a.uciSlot ≤ r.alloc.pdschSlot req + req.minK1 + c.ntnCsKoffset

def HasIndexLeft (c : UciAllocatorCell) (r : UciAllocatorRun) (req : HarqAckRequest) : Prop :=
  ∀ k1 ∈ req.k1List, (r.acksOf req.rnti (r.alloc.uciSlot req c k1)).length < 2 ^ 8

def Timely (c : UciAllocatorCell) (r : UciAllocatorRun) : UciAllocatorEvent → Prop
  | .allocHarqAck req _ => r.SearchSeesLastAck c req ∧ r.HasIndexLeft c req
  | _ => True

instance (c : UciAllocatorCell) (r : UciAllocatorRun) (req : HarqAckRequest) : Decidable (r.SearchSeesLastAck c req) :=
  inferInstanceAs (Decidable (∀ a ∈ r.acks, _))

instance (c : UciAllocatorCell) (r : UciAllocatorRun) (req : HarqAckRequest) : Decidable (r.HasIndexLeft c req) :=
  inferInstanceAs (Decidable (∀ k1 ∈ req.k1List, _))

instance (c : UciAllocatorCell) (r : UciAllocatorRun) : (e : UciAllocatorEvent) → Decidable (r.Timely c e)
  | .allocHarqAck _ _ => inferInstanceAs (Decidable (_ ∧ _))
  | .slotIndication | .allocPucch .. | .multiplexUciOnPusch .. | .removeSrPucch .. => isTrue trivial

section Slots

variable {rnti slot : Nat}

lemma acksOf_eq_nil (hlt : ∀ a ∈ r.acks, a.uciSlot < r.alloc.slotTx + c.pucch.ringAllocatorSize)
    (h : r.alloc.slotTx + c.pucch.ringAllocatorSize ≤ slot) : r.acksOf rnti slot = [] := by
  unfold acksOf
  rw [List.filter_eq_nil_iff]
  intro a ha hslot
  simp only [Bool.and_eq_true, beq_iff_eq] at hslot
  have := hlt a ha
  omega

lemma mem_acksOf {a : HarqAckRecord} (ha : a ∈ r.acks) : a ∈ r.acksOf a.rnti a.uciSlot := by
  unfold acksOf
  rw [List.mem_filter]
  simp [ha]

lemma carries_zero (c : UciAllocatorCell) (r : UciAllocatorRun) (rnti slot : Nat) : r.Carries c rnti slot 0 := .inl (Nat.zero_le _)

end Slots

section Steps

lemma Inv.of_kept (h : Inv c r) (hk : r.alloc.Kept r'.alloc) (hacks : r'.acks = r.acks) : Inv c r' := by
  have hof (rnti slot : Nat) : r'.acksOf rnti slot = r.acksOf rnti slot := by rw [acksOf, acksOf, hacks]
  refine ⟨⟨?_, ?_, ?_⟩, ?_, ?_⟩
  · rw [hacks]
    exact h.inOrder
  · intro rnti slot
    rw [hof]
    exact h.indices rnti slot
  · intro rnti slot hslot
    rw [hof]
    rw [hk.slotTx] at hslot
    rcases h.carried rnti slot hslot with hbits | hpusch
    · exact .inl (hbits.trans (hk.harqBits _ rnti))
    · unfold Carries
      rw [hk.puschs]
      exact .inr hpusch
  · rw [hacks, hk.slotTx]
    exact h.uciSlot_lt
  · intro rnti slot
    rw [hof, hk.slotTx]
    unfold UciAllocator.getScheduledPdschCounterInUeUci UciAllocator.getUciAlloc
    rw [hk.uciAllocGrid]
    exact h.counter rnti slot

lemma Inv.slotIndication (h : Inv c r) : Inv c (r.withAlloc (r.alloc.slotIndication c)) := by
  refine ⟨⟨h.inOrder, h.indices, ?_⟩, ?_, ?_⟩
  · intro rnti slot hslot
    change r.alloc.slotTx + 1 ≤ slot at hslot
    change Carries c _ rnti slot (r.acksOf rnti slot).length
    by_cases hfar : r.alloc.slotTx + c.pucch.ringAllocatorSize ≤ slot
    · rw [acksOf_eq_nil h.uciSlot_lt hfar]
      exact carries_zero c _ rnti slot
    · have hentry : entry c slot ≠ entry c r.alloc.slotTx :=
        UciAllocator.entry_ne ⟨Nat.le_of_lt hslot, Nat.lt_of_not_le hfar⟩
          ⟨Nat.le_refl _, Nat.lt_add_of_pos_right (UciAllocator.ring_pos c)⟩ (by omega)
      rcases h.carried rnti slot (Nat.le_of_lt hslot) with hbits | hpusch
      · apply Or.inl
        change _ ≤ (Function.update r.alloc.pucch (entry c r.alloc.slotTx) .empty (entry c slot)).harqBits rnti
        rw [Function.update_of_ne hentry]
        exact hbits
      · exact .inr hpusch
  · intro a ha
    exact (h.uciSlot_lt a ha).trans (Nat.add_lt_add_right (Nat.lt_succ_self _) _)
  · intro rnti slot hslot hlt
    change r.alloc.slotTx + 1 ≤ slot at hslot
    change slot < r.alloc.slotTx + 1 + c.pucch.ringAllocatorSize at hlt
    change _ = (r.acksOf rnti slot).length
    unfold UciAllocator.getScheduledPdschCounterInUeUci UciAllocator.getUciAlloc
    change ((Function.update r.alloc.uciAllocGrid (entry c r.alloc.slotTx) [] (entry c slot)).find? _).elim 0 _ = _
    by_cases hfar : r.alloc.slotTx + c.pucch.ringAllocatorSize ≤ slot
    · have heq : slot = r.alloc.slotTx + c.pucch.ringAllocatorSize := by omega
      have hentry : entry c slot = entry c r.alloc.slotTx := by
        rw [heq, entry, entry, Nat.add_mod_right]
      rw [hentry, Function.update_self, acksOf_eq_nil h.uciSlot_lt hfar]
      rfl
    · have hentry : entry c slot ≠ entry c r.alloc.slotTx :=
        UciAllocator.entry_ne ⟨Nat.le_of_lt hslot, Nat.lt_of_not_le hfar⟩
          ⟨Nat.le_refl _, Nat.lt_add_of_pos_right (UciAllocator.ring_pos c)⟩ (by omega)
      rw [Function.update_of_ne hentry]
      exact h.counter rnti slot (Nat.le_of_lt hslot) (Nat.lt_of_not_le hfar)

section Allocation

variable {req : HarqAckRequest} {alloc : UciAllocator} {res : UciAllocation} {minDistance : Nat}

def allocated (c : UciAllocatorCell) (r : UciAllocatorRun) (req : HarqAckRequest) (alloc : UciAllocator) (res : UciAllocation) :
    UciAllocatorRun :=
  ⟨alloc, r.acks ++ [r.recordOf c req res]⟩

lemma acksOf_allocated (rnti slot : Nat) : (r.allocated c req alloc res).acksOf rnti slot = r.acksOf rnti slot ++
    if rnti = req.rnti ∧ slot = r.alloc.uciSlot req c res.k1 then [r.recordOf c req res] else [] := by
  unfold acksOf allocated
  rw [List.filter_append, List.append_cancel_left_eq]
  by_cases hrnti : rnti = req.rnti
  · by_cases hslot : slot = r.alloc.uciSlot req c res.k1
    · simp [recordOf, hrnti, hslot]
    · simp [recordOf, hslot, Ne.symm hslot]
  · simp [recordOf, hrnti, Ne.symm hrnti]

lemma uciSlot_le_of_search (h : Inv c r) (hsees : r.SearchSeesLastAck c req) (hk1 : res.k1 ∈ req.k1List)
    (hdistance : r.alloc.getMinPdschToAckSlotDistance c (r.alloc.pdschSlot req) req.rnti req.minK1 req.maxK1 ≤ res.k1)
    {a : HarqAckRecord} (ha : a ∈ r.acks) (hrnti : a.rnti = req.rnti) (hlt : a.pdschSlot < r.alloc.pdschSlot req) :
    a.uciSlot ≤ r.alloc.uciSlot req c res.k1 := by
  have hmin : req.minK1 ≤ res.k1 := List.min?_getD_le_of_mem hk1
  unfold UciAllocator.uciSlot
  by_cases hfirst : a.uciSlot ≤ r.alloc.pdschSlot req + req.minK1 + c.ntnCsKoffset
  · omega
  · have hlast := (hsees a ha hrnti hlt).resolve_right hfirst
    -- The HARQ-ACK is in the window, with a distance from the PDSCH.
    obtain ⟨slInc, hslInc⟩ := Nat.exists_eq_add_of_le (Nat.le_of_lt (Nat.lt_of_not_le hfirst))
    have hslot : a.uciSlot = r.alloc.pdschSlot req + (req.minK1 + c.ntnCsKoffset + slInc) := by omega
    have hcounter := h.counter a.rnti a.uciSlot (by unfold UciAllocator.pdschSlot at hslot; omega) (h.uciSlot_lt a ha)
    have hsome : 0 < r.alloc.getScheduledPdschCounterInUeUci c a.uciSlot a.rnti := by
      rw [hcounter]
      exact List.length_pos_of_mem (mem_acksOf ha)
    rw [hslot, hrnti] at hsome
    have hle : req.minK1 + c.ntnCsKoffset + slInc ≤
        r.alloc.getMinPdschToAckSlotDistance c (r.alloc.pdschSlot req) req.rnti req.minK1 req.maxK1 :=
      UciAllocator.le_getMinPdschToAckSlotDistance (by omega) (by omega) (UciAllocator.isSome_of_counter_pos hsome)
    omega

lemma Inv.allocated (h : Inv c r) (hsees : r.SearchSeesLastAck c req) (hleft : r.HasIndexLeft c req)
    (hmin : minDistance = r.alloc.getMinPdschToAckSlotDistance c (r.alloc.pdschSlot req) req.rnti req.minK1 req.maxK1)
    (ha : r.alloc.Allocates c req minDistance alloc res) : Inv c (r.allocated c req alloc res) := by
  have hslot := r.alloc.uciSlot_mem (c := c) req ha.k1_mem
  have hcounter := h.counter req.rnti _ hslot.1 hslot.2
  refine ⟨⟨?_, ?_, ?_⟩, ?_, ?_⟩
  · unfold UciAllocatorRun.allocated
    rw [List.pairwise_append]
    refine ⟨h.inOrder, List.pairwise_singleton _ _, ?_⟩
    intro a hmem b hb hrnti hlt
    rw [List.mem_singleton] at hb
    subst hb
    exact uciSlot_le_of_search h hsees ha.k1_mem (hmin ▸ ha.distance_le) hmem hrnti hlt
  · intro rnti slot
    rw [acksOf_allocated]
    split
    case isTrue heq =>
      obtain ⟨rfl, rfl⟩ := heq
      have hidx : (r.recordOf c req res).harqBitIdx = (r.acksOf req.rnti (r.alloc.uciSlot req c res.k1)).length := by
        change res.harqBitIdx = _
        rw [ha.harqBitIdx, hcounter, Nat.mod_eq_of_lt (hleft res.k1 ha.k1_mem)]
      rw [List.map_append, h.indices, List.length_append, List.map_singleton, hidx, List.length_singleton, List.range_succ]
    case isFalse =>
      rw [List.append_nil]
      exact h.indices rnti slot
  · intro rnti slot hle
    change alloc.slotTx ≤ slot at hle
    rw [ha.slotTx] at hle
    rw [acksOf_allocated]
    split
    case isTrue heq =>
      obtain ⟨rfl, rfl⟩ := heq
      rw [List.length_append, List.length_singleton]
      rcases h.carried req.rnti _ hle with hbits | ⟨pusch, hpusch, -⟩
      · exact .inl ((Nat.add_le_add_right hbits 1).trans ha.harqBits_lt)
      · rw [ha.noPusch] at hpusch
        cases hpusch
    case isFalse =>
      rw [List.append_nil]
      rcases h.carried rnti slot hle with hbits | hpusch
      · exact .inl (hbits.trans (ha.harqBits _ rnti))
      · unfold Carries
        change _ ∨ ∃ pusch ∈ alloc.puschs slot, _
        rw [ha.puschs]
        exact .inr hpusch
  · intro a hmem
    change a.uciSlot < alloc.slotTx + _
    rw [ha.slotTx]
    rcases List.mem_append.mp hmem with hold | hnew
    · exact h.uciSlot_lt a hold
    · rw [List.mem_singleton.mp hnew]
      exact hslot.2
  · intro rnti slot hle hlt
    change alloc.slotTx ≤ slot at hle
    change slot < alloc.slotTx + _ at hlt
    rw [ha.slotTx] at hle hlt
    change alloc.getScheduledPdschCounterInUeUci c slot rnti = _
    rw [UciAllocator.counter_withUcis ha.uciAllocGrid, h.counter rnti slot hle hlt, acksOf_allocated, List.length_append]
    have hentry : entry c slot = entry c (r.alloc.uciSlot req c res.k1) ↔ slot = r.alloc.uciSlot req c res.k1 :=
      ⟨UciAllocator.eq_of_entry_eq ⟨hle, hlt⟩ hslot, congrArg (entry c)⟩
    simp only [hentry, and_comm]
    split
    · rfl
    · rfl

end Allocation

lemma gridSlot_ok {slotDelay slot : Nat} (h : r.gridSlot c slotDelay = .ok slot) :
    r.alloc.slotTx ≤ slot ∧ slot < r.alloc.slotTx + c.pucch.ringAllocatorSize := by
  unfold gridSlot at h
  split at h
  case isTrue => cases h
  case isFalse hle =>
    obtain rfl := Except.ok.inj h
    have hring := c.ring_gt
    exact ⟨Nat.le_add_right _ _, Nat.add_lt_add_left (by omega) _⟩

section Removal

variable {rnti slot : Nat} {grant : GrantInfo}

lemma harqBits_withRemoved (ue : UciUeCellConfiguration c) (p : Nat → PucchSlot) {rnti' slot' first : Nat}
    (hslot : first ≤ slot ∧ slot < first + c.pucch.ringAllocatorSize)
    (hslot' : first ≤ slot' ∧ slot' < first + c.pucch.ringAllocatorSize) (hne : ¬(rnti' = rnti ∧ slot' = slot)) :
    (Function.update p (entry c slot) (PucchSlot.removeUeUciFromPucch (p (entry c slot)) ue.pucch rnti).2
      (entry c slot')).harqBits rnti' = (p (entry c slot')).harqBits rnti' := by
  by_cases heq : slot' = slot
  · have hrnti : rnti' ≠ rnti := fun h => hne ⟨h, heq⟩
    rw [heq, Function.update_self]
    exact (PucchSlot.removeUeUciFromPucch_harqBits _ ue.pucch rnti).2 rnti' hrnti
  · rw [Function.update_of_ne (UciAllocator.entry_ne hslot' hslot heq)]

lemma Inv.multiplexed (h : Inv c r) (ue : UciUeCellConfiguration c)
    (hslot : r.alloc.slotTx ≤ slot ∧ slot < r.alloc.slotTx + c.pucch.ringAllocatorSize) :
    Inv c (r.withAlloc (r.alloc.multiplexUciOnPusch ue slot rnti grant)) := by
  refine ⟨⟨h.inOrder, h.indices, ?_⟩, h.uciSlot_lt, h.counter⟩
  intro rnti' slot' hle
  change r.alloc.slotTx ≤ slot' at hle
  change Carries c _ rnti' slot' (r.acksOf rnti' slot').length
  by_cases hfar : r.alloc.slotTx + c.pucch.ringAllocatorSize ≤ slot'
  · rw [acksOf_eq_nil h.uciSlot_lt hfar]
    exact carries_zero c _ rnti' slot'
  · have hslot' := And.intro hle (Nat.lt_of_not_le hfar)
    rcases h.carried rnti' slot' hle with hbits | ⟨pusch, hpusch, hcarries⟩
    · by_cases heq : rnti' = rnti ∧ slot' = slot
      · -- The HARQ-ACK bits go with the PUSCH.
        obtain ⟨rfl, rfl⟩ := heq
        have hremoved := (PucchSlot.removeUeUciFromPucch_harqBits (r.alloc.pucch (entry c slot')) ue.pucch rnti').1
        refine .inr ⟨⟨rnti', grant, _⟩, ?_, rfl, hbits.trans hremoved⟩
        change _ ∈ Function.update r.alloc.puschs slot' _ slot'
        rw [Function.update_self]
        exact List.mem_append_right _ List.mem_cons_self
      · apply Or.inl
        change _ ≤ (Function.update r.alloc.pucch (entry c slot) _ (entry c slot')).harqBits rnti'
        rw [harqBits_withRemoved ue r.alloc.pucch hslot hslot' heq]
        exact hbits
    · refine .inr ⟨pusch, ?_, hcarries⟩
      change _ ∈ Function.update r.alloc.puschs slot _ slot'
      by_cases heq : slot' = slot
      · rw [heq, Function.update_self]
        exact List.mem_append_left _ (heq ▸ hpusch)
      · rw [Function.update_of_ne heq]
        exact hpusch

lemma Inv.withoutSrPucch (h : Inv c r) (ue : UciUeCellConfiguration c)
    (hnone : (PucchSlot.removeUeUciFromPucch (r.alloc.pucch (entry c slot)) ue.pucch rnti).1.harqAckNofBits = 0) :
    Inv c (r.withAlloc (r.alloc.withPucchSlot c slot
      (PucchSlot.removeUeUciFromPucch (r.alloc.pucch (entry c slot)) ue.pucch rnti).2)) := by
  refine Inv.of_kept h (UciAllocator.kept_withPucchSlot ?_) rfl
  intro rnti'
  have hremoved := PucchSlot.removeUeUciFromPucch_harqBits (r.alloc.pucch (entry c slot)) ue.pucch rnti
  by_cases heq : rnti' = rnti
  · have hzero := hremoved.1
    rw [hnone] at hzero
    rw [heq]
    exact hzero.trans (Nat.zero_le _)
  · exact Nat.le_of_eq (hremoved.2 rnti' heq).symm

end Removal

lemma apply_kept {ue : UciUeCellConfiguration c} {rnti : Nat} {ul : UlSlotContext} {p p' : PucchSlot}
    {call : PucchGrantCall} (h : call.apply ue rnti ul p = .ok p') : PucchSlot.HarqBitsKept p p' := by
  cases call with
  | srOpportunity =>
    dsimp only [PucchGrantCall.apply] at h
    split at h
    · obtain rfl := Except.ok.inj h
      exact PucchSlot.harqBitsKept_of_eq rfl
    · exact PucchSlot.allocSrOpportunity_kept h
  | csiOpportunity csiPart1Bits =>
    dsimp only [PucchGrantCall.apply] at h
    split at h
    · obtain rfl := Except.ok.inj h
      exact PucchSlot.harqBitsKept_of_eq rfl
    · exact PucchSlot.allocCsiOpportunity_kept h
  | commonHarqAck dci =>
    obtain ⟨out, hout, rfl⟩ := map_eq_ok.mp h
    exact PucchSlot.allocCommonHarqAck_kept hout
  | commonAndDedHarqAck dci =>
    obtain ⟨out, hout, rfl⟩ := map_eq_ok.mp h
    exact PucchSlot.allocCommonAndDedHarqAck_kept hout

lemma inv_start (c : UciAllocatorCell) (slotTx : Nat) : Inv c (start slotTx) :=
  ⟨⟨List.Pairwise.nil, fun _ _ => rfl, fun rnti slot _ => carries_zero c _ rnti slot⟩, fun _ ha => absurd ha List.not_mem_nil,
    fun _ _ _ _ => rfl⟩

lemma step_inv {e : UciAllocatorEvent} (h : Inv c r) (htimely : r.Timely c e) (hstep : r.step ues e = .ok r') :
    Inv c r' := by
  cases e with
  | slotIndication =>
    obtain rfl := Except.ok.inj hstep
    exact h.slotIndication
  | allocHarqAck req ul =>
    unfold step at hstep
    dsimp only at hstep
    split at hstep
    case h_1 => cases hstep
    case h_2 alloc hok =>
      obtain rfl := Except.ok.inj hstep
      rcases UciAllocator.allocHarqAckLoop_spec (fun _ hk => hk) hok with ⟨-, hkept⟩ | ⟨res, hres, -⟩
      · exact h.of_kept hkept rfl
      · cases hres
    case h_3 res alloc hok =>
      obtain rfl := Except.ok.inj hstep
      rcases UciAllocator.allocHarqAckLoop_spec (fun _ hk => hk) hok with ⟨hnone, -⟩ | ⟨res', hres, hallocates⟩
      · cases hnone
      · obtain rfl := Option.some.inj hres
        exact h.allocated htimely.1 htimely.2 rfl hallocates
  | allocPucch call slotDelay rnti ul =>
    obtain ⟨slot, hslot, hstep⟩ := bind_eq_ok.mp hstep
    split at hstep
    case h_1 => cases hstep
    case h_2 p hp =>
      obtain rfl := Except.ok.inj hstep
      exact h.of_kept (UciAllocator.kept_withPucchSlot (apply_kept hp)) rfl
  | multiplexUciOnPusch slotDelay rnti grant =>
    obtain ⟨slot, hslot, hstep⟩ := bind_eq_ok.mp hstep
    obtain rfl := Except.ok.inj hstep
    exact h.multiplexed (ues rnti) (gridSlot_ok hslot)
  | removeSrPucch slotDelay rnti =>
    obtain ⟨slot, hslot, hstep⟩ := bind_eq_ok.mp hstep
    obtain rfl := Except.ok.inj hstep
    split
    case isTrue hnone => exact h.withoutSrPucch (ues rnti) hnone
    case isFalse => exact h

end Steps

/-- The HARQ-ACKs are in order and have bits of their own in every state of a run whose calls find the last HARQ-ACK of
the UE. -/
theorem harq_ack_timing (ues : Nat → UciUeCellConfiguration c) (slotTx : Nat) {es : List UciAllocatorEvent}
    (h : RunsWithin (step ues) (Timely c) (start slotTx) es) :
    HoldsThroughout (step ues) (HarqAckTiming c) (start slotTx) es :=
  (runsWithin_establishes (D := fun _ _ => True) (Inv c) (fun _ hinv => hinv.toHarqAckTiming)
    (fun _ _ _ hinv htimely hstep => step_inv hinv htimely hstep) (fun _ _ _ _ => trivial) (inv_start c slotTx) h).1

/-! A cell with an offset of 8 slots, and a UE that can acknowledge after 4 or 8 slots more. -/

namespace UciExample

open PucchExample

def ntnCell : UciAllocatorCell := ⟨cell 16, 8, by decide⟩

def ntnUe : UciUeCellConfiguration ntnCell := ⟨ue 16, .format2, [⟨40, 0⟩], none, fun _ => true⟩

def request : HarqAckRequest := ⟨100, 0, [4, 8], by decide, by decide, by decide⟩

def ulWithPusch (slot : Nat) : UlSlotContext :=
  if slot = 12 then { ul with puschs := [(101, ⟨0, ⟨0, 14⟩, ⟨30, 40⟩⟩)] } else ul

def overtaking : List UciAllocatorEvent := [.allocHarqAck request ulWithPusch, .slotIndication, .allocHarqAck request ulWithPusch]

end UciExample

open PucchExample UciExample in
theorem harq_ack_timing_of_two : HoldsThroughout (step fun _ => ntnUe) (HarqAckTiming ntnCell) (start 0)
    [.allocHarqAck request fun _ => ul, .slotIndication, .allocHarqAck request fun _ => ul] := by
  apply harq_ack_timing
  decide +kernel

open UciExample in
/-- The search for slot 1 ends with slot 9, and does not find the HARQ-ACK in slot 16. -/
theorem harq_ack_overtakes :
    ¬∀ es, HoldsThroughout (step fun _ => ntnUe) (HarqAckTiming ntnCell) (start 0) es := by
  intro h
  have hrun : (runEvents (step fun _ => ntnUe) (start 0) overtaking).toOption.any
      (fun r => r.acks == [⟨100, 0, 16, 0⟩, ⟨100, 1, 13, 0⟩]) = true := by decide +kernel
  cases hs : runEvents (step fun _ => ntnUe) (start 0) overtaking with
  | error a =>
    rw [hs] at hrun
    cases hrun
  | ok r =>
    rw [hs] at hrun
    have hacks : r.acks = [⟨100, 0, 16, 0⟩, ⟨100, 1, 13, 0⟩] := by simpa [Except.toOption] using hrun
    have htiming := holdsThroughout_iff_prefix.mp (h overtaking) overtaking [] r (List.append_nil _).symm hs
    have horder := htiming.inOrder
    rw [hacks] at horder
    have hlate := List.rel_of_pairwise_cons horder List.mem_cons_self rfl (by decide)
    revert hlate
    decide

end UciAllocatorRun

end OwlsRan.Sched
