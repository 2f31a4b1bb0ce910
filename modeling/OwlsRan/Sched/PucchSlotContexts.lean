import OwlsRan.Adt.CircularMap
import OwlsRan.Ran.SlotPoint
import OwlsRan.Sched.PucchAllocator
import OwlsRan.Sched.ResourceGrid

/-!
# The slot contexts of the PUCCH allocator and of the two managers

Three rings hold what is reserved in each slot.
-/

namespace OwlsRan.Sched
open OwlsRan.Adt OwlsRan.Lib OwlsRan.Ran

def RING_ALLOCATOR_SIZE : Nat :=
  getAllocatorRingSizeGtMin (RING_MAX_HISTORY_SIZE + getMaxSlotUlAllocDelay NTN_CELL_SPECIFIC_KOFFSET_MAX) 0

/-- `pucch_resource_manager::slots_ctx`, `pucch_collision_manager::slots_ctx`, and `pucch_allocator_impl::slots_ctx`.
The three `last_sl_ind` are set together. -/
structure PucchSlotContexts where
  resourceManager : CircularVector (Nat → Option Nat)
  collisionManager : CircularVector (Nat → Bool)
  allocator : CircularVector (List UeGrants)
  lastSlInd : Option SlotPoint

namespace PucchSlotContexts

lemma ringAllocatorSize_eq : RING_ALLOCATOR_SIZE = 640 := by decide

lemma ringAllocatorSize_pos : 0 < RING_ALLOCATOR_SIZE := by decide

def init : PucchSlotContexts where
  resourceManager := .ofFn RING_ALLOCATOR_SIZE ringAllocatorSize_pos fun _ _ => none
  collisionManager := .ofFn RING_ALLOCATOR_SIZE ringAllocatorSize_pos fun _ _ => false
  allocator := .ofFn RING_ALLOCATOR_SIZE ringAllocatorSize_pos fun _ => []
  lastSlInd := none

variable (s : PucchSlotContexts)

/-- `slot_tx.to_uint() - 1`, of 32-bit unsigned integers. -/
def uintBefore (slTx : SlotPoint) : Nat := (slTx.count + (2 ^ 32 - 1)) % 2 ^ 32

/-- `slot_indication` of the three of them. A skipped slot fails a check. -/
def slotIndication (slTx : SlotPoint) : Option PucchSlotContexts :=
  if s.lastSlInd.all fun last => slTx = last.add 1 then
    some
      { resourceManager := s.resourceManager.modify (uintBefore slTx) fun _ _ => none
        collisionManager := s.collisionManager.modify (slTx.sub 1).count fun _ _ => false
        allocator := s.allocator.modify (slTx.sub 1).count fun _ => []
        lastSlInd := some slTx }
  else none

/-- The slots that an allocation can reach: from the current one, as many as the rings have entries. -/
def InRing (sl : SlotPoint) : Prop :=
  ∃ last, s.lastSlInd = some last ∧ ∃ delay < RING_ALLOCATOR_SIZE, sl = last.add delay

def slotAt (sl : SlotPoint) (pucchs : List PucchInfo) : PucchSlot where
  pucchs := pucchs
  ueGrantsList := s.allocator.get sl.count
  resources := ⟨s.resourceManager.get sl.count, s.collisionManager.get sl.count⟩

def setSlot (sl : SlotPoint) (slot : PucchSlot) : PucchSlotContexts where
  resourceManager := s.resourceManager.modify sl.count fun _ => slot.resources.uesUsingPucchRes
  collisionManager := s.collisionManager.modify sl.count fun _ => slot.resources.currentState
  allocator := s.allocator.modify sl.count fun _ => slot.ueGrantsList
  lastSlInd := s.lastSlInd

variable {cell : PucchCellConfiguration} (ues : Nat → UePucchConfig cell)

def call (sl : SlotPoint) (pucchs : List PucchInfo) (e : PucchEvent) : Except PucchAbort PucchSlotContexts :=
  (e.apply ues (s.slotAt sl pucchs)).map fun out => s.setSlot sl out.2

def Clean (sl : SlotPoint) : Prop :=
  (s.resourceManager.get sl.count = fun _ => none) ∧ (s.collisionManager.get sl.count = fun _ => false) ∧
    s.allocator.get sl.count = []

inductive Reached : PucchSlotContexts → Prop where
  | init : Reached .init
  | slotIndication {s s' slTx} (h : Reached s) (hvalid : slTx.valid) (hwf : slTx.WellFormed)
      (hs' : s.slotIndication slTx = some s') : Reached s'
  | call {s s' sl pucchs e} (h : Reached s) (hsl : s.InRing sl) (hs' : s.call ues sl pucchs e = .ok s') : Reached s'

section Indices

variable {slTx : SlotPoint}

lemma ring_dvd (slTx : SlotPoint) : RING_ALLOCATOR_SIZE ∣ slTx.nofSlotsPerHyperSystemFrame := by
  rw [ringAllocatorSize_eq, SlotPoint.hyperFrame_eq]
  exact Dvd.dvd.mul_right (by decide) _

lemma entry_before (hwf : slTx.WellFormed) :
    (slTx.sub 1).count % RING_ALLOCATOR_SIZE = (slTx.add (RING_ALLOCATOR_SIZE - 1)).count % RING_ALLOCATOR_SIZE := by
  obtain ⟨q, hq⟩ := ring_dvd slTx
  have hpos := slTx.hyperFrame_pos
  have hself : slTx.add slTx.nofSlotsPerHyperSystemFrame = slTx := by
    unfold SlotPoint.add
    rw [Nat.add_mod_right, Nat.mod_eq_of_lt hwf]
  have hsub : slTx.sub 1 = slTx.add (slTx.nofSlotsPerHyperSystemFrame - 1) := by
    rw [← SlotPoint.add_sub hpos, hself]
  rw [hsub, SlotPoint.add_count, SlotPoint.add_count, Nat.mod_mod_of_dvd _ (ring_dvd slTx),
    Nat.mod_mod_of_dvd _ (ring_dvd slTx), hq]
  rw [hq] at hpos
  have hq0 : 0 < q := Nat.pos_of_mul_pos_left hpos
  obtain ⟨p, rfl⟩ := Nat.exists_eq_add_of_le hq0
  rw [ringAllocatorSize_eq]
  omega

lemma uintBefore_eq (hvalid : slTx.valid) (hwf : slTx.WellFormed) (hcount : slTx.count ≠ 0) :
    uintBefore slTx % RING_ALLOCATOR_SIZE = (slTx.sub 1).count % RING_ALLOCATOR_SIZE := by
  have hcount' : slTx.count < 10240 * 2 ^ slTx.numerology := by
    rw [← SlotPoint.hyperFrame_eq]
    exact hwf
  have hnum : 2 ^ slTx.numerology ≤ 2 ^ 4 := Nat.pow_le_pow_right (by decide) (Nat.le_of_lt_succ hvalid)
  rw [entry_before hwf, SlotPoint.add_count, Nat.mod_mod_of_dvd _ (ring_dvd slTx), ringAllocatorSize_eq]
  unfold uintBefore
  omega

lemma uintBefore_zero (hcount : slTx.count = 0) : uintBefore slTx % RING_ALLOCATOR_SIZE = 255 := by
  unfold uintBefore
  rw [hcount]
  decide

lemma reach_last {last : SlotPoint} {delay : Nat} (hnew : ∀ d < RING_ALLOCATOR_SIZE, (last.add 1).add delay ≠ last.add d)
    (hdelay : delay < RING_ALLOCATOR_SIZE) : delay = RING_ALLOCATOR_SIZE - 1 := by
  by_contra hne
  apply hnew (1 + delay)
  · omega
  · rw [SlotPoint.add_add]

lemma reach_new (last : SlotPoint) {d : Nat} (hd : d < RING_ALLOCATOR_SIZE) :
    (last.add 1).add (RING_ALLOCATOR_SIZE - 1) ≠ last.add d := by
  have hpow := Nat.two_pow_pos last.numerology
  rw [SlotPoint.add_add]
  intro hsame
  have hmod := SlotPoint.add_eq_add_iff.mp hsame
  rw [SlotPoint.hyperFrame_eq] at hmod
  rw [ringAllocatorSize_eq] at hd hmod
  rw [Nat.mod_eq_of_lt (by omega), Nat.mod_eq_of_lt (by omega)] at hmod
  omega

end Indices

section Runs

variable {ues : Nat → UePucchConfig cell} {s s' : PucchSlotContexts} {slTx : SlotPoint}

structure Inv (s : PucchSlotContexts) : Prop where
  resourceManager_size : s.resourceManager.size = RING_ALLOCATOR_SIZE
  collisionManager_size : s.collisionManager.size = RING_ALLOCATOR_SIZE
  allocator_size : s.allocator.size = RING_ALLOCATOR_SIZE
  fresh : s.lastSlInd = none → ∀ sl, s.Clean sl

lemma Inv.init : Inv .init := by
  refine ⟨CircularVector.size_ofFn _ ringAllocatorSize_pos _, CircularVector.size_ofFn _ ringAllocatorSize_pos _,
    CircularVector.size_ofFn _ ringAllocatorSize_pos _, fun _ sl => ?_⟩
  refine ⟨?_, ?_, ?_⟩
  · exact CircularVector.get_ofFn _ ringAllocatorSize_pos _ sl.count
  · exact CircularVector.get_ofFn _ ringAllocatorSize_pos _ sl.count
  · exact CircularVector.get_ofFn _ ringAllocatorSize_pos _ sl.count

lemma slotIndication_eq_some (h : s.slotIndication slTx = some s') :
    (∀ last, s.lastSlInd = some last → slTx = last.add 1) ∧
      s' =
        { resourceManager := s.resourceManager.modify (uintBefore slTx) fun _ _ => none
          collisionManager := s.collisionManager.modify (slTx.sub 1).count fun _ _ => false
          allocator := s.allocator.modify (slTx.sub 1).count fun _ => []
          lastSlInd := some slTx } := by
  unfold slotIndication at h
  split at h
  case isTrue hnext =>
    refine ⟨fun last hlast => ?_, (Option.some.inj h).symm⟩
    rw [hlast] at hnext
    exact of_decide_eq_true hnext
  case isFalse => cases h

lemma call_eq_ok {sl : SlotPoint} {pucchs : List PucchInfo} {e : PucchEvent} (h : s.call ues sl pucchs e = .ok s') :
    ∃ slot, s' = s.setSlot sl slot := by
  obtain ⟨out, -, hs'⟩ := map_eq_ok.mp h
  exact ⟨out.2, hs'.symm⟩

lemma Reached.inv (h : Reached ues s) : s.Inv := by
  induction h with
  | init => exact Inv.init
  | slotIndication _ _ _ hs' ih =>
    obtain ⟨-, rfl⟩ := slotIndication_eq_some hs'
    refine ⟨?_, ?_, ?_, fun hnone => (nomatch hnone)⟩
    · exact CircularVector.size_modify.trans ih.resourceManager_size
    · exact CircularVector.size_modify.trans ih.collisionManager_size
    · exact CircularVector.size_modify.trans ih.allocator_size
  | call _ hsl hs' ih =>
    obtain ⟨slot, rfl⟩ := call_eq_ok hs'
    obtain ⟨last, hlast, -⟩ := hsl
    refine ⟨?_, ?_, ?_, fun hnone => ?_⟩
    · exact CircularVector.size_modify.trans ih.resourceManager_size
    · exact CircularVector.size_modify.trans ih.collisionManager_size
    · exact CircularVector.size_modify.trans ih.allocator_size
    · exact absurd (hlast.symm.trans hnone) (Option.some_ne_none last)

lemma get_clear {α : Type} {v : CircularVector α} {a : α} {pos i : Nat}
    (h : i % v.size ≠ pos % v.size → v.get i = a) : (v.modify pos fun _ => a).get i = a := by
  rw [CircularVector.get_modify]
  split
  case isTrue => rfl
  case isFalse hne => exact h hne

lemma clean_last (hinv : s.Inv) (hvalid : slTx.valid) (hwf : slTx.WellFormed) (hs' : s.slotIndication slTx = some s')
    (howner : slTx.count = 0 → s.resourceManager.get (slTx.sub 1).count = fun _ => none) :
    s'.Clean (slTx.add (RING_ALLOCATOR_SIZE - 1)) := by
  obtain ⟨-, rfl⟩ := slotIndication_eq_some hs'
  have hentry := entry_before hwf
  refine ⟨get_clear fun hne => ?_, get_clear fun hne => ?_, get_clear fun hne => ?_⟩
  · rw [hinv.resourceManager_size, ← hentry] at hne
    by_cases hcount : slTx.count = 0
    · rw [← howner hcount]
      apply CircularVector.get_congr
      rw [hinv.resourceManager_size, hentry]
    · exact absurd (uintBefore_eq hvalid hwf hcount).symm hne
  · rw [hinv.collisionManager_size, ← hentry] at hne
    exact absurd rfl hne
  · rw [hinv.allocator_size, ← hentry] at hne
    exact absurd rfl hne

/-- At every slot indication of every run, the slots that come within reach are clean in all three rings, exactly when
the slot is not the first one of a hyper system frame, or no dedicated resource of the slot before it has an owner. -/
theorem slot_contexts_clean (h : Reached ues s) (hvalid : slTx.valid) (hwf : slTx.WellFormed)
    (hs' : s.slotIndication slTx = some s') :
    (∀ sl, s'.InRing sl → ¬ s.InRing sl → s'.Clean sl) ↔
      (s.lastSlInd.isSome → slTx.count = 0 →
        s.resourceManager.get (slTx.sub 1).count = fun _ => none) := by
  have hinv := h.inv
  obtain ⟨hnext, heq⟩ := slotIndication_eq_some hs'
  have hlast' : s'.lastSlInd = some slTx := by rw [heq]
  constructor
  · intro hclean hlast hcount
    obtain ⟨last, hlast⟩ := Option.isSome_iff_exists.mp hlast
    have hentry := entry_before hwf
    have hout : ¬ s.InRing (slTx.add (RING_ALLOCATOR_SIZE - 1)) := by
      rintro ⟨last', hlast', d, hd, hsame⟩
      obtain rfl : last = last' := Option.some.inj (hlast.symm.trans hlast')
      rw [hnext last hlast] at hsame
      exact reach_new last hd hsame
    obtain ⟨hresources, -, -⟩ := hclean _ ⟨slTx, hlast', _, by decide, rfl⟩ hout
    rw [← hresources, heq]
    dsimp only
    rw [CircularVector.get_modify, if_neg]
    · apply CircularVector.get_congr
      rw [hinv.resourceManager_size, hentry]
    · rw [hinv.resourceManager_size, uintBefore_zero hcount, SlotPoint.add_count, hcount,
        Nat.mod_mod_of_dvd _ (ring_dvd slTx)]
      decide
  · rintro howner sl ⟨slTx', hslTx', delay, hdelay, rfl⟩ hnew
    obtain rfl : slTx = slTx' := Option.some.inj (hlast'.symm.trans hslTx')
    cases hlast : s.lastSlInd with
    | none =>
      obtain ⟨hresources, hstate, hgrants⟩ := hinv.fresh hlast (slTx.add delay)
      rw [heq]
      exact ⟨get_clear fun _ => hresources, get_clear fun _ => hstate, get_clear fun _ => hgrants⟩
    | some last =>
      have hdelay' : delay = RING_ALLOCATOR_SIZE - 1 := by
        have hout : ∀ d < RING_ALLOCATOR_SIZE, (last.add 1).add delay ≠ last.add d := by
          intro d hd hsame
          rw [← hnext last hlast] at hsame
          exact hnew ⟨last, hlast, d, hd, hsame⟩
        exact reach_last hout hdelay
      rw [hdelay']
      exact clean_last hinv hvalid hwf hs' (howner (by rw [hlast]; rfl))

end Runs

/-! An SR in the last slot of a hyper system frame, or in the first one. -/

section Wrap

def wrapUes : Nat → UePucchConfig (PucchExample.cell 4) := fun _ => PucchExample.ue 4

def lastSlot : PucchSlotContexts := (init.slotIndication ⟨0, 10239⟩).getD init

def srReserved (slot : Nat) : PucchSlotContexts :=
  (lastSlot.call wrapUes ⟨0, slot⟩ [] (.allocSrOpportunity slot PucchExample.ul 17)).toOption.getD lastSlot

lemma reached_lastSlot : Reached wrapUes lastSlot := .slotIndication .init (by decide) (by decide) rfl

lemma reached_srReserved {slot delay : Nat} (hslot : ⟨0, slot⟩ = SlotPoint.add ⟨0, 10239⟩ delay) (hdelay : delay < 640) :
    Reached wrapUes (srReserved slot) := by
  unfold srReserved
  cases hcall : lastSlot.call wrapUes ⟨0, slot⟩ [] (.allocSrOpportunity slot PucchExample.ul 17) with
  | error _ => exact reached_lastSlot
  | ok s => exact .call reached_lastSlot ⟨_, rfl, delay, hdelay, hslot⟩ hcall

lemma srReserved_lastSlInd (slot : Nat) : (srReserved slot).lastSlInd = some ⟨0, 10239⟩ := by
  unfold srReserved
  cases hcall : lastSlot.call wrapUes ⟨0, slot⟩ [] (.allocSrOpportunity slot PucchExample.ul 17) with
  | error _ => rfl
  | ok s =>
    obtain ⟨slot', rfl⟩ := call_eq_ok hcall
    rfl

lemma srReserved_inRing (slot : Nat) : ¬ (srReserved slot).InRing ⟨0, 639⟩ := by
  rintro ⟨last, hlast, d, hd, hsame⟩
  obtain rfl : ⟨0, 10239⟩ = last := Option.some.inj ((srReserved_lastSlInd slot).symm.trans hlast)
  exact reach_new ⟨0, 10239⟩ hd hsame

lemma srReserved_other {slot : Nat} (hne : 639 ≠ slot % 640) :
    (srReserved slot).resourceManager.get 10239 = fun _ => none := by
  have hinv := reached_lastSlot.inv
  have hlast : lastSlot.resourceManager.get 10239 = fun _ => none :=
    get_clear fun _ => CircularVector.get_ofFn _ ringAllocatorSize_pos _ 10239
  unfold srReserved
  cases hcall : lastSlot.call wrapUes ⟨0, slot⟩ [] (.allocSrOpportunity slot PucchExample.ul 17) with
  | error _ => exact hlast
  | ok s =>
    obtain ⟨slot', rfl⟩ := call_eq_ok hcall
    change (lastSlot.resourceManager.modify slot _).get 10239 = _
    rw [CircularVector.get_modify, if_neg, hlast]
    rw [hinv.resourceManager_size, ringAllocatorSize_eq]
    exact hne

def wrapped (slot : Nat) : PucchSlotContexts := ((srReserved slot).slotIndication ⟨0, 0⟩).getD lastSlot

lemma wrapped_eq (slot : Nat) : (srReserved slot).slotIndication ⟨0, 0⟩ = some (wrapped slot) := by
  unfold wrapped slotIndication
  rw [srReserved_lastSlInd, if_pos (by decide)]
  rfl

lemma wrapped_inRing (slot : Nat) : (wrapped slot).InRing ⟨0, 639⟩ := by
  obtain ⟨-, heq⟩ := slotIndication_eq_some (wrapped_eq slot)
  rw [heq]
  exact ⟨_, rfl, 639, by decide, by decide⟩

/-- The SR is in the slot that follows. -/
theorem slot_contexts_clean_wrap : (srReserved 0).resourceManager.get 0 2 = some 17 ∧ (wrapped 0).Clean ⟨0, 639⟩ := by
  have hreached : Reached wrapUes (srReserved 0) := reached_srReserved (by decide) (by decide : 1 < 640)
  refine ⟨by decide +kernel, ?_⟩
  apply (slot_contexts_clean hreached (by decide) (by decide) (wrapped_eq 0)).mpr
  · rintro - -
    exact srReserved_other (by decide)
  · exact wrapped_inRing 0
  · exact srReserved_inRing 0

/-- The SR of the last slot is in the context of the resource manager that slot 639 maps to. -/
theorem slot_contexts_not_clean :
    Reached wrapUes (srReserved 10239) ∧ (srReserved 10239).slotIndication ⟨0, 0⟩ = some (wrapped 10239) ∧
      (wrapped 10239).InRing ⟨0, 639⟩ ∧ ¬ (srReserved 10239).InRing ⟨0, 639⟩ ∧
      (wrapped 10239).resourceManager.get 639 2 = some 17 :=
  ⟨reached_srReserved (by decide) (by decide : 0 < 640), wrapped_eq 10239, wrapped_inRing 10239,
    srReserved_inRing 10239, by decide +kernel⟩

end Wrap

end PucchSlotContexts

end OwlsRan.Sched
