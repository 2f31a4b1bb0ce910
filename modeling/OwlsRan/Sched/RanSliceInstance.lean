import OwlsRan.Adt.CircularMap
import OwlsRan.Sched.ResourceGridUtil
import Mathlib.Logic.Function.Basic

/-!
# The PUSCH RBs of a slice

A slice counts the RBs that it has been given in each PUSCH slot, in a ring of counters that `slot_indication` clears one
by one. The counters are right as long as no two slots that can be scheduled at a time share one.
-/

namespace OwlsRan.Sched
open OwlsRan.Lib OwlsRan.Adt OwlsRan.Ran

def MAX_SLOTS_SINCE_LAST_PXSCH : Nat := 256

/-- `ran_slice_instance`. The averages are those of the source without the rounding of `float`. -/
structure RanSliceInstance where
  ntnCsKoffset : Nat
  minK2 : Nat
  pdschRbCount : Nat
  puschRbCountPerSlot : CircularVector Nat
  lastPdschAllocSlot : SlotPoint
  lastPuschAllocSlot : SlotPoint
  avgPdschRbsPerSlot : Rat
  avgPuschRbsPerSlot : Rat

def getMinK2 (cfg : CellConfiguration) : Nat := (cfg.puschK2s.tail).foldl min (cfg.puschK2s.head cfg.puschK2s_ne)

def CellConfiguration.maxPuschDelay (cfg : CellConfiguration) : Nat := SCHEDULER_MAX_K2 + cfg.ntnCsKoffset

def CellConfiguration.puschRingSize (cfg : CellConfiguration) : Nat := getAllocatorRingSizeGtMin cfg.maxPuschDelay 0

namespace RanSliceInstance

def init (cfg : CellConfiguration) : RanSliceInstance where
  ntnCsKoffset := cfg.ntnCsKoffset
  minK2 := getMinK2 cfg
  pdschRbCount := 0
  puschRbCountPerSlot := .ofFn cfg.puschRingSize (ringSize_pos _ _) fun _ => 0
  lastPdschAllocSlot := .invalid
  lastPuschAllocSlot := .invalid
  avgPdschRbsPerSlot := 0
  avgPuschRbsPerSlot := 0

def expAvg (avg : Rat) (count : Nat) : Rat := avg + 1 / 10 * (count - avg)

def keepAllocSlot (slotTx : SlotPoint) (ntnCsKoffset : Nat) (last : SlotPoint) : SlotPoint :=
  if last.valid ∧ slotTx.gt ((last.add MAX_SLOTS_SINCE_LAST_PXSCH).add ntnCsKoffset) then .invalid else last

def slotIndication (i : RanSliceInstance) (slotTx : SlotPoint) : RanSliceInstance :=
  let puschSlotToClear := ((slotTx.add i.minK2).sub 1).count
  { i with
    avgPdschRbsPerSlot := expAvg i.avgPdschRbsPerSlot i.pdschRbCount
    pdschRbCount := 0
    avgPuschRbsPerSlot := expAvg i.avgPuschRbsPerSlot (i.puschRbCountPerSlot.get puschSlotToClear)
    puschRbCountPerSlot := i.puschRbCountPerSlot.modify puschSlotToClear fun _ => 0
    lastPdschAllocSlot := keepAllocSlot slotTx i.ntnCsKoffset i.lastPdschAllocSlot
    lastPuschAllocSlot := keepAllocSlot slotTx i.ntnCsKoffset i.lastPuschAllocSlot }

def storePdschGrant (i : RanSliceInstance) (crbs : Nat) (pdschSlot : SlotPoint) : RanSliceInstance :=
  { i with pdschRbCount := i.pdschRbCount + crbs, lastPdschAllocSlot := pdschSlot }

def storePuschGrant (i : RanSliceInstance) (crbs : Nat) (puschSlot : SlotPoint) : RanSliceInstance :=
  { i with
    puschRbCountPerSlot := i.puschRbCountPerSlot.modify puschSlot.count fun count => count + crbs
    lastPuschAllocSlot := puschSlot }

def nofPuschRbsAllocated (i : RanSliceInstance) (puschSlot : SlotPoint) : Nat :=
  i.puschRbCountPerSlot.get puschSlot.count

end RanSliceInstance

/-- The calls on a slice. Grants are for a slot that lies so many slots after the last one indicated. -/
inductive SliceEvent where
  | slotIndication
  | storePdschGrant (crbs delay : Nat)
  | storePuschGrant (crbs delay : Nat)

structure SliceRun where
  slotTx : SlotPoint
  inst : RanSliceInstance

namespace SliceRun

def start (cfg : CellConfiguration) (first : SlotPoint) : SliceRun := ⟨first, (RanSliceInstance.init cfg).slotIndication first⟩

def step (r : SliceRun) : SliceEvent → SliceRun
  | .slotIndication => ⟨r.slotTx.add 1, r.inst.slotIndication (r.slotTx.add 1)⟩
  | .storePdschGrant crbs delay => { r with inst := r.inst.storePdschGrant crbs (r.slotTx.add delay) }
  | .storePuschGrant crbs delay => { r with inst := r.inst.storePuschGrant crbs (r.slotTx.add delay) }

def run (cfg : CellConfiguration) (first : SlotPoint) (es : List SliceEvent) : SliceRun := es.foldl step (start cfg first)

end SliceRun

structure PuschHistory where
  now : Nat
  rbs : Nat → Nat

namespace PuschHistory

def step (h : PuschHistory) : SliceEvent → PuschHistory
  | .slotIndication => { h with now := h.now + 1 }
  | .storePdschGrant .. => h
  | .storePuschGrant crbs delay =>
    { h with rbs := Function.update h.rbs (h.now + delay) (h.rbs (h.now + delay) + crbs) }

def of (es : List SliceEvent) : PuschHistory := es.foldl step ⟨0, fun _ => 0⟩

end PuschHistory

/-- A PUSCH is scheduled no earlier than `min_k2` and no later than the largest delay. -/
def SliceEvent.InTime (cfg : CellConfiguration) : SliceEvent → Prop
  | .storePuschGrant _ delay => getMinK2 cfg ≤ delay ∧ delay ≤ cfg.maxPuschDelay
  | _ => True

/-- For each slot that can still be scheduled, the counter is the sum of the RBs stored for that slot. -/
def PuschRbsCounted (cfg : CellConfiguration) (first : SlotPoint) (r : SliceRun) (h : PuschHistory) : Prop :=
  ∀ j, h.now + getMinK2 cfg ≤ j → j ≤ h.now + cfg.maxPuschDelay → r.inst.nofPuschRbsAllocated (first.add j) = h.rbs j

section Counters

variable {cfg : CellConfiguration} {first : SlotPoint}

def puschPeriod (cfg : CellConfiguration) (first : SlotPoint) : Nat :=
  ringPeriod cfg.puschRingSize first.nofSlotsPerHyperSystemFrame

lemma puschIndex_eq (j : Nat) :
    (first.add j).count % cfg.puschRingSize = (first.count + j) % puschPeriod cfg first := by
  rw [SlotPoint.add_count]
  exact mod_ring_eq first.hyperFrame_pos (ringSize_fits _ _) _

lemma puschIndex_ne {i j : Nat} (hlt : i < j) (hE : j < i + puschPeriod cfg first) :
    (first.add i).count % cfg.puschRingSize ≠ (first.add j).count % cfg.puschRingSize := by
  rw [puschIndex_eq, puschIndex_eq]
  intro heq
  have := eq_of_mod_eq_of_lt (by omega) (by omega) heq
  omega

/-- The counters hold the RBs of the slots of one period, of which those beyond the largest delay have none. -/
structure CountersAligned (cfg : CellConfiguration) (first : SlotPoint) (r : SliceRun) (h : PuschHistory) : Prop where
  slotTx : ∀ delay, r.slotTx.add delay = first.add (h.now + delay)
  minK2 : r.inst.minK2 = getMinK2 cfg
  size : r.inst.puschRbCountPerSlot.size = cfg.puschRingSize
  counters : ∀ j, h.now + getMinK2 cfg ≤ j → j < h.now + getMinK2 cfg + puschPeriod cfg first →
    r.inst.nofPuschRbsAllocated (first.add j) = h.rbs j
  future : ∀ j, h.now + cfg.maxPuschDelay < j → h.rbs j = 0

lemma start_aligned : CountersAligned cfg first (.start cfg first) (.of []) := by
  have hsize : (RanSliceInstance.init cfg).puschRbCountPerSlot.size = cfg.puschRingSize :=
    CircularVector.size_ofFn _ (ringSize_pos _ _) _
  refine ⟨fun delay => ?_, rfl, CircularVector.size_modify.trans hsize, fun j _ _ => ?_, fun j _ => rfl⟩
  · exact congrArg first.add (Nat.zero_add delay).symm
  · have hzero : (RanSliceInstance.init cfg).puschRbCountPerSlot.get (first.add j).count = 0 :=
      CircularVector.get_ofFn _ (ringSize_pos _ _) _ _
    refine (CircularVector.get_modify _).trans ?_
    split
    case isTrue => rfl
    case isFalse => exact hzero

lemma step_aligned (hperiod : cfg.maxPuschDelay < puschPeriod cfg first + getMinK2 cfg) {r : SliceRun} {h : PuschHistory}
    (hr : CountersAligned cfg first r h) {e : SliceEvent} (he : e.InTime cfg) :
    CountersAligned cfg first (r.step e) (h.step e) := by
  cases e with
  | slotIndication =>
    have hslot : ∀ delay, (r.slotTx.add 1).add delay = first.add (h.now + 1 + delay) := by
      intro delay
      rw [SlotPoint.add_add, hr.slotTx, Nat.add_assoc]
    have hclear : ((r.slotTx.add 1).add r.inst.minK2).sub 1 = first.add (h.now + getMinK2 cfg) := by
      rw [hslot, hr.minK2, SlotPoint.add_sub (by omega)]
      congr 1
      omega
    refine ⟨hslot, hr.minK2, CircularVector.size_modify.trans hr.size, fun j hlo hhi => ?_, fun j hj => ?_⟩
    · change h.now + 1 + getMinK2 cfg ≤ j at hlo
      change j < h.now + 1 + getMinK2 cfg + puschPeriod cfg first at hhi
      change (r.inst.puschRbCountPerSlot.modify _ fun _ => 0).get (first.add j).count = h.rbs j
      rw [CircularVector.get_modify, hr.size, hclear]
      by_cases hnew : j = h.now + getMinK2 cfg + puschPeriod cfg first
      · -- the entry of the slot that has just gone by
        have hindex : (first.add j).count % cfg.puschRingSize =
            (first.add (h.now + getMinK2 cfg)).count % cfg.puschRingSize := by
          rw [puschIndex_eq, puschIndex_eq, hnew, ← Nat.add_assoc first.count, Nat.add_mod_right]
        rw [if_pos hindex, hr.future j (by omega)]
      · rw [if_neg (puschIndex_ne (by omega) (by omega)).symm]
        exact hr.counters j (by omega) (by omega)
    · change h.now + 1 + cfg.maxPuschDelay < j at hj
      exact hr.future j (by omega)
  | storePdschGrant crbs delay => exact ⟨hr.slotTx, hr.minK2, hr.size, hr.counters, hr.future⟩
  | storePuschGrant crbs delay =>
    obtain ⟨hmin, hmax⟩ : getMinK2 cfg ≤ delay ∧ delay ≤ cfg.maxPuschDelay := he
    refine ⟨hr.slotTx, hr.minK2, CircularVector.size_modify.trans hr.size, fun j hlo hhi => ?_, fun j hj => ?_⟩
    · change h.now + getMinK2 cfg ≤ j at hlo
      change j < h.now + getMinK2 cfg + puschPeriod cfg first at hhi
      change (r.inst.puschRbCountPerSlot.modify _ fun count => count + crbs).get (first.add j).count =
        Function.update h.rbs _ _ j
      have hcounter := hr.counters j hlo hhi
      unfold RanSliceInstance.nofPuschRbsAllocated at hcounter
      rw [CircularVector.get_modify, hr.size, hr.slotTx, hcounter]
      by_cases hj : j = h.now + delay
      · rw [hj, if_pos rfl, Function.update_self]
      · have hne : (first.add j).count % cfg.puschRingSize ≠ (first.add (h.now + delay)).count % cfg.puschRingSize := by
          by_cases hlt : j < h.now + delay
          · exact puschIndex_ne hlt (by omega)
          · exact (puschIndex_ne (by omega) (by omega)).symm
        rw [if_neg hne, Function.update_of_ne hj]
    · change h.now + cfg.maxPuschDelay < j at hj
      change Function.update h.rbs _ _ j = 0
      rw [Function.update_of_ne (by omega)]
      exact hr.future j hj

lemma run_counters_aligned (hperiod : cfg.maxPuschDelay < puschPeriod cfg first + getMinK2 cfg) (es : List SliceEvent)
    (hes : ∀ e ∈ es, e.InTime cfg) : CountersAligned cfg first (.run cfg first es) (.of es) := by
  induction es using List.reverseRecOn with
  | nil => exact start_aligned
  | append_singleton es e ih =>
    have hrun := ih fun e' he' => hes e' (List.mem_append_left _ he')
    unfold SliceRun.run PuschHistory.of at hrun ⊢
    rw [List.foldl_append, List.foldl_append]
    exact step_aligned hperiod hrun (hes e (List.mem_append_right _ List.mem_cons_self))

/-- The counters are right in every run exactly if the slots that can be scheduled at a time are fewer than the counters
of a period. -/
theorem pusch_rbs_counted_iff (cfg : CellConfiguration) (first : SlotPoint) :
    (∀ es : List SliceEvent, (∀ e ∈ es, e.InTime cfg) → PuschRbsCounted cfg first (.run cfg first es) (.of es)) ↔
      cfg.maxPuschDelay < puschPeriod cfg first + getMinK2 cfg := by
  constructor
  · intro hcounted
    by_contra hperiod
    have hpos : 0 < puschPeriod cfg first := ringPeriod_pos (ringSize_pos _ _) first.hyperFrame_pos
    have hintime : ∀ e ∈ [SliceEvent.storePuschGrant 1 (getMinK2 cfg)], e.InTime cfg := by
      intro e he
      rw [List.mem_singleton.mp he]
      exact ⟨le_rfl, by omega⟩
    -- one RB in the first slot that can be scheduled shows in the slot one period later
    have hlater := hcounted _ hintime (getMinK2 cfg + puschPeriod cfg first)
      (by change 0 + getMinK2 cfg ≤ _; omega) (by change _ ≤ 0 + cfg.maxPuschDelay; omega)
    have hhistory : (PuschHistory.of [.storePuschGrant 1 (getMinK2 cfg)]).rbs
        (getMinK2 cfg + puschPeriod cfg first) = 0 := by
      change Function.update (fun _ => 0) (0 + getMinK2 cfg) 1 _ = 0
      rw [Function.update_of_ne (by omega)]
    have hstart : CountersAligned cfg first (.start cfg first) (.of []) := start_aligned
    have hcounter : (SliceRun.run cfg first [.storePuschGrant 1 (getMinK2 cfg)]).inst.nofPuschRbsAllocated
        (first.add (getMinK2 cfg + puschPeriod cfg first)) ≠ 0 := by
      change ((SliceRun.start cfg first).inst.puschRbCountPerSlot.modify _ fun count => count + 1).get _ ≠ 0
      rw [CircularVector.get_modify, hstart.size, if_pos]
      · exact Nat.succ_ne_zero _
      · change _ = (first.add (getMinK2 cfg)).count % _
        rw [puschIndex_eq, puschIndex_eq, ← Nat.add_assoc, Nat.add_mod_right]
    exact hcounter (hlater.trans hhistory)
  · intro hperiod es hes j hlo hhi
    exact (run_counters_aligned hperiod es hes).counters j hlo (by omega)

def zeroDelayCell : CellConfiguration := ⟨9, ⟨0, by decide⟩, fun _ => 14, fun _ => 14, [0, 4], by simp⟩

/-- Slots 100 and 120 can both be scheduled when slot 100 is indicated, and share a counter. -/
theorem pusch_rbs_not_counted :
    (SliceEvent.storePuschGrant 5 0).InTime zeroDelayCell ∧
      ¬PuschRbsCounted zeroDelayCell ⟨0, 100⟩ (.run zeroDelayCell ⟨0, 100⟩ [.storePuschGrant 5 0])
        (.of [.storePuschGrant 5 0]) := by
  refine ⟨⟨by decide, by decide⟩, fun hcounted => ?_⟩
  have hlater := hcounted 20 (by decide) (by decide)
  revert hlater
  decide +kernel

end Counters

end OwlsRan.Sched
