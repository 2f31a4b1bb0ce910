import OwlsRan.Adt.UnsignedInterval
import OwlsRan.Ran.TddUlDlConfig
import OwlsRan.Sched.ResourceGridUtil

/-!
# Validation of the common PUSCH configuration

`validate_pusch_cfg_common` checks that every full UL slot of the TDD period has an entry of the PUSCH time domain list
whose PDCCH slot has DL symbols. The index of that slot is a difference of unsigned numbers, which wraps around before
it is taken modulo the period.
-/

namespace OwlsRan.Sched

open OwlsRan.Adt OwlsRan.Ran

structure PuschTimeDomainResourceAllocation where
  k2 : Nat
  symbols : UnsignedInterval
deriving DecidableEq

inductive PuschCfgError where
  | notSorted
  | k2ExceedsMax (k2 : Nat)
  | noValidK2 (slot : Nat)
  | endless
deriving DecidableEq

def puschTdLess (l r : PuschTimeDomainResourceAllocation) : Bool :=
  decide (l.k2 < r.k2) || (decide (l.k2 = r.k2) && decide (r.symbols.length ≤ l.symbols.length))

/-- `std::is_sorted`: no element is less than the one before it. -/
def isSortedByK2 : List PuschTimeDomainResourceAllocation → Bool
  | [] => true
  | [_] => true
  | l :: r :: rest => !puschTdLess r l && isSortedByK2 (r :: rest)

/-- The slot of the PDCCH that the check looks at: `period_slots + sl - p.k2`. -/
def pdcchSlotIndex (tdd : TddUlDlConfigCommon) (sl k2 : Nat) : Nat := unsignedSub (tdd.nofSlotsPerTddPeriod + sl) k2

def checkUlSlots (tdd : TddUlDlConfigCommon) (puschLst : List PuschTimeDomainResourceAllocation) :
    Nat → Nat → Except PuschCfgError Unit
  | 0, _ => .error .endless
  | fuel + 1, nextSlot =>
    match tdd.findNextTddFullUlSlot nextSlot with
    | none => .ok ()
    | some sl =>
      if puschLst.all fun p => !tdd.hasActiveTddDlSymbols (pdcchSlotIndex tdd sl p.k2) then .error (.noValidK2 sl)
      else checkUlSlots tdd puschLst fuel (sl + 1)

/-- Every turn of the loop starts behind the slot found last, so that the period bounds the number of turns. -/
def checkCoverage (tdd : TddUlDlConfigCommon) (puschLst : List PuschTimeDomainResourceAllocation) :
    Except PuschCfgError Unit :=
  checkUlSlots tdd puschLst (tdd.nofSlotsPerTddPeriod + 1) 0

/-- `validate_pusch_cfg_common` of a cell with a PUSCH time domain list. -/
def validatePuschCfgCommon (puschLst : List PuschTimeDomainResourceAllocation) (tdd : Option TddUlDlConfigCommon) :
    Except PuschCfgError Unit :=
  if isSortedByK2 puschLst then
    match puschLst.find? fun p => decide (SCHEDULER_MAX_K2 < p.k2) with
    | some p => .error (.k2ExceedsMax p.k2)
    | none =>
      match tdd with
      | none => .ok ()
      | some tdd => checkCoverage tdd puschLst
  else .error .notSorted

section Coverage

variable {tdd : TddUlDlConfigCommon} {puschLst : List PuschTimeDomainResourceAllocation}

/-- A slot that transmits `k2` slots before `sl` in the period. -/
def pdcchSlotOf (tdd : TddUlDlConfigCommon) (sl k2 : Nat) : Nat :=
  (((sl : Int) - (k2 : Int)) % (tdd.nofSlotsPerTddPeriod : Int)).toNat

def Servable (tdd : TddUlDlConfigCommon) (puschLst : List PuschTimeDomainResourceAllocation) : Prop :=
  ∀ sl < tdd.nofSlotsPerTddPeriod, tdd.isTddFullUlSlot sl = true →
    ∃ p ∈ puschLst, tdd.hasActiveTddDlSymbols (pdcchSlotOf tdd sl p.k2) = true

lemma checkUlSlots_ok_iff (fuel next : Nat) (hfuel : tdd.nofSlotsPerTddPeriod < fuel + next) (hpos : 0 < fuel) :
    checkUlSlots tdd puschLst fuel next = .ok () ↔
      ∀ sl, next ≤ sl → sl < tdd.nofSlotsPerTddPeriod → tdd.isTddFullUlSlot sl = true →
        ∃ p ∈ puschLst, tdd.hasActiveTddDlSymbols (pdcchSlotIndex tdd sl p.k2) = true := by
  induction fuel generalizing next with
  | zero => omega
  | succ fuel ih =>
    unfold checkUlSlots
    rcases tdd.findNextTddFullUlSlot_spec next with ⟨hnone, hno⟩ | ⟨sl, hsome, hnext, hlt, hfull, hbetween⟩
    · rw [hnone]
      apply iff_of_true rfl
      intro s hs hperiod hul
      rw [hno s hs hperiod] at hul
      cases hul
    · rw [hsome]
      dsimp only
      split
      case isTrue hall =>
        -- the slot that was found is not served
        apply iff_of_false (by simp)
        intro hserved
        obtain ⟨p, hp, hdl⟩ := hserved sl hnext hlt hfull
        have := List.all_eq_true.mp hall p hp
        rw [hdl] at this
        cases this
      case isFalse hsome =>
        have hmine : ∃ p ∈ puschLst, tdd.hasActiveTddDlSymbols (pdcchSlotIndex tdd sl p.k2) = true := by
          simpa using hsome
        rw [ih (sl + 1) (by omega) (by omega)]
        constructor
        · intro hrest s hs hperiod hul
          rcases Nat.lt_trichotomy s sl with hbefore | rfl | hafter
          · rw [hbetween s hs hbefore] at hul
            cases hul
          · exact hmine
          · exact hrest s hafter hperiod hul
        · intro hall s hs
          exact hall s (by omega)

lemma pdcchSlotIndex_eq {sl k2 : Nat} (hsl : sl < tdd.nofSlotsPerTddPeriod)
    (hk2 : k2 ≤ tdd.nofSlotsPerTddPeriod + sl) :
    tdd.hasActiveTddDlSymbols (pdcchSlotIndex tdd sl k2) = tdd.hasActiveTddDlSymbols (pdcchSlotOf tdd sl k2) := by
  have hperiod := tdd.nofSlots_le
  unfold MAX_NOF_SLOTS_IN_TDD_PATTERN at hperiod
  apply TddUlDlConfigCommon.hasActiveTddDlSymbols_congr
  unfold pdcchSlotIndex pdcchSlotOf unsignedSub
  have hindex : (tdd.nofSlotsPerTddPeriod + sl + 2 ^ 32 - k2) % 2 ^ 32 = tdd.nofSlotsPerTddPeriod + sl - k2 := by
    rw [show tdd.nofSlotsPerTddPeriod + sl + 2 ^ 32 - k2 = tdd.nofSlotsPerTddPeriod + sl - k2 + 2 ^ 32 by omega,
      Nat.add_mod_right, Nat.mod_eq_of_lt (by omega)]
  rw [hindex]
  have hemod := Int.emod_nonneg ((sl : Int) - k2) (by omega : (tdd.nofSlotsPerTddPeriod : Int) ≠ 0)
  have hcast : (((tdd.nofSlotsPerTddPeriod + sl - k2 : Nat) : Int)) = (sl : Int) - k2 + tdd.nofSlotsPerTddPeriod := by
    omega
  apply Int.ofNat_inj.mp
  rw [Int.natCast_emod, Int.natCast_emod, Int.toNat_of_nonneg hemod, hcast, Int.emod_emod_of_dvd _ (dvd_refl _),
    Int.add_emod_right]

lemma pdcchSlotIndex_wrapped {sl k2 : Nat} (hsl : sl < tdd.nofSlotsPerTddPeriod)
    (hk2 : tdd.nofSlotsPerTddPeriod + sl < k2) (hmax : k2 ≤ SCHEDULER_MAX_K2) :
    tdd.hasActiveTddDlSymbols (pdcchSlotIndex tdd sl k2) =
      tdd.hasActiveTddDlSymbols (pdcchSlotOf tdd sl k2 + 2 ^ 32) := by
  unfold SCHEDULER_MAX_K2 at hmax
  apply TddUlDlConfigCommon.hasActiveTddDlSymbols_congr
  unfold pdcchSlotIndex pdcchSlotOf unsignedSub
  rw [Nat.mod_eq_of_lt (by omega : tdd.nofSlotsPerTddPeriod + sl + 2 ^ 32 - k2 < 2 ^ 32)]
  have hemod := Int.emod_nonneg ((sl : Int) - k2) (by omega : (tdd.nofSlotsPerTddPeriod : Int) ≠ 0)
  have hcast : ((tdd.nofSlotsPerTddPeriod + sl + 2 ^ 32 - k2 : Nat) : Int) =
      (sl : Int) - k2 + 2 ^ 32 + tdd.nofSlotsPerTddPeriod := by
    omega
  apply Int.ofNat_inj.mp
  rw [Int.natCast_emod, Int.natCast_emod, hcast, Int.add_emod_right, Int.natCast_add, Int.toNat_of_nonneg hemod,
    Int.emod_add_emod]
  rfl

def ServedDirectly (tdd : TddUlDlConfigCommon) (puschLst : List PuschTimeDomainResourceAllocation) (sl : Nat) : Prop :=
  ∃ p ∈ puschLst, p.k2 ≤ tdd.nofSlotsPerTddPeriod + sl ∧ tdd.hasActiveTddDlSymbols (pdcchSlotOf tdd sl p.k2) = true

/-- An entry that reaches further back has DL symbols `shift` slots behind its PDCCH slot. -/
def ServedFromAfar (tdd : TddUlDlConfigCommon) (puschLst : List PuschTimeDomainResourceAllocation)
    (shift sl : Nat) : Prop :=
  ∃ p ∈ puschLst, tdd.nofSlotsPerTddPeriod + sl < p.k2 ∧
    tdd.hasActiveTddDlSymbols (pdcchSlotOf tdd sl p.k2 + shift) = true

/-- For the full UL slots that only entries from further back can serve, a shift by `2 ^ 32` slots does not change
whether all of them are served. -/
def WrapHarmless (tdd : TddUlDlConfigCommon) (puschLst : List PuschTimeDomainResourceAllocation) : Prop :=
  (∀ sl < tdd.nofSlotsPerTddPeriod, tdd.isTddFullUlSlot sl = true → ¬ ServedDirectly tdd puschLst sl →
    ServedFromAfar tdd puschLst (2 ^ 32) sl) ↔
  ∀ sl < tdd.nofSlotsPerTddPeriod, tdd.isTddFullUlSlot sl = true → ¬ ServedDirectly tdd puschLst sl →
    ServedFromAfar tdd puschLst 0 sl

lemma checkCoverage_ok_iff (hk2 : ∀ p ∈ puschLst, p.k2 ≤ SCHEDULER_MAX_K2) :
    checkCoverage tdd puschLst = .ok () ↔ ∀ sl < tdd.nofSlotsPerTddPeriod, tdd.isTddFullUlSlot sl = true →
      ¬ ServedDirectly tdd puschLst sl → ServedFromAfar tdd puschLst (2 ^ 32) sl := by
  unfold checkCoverage
  rw [checkUlSlots_ok_iff _ _ (by omega) (by omega)]
  apply forall_congr'
  intro sl
  simp only [Nat.zero_le, forall_const]
  apply forall_congr'
  intro hsl
  apply forall_congr'
  intro _
  constructor
  · rintro ⟨p, hp, hdl⟩ hnot
    by_cases hfar : p.k2 ≤ tdd.nofSlotsPerTddPeriod + sl
    · rw [pdcchSlotIndex_eq hsl hfar] at hdl
      exact absurd ⟨p, hp, hfar, hdl⟩ hnot
    · rw [pdcchSlotIndex_wrapped hsl (by omega) (hk2 p hp)] at hdl
      exact ⟨p, hp, by omega, hdl⟩
  · intro h
    by_cases hdirect : ServedDirectly tdd puschLst sl
    · obtain ⟨p, hp, hnear, hdl⟩ := hdirect
      exact ⟨p, hp, by rw [pdcchSlotIndex_eq hsl hnear]; exact hdl⟩
    · obtain ⟨p, hp, hfar, hdl⟩ := h hdirect
      exact ⟨p, hp, by rw [pdcchSlotIndex_wrapped hsl hfar (hk2 p hp)]; exact hdl⟩

lemma servable_iff : Servable tdd puschLst ↔ ∀ sl < tdd.nofSlotsPerTddPeriod, tdd.isTddFullUlSlot sl = true →
    ¬ ServedDirectly tdd puschLst sl → ServedFromAfar tdd puschLst 0 sl := by
  unfold Servable
  apply forall_congr'
  intro sl
  apply forall_congr'
  intro hsl
  apply forall_congr'
  intro _
  constructor
  · rintro ⟨p, hp, hdl⟩ hnot
    by_cases hfar : p.k2 ≤ tdd.nofSlotsPerTddPeriod + sl
    · exact absurd ⟨p, hp, hfar, hdl⟩ hnot
    · exact ⟨p, hp, by omega, hdl⟩
  · intro h
    by_cases hdirect : ServedDirectly tdd puschLst sl
    · obtain ⟨p, hp, -, hdl⟩ := hdirect
      exact ⟨p, hp, hdl⟩
    · obtain ⟨p, hp, -, hdl⟩ := h hdirect
      exact ⟨p, hp, hdl⟩

/-- The coverage check is right exactly when the wrap-around does no harm. -/
theorem checkCoverage_servable_iff (tdd : TddUlDlConfigCommon) (puschLst : List PuschTimeDomainResourceAllocation)
    (hk2 : ∀ p ∈ puschLst, p.k2 ≤ SCHEDULER_MAX_K2) :
    (checkCoverage tdd puschLst = .ok () ↔ Servable tdd puschLst) ↔ WrapHarmless tdd puschLst := by
  rw [checkCoverage_ok_iff hk2, servable_iff]
  rfl

def dddsu : TddUlDlConfigCommon := ⟨⟨5, 3, 5, 1, 0, by decide, by decide, by decide, by decide, by decide⟩, none⟩

def onlyK2 (k2 : Nat) : List PuschTimeDomainResourceAllocation := [⟨k2, ⟨0, 14, by decide⟩⟩]

theorem checkCoverage_servable_iff_dddsu :
    (∀ p ∈ onlyK2 4, p.k2 ≤ SCHEDULER_MAX_K2) ∧
      ((checkCoverage dddsu (onlyK2 4) = .ok () ↔ Servable dddsu (onlyK2 4)) ↔ WrapHarmless dddsu (onlyK2 4)) := by
  have hk2 : ∀ p ∈ onlyK2 4, p.k2 ≤ SCHEDULER_MAX_K2 := by decide
  exact ⟨hk2, checkCoverage_servable_iff dddsu (onlyK2 4) hk2⟩

/-- The only entry leads from UL slot to UL slot, and the configuration passes. -/
theorem checkCoverage_not_servable :
    (∀ p ∈ onlyK2 10, p.k2 ≤ SCHEDULER_MAX_K2) ∧ validatePuschCfgCommon (onlyK2 10) (some dddsu) = .ok () ∧
      ¬ (checkCoverage dddsu (onlyK2 10) = .ok () ↔ Servable dddsu (onlyK2 10)) := by
  have hok : checkCoverage dddsu (onlyK2 10) = .ok () := by decide +kernel
  refine ⟨by decide, by decide +kernel, ?_⟩
  intro h
  obtain ⟨p, hp, hdl⟩ := h.mp hok 4 (by decide) (by decide)
  rw [List.mem_singleton.mp hp] at hdl
  exact absurd hdl (by decide)

end Coverage

end OwlsRan.Sched
