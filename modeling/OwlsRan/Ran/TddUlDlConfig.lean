import Mathlib.Algebra.Group.Nat.Defs
import Mathlib.Data.List.Basic
import Mathlib.Tactic.Lemma
import OwlsRan.Lib.OrderedList

/-!
# TDD patterns

`tdd_ul_dl_config_common`: one or two patterns, each with its DL slots and symbols at the start and its UL slots and
symbols at the end. A slot index is taken modulo the period of both patterns.
-/

namespace OwlsRan.Ran

open OwlsRan.Lib

def NOF_OFDM_SYM_PER_SLOT_NORMAL_CP : Nat := 14

/-- `maxNrofSlots`. -/
def MAX_NOF_SLOTS_IN_TDD_PATTERN : Nat := 320

/-- A difference of `unsigned`. -/
def unsignedSub (a b : Nat) : Nat := (a + 2 ^ 32 - b) % 2 ^ 32

structure TddUlDlPattern where
  dlUlTxPeriodNofSlots : Nat
  nofDlSlots : Nat
  nofDlSymbols : Nat
  nofUlSlots : Nat
  nofUlSymbols : Nat
  period_le : dlUlTxPeriodNofSlots ≤ MAX_NOF_SLOTS_IN_TDD_PATTERN
  dlSlots_le : nofDlSlots ≤ MAX_NOF_SLOTS_IN_TDD_PATTERN
  dlSymbols_le : nofDlSymbols < NOF_OFDM_SYM_PER_SLOT_NORMAL_CP
  ulSlots_le : nofUlSlots ≤ MAX_NOF_SLOTS_IN_TDD_PATTERN
  ulSymbols_le : nofUlSymbols < NOF_OFDM_SYM_PER_SLOT_NORMAL_CP
deriving DecidableEq

structure TddUlDlConfigCommon where
  pattern1 : TddUlDlPattern
  pattern2 : Option TddUlDlPattern
deriving DecidableEq

namespace TddUlDlPattern

/-- What `nof_active_symbols` returns for a slot of the pattern. -/
def nofActiveSymbols (pattern : TddUlDlPattern) (slotIdxPeriod : Nat) (isDl : Bool) : Nat :=
  if isDl then
    if slotIdxPeriod < pattern.nofDlSlots then NOF_OFDM_SYM_PER_SLOT_NORMAL_CP
    else if slotIdxPeriod = pattern.nofDlSlots then pattern.nofDlSymbols
    else 0
  else
    let ulPatternStart := unsignedSub pattern.dlUlTxPeriodNofSlots pattern.nofUlSlots
    if ulPatternStart ≤ slotIdxPeriod then NOF_OFDM_SYM_PER_SLOT_NORMAL_CP
    else if slotIdxPeriod = unsignedSub ulPatternStart 1 then pattern.nofUlSymbols
    else 0

end TddUlDlPattern

namespace TddUlDlConfigCommon

def nofSlotsPerTddPeriod (cfg : TddUlDlConfigCommon) : Nat :=
  cfg.pattern1.dlUlTxPeriodNofSlots + match cfg.pattern2 with
    | some pattern2 => pattern2.dlUlTxPeriodNofSlots
    | none => 0

/-- `nof_active_symbols` with the normal cyclic prefix. -/
def nofActiveSymbols (cfg : TddUlDlConfigCommon) (slotIndex : Nat) (isDl : Bool) : Nat :=
  let slotIdxPeriod := slotIndex % cfg.nofSlotsPerTddPeriod
  if slotIdxPeriod < cfg.pattern1.dlUlTxPeriodNofSlots then cfg.pattern1.nofActiveSymbols slotIdxPeriod isDl
  else match cfg.pattern2 with
    | some pattern2 => pattern2.nofActiveSymbols (slotIdxPeriod - cfg.pattern1.dlUlTxPeriodNofSlots) isDl
    | none => 0

def hasActiveTddDlSymbols (cfg : TddUlDlConfigCommon) (slotIndex : Nat) : Bool :=
  decide (0 < cfg.nofActiveSymbols slotIndex true)

def isTddFullUlSlot (cfg : TddUlDlConfigCommon) (slotIndex : Nat) : Bool :=
  cfg.nofActiveSymbols slotIndex false == NOF_OFDM_SYM_PER_SLOT_NORMAL_CP

/-- The length of `get_active_tdd_ul_symbols`, where no symbols make the empty range. -/
def activeTddUlSymbolsLength (cfg : TddUlDlConfigCommon) (slotIndex : Nat) : Nat :=
  let nofSymbols := cfg.nofActiveSymbols slotIndex false
  if 0 < nofSymbols then NOF_OFDM_SYM_PER_SLOT_NORMAL_CP - (NOF_OFDM_SYM_PER_SLOT_NORMAL_CP - nofSymbols) else 0

def findNextTddFullUlSlot (cfg : TddUlDlConfigCommon) (startSlotIndex : Nat) : Option Nat :=
  (List.range' startSlotIndex (cfg.nofSlotsPerTddPeriod - startSlotIndex)).find? fun i =>
    cfg.activeTddUlSymbolsLength i == NOF_OFDM_SYM_PER_SLOT_NORMAL_CP

section Lemmas

variable {cfg : TddUlDlConfigCommon}

lemma nofSlots_le (cfg : TddUlDlConfigCommon) : cfg.nofSlotsPerTddPeriod ≤ 2 * MAX_NOF_SLOTS_IN_TDD_PATTERN := by
  have h1 := cfg.pattern1.period_le
  unfold nofSlotsPerTddPeriod
  cases cfg.pattern2 with
  | none => dsimp only; omega
  | some pattern2 =>
    have := pattern2.period_le
    dsimp only
    omega

lemma nofActiveSymbols_congr {i j : Nat} (h : i % cfg.nofSlotsPerTddPeriod = j % cfg.nofSlotsPerTddPeriod)
    (isDl : Bool) : cfg.nofActiveSymbols i isDl = cfg.nofActiveSymbols j isDl := by
  unfold nofActiveSymbols
  rw [h]

lemma hasActiveTddDlSymbols_congr {i j : Nat} (h : i % cfg.nofSlotsPerTddPeriod = j % cfg.nofSlotsPerTddPeriod) :
    cfg.hasActiveTddDlSymbols i = cfg.hasActiveTddDlSymbols j := by
  unfold hasActiveTddDlSymbols
  rw [nofActiveSymbols_congr h]

lemma patternSymbols_le (pattern : TddUlDlPattern) (i : Nat) (isDl : Bool) :
    pattern.nofActiveSymbols i isDl ≤ NOF_OFDM_SYM_PER_SLOT_NORMAL_CP := by
  have := pattern.dlSymbols_le
  have := pattern.ulSymbols_le
  unfold TddUlDlPattern.nofActiveSymbols
  dsimp only
  split
  · split
    · exact Nat.le_refl _
    · split <;> omega
  · split
    · exact Nat.le_refl _
    · split <;> omega

lemma nofActiveSymbols_le (cfg : TddUlDlConfigCommon) (i : Nat) (isDl : Bool) :
    cfg.nofActiveSymbols i isDl ≤ NOF_OFDM_SYM_PER_SLOT_NORMAL_CP := by
  unfold nofActiveSymbols
  dsimp only
  split
  · exact patternSymbols_le _ _ _
  · split
    · exact patternSymbols_le _ _ _
    · exact Nat.zero_le _

lemma activeTddUlSymbolsLength_full (cfg : TddUlDlConfigCommon) (i : Nat) :
    (cfg.activeTddUlSymbolsLength i == NOF_OFDM_SYM_PER_SLOT_NORMAL_CP) = cfg.isTddFullUlSlot i := by
  have hle := nofActiveSymbols_le cfg i false
  have hlength : cfg.activeTddUlSymbolsLength i = cfg.nofActiveSymbols i false := by
    unfold activeTddUlSymbolsLength
    dsimp only
    split <;> omega
  rw [hlength]
  rfl

lemma findNextTddFullUlSlot_spec (cfg : TddUlDlConfigCommon) (start : Nat) :
    (cfg.findNextTddFullUlSlot start = none ∧
      ∀ s, start ≤ s → s < cfg.nofSlotsPerTddPeriod → cfg.isTddFullUlSlot s = false) ∨
    ∃ sl, cfg.findNextTddFullUlSlot start = some sl ∧ start ≤ sl ∧ sl < cfg.nofSlotsPerTddPeriod ∧
      cfg.isTddFullUlSlot sl = true ∧ ∀ s, start ≤ s → s < sl → cfg.isTddFullUlSlot s = false := by
  unfold findNextTddFullUlSlot
  simp only [activeTddUlSymbolsLength_full]
  cases hfind : (List.range' start (cfg.nofSlotsPerTddPeriod - start)).find? fun i => cfg.isTddFullUlSlot i with
  | none =>
    left
    exact ⟨rfl, fun s hs hlt => find?_range'_eq_none hfind s hs (by omega)⟩
  | some sl =>
    right
    obtain ⟨hstart, hlt, hfull, hbefore⟩ := find?_range'_eq_some hfind
    exact ⟨sl, rfl, hstart, by omega, hfull, hbefore⟩

end Lemmas

end TddUlDlConfigCommon

end OwlsRan.Ran
