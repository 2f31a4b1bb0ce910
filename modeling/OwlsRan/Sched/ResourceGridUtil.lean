import Mathlib.Data.Nat.Log
import OwlsRan.Lib.SequenceNumber
import OwlsRan.Ran.SlotPoint

namespace OwlsRan.Sched
open OwlsRan.Ran

/-- The fields of `cell_configuration` that the rings of the scheduler depend on. -/
structure CellConfiguration where
  ntnCsKoffset : Nat
  /-- The numerology of the largest DL subcarrier spacing. -/
  numerology : Fin NOF_NUMEROLOGIES
  getNofDlSymbolPerSlot : SlotPoint → Nat
  getNofUlSymbolPerSlot : SlotPoint → Nat
  /-- The `k2` of the PUSCH time domain resources. -/
  puschK2s : List Nat
  puschK2s_ne : puschK2s ≠ []

open OwlsRan.Lib

def SCHEDULER_MAX_K0 : Nat := 15

def SCHEDULER_MAX_K1 : Nat := 15

def SCHEDULER_MAX_K2 : Nat := 11

def MAX_MSG3_DELTA : Nat := 6

def NTN_CELL_SPECIFIC_KOFFSET_MAX : Nat := 512

def divideCeil (num den : Nat) : Nat := (num + (den - 1)) / den

/-- The loop `while (x >>= 1) power <<= 1`; the fuel bounds the number of halvings. -/
def power2CeilLoop : Nat → Nat → Nat → Nat
  | 0, _, power => power
  | fuel + 1, x, power => if x / 2 = 0 then power else power2CeilLoop fuel (x / 2) (2 * power)

def power2Ceil (x : Nat) : Nat :=
  if x ≤ 1 then 1 else power2CeilLoop (x - 1) (x - 1) 2

/-- Ring size for the resource grid: at least `minimumValue`, in whole frames of the given numerology. The
callers that do not know the numerology pass 0 (15 kHz). -/
def getAllocatorRingSizeGtMin (minimumValue numerology : Nat) : Nat :=
  let slotsPerFrame := 10 * 2 ^ numerology
  let framesCeil := divideCeil minimumValue slotsPerFrame
  power2Ceil framesCeil * slotsPerFrame

def getMaxSlotUlAllocDelay (ntnCsKoffset : Nat) : Nat :=
  SCHEDULER_MAX_K0 + max SCHEDULER_MAX_K1 (SCHEDULER_MAX_K2 + MAX_MSG3_DELTA) + ntnCsKoffset

lemma power2CeilLoop_eq (fuel x power : Nat) (hx : 0 < x) (hfuel : x ≤ fuel) :
    power2CeilLoop fuel x power = power * 2 ^ Nat.log 2 x := by
  induction fuel generalizing x power with
  | zero => omega
  | succ fuel ih =>
    unfold power2CeilLoop
    split
    case isTrue h =>
      have hx1 : x = 1 := by omega
      simp [hx1]
    case isFalse h =>
      rw [ih (x / 2) (2 * power) (by omega) (by omega)]
      have hlog : Nat.log 2 x = Nat.log 2 (x / 2) + 1 := Nat.log_of_one_lt_of_le (by omega) (by omega)
      rw [hlog, pow_succ]
      ring

lemma power2Ceil_eq (x : Nat) : power2Ceil x = 2 ^ Nat.clog 2 x := by
  unfold power2Ceil
  split
  case isTrue h => rw [Nat.clog_of_right_le_one h, pow_zero]
  case isFalse h =>
    rw [power2CeilLoop_eq _ _ _ (by omega) le_rfl, ← pow_succ']
    congr 1
    have hpos : x ≤ 2 ^ (Nat.log 2 (x - 1) + 1) := by
      have := Nat.lt_pow_succ_log_self (b := 2) (by omega) (x - 1)
      omega
    have hle : Nat.clog 2 x ≤ Nat.log 2 (x - 1) + 1 := Nat.clog_le_of_le_pow hpos
    have hge : Nat.log 2 (x - 1) < Nat.clog 2 x := by
      rw [Nat.lt_clog_iff_pow_lt (by omega)]
      have := Nat.pow_log_le_self 2 (x := x - 1) (by omega)
      omega
    omega

lemma le_power2Ceil (x : Nat) : x ≤ power2Ceil x := by
  rw [power2Ceil_eq]
  exact Nat.le_pow_clog (by omega) x

lemma le_divideCeil_mul (num : Nat) {den : Nat} (hden : 0 < den) : num ≤ divideCeil num den * den := by
  unfold divideCeil
  have hmod := Nat.mod_lt (num + (den - 1)) hden
  have hdiv := Nat.div_add_mod' (num + (den - 1)) den
  omega

lemma le_ringSize (m numerology : Nat) : m ≤ getAllocatorRingSizeGtMin m numerology := by
  unfold getAllocatorRingSizeGtMin
  dsimp only
  have hpos : 0 < 10 * 2 ^ numerology := by positivity
  exact (le_divideCeil_mul m hpos).trans (Nat.mul_le_mul_right _ (le_power2Ceil _))

lemma ringSize_eq (m numerology : Nat) :
    ∃ k, getAllocatorRingSizeGtMin m numerology = 10 * 2 ^ (k + numerology) := by
  unfold getAllocatorRingSizeGtMin
  dsimp only
  rw [power2Ceil_eq]
  exact ⟨Nat.clog 2 (divideCeil m (10 * 2 ^ numerology)), by ring⟩

lemma ringSize_pos (m numerology : Nat) : 0 < getAllocatorRingSizeGtMin m numerology := by
  obtain ⟨k, hk⟩ := ringSize_eq m numerology
  rw [hk]
  positivity

lemma ringSize_fits (m : Nat) (s : SlotPoint) :
    RingFits (getAllocatorRingSizeGtMin m 0) s.nofSlotsPerHyperSystemFrame := by
  obtain ⟨k, hk⟩ := ringSize_eq m 0
  have hH : s.nofSlotsPerHyperSystemFrame = 10 * 2 ^ (10 + s.numerology) := by
    rw [SlotPoint.hyperFrame_eq, pow_add]
    ring
  rw [hk, hH, Nat.add_zero]
  rcases Nat.le_total k (10 + s.numerology) with h | h
  · exact Or.inl (Nat.mul_dvd_mul_left 10 (Nat.pow_dvd_pow 2 h))
  · exact Or.inr (Nat.mul_le_mul_left 10 (Nat.pow_le_pow_right (by omega) h))

lemma ringSize_le_half {m : Nat} {s : SlotPoint} (h : 2 * m ≤ s.nofSlotsPerHyperSystemFrame) :
    2 * getAllocatorRingSizeGtMin m 0 ≤ s.nofSlotsPerHyperSystemFrame := by
  have hH : s.nofSlotsPerHyperSystemFrame = 20 * 2 ^ (9 + s.numerology) := by
    rw [SlotPoint.hyperFrame_eq, pow_add]
    ring
  rw [hH] at h ⊢
  unfold getAllocatorRingSizeGtMin divideCeil
  dsimp only
  rw [power2Ceil_eq, pow_zero]
  have hclog : Nat.clog 2 ((m + (10 * 1 - 1)) / (10 * 1)) ≤ 9 + s.numerology := by
    apply Nat.clog_le_of_le_pow
    omega
  have hpow := Nat.pow_le_pow_right (n := 2) (by omega) hclog
  omega

end OwlsRan.Sched
