import OwlsRan.Ran.SlotPoint
import Mathlib.Tactic.Lemma
import Mathlib.Data.Set.Defs

/-!
# The cyclic order of slots

Differences and comparisons of slot points are taken around the hyper system frame, the nearer way.
-/

namespace OwlsRan.Ran

namespace SlotPoint

/-- `operator-`: the corrections are made in the unsigned type of the number of slots and converted to `int`. -/
def diff (s other : SlotPoint) : Int :=
  let a : Int := (s.count : Int) - other.count
  let half : Int := (s.nofSlotsPerHyperSystemFrame : Int) / 2
  if half ≤ a then (a - s.nofSlotsPerHyperSystemFrame).bmod (2 ^ 32)
  else if a < -half then (a + s.nofSlotsPerHyperSystemFrame).bmod (2 ^ 32)
  else a

/-- Exactly one of `s < other`, `s == other` and `s > other` holds. -/
def Trichotomous (s other : SlotPoint) : Prop :=
  s.lt other = true ∧ s ≠ other ∧ s.gt other = false ∨
    s.lt other = false ∧ s = other ∧ s.gt other = false ∨
    s.lt other = false ∧ s ≠ other ∧ s.gt other = true

/-- The slots of `S` lie among the `length` slots from `start` on. -/
def InWindow (start : SlotPoint) (length : Nat) (S : Set SlotPoint) : Prop :=
  ∀ s ∈ S, ∃ i < length, s = start.add i

variable {s other : SlotPoint}

lemma ext_count (hnum : s.numerology = other.numerology) (hcount : s.count = other.count) : s = other := by
  cases s
  cases other
  simp_all

lemma half_hyperFrame (hs : s.valid) :
    ∃ half, s.nofSlotsPerHyperSystemFrame = 2 * half ∧ 0 < half ∧ half < 2 ^ 20 := by
  have hle : s.numerology ≤ 4 := Nat.le_of_lt_succ hs
  have hpow : 2 ^ s.numerology ≤ 2 ^ 4 := Nat.pow_le_pow_right (by omega) hle
  have hpos : 0 < 2 ^ s.numerology := by positivity
  refine ⟨5120 * 2 ^ s.numerology, ?_, by omega, by omega⟩
  rw [hyperFrame_eq]
  omega

lemma diff_cases (hs : s.valid) (hws : s.WellFormed) (hwo : other.WellFormed)
    (hnum : s.numerology = other.numerology) :
    ((s.nofSlotsPerHyperSystemFrame : Int) ≤ 2 * ((s.count : Int) - other.count) ∧
        s.diff other = (s.count : Int) - other.count - s.nofSlotsPerHyperSystemFrame) ∨
      (2 * ((s.count : Int) - other.count) < -s.nofSlotsPerHyperSystemFrame ∧
        s.diff other = (s.count : Int) - other.count + s.nofSlotsPerHyperSystemFrame) ∨
      (-(s.nofSlotsPerHyperSystemFrame : Int) ≤ 2 * ((s.count : Int) - other.count) ∧
        2 * ((s.count : Int) - other.count) < s.nofSlotsPerHyperSystemFrame ∧
        s.diff other = (s.count : Int) - other.count) := by
  obtain ⟨half, hhalf, hpos, hlt⟩ := half_hyperFrame hs
  unfold WellFormed at hws hwo
  rw [← hyperFrame_congr hnum] at hwo
  rw [diff, hhalf]
  rw [hhalf] at hws hwo
  have hword {x : Int} (hx : x.natAbs < 2 ^ 21) : x.bmod (2 ^ 32) = x := by
    apply Int.bmod_eq_of_le <;> omega
  split
  · rw [hword (by omega)]
    omega
  · split
    · rw [hword (by omega)]
      omega
    · omega

/-- The difference is the one of the counts modulo the hyper system frame, in the half-open range around zero. -/
lemma diff_eq_bmod (hs : s.valid) (hws : s.WellFormed) (hwo : other.WellFormed)
    (hnum : s.numerology = other.numerology) :
    s.diff other = ((s.count : Int) - other.count).bmod s.nofSlotsPerHyperSystemFrame := by
  obtain ⟨half, hhalf, hpos, hlt⟩ := half_hyperFrame hs
  symm
  rw [Int.bmod_eq_iff s.hyperFrame_pos]
  rcases diff_cases hs hws hwo hnum with ⟨hge, hdiff⟩ | ⟨hlow, hdiff⟩ | ⟨hge, hlow, hdiff⟩
  · unfold WellFormed at hws
    exact ⟨by omega, by omega, ⟨-1, by omega⟩⟩
  · unfold WellFormed at hwo
    rw [← hyperFrame_congr hnum] at hwo
    exact ⟨by omega, by omega, ⟨1, by omega⟩⟩
  · exact ⟨by omega, by omega, ⟨0, by omega⟩⟩

lemma addInt_wellFormed (s : SlotPoint) (d : Int) : (s.addInt d).WellFormed := by
  have hpos : (0 : Int) < s.nofSlotsPerHyperSystemFrame := by exact_mod_cast s.hyperFrame_pos
  have hlt := Int.emod_lt_of_pos ((s.count : Int) + d) hpos
  rw [← addInt_count] at hlt
  exact_mod_cast hlt

lemma diff_addInt (hs : s.valid) (hws : s.WellFormed) {d : Int} (hd : 2 * d.natAbs < s.nofSlotsPerHyperSystemFrame) :
    (s.addInt d).diff s = d := by
  have hframe : (s.addInt d).nofSlotsPerHyperSystemFrame = s.nofSlotsPerHyperSystemFrame := rfl
  rw [diff_eq_bmod (s := s.addInt d) hs (addInt_wellFormed s d) hws rfl, hframe, addInt_count, Int.emod_sub_bmod,
    add_sub_cancel_left]
  apply Int.bmod_eq_of_le <;> omega

lemma addInt_natCast (s : SlotPoint) (d : Nat) : s.addInt d = s.add d := by
  apply ext_count
  · rfl
  · apply Int.ofNat_inj.mp
    rw [addInt_count, add_count]
    simp

lemma addInt_diff (hs : s.valid) (hws : s.WellFormed) (hwo : other.WellFormed)
    (hnum : s.numerology = other.numerology) : s.addInt (other.diff s) = other := by
  have ho : other.valid := by rwa [valid, ← hnum]
  apply ext_count
  · exact hnum
  · apply Int.ofNat_inj.mp
    have hlt : (other.count : Int) < s.nofSlotsPerHyperSystemFrame := by
      rw [hyperFrame_congr hnum]
      exact_mod_cast hwo
    rw [addInt_count, diff_eq_bmod ho hwo hws hnum.symm, ← hyperFrame_congr hnum, ← Int.add_emod_emod, Int.bmod_emod,
      Int.add_emod_emod, add_sub_cancel]
    exact Int.emod_eq_of_lt (Int.natCast_nonneg _) hlt

lemma lt_iff_diff_pos (hs : s.valid) (hws : s.WellFormed) (hwo : other.WellFormed)
    (hnum : s.numerology = other.numerology) : s.lt other = true ↔ 0 < other.diff s := by
  obtain ⟨half, hhalf, hpos, -⟩ := half_hyperFrame hs
  have ho : other.valid := by rwa [valid, ← hnum]
  have hcases := diff_cases ho hwo hws hnum.symm
  unfold WellFormed at hws hwo
  rw [← hyperFrame_congr hnum] at hcases hwo
  rw [hhalf] at hcases hws hwo
  rw [lt, hhalf]
  split
  · rw [decide_eq_true_eq]
    omega
  · rw [decide_eq_true_eq]
    omega

lemma lt_irrefl (s : SlotPoint) : s.lt s = false := by
  have hpos := s.hyperFrame_pos
  simp only [lt, sub_self, lt_self_iff_false, if_false, decide_eq_false_iff_not]
  omega

lemma trichotomous (s other : SlotPoint) : s.Trichotomous other := by
  unfold Trichotomous
  by_cases heq : s = other
  · rw [heq, gt, ge, lt_irrefl]
    simp
  · cases hlt : s.lt other <;> simp [gt, ge, hlt, heq]

lemma lt_trans_of_inWindow {start a b c : SlotPoint} {length : Nat} {S : Set SlotPoint}
    (hlength : 2 * length ≤ start.nofSlotsPerHyperSystemFrame) (hS : InWindow start length S)
    (ha : a ∈ S) (hb : b ∈ S) (hc : c ∈ S) (hab : a.lt b = true) (hbc : b.lt c = true) : a.lt c = true := by
  obtain ⟨i, hi, rfl⟩ := hS a ha
  obtain ⟨j, hj, rfl⟩ := hS b hb
  obtain ⟨k, hk, rfl⟩ := hS c hc
  rw [add_lt_add_iff (by omega) (by omega)] at hab hbc ⊢
  exact hab.trans hbc

/-- Addition, difference and comparison of the slots of one numerology are those of a cyclic order. -/
theorem slot_arithmetic_cyclic {a b : SlotPoint} (ha : a.valid) (hwa : a.WellFormed) (hwb : b.WellFormed)
    (hnum : a.numerology = b.numerology) :
    (∀ d : Int, d.natAbs < a.nofSlotsPerHyperSystemFrame / 2 → (a.addInt d).diff a = d) ∧
      (∀ d : Nat, d < a.nofSlotsPerHyperSystemFrame / 2 → (a.add d).diff a = d) ∧
      a.addInt (b.diff a) = b ∧
      (a.lt b = true ↔ 0 < b.diff a) ∧
      a.Trichotomous b ∧
      ∀ (start : SlotPoint) (length : Nat) (S : Set SlotPoint), length ≤ start.nofSlotsPerHyperSystemFrame / 2 →
        InWindow start length S → ∀ x ∈ S, ∀ y ∈ S, ∀ z ∈ S, x.lt y = true → y.lt z = true → x.lt z = true := by
  refine ⟨fun d hd => diff_addInt ha hwa (by omega), fun d hd => ?_, addInt_diff ha hwa hwb hnum,
    lt_iff_diff_pos ha hwa hwb hnum, trichotomous a b, fun start length S hlength hS x hx y hy z hz hxy hyz => ?_⟩
  · rw [← addInt_natCast]
    exact diff_addInt ha hwa (by omega)
  · exact lt_trans_of_inWindow (by omega) hS hx hy hz hxy hyz

/-- Two slots half a hyper system frame apart: neither is before the other. -/
theorem slot_arithmetic_cyclic_half :
    (⟨0, 0⟩ : SlotPoint).addInt ((⟨0, 5120⟩ : SlotPoint).diff ⟨0, 0⟩) = ⟨0, 5120⟩ ∧
      (⟨0, 0⟩ : SlotPoint).Trichotomous ⟨0, 5120⟩ := by
  have h := slot_arithmetic_cyclic (a := ⟨0, 0⟩) (b := ⟨0, 5120⟩) (by decide) (by decide) (by decide) rfl
  exact ⟨h.2.2.1, h.2.2.2.2.1⟩

end SlotPoint

end OwlsRan.Ran
