import Mathlib.Data.Nat.ModEq
import Mathlib.Data.Int.ModEq
import Mathlib.Tactic.Positivity
import Mathlib.Tactic.Ring

namespace OwlsRan.Ran

def NOF_SUBFRAMES_PER_FRAME : Nat := 10

def NOF_SFNS : Nat := 1024

def NOF_NUMEROLOGIES : Nat := 5

/-- `slot_point`: a numerology and a slot count that wraps around with the hyper system frame. -/
structure SlotPoint where
  numerology : Nat
  count : Nat
deriving DecidableEq

namespace SlotPoint

def invalid : SlotPoint := ⟨NOF_NUMEROLOGIES, 0⟩

def valid (s : SlotPoint) : Prop := s.numerology < NOF_NUMEROLOGIES

instance (s : SlotPoint) : Decidable s.valid := inferInstanceAs (Decidable (_ < _))

def nofSlotsPerSubframe (s : SlotPoint) : Nat := 2 ^ s.numerology

def nofSlotsPerFrame (s : SlotPoint) : Nat := s.nofSlotsPerSubframe * NOF_SUBFRAMES_PER_FRAME

def nofSlotsPerHyperSystemFrame (s : SlotPoint) : Nat := s.nofSlotsPerFrame * NOF_SFNS

def sfn (s : SlotPoint) : Nat := s.count / s.nofSlotsPerFrame % NOF_SFNS

/-- `operator<`: the comparison is modulo the wrap-around, with half a hyper system frame on either side.
Slots of one cell share a numerology, which the source asserts. -/
def lt (s other : SlotPoint) : Bool :=
  let v : Int := (other.count : Int) - s.count
  let half : Int := (s.nofSlotsPerHyperSystemFrame : Int) / 2
  if 0 < v then decide (v < half) else decide (v < -half)

def ge (s other : SlotPoint) : Bool := !s.lt other

def gt (s other : SlotPoint) : Bool := decide (s ≠ other) && s.ge other

def max (s other : SlotPoint) : SlotPoint := if s.gt other then s else other

/-- `operator+` for an unsigned jump. Jumps stay far below the range of the machine integer. -/
def add (s : SlotPoint) (jump : Nat) : SlotPoint :=
  { s with count := (s.count + jump) % s.nofSlotsPerHyperSystemFrame }

/-- `operator+` for a signed jump: C++ remainder, then one correction when it is negative. -/
def addInt (s : SlotPoint) (jump : Int) : SlotPoint :=
  let nofSlots : Int := s.nofSlotsPerHyperSystemFrame
  let tmp := ((s.count : Int) + jump).tmod nofSlots
  { s with count := (tmp + if tmp < 0 then nofSlots else 0).toNat }

def sub (s : SlotPoint) (jump : Nat) : SlotPoint := s.addInt (-(jump : Int))

def WellFormed (s : SlotPoint) : Prop := s.count < s.nofSlotsPerHyperSystemFrame

instance (s : SlotPoint) : Decidable s.WellFormed := inferInstanceAs (Decidable (_ < _))

lemma not_valid_invalid : ¬invalid.valid := by decide

@[simp] lemma add_numerology (s : SlotPoint) (j : Nat) : (s.add j).numerology = s.numerology := rfl

@[simp] lemma add_count (s : SlotPoint) (j : Nat) :
    (s.add j).count = (s.count + j) % s.nofSlotsPerHyperSystemFrame := rfl

lemma hyperFrame_eq (s : SlotPoint) : s.nofSlotsPerHyperSystemFrame = 10240 * 2 ^ s.numerology := by
  unfold nofSlotsPerHyperSystemFrame nofSlotsPerFrame nofSlotsPerSubframe NOF_SUBFRAMES_PER_FRAME NOF_SFNS
  ring

lemma hyperFrame_pos (s : SlotPoint) : 0 < s.nofSlotsPerHyperSystemFrame := by
  rw [hyperFrame_eq]
  positivity

variable {s : SlotPoint}

lemma hyperFrame_congr {t : SlotPoint} (h : s.numerology = t.numerology) :
    s.nofSlotsPerHyperSystemFrame = t.nofSlotsPerHyperSystemFrame := by
  rw [hyperFrame_eq, hyperFrame_eq, h]

@[simp] lemma add_hyperFrame (s : SlotPoint) (j : Nat) :
    (s.add j).nofSlotsPerHyperSystemFrame = s.nofSlotsPerHyperSystemFrame := rfl

lemma add_wellFormed (s : SlotPoint) (j : Nat) : (s.add j).WellFormed :=
  Nat.mod_lt _ s.hyperFrame_pos

lemma add_add (s : SlotPoint) (i j : Nat) : (s.add i).add j = s.add (i + j) := by
  unfold add
  simp only [SlotPoint.mk.injEq, true_and]
  change ((s.count + i) % s.nofSlotsPerHyperSystemFrame + j) % s.nofSlotsPerHyperSystemFrame = _
  rw [Nat.mod_add_mod, Nat.add_assoc]

variable {i j : Nat}

lemma add_congr (h : i % s.nofSlotsPerHyperSystemFrame = j % s.nofSlotsPerHyperSystemFrame) : s.add i = s.add j := by
  unfold add
  simp only [SlotPoint.mk.injEq, true_and]
  exact Nat.ModEq.add_left s.count h

lemma add_eq_add_iff : s.add i = s.add j ↔ i % s.nofSlotsPerHyperSystemFrame = j % s.nofSlotsPerHyperSystemFrame := by
  constructor
  · intro h
    have hc : s.count + i ≡ s.count + j [MOD s.nofSlotsPerHyperSystemFrame] := by
      exact congrArg SlotPoint.count h
    exact Nat.ModEq.add_left_cancel' s.count hc
  · exact add_congr

lemma addInt_count (s : SlotPoint) (j : Int) :
    ((s.addInt j).count : Int) = ((s.count : Int) + j) % s.nofSlotsPerHyperSystemFrame := by
  have hH : (0 : Int) < s.nofSlotsPerHyperSystemFrame := by exact_mod_cast s.hyperFrame_pos
  generalize hx : (s.count : Int) + j = x
  have hcount : ((s.addInt j).count : Int) = ((x.tmod s.nofSlotsPerHyperSystemFrame +
      if x.tmod s.nofSlotsPerHyperSystemFrame < 0 then
        (s.nofSlotsPerHyperSystemFrame : Int) else 0).toNat : Int) := by
    rw [← hx]
    rfl
  rw [hcount]
  have hlt := Int.tmod_lt_of_pos x hH
  have hgt : -(s.nofSlotsPerHyperSystemFrame : Int) < x.tmod s.nofSlotsPerHyperSystemFrame := by
    have hneg := Int.tmod_lt_of_pos (-x) hH
    rw [Int.neg_tmod] at hneg
    omega
  have hmod : x.tmod s.nofSlotsPerHyperSystemFrame ≡ x [ZMOD s.nofSlotsPerHyperSystemFrame] := by
    have hdiv := Int.tmod_add_mul_tdiv x s.nofSlotsPerHyperSystemFrame
    refine Int.modEq_iff_dvd.mpr ⟨x.tdiv s.nofSlotsPerHyperSystemFrame, ?_⟩
    exact sub_eq_of_eq_add' hdiv.symm
  rw [← hmod]
  split
  · rw [Int.toNat_of_nonneg (by omega), ← Int.add_emod_right]
    exact (Int.emod_eq_of_lt (by omega) (by omega)).symm
  · rw [add_zero, Int.toNat_of_nonneg (by omega)]
    exact (Int.emod_eq_of_lt (by omega) (by omega)).symm

lemma add_sub (h : j ≤ i) : (s.add i).sub j = s.add (i - j) := by
  have hcount : ((s.add i).sub j).count = (s.add (i - j)).count := by
    have hInt := addInt_count (s.add i) (-(j : Int))
    have hcast : (((s.add (i - j)).count : Nat) : Int) =
        ((s.count : Int) + (i - j : Nat)) % s.nofSlotsPerHyperSystemFrame := by
      simp
    apply Int.ofNat_inj.mp
    change ((((s.add i).addInt (-(j : Int))).count : Nat) : Int) = ((s.add (i - j)).count : Int)
    rw [hInt, hcast]
    simp only [add_count, add_hyperFrame, Int.natCast_emod, Int.natCast_add, Int.emod_add_emod]
    congr 1
    omega
  exact SlotPoint.mk.injEq .. |>.mpr ⟨rfl, hcount⟩

lemma add_gt_add (h : j < i) (hhalf : 2 * (i - j) < s.nofSlotsPerHyperSystemFrame) :
    (s.add i).gt (s.add j) = true := by
  have hne : s.add i ≠ s.add j := by
    intro heq
    have hmod := add_eq_add_iff.mp heq
    have hdvd := (Nat.modEq_iff_dvd' h.le).mp hmod.symm
    have := Nat.le_of_dvd (by omega) hdvd
    omega
  have hcount : (s.add i).count = ((s.add j).count + (i - j)) % s.nofSlotsPerHyperSystemFrame := by
    have hadd := congrArg SlotPoint.count (add_add s j (i - j))
    rw [add_count, add_hyperFrame] at hadd
    rw [hadd, Nat.add_sub_cancel' h.le]
  have hj : (s.add j).count < s.nofSlotsPerHyperSystemFrame := add_wellFormed s j
  have hlt : (s.add i).lt (s.add j) = false := by
    simp only [lt, add_hyperFrame, hcount]
    rcases Nat.lt_or_ge ((s.add j).count + (i - j)) s.nofSlotsPerHyperSystemFrame with hlow | hhigh
    · rw [Nat.mod_eq_of_lt hlow]
      split
      · omega
      · simp only [decide_eq_false_iff_not]
        omega
    · rw [Nat.mod_eq_sub_mod hhigh, Nat.mod_eq_of_lt (by omega)]
      split
      · simp only [decide_eq_false_iff_not]
        omega
      · simp only [decide_eq_false_iff_not]
        omega
  simp [gt, ge, hne, hlt]

lemma add_lt_add_iff (hij : 2 * (j - i) < s.nofSlotsPerHyperSystemFrame)
    (hji : 2 * (i - j) < s.nofSlotsPerHyperSystemFrame) : (s.add i).lt (s.add j) = true ↔ i < j := by
  rcases Nat.lt_or_ge i j with h | h
  · refine ⟨fun _ => h, fun _ => ?_⟩
    have hcount : (s.add j).count = ((s.add i).count + (j - i)) % s.nofSlotsPerHyperSystemFrame := by
      have hadd := congrArg SlotPoint.count (add_add s i (j - i))
      rw [add_count, add_hyperFrame] at hadd
      rw [hadd, Nat.add_sub_cancel' h.le]
    have hi : (s.add i).count < s.nofSlotsPerHyperSystemFrame := add_wellFormed s i
    have heven : s.nofSlotsPerHyperSystemFrame % 2 = 0 := by
      rw [hyperFrame_eq]
      omega
    simp only [lt, add_hyperFrame, hcount]
    rcases Nat.lt_or_ge ((s.add i).count + (j - i)) s.nofSlotsPerHyperSystemFrame with hlow | hhigh
    · rw [Nat.mod_eq_of_lt hlow]
      split
      · rw [decide_eq_true_eq]
        omega
      · omega
    · rw [Nat.mod_eq_sub_mod hhigh, Nat.mod_eq_of_lt (by omega)]
      split
      · omega
      · rw [decide_eq_true_eq]
        omega
  · refine ⟨fun hlt => ?_, fun hlt => absurd hlt (Nat.not_lt.mpr h)⟩
    rcases Nat.lt_or_ge j i with hgt | hle
    · have hge := add_gt_add hgt hji
      simp only [gt, ge, hlt, Bool.not_true, Bool.and_false] at hge
      cases hge
    · rw [le_antisymm h hle] at hlt
      simp only [lt, sub_self, lt_self_iff_false, if_false, decide_eq_true_eq] at hlt
      have hH := s.hyperFrame_pos
      rw [add_hyperFrame] at hlt
      omega

end SlotPoint

end OwlsRan.Ran
