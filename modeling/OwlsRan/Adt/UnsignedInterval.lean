import Mathlib.Data.List.Basic
import Mathlib.Tactic.Lemma

/-!
# Intervals of unsigned numbers

`interval<unsigned>`, as the CRB, PRB and VRB intervals and the symbol ranges use it.
-/

namespace OwlsRan.Adt

/-- `interval<unsigned>`: the constructor asserts that the points are in order. -/
structure UnsignedInterval where
  start : Nat
  stop : Nat
  valid : start ≤ stop
deriving DecidableEq

namespace UnsignedInterval

/-- `interval()`. -/
def default : UnsignedInterval := ⟨0, 0, Nat.le_refl 0⟩

def ofStartAndLen (start dur : Nat) : UnsignedInterval := ⟨start, start + dur, Nat.le_add_right start dur⟩

def length (i : UnsignedInterval) : Nat := i.stop - i.start

def empty (i : UnsignedInterval) : Bool := i.stop == i.start

/-- `interval::displace_to`: the length stays as it is. -/
def displaceTo (i : UnsignedInterval) (startPoint : Nat) : UnsignedInterval := ofStartAndLen startPoint i.length

def resize (i : UnsignedInterval) (newLength : Nat) : UnsignedInterval := ofStartAndLen i.start newLength

def overlaps (i other : UnsignedInterval) : Bool := decide (i.start < other.stop) && decide (other.start < i.stop)

def contains (i : UnsignedInterval) (point : Nat) : Bool := decide (i.start ≤ point) && decide (point < i.stop)

def intersect (i other : UnsignedInterval) : UnsignedInterval :=
  if h : i.start < other.stop ∧ other.start < i.stop then
    ⟨max i.start other.start, min i.stop other.stop, by have := i.valid; have := other.valid; omega⟩
  else default

def clamp (i : UnsignedInterval) (point : Nat) : Nat := max (min point i.stop) i.start

def Mem (i : UnsignedInterval) (p : Nat) : Prop := i.start ≤ p ∧ p < i.stop

section Lemmas

@[simp] lemma default_start : default.start = 0 := rfl

@[simp] lemma default_stop : default.stop = 0 := rfl

@[simp] lemma ofStartAndLen_start (s n : Nat) : (ofStartAndLen s n).start = s := rfl

@[simp] lemma ofStartAndLen_stop (s n : Nat) : (ofStartAndLen s n).stop = s + n := rfl

@[simp] lemma ofStartAndLen_length (s n : Nat) : (ofStartAndLen s n).length = n := by simp [length]

@[simp] lemma default_length : default.length = 0 := rfl

lemma start_add_length (i : UnsignedInterval) : i.start + i.length = i.stop := by
  have := i.valid
  unfold length
  omega

lemma empty_iff (i : UnsignedInterval) : i.empty = true ↔ i.stop ≤ i.start := by
  have := i.valid
  simp only [empty, beq_iff_eq]
  omega

lemma mem_intersect (i other : UnsignedInterval) (p : Nat) : (i.intersect other).Mem p ↔ i.Mem p ∧ other.Mem p := by
  unfold intersect Mem
  split
  · simp only
    omega
  · simp only [default_start, default_stop]
    omega

lemma intersect_stop_le (i other : UnsignedInterval) : (i.intersect other).stop ≤ other.stop := by
  unfold intersect
  split
  · exact Nat.min_le_right _ _
  · exact Nat.zero_le _

end Lemmas

end UnsignedInterval

end OwlsRan.Adt
