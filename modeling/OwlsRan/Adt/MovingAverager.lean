import Mathlib.Algebra.GroupWithZero.Nat
import Mathlib.Data.List.Basic
import Mathlib.Algebra.BigOperators.Group.List.Basic

namespace OwlsRan.Adt

inductive AveragerAbort where
  | emptyWindow
deriving DecidableEq

/-- `moving_averager<unsigned>`. -/
structure MovingAverager where
  slidingWindow : List Nat
  writePos : Nat
  sumSamples : Nat
  writePos_lt : slidingWindow ≠ [] → writePos < slidingWindow.length
  sum_eq : sumSamples = slidingWindow.sum

namespace MovingAverager

def new : MovingAverager := ⟨[], 0, 0, fun h => absurd rfl h, List.sum_nil.symm⟩

def size (m : MovingAverager) : Nat := m.slidingWindow.length

lemma sum_set {l : List Nat} {i : Nat} (h : i < l.length) (x : Nat) : (l.set i x).sum + l[i] = l.sum + x := by
  induction l generalizing i with
  | nil => exact absurd h (Nat.not_lt_zero i)
  | cons y ys ih =>
    cases i with
    | zero =>
      simp only [List.set_cons_zero, List.sum_cons, List.getElem_cons_zero]
      omega
    | succ i =>
      have := ih (i := i) (by simpa using h)
      simp only [List.set_cons_succ, List.sum_cons, List.getElem_cons_succ]
      omega

def push (m : MovingAverager) (sample : Nat) : Except AveragerAbort MovingAverager :=
  if h : m.writePos < m.slidingWindow.length then
    .ok {
      slidingWindow := m.slidingWindow.set m.writePos sample
      writePos := if m.slidingWindow.length ≤ m.writePos + 1 then 0 else m.writePos + 1
      sumSamples := m.sumSamples - m.slidingWindow[m.writePos] + sample
      writePos_lt := by
        intro _
        rw [List.length_set]
        split <;> omega
      sum_eq := by
        have hsum := sum_set h sample
        have hle := sum_set h 0
        have := m.sum_eq
        omega }
  else .error .emptyWindow

def resize (m : MovingAverager) (slidingWindowSize : Nat) : MovingAverager :=
  if slidingWindowSize = m.size then m
  else {
    slidingWindow := List.replicate slidingWindowSize 0
    writePos := 0
    sumSamples := 0
    writePos_lt := fun h => List.length_pos_of_ne_nil h
    sum_eq := by simp }

variable {m m' : MovingAverager}

end MovingAverager

end OwlsRan.Adt
