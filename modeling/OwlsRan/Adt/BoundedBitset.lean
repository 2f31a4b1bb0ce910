import Mathlib.Data.List.Basic
import Mathlib.Data.List.GetD
import OwlsRan.Lib.OrderedList

namespace OwlsRan.Adt

open OwlsRan.Lib

inductive BitsetAbort where
  | outOfBounds
  | exceedsCapacity
deriving DecidableEq

/-- `bounded_bitset<N>`: a bitset whose size changes at run time and never exceeds `N`. -/
structure BoundedBitset (N : Nat) where
  bits : List Bool
  bounded : bits.length ≤ N
deriving DecidableEq

namespace BoundedBitset

variable {N : Nat}

def empty : BoundedBitset N := ⟨[], Nat.zero_le N⟩

def size (b : BoundedBitset N) : Nat := b.bits.length

/-- A bitset of the size of `b` with no bit set. -/
def zerosLike (b : BoundedBitset N) : BoundedBitset N := ⟨List.replicate b.size false, by simpa [size] using b.bounded⟩

/-- The bit at `pos`, where the bits beyond the end count as not set. -/
def bit (b : BoundedBitset N) (pos : Nat) : Bool := b.bits.getD pos false

def test (b : BoundedBitset N) (pos : Nat) : Except BitsetAbort Bool :=
  if pos < b.size then .ok (b.bit pos) else .error .outOfBounds

def set (b : BoundedBitset N) (pos : Nat) (val : Bool) : Except BitsetAbort (BoundedBitset N) :=
  if pos < b.size then .ok ⟨b.bits.set pos val, by simpa using b.bounded⟩ else .error .outOfBounds

def reset (b : BoundedBitset N) (pos : Nat) : Except BitsetAbort (BoundedBitset N) := b.set pos false

def resize (b : BoundedBitset N) (newSize : Nat) : Except BitsetAbort (BoundedBitset N) :=
  if newSize = b.size then .ok b
  else if h : newSize ≤ N then
    .ok ⟨b.bits.take newSize ++ List.replicate (newSize - b.size) false, by
      have := b.bounded
      simp only [List.length_append, List.length_take, List.length_replicate, size]
      omega⟩
  else .error .exceedsCapacity

def findHighest (b : BoundedBitset N) : Option Nat := (List.range b.size).reverse.find? fun pos => b.bit pos

section Lemmas

variable {b b' : BoundedBitset N} {pos : Nat}

@[simp] lemma size_zerosLike (b : BoundedBitset N) : b.zerosLike.size = b.size := by
  simp [zerosLike, size]

@[simp] lemma bit_zerosLike (b : BoundedBitset N) (p : Nat) : b.zerosLike.bit p = false := by
  unfold zerosLike bit
  rw [List.getD_eq_getElem?_getD, List.getElem?_replicate]
  split <;> rfl

lemma bit_of_size_le (h : b.size ≤ pos) : b.bit pos = false := by
  unfold bit
  exact List.getD_eq_default _ _ h

lemma test_of_lt (h : pos < b.size) : b.test pos = .ok (b.bit pos) := if_pos h

lemma set_of_lt (h : pos < b.size) (val : Bool) : ∃ b', b.set pos val = .ok b' := ⟨_, if_pos h⟩

lemma size_set {val : Bool} (h : b.set pos val = .ok b') : b'.size = b.size := by
  unfold set at h
  split at h
  case isTrue =>
    cases h
    simp [size]
  case isFalse => cases h

lemma bit_set {val : Bool} (h : b.set pos val = .ok b') (p : Nat) :
    b'.bit p = if p = pos then val else b.bit p := by
  unfold set at h
  split at h
  case isTrue hlt =>
    cases h
    unfold bit
    rw [List.getD_eq_getElem?_getD, List.getD_eq_getElem?_getD]
    split
    case isTrue hp =>
      subst hp
      rw [List.getElem?_set_self hlt]
      rfl
    case isFalse hp => rw [List.getElem?_set_ne (Ne.symm hp)]
  case isFalse => cases h

lemma size_resize {n : Nat} (h : b.resize n = .ok b') : b'.size = n := by
  unfold resize at h
  split at h
  case isTrue hn =>
    cases h
    exact hn.symm
  case isFalse =>
    split at h
    case isTrue =>
      cases h
      simp only [size, List.length_append, List.length_take, List.length_replicate]
      omega
    case isFalse => cases h

lemma bit_resize {n : Nat} (h : b.resize n = .ok b') (p : Nat) : b'.bit p = (decide (p < n) && b.bit p) := by
  have hsize := size_resize h
  by_cases hp : p < n
  · rw [decide_eq_true hp, Bool.true_and]
    unfold resize at h
    split at h
    case isTrue => cases h; rfl
    case isFalse =>
      split at h
      case isFalse => cases h
      case isTrue =>
        cases h
        unfold bit
        rw [List.getD_eq_getElem?_getD, List.getD_eq_getElem?_getD]
        dsimp only
        rw [List.getElem?_append, List.length_take]
        split
        case isTrue => rw [List.getElem?_take_of_lt hp]
        case isFalse hlt =>
          have hout : b.bits.length ≤ p := by omega
          rw [List.getElem?_replicate, List.getElem?_eq_none hout]
          split <;> rfl
  · rw [decide_eq_false hp, Bool.false_and]
    exact bit_of_size_le (by omega)

lemma findHighest_eq_none (h : b.findHighest = none) (p : Nat) : b.bit p = false := by
  by_cases hp : p < b.size
  · unfold findHighest at h
    rw [List.find?_eq_none] at h
    simpa using h p (by simpa using hp)
  · exact bit_of_size_le (by omega)

lemma findHighest_lt {i p : Nat} (h : b.findHighest = some i) (hp : b.bit p = true) : p ≤ i := by
  have hlt : p < b.size := by
    by_contra hge
    rw [bit_of_size_le (by omega)] at hp
    cases hp
  exact (find?_reverse_range_eq_some h).2.2 p hlt hp

end Lemmas

end BoundedBitset

end OwlsRan.Adt
