import Mathlib.Data.List.Basic
import Mathlib.Tactic.Lemma
import OwlsRan.Lib.Outcome

/-!
# Reading a byte string

A parser looks at the byte it stands on and moves on.
-/

namespace OwlsRan.Lib

inductive ParseFault where
  | rejected
  | pastEnd
  /-- The loop of the parser runs longer than the input. -/
  | outOfFuel
deriving DecidableEq

abbrev Parsed (α : Type) := Except ParseFault α

abbrev ByteReader := List UInt8

namespace ByteReader

def next : ByteReader → Parsed (UInt8 × ByteReader)
  | [] => .error .pastEnd
  | b :: r => .ok (b, r)

/-- The reader has moved `n` bytes on, to `r'`. -/
def Advanced (r : ByteReader) (n : Nat) (r' : ByteReader) : Prop := n ≤ r.length ∧ r' = r.drop n

instance (r : ByteReader) (n : Nat) (r' : ByteReader) : Decidable (Advanced r n r') :=
  inferInstanceAs (Decidable (_ ∧ _))

end ByteReader

def rejectUnless (c : Prop) [Decidable c] : Parsed Unit := if c then .ok () else .error .rejected

section Rules

variable {c : Prop} [Decidable c] {r : ByteReader}

lemma yields_next (h : 0 < r.length) : Yields r.next (fun res => res.2.length + 1 = r.length) (· = .rejected) := by
  cases r with
  | nil => exact absurd h (Nat.lt_irrefl 0)
  | cons b r => exact rfl

lemma yields_rejectUnless : Yields (rejectUnless c) (fun _ => c) (· = .rejected) := by
  unfold rejectUnless
  split
  case isTrue h => exact h
  case isFalse => exact rfl

lemma rejectUnless_ok (h : c) : rejectUnless c = .ok () := if_pos h

lemma rejectUnless_error (h : ¬c) : rejectUnless c = .error .rejected := if_neg h

end Rules

namespace ByteReader

variable {r r' r'' : ByteReader} {m n : Nat}

lemma advanced_zero (r : ByteReader) : Advanced r 0 r := ⟨Nat.zero_le _, rfl⟩

lemma advanced_cons (b : UInt8) (r : ByteReader) : Advanced (b :: r) 1 r := ⟨Nat.succ_pos _, rfl⟩

lemma Advanced.trans (h : Advanced r m r') (h' : Advanced r' n r'') : Advanced r (m + n) r'' := by
  obtain ⟨hm, rfl⟩ := h
  obtain ⟨hn, rfl⟩ := h'
  rw [List.length_drop] at hn
  exact ⟨by omega, List.drop_drop⟩

lemma Advanced.unique (h : Advanced r m r') (h' : Advanced r n r') : m = n := by
  have hlen := congrArg List.length (h.2.symm.trans h'.2)
  have hm := h.1
  have hn := h'.1
  simp only [List.length_drop] at hlen
  omega

lemma yields_next_advanced (r : ByteReader) : Yields r.next (fun res => Advanced r 1 res.2) fun _ => True := by
  cases r with
  | nil => trivial
  | cons b r => exact advanced_cons b r

end ByteReader

/-!
## Writing into a span of bytes

A span has a fixed length. Bytes are written over the ones that stand at a position.
-/

variable {α : Type*}

def overwrite (span : List α) (i : Nat) (bs : List α) : List α := span.take i ++ bs ++ span.drop (i + bs.length)

variable {span bs cs : List α} {i j : Nat}

lemma length_overwrite (h : i + bs.length ≤ span.length) : (overwrite span i bs).length = span.length := by
  simp only [overwrite, List.length_append, List.length_take, List.length_drop]
  omega

lemma take_overwrite_of_le (hj : j ≤ i) (h : i + bs.length ≤ span.length) :
    (overwrite span i bs).take j = span.take j := by
  have hi : i ≤ span.length := by omega
  rw [overwrite, List.append_assoc, List.take_append_of_le_length (by rw [List.length_take]; omega), List.take_take]
  congr 1
  omega

lemma take_overwrite_end (h : i + bs.length ≤ span.length) :
    (overwrite span i bs).take (i + bs.length) = span.take i ++ bs := by
  have hlen : (span.take i ++ bs).length = i + bs.length := by
    rw [List.length_append, List.length_take]
    omega
  rw [overwrite, ← hlen, List.take_left]

lemma slice_overwrite (h : i + bs.length ≤ span.length) : ((overwrite span i bs).drop i).take bs.length = bs := by
  have hlen : (span.take i).length = i := by
    rw [List.length_take]
    omega
  rw [overwrite, List.append_assoc, List.drop_left' hlen, List.take_left]

lemma take_overwrite_overwrite (h : i + cs.length + bs.length ≤ span.length) :
    (overwrite (overwrite span (i + cs.length) bs) i cs).take (i + (cs ++ bs).length) = span.take i ++ (cs ++ bs) := by
  have hslice := slice_overwrite h
  have htake : (overwrite span (i + cs.length) bs).take i = span.take i :=
    take_overwrite_of_le (Nat.le_add_right _ _) h
  have hlen : (span.take i ++ cs).length = i + cs.length := by
    rw [List.length_append, List.length_take]
    omega
  rw [overwrite, htake, List.length_append, ← Nat.add_assoc, ← hlen, List.take_length_add_append, hlen, hslice,
    List.append_assoc]

end OwlsRan.Lib
