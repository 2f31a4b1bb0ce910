import Mathlib.Data.List.Basic
import Mathlib.Tactic.Lemma

/-!
# Tilings of an interval

A list of pairs `(start, length)` tiles an interval when each pair begins where the one before it ends.
-/

namespace OwlsRan.Lib

/-- Nonempty pieces that lead from `a` to `b`. -/
inductive Tiles : ℕ → List (ℕ × ℕ) → ℕ → Prop
  | nil (a : ℕ) : Tiles a [] a
  | cons {a n b : ℕ} {l : List (ℕ × ℕ)} : 0 < n → Tiles (a + n) l b → Tiles a ((a, n) :: l) b

def Partitions (l : List (ℕ × ℕ)) (bound : ℕ) : Prop :=
  (∀ p ∈ l, p.1 + p.2 ≤ bound) ∧ ∀ x < bound, (l.countP fun p => decide (p.1 ≤ x ∧ x < p.1 + p.2)) = 1

variable {a b n x : ℕ} {l : List (ℕ × ℕ)}

lemma tiles_le (h : Tiles a l b) : a ≤ b := by
  induction h with
  | nil a => exact Nat.le_refl a
  | cons hn _ ih => omega

lemma tiles_concat (h : Tiles a l b) (hn : 0 < n) : Tiles a (l ++ [(b, n)]) (b + n) := by
  induction h with
  | nil a => exact .cons hn (.nil _)
  | cons hm _ ih => exact .cons hm ih

lemma tiles_bound (h : Tiles a l b) : ∀ p ∈ l, p.1 + p.2 ≤ b := by
  induction h with
  | nil a => simp
  | cons hn ht ih =>
    intro p hp
    rcases List.mem_cons.mp hp with rfl | hp
    · exact tiles_le ht
    · exact ih p hp

lemma tiles_countP_of_lt (h : Tiles a l b) (hx : x < a) :
    (l.countP fun p => decide (p.1 ≤ x ∧ x < p.1 + p.2)) = 0 := by
  induction h with
  | nil a => rfl
  | cons hn _ ih =>
    rw [List.countP_cons, ih (by omega), if_neg (by simp; omega)]

lemma tiles_countP (h : Tiles a l b) (hax : a ≤ x) (hxb : x < b) :
    (l.countP fun p => decide (p.1 ≤ x ∧ x < p.1 + p.2)) = 1 := by
  induction h with
  | nil a => omega
  | cons hn ht ih =>
    rename_i a n b l
    rw [List.countP_cons]
    by_cases hx : x < a + n
    · rw [tiles_countP_of_lt ht hx, if_pos (by simp; omega)]
    · rw [ih (by omega) hxb, if_neg (by simp; omega)]

lemma partitions_of_tiles (h : Tiles 0 l b) : Partitions l b :=
  ⟨tiles_bound h, fun _ hx => tiles_countP h (Nat.zero_le _) hx⟩

lemma not_partitions_nil (hb : 0 < b) : ¬Partitions [] b := by
  intro h
  have hzero := h.2 0 hb
  simp at hzero

end OwlsRan.Lib
