import Mathlib.Data.List.Basic
import Mathlib.Data.List.Nodup
import Mathlib.Data.List.Perm.Subperm
import Mathlib.Data.List.Range
import Mathlib.Order.Basic
import Mathlib.Order.Lattice
import Mathlib.Tactic.Lemma

/-!
# Ordered lists

`find?` returns the first element that passes the test.
-/

namespace OwlsRan.Lib

section Ordered

variable {α : Type*} {r : α → α → Prop} {p : α → Bool} {l : List α} {x : α}

lemma find?_first (hl : l.Pairwise r) (h : l.find? p = some x) : ∀ y ∈ l, p y = true → y = x ∨ r x y := by
  intro y hy hpy
  obtain ⟨-, before, after, hsplit, hbefore⟩ := List.find?_eq_some_iff_append.mp h
  rw [hsplit] at hy hl
  rcases List.mem_append.mp hy with hin | hin
  · have := hbefore y hin
    rw [hpy] at this
    cases this
  · rw [List.pairwise_append, List.pairwise_cons] at hl
    rcases List.mem_cons.mp hin with rfl | hin
    · exact Or.inl rfl
    · exact Or.inr (hl.2.1.1 y hin)

end Ordered

section Range

variable {p : ℕ → Bool} {n s x : ℕ}

lemma find?_range'_eq_some (h : (List.range' s n).find? p = some x) :
    s ≤ x ∧ x < s + n ∧ p x = true ∧ ∀ y, s ≤ y → y < x → p y = false := by
  have hmem := List.mem_range'_1.mp (List.mem_of_find?_eq_some h)
  refine ⟨hmem.1, hmem.2, List.find?_some h, ?_⟩
  intro y hy hlt
  rw [Bool.eq_false_iff]
  intro hpy
  have := find?_first (List.pairwise_lt_range' (s := s) (n := n)) h y (List.mem_range'_1.mpr ⟨hy, by omega⟩) hpy
  omega

lemma find?_range'_eq_none (h : (List.range' s n).find? p = none) : ∀ y, s ≤ y → y < s + n → p y = false := by
  intro y hy hlt
  rw [List.find?_eq_none] at h
  simpa using h y (List.mem_range'_1.mpr ⟨hy, hlt⟩)

lemma find?_reverse_range_eq_some (h : (List.range n).reverse.find? p = some x) :
    x < n ∧ p x = true ∧ ∀ y < n, p y = true → y ≤ x := by
  have hmem : x < n := by simpa using List.mem_of_find?_eq_some h
  refine ⟨hmem, List.find?_some h, ?_⟩
  intro y hy hpy
  have hdesc : (List.range n).reverse.Pairwise fun a b => b < a := by
    rw [List.pairwise_reverse]
    exact List.pairwise_lt_range
  have := find?_first hdesc h y (by simpa using hy) hpy
  omega

lemma length_le_of_mem_range {l : List ℕ} {e : ℕ} (hl : l.Nodup) (h : ∀ x ∈ l, s ≤ x ∧ x < e) : l.length ≤ e - s := by
  have hsub : l ⊆ List.range' s (e - s) := by
    intro x hx
    have := h x hx
    exact List.mem_range'_1.mpr (by omega)
  have := (hl.subperm hsub).length_le
  simpa using this

end Range

/-!
## The first element of least weight

A search that replaces its candidate by what is strictly better ends with the first of the elements of least weight.
-/

variable {α β : Type*} [LinearOrder β] {w : α → β} {l : List α} {a b : α}

/-- `std::min_element` with a comparison of weights. -/
def minElement (w : α → β) : List α → Option α
  | [] => none
  | a :: l => some (l.foldl (fun best b => if w b < w best then b else best) a)

/-- The elements before `a` weigh more, those after it do not weigh less. -/
def FirstMinimum (w : α → β) (l : List α) (a : α) : Prop :=
  ∃ before after, l = before ++ a :: after ∧ (∀ b ∈ before, w a < w b) ∧ ∀ b ∈ after, w a ≤ w b

lemma FirstMinimum.mem (h : FirstMinimum w l a) : a ∈ l := by
  obtain ⟨before, after, rfl, -, -⟩ := h
  exact List.mem_append_right _ List.mem_cons_self

lemma FirstMinimum.le (h : FirstMinimum w l a) (hb : b ∈ l) : w a ≤ w b := by
  obtain ⟨before, after, rfl, hbefore, hafter⟩ := h
  rcases List.mem_append.mp hb with hb | hb
  · exact le_of_lt (hbefore b hb)
  · rcases List.mem_cons.mp hb with rfl | hb
    · exact le_refl _
    · exact hafter b hb

lemma firstMinimum_foldl {seen : List α} (h : FirstMinimum w seen a) :
    FirstMinimum w (seen ++ l) (l.foldl (fun best b => if w b < w best then b else best) a) := by
  induction l generalizing seen a with
  | nil =>
    rw [List.append_nil]
    exact h
  | cons b l ih =>
    rw [List.foldl_cons, List.append_cons]
    apply ih
    by_cases hb : w b < w a
    · rw [if_pos hb]
      exact ⟨seen, [], rfl, fun c hc => lt_of_lt_of_le hb (h.le hc), fun c hc => absurd hc List.not_mem_nil⟩
    · rw [if_neg hb]
      obtain ⟨before, after, rfl, hbefore, hafter⟩ := h
      refine ⟨before, after ++ [b], List.append_assoc _ _ _, hbefore, fun c hc => ?_⟩
      rcases List.mem_append.mp hc with hc | hc
      · exact hafter c hc
      · rw [List.mem_singleton.mp hc]
        exact le_of_not_gt hb

lemma firstMinimum_of_minElement (h : minElement w l = some a) : FirstMinimum w l a := by
  cases l with
  | nil => cases h
  | cons b l =>
    rw [← Option.some.inj h]
    exact firstMinimum_foldl ⟨[], [], rfl, fun c hc => absurd hc List.not_mem_nil, fun c hc => absurd hc List.not_mem_nil⟩

lemma minElement_ne_none (h : l ≠ []) : minElement w l ≠ none := by
  cases l with
  | nil => exact absurd rfl h
  | cons b l => exact Option.some_ne_none _

lemma FirstMinimum.cases {before after : List α} (h : FirstMinimum w (before ++ b :: after) a) :
    a ∈ before ∨ a = b ∨ a ∈ after ∧ w a < w b := by
  obtain ⟨front, rear, hsplit, hfront, -⟩ := h
  rcases List.append_eq_append_iff.mp hsplit with ⟨rest, hbefore, hrest⟩ | ⟨rest, hbefore, hrest⟩
  · cases rest with
    | nil => exact .inr (.inl (List.cons.inj hrest).1.symm)
    | cons c rest =>
      obtain ⟨rfl, hafter⟩ := List.cons.inj hrest
      refine .inr (.inr ⟨?_, hfront b ?_⟩)
      · rw [hafter]
        exact List.mem_append_right _ List.mem_cons_self
      · rw [hbefore]
        exact List.mem_append_right _ List.mem_cons_self
  · cases rest with
    | nil => exact .inr (.inl (List.cons.inj hrest).1)
    | cons c rest =>
      obtain ⟨rfl, -⟩ := List.cons.inj hrest
      refine .inl ?_
      rw [hbefore]
      exact List.mem_append_right _ List.mem_cons_self

lemma FirstMinimum.unique (h : FirstMinimum w l a) (h' : FirstMinimum w l b) : a = b := by
  have hle := h.le h'.mem
  have hle' := h'.le h.mem
  obtain ⟨before, after, rfl, hbefore, -⟩ := h
  rcases h'.cases with hb | rfl | ⟨-, hlt⟩
  · exact absurd hle' (not_le_of_gt (hbefore b hb))
  · rfl
  · exact absurd hle (not_le_of_gt hlt)

lemma minElement_eq_some_iff : minElement w l = some a ↔ FirstMinimum w l a := by
  refine ⟨firstMinimum_of_minElement, fun h => ?_⟩
  cases hmin : minElement w l with
  | none => exact absurd hmin (minElement_ne_none (List.ne_nil_of_mem h.mem))
  | some b => rw [(firstMinimum_of_minElement hmin).unique h]

end OwlsRan.Lib
