import Mathlib.Data.List.Basic

/-!
# Samples of a register

A register is written again and again, and a reader samples it.
-/

namespace OwlsRan.Lib

variable {α : Type*}

/-- The value of a register that held `a` before the writes. -/
def lastOr (a : α) (writes : List α) : α := writes.getLast?.getD a

@[simp] lemma lastOr_concat (a v : α) (l : List α) : lastOr a (l ++ [v]) = v := by
  simp [lastOr]

lemma lastOr_cons (a v : α) (l : List α) : lastOr a (v :: l) = lastOr v l := by
  simp [lastOr, List.getLast?_cons]

lemma lastOr_append (a : α) (l m : List α) : lastOr a (l ++ m) = lastOr (lastOr a l) m := by
  induction l generalizing a with
  | nil => rfl
  | cons v l ih => rw [List.cons_append, lastOr_cons, lastOr_cons, ih]

variable {l : List α}

lemma eq_concat_of_lastOr_ne {a : α} (h : lastOr a l ≠ a) : ∃ l', l = l' ++ [lastOr a l] := by
  rcases l.eq_nil_or_concat' with rfl | ⟨l', v, rfl⟩
  · exact absurd rfl h
  · exact ⟨l', by simp⟩

lemma sublist_of_sublist_concat {s : List α} {v : α} (h : l.Sublist (s ++ [v])) (hl : l.getLast? ≠ some v) :
    l.Sublist s := by
  obtain ⟨l₁, l₂, rfl, h₁, h₂⟩ := List.sublist_append_iff.mp h
  have hnil : l₂ = [] := by
    rcases List.sublist_singleton.mp h₂ with h₂ | h₂
    · exact h₂
    · rw [h₂, List.getLast?_concat] at hl
      exact absurd rfl hl
  rwa [hnil, List.append_nil]

variable [DecidableEq α]

/-- The samples without those that repeat the one before; the first is compared with `a`. -/
def changes (a : α) : List α → List α
  | [] => []
  | v :: l => if v = a then changes a l else v :: changes v l

lemma changes_append (a : α) (l m : List α) : changes a (l ++ m) = changes a l ++ changes (lastOr a l) m := by
  induction l generalizing a with
  | nil => rfl
  | cons v l ih =>
    rw [List.cons_append, changes, changes, lastOr_cons]
    by_cases h : v = a
    · rw [if_pos h, if_pos h, ih, h]
    · rw [if_neg h, if_neg h, ih, List.cons_append]

lemma changes_singleton (a v : α) : changes a [v] = if v = a then [] else [v] := rfl

lemma changes_initial {a : α} {m : List α} (h : l <+: m) : changes a l <+: changes a m := by
  obtain ⟨t, rfl⟩ := h
  rw [changes_append]
  exact List.prefix_append _ _

lemma lastOr_changes (a : α) (l : List α) : lastOr a (changes a l) = lastOr a l := by
  induction l generalizing a with
  | nil => rfl
  | cons v l ih =>
    rw [changes, lastOr_cons]
    by_cases h : v = a
    · rw [if_pos h, ih, h]
    · rw [if_neg h, lastOr_cons, ih]

/-- A new sample of the register keeps the changes a subsequence of the writes. -/
theorem changes_concat_sublist {a : α} {writes : List α} (h : (changes a l).Sublist writes)
    (hv : lastOr a writes ≠ a) : (changes a (l ++ [lastOr a writes])).Sublist writes := by
  rw [changes_append, changes_singleton]
  by_cases hlast : lastOr a writes = lastOr a l
  · rwa [if_pos hlast, List.append_nil]
  · rw [if_neg hlast]
    obtain ⟨writes', hw⟩ := eq_concat_of_lastOr_ne hv
    have hne : (changes a l).getLast? ≠ some (lastOr a writes) := by
      intro hsome
      have hchanges : lastOr a (changes a l) = lastOr a writes := by simp [lastOr, hsome]
      rw [lastOr_changes] at hchanges
      exact hlast hchanges.symm
    rw [hw] at h
    have hsub : (changes a l).Sublist writes' := sublist_of_sublist_concat h hne
    rw [hw, lastOr_concat]
    exact hsub.append (List.Sublist.refl _)

end OwlsRan.Lib
