import Mathlib.Data.List.Nodup
import Mathlib.Logic.Function.Basic

/-!
# Items in custody

Each item of a stock is held by exactly one holder, once.
-/

namespace OwlsRan.Lib

variable {κ α : Type*}

/-- Every item of the stock is held by exactly one holder, in one place, and nothing else is held. -/
structure Custody (held : κ → List α) (stock : α → Prop) : Prop where
  nodup : ∀ k, (held k).Nodup
  unique : ∀ k k' a, a ∈ held k → a ∈ held k' → k = k'
  mem_iff : ∀ a, (∃ k, a ∈ held k) ↔ stock a

namespace Custody

variable {held held' : κ → List α} {stock : α → Prop}

lemma congr (h : Custody held stock) {stock' : α → Prop} (hstock : ∀ a, stock a ↔ stock' a) : Custody held stock' :=
  ⟨h.nodup, h.unique, fun a => (h.mem_iff a).trans (hstock a)⟩

variable [DecidableEq κ]

lemma enter (h : Custody held stock) (k : κ) {a : α} (ha : ¬stock a) :
    Custody (Function.update held k (held k ++ [a])) (fun x => stock x ∨ x = a) := by
  have hfree : ∀ k', a ∉ held k' := fun k' hk' => ha ((h.mem_iff a).mp ⟨k', hk'⟩)
  have hmem : ∀ k' x, x ∈ Function.update held k (held k ++ [a]) k' ↔ x ∈ held k' ∨ (k' = k ∧ x = a) := by
    intro k' x
    by_cases hk : k' = k
    · subst hk
      simp
    · simp [hk]
  refine ⟨fun k' => ?_, fun k₁ k₂ x h₁ h₂ => ?_, fun x => ?_⟩
  · by_cases hk : k' = k
    · subst hk
      rw [Function.update_self]
      exact (h.nodup k').append (List.nodup_singleton a) (by simpa using hfree k')
    · rw [Function.update_of_ne hk]
      exact h.nodup k'
  · rw [hmem] at h₁ h₂
    rcases h₁ with h₁ | ⟨rfl, rfl⟩
    · rcases h₂ with h₂ | ⟨rfl, rfl⟩
      · exact h.unique k₁ k₂ x h₁ h₂
      · exact absurd h₁ (hfree k₁)
    · rcases h₂ with h₂ | ⟨rfl, -⟩
      · exact absurd h₂ (hfree k₂)
      · rfl
  · rw [← h.mem_iff x]
    constructor
    · rintro ⟨k', hk'⟩
      rcases (hmem k' x).mp hk' with hk' | ⟨-, rfl⟩
      · exact Or.inl ⟨k', hk'⟩
      · exact Or.inr rfl
    · rintro (⟨k', hk'⟩ | rfl)
      · exact ⟨k', (hmem k' x).mpr (Or.inl hk')⟩
      · exact ⟨k, (hmem k x).mpr (Or.inr ⟨rfl, rfl⟩)⟩

lemma move (h : Custody held stock) {k k' : κ} (hne : k ≠ k') {kept moved : List α}
    (hsplit : (held k).Perm (kept ++ moved)) :
    Custody (Function.update (Function.update held k kept) k' (held k' ++ moved)) stock := by
  have hmem : ∀ j x, x ∈ Function.update (Function.update held k kept) k' (held k' ++ moved) j ↔
      (j ≠ k ∧ x ∈ held j) ∨ (j = k ∧ x ∈ kept) ∨ (j = k' ∧ x ∈ moved) := by
    intro j x
    by_cases hj' : j = k'
    · subst hj'
      simp [Ne.symm hne]
    · by_cases hj : j = k
      · subst hj
        simp [hj']
      · simp [hj, hj']
  have hk : ∀ x, x ∈ held k ↔ x ∈ kept ∨ x ∈ moved := fun x => by rw [hsplit.mem_iff, List.mem_append]
  have hnodup : (kept ++ moved).Nodup := hsplit.nodup_iff.mp (h.nodup k)
  have hdisjoint : ∀ x, x ∈ kept → x ∉ moved := fun x h₁ h₂ => (List.disjoint_of_nodup_append hnodup) h₁ h₂
  refine ⟨fun j => ?_, fun j₁ j₂ x h₁ h₂ => ?_, fun x => ?_⟩
  · by_cases hj' : j = k'
    · subst hj'
      rw [Function.update_self]
      refine (h.nodup j).append hnodup.of_append_right fun x h₁ h₂ => ?_
      exact hne (h.unique k j x ((hk x).mpr (Or.inr h₂)) h₁)
    · rw [Function.update_of_ne hj']
      by_cases hj : j = k
      · subst hj
        rw [Function.update_self]
        exact hnodup.of_append_left
      · rw [Function.update_of_ne hj]
        exact h.nodup j
  · have howner : ∀ j x, x ∈ Function.update (Function.update held k kept) k' (held k' ++ moved) j →
        x ∉ held k ∧ x ∈ held j ∨ x ∈ held k ∧ (j = k ∧ x ∈ kept ∨ j = k' ∧ x ∈ moved) := by
      intro j x hx
      rcases (hmem j x).mp hx with ⟨hj, hx'⟩ | ⟨hj, hx'⟩ | ⟨hj, hx'⟩
      · exact Or.inl ⟨fun hxk => hj (h.unique j k x hx' hxk), hx'⟩
      · exact Or.inr ⟨(hk x).mpr (Or.inl hx'), Or.inl ⟨hj, hx'⟩⟩
      · exact Or.inr ⟨(hk x).mpr (Or.inr hx'), Or.inr ⟨hj, hx'⟩⟩
    rcases howner j₁ x h₁ with ⟨hn, h₁⟩ | ⟨hy, h₁⟩
    · rcases howner j₂ x h₂ with ⟨-, h₂⟩ | ⟨hy, -⟩
      · exact h.unique j₁ j₂ x h₁ h₂
      · exact absurd hy hn
    · rcases howner j₂ x h₂ with ⟨hn, -⟩ | ⟨-, h₂⟩
      · exact absurd hy hn
      · rcases h₁ with ⟨rfl, hx₁⟩ | ⟨rfl, hx₁⟩
        · rcases h₂ with ⟨rfl, -⟩ | ⟨rfl, hx₂⟩
          · rfl
          · exact absurd hx₂ (hdisjoint x hx₁)
        · rcases h₂ with ⟨rfl, hx₂⟩ | ⟨rfl, -⟩
          · exact absurd hx₁ (hdisjoint x hx₂)
          · rfl
  · rw [← h.mem_iff x]
    constructor
    · rintro ⟨j, hj⟩
      rcases (hmem j x).mp hj with ⟨-, hx⟩ | ⟨rfl, hx⟩ | ⟨rfl, hx⟩
      · exact ⟨j, hx⟩
      · exact ⟨j, (hk x).mpr (Or.inl hx)⟩
      · exact ⟨k, (hk x).mpr (Or.inr hx)⟩
    · rintro ⟨j, hx⟩
      by_cases hj : j = k
      · subst hj
        rcases (hk x).mp hx with hx | hx
        · exact ⟨j, (hmem j x).mpr (Or.inr (Or.inl ⟨rfl, hx⟩))⟩
        · exact ⟨k', (hmem k' x).mpr (Or.inr (Or.inr ⟨rfl, hx⟩))⟩
      · exact ⟨j, (hmem j x).mpr (Or.inl ⟨hj, hx⟩)⟩

end Custody

end OwlsRan.Lib
