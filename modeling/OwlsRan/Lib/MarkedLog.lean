import Mathlib.Data.List.Basic
import Mathlib.Data.List.DropRight
import Mathlib.Data.List.Infix
import Mathlib.Tactic.Lemma

/-!
# Logs with marks

Between two marks of a log, before the first and after the last there are blocks of entries without one.
-/

namespace OwlsRan.Lib

variable {α : Type*} {marked : α → Bool}

def Unmarked (marked : α → Bool) (block : List α) : Prop := ∀ a ∈ block, marked a = false

instance (marked : α → Bool) (block : List α) : Decidable (Unmarked marked block) :=
  inferInstanceAs (Decidable (∀ a ∈ block, _))

def sinceMark (marked : α → Bool) (log : List α) : List α := log.rtakeWhile fun a => !marked a

variable {log : List α}

lemma sinceMark_concat_of_marked {a : α} (h : marked a = true) : sinceMark marked (log ++ [a]) = [] := by
  unfold sinceMark
  rw [List.rtakeWhile_concat_neg]
  simp [h]

lemma sinceMark_concat_of_unmarked {a : α} (h : marked a = false) :
    sinceMark marked (log ++ [a]) = sinceMark marked log ++ [a] := by
  unfold sinceMark
  rw [List.rtakeWhile_concat_pos]
  simp [h]

lemma suffix_sinceMark {block : List α} (hsuffix : block <:+ log) (hblock : Unmarked marked block) :
    block <:+ sinceMark marked log := by
  induction log using List.reverseRecOn generalizing block with
  | nil =>
    rw [List.suffix_nil.mp hsuffix]
    exact List.nil_suffix
  | append_singleton log a ih =>
    rcases block.eq_nil_or_concat' with rfl | ⟨init, b, rfl⟩
    · exact List.nil_suffix
    · obtain ⟨rest, hrest⟩ := hsuffix
      rw [← List.append_assoc] at hrest
      obtain ⟨hinit, hlast⟩ := List.append_inj' hrest rfl
      obtain rfl := List.cons.inj hlast |>.1
      rw [sinceMark_concat_of_unmarked (hblock b (by simp))]
      have hshort := ih ⟨rest, hinit⟩ fun c hc => hblock c (List.mem_append_left _ hc)
      obtain ⟨front, hfront⟩ := hshort
      exact ⟨front, by rw [← hfront, List.append_assoc]⟩

def Blocks (marked : α → Bool) (P : List α → Prop) (log : List α) : Prop :=
  ∀ block, block <:+: log → Unmarked marked block → P block

lemma Blocks.concat {P : List α → Prop} {a : α} (h : Blocks marked P log)
    (hP : ∀ b c, b <:+ c → P c → P b) (hlast : P (sinceMark marked (log ++ [a]))) : Blocks marked P (log ++ [a]) := by
  intro block hinfix hblock
  obtain hsuffix | hinfix := List.infix_concat_iff.mp hinfix
  · exact hP block _ (suffix_sinceMark hsuffix hblock) hlast
  · exact h block hinfix hblock

/-!
## Items produced one after the other

`R s a s'`: a producer in the state `s` gives out the item `a` and is in the state `s'` then. A trace is what it has
given out between two states.
-/

variable {σ α : Type*}

inductive ItemTrace (R : σ → α → σ → Prop) : σ → List α → σ → Prop
  | nil (s : σ) : ItemTrace R s [] s
  | cons {s s' s'' : σ} {a : α} {as : List α} (hitem : R s a s') (htail : ItemTrace R s' as s'') :
    ItemTrace R s (a :: as) s''

namespace ItemTrace

variable {R : σ → α → σ → Prop} {s s' s'' : σ} {as as' : List α}

lemma single {a : α} (h : R s a s') : ItemTrace R s [a] s' := cons h (nil s')

lemma append (h : ItemTrace R s as s') (h' : ItemTrace R s' as' s'') : ItemTrace R s (as ++ as') s'' := by
  induction h with
  | nil => exact h'
  | cons hitem _ ih => exact cons hitem (ih h')

end ItemTrace

end OwlsRan.Lib
