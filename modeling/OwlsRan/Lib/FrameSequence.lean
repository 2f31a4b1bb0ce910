import Mathlib.Data.List.Basic
import Mathlib.Tactic.Lemma

/-!
# Inputs that are sequences of frames

A format says which frame can be cut off the front of an input, and what is left then.
-/

namespace OwlsRan.Lib

variable {β φ : Type*}

/-- The frames `xs` are cut off an input one after the other. -/
inductive Frames (Cut : φ → List β → List β → Prop) : List φ → List β → List β → Prop
  | nil (bs : List β) : Frames Cut [] bs bs
  | cons {x : φ} {xs : List φ} {bs mid rest : List β} (hcut : Cut x bs mid) (htail : Frames Cut xs mid rest) :
    Frames Cut (x :: xs) bs rest

structure FrameFormat (Cut : φ → List β → List β → Prop) : Prop where
  unique : ∀ {x y bs rest rest'}, Cut x bs rest → Cut y bs rest' → x = y ∧ rest = rest'
  shorter : ∀ {x bs rest}, Cut x bs rest → rest.length < bs.length

section Rules

variable {Cut Cut' : φ → List β → List β → Prop} {x : φ} {xs ys : List φ} {bs mid rest : List β}

lemma frames_nil_iff : Frames Cut [] bs rest ↔ bs = rest := by
  constructor
  · intro h
    cases h
    rfl
  · rintro rfl
    exact Frames.nil bs

lemma frames_cons_iff : Frames Cut (x :: xs) bs rest ↔ ∃ mid, Cut x bs mid ∧ Frames Cut xs mid rest := by
  constructor
  · intro h
    cases h with
    | cons hcut htail => exact ⟨_, hcut, htail⟩
  · rintro ⟨mid, hcut, htail⟩
    exact Frames.cons hcut htail

lemma frames_append_iff : Frames Cut (xs ++ ys) bs rest ↔ ∃ mid, Frames Cut xs bs mid ∧ Frames Cut ys mid rest := by
  induction xs generalizing bs with
  | nil =>
    constructor
    · exact fun h => ⟨bs, Frames.nil bs, h⟩
    · rintro ⟨mid, hnil, h⟩
      rw [frames_nil_iff.mp hnil]
      exact h
  | cons x xs ih =>
    rw [List.cons_append, frames_cons_iff]
    constructor
    · rintro ⟨mid, hcut, htail⟩
      obtain ⟨mid', hxs, hys⟩ := ih.mp htail
      exact ⟨mid', Frames.cons hcut hxs, hys⟩
    · rintro ⟨mid', hxs, hys⟩
      obtain ⟨mid, hcut, htail⟩ := frames_cons_iff.mp hxs
      exact ⟨mid, hcut, ih.mpr ⟨mid', htail, hys⟩⟩

lemma Frames.mono (h : Frames Cut xs bs rest) (himp : ∀ x ∈ xs, ∀ bs rest, Cut x bs rest → Cut' x bs rest) :
    Frames Cut' xs bs rest := by
  induction h with
  | nil bs => exact Frames.nil bs
  | cons hcut htail ih =>
    exact Frames.cons (himp _ List.mem_cons_self _ _ hcut) (ih fun x hx => himp x (List.mem_cons_of_mem _ hx))

lemma FrameFormat.frames_tail (hf : FrameFormat Cut) (h : Frames Cut xs bs mid) (h' : Frames Cut (xs ++ ys) bs rest) :
    Frames Cut ys mid rest := by
  induction h with
  | nil bs => exact h'
  | cons hcut htail ih =>
    obtain ⟨mid', hcut', htail'⟩ := frames_cons_iff.mp h'
    obtain ⟨-, rfl⟩ := hf.unique hcut hcut'
    exact ih htail'

lemma FrameFormat.frames_compare (hf : FrameFormat Cut) (h : Frames Cut xs bs mid) (h' : Frames Cut ys bs rest) :
    (∃ zs, ys = xs ++ zs ∧ Frames Cut zs mid rest) ∨ ∃ zs, xs = ys ++ zs ∧ Frames Cut zs rest mid := by
  induction h generalizing ys with
  | nil bs => exact Or.inl ⟨ys, rfl, h'⟩
  | @cons x xs bs mid' mid hcut htail ih =>
    cases ys with
    | nil =>
      obtain rfl := frames_nil_iff.mp h'
      exact Or.inr ⟨x :: xs, rfl, Frames.cons hcut htail⟩
    | cons y ys =>
      obtain ⟨mid'', hcut', htail'⟩ := frames_cons_iff.mp h'
      obtain ⟨rfl, rfl⟩ := hf.unique hcut hcut'
      rcases ih htail' with ⟨zs, rfl, hzs⟩ | ⟨zs, rfl, hzs⟩
      · exact Or.inl ⟨zs, rfl, hzs⟩
      · exact Or.inr ⟨zs, rfl, hzs⟩

lemma FrameFormat.length_frames (hf : FrameFormat Cut) (h : Frames Cut xs bs rest) :
    xs.length + rest.length ≤ bs.length := by
  induction h with
  | nil bs => exact Nat.le_of_eq (Nat.zero_add _)
  | cons hcut htail ih =>
    have hlt := hf.shorter hcut
    rw [List.length_cons]
    omega

lemma frames_split (P : φ → Prop) (h : Frames Cut xs bs rest) :
    (∀ x ∈ xs, P x) ∨ ∃ pre x post mid mid', xs = pre ++ x :: post ∧ (∀ y ∈ pre, P y) ∧ ¬P x ∧
      Frames Cut pre bs mid ∧ Cut x mid mid' ∧ Frames Cut post mid' rest := by
  induction h with
  | nil bs => exact Or.inl fun x hx => absurd hx List.not_mem_nil
  | @cons x xs bs mid rest hcut htail ih =>
    by_cases hx : P x
    · rcases ih with hall | ⟨pre, y, post, m, m', rfl, hpre, hy, hframes, hcut', hpost⟩
      · exact Or.inl fun y hy => (List.mem_cons.mp hy).elim (fun he => he ▸ hx) (hall y)
      · refine Or.inr ⟨x :: pre, y, post, m, m', rfl, ?_, hy, Frames.cons hcut hframes, hcut', hpost⟩
        exact fun z hz => (List.mem_cons.mp hz).elim (fun he => he ▸ hx) (hpre z)
    · exact Or.inr ⟨[], x, xs, bs, mid, rfl, fun y hy => absurd hy List.not_mem_nil, hx, Frames.nil bs, hcut, htail⟩

end Rules

end OwlsRan.Lib
