import OwlsRan.Lib.Outcome
import Mathlib.Logic.Function.Basic
import Mathlib.Data.List.Nodup
import Mathlib.Data.List.TakeDrop
import Mathlib.Data.List.TakeWhile
import Mathlib.Data.Nat.ModEq
import Mathlib.Tactic.Ring

/-!
# Wheels of periodic occasions

A wheel has `size` positions.
-/

namespace OwlsRan.Lib

/-- The positions that the loop `for (w = offset; w < size; w += period)` visits. -/
def wheelOffsets (size period offset : ℕ) : List ℕ :=
  (List.range ((size - offset + period - 1) / period)).map fun i => offset + i * period

section Offsets

variable {size period offset : ℕ}

lemma mem_wheelOffsets (hperiod : 0 < period) {w : ℕ} :
    w ∈ wheelOffsets size period offset ↔ w < size ∧ ∃ i, w = offset + i * period := by
  simp only [wheelOffsets, List.mem_map, List.mem_range, Nat.lt_div_iff_mul_lt hperiod]
  constructor
  · rintro ⟨i, hi, rfl⟩
    exact ⟨by omega, i, rfl⟩
  · rintro ⟨hw, i, rfl⟩
    exact ⟨i, by omega, rfl⟩

lemma mem_wheelOffsets_iff_mod (hoffset : offset < period) {w : ℕ} :
    w ∈ wheelOffsets size period offset ↔ w < size ∧ w % period = offset := by
  rw [mem_wheelOffsets (by omega)]
  refine and_congr_right fun _ => ⟨?_, fun h => ⟨w / period, ?_⟩⟩
  · rintro ⟨i, rfl⟩
    rw [Nat.add_mul_mod_self_right, Nat.mod_eq_of_lt hoffset]
  · rw [← h, Nat.mul_comm]
    exact (Nat.mod_add_div w period).symm

lemma nodup_wheelOffsets (hperiod : 0 < period) : (wheelOffsets size period offset).Nodup := by
  apply List.Nodup.map _ List.nodup_range
  intro i j h
  simpa [Nat.pos_iff_ne_zero.mp hperiod] using h

end Offsets

lemma span_cases {α : Type*} (p : α → Bool) (l : List α) :
    (l.span p = (l, []) ∧ ∀ x ∈ l, p x = true) ∨
      ∃ pre x post, l.span p = (pre, x :: post) ∧ l = pre ++ x :: post ∧ p x = false := by
  rw [List.span_eq_takeWhile_dropWhile]
  have hl := List.takeWhile_append_dropWhile (p := p) (l := l)
  cases hd : l.dropWhile p with
  | nil =>
    left
    rw [hd, List.append_nil] at hl
    refine ⟨by rw [hl], fun x hx => ?_⟩
    rw [← hl] at hx
    exact List.mem_takeWhile_imp hx
  | cons x post =>
    right
    rw [hd] at hl
    have hx := List.head_dropWhile_not p (l := l) (by rw [hd]; exact List.cons_ne_nil _ _)
    simp only [hd, List.head_cons] at hx
    exact ⟨_, x, post, rfl, hl.symm, by simpa using hx⟩

section Update

variable {α ε : Type*}

def updateAt (f : α → Except ε α) (wheel : ℕ → α) (w : ℕ) : Except ε (ℕ → α) :=
  (f (wheel w)).map (Function.update wheel w)

variable {wheel : ℕ → α}

lemma foldlM_updateAt {f : α → Except ε α} {ws : List ℕ} {wheel' : ℕ → α} (hws : ws.Nodup)
    (h : ws.foldlM (updateAt f) wheel = .ok wheel') (w : ℕ) :
    (w ∈ ws → f (wheel w) = .ok (wheel' w)) ∧ (w ∉ ws → wheel' w = wheel w) := by
  induction ws generalizing wheel with
  | nil =>
    obtain rfl := Except.ok.inj h
    simp
  | cons v ws ih =>
    obtain ⟨hv, hws⟩ := List.nodup_cons.mp hws
    rw [List.foldlM_cons, bind_eq_ok] at h
    obtain ⟨mid, hmid, h⟩ := h
    obtain ⟨b, hb, rfl⟩ := map_eq_ok.mp hmid
    have hrest := ih hws h
    by_cases hwv : w = v
    · subst hwv
      simp [hrest.2 hv, hb]
    · simpa [hwv, Function.update_of_ne hwv] using hrest

lemma yields_foldlM_update {f : ℕ → α → Except ε α} {Q : ℕ → α → Prop} {E : ε → Prop} {ws : List ℕ}
    (hws : ws.Nodup) (hf : ∀ w ∈ ws, Yields (f w (wheel w)) (Q w) E) :
    Yields (ws.foldlM (fun wheel w => (f w (wheel w)).map (Function.update wheel w)) wheel)
      (fun wheel' => (∀ w ∈ ws, Q w (wheel' w)) ∧ ∀ w, w ∉ ws → wheel' w = wheel w) E := by
  induction ws generalizing wheel with
  | nil => exact ⟨fun w hw => absurd hw List.not_mem_nil, fun w _ => rfl⟩
  | cons v ws ih =>
    obtain ⟨hv, hws⟩ := List.nodup_cons.mp hws
    have hone := hf v List.mem_cons_self
    rw [List.foldlM_cons]
    cases hres : f v (wheel v) with
    | error a => exact hone.of_error hres
    | ok b =>
      have hrest : ∀ w ∈ ws, Yields (f w (Function.update wheel v b w)) (Q w) E := by
        intro w hw
        have hne : w ≠ v := fun heq => hv (heq ▸ hw)
        rw [Function.update_of_ne hne]
        exact hf w (List.mem_cons_of_mem v hw)
      apply (ih hws hrest).post
      rintro wheel' ⟨hmem, hnot⟩
      refine ⟨fun w hw => ?_, fun w hw => ?_⟩
      · rcases List.mem_cons.mp hw with rfl | hw
        · rw [hnot w hv, Function.update_self]
          exact hone.of_ok hres
        · exact hmem w hw
      · rw [List.mem_cons, not_or] at hw
        rw [hnot w hw.2, Function.update_of_ne hw.1]

lemma foldl_update {f : α → α} {ws : List ℕ} (hws : ws.Nodup) (w : ℕ) :
    ws.foldl (fun wheel w => Function.update wheel w (f (wheel w))) wheel w =
      if w ∈ ws then f (wheel w) else wheel w := by
  induction ws generalizing wheel with
  | nil => simp
  | cons v ws ih =>
    obtain ⟨hv, hws⟩ := List.nodup_cons.mp hws
    rw [List.foldl_cons, ih hws]
    by_cases hwv : w = v
    · subst hwv
      simp [hv]
    · simp [hwv]

end Update

end OwlsRan.Lib
