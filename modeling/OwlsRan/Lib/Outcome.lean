import OwlsRan.Lib.EventRun

/-!
# Postconditions of fallible code

`Yields r Q E`: if `r` returns, its result satisfies `Q`, and if it aborts, its reason satisfies `E`.
-/

namespace OwlsRan.Lib

universe u

def Yields {α : Type*} {β : Type*} (r : Except α β) (Q : β → Prop) (E : α → Prop) : Prop :=
  match r with
  | .ok b => Q b
  | .error a => E a

section Rules

variable {α α' : Type*} {β γ : Type u} {Q : β → Prop} {R : γ → Prop} {E : α → Prop} {r : Except α β}

lemma yields_iff : Yields r Q E ↔ (∀ b, r = .ok b → Q b) ∧ ∀ a, r = .error a → E a := by
  cases r with
  | ok b => simp [Yields]
  | error a => simp [Yields]

lemma Yields.of_ok {b : β} (h : Yields r Q E) (hr : r = .ok b) : Q b := by
  subst hr
  exact h

lemma Yields.of_error {a : α} (h : Yields r Q E) (hr : r = .error a) : E a := by
  subst hr
  exact h

@[simp] lemma yields_ok {b : β} : Yields (.ok b : Except α β) Q E ↔ Q b := Iff.rfl

@[simp] lemma yields_pure {b : β} : Yields (pure b : Except α β) Q E ↔ Q b := Iff.rfl

variable {Q' : β → Prop}

lemma Yields.mono {E' : α → Prop} (h : Yields r Q E) (hQ : ∀ b, Q b → Q' b)
    (hE : ∀ a, E a → E' a) : Yields r Q' E' := by
  cases r with
  | ok b => exact hQ b h
  | error a => exact hE a h

lemma Yields.post (h : Yields r Q E) (hQ : ∀ b, Q b → Q' b) : Yields r Q' E :=
  h.mono hQ fun _ ha => ha

lemma Yields.and (h : Yields r Q E) (h' : Yields r Q' E) : Yields r (fun b => Q b ∧ Q' b) E := by
  cases r with
  | ok b => exact ⟨h, h'⟩
  | error a => exact h

lemma Yields.aborts {E' : α → Prop} (h : Yields r Q E) (h' : Yields r Q' E') : Yields r Q E' := by
  cases r with
  | ok b => exact h
  | error a => exact h'

lemma yields_bind {f : β → Except α γ} (h : Yields r Q E) (hf : ∀ b, Q b → Yields (f b) R E) :
    Yields (r >>= f) R E := by
  cases r with
  | ok b => exact hf b h
  | error a => exact h

lemma yields_ite {c : Prop} [Decidable c] {s : Except α β} (ht : c → Yields r Q E) (hf : ¬c → Yields s Q E) :
    Yields (if c then r else s) Q E := by
  split
  case isTrue h => exact ht h
  case isFalse h => exact hf h

lemma yields_foldlM {δ : Type*} {f : β → δ → Except α β} {I : β → Prop} {l : List δ} {b : β} (hb : I b)
    (hf : ∀ b d, d ∈ l → I b → Yields (f b d) I E) : Yields (l.foldlM f b) I E := by
  induction l generalizing b with
  | nil => exact hb
  | cons d ds ih =>
    rw [List.foldlM_cons]
    exact yields_bind (hf b d List.mem_cons_self hb) fun b' hb' =>
      ih hb' fun b d hd => hf b d (List.mem_cons_of_mem _ hd)

lemma yields_map {f : β → γ} (h : Yields r (fun b => R (f b)) E) : Yields (r.map f) R E := by
  cases r with
  | ok b => exact h
  | error a => exact h

lemma yields_lift {g : α' → α} (hE : ∀ a, E (g a)) {r : Except α' β} : Yields (r.mapError g) (fun b => r = .ok b) E := by
  cases r with
  | ok b => rfl
  | error a => exact hE a

lemma yields_true (r : Except α β) : Yields r (fun _ => True) fun _ => True := by
  cases r <;> trivial

lemma mapError_eq_ok {g : α' → α} {r : Except α' β} {b : β} : r.mapError g = .ok b ↔ r = .ok b := by
  cases r with
  | ok b' => simp [Except.mapError]
  | error a => simp [Except.mapError]

end Rules

/-- The invariant rule for runs, for the states reached and for the reasons of an abort together. -/
theorem runEvents_yields {σ ε α : Type*} {step : σ → ε → Except α σ} {C : ε → Prop} (Inv : σ → Prop) {E : α → Prop}
    (hstep : ∀ s e, C e → Inv s → Yields (step s e) Inv E) {s : σ} {es : List ε} (hC : ∀ e ∈ es, C e) (hs : Inv s) :
    Yields (runEvents step s es) Inv E := by
  induction es generalizing s with
  | nil => exact hs
  | cons e es ih =>
    rw [runEvents_cons]
    have h := hstep s e (hC e List.mem_cons_self) hs
    cases hse : step s e with
    | error a =>
      rw [hse] at h
      exact h
    | ok s' =>
      rw [hse] at h
      exact ih (fun e' he' => hC e' (List.mem_cons_of_mem e he')) h

/-- The invariant rule when the events are delivered under a condition on the state. -/
theorem runsWithin_yields {σ ε α : Type*} {step : σ → ε → Except α σ} {C : σ → ε → Prop} (Inv : σ → Prop) {E : α → Prop}
    (hstep : ∀ s e, C s e → Inv s → Yields (step s e) Inv E) {s : σ} {es : List ε} (hC : RunsWithin step C s es)
    (hs : Inv s) : HoldsThroughout step Inv s es ∧ Yields (runEvents step s es) Inv E := by
  induction es generalizing s with
  | nil => exact ⟨hs, hs⟩
  | cons e es ih =>
    have h := hstep s e hC.1 hs
    rw [runEvents_cons]
    cases hse : step s e with
    | error a =>
      rw [hse] at h
      refine ⟨⟨hs, fun s' hs' => ?_⟩, h⟩
      rw [hse] at hs'
      cases hs'
    | ok s' =>
      rw [hse] at h
      obtain ⟨hthroughout, hrun⟩ := ih (hC.2 s' hse) h
      refine ⟨⟨hs, fun t ht => ?_⟩, hrun⟩
      rw [hse] at ht
      cases ht
      exact hthroughout

/-- Whether a computation succeeds, with a result of which a decidable property holds. -/
instance decidableExistsOk {α : Type*} {β : Type*} (r : Except α β) (p : β → Prop) [DecidablePred p] :
    Decidable (∃ b, r = .ok b ∧ p b) :=
  match r with
  | .ok b => decidable_of_iff (p b) ⟨fun hp => ⟨b, rfl, hp⟩, fun ⟨_, hb, hp⟩ => Except.ok.inj hb ▸ hp⟩
  | .error _ => isFalse fun ⟨_, hb, _⟩ => nomatch hb

instance decidableEqError {α : Type*} {β : Type*} [DecidableEq α] (r : Except α β) (a : α) : Decidable (r = .error a) :=
  match r with
  | .ok _ => isFalse nofun
  | .error b => decidable_of_iff (b = a) ⟨congrArg Except.error, fun h => Except.error.inj h⟩

end OwlsRan.Lib
