import Mathlib.Data.List.Basic
import Mathlib.Data.List.Induction

/-!
# Runs of a fallible event system

An event system is a partial step function `step : σ → ε → Except α σ`; an aborting step ends the run.
-/

namespace OwlsRan.Lib

universe u

variable {σ ε α : Type*}

lemma bind_eq_ok {β γ : Type u} {x : Except α β} {f : β → Except α γ} {c : γ} :
    x >>= f = .ok c ↔ ∃ b, x = .ok b ∧ f b = .ok c := by
  cases x with
  | error a =>
    constructor
    · intro h
      cases h
    · rintro ⟨b, hb, -⟩
      cases hb
  | ok b =>
    constructor
    · exact fun h => ⟨b, rfl, h⟩
    · rintro ⟨b', hb, hf⟩
      cases hb
      exact hf

lemma map_eq_ok {β γ : Type*} {x : Except α β} {f : β → γ} {c : γ} : x.map f = .ok c ↔ ∃ b, x = .ok b ∧ f b = c := by
  cases x with
  | error a => simp [Except.map]
  | ok b => simp [Except.map]

def runEvents (step : σ → ε → Except α σ) (s : σ) (es : List ε) : Except α σ :=
  es.foldlM step s

/-- Every event of the run is delivered in a state that satisfies `C`. -/
def RunsWithin (step : σ → ε → Except α σ) (C : σ → ε → Prop) : σ → List ε → Prop
  | _, [] => True
  | s, e :: es => C s e ∧ ∀ s', step s e = .ok s' → RunsWithin step C s' es

/-- `P` holds in the start state and after every event that does not abort. -/
def HoldsThroughout (step : σ → ε → Except α σ) (P : σ → Prop) : σ → List ε → Prop
  | s, [] => P s
  | s, e :: es => P s ∧ ∀ s', step s e = .ok s' → HoldsThroughout step P s' es

instance decidableRunsWithin (step : σ → ε → Except α σ) (C : σ → ε → Prop) [∀ s e, Decidable (C s e)] :
    ∀ s es, Decidable (RunsWithin step C s es)
  | _, [] => isTrue trivial
  | s, e :: es =>
    match h : step s e with
    | .ok s' =>
      have := decidableRunsWithin step C s' es
      decidable_of_iff (C s e ∧ RunsWithin step C s' es)
        (and_congr_right fun _ => ⟨fun hr _ ht => Except.ok.inj (h.symm.trans ht) ▸ hr, fun hr => hr s' h⟩)
    | .error _ =>
      decidable_of_iff (C s e) ⟨fun hc => ⟨hc, fun _ ht => nomatch h.symm.trans ht⟩, fun hr => hr.1⟩

section Runs

variable {step : σ → ε → Except α σ}

@[simp] lemma runEvents_nil (s : σ) : runEvents step s [] = .ok s := rfl

lemma runEvents_cons (s : σ) (e : ε) (es : List ε) :
    runEvents step s (e :: es) = (step s e).bind fun s' => runEvents step s' es := rfl

variable {s t : σ} {es fs : List ε}

lemma runEvents_cons_ok {e : ε} :
    runEvents step s (e :: es) = .ok t ↔ ∃ s', step s e = .ok s' ∧ runEvents step s' es = .ok t := by
  rw [runEvents_cons]
  cases h : step s e with
  | error a => simp [Except.bind]
  | ok s' => simp [Except.bind]

lemma runEvents_append (s : σ) (es fs : List ε) :
    runEvents step s (es ++ fs) = (runEvents step s es).bind fun s' => runEvents step s' fs := by
  induction es generalizing s with
  | nil => rfl
  | cons e es ih =>
    rw [List.cons_append, runEvents_cons, runEvents_cons]
    cases h : step s e with
    | error a => rfl
    | ok s' => exact ih s'

lemma runEvents_append_ok :
    runEvents step s (es ++ fs) = .ok t ↔
      ∃ s', runEvents step s es = .ok s' ∧ runEvents step s' fs = .ok t := by
  rw [runEvents_append]
  cases h : runEvents step s es with
  | error a => simp [Except.bind]
  | ok s' => simp [Except.bind]

lemma runEvents_concat_ok {e : ε} :
    runEvents step s (es ++ [e]) = .ok t ↔
      ∃ s', runEvents step s es = .ok s' ∧ step s' e = .ok t := by
  rw [runEvents_append_ok]
  refine exists_congr fun s' => and_congr_right fun _ => ?_
  rw [runEvents_cons_ok]
  constructor
  · rintro ⟨u, hu, hrest⟩
    cases hrest
    exact hu
  · exact fun h => ⟨t, h, rfl⟩

variable {C D : σ → ε → Prop}

lemma runsWithin_mono (hCD : ∀ s e, C s e → D s e) (h : RunsWithin step C s es) : RunsWithin step D s es := by
  induction es generalizing s with
  | nil => trivial
  | cons e es ih => exact ⟨hCD s e h.1, fun s' hs => ih (h.2 s' hs)⟩

lemma runsWithin_and (hC : RunsWithin step C s es)
    (hD : RunsWithin step D s es) : RunsWithin step (fun s e => C s e ∧ D s e) s es := by
  induction es generalizing s with
  | nil => trivial
  | cons e es ih => exact ⟨⟨hC.1, hD.1⟩, fun s' hs => ih (hC.2 s' hs) (hD.2 s' hs)⟩

lemma runsWithin_of_append (h : RunsWithin step C s (es ++ fs)) : RunsWithin step C s es := by
  induction es generalizing s with
  | nil => trivial
  | cons e es ih => exact ⟨h.1, fun s' hs => ih (h.2 s' hs)⟩

lemma runsWithin_concat {e : ε} (hrun : runEvents step s es = .ok t) :
    RunsWithin step C s (es ++ [e]) ↔ RunsWithin step C s es ∧ C t e := by
  induction es generalizing s with
  | nil =>
    cases hrun
    exact ⟨fun h => ⟨trivial, h.1⟩, fun h => ⟨h.2, fun _ _ => trivial⟩⟩
  | cons e' es ih =>
    obtain ⟨s', hs', hrest⟩ := runEvents_cons_ok.mp hrun
    constructor
    · rintro ⟨hC, hmore⟩
      obtain ⟨hes, he⟩ := (ih hrest).mp (hmore s' hs')
      refine ⟨⟨hC, fun s'' hs'' => ?_⟩, he⟩
      obtain rfl := Except.ok.inj (hs''.symm.trans hs')
      exact hes
    · rintro ⟨⟨hC, hmore⟩, he⟩
      refine ⟨hC, fun s'' hs'' => ?_⟩
      obtain rfl := Except.ok.inj (hs''.symm.trans hs')
      exact (ih hrest).mpr ⟨hmore s'' hs'', he⟩

lemma runsWithin_suffix
    (h : RunsWithin step C s (es ++ fs)) (hrun : runEvents step s es = .ok t) : RunsWithin step C t fs := by
  induction es generalizing s with
  | nil =>
    cases hrun
    exact h
  | cons e es ih =>
    obtain ⟨s', hs', hrest⟩ := runEvents_cons_ok.mp hrun
    exact ih (h.2 s' hs') hrest

lemma runsWithin_of_forall {C : ε → Prop} (h : ∀ e ∈ es, C e) : RunsWithin step (fun _ e => C e) s es := by
  induction es generalizing s with
  | nil => trivial
  | cons e es ih =>
    exact ⟨h e List.mem_cons_self, fun s' _ => ih fun e' he' => h e' (List.mem_cons_of_mem _ he')⟩

lemma runsWithin_at {e : ε}
    (h : RunsWithin step C s (es ++ e :: fs)) (hrun : runEvents step s es = .ok t) : C t e := by
  induction es generalizing s with
  | nil =>
    cases hrun
    exact h.1
  | cons e' es ih =>
    obtain ⟨s', hs', hrest⟩ := runEvents_cons_ok.mp hrun
    exact ih (h.2 s' hs') hrest

variable {P : σ → Prop}

lemma holdsThroughout_mono {Q : σ → Prop} (hPQ : ∀ s, P s → Q s)
    (h : HoldsThroughout step P s es) : HoldsThroughout step Q s es := by
  induction es generalizing s with
  | nil => exact hPQ s h
  | cons e es ih => exact ⟨hPQ s h.1, fun s' hs => ih (h.2 s' hs)⟩

lemma holdsThroughout_start (h : HoldsThroughout step P s es) : P s := by
  cases es with
  | nil => exact h
  | cons e es => exact h.1

lemma holdsThroughout_iff_prefix :
    HoldsThroughout step P s es ↔
      ∀ pre post t, es = pre ++ post → runEvents step s pre = .ok t → P t := by
  induction es generalizing s with
  | nil =>
    constructor
    · intro h pre post t hes hrun
      obtain ⟨rfl, -⟩ := List.append_eq_nil_iff.mp hes.symm
      cases hrun
      exact h
    · exact fun h => h [] [] s rfl rfl
  | cons e es ih =>
    constructor
    · rintro ⟨hP, hrest⟩ pre post t hes hrun
      cases pre with
      | nil =>
        cases hrun
        exact hP
      | cons f pre =>
        rw [List.cons_append] at hes
        obtain ⟨rfl, htail⟩ := List.cons.inj hes
        obtain ⟨s', hs, hrun⟩ := runEvents_cons_ok.mp hrun
        exact ih.mp (hrest s' hs) pre post t htail hrun
    · intro h
      refine ⟨h [] (e :: es) s rfl rfl, fun s' hs => ih.mpr fun pre post t hes hrun => ?_⟩
      exact h (e :: pre) post t (by rw [hes]; rfl) (runEvents_cons_ok.mpr ⟨s', hs, hrun⟩)

/-- A property that every step preserves holds at the end of every run. -/
theorem runEvents_invariant (Inv : σ → Prop) (hstep : ∀ s e s', Inv s → step s e = .ok s' → Inv s')
    (hs : Inv s) (hrun : runEvents step s es = .ok t) : Inv t := by
  induction es generalizing s with
  | nil =>
    cases hrun
    exact hs
  | cons e es ih =>
    obtain ⟨s', h1, h2⟩ := runEvents_cons_ok.mp hrun
    exact ih (hstep s e s' hs h1) h2

/-- The invariant rule for runs whose events are all delivered under `C`. -/
theorem runsWithin_invariant (Inv : σ → Prop) (hstep : ∀ s e s', Inv s → C s e → step s e = .ok s' → Inv s')
    (hs : Inv s) (hC : RunsWithin step C s es)
    (hrun : runEvents step s es = .ok t) : Inv t := by
  induction es generalizing s with
  | nil =>
    cases hrun
    exact hs
  | cons e es ih =>
    obtain ⟨s', h1, h2⟩ := runEvents_cons_ok.mp hrun
    exact ih (hstep s e s' hs hC.1 h1) (hC.2 s' h1) h2

/-- The invariant rule for a property of the states and one of the steps. -/
theorem runsWithin_establishes (Inv : σ → Prop) (hP : ∀ s, Inv s → P s)
    (hinv : ∀ s e s', Inv s → C s e → step s e = .ok s' → Inv s') (hstep : ∀ s e, Inv s → C s e → D s e)
    (hs : Inv s) (hC : RunsWithin step C s es) :
    HoldsThroughout step P s es ∧ RunsWithin step D s es := by
  induction es generalizing s with
  | nil => exact ⟨hP s hs, trivial⟩
  | cons e es ih =>
    have hrest : ∀ s', step s e = .ok s' → HoldsThroughout step P s' es ∧ RunsWithin step D s' es :=
      fun s' hs' => ih (hinv s e s' hs hC.1 hs') (hC.2 s' hs')
    exact ⟨⟨hP s hs, fun s' hs' => (hrest s' hs').1⟩, hstep s e hs hC.1, fun s' hs' => (hrest s' hs').2⟩

/-- Forward simulation by a total system: no step aborts, and the related states stay related. -/
theorem runsWithin_simulates {τ : Type*} {spec : τ → ε → τ} (R : σ → τ → Prop)
    (hstep : ∀ s t e, R s t → C s e → ∃ s', step s e = .ok s' ∧ R s' (spec t e))
    {t : τ} (hs : R s t) (hC : RunsWithin step C s es) :
    ∃ s', runEvents step s es = .ok s' ∧ R s' (es.foldl spec t) := by
  induction es generalizing s t with
  | nil => exact ⟨s, rfl, hs⟩
  | cons e es ih =>
    obtain ⟨s', hs', hR⟩ := hstep s t e hs hC.1
    obtain ⟨s'', hs'', hR'⟩ := ih hR (hC.2 s' hs')
    exact ⟨s'', runEvents_cons_ok.mpr ⟨s', hs', hs''⟩, hR'⟩

/-- A run that does not abort has passed every test without which the next step aborts. -/
theorem runsWithin_of_run (Inv : σ → Prop) (hinv : ∀ s e s', Inv s → C s e → step s e = .ok s' → Inv s')
    (hD : ∀ s e s', Inv s → C s e → step s e = .ok s' → D s e) (hs : Inv s)
    (hC : RunsWithin step C s es) (hrun : runEvents step s es = .ok t) : RunsWithin step D s es := by
  induction es generalizing s with
  | nil => trivial
  | cons e es ih =>
    obtain ⟨s', hs', hrest⟩ := runEvents_cons_ok.mp hrun
    refine ⟨hD s e s' hs hC.1 hs', fun s'' hs'' => ?_⟩
    obtain rfl := Except.ok.inj (hs''.symm.trans hs')
    exact ih (hinv s e s'' hs hC.1 hs'') (hC.2 s'' hs'') hrest

/-- Two conditions that agree under an invariant hold of the same runs. -/
theorem runsWithin_iff (Inv : σ → Prop) (hinv : ∀ s e s', Inv s → C s e → step s e = .ok s' → Inv s')
    (hCD : ∀ s e, Inv s → (C s e ↔ D s e)) (hs : Inv s) :
    RunsWithin step C s es ↔ RunsWithin step D s es := by
  induction es generalizing s with
  | nil => exact Iff.rfl
  | cons e es ih =>
    constructor
    · rintro ⟨hC, hrest⟩
      exact ⟨(hCD s e hs).mp hC, fun s' hs' => (ih (hinv s e s' hs hC hs')).mp (hrest s' hs')⟩
    · rintro ⟨hD, hrest⟩
      have hC := (hCD s e hs).mpr hD
      exact ⟨hC, fun s' hs' => (ih (hinv s e s' hs hC hs')).mpr (hrest s' hs')⟩

/-- A run aborts only at a step, from a state that the run reaches. -/
theorem runEvents_error {a : α} (hrun : runEvents step s es = .error a) :
    ∃ pre e post t, es = pre ++ e :: post ∧ runEvents step s pre = .ok t ∧ step t e = .error a := by
  induction es generalizing s with
  | nil => cases hrun
  | cons e es ih =>
    rw [runEvents_cons] at hrun
    cases h : step s e with
    | error b =>
      rw [h] at hrun
      cases hrun
      exact ⟨[], e, es, s, rfl, rfl, h⟩
    | ok s' =>
      rw [h] at hrun
      obtain ⟨pre, f, post, t, hes, hpre, hf⟩ := ih hrun
      exact ⟨e :: pre, f, post, t, by rw [hes]; rfl, runEvents_cons_ok.mpr ⟨s', h, hpre⟩, hf⟩

/-- When a step keeps `P` exactly if it is taken under `C`, a run keeps `P` throughout exactly if all its steps are.
`B` is what is known of the steps of the run beforehand. -/
theorem holdsThroughout_iff_runsWithin_of {B : σ → ε → Prop} (Inv : σ → Prop)
    (hinv : ∀ s e s', Inv s → B s e → C s e → step s e = .ok s' → Inv s')
    (hstep : ∀ s e s', Inv s → B s e → P s → step s e = .ok s' → (P s' ↔ C s e))
    (habort : ∀ s e a, Inv s → B s e → P s → step s e = .error a → C s e)
    (hs : Inv s) (hB : RunsWithin step B s es) (hP : P s) :
    HoldsThroughout step P s es ↔ RunsWithin step C s es := by
  induction es generalizing s with
  | nil => exact ⟨fun _ => trivial, fun _ => hP⟩
  | cons e es ih =>
    obtain ⟨hBs, hBrest⟩ := hB
    cases h : step s e with
    | error a =>
      refine ⟨fun _ => ⟨habort s e a hs hBs hP h, fun s' hs' => ?_⟩, fun _ => ⟨hP, fun s' hs' => ?_⟩⟩
      · rw [h] at hs'
        cases hs'
      · rw [h] at hs'
        cases hs'
    | ok t =>
      have hone : ∀ {s'}, step s e = .ok s' → t = s' := by
        intro s' hs'
        rw [h] at hs'
        exact Except.ok.inj hs'
      constructor
      · rintro ⟨-, hrest⟩
        have hPt : P t := holdsThroughout_start (hrest t h)
        have hC : C s e := (hstep s e t hs hBs hP h).mp hPt
        refine ⟨hC, fun s' hs' => ?_⟩
        obtain rfl := hone hs'
        exact (ih (hinv s e t hs hBs hC h) (hBrest t h) hPt).mp (hrest t h)
      · rintro ⟨hC, hrest⟩
        refine ⟨hP, fun s' hs' => ?_⟩
        obtain rfl := hone hs'
        exact (ih (hinv s e t hs hBs hC h) (hBrest t h) ((hstep s e t hs hBs hP h).mpr hC)).mpr (hrest t h)

/-- The case where nothing is known beforehand. -/
theorem holdsThroughout_iff_runsWithin (Inv : σ → Prop) (hinv : ∀ s e s', Inv s → C s e → step s e = .ok s' → Inv s')
    (hstep : ∀ s e s', Inv s → P s → step s e = .ok s' → (P s' ↔ C s e))
    (habort : ∀ s e a, Inv s → P s → step s e = .error a → C s e)
    (hs : Inv s) (hP : P s) :
    HoldsThroughout step P s es ↔ RunsWithin step C s es :=
  holdsThroughout_iff_runsWithin_of (B := fun _ _ => True) Inv (fun s e s' hi _ => hinv s e s' hi)
    (fun s e s' hi _ => hstep s e s' hi) (fun s e a hi _ => habort s e a hi) hs
    (runsWithin_of_forall (C := fun _ => True) fun _ _ => trivial) hP

end Runs

end OwlsRan.Lib
