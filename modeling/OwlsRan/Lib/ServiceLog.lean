import Mathlib.Data.Finset.Card
import Mathlib.Data.Nat.Cast.WithTop
import Mathlib.Order.WithBot

/-!
# Serving those that have waited longest

A log counts the rounds in which someone was served and knows for each client the last such round.
-/

namespace OwlsRan.Lib

variable {ι : Type*} [DecidableEq ι]

/-- The last round is `⊥` for a client that has not been served since it joined. -/
structure ServiceLog (ι : Type*) where
  rounds : ℕ
  last : ι → WithBot ℕ

inductive ServiceEvent (ι : Type*) where
  | serve (batch : List ι)
  | join (i : ι)

namespace ServiceEvent

def isRound : ServiceEvent ι → Bool
  | serve batch => !batch.isEmpty
  | join _ => false

def Serves (e : ServiceEvent ι) (i : ι) : Prop := ∃ batch, e = serve batch ∧ i ∈ batch

end ServiceEvent

namespace ServiceLog

def init (ι : Type*) : ServiceLog ι := ⟨0, fun _ => ⊥⟩

def apply (s : ServiceLog ι) : ServiceEvent ι → ServiceLog ι
  | .serve [] => s
  | .serve (i :: batch) => ⟨s.rounds + 1, fun j => if j ∈ i :: batch then s.rounds else s.last j⟩
  | .join i => { s with last := Function.update s.last i ⊥ }

def after (s : ServiceLog ι) (es : List (ServiceEvent ι)) : ServiceLog ι := es.foldl apply s

def Past (s : ServiceLog ι) : Prop := ∀ i, s.last i < s.rounds

def age (s : ServiceLog ι) (i : ι) : ℕ := s.rounds - (s.last i).unbotD 0

/-- The round serves one of the clients of `U` that have waited longest, and no client of `U` is new. -/
def ServesOldest (U : Finset ι) (s : ServiceLog ι) : ServiceEvent ι → Prop
  | .serve batch => batch ≠ [] → ∃ i ∈ batch, i ∈ U ∧ ∀ j ∈ U, s.last i ≤ s.last j
  | .join i => i ∉ U

section Rounds

variable {s : ServiceLog ι} {e : ServiceEvent ι} {es : List (ServiceEvent ι)} {U : Finset ι} {i : ι}

@[simp] lemma after_nil (s : ServiceLog ι) : s.after [] = s := rfl

@[simp] lemma last_serve_cons (s : ServiceLog ι) (b : ι) (batch : List ι) (j : ι) :
    (s.apply (.serve (b :: batch))).last j = if j ∈ b :: batch then (s.rounds : WithBot ℕ) else s.last j := rfl

@[simp] lemma last_join (s : ServiceLog ι) (i : ι) : (s.apply (.join i)).last = Function.update s.last i ⊥ := rfl

lemma after_append (s : ServiceLog ι) (es fs : List (ServiceEvent ι)) :
    s.after (es ++ fs) = (s.after es).after fs := List.foldl_append

omit [DecidableEq ι] in
lemma past_init : (init ι).Past := fun _ => WithBot.bot_lt_coe 0

lemma Past.apply (hs : s.Past) (e : ServiceEvent ι) : (s.apply e).Past := by
  intro j
  cases e with
  | join i =>
    by_cases hj : j = i
    · simp [ServiceLog.apply, hj]
    · simpa [ServiceLog.apply, hj] using hs j
  | serve batch =>
    cases batch with
    | nil => exact hs j
    | cons i batch =>
      have hlt : (s.rounds : WithBot ℕ) < (s.rounds + 1 : ℕ) :=
        WithBot.coe_lt_coe.mpr (Nat.lt_succ_self s.rounds)
      unfold ServiceLog.apply
      dsimp only
      split
      · exact hlt
      · exact (hs j).trans hlt

lemma Past.after (hs : s.Past) (es : List (ServiceEvent ι)) : (s.after es).Past := by
  induction es generalizing s with
  | nil => exact hs
  | cons e es ih => exact ih (hs.apply e)

omit [DecidableEq ι] in
lemma Past.unbotD_le (hs : s.Past) (i : ι) : (s.last i).unbotD 0 ≤ s.rounds := by
  cases h : s.last i with
  | bot => exact Nat.zero_le _
  | coe r =>
    have hlt := hs i
    rw [h] at hlt
    exact (WithBot.coe_lt_coe.mp hlt).le

/-- The other clients of `U` that have waited at least as long as `i`. -/
def older (U : Finset ι) (i : ι) (s : ServiceLog ι) : Finset ι := U.filter fun j => j ≠ i ∧ s.last j ≤ s.last i

lemma card_older_lt (hi : i ∈ U) (s : ServiceLog ι) : (older U i s).card < U.card := by
  refine Finset.card_lt_card ⟨Finset.filter_subset _ _, fun hsub => ?_⟩
  exact (Finset.mem_filter.mp (hsub hi)).2.1 rfl

/-- A round that passes over `i` takes one client out of those that have waited as long as `i`. -/
lemma card_older_apply_lt (hs : s.Past) (he : s.ServesOldest U e) (hround : e.isRound = true)
    (hnot : ¬e.Serves i) (hi : i ∈ U) : (older U i (s.apply e)).card < (older U i s).card := by
  cases e with
  | join j => cases hround
  | serve batch =>
    cases batch with
    | nil => cases hround
    | cons b batch =>
      obtain ⟨j, hj, hjU, holdest⟩ := he (List.cons_ne_nil _ _)
      have hib : i ∉ b :: batch := fun hmem => hnot ⟨_, rfl, hmem⟩
      have hji : j ≠ i := fun heq => hib (heq ▸ hj)
      refine Finset.card_lt_card ⟨fun k hk => ?_, fun hsub => ?_⟩
      · obtain ⟨hkU, hki, hle⟩ := Finset.mem_filter.mp hk
        refine Finset.mem_filter.mpr ⟨hkU, hki, ?_⟩
        rw [last_serve_cons, last_serve_cons, if_neg hib] at hle
        split at hle
        case isTrue => exact absurd (hs i) (not_lt.mpr hle)
        case isFalse => exact hle
      · have hgone := (Finset.mem_filter.mp (hsub (Finset.mem_filter.mpr ⟨hjU, hji, holdest i hi⟩))).2.2
        rw [last_serve_cons, last_serve_cons, if_neg hib, if_pos hj] at hgone
        exact absurd (hs i) (not_lt.mpr hgone)

/-- An event that is not a round leaves the clients of `U` in the order in which they wait. -/
lemma older_apply (he : s.ServesOldest U e) (hround : e.isRound = false) (hi : i ∈ U) :
    older U i (s.apply e) = older U i s := by
  cases e with
  | serve batch =>
    cases batch with
    | nil => rfl
    | cons b batch => cases hround
  | join j =>
    refine Finset.filter_congr fun k hk => ?_
    have hkj : k ≠ j := fun heq => he (heq ▸ hk)
    have hij : i ≠ j := fun heq => he (heq ▸ hi)
    simp [apply, hkj, hij]

lemma rounds_le_older (hs : s.Past) (hi : i ∈ U)
    (hes : ∀ pre e post, es = pre ++ e :: post → (s.after pre).ServesOldest U e ∧ ¬e.Serves i) :
    es.countP ServiceEvent.isRound ≤ (older U i s).card := by
  induction es generalizing s with
  | nil => exact Nat.zero_le _
  | cons e es ih =>
    obtain ⟨he, hnot⟩ := hes [] e es rfl
    rw [after_nil] at he
    have hrest := ih (hs.apply e) fun pre e' post heq => hes (e :: pre) e' post (by rw [heq]; rfl)
    rw [List.countP_cons]
    cases hround : e.isRound with
    | true =>
      have hlt := card_older_apply_lt hs he hround hnot hi
      simp only [if_true]
      omega
    | false =>
      rw [older_apply he hround hi] at hrest
      simpa using hrest

/-- Each of the clients is served within as many rounds as there are clients. -/
theorem exists_serves (hs : s.Past) (hi : i ∈ U)
    (hes : ∀ pre e post, es = pre ++ e :: post → (s.after pre).ServesOldest U e)
    (hrounds : U.card ≤ es.countP ServiceEvent.isRound) : ∃ e ∈ es, e.Serves i := by
  by_contra hnone
  have hle := rounds_le_older (i := i) hs hi fun pre e post heq =>
    ⟨hes pre e post heq, fun hserves => hnone ⟨e, by simp [heq], hserves⟩⟩
  have hlt := card_older_lt hi s
  omega

end Rounds

end ServiceLog

end OwlsRan.Lib
