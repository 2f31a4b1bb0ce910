import OwlsRan.Lib.SequenceNumber
import OwlsRan.Mac.RntiManager

/-!
# Uniqueness of TC-RNTIs

An RNTI that is handed out is not in the table until its UE is added.
-/

namespace OwlsRan.Mac
open OwlsRan.Lib

namespace RntiManager

section Search

variable {hasRnti : Nat → Bool} {c : Nat}

def rntiAt (c : Nat) : Nat := c % CRNTI_RANGE + MIN_CRNTI

lemma isCrnti_rntiAt (c : Nat) : isCrnti (rntiAt c) = true := isCrnti_of_lt (Nat.mod_lt c (by decide))

/-- The number of registered RNTIs in front of the counter, of which at most `fuel` are looked at. -/
def registeredAhead (hasRnti : Nat → Bool) : Nat → Nat → Nat
  | 0, _ => 0
  | fuel + 1, c =>
    if hasRnti (rntiAt c) then registeredAhead hasRnti fuel ((c + 1) % COUNTER_SPAN) + 1 else 0

lemma next_counter (c k : Nat) : ((c + 1) % COUNTER_SPAN + k) % COUNTER_SPAN = (c + (k + 1)) % COUNTER_SPAN := by
  rw [Nat.mod_add_mod, Nat.add_assoc, Nat.add_comm 1 k]

lemma registeredAhead_le {fuel j : Nat} (hc : c < COUNTER_SPAN) (hj : j < fuel)
    (hfree : hasRnti (rntiAt ((c + j) % COUNTER_SPAN)) = false) : registeredAhead hasRnti fuel c ≤ j := by
  induction fuel generalizing c j with
  | zero => exact absurd hj (Nat.not_lt_zero j)
  | succ fuel ih =>
    rw [registeredAhead]
    cases j with
    | zero =>
      rw [Nat.add_zero, Nat.mod_eq_of_lt hc] at hfree
      rw [hfree]
      exact Nat.zero_le 0
    | succ j =>
      split
      · apply Nat.succ_le_succ
        apply ih (Nat.mod_lt _ (by decide)) (Nat.lt_of_succ_lt_succ hj)
        rw [next_counter]
        exact hfree
      · exact Nat.zero_le _

lemma allocateLoop_eq {fuel : Nat} (hc : c < COUNTER_SPAN) (h : registeredAhead hasRnti fuel c < fuel) :
    allocateLoop hasRnti fuel c =
        some (rntiAt ((c + registeredAhead hasRnti fuel c) % COUNTER_SPAN),
          (c + registeredAhead hasRnti fuel c + 1) % COUNTER_SPAN) ∧
      hasRnti (rntiAt ((c + registeredAhead hasRnti fuel c) % COUNTER_SPAN)) = false := by
  induction fuel generalizing c with
  | zero => exact absurd h (Nat.not_lt_zero _)
  | succ fuel ih =>
    rw [registeredAhead] at h ⊢
    rw [allocateLoop]
    change (if hasRnti (rntiAt c) = true then _ else some (rntiAt c, _)) = _ ∧ _
    by_cases hused : hasRnti (rntiAt c) = true
    · rw [if_pos hused] at h ⊢
      have hrest := ih (Nat.mod_lt (c + 1) (by decide)) (Nat.lt_of_succ_lt_succ h)
      rw [next_counter, Nat.add_assoc, next_counter] at hrest
      rw [if_pos hused]
      exact hrest
    · rw [if_neg hused, if_neg hused]
      simp only [Nat.add_zero, Nat.mod_eq_of_lt hc]
      exact ⟨trivial, Bool.eq_false_of_not_eq_true hused⟩

end Search

section Properties

variable {T : Type*} [DecidableEq T] (sentinel : T)

def total (f : RntiManager T → RntiCall T → Nat) : RntiManager T → List (RntiCall T) → Nat
  | _, [] => 0
  | m, call :: calls =>
    f m call + match step sentinel m call with
      | .ok m' => total f m' calls
      | .error _ => 0

def allocations (m : RntiManager T) : RntiCall T → Nat
  | .allocate => if MAX_NOF_DU_UES ≤ m.nofUes then 0 else 1
  | _ => 0

def passedOver (m : RntiManager T) : RntiCall T → Nat
  | .allocate =>
    if MAX_NOF_DU_UES ≤ m.nofUes then 0 else registeredAhead (m.hasRnti sentinel) COUNTER_SPAN m.rntiCounter
  | _ => 0

def Sound (m : RntiManager T) : RntiCall T → Prop
  | .allocate => (mapped sentinel m.rntiToUeIndexMap).card < MAX_NOF_DU_UES →
      ∃ rnti m', m.allocate sentinel = .ok (rnti, m') ∧ isCrnti rnti = true ∧ m.hasRnti sentinel rnti = false
  | .addUe crnti value => ∀ t, m.addUe sentinel crnti value = .ok (false, t) → t.get crnti = m.get crnti
  | .remUe _ => True

def Distinct (start : RntiManager T) (calls : List (RntiCall T)) : Prop :=
  ∀ before between behind m₁ rnti m₂ m₃ rnti' m₄,
    calls = before ++ .allocate :: (between ++ .allocate :: behind) →
    runEvents (step sentinel) start before = .ok m₁ → m₁.allocate sentinel = .ok (rnti, m₂) →
    runEvents (step sentinel) m₂ between = .ok m₃ → m₃.allocate sentinel = .ok (rnti', m₄) →
    rnti ≠ INVALID_RNTI → rnti' ≠ INVALID_RNTI →
    total sentinel allocations m₂ between < CRNTI_RANGE - MAX_NOF_DU_UES → rnti ≠ rnti'

structure SoundRun (start : RntiManager T) (calls : List (RntiCall T)) : Prop where
  nofUes : HoldsThroughout (step sentinel) (fun m => m.nofUes = (mapped sentinel m.rntiToUeIndexMap).card) start calls
  each : RunsWithin (step sentinel) (Sound sentinel) start calls
  distinct : Distinct sentinel start calls

/-- An RNTI that is registered is only added with the value that it has. Where no RNTI from the counter on is free, the
RNTIs that the remaining values of the counter fold to are all registered. -/
def Condition (m : RntiManager T) : RntiCall T → Prop
  | .allocate => m.nofUes < MAX_NOF_DU_UES →
      (∃ i < CRNTI_RANGE, m.rntiCounter ≤ i ∧ m.rntiToUeIndexMap i = sentinel) ∨
        ∀ i < COUNTER_SPAN - CRNTI_RANGE, m.rntiToUeIndexMap i ≠ sentinel
  | .addUe crnti value => m.get crnti = sentinel ∨ m.get crnti = value
  | .remUe _ => True

def Paced (start : RntiManager T) (calls : List (RntiCall T)) : Prop :=
  ∀ before row behind m, calls = before ++ (row ++ behind) → runEvents (step sentinel) start before = .ok m →
    total sentinel allocations m row ≤ CRNTI_RANGE - MAX_NOF_DU_UES →
    total sentinel (passedOver sentinel) m row ≤ MAX_NOF_DU_UES

end Properties

section Allocation

variable {T : Type*} [DecidableEq T] {sentinel : T} {m m' : RntiManager T}

lemma Inv.exists_free (hinv : Inv sentinel m) (h : m.nofUes < MAX_NOF_DU_UES) :
    ∃ i < CRNTI_RANGE, m.rntiToUeIndexMap i = sentinel := by
  by_contra hnone
  push Not at hnone
  have hall : mapped sentinel m.rntiToUeIndexMap = Finset.range CRNTI_RANGE := by
    ext i
    rw [mem_mapped, Finset.mem_range]
    exact ⟨fun hi => hi.1, fun hi => ⟨hi, hnone i hi⟩⟩
  have hcard := hinv.nofUes
  rw [hall, Finset.card_range] at hcard
  have hlarge : MAX_NOF_DU_UES < CRNTI_RANGE := by decide
  omega

lemma hasRnti_rntiAt {c : Nat} (hfree : m.rntiToUeIndexMap (c % CRNTI_RANGE) = sentinel) :
    m.hasRnti sentinel (rntiAt c) = false := by
  apply Bool.eq_false_of_not_eq_true
  intro hused
  exact hasRnti_index.mp hused hfree

lemma registeredAhead_le_of_free {i : Nat} (hc : m.rntiCounter ≤ i) (hi : i < CRNTI_RANGE)
    (hfree : m.rntiToUeIndexMap i = sentinel) :
    registeredAhead (m.hasRnti sentinel) COUNTER_SPAN m.rntiCounter ≤ i - m.rntiCounter := by
  have hspan : CRNTI_RANGE < COUNTER_SPAN := by decide
  apply registeredAhead_le (by omega) (by omega)
  rw [Nat.add_sub_cancel' hc, Nat.mod_eq_of_lt (by omega)]
  apply hasRnti_rntiAt
  rwa [Nat.mod_eq_of_lt hi]

lemma Inv.registeredAhead_lt (hinv : Inv sentinel m) (h : m.nofUes < MAX_NOF_DU_UES) :
    registeredAhead (m.hasRnti sentinel) COUNTER_SPAN m.rntiCounter < COUNTER_SPAN := by
  obtain ⟨i, hi, hfree⟩ := hinv.exists_free h
  have hspan : CRNTI_RANGE < COUNTER_SPAN := by decide
  have hcounter := hinv.counter
  have hj : (i + COUNTER_SPAN - m.rntiCounter) % COUNTER_SPAN < COUNTER_SPAN := Nat.mod_lt _ (by decide)
  refine lt_of_le_of_lt (registeredAhead_le hcounter hj ?_) hj
  have hat : (m.rntiCounter + (i + COUNTER_SPAN - m.rntiCounter) % COUNTER_SPAN) % COUNTER_SPAN = i := by
    rw [Nat.add_mod_mod, Nat.add_sub_cancel' (by omega), Nat.add_mod_right, Nat.mod_eq_of_lt (by omega)]
  rw [hat]
  apply hasRnti_rntiAt
  rwa [Nat.mod_eq_of_lt hi]

lemma Inv.allocate_eq (hinv : Inv sentinel m) (h : m.nofUes < MAX_NOF_DU_UES) :
    let c := m.rntiCounter + registeredAhead (m.hasRnti sentinel) COUNTER_SPAN m.rntiCounter
    m.allocate sentinel = .ok (rntiAt (c % COUNTER_SPAN), { m with rntiCounter := (c + 1) % COUNTER_SPAN }) ∧
      m.hasRnti sentinel (rntiAt (c % COUNTER_SPAN)) = false := by
  obtain ⟨hloop, hfree⟩ := allocateLoop_eq hinv.counter (hinv.registeredAhead_lt h)
  refine ⟨?_, hfree⟩
  unfold allocate
  rw [if_neg (Nat.not_le.mpr h), hloop]

lemma allocate_full (h : MAX_NOF_DU_UES ≤ m.nofUes) : m.allocate sentinel = .ok (INVALID_RNTI, m) := if_pos h

lemma Inv.unfolded (hinv : Inv sentinel m) (h : m.nofUes < MAX_NOF_DU_UES) (hC : Condition sentinel m .allocate) :
    (m.rntiCounter + registeredAhead (m.hasRnti sentinel) COUNTER_SPAN m.rntiCounter) % COUNTER_SPAN < CRNTI_RANGE := by
  have hspan : CRNTI_RANGE < COUNTER_SPAN := by decide
  have hfold : COUNTER_SPAN - CRNTI_RANGE < CRNTI_RANGE := by decide
  rcases hC h with ⟨i, hi, hc, hfree⟩ | hlow
  · have hle := registeredAhead_le_of_free hc hi hfree
    rw [Nat.mod_eq_of_lt (by omega)]
    omega
  · by_contra hge
    have hfree := (hinv.allocate_eq h).2
    have hlt : (m.rntiCounter + registeredAhead (m.hasRnti sentinel) COUNTER_SPAN m.rntiCounter) % COUNTER_SPAN
        < COUNTER_SPAN := Nat.mod_lt _ (by decide)
    generalize (m.rntiCounter + registeredAhead (m.hasRnti sentinel) COUNTER_SPAN m.rntiCounter) % COUNTER_SPAN = v
      at hge hfree hlt
    have hindex : v % CRNTI_RANGE = v - CRNTI_RANGE := by
      rw [Nat.mod_eq_sub_mod (by omega), Nat.mod_eq_of_lt (by omega)]
    have hused := hasRnti_index.mpr (hlow (v - CRNTI_RANGE) (by omega))
    rw [← hindex] at hused
    exact Bool.false_ne_true (hfree.symm.trans hused)

lemma Inv.step (hinv : Inv sentinel m) {call : RntiCall T} (h : step sentinel m call = .ok m') : Inv sentinel m' := by
  cases call with
  | allocate =>
    obtain ⟨⟨rnti, m''⟩, hallocate, rfl⟩ := map_eq_ok.mp h
    by_cases hfull : MAX_NOF_DU_UES ≤ m.nofUes
    · rw [allocate_full hfull] at hallocate
      cases hallocate
      exact hinv
    · rw [(hinv.allocate_eq (Nat.not_le.mp hfull)).1] at hallocate
      cases hallocate
      exact ⟨hinv.nofUes, Nat.mod_lt _ (by decide)⟩
  | addUe crnti value =>
    obtain ⟨⟨isNew, t⟩, hadd, rfl⟩ := map_eq_ok.mp h
    exact ⟨hinv.addUe hadd, hinv.counter⟩
  | remUe crnti =>
    obtain ⟨t, hrem, rfl⟩ := map_eq_ok.mp h
    exact ⟨hinv.remUe hrem, hinv.counter⟩

lemma Inv.step_counter (hinv : Inv sentinel m) {call : RntiCall T} (h : RntiManager.step sentinel m call = .ok m') :
    m'.rntiCounter = (m.rntiCounter + (m.passedOver sentinel call + m.allocations call)) % COUNTER_SPAN := by
  have hstay : ∀ c, c = m.rntiCounter → c = (m.rntiCounter + (0 + 0)) % COUNTER_SPAN := by
    rintro c rfl
    exact (Nat.mod_eq_of_lt hinv.counter).symm
  cases call with
  | allocate =>
    obtain ⟨⟨rnti, m''⟩, hallocate, rfl⟩ := map_eq_ok.mp h
    unfold passedOver allocations
    by_cases hfull : MAX_NOF_DU_UES ≤ m.nofUes
    · rw [allocate_full hfull] at hallocate
      cases hallocate
      rw [if_pos hfull, if_pos hfull]
      exact hstay _ rfl
    · rw [(hinv.allocate_eq (Nat.not_le.mp hfull)).1] at hallocate
      cases hallocate
      rw [if_neg hfull, if_neg hfull, ← Nat.add_assoc]
  | addUe crnti value =>
    obtain ⟨⟨isNew, t⟩, hadd, rfl⟩ := map_eq_ok.mp h
    exact hstay _ rfl
  | remUe crnti =>
    obtain ⟨t, hrem, rfl⟩ := map_eq_ok.mp h
    exact hstay _ rfl

end Allocation

section Totals

variable {T : Type*} [DecidableEq T] {sentinel : T} {m m' : RntiManager T} {calls calls' : List (RntiCall T)}
  {f : RntiManager T → RntiCall T → Nat}

lemma total_cons {call : RntiCall T} (h : step sentinel m call = .ok m') :
    total sentinel f m (call :: calls) = f m call + total sentinel f m' calls := by
  rw [total, h]

lemma total_append (h : runEvents (step sentinel) m calls = .ok m') :
    total sentinel f m (calls ++ calls') = total sentinel f m calls + total sentinel f m' calls' := by
  induction calls generalizing m with
  | nil =>
    cases h
    exact (Nat.zero_add _).symm
  | cons call calls ih =>
    obtain ⟨m₁, hstep, hrest⟩ := runEvents_cons_ok.mp h
    rw [List.cons_append, total_cons hstep, total_cons hstep, ih hrest, Nat.add_assoc]

lemma total_single {call : RntiCall T} (h : step sentinel m call = .ok m') : total sentinel f m [call] = f m call := by
  rw [total_cons h]
  exact Nat.add_zero _

lemma total_le_append : total sentinel f m calls ≤ total sentinel f m (calls ++ calls') := by
  induction calls generalizing m with
  | nil => exact Nat.zero_le _
  | cons call calls ih =>
    cases h : step sentinel m call with
    | error e =>
      rw [List.cons_append, total, total, h]
    | ok m' =>
      rw [List.cons_append, total_cons h, total_cons h]
      exact Nat.add_le_add_left ih _

lemma paced_of_total (h : total sentinel (passedOver sentinel) m calls ≤ MAX_NOF_DU_UES) : Paced sentinel m calls := by
  rintro before row behind m₁ rfl hbefore -
  rw [total_append hbefore] at h
  have hrow : total sentinel (passedOver sentinel) m₁ row ≤ total sentinel (passedOver sentinel) m₁ (row ++ behind) :=
    total_le_append
  omega

lemma Inv.run_counter (hinv : Inv sentinel m) (h : runEvents (RntiManager.step sentinel) m calls = .ok m') :
    m'.rntiCounter = (m.rntiCounter + (total sentinel (passedOver sentinel) m calls
      + total sentinel allocations m calls)) % COUNTER_SPAN := by
  induction calls generalizing m with
  | nil =>
    cases h
    exact (Nat.mod_eq_of_lt hinv.counter).symm
  | cons call calls ih =>
    obtain ⟨m₁, hstep, hrest⟩ := runEvents_cons_ok.mp h
    rw [total_cons hstep, total_cons hstep, ih (hinv.step hstep) hrest, hinv.step_counter hstep, Nat.mod_add_mod]
    congr 1
    omega

end Totals

section Soundness

variable {T : Type*} [DecidableEq T] {sentinel : T} {m m' : RntiManager T} {calls : List (RntiCall T)}

lemma Inv.sound (hinv : Inv sentinel m) {call : RntiCall T} (hC : Condition sentinel m call) : Sound sentinel m call := by
  cases call with
  | allocate =>
    intro hfew
    rw [← hinv.nofUes] at hfew
    obtain ⟨hallocate, hfree⟩ := hinv.allocate_eq hfew
    exact ⟨_, _, hallocate, isCrnti_rntiAt _, hfree⟩
  | addUe crnti value =>
    intro t hadd
    obtain ⟨-, -, hmap, hnew, -⟩ := addUe_spec hadd
    have hused : m.get crnti ≠ sentinel := fun hfree => Bool.false_ne_true (hnew.mpr hfree)
    unfold RntiValueTable.get
    rw [hmap, Function.update_self]
    exact (hC.resolve_left hused).symm
  | remUe crnti => trivial

lemma room_of_allocate {rnti : Nat} (h : m.allocate sentinel = .ok (rnti, m'))
    (hvalid : rnti ≠ INVALID_RNTI) : m.nofUes < MAX_NOF_DU_UES := by
  apply Nat.not_le.mp
  intro hfull
  rw [allocate_full hfull] at h
  cases h
  exact hvalid rfl

lemma step_allocate {rnti : Nat} (h : m.allocate sentinel = .ok (rnti, m')) :
    step sentinel m .allocate = .ok m' := map_eq_ok.mpr ⟨_, h, rfl⟩

/-- The counter does not come round to the same value between two allocations that are close to each other. -/
lemma distinct_of_paced (hinv : Inv sentinel m) (hC : RunsWithin (step sentinel) (Condition sentinel) m calls)
    (hpaced : Paced sentinel m calls) : Distinct sentinel m calls := by
  rintro before between behind m₁ rnti m₂ m₃ rnti' m₄ rfl hbefore hfirst hbetween hsecond hvalid hvalid' hclose
  have hinv₁ : Inv sentinel m₁ := runEvents_invariant _ (fun _ _ _ h hs => h.step hs) hinv hbefore
  have hinv₂ : Inv sentinel m₂ := hinv₁.step (step_allocate hfirst)
  have hinv₃ : Inv sentinel m₃ := runEvents_invariant _ (fun _ _ _ h hs => h.step hs) hinv₂ hbetween
  have hroom₁ := room_of_allocate hfirst hvalid
  have hroom₃ := room_of_allocate hsecond hvalid'
  have hupto : runEvents (step sentinel) m (before ++ [.allocate]) = .ok m₂ :=
    runEvents_concat_ok.mpr ⟨m₁, hbefore, step_allocate hfirst⟩
  rw [List.append_cons] at hC hpaced
  have hrest := runsWithin_suffix hC hupto
  -- both allocations take values of the counter that do not fold
  have hlow := hinv₁.unfolded hroom₁ (runsWithin_at (runsWithin_of_append hC) hbefore)
  have hlow' := hinv₃.unfolded hroom₃ (runsWithin_at hrest hbetween)
  have hpassed := hpaced _ (between ++ [.allocate]) behind m₂ (congrArg _ (List.append_cons _ _ _)) hupto
  rw [total_append hbetween, total_append hbetween, total_single (step_allocate hsecond),
    total_single (step_allocate hsecond)] at hpassed
  have hone : allocations m₃ (.allocate : RntiCall T) = 1 := if_neg (Nat.not_le.mpr hroom₃)
  have hpass : passedOver sentinel m₃ .allocate = registeredAhead (m₃.hasRnti sentinel) COUNTER_SPAN m₃.rntiCounter :=
    if_neg (Nat.not_le.mpr hroom₃)
  rw [hone, hpass] at hpassed
  have hcounter := hinv₂.run_counter hbetween
  rw [(hinv₁.allocate_eq hroom₁).1] at hfirst
  rw [(hinv₃.allocate_eq hroom₃).1] at hsecond
  obtain ⟨rfl, rfl⟩ := Prod.mk.inj (Except.ok.inj hfirst)
  obtain ⟨rfl, -⟩ := Prod.mk.inj (Except.ok.inj hsecond)
  generalize m₁.rntiCounter + registeredAhead (m₁.hasRnti sentinel) COUNTER_SPAN m₁.rntiCounter = c at *
  generalize registeredAhead (m₃.hasRnti sentinel) COUNTER_SPAN m₃.rntiCounter = ahead at *
  generalize total sentinel (passedOver sentinel) _ between = passed at *
  generalize total sentinel allocations _ between = nofAllocations at *
  intro hsame
  unfold rntiAt at hsame
  rw [Nat.mod_eq_of_lt hlow, Nat.mod_eq_of_lt hlow', Nat.add_right_cancel_iff, hcounter] at hsame
  dsimp only at hsame
  rw [Nat.mod_add_mod, Nat.add_assoc, Nat.mod_add_mod, Nat.add_assoc] at hsame
  have hfar : 1 + (passed + nofAllocations + ahead) < COUNTER_SPAN := by
    have hroom : CRNTI_RANGE - MAX_NOF_DU_UES + MAX_NOF_DU_UES < COUNTER_SPAN := by decide
    omega
  exact ring_entry_ne (by omega) hfar hsame.symm

/-- In every run whose calls meet their condition and pass over few registered RNTIs, an allocation ends with a valid
RNTI that is not in the table as long as there is room for a UE, RNTIs do not repeat within
`CRNTI_RANGE - MAX_NOF_DU_UES` allocations, the number of UEs is the number of mapped RNTIs, and an RNTI that is already
registered keeps its value. -/
theorem rnti_allocation_sound {initialRnti : Nat} (hstart : start sentinel initialRnti = .ok m)
    (hC : RunsWithin (step sentinel) (Condition sentinel) m calls) (hpaced : Paced sentinel m calls) :
    SoundRun sentinel m calls := by
  have hinv := Inv.start hstart
  have hrun := runsWithin_establishes (Inv sentinel) (fun _ h => h.nofUes) (fun _ _ _ h _ hs => h.step hs)
    (fun _ _ h hC => h.sound hC) hinv hC
  exact ⟨hrun.1, hrun.2, distinct_of_paced hinv hC hpaced⟩

def unused (rntiCounter : Nat) : RntiManager Nat := ⟨.empty MAX_NOF_DU_UES, rntiCounter⟩

lemma Inv.unused {c : Nat} (hc : c < COUNTER_SPAN) : Inv MAX_NOF_DU_UES (unused c) := by
  have hstart : RntiManager.start MAX_NOF_DU_UES 1 = .ok (RntiManager.unused 0) := rfl
  exact ⟨(Inv.start hstart).nofUes, hc⟩

lemma allocate_unused {c : Nat} (hc : c < COUNTER_SPAN) :
    (unused c).allocate MAX_NOF_DU_UES = .ok (rntiAt c, unused ((c + 1) % COUNTER_SPAN)) := by
  have hnone : registeredAhead ((unused c).hasRnti MAX_NOF_DU_UES) COUNTER_SPAN (unused c).rntiCounter = 0 :=
    Nat.le_zero.mp (registeredAhead_le hc (by decide) (hasRnti_rntiAt rfl))
  have hallocate := ((Inv.unused hc).allocate_eq (Nat.zero_lt_succ 1023)).1
  rw [hnone, Nat.add_zero] at hallocate
  rw [hallocate]
  change Except.ok (rntiAt (c % COUNTER_SPAN), _) = _
  rw [Nat.mod_eq_of_lt hc]
  rfl

lemma run_unused {c n : Nat} (hc : c < COUNTER_SPAN) :
    runEvents (step MAX_NOF_DU_UES) (unused c) (List.replicate n .allocate) = .ok (unused ((c + n) % COUNTER_SPAN)) := by
  induction n generalizing c with
  | zero => rw [List.replicate_zero, runEvents_nil, Nat.add_zero, Nat.mod_eq_of_lt hc]
  | succ n ih =>
    rw [List.replicate_succ, runEvents_cons_ok]
    refine ⟨_, step_allocate (allocate_unused hc), ?_⟩
    rw [ih (Nat.mod_lt _ (by decide)), next_counter]

theorem rnti_allocation_sound_registered :
    start MAX_NOF_DU_UES 0xffee = .ok (unused 0xffed) ∧
      SoundRun MAX_NOF_DU_UES (unused 0xffed) [.allocate, .allocate, .addUe 0xffee 0] := by
  have hstart : start MAX_NOF_DU_UES 0xffee = .ok (unused 0xffed) := rfl
  refine ⟨hstart, rnti_allocation_sound hstart ?_ ?_⟩
  · refine ⟨fun _ => .inl ⟨0xffed, by decide, le_refl _, rfl⟩, fun m hm => ?_⟩
    obtain rfl := Except.ok.inj (hm.symm.trans (step_allocate (allocate_unused (by decide))))
    refine ⟨fun _ => .inl ⟨0xffee, by decide, le_refl _, rfl⟩, fun m hm => ?_⟩
    obtain rfl := Except.ok.inj (hm.symm.trans (step_allocate (allocate_unused (by decide))))
    exact ⟨.inl rfl, fun _ _ => trivial⟩
  · apply paced_of_total
    decide +kernel

/-- The first RNTI is handed out again behind 16 others when the counter wraps around, and a UE that is added with a
registered RNTI takes it over. -/
theorem rnti_allocation_repeats :
    (start MAX_NOF_DU_UES 0xffef = .ok (unused 0xffee) ∧
      ¬ SoundRun MAX_NOF_DU_UES (unused 0xffee) (List.replicate 19 .allocate)) ∧
      ¬ SoundRun MAX_NOF_DU_UES (unused 0) [.addUe 1 0, .addUe 1 1] := by
  refine ⟨⟨rfl, fun h => ?_⟩, fun h => ?_⟩
  · have hdistinct := h.distinct [.allocate] (List.replicate 16 .allocate) [] (unused 0xffef) 1 (unused 0xfff0) (unused 0) 1
      (unused 1) rfl (run_unused (n := 1) (by decide)) (allocate_unused (by decide)) (run_unused (by decide))
      (allocate_unused (by decide)) (by decide) (by decide)
    apply hdistinct _ rfl
    decide +kernel
  · have hsecond := (h.each.2 _ rfl).1 _ rfl
    exact absurd hsecond (by decide)

end Soundness

end RntiManager

end OwlsRan.Mac
