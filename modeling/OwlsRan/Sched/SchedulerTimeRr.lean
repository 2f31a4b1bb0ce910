import Mathlib.Logic.Function.Basic
import OwlsRan.Lib.ServiceLog

/-!
# Round-robin priorities

`scheduler_time_rr` ranks a UE by the number of allocation rounds since its last allocation. The counters wrap around,
a counter of zero also stands for a UE that was never allocated, and the counter of a UE index outlives the UE.
-/

namespace OwlsRan.Sched
open OwlsRan.Lib

inductive LinkDir where
  | dl
  | ul
deriving DecidableEq

/-- `dl_alloc_count` and `ue_last_dl_alloc_count`, or the same for the UL. -/
structure AllocCounters where
  allocCount : UInt32
  ueLastAllocCount : Nat → UInt32

/-- `ue_newtx_candidate`. The priority is of type `double`, which holds every `unsigned` exactly. -/
structure RrCandidate where
  ueIndex : Nat
  priority : Nat
deriving DecidableEq

namespace AllocCounters

def init : AllocCounters := ⟨0, fun _ => 0⟩

def computePriorities (k : AllocCounters) (ueCandidates : List RrCandidate) : List RrCandidate :=
  ueCandidates.map fun c => { c with priority := (k.allocCount - k.ueLastAllocCount c.ueIndex).toNat }

def saveNewtxGrants (k : AllocCounters) (grants : List Nat) : AllocCounters :=
  if grants = [] then k
  else ⟨k.allocCount + 1, grants.foldl (fun last u => Function.update last u k.allocCount) k.ueLastAllocCount⟩

end AllocCounters

/-- `scheduler_time_rr`, without what it only holds to be logged. -/
structure SchedulerTimeRr where
  dl : AllocCounters
  ul : AllocCounters

namespace SchedulerTimeRr

def init : SchedulerTimeRr := ⟨.init, .init⟩

/-- `add_ue` has an empty body. -/
def addUe (s : SchedulerTimeRr) (_ueIndex : Nat) : SchedulerTimeRr := s

/-- `rem_ue` has an empty body. -/
def remUe (s : SchedulerTimeRr) (_ueIndex : Nat) : SchedulerTimeRr := s

def computeUeDlPriorities (s : SchedulerTimeRr) (ueCandidates : List RrCandidate) : List RrCandidate :=
  s.dl.computePriorities ueCandidates

def computeUeUlPriorities (s : SchedulerTimeRr) (ueCandidates : List RrCandidate) : List RrCandidate :=
  s.ul.computePriorities ueCandidates

def saveDlNewtxGrants (s : SchedulerTimeRr) (dlGrants : List Nat) : SchedulerTimeRr :=
  { s with dl := s.dl.saveNewtxGrants dlGrants }

def saveUlNewtxGrants (s : SchedulerTimeRr) (ulGrants : List Nat) : SchedulerTimeRr :=
  { s with ul := s.ul.saveNewtxGrants ulGrants }

def counters (s : SchedulerTimeRr) : LinkDir → AllocCounters
  | .dl => s.dl
  | .ul => s.ul

def priorities (s : SchedulerTimeRr) : LinkDir → List RrCandidate → List RrCandidate
  | .dl => s.computeUeDlPriorities
  | .ul => s.computeUeUlPriorities

end SchedulerTimeRr

/-- A round computes the priorities of its candidates and then saves the grants, of which there may be none. -/
inductive RrEvent where
  | addUe (ueIndex : Nat)
  | remUe (ueIndex : Nat)
  | round (dir : LinkDir) (candidates : List RrCandidate) (grants : List Nat)

namespace SchedulerTimeRr

def step (s : SchedulerTimeRr) : RrEvent → SchedulerTimeRr
  | .addUe u => s.addUe u
  | .remUe u => s.remUe u
  | .round .dl _ grants => s.saveDlNewtxGrants grants
  | .round .ul _ grants => s.saveUlNewtxGrants grants

def after (es : List RrEvent) : SchedulerTimeRr := es.foldl step init

end SchedulerTimeRr

namespace RrEvent

def service (dir : LinkDir) : RrEvent → Option (ServiceEvent Nat)
  | addUe u => some (.join u)
  | remUe _ => none
  | round d _ grants => if d = dir then some (.serve grants) else none

def isNonEmptyRound (dir : LinkDir) : RrEvent → Bool
  | round d _ grants => decide (d = dir) && !grants.isEmpty
  | _ => false

end RrEvent

def allocLog (dir : LinkDir) (es : List RrEvent) : ServiceLog Nat :=
  (ServiceLog.init Nat).after (es.filterMap (RrEvent.service dir))

section Encoding

variable {k : AllocCounters} {log : ServiceLog Nat} {u : Nat}

/-- The counters stand for the history, modulo `2 ^ 32` and with zero for a UE that was never allocated. -/
structure Encodes (k : AllocCounters) (log : ServiceLog Nat) : Prop where
  count : k.allocCount = UInt32.ofNat log.rounds
  last : ∀ u, k.ueLastAllocCount u = UInt32.ofNat ((log.last u).unbotD 0)

lemma foldl_update_apply {α : Type} (grants : List Nat) (a : α) (last : Nat → α) (u : Nat) :
    grants.foldl (fun last u => Function.update last u a) last u = if u ∈ grants then a else last u := by
  induction grants generalizing last with
  | nil => simp
  | cons g grants ih =>
    rw [List.foldl_cons, ih]
    by_cases hmem : u ∈ grants
    · simp [hmem]
    · by_cases hug : u = g
      · simp [hug]
      · simp [hmem, hug]

lemma init_encodes : Encodes .init (ServiceLog.init Nat) := ⟨rfl, fun _ => rfl⟩

lemma saveNewtxGrants_encodes (h : Encodes k log) (grants : List Nat) :
    Encodes (k.saveNewtxGrants grants) (log.apply (.serve grants)) := by
  unfold AllocCounters.saveNewtxGrants
  cases grants with
  | nil => exact h
  | cons g grants =>
    rw [if_neg (List.cons_ne_nil _ _)]
    constructor
    · rw [h.count]
      exact (UInt32.ofNat_add _ _).symm
    · intro u
      dsimp only
      rw [foldl_update_apply, ServiceLog.last_serve_cons]
      split
      · rw [h.count]
        rfl
      · exact h.last u

lemma join_encodes (h : Encodes k log) (hzero : k.ueLastAllocCount u = 0) : Encodes k (log.apply (.join u)) := by
  refine ⟨h.count, fun v => ?_⟩
  rw [ServiceLog.last_join]
  by_cases hv : v = u
  · rw [hv, hzero]
    simp
  · rw [Function.update_of_ne hv]
    exact h.last v

lemma toNat_sub_eq_age (h : Encodes k log) (hpast : log.Past) (hage : log.age u < 2 ^ 32) :
    (k.allocCount - k.ueLastAllocCount u).toNat = log.age u := by
  rw [h.count, h.last, ← UInt32.ofNat_sub (hpast.unbotD_le u)]
  exact UInt32.toNat_ofNat_of_lt' hage

/-- A UE that was never allocated and one whose last allocation was in the very first round look alike. -/
def FirstRoundTie (log : ServiceLog Nat) (u v : Nat) : Prop := log.last u = ⊥ ∧ log.last v = (0 : ℕ)

lemma age_le_of_last_le {u v : Nat} (hle : log.last u ≤ log.last v) : log.age v ≤ log.age u := by
  have hmono : (log.last u).unbotD 0 ≤ (log.last v).unbotD 0 := by
    cases hu : log.last u with
    | bot => exact Nat.zero_le _
    | coe r =>
      cases hv : log.last v with
      | bot =>
        rw [hu, hv] at hle
        exact absurd hle (not_le.mpr (WithBot.bot_lt_coe r))
      | coe r' =>
        rw [hu, hv] at hle
        exact WithBot.coe_le_coe.mp hle
  unfold ServiceLog.age
  omega

lemma age_lt_iff_of_last_lt (hpast : log.Past) {u v : Nat} (hlt : log.last u < log.last v) :
    log.age v < log.age u ↔ ¬FirstRoundTie log u v := by
  cases hv : log.last v with
  | bot =>
    rw [hv] at hlt
    exact absurd hlt not_lt_bot
  | coe r' =>
    have hround : r' < log.rounds := WithBot.coe_lt_coe.mp (hv ▸ hpast v)
    unfold ServiceLog.age FirstRoundTie
    cases hu : log.last u with
    | bot =>
      have hfirst : (WithBot.some r' = ((0 : ℕ) : WithBot ℕ)) ↔ r' = 0 := WithBot.coe_eq_coe
      simp only [hv, WithBot.unbotD_bot, WithBot.unbotD_coe, true_and, hfirst]
      omega
    | coe r =>
      rw [hu, hv] at hlt
      have hrounds : r < r' := WithBot.coe_lt_coe.mp hlt
      simp only [hv, WithBot.unbotD_coe, WithBot.coe_ne_bot, false_and, not_false_eq_true, iff_true]
      omega

end Encoding

/-!
## Fairness of the round-robin priorities

In a run that keeps the counters in step with the history, the priority of a candidate is the number of rounds that it
has waited.
-/

/-- The counters stay in step with the history: no UE is added under an index whose counters are not zero, and no
candidate has waited for `2 ^ 32` rounds. -/
def CountersFit (before : List RrEvent) : RrEvent → Prop
  | .addUe u => ∀ dir, ((SchedulerTimeRr.after before).counters dir).ueLastAllocCount u = 0
  | .remUe _ => True
  | .round dir candidates _ => ∀ c ∈ candidates, (allocLog dir before).age c.ueIndex < 2 ^ 32

/-- Of the candidates, with their priorities, `c` has the highest one and is granted. -/
def GrantedFirst (candidates : List RrCandidate) (grants : List Nat) (c : RrCandidate) : Prop :=
  c ∈ candidates ∧ c.ueIndex ∈ grants ∧ ∀ c' ∈ candidates, c'.priority ≤ c.priority

def GrantsMaximal (before : List RrEvent) : RrEvent → Prop
  | .round dir candidates grants => grants ≠ [] →
    ∃ c, GrantedFirst ((SchedulerTimeRr.after before).priorities dir candidates) grants c
  | _ => True

/-- While a UE that was never allocated is a candidate, the batch does not leave it to those of the first round. -/
def TiesBroken (before : List RrEvent) : RrEvent → Prop
  | .round dir candidates grants => grants ≠ [] → (∃ c ∈ candidates, (allocLog dir before).last c.ueIndex = ⊥) →
    ∃ c, GrantedFirst ((SchedulerTimeRr.after before).priorities dir candidates) grants c ∧
      (allocLog dir before).last c.ueIndex ≠ (0 : ℕ)
  | _ => True

def AtEach (P : List RrEvent → RrEvent → Prop) (es : List RrEvent) : Prop :=
  ∀ pre e post, es = pre ++ e :: post → P pre e

def OrderedByAge (log : ServiceLog Nat) (candidates : List RrCandidate) : Prop :=
  ∀ p ∈ candidates, ∀ q ∈ candidates,
    (log.last p.ueIndex ≤ log.last q.ueIndex → q.priority ≤ p.priority) ∧
      (log.last p.ueIndex < log.last q.ueIndex → (q.priority < p.priority ↔ ¬FirstRoundTie log p.ueIndex q.ueIndex))

section Runs

variable {es : List RrEvent} {dir : LinkDir}

lemma AtEach.of_append {P : List RrEvent → RrEvent → Prop} {pre post : List RrEvent} (h : AtEach P (pre ++ post)) :
    AtEach P pre := fun before e rest heq => h before e (rest ++ post) (by simp [heq])

lemma allocLog_append (pre es : List RrEvent) :
    allocLog dir (pre ++ es) = (allocLog dir pre).after (es.filterMap (RrEvent.service dir)) := by
  unfold allocLog
  rw [List.filterMap_append, ServiceLog.after_append]

lemma after_concat (es : List RrEvent) (e : RrEvent) :
    SchedulerTimeRr.after (es ++ [e]) = (SchedulerTimeRr.after es).step e := by
  simp [SchedulerTimeRr.after]

lemma allocLog_past (dir : LinkDir) (es : List RrEvent) : (allocLog dir es).Past := ServiceLog.past_init.after _

lemma step_encodes {s : SchedulerTimeRr} {log : ServiceLog Nat} {e : RrEvent} (h : Encodes (s.counters dir) log)
    (hadd : ∀ u, e = .addUe u → (s.counters dir).ueLastAllocCount u = 0) :
    Encodes ((s.step e).counters dir) (log.after (e.service dir).toList) := by
  cases e with
  | addUe u => exact join_encodes h (hadd u rfl)
  | remUe u => exact h
  | round d candidates grants =>
    cases d with
    | dl =>
      cases dir with
      | dl => exact saveNewtxGrants_encodes h grants
      | ul => exact h
    | ul =>
      cases dir with
      | dl => exact h
      | ul => exact saveNewtxGrants_encodes h grants

lemma after_encodes (dir : LinkDir) (hfit : AtEach CountersFit es) :
    Encodes ((SchedulerTimeRr.after es).counters dir) (allocLog dir es) := by
  induction es using List.reverseRecOn with
  | nil => cases dir <;> exact init_encodes
  | append_singleton es e ih =>
    rw [after_concat, allocLog_append]
    have hone : [e].filterMap (RrEvent.service dir) = (e.service dir).toList := by
      cases h : e.service dir <;> simp [h]
    rw [hone]
    refine step_encodes (ih hfit.of_append) fun u hu => ?_
    have hzero := hfit es e [] rfl
    rw [hu] at hzero
    exact hzero dir

variable {before : List RrEvent} {candidates : List RrCandidate}

lemma priority_eq_age {p : RrCandidate}
    (henc : Encodes ((SchedulerTimeRr.after before).counters dir) (allocLog dir before))
    (hage : ∀ c ∈ candidates, (allocLog dir before).age c.ueIndex < 2 ^ 32)
    (hp : p ∈ (SchedulerTimeRr.after before).priorities dir candidates) :
    p.priority = (allocLog dir before).age p.ueIndex := by
  have hmap : (SchedulerTimeRr.after before).priorities dir candidates =
      ((SchedulerTimeRr.after before).counters dir).computePriorities candidates := by cases dir <;> rfl
  rw [hmap] at hp
  obtain ⟨c, hc, rfl⟩ := List.mem_map.mp hp
  exact toNat_sub_eq_age henc (allocLog_past dir before) (hage c hc)

lemma exists_priority (dir : LinkDir) (s : SchedulerTimeRr) {u : Nat}
    (hu : u ∈ candidates.map RrCandidate.ueIndex) : ∃ p ∈ s.priorities dir candidates, p.ueIndex = u := by
  obtain ⟨c, hc, rfl⟩ := List.mem_map.mp hu
  cases dir with
  | dl => exact ⟨_, List.mem_map_of_mem hc, rfl⟩
  | ul => exact ⟨_, List.mem_map_of_mem hc, rfl⟩

lemma ueIndex_mem {s : SchedulerTimeRr} {p : RrCandidate}
    (hp : p ∈ s.priorities dir candidates) : p.ueIndex ∈ candidates.map RrCandidate.ueIndex := by
  cases dir with
  | dl =>
    obtain ⟨c, hc, rfl⟩ := List.mem_map.mp hp
    exact List.mem_map.mpr ⟨c, hc, rfl⟩
  | ul =>
    obtain ⟨c, hc, rfl⟩ := List.mem_map.mp hp
    exact List.mem_map.mpr ⟨c, hc, rfl⟩

lemma grantedFirst_oldest {grants : List Nat} {c : RrCandidate}
    (henc : Encodes ((SchedulerTimeRr.after before).counters dir) (allocLog dir before))
    (hage : ∀ c ∈ candidates, (allocLog dir before).age c.ueIndex < 2 ^ 32)
    (hc : GrantedFirst ((SchedulerTimeRr.after before).priorities dir candidates) grants c)
    (htie : (∃ v ∈ candidates, (allocLog dir before).last v.ueIndex = ⊥) →
      (allocLog dir before).last c.ueIndex ≠ (0 : ℕ)) {u : Nat} (hu : u ∈ candidates.map RrCandidate.ueIndex) :
    (allocLog dir before).last c.ueIndex ≤ (allocLog dir before).last u := by
  obtain ⟨hmem, -, hmax⟩ := hc
  obtain ⟨p, hp, rfl⟩ := exists_priority dir (SchedulerTimeRr.after before) hu
  by_contra hlt
  rw [not_le] at hlt
  have hnotie : ¬FirstRoundTie (allocLog dir before) p.ueIndex c.ueIndex := by
    rintro ⟨hnever, hfirst⟩
    obtain ⟨v, hv, hvu⟩ := List.mem_map.mp hu
    exact htie ⟨v, hv, by rw [hvu, hnever]⟩ hfirst
  have hage' := (age_lt_iff_of_last_lt (allocLog_past dir before) hlt).mpr hnotie
  have hle := hmax p hp
  rw [priority_eq_age henc hage hp, priority_eq_age henc hage hmem] at hle
  omega

lemma round_servesOldest {grants : List Nat} {ues : Finset Nat}
    (henc : Encodes ((SchedulerTimeRr.after before).counters dir) (allocLog dir before))
    (hage : CountersFit before (.round dir candidates grants))
    (hset : ∀ u, u ∈ candidates.map RrCandidate.ueIndex ↔ u ∈ ues)
    (hmax : GrantsMaximal before (.round dir candidates grants))
    (hties : TiesBroken before (.round dir candidates grants)) :
    (allocLog dir before).ServesOldest ues (.serve grants) := by
  intro hnonempty
  by_cases hnever : ∃ c ∈ candidates, (allocLog dir before).last c.ueIndex = ⊥
  · obtain ⟨c, hc, hfirst⟩ := hties hnonempty hnever
    exact ⟨c.ueIndex, hc.2.1, (hset _).mp (ueIndex_mem hc.1), fun j hj =>
      grantedFirst_oldest henc hage hc (fun _ => hfirst) ((hset j).mpr hj)⟩
  · obtain ⟨c, hc⟩ := hmax hnonempty
    exact ⟨c.ueIndex, hc.2.1, (hset _).mp (ueIndex_mem hc.1), fun j hj =>
      grantedFirst_oldest henc hage hc (fun hsome => absurd hsome hnever) ((hset j).mpr hj)⟩

lemma service_round {d : LinkDir} {grants : List Nat} {e : ServiceEvent Nat}
    (h : (RrEvent.round d candidates grants).service dir = some e) : d = dir ∧ .serve grants = e := by
  change (if d = dir then some (.serve grants) else none) = some e at h
  split at h
  case isTrue hd => exact ⟨hd, Option.some.inj h⟩
  case isFalse => cases h

lemma isNonEmptyRound_eq (dir : LinkDir) (e : RrEvent) :
    e.isNonEmptyRound dir = ((e.service dir).map ServiceEvent.isRound).getD false := by
  cases e with
  | addUe u => rfl
  | remUe u => rfl
  | round d candidates grants =>
    unfold RrEvent.isNonEmptyRound RrEvent.service
    by_cases hd : d = dir <;> simp [hd, ServiceEvent.isRound]

/-- In every run whose events keep the counters in step with the history, the candidates of a call are ordered by how
long ago they were allocated; and if no non-empty batch leaves a UE that was never allocated to those of the first
round, then each of `N` UEs that are the candidates of all rounds is allocated within `N` non-empty rounds. -/
theorem round_robin_fair (es : List RrEvent) (hfit : AtEach CountersFit es) (hmax : AtEach GrantsMaximal es) :
    (∀ pre dir candidates grants post, es = pre ++ .round dir candidates grants :: post →
      OrderedByAge (allocLog dir pre) ((SchedulerTimeRr.after pre).priorities dir candidates)) ∧
    (AtEach TiesBroken es → ∀ pre window post dir (ues : Finset Nat), es = pre ++ window ++ post →
      (∀ candidates grants, .round dir candidates grants ∈ window →
        ∀ u, u ∈ candidates.map RrCandidate.ueIndex ↔ u ∈ ues) →
      (∀ u ∈ ues, .addUe u ∉ window) → ues.card ≤ window.countP (RrEvent.isNonEmptyRound dir) →
      ∀ u ∈ ues, ∃ candidates grants, .round dir candidates grants ∈ window ∧ u ∈ grants) := by
  constructor
  · intro pre dir candidates grants post hes p hp q hq
    have henc := after_encodes dir (AtEach.of_append (hes ▸ hfit))
    have hage := hfit pre _ post hes
    rw [priority_eq_age henc hage hp, priority_eq_age henc hage hq]
    exact ⟨age_le_of_last_le, age_lt_iff_of_last_lt (allocLog_past dir pre)⟩
  · intro hties pre window post dir ues hes hcands hadd hcount u hu
    rw [List.countP_congr fun e _ => by rw [isNonEmptyRound_eq], ← List.countP_filterMap] at hcount
    have hserved : ∃ e ∈ window.filterMap (RrEvent.service dir), e.Serves u := by
      refine ServiceLog.exists_serves (allocLog_past dir pre) hu (fun before e rest heq => ?_) hcount
      -- the event of the window behind `e`, and the run up to it
      obtain ⟨window1, window2, hwindow, hbefore, hsplit⟩ := List.filterMap_eq_append_iff.mp heq
      obtain ⟨skipped, event, window3, hwindow2, hskipped, hserve, -⟩ := List.filterMap_eq_cons_iff.mp hsplit
      have hposition : es = (pre ++ (window1 ++ skipped)) ++ event :: (window3 ++ post) := by
        rw [hes, hwindow, hwindow2]
        simp
      have hlog : (allocLog dir pre).after before = allocLog dir (pre ++ (window1 ++ skipped)) := by
        rw [allocLog_append, List.filterMap_append, List.filterMap_eq_nil_iff.mpr hskipped, List.append_nil, hbefore]
      have hmem : event ∈ window := by
        rw [hwindow, hwindow2]
        simp
      rw [hlog]
      cases event with
      | remUe v => cases hserve
      | addUe v =>
        cases hserve
        exact fun hv => hadd v hv hmem
      | round d candidates grants =>
        obtain ⟨rfl, rfl⟩ := service_round hserve
        exact round_servesOldest (after_encodes d (AtEach.of_append (hposition ▸ hfit))) (hfit _ _ _ hposition)
          (hcands candidates grants hmem) (hmax _ _ _ hposition) (hties _ _ _ hposition)
    obtain ⟨e, he, batch, rfl, hbatch⟩ := hserved
    obtain ⟨event, hevent, hserve⟩ := List.mem_filterMap.mp he
    cases event with
    | addUe v => cases hserve
    | remUe v => cases hserve
    | round d candidates grants =>
      obtain ⟨rfl, heq⟩ := service_round hserve
      cases heq
      exact ⟨candidates, batch, hevent, hbatch⟩

end Runs

section Examples

lemma AtEach.nil (P : List RrEvent → RrEvent → Prop) : AtEach P [] := by
  intro pre e post heq
  simp at heq

lemma AtEach.concat {P : List RrEvent → RrEvent → Prop} {es : List RrEvent} {e : RrEvent} (h : AtEach P es) (he : P es e) :
    AtEach P (es ++ [e]) := by
  intro pre e' post heq
  rcases List.eq_nil_or_concat post with rfl | ⟨post', x, rfl⟩
  · obtain ⟨rfl, hlast⟩ := List.append_inj' heq rfl
    obtain rfl := List.singleton_inj.mp hlast
    exact he
  · have hsplit : es ++ [e] = (pre ++ e' :: post') ++ [x] := by simpa using heq
    exact h pre e' post' (List.append_inj' hsplit rfl).1

def twoRounds (first second : Nat) : List RrEvent :=
  [.round .dl [⟨0, 0⟩, ⟨1, 0⟩] [first], .round .dl [⟨0, 0⟩, ⟨1, 0⟩] [second]]

lemma twoRounds_maximal {first second : Nat} (h1 : first = 0 ∨ first = 1) (h2 : second = 0 ∨ second = 1) :
    AtEach GrantsMaximal (twoRounds first second) := by
  refine ((AtEach.nil GrantsMaximal).concat (e := .round .dl _ [first]) fun _ => ⟨⟨first, 0⟩, ?_⟩).concat
    (e := .round .dl _ [second]) fun _ => ⟨⟨second, 1⟩, ?_⟩
  · rcases h1 with rfl | rfl <;> exact ⟨by decide, by decide, by decide⟩
  · rcases h1 with rfl | rfl <;> rcases h2 with rfl | rfl <;> exact ⟨by decide, by decide, by decide⟩

theorem round_robin_fair_alternating :
    OrderedByAge (allocLog .dl [.round .dl [⟨0, 0⟩, ⟨1, 0⟩] [0]])
      ((SchedulerTimeRr.after [.round .dl [⟨0, 0⟩, ⟨1, 0⟩] [0]]).priorities .dl [⟨0, 0⟩, ⟨1, 0⟩]) ∧
      ∀ u ∈ ({0, 1} : Finset Nat), ∃ candidates grants, .round .dl candidates grants ∈ twoRounds 0 1 ∧ u ∈ grants := by
  have hfit : AtEach CountersFit (twoRounds 0 1) := by
    refine ((AtEach.nil CountersFit).concat (e := .round .dl _ [0]) ?_).concat (e := .round .dl _ [1]) ?_
    · change ∀ c ∈ _, _ < _
      decide
    · change ∀ c ∈ _, _ < _
      decide
  have hfair := round_robin_fair (twoRounds 0 1) hfit (twoRounds_maximal (Or.inl rfl) (Or.inr rfl))
  refine ⟨hfair.1 [_] .dl _ _ [] rfl, hfair.2 ?_ [] (twoRounds 0 1) [] .dl {0, 1} (by simp) ?_ ?_ (by decide)⟩
  · refine ((AtEach.nil TiesBroken).concat (e := .round .dl _ [0]) fun _ _ => ⟨⟨0, 0⟩, ?_, by decide⟩).concat
      (e := .round .dl _ [1]) fun _ _ => ⟨⟨1, 1⟩, ?_, by decide⟩
    · exact ⟨by decide, by decide, by decide⟩
    · exact ⟨by decide, by decide, by decide⟩
  · intro candidates grants hmem u
    simp only [twoRounds, List.mem_cons, List.not_mem_nil, or_false, RrEvent.round.injEq] at hmem
    obtain ⟨-, rfl, -⟩ | ⟨-, rfl, -⟩ := hmem <;> simp
  · intro u _ hmem
    simp [twoRounds] at hmem

/-- A UE under a reused index ranks below a UE that was allocated before it was added; and the UE of the first round may
be allocated again in the second one. -/
theorem round_robin_unfair :
    (AtEach GrantsMaximal (twoRounds 1 0 ++ [.remUe 0, .addUe 0]) ∧
      (allocLog .dl (twoRounds 1 0 ++ [.remUe 0, .addUe 0])).last 0 = ⊥ ∧
      (allocLog .dl (twoRounds 1 0 ++ [.remUe 0, .addUe 0])).last 1 = (0 : ℕ) ∧
      (SchedulerTimeRr.after (twoRounds 1 0 ++ [.remUe 0, .addUe 0])).priorities .dl [⟨0, 0⟩, ⟨1, 0⟩] =
        [⟨0, 1⟩, ⟨1, 2⟩]) ∧
    AtEach GrantsMaximal (twoRounds 0 0) ∧ (twoRounds 0 0).countP (RrEvent.isNonEmptyRound .dl) = 2 ∧
      ∀ candidates grants, .round .dl candidates grants ∈ twoRounds 0 0 → 1 ∉ grants := by
  refine ⟨⟨?_, by decide, by decide, by decide⟩, twoRounds_maximal (Or.inl rfl) (Or.inl rfl), by decide, ?_⟩
  · exact ((twoRounds_maximal (Or.inr rfl) (Or.inl rfl)).concat (e := .remUe 0) trivial).concat (e := .addUe 0) trivial
  · intro candidates grants hmem
    simp only [twoRounds, List.mem_cons, List.not_mem_nil, or_false, RrEvent.round.injEq] at hmem
    obtain ⟨-, -, rfl⟩ | ⟨-, -, rfl⟩ := hmem <;> simp

end Examples

end OwlsRan.Sched
