import OwlsRan.Lib.EventRun
import OwlsRan.Lib.Outcome
import Mathlib.Algebra.Order.Field.Rat
import Mathlib.Logic.Function.Basic
import Mathlib.Tactic.Linarith

/-!
# DL priorities of the learned scheduler

`scheduler_time_ai` adds a bonus for waiting to the priority of a UE. `wait_slots` is what it takes a UE to have waited;
how long the UE has waited follows from the calls (`RoundRecord`). Numbers of type `double` are rational here.
-/

namespace OwlsRan.Sched
open OwlsRan.Lib

inductive AiAbort where
  | badAccess
deriving DecidableEq

/-- What the priorities are computed with: the weights of the network and the logarithm. -/
structure PriorityNet where
  dqnInference : Rat → Rat → Rat → Rat → Rat → Rat
  log1p : Rat → Rat

/-- `exp_average_fast_start` with the coefficient that the scheduler uses. -/
structure ExpAverage where
  average : Rat
  count : Nat

def expAvgAlpha : Rat := 1 / 100

def ExpAverage.push (a : ExpAverage) (sample : Rat) : ExpAverage :=
  if a.count < 100 then ⟨a.average + (sample - a.average) / (a.count + 1), a.count + 1⟩
  else { a with average := (1 - expAvgAlpha) * a.average + expAvgAlpha * sample }

/-- `ue_ctxt`, without what it only holds to be logged. -/
structure UeCtxt where
  waitSlots : Nat
  allocatedBytes : Nat
  dlSumAllocBytes : Nat
  totalDlAvgRate : ExpAverage

structure NewtxCandidate where
  ueIndex : Nat
  reportedCqi : Nat
  pendingDlNewtxBytes : Nat
  estimatedRate : Rat

structure CandidatePriority where
  ueIndex : Nat
  priorityScore : Rat
  pfNorm : Rat
  priority : Rat

structure DlGrant where
  ueIndex : Nat
  tbSizeBytes : Nat

structure SchedulerTimeAi where
  ueHistoryDb : Nat → Option UeCtxt

def clampRat (x lo hi : Rat) : Rat := min (max x lo) hi

def waitBonus (waitSlots : Nat) : Rat := min (waitSlots * (1 / 100)) (15 / 100)

def finalPriority (priorityScore pfNorm : Rat) (waitSlots : Nat) : Rat :=
  8 / 10 * priorityScore + 2 / 10 * pfNorm + waitBonus waitSlots

namespace UeCtxt

def init : UeCtxt := ⟨0, 0, 0, ⟨0, 0⟩⟩

def updateDlAvg (ctx : UeCtxt) : UeCtxt :=
  { ctx with totalDlAvgRate := ctx.totalDlAvgRate.push ctx.dlSumAllocBytes, dlSumAllocBytes := 0 }

def saveDlAlloc (ctx : UeCtxt) (totalAllocBytes : Nat) : UeCtxt :=
  { ctx with
    allocatedBytes := totalAllocBytes
    dlSumAllocBytes := ctx.dlSumAllocBytes + totalAllocBytes
    waitSlots := if totalAllocBytes > 0 then 0 else (ctx.waitSlots + 1) % 2 ^ 32 }

def prioritize (net : PriorityNet) (ctx : UeCtxt) (u : NewtxCandidate) : CandidatePriority × UeCtxt :=
  let ctx := ctx.updateDlAvg
  let avgRate := ctx.totalDlAvgRate.average
  let pfMetric := clampRat (u.estimatedRate / max avgRate 1) 0 100
  let ctx := { ctx with allocatedBytes := 0 }
  let priorityScore := net.dqnInference (u.reportedCqi / 15) (net.log1p u.pendingDlNewtxBytes / (162 / 10))
    (net.log1p avgRate / (73 / 10)) (net.log1p u.estimatedRate / (87 / 10)) (net.log1p pfMetric / (55 / 10))
  let priorityScore := clampRat priorityScore (-1000000) 1000000
  let pfNorm := net.log1p pfMetric / (55 / 10)
  (⟨u.ueIndex, priorityScore, pfNorm, finalPriority priorityScore pfNorm ctx.waitSlots⟩, ctx)

end UeCtxt

namespace SchedulerTimeAi

def init : SchedulerTimeAi := ⟨fun _ => none⟩

def ctxt (st : SchedulerTimeAi) (ueIndex : Nat) : Except AiAbort UeCtxt :=
  match st.ueHistoryDb ueIndex with
  | some ctx => .ok ctx
  | none => .error .badAccess

def setCtxt (st : SchedulerTimeAi) (ueIndex : Nat) (ctx : Option UeCtxt) : SchedulerTimeAi :=
  ⟨Function.update st.ueHistoryDb ueIndex ctx⟩

def computeUeDlPriorities (net : PriorityNet) :
    SchedulerTimeAi → List NewtxCandidate → Except AiAbort (List CandidatePriority × SchedulerTimeAi)
  | st, [] => .ok ([], st)
  | st, u :: us => do
    let ctx ← st.ctxt u.ueIndex
    let (p, ctx) := ctx.prioritize net u
    let (ps, st) ← computeUeDlPriorities net (st.setCtxt u.ueIndex (some ctx)) us
    .ok (p :: ps, st)

def saveDlGrant (st : SchedulerTimeAi) (grant : DlGrant) : Except AiAbort SchedulerTimeAi := do
  let ctx ← st.ctxt grant.ueIndex
  .ok (st.setCtxt grant.ueIndex (some (ctx.saveDlAlloc grant.tbSizeBytes)))

def saveDlNewtxGrants (st : SchedulerTimeAi) (grants : List DlGrant) : Except AiAbort SchedulerTimeAi :=
  grants.foldlM saveDlGrant st

end SchedulerTimeAi

inductive AiEvent where
  | addUe (ueIndex : Nat)
  | remUe (ueIndex : Nat)
  | computeUeDlPriorities (candidates : List NewtxCandidate)
  | saveDlNewtxGrants (grants : List DlGrant)

def SchedulerTimeAi.step (net : PriorityNet) (st : SchedulerTimeAi) : AiEvent → Except AiAbort SchedulerTimeAi
  | .addUe ueIndex => .ok (st.setCtxt ueIndex (some .init))
  | .remUe ueIndex => .ok (st.setCtxt ueIndex none)
  | .computeUeDlPriorities candidates => do
    let (_, st) ← st.computeUeDlPriorities net candidates
    .ok st
  | .saveDlNewtxGrants grants => st.saveDlNewtxGrants grants

/-- How long a UE has waited: the rounds before the current one, and what has happened to the UE in the current one. A
round lasts from one computation of the priorities to the next. -/
structure RoundRecord where
  waited : Nat
  candidate : Bool
  granted : Bool
  /-- Grants of no bytes, since the last one of some bytes. -/
  emptyGrants : Nat

namespace RoundRecord

def init : RoundRecord := ⟨0, false, false, 0⟩

def waitedAfter (r : RoundRecord) : Nat := if r.granted then 0 else if r.candidate then r.waited + 1 else r.waited

def startRound (r : RoundRecord) (candidate : Bool) : RoundRecord := ⟨r.waitedAfter, candidate, false, 0⟩

def grant (r : RoundRecord) (tbSizeBytes : Nat) : RoundRecord :=
  if tbSizeBytes > 0 then { r with granted := true, emptyGrants := 0 } else { r with emptyGrants := r.emptyGrants + 1 }

/-- What `wait_slots` is in the course of a round, if it was right when the round began. -/
def Tracked (r : RoundRecord) (waitSlots : Nat) : Prop :=
  r.waited < 2 ^ 32 ∧
    waitSlots = if r.granted then r.emptyGrants % 2 ^ 32 else (r.waited + r.emptyGrants) % 2 ^ 32

end RoundRecord

structure AiRun where
  sched : SchedulerTimeAi
  waits : Nat → RoundRecord

def saveWaits (waits : Nat → RoundRecord) (grant : DlGrant) : Nat → RoundRecord :=
  Function.update waits grant.ueIndex ((waits grant.ueIndex).grant grant.tbSizeBytes)

def stepWaits (waits : Nat → RoundRecord) : AiEvent → Nat → RoundRecord
  | .addUe ueIndex => Function.update waits ueIndex .init
  | .remUe _ => waits
  | .computeUeDlPriorities candidates =>
    fun ue => (waits ue).startRound (candidates.any fun u => decide (u.ueIndex = ue))
  | .saveDlNewtxGrants grants => grants.foldl saveWaits waits

namespace AiRun

def init : AiRun := ⟨.init, fun _ => .init⟩

def step (net : PriorityNet) (r : AiRun) (e : AiEvent) : Except AiAbort AiRun := do
  let sched ← r.sched.step net e
  .ok ⟨sched, stepWaits r.waits e⟩

/-- When priorities are computed, `wait_slots` is the number of rounds that the UE has waited. -/
def WaitSlotsCounted (r : AiRun) : AiEvent → Prop
  | .computeUeDlPriorities _ =>
    ∀ ue ctx, r.sched.ueHistoryDb ue = some ctx → ctx.waitSlots = (r.waits ue).waitedAfter
  | _ => True

/-- Of two candidates with the same score and the same PF term, the one that has waited longer does not get the lower
priority. -/
def RanksByWaiting (net : PriorityNet) (r : AiRun) : AiEvent → Prop
  | .computeUeDlPriorities candidates =>
    ∀ ps st, r.sched.computeUeDlPriorities net candidates = .ok (ps, st) → ∀ p ∈ ps, ∀ q ∈ ps,
      p.priorityScore = q.priorityScore → p.pfNorm = q.pfNorm →
      (r.waits q.ueIndex).waitedAfter ≤ (r.waits p.ueIndex).waitedAfter → q.priority ≤ p.priority
  | _ => True

/-- When priorities are computed, each candidate of the round before that has got no bytes has got one empty grant, and
no other UE has got an empty grant (since its last one of some bytes, and up to the range of the counter). -/
def EachCandidateGranted (r : AiRun) : AiEvent → Prop
  | .computeUeDlPriorities _ =>
    ∀ ue ctx, r.sched.ueHistoryDb ue = some ctx →
      (r.waits ue).emptyGrants % 2 ^ 32 = (if (r.waits ue).candidate && !(r.waits ue).granted then 1 else 0) ∧
        (r.waits ue).waitedAfter < 2 ^ 32
  | _ => True

def WaitsTracked (r : AiRun) : Prop :=
  ∀ ue ctx, r.sched.ueHistoryDb ue = some ctx → (r.waits ue).Tracked ctx.waitSlots

section Waiting

variable {net : PriorityNet} {st st' : SchedulerTimeAi} {r r' : AiRun}

lemma ctxt_spec (ueIndex : Nat) :
    Yields (st.ctxt ueIndex) (fun ctx => st.ueHistoryDb ueIndex = some ctx) fun _ => True := by
  unfold SchedulerTimeAi.ctxt
  split
  case h_1 h => exact h
  case h_2 => trivial

lemma compute_spec (us : List NewtxCandidate) (st : SchedulerTimeAi) :
    Yields (st.computeUeDlPriorities net us)
      (fun res =>
        (∀ ue, (res.2.ueHistoryDb ue).map UeCtxt.waitSlots = (st.ueHistoryDb ue).map UeCtxt.waitSlots) ∧
        ∀ p ∈ res.1, ∃ ctx, st.ueHistoryDb p.ueIndex = some ctx ∧
          p.priority = finalPriority p.priorityScore p.pfNorm ctx.waitSlots) fun _ => True := by
  induction us generalizing st with
  | nil => exact ⟨fun _ => rfl, nofun⟩
  | cons u us ih =>
    refine yields_bind (ctxt_spec u.ueIndex) fun ctx hctx => ?_
    refine yields_bind (ih (st.setCtxt u.ueIndex (some (ctx.prioritize net u).2))) ?_
    rintro ⟨ps, st'⟩ ⟨hkept, hps⟩
    have hset : ∀ ue, ((st.setCtxt u.ueIndex (some (ctx.prioritize net u).2)).ueHistoryDb ue).map UeCtxt.waitSlots =
        (st.ueHistoryDb ue).map UeCtxt.waitSlots := by
      intro ue
      change (Function.update st.ueHistoryDb _ _ ue).map _ = _
      by_cases hue : ue = u.ueIndex
      · rw [hue, Function.update_self, hctx]
        rfl
      · rw [Function.update_of_ne hue]
    refine ⟨fun ue => (hkept ue).trans (hset ue), fun p hp => ?_⟩
    rcases List.mem_cons.mp hp with rfl | hp
    · exact ⟨ctx, hctx, rfl⟩
    · obtain ⟨ctx', hctx', hpriority⟩ := hps p hp
      have hwait := hset p.ueIndex
      rw [hctx'] at hwait
      obtain ⟨ctx₀, hctx₀, heq⟩ := Option.map_eq_some_iff.mp hwait.symm
      exact ⟨ctx₀, hctx₀, by rw [hpriority, heq]⟩

lemma waitBonus_mono {m n : Nat} (h : m ≤ n) : waitBonus m ≤ waitBonus n := by
  unfold waitBonus
  apply min_le_min_right
  apply mul_le_mul_of_nonneg_right
  · exact_mod_cast h
  · norm_num

variable {e : AiEvent}

lemma ranksByWaiting_of_counted (h : r.WaitSlotsCounted e) : r.RanksByWaiting net e := by
  cases e with
  | computeUeDlPriorities us =>
    intro ps st hok p hp q hq hscore hpf hwaited
    have hps := ((compute_spec us r.sched).of_ok hok).2
    obtain ⟨cp, hcp, hprio⟩ := hps p hp
    obtain ⟨cq, hcq, hprioq⟩ := hps q hq
    have hbonus : waitBonus cq.waitSlots ≤ waitBonus cp.waitSlots := by
      apply waitBonus_mono
      rw [h _ _ hcp, h _ _ hcq]
      exact hwaited
    rw [hprio, hprioq]
    unfold finalPriority
    rw [hscore, hpf]
    linarith
  | _ => trivial

lemma grant_tracked {rec : RoundRecord} {ctx : UeCtxt} (h : rec.Tracked ctx.waitSlots) (bytes : Nat) :
    (rec.grant bytes).Tracked (ctx.saveDlAlloc bytes).waitSlots := by
  obtain ⟨hlt, hwait⟩ := h
  unfold RoundRecord.grant UeCtxt.saveDlAlloc
  by_cases hbytes : bytes > 0
  · rw [if_pos hbytes, if_pos hbytes]
    exact ⟨hlt, rfl⟩
  · rw [if_neg hbytes, if_neg hbytes, hwait]
    refine ⟨hlt, ?_⟩
    dsimp only
    split <;> omega

lemma saveDlGrant_tracked (h : r.WaitsTracked) (g : DlGrant) :
    Yields (r.sched.saveDlGrant g) (fun st => (⟨st, saveWaits r.waits g⟩ : AiRun).WaitsTracked) fun _ => True := by
  refine yields_bind (ctxt_spec g.ueIndex) fun ctx hctx => fun ue ctx' hctx' => ?_
  change Function.update r.sched.ueHistoryDb _ _ ue = some ctx' at hctx'
  change (Function.update r.waits _ _ ue).Tracked _
  by_cases hue : ue = g.ueIndex
  · rw [hue, Function.update_self] at hctx'
    rw [hue, Function.update_self, ← Option.some.inj hctx']
    exact grant_tracked (h _ _ hctx) g.tbSizeBytes
  · rw [Function.update_of_ne hue] at hctx' ⊢
    exact h ue ctx' hctx'

lemma saveDlNewtxGrants_tracked (h : r.WaitsTracked) (gs : List DlGrant) :
    Yields (r.sched.saveDlNewtxGrants gs) (fun st => (⟨st, gs.foldl saveWaits r.waits⟩ : AiRun).WaitsTracked)
      fun _ => True := by
  unfold SchedulerTimeAi.saveDlNewtxGrants
  induction gs generalizing r with
  | nil => exact h
  | cons g gs ih =>
    rw [List.foldlM_cons]
    exact yields_bind (saveDlGrant_tracked h g) fun st hst => ih hst

lemma startRound_tracked {rec : RoundRecord} {waitSlots : Nat} (h : rec.Tracked waitSlots) (candidate : Bool)
    (hempty : rec.emptyGrants % 2 ^ 32 = if rec.candidate && !rec.granted then 1 else 0)
    (hlt : rec.waitedAfter < 2 ^ 32) : waitSlots = rec.waitedAfter ∧ (rec.startRound candidate).Tracked waitSlots := by
  have hwait : waitSlots = rec.waitedAfter := by
    rw [h.2]
    unfold RoundRecord.waitedAfter at hlt ⊢
    cases hgranted : rec.granted <;> cases hcandidate : rec.candidate <;>
      simp_all only [Bool.not_true, Bool.not_false, Bool.and_true, Bool.and_false, Bool.false_eq_true, if_true,
        if_false] <;> omega
  refine ⟨hwait, hlt, ?_⟩
  rw [hwait]
  exact (Nat.mod_eq_of_lt hlt).symm

lemma waitSlotsCounted_of_tracked (h : r.WaitsTracked) (he : r.EachCandidateGranted e) : r.WaitSlotsCounted e := by
  cases e with
  | computeUeDlPriorities us =>
    intro ue ctx hctx
    obtain ⟨hempty, hlt⟩ := he ue ctx hctx
    exact (startRound_tracked (h ue ctx hctx) true hempty hlt).1
  | _ => trivial

lemma eachCandidateGranted_of_counted (h : r.WaitsTracked) (he : r.WaitSlotsCounted e) :
    r.EachCandidateGranted e := by
  cases e with
  | computeUeDlPriorities us =>
    intro ue ctx hctx
    have hwait := he ue ctx hctx
    rw [(h ue ctx hctx).2] at hwait
    unfold RoundRecord.waitedAfter at hwait ⊢
    have hlt := (h ue ctx hctx).1
    cases hgranted : (r.waits ue).granted <;> cases hcandidate : (r.waits ue).candidate <;>
      simp only [hgranted, hcandidate, Bool.not_true, Bool.not_false, Bool.and_true, Bool.and_false,
        Bool.false_eq_true, if_true, if_false] at hwait ⊢ <;> omega
  | _ => trivial

lemma step_tracked (h : r.WaitsTracked) (he : r.EachCandidateGranted e) :
    Yields (r.step net e) WaitsTracked fun _ => True := by
  cases e with
  | addUe ueIndex =>
    intro ue ctx hctx
    change Function.update r.sched.ueHistoryDb _ _ ue = some ctx at hctx
    change (Function.update r.waits _ _ ue).Tracked _
    by_cases hue : ue = ueIndex
    · rw [hue, Function.update_self] at hctx ⊢
      rw [← Option.some.inj hctx]
      exact ⟨by decide, rfl⟩
    · rw [Function.update_of_ne hue] at hctx ⊢
      exact h ue ctx hctx
  | remUe ueIndex =>
    intro ue ctx hctx
    change Function.update r.sched.ueHistoryDb _ _ ue = some ctx at hctx
    by_cases hue : ue = ueIndex
    · rw [hue, Function.update_self] at hctx
      cases hctx
    · rw [Function.update_of_ne hue] at hctx
      exact h ue ctx hctx
  | computeUeDlPriorities us =>
    refine yields_bind (yields_bind (compute_spec us r.sched) fun res hres => ?_) fun st hst => hst
    intro ue ctx hctx
    have hwait := hres.1 ue
    rw [hctx] at hwait
    obtain ⟨ctx₀, hctx₀, heq⟩ := Option.map_eq_some_iff.mp hwait.symm
    obtain ⟨hempty, hlt⟩ := he ue ctx₀ hctx₀
    rw [← heq]
    exact (startRound_tracked (h ue ctx₀ hctx₀) _ hempty hlt).2
  | saveDlNewtxGrants gs => exact yields_bind (saveDlNewtxGrants_tracked h gs) fun st hst => hst

end Waiting

/-- The counter counts, and the order follows it, as long as each candidate that gets no bytes is granted no bytes: a
UE without a grant is left out. -/
theorem wait_slots_counted_iff (net : PriorityNet) (es : List AiEvent) :
    RunsWithin (step net) (fun r e => r.WaitSlotsCounted e ∧ r.RanksByWaiting net e) init es ↔
      RunsWithin (step net) EachCandidateGranted init es := by
  apply Iff.symm
  apply runsWithin_iff WaitsTracked
  · intro r e r' hr he hok
    exact (step_tracked hr he).of_ok hok
  · intro r e hr
    constructor
    · intro he
      have hcounted := waitSlotsCounted_of_tracked hr he
      exact ⟨hcounted, ranksByWaiting_of_counted hcounted⟩
    · rintro ⟨hcounted, -⟩
      exact eachCandidateGranted_of_counted hr hcounted
  · intro ue ctx hctx
    cases hctx

/-- A UE that is a candidate and gets nothing has still not waited in the next round. -/
theorem wait_slots_not_counted :
    ∃ (net : PriorityNet) (u : NewtxCandidate),
      ¬RunsWithin (step net) (fun r e => r.WaitSlotsCounted e ∧ r.RanksByWaiting net e) init
        [.addUe 1, .computeUeDlPriorities [u], .computeUeDlPriorities []] := by
  refine ⟨⟨fun _ _ _ _ _ => 0, fun _ => 0⟩, ⟨1, 15, 100, 0⟩, fun h => ?_⟩
  have hwait := ((h.2 _ rfl).2 _ rfl).1.1 1 _ rfl
  exact absurd hwait (by decide)

end AiRun

end OwlsRan.Sched
