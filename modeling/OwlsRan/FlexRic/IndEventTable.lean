import OwlsRan.FlexRic.E2Agent
import OwlsRan.Lib.Outcome
import Mathlib.Data.List.Nodup

/-!
# The subscriptions that the agent keeps

The ledger says what `ind_event` is for: the subscriptions in force, each with its descriptor, and what is reported for
them.
-/

namespace OwlsRan.FlexRic

open OwlsRan.Adt OwlsRan.Lib

structure SubscriptionLedger where
  active : List (ℕ × IndEvent)
  effects : List AgentEffect
  deriving DecidableEq

namespace SubscriptionLedger

def start : SubscriptionLedger := ⟨[], [.setupRequest]⟩

def entry (plugin : List SmAgent) (sr : SubscriptionRequest) (tfd : ℕ) : SmAnsSubs → ℕ × IndEvent
  | .per _ => (tfd, ⟨sr.ricId, plugin.find? (·.id == sr.ricId.ranFuncId), (sr.action.map (·.id)).headD 0, .periodic⟩)
  | .aper => (0, ⟨sr.ricId, plugin.find? (·.id == sr.ricId.ranFuncId), (sr.action.map (·.id)).headD 0, .aperiodic⟩)

def freed (ev : IndEvent) : List AgentEffect :=
  (if ev.sm.any (·.freesActDef) then [.freeActDef ev.ricId] else []) ++
    if ev.type = .aperiodic then [.freeSubsAperiodic ev.ricId.ricReqId] else []

def report (hasValue : Bool) : Option (ℕ × IndEvent) → List AgentEffect
  | some (_, ev) => if hasValue then [.indication ev.ricId ev.actionId] else []
  | none => [.setupRequest]

def step (plugin : List SmAgent) (l : SubscriptionLedger) : E2Agent.Event → SubscriptionLedger
  | .subscriptionRequest sr subs tfd =>
    ⟨entry plugin sr tfd subs :: l.active,
      l.effects ++ [.subscriptionResponse sr.ricId ((sr.action.map (·.id)).headD 0)]⟩
  | .subscriptionDeleteRequest ricId =>
    ⟨l.active.filter (·.2.ricId ≠ ricId),
      l.effects ++ (l.active.filter (·.2.ricId = ricId)).flatMap (fun p => freed p.2) ++
        [.subscriptionDeleteResponse ricId]⟩
  | .timer fd hasValue => ⟨l.active, l.effects ++ report hasValue (l.active.find? (·.1 = fd))⟩

def run (plugin : List SmAgent) (es : List E2Agent.Event) : SubscriptionLedger := es.foldl (step plugin) start

end SubscriptionLedger

namespace E2Agent

/-- The action, the RAN function and the period are ones that the handlers do not assert away, no subscription in force
has the same id, and the system gives a timer a descriptor that is not in use. A timer that expires is open. -/
def Offered (ag : E2Agent) : Event → Prop
  | .subscriptionRequest sr subs tfd =>
    (match sr.action with
      | [a] => a.isReport = true
      | _ => False) ∧
    (ag.plugin.any fun sm => sm.id == sr.ricId.ranFuncId) ∧
    (∀ p ∈ ag.indEvent.left.toList, p.2.ricId ≠ sr.ricId) ∧
    match subs with
      | .per tMs => 0 ≤ tMs ∧ tMs < 10001 ∧ 0 < tfd ∧ tfd ∉ ag.io.fds
      | .aper => True
  | .subscriptionDeleteRequest _ => True
  | .timer fd _ => fd ∈ ag.io.fds ∧ fd ≠ ag.epFd ∧ fd ≠ ag.pipeR

/-- An aperiodic subscription that is deleted is the one that the left tree finds under its descriptor. -/
def MeetsDeleted (ag : E2Agent) : Event → Prop
  | .subscriptionDeleteRequest ricId =>
    ∀ p ∈ ag.indEvent.right.findIf (eqIndEvent ricId), p.2 = 0 →
      (ag.indEvent.left.find? 0).map (·.2.ricId) = some ricId
  | _ => True

/-- The table holds the subscriptions in force, in both directions, the timers that are open are theirs and those of
the start, and the same was reported. -/
structure Follows (ag₀ ag : E2Agent) (l : SubscriptionLedger) : Prop where
  holds : ag.indEvent.Holds l.active
  timers : ag.io.fds.Perm ((l.active.map Prod.fst).filter (· ≠ 0) ++ ag₀.io.fds)
  effects : ag.effects = l.effects

/-- What the steps keep beside `Follows`. -/
structure Consistent (ag₀ ag : E2Agent) (l : SubscriptionLedger) : Prop extends Follows ag₀ ag l where
  plugin : ag.plugin = ag₀.plugin
  epFd : ag.epFd = ag₀.epFd
  pipeR : ag.pipeR = ag₀.pipeR
  pending : ag.pending = ag₀.pending
  nodup : ag.io.fds.Nodup
  distinct : (l.active.map fun p => p.2.ricId).Nodup

section Steps

variable {ag₀ ag ag' : E2Agent} {l : SubscriptionLedger}

lemma Consistent.eq_of_ricId (h : Consistent ag₀ ag l) {p q : ℕ × IndEvent} (hp : p ∈ l.active) (hq : q ∈ l.active)
    (heq : p.2.ricId = q.2.ricId) : p = q := List.inj_on_of_nodup_map h.distinct hp hq heq

lemma Consistent.eq_of_fd (h : Consistent ag₀ ag l) {p q : ℕ × IndEvent} (hp : p ∈ l.active) (hq : q ∈ l.active)
    (heq : p.1 = q.1) (hne : p.1 ≠ 0) : p = q := by
  have hnodup : ((l.active.filter (·.1 ≠ 0)).map Prod.fst).Nodup := by
    have := (h.timers.nodup_iff.mp h.nodup).of_append_left
    rwa [List.filter_map] at this
  refine List.inj_on_of_nodup_map hnodup ?_ ?_ heq
  · simp [hp, hne]
  · simp [hq, ← heq, hne]

lemma freeIndEvent_eq (ag : E2Agent) (ev : IndEvent) :
    ag.freeIndEvent ev = { ag with effects := ag.effects ++ SubscriptionLedger.freed ev } := by
  unfold freeIndEvent SubscriptionLedger.freed emit
  by_cases hsm : ev.sm.any (·.freesActDef) = true <;> by_cases htype : ev.type = .aperiodic <;> simp [hsm, htype]

lemma Consistent.enter (h : Consistent ag₀ ag l) (fd : ℕ) (ev : IndEvent) (io : AsioAgent) (a : AgentEffect)
    (hnew : ∀ p ∈ l.active, p.2.ricId ≠ ev.ricId)
    (hio : io.fds.Perm ([fd].filter (· ≠ 0) ++ ag.io.fds)) (hfresh : io.fds.Nodup) :
    Consistent ag₀ ({ ag with io := io, indEvent := ag.indEvent.insert fd ev }.emit a)
      ⟨(fd, ev) :: l.active, l.effects ++ [a]⟩ where
  holds := h.holds.insert fd ev
  timers := by
    refine hio.trans ((h.timers.append_left _).trans ?_)
    rw [← List.append_assoc, ← List.filter_append, List.map_cons, List.singleton_append]
  effects := by rw [emit, h.effects]
  plugin := h.plugin
  epFd := h.epFd
  pipeR := h.pipeR
  pending := h.pending
  nodup := hfresh
  distinct := by
    rw [List.map_cons, List.nodup_cons, List.mem_map]
    exact ⟨fun ⟨p, hp, heq⟩ => hnew p hp heq, h.distinct⟩

lemma Consistent.subscriptionRequest (h : Consistent ag₀ ag l) {sr : SubscriptionRequest} {subs : SmAnsSubs} {tfd : ℕ}
    (hoffered : ag.Offered (.subscriptionRequest sr subs tfd)) :
    ∃ ag', ag.step (.subscriptionRequest sr subs tfd) = .ok ag' ∧
      Consistent ag₀ ag' (l.step ag₀.plugin (.subscriptionRequest sr subs tfd)) := by
  obtain ⟨haction, hplugin, hnew, hsubs⟩ := hoffered
  obtain ⟨a, ha, hreport⟩ : ∃ a, sr.action = [a] ∧ a.isReport = true := by
    split at haction
    case h_1 a ha => exact ⟨a, ha, haction⟩
    case h_2 => exact haction.elim
  obtain ⟨sm, hsm⟩ : ∃ sm, ag.plugin.find? (·.id == sr.ricId.ranFuncId) = some sm := by
    rw [← Option.isSome_iff_exists, List.find?_isSome]
    simpa using hplugin
  have hsm' : ag₀.plugin.find? (·.id == sr.ricId.ranFuncId) = some sm := by rw [← h.plugin, hsm]
  have hnew' : ∀ p ∈ l.active, p.2.ricId ≠ sr.ricId := fun p hp => hnew p (h.holds.mem_left.mpr hp)
  have haction' : supportedAction sr = .ok a := by simp [supportedAction, ha, hreport]
  cases subs with
  | per tMs =>
    obtain ⟨hnonneg, hmax, hpos, hfd⟩ := hsubs
    have hentry := h.enter tfd ⟨sr.ricId, some sm, a.id, .periodic⟩ ⟨tfd :: ag.io.fds⟩
      (.subscriptionResponse sr.ricId a.id) hnew' (by simp [Nat.pos_iff_ne_zero.mp hpos]) (List.nodup_cons.mpr ⟨hfd, h.nodup⟩)
    have hms : -1 < tMs := by omega
    have hledger : l.step ag₀.plugin (.subscriptionRequest sr (.per tMs) tfd) =
        ⟨(tfd, ⟨sr.ricId, some sm, a.id, .periodic⟩) :: l.active,
          l.effects ++ [.subscriptionResponse sr.ricId a.id]⟩ := by
      simp [SubscriptionLedger.step, SubscriptionLedger.entry, ha, hsm']
    refine ⟨_, ?_, hledger ▸ hentry⟩
    simp [step, handleSubscriptionRequest, haction', smPlugin, hsm, registerIndEvent, AsioAgent.createTimerMs,
      AsioAgent.addFd, hms, hmax, hfd, bind, Except.bind, pure, Except.pure]
  | aper =>
    have hentry := h.enter 0 ⟨sr.ricId, some sm, a.id, .aperiodic⟩ ag.io (.subscriptionResponse sr.ricId a.id) hnew'
      (by simp) h.nodup
    have hledger : l.step ag₀.plugin (.subscriptionRequest sr .aper tfd) =
        ⟨(0, ⟨sr.ricId, some sm, a.id, .aperiodic⟩) :: l.active,
          l.effects ++ [.subscriptionResponse sr.ricId a.id]⟩ := by
      simp [SubscriptionLedger.step, SubscriptionLedger.entry, ha, hsm']
    refine ⟨_, ?_, hledger ▸ hentry⟩
    simp [step, handleSubscriptionRequest, haction', smPlugin, hsm, registerIndEvent, bind, Except.bind, pure,
      Except.pure]

lemma Consistent.find_right (h : Consistent ag₀ ag l) {ricId : RicGenId} {fd : ℕ} {ev : IndEvent}
    (hmem : (fd, ev) ∈ l.active) (hid : ev.ricId = ricId) :
    ag.indEvent.right.find? ⟨ricId, none, 0, .periodic⟩ = some (ev, fd) := by
  apply AssocRbTree.find?_eq_some_of_unique (h.holds.mem_right.mpr hmem)
  · exact cmpRicGenId_eq_iff.mpr hid.symm
  · rintro ⟨ev', fd'⟩ hmem' heq
    have heq' := h.eq_of_ricId (h.holds.mem_right.mp hmem') hmem ((cmpRicGenId_eq_iff.mp heq).symm.trans hid.symm)
    simp_all

lemma Consistent.find_deleted (h : Consistent ag₀ ag l) {ricId : RicGenId} {fd : ℕ} {ev : IndEvent}
    (hmeets : ag.MeetsDeleted (.subscriptionDeleteRequest ricId))
    (hfound : ag.indEvent.right.findIf (eqIndEvent ricId) = some (ev, fd)) :
    ev.ricId = ricId ∧ (fd, ev) ∈ l.active ∧
      ag.indEvent.right.find? ⟨ricId, none, 0, .periodic⟩ = some (ev, fd) ∧
      ag.indEvent.left.find? fd = some (fd, ev) := by
  obtain ⟨hmemR, heqR⟩ := AssocRbTree.mem_of_findIf hfound
  have hid : ev.ricId = ricId := (eqRicGenId_iff.mp heqR).symm
  have hmem : (fd, ev) ∈ l.active := h.holds.mem_right.mp hmemR
  refine ⟨hid, hmem, h.find_right hmem hid, ?_⟩
  · by_cases hfd : fd = 0
    · subst hfd
      have hmet := hmeets (ev, 0) hfound rfl
      obtain ⟨⟨fd', ev'⟩, hfind, hid'⟩ := Option.map_eq_some_iff.mp hmet
      obtain ⟨hmem', -⟩ := AssocRbTree.mem_of_find? hfind
      rw [hfind, h.eq_of_ricId (h.holds.mem_left.mp hmem') hmem (hid'.trans hid.symm)]
    · apply AssocRbTree.find?_eq_some_of_unique (h.holds.mem_left.mpr hmem) (cmpFd_eq_iff.mpr rfl)
      rintro ⟨fd', ev'⟩ hmem' heq
      have hfd' : fd = fd' := cmpFd_eq_iff.mp heq
      exact (h.eq_of_fd hmem (h.holds.mem_left.mp hmem') hfd' hfd).symm

lemma Consistent.rmTimer (h : Consistent ag₀ ag l) {fd : ℕ} {ev : IndEvent} {rest : List (ℕ × IndEvent)}
    (hperm : l.active.Perm ((fd, ev) :: rest)) (ag' : E2Agent) (hio : ag'.io = ag.io) :
    ∃ io, ag'.rmTimer fd = .ok { ag' with io := io } ∧
      io.fds.Perm ((rest.map Prod.fst).filter (· ≠ 0) ++ ag₀.io.fds) ∧ io.fds.Nodup := by
  have htimers := h.timers.trans (((hperm.map Prod.fst).filter _).append_right _)
  unfold E2Agent.rmTimer notAperiodicIndEvent
  by_cases hfd : fd = 0
  · refine ⟨ag'.io, by simp [hfd], ?_, hio ▸ h.nodup⟩
    rw [hio]
    simpa [hfd] using htimers
  · rw [List.map_cons, List.filter_cons_of_pos (by simpa using hfd), List.cons_append] at htimers
    have hmem : fd ∈ ag.io.fds := htimers.mem_iff.mpr (List.mem_cons_self ..)
    refine ⟨⟨ag.io.fds.erase fd⟩, ?_, ?_, h.nodup.erase fd⟩
    · simp [hfd, AsioAgent.rmFd, hio, hmem, bind, Except.bind, pure, Except.pure]
    · exact (htimers.erase fd).trans (by simp)

lemma Consistent.subscriptionDeleteRequest (h : Consistent ag₀ ag l) {ricId : RicGenId}
    (hmeets : ag.MeetsDeleted (.subscriptionDeleteRequest ricId)) :
    ∃ ag', ag.step (.subscriptionDeleteRequest ricId) = .ok ag' ∧
      Consistent ag₀ ag' (l.step ag₀.plugin (.subscriptionDeleteRequest ricId)) := by
  cases hfound : ag.indEvent.right.findIf (eqIndEvent ricId) with
  | none =>
    -- The subscription is not in force, and only the answer is sent.
    have hnone : ∀ p ∈ l.active, p.2.ricId ≠ ricId := by
      rintro ⟨fd, ev⟩ hmem heq
      have hfalse := AssocRbTree.findIf_eq_none.mp hfound (ev, fd) (h.holds.mem_right.mpr hmem)
      rw [eqIndEvent, eqRicGenId_iff.mpr heq.symm] at hfalse
      cases hfalse
    have hkeep : l.active.filter (·.2.ricId ≠ ricId) = l.active :=
      List.filter_eq_self.mpr (by simpa using hnone)
    have hdrop : l.active.filter (·.2.ricId = ricId) = [] :=
      List.filter_eq_nil_iff.mpr (by simpa using hnone)
    refine ⟨ag.emit (.subscriptionDeleteResponse ricId), ?_, ?_⟩
    · simp [step, handleSubscriptionDeleteRequest, stopIndEvent, hfound, bind, Except.bind, pure, Except.pure]
    · simp only [SubscriptionLedger.step, hkeep, hdrop, List.flatMap_nil, List.append_nil]
      exact { h with effects := by rw [emit, h.effects] }
  | some p =>
    obtain ⟨ev, fd⟩ := p
    obtain ⟨hid, hmem, hright, hleft⟩ := h.find_deleted hmeets hfound
    obtain ⟨m, hextract, rest, hperm, hholds⟩ := h.holds.extractRight hright hleft
    obtain ⟨hrest, hdrop⟩ := perm_filter_ne h.distinct hperm
    obtain ⟨io, hrm, htimers, hnodup⟩ := h.rmTimer hperm { ag.freeIndEvent ev with indEvent := m }
      (by rw [freeIndEvent_eq])
    rw [show ev.ricId = ricId from hid] at hrest hdrop
    refine ⟨({ ({ ag.freeIndEvent ev with indEvent := m } : E2Agent) with io := io }).emit
      (.subscriptionDeleteResponse ricId), ?_, ?_⟩
    · simp [step, handleSubscriptionDeleteRequest, stopIndEvent, hfound, hextract, hrm, bind, Except.bind, pure,
        Except.pure]
    · rw [freeIndEvent_eq]
      exact {
        holds := hholds.perm hrest
        timers := htimers.trans (((hrest.map _).filter _).append_right _)
        effects := by simp [emit, SubscriptionLedger.step, hdrop, h.effects]
        plugin := h.plugin
        epFd := h.epFd
        pipeR := h.pipeR
        pending := h.pending
        nodup := hnodup
        distinct := h.distinct.sublist (List.filter_sublist.map _) }

/-- The assert on the second tree fails where descriptor `0` leads to another subscription. -/
lemma Consistent.step_aborts (h : Consistent ag₀ ag l) {e : Event} (hnot : ¬ag.MeetsDeleted e) :
    ag.step e = .error .biMap := by
  cases e with
  | subscriptionRequest sr subs tfd => exact absurd trivial hnot
  | timer fd hasValue => exact absurd trivial hnot
  | subscriptionDeleteRequest ricId =>
    simp only [MeetsDeleted, not_forall] at hnot
    obtain ⟨⟨ev, fd⟩, hmemO, hfd, hne⟩ := hnot
    obtain rfl : fd = 0 := hfd
    have hfound : ag.indEvent.right.findIf (eqIndEvent ricId) = some (ev, 0) := hmemO
    obtain ⟨hmemR, heqR⟩ := AssocRbTree.mem_of_findIf hfound
    have hid : ev.ricId = ricId := (eqRicGenId_iff.mp heqR).symm
    have hmem := h.holds.mem_right.mp hmemR
    have hright : ag.indEvent.right.find? ⟨ricId, none, 0, .periodic⟩ = some (ev, 0) :=
      h.find_right hmem hid
    have hnone : ag.indEvent.extractRight ⟨ricId, none, 0, .periodic⟩ = none := by
      cases hleft : ag.indEvent.left.find? 0 with
      | none => exact absurd (cmpFd_eq_iff.mpr rfl) (AssocRbTree.find?_eq_none.mp hleft _ (h.holds.mem_left.mpr hmem))
      | some q =>
        refine BiMap.extractRight_eq_none_of_ne hright hleft fun heq => hne ?_
        rw [hleft, Option.map_some, ← cmpRicGenId_eq_iff.mp heq]
    simp [E2Agent.step, handleSubscriptionDeleteRequest, stopIndEvent, hfound, hnone, bind, Except.bind]

lemma Consistent.indEvent? (h : Consistent ag₀ ag l) {fd : ℕ} (hfd : fd ≠ 0) :
    ag.indEvent? fd = (l.active.find? (·.1 = fd)).map (·.2) := by
  unfold E2Agent.indEvent?
  cases hleft : ag.indEvent.left.findIf (· == fd) with
  | none =>
    have hnone : l.active.find? (·.1 = fd) = none := by
      rw [List.find?_eq_none]
      rintro ⟨fd', ev⟩ hmem
      simpa using AssocRbTree.findIf_eq_none.mp hleft (fd', ev) (h.holds.mem_left.mpr hmem)
    rw [hnone]
  | some p =>
    obtain ⟨fd', ev⟩ := p
    obtain ⟨hmem, heq⟩ := AssocRbTree.mem_of_findIf hleft
    obtain rfl : fd' = fd := by simpa using heq
    cases hfind : l.active.find? (·.1 = fd') with
    | none =>
      have hne := List.find?_eq_none.mp hfind (fd', ev) (h.holds.mem_left.mp hmem)
      simp at hne
    | some q =>
      have hq : q.1 = fd' := by simpa using List.find?_some hfind
      rw [h.eq_of_fd (h.holds.mem_left.mp hmem) (List.mem_of_find?_eq_some hfind) hq.symm hfd]

end Steps

section Runs

variable {plugin : List SmAgent} {epFd pipeR setupFd : ℕ} {ag : E2Agent} {l : SubscriptionLedger}

lemma pendEvent_start (ag : E2Agent) (hpending : ag.pending = (start plugin epFd pipeR setupFd).pending) :
    ag.pendEvent setupFd = .ok .setupRequest := by
  have hsize : ag.pending.left.size = 1 ∧ ag.pending.right.size = 1 := by
    rw [hpending]
    exact ⟨rfl, rfl⟩
  have hfind : ag.pending.left.findIf (· == setupFd) = some (setupFd, .setupRequest) := by
    have hlist : ag.pending.left.toList = [(setupFd, .setupRequest)] := by
      rw [hpending]
      rfl
    rw [AssocRbTree.findIf, hlist]
    simp
  rw [pendEvent, if_pos hsize, hfind]

lemma Consistent.timer (h : Consistent (start plugin epFd pipeR setupFd) ag l) (hpos : 0 < setupFd) {fd : ℕ}
    {hasValue : Bool} (hoffered : ag.Offered (.timer fd hasValue)) :
    ∃ ag', ag.step (.timer fd hasValue) = .ok ag' ∧
      Consistent (start plugin epFd pipeR setupFd) ag' (l.step plugin (.timer fd hasValue)) := by
  obtain ⟨hopen, hep, hpipe⟩ := hoffered
  have hepFd : ag.epFd = epFd := h.epFd
  have hpipeR : ag.pipeR = pipeR := h.pipeR
  have hfds : fd ∈ (l.active.map Prod.fst).filter (· ≠ 0) ∨ fd ∈ [setupFd, epFd, pipeR] :=
    List.mem_append.mp (h.timers.mem_iff.mp hopen)
  have hne : fd ≠ 0 := by
    rcases hfds with hfd | hfd
    · simpa using (List.mem_filter.mp hfd).2
    · simp only [List.mem_cons, List.not_mem_nil, or_false] at hfd
      omega
  have hlookup := h.indEvent? hne
  cases hfind : l.active.find? (·.1 = fd) with
  | some p =>
    obtain ⟨fd', ev⟩ := p
    rw [hfind] at hlookup
    refine ⟨if hasValue then ag.emit (.indication ev.ricId ev.actionId) else ag, ?_, ?_⟩
    · simp [step, nextAsyncEvent, hep, hpipe, hlookup, handleAsyncEvent, bind, Except.bind]
    · cases hasValue with
      | true => exact { h with effects := by simp [emit, SubscriptionLedger.step, hfind, SubscriptionLedger.report,
          h.effects] }
      | false => exact { h with effects := by simp [SubscriptionLedger.step, hfind, SubscriptionLedger.report,
          h.effects] }
  | none =>
    -- No subscription has the timer, so it is that of the setup request.
    have hsetup : fd = setupFd := by
      rcases hfds with hfd | hfd
      · obtain ⟨p, hp, hpfd⟩ := List.mem_map.mp (List.mem_filter.mp hfd).1
        exact absurd hpfd (by simpa using List.find?_eq_none.mp hfind p hp)
      · simp only [List.mem_cons, List.not_mem_nil, or_false] at hfd
        omega
    subst hsetup
    rw [hfind] at hlookup
    refine ⟨ag.emit .setupRequest, ?_, ?_⟩
    · simp [step, nextAsyncEvent, hep, hpipe, hlookup, pendEvent_start ag h.pending, handleAsyncEvent, bind,
        Except.bind, Except.map]
    · exact { h with effects := by simp [emit, SubscriptionLedger.step, hfind, SubscriptionLedger.report, h.effects] }

lemma Consistent.step (h : Consistent (start plugin epFd pipeR setupFd) ag l) (hpos : 0 < setupFd) {e : Event}
    (he : ag.Offered e ∧ ag.MeetsDeleted e) :
    ∃ ag', ag.step e = .ok ag' ∧ Consistent (start plugin epFd pipeR setupFd) ag' (l.step plugin e) := by
  cases e with
  | subscriptionRequest sr subs tfd => exact h.subscriptionRequest he.1
  | subscriptionDeleteRequest ricId => exact h.subscriptionDeleteRequest he.2
  | timer fd hasValue => exact h.timer hpos he.1

lemma consistent_start (hfds : [setupFd, epFd, pipeR].Nodup) :
    Consistent (start plugin epFd pipeR setupFd) (start plugin epFd pipeR setupFd) .start :=
  ⟨⟨BiMap.holds_init, .rfl, rfl⟩, rfl, rfl, rfl, rfl, hfds, List.nodup_nil⟩

/-- A run goes through, and the agent then follows the ledger of the run, exactly when every aperiodic subscription that
it deletes is the one that the left tree finds under descriptor `0`. -/
theorem ind_event_follows_ledger (plugin : List SmAgent) (epFd pipeR setupFd : ℕ) (hfds : [setupFd, epFd, pipeR].Nodup)
    (hpos : 0 < setupFd) (es : List Event) (hoffered : RunsWithin step Offered (start plugin epFd pipeR setupFd) es) :
    (∃ ag, runEvents step (start plugin epFd pipeR setupFd) es = .ok ag ∧
      Follows (start plugin epFd pipeR setupFd) ag (SubscriptionLedger.run plugin es)) ↔
    RunsWithin step MeetsDeleted (start plugin epFd pipeR setupFd) es := by
  have hmeets : ∀ ag e ag', (∃ l, Consistent (start plugin epFd pipeR setupFd) ag l) → ag.Offered e →
      step ag e = .ok ag' → ag.MeetsDeleted e := by
    rintro ag e ag' ⟨l, h⟩ - hstep
    by_contra hnot
    rw [h.step_aborts hnot] at hstep
    cases hstep
  constructor
  · rintro ⟨ag, hes, -⟩
    refine runsWithin_of_run (fun ag => ∃ l, Consistent (start plugin epFd pipeR setupFd) ag l) ?_ hmeets
      ⟨_, consistent_start hfds⟩ hoffered hes
    rintro ag e ag' ⟨l, h⟩ he hstep
    obtain ⟨ag'', hstep', h'⟩ := h.step hpos ⟨he, hmeets ag e ag' ⟨l, h⟩ he hstep⟩
    obtain rfl := Except.ok.inj (hstep'.symm.trans hstep)
    exact ⟨_, h'⟩
  · intro hrun
    have hsim : ∀ ag l e, Consistent (start plugin epFd pipeR setupFd) ag l → ag.Offered e ∧ ag.MeetsDeleted e →
        ∃ ag', step ag e = .ok ag' ∧ Consistent (start plugin epFd pipeR setupFd) ag' (l.step plugin e) :=
      fun _ _ _ h he => h.step hpos he
    obtain ⟨ag, hes, h⟩ := runsWithin_simulates _ hsim (consistent_start hfds) (runsWithin_and hoffered hrun)
    exact ⟨ag, hes, h.toFollows⟩

end Runs

instance (ag : E2Agent) (e : Event) : Decidable (ag.Offered e) :=
  match e with
  | .subscriptionRequest ⟨_, [a]⟩ (.per _) _ => inferInstanceAs (Decidable (a.isReport = true ∧ _))
  | .subscriptionRequest ⟨_, [a]⟩ .aper _ => inferInstanceAs (Decidable (a.isReport = true ∧ _))
  | .subscriptionRequest ⟨_, []⟩ _ _ => isFalse fun h => h.1
  | .subscriptionRequest ⟨_, _ :: _ :: _⟩ _ _ => isFalse fun h => h.1
  | .subscriptionDeleteRequest _ => isTrue trivial
  | .timer fd _ => inferInstanceAs (Decidable (fd ∈ ag.io.fds ∧ fd ≠ ag.epFd ∧ fd ≠ ag.pipeR))

instance (ag : E2Agent) (e : Event) : Decidable (ag.MeetsDeleted e) :=
  match e with
  | .subscriptionDeleteRequest ricId => inferInstanceAs (Decidable (∀ p ∈ ag.indEvent.right.findIf (eqIndEvent ricId),
      p.2 = 0 → (ag.indEvent.left.find? 0).map (·.2.ricId) = some ricId))
  | .subscriptionRequest .. => isTrue trivial
  | .timer .. => isTrue trivial

section Example

def threeSubscriptions : List Event :=
  [.subscriptionRequest ⟨⟨1021, 0, 142⟩, [⟨0, true⟩]⟩ (.per 5) 8,
    .subscriptionRequest ⟨⟨1022, 0, 3⟩, [⟨1, true⟩]⟩ .aper 0,
    .subscriptionRequest ⟨⟨1023, 0, 3⟩, [⟨2, true⟩]⟩ .aper 0]

/-- The periodic subscription reports and ends, then the aperiodic ones end, the later one first. -/
theorem ind_event_follows_ledger_deleted :
    ∃ ag, runEvents step (start [⟨142, false⟩, ⟨3, false⟩] 5 6 7) (threeSubscriptions ++
        [.timer 8 true, .subscriptionDeleteRequest ⟨1021, 0, 142⟩, .subscriptionDeleteRequest ⟨1023, 0, 3⟩,
          .subscriptionDeleteRequest ⟨1022, 0, 3⟩]) = .ok ag ∧
      Follows (start [⟨142, false⟩, ⟨3, false⟩] 5 6 7) ag (SubscriptionLedger.run [⟨142, false⟩, ⟨3, false⟩]
        (threeSubscriptions ++ [.timer 8 true, .subscriptionDeleteRequest ⟨1021, 0, 142⟩,
          .subscriptionDeleteRequest ⟨1023, 0, 3⟩, .subscriptionDeleteRequest ⟨1022, 0, 3⟩])) :=
  (ind_event_follows_ledger _ 5 6 7 (by decide) (by decide) _ (by decide +kernel)).mpr (by decide +kernel)

/-- The earlier of the two aperiodic subscriptions cannot be deleted first here: the rotation at the second insertion
has put the later one on top, and descriptor `0` leads to it. -/
theorem ind_event_not_follows_ledger :
    RunsWithin step Offered (start [⟨142, false⟩, ⟨3, false⟩] 5 6 7)
        (threeSubscriptions ++ [.subscriptionDeleteRequest ⟨1022, 0, 3⟩]) ∧
      runEvents step (start [⟨142, false⟩, ⟨3, false⟩] 5 6 7)
        (threeSubscriptions ++ [.subscriptionDeleteRequest ⟨1022, 0, 3⟩]) = .error .biMap := by
  constructor
  · decide +kernel
  · rfl

end Example

end E2Agent

end OwlsRan.FlexRic
