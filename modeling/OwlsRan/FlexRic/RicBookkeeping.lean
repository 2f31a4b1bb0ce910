import OwlsRan.FlexRic.RicRouting
import OwlsRan.Lib.Outcome

/-!
# The ids of the RIC for requests

No two requests in `map_ric_id` or among the pending ones share an id of the RIC, as long as the counter does not come
back to an id in use, no xApp uses an id of its own twice, and no subscription is deleted before it is answered.
-/

namespace OwlsRan.FlexRic

open OwlsRan.Adt OwlsRan.Lib

namespace RicSystem

def MeetsAnswered (s : RicSystem) (xappId : ℕ) (ricId : RicGenId) : Prop :=
  ∀ p ∈ s.ric.mapRicId.right.findIf (eqXappRicGenId ⟨ricId, xappId⟩), ⟨.subscriptionRequest, p.2.ricId⟩ ∉ s.unanswered

def Numbered (s : RicSystem) : NearRic.Event → Prop
  | .e42SetupRequest _ => s.FreshXapp
  | .e42SubscriptionRequest xappId _ ricId _ | .e42ControlRequest xappId _ ricId _ => s.FreshIds xappId ricId
  | .e42SubscriptionDeleteRequest xappId ricId _ => s.MeetsAnswered xappId ricId
  | _ => True

structure Bookkept (s : RicSystem) : Prop where
  reqIds : (s.ric.mapRicId.left.toList.map fun p => p.1.ricId.ricReqId).Nodup
  pendingIds : (s.ric.pending.left.toList.map fun p => p.2.id.ricReqId).Nodup
  mapInverse : s.ric.mapRicId.Inverse
  pendingInverse : s.ric.pending.Inverse
  pos : ∀ p ∈ s.ric.mapRicId.left.toList, 0 < p.1.ricId.ricReqId
  xapps : ∀ p ∈ s.ric.mapRicId.left.toList, ∃ q ∈ s.ric.xapps.left.toList, q.1 = p.2.xappId ∧ q ∈ s.setups

def NoSubscription (a : RicAbort) : Prop := a = .xappRicIdNotFound ∨ a = .notSubscription

def UniqueIds (un : List PendingEventRic) : Prop := (un.map fun ev => ev.id.ricReqId).Nodup

section Steps

variable {s : RicSystem} {l : List (E2NodeRicId × XappRicId)}

lemma Inv.bookkept (h : s.Inv l) (hun : UniqueIds s.unanswered) : s.Bookkept where
  reqIds := (h.map.holds.1.map _).nodup_iff.mpr h.map.reqIds
  pendingIds := by
    obtain ⟨pl, hholds, -, -, -, hevs, -⟩ := h.pending
    have hperm : (s.ric.pending.left.toList.map fun p => p.2.id.ricReqId).Perm
        (s.unanswered.map fun ev => ev.id.ricReqId) := by
      rw [show (fun p : ℕ × PendingEventRic => p.2.id.ricReqId) = (fun ev => ev.id.ricReqId) ∘ Prod.snd from rfl,
        ← List.map_map]
      exact ((hholds.1.map _).trans hevs).map _
    exact hperm.nodup_iff.mpr hun
  mapInverse := h.map.holds.inverse
  pendingInverse := by
    obtain ⟨pl, hholds, -⟩ := h.pending
    exact hholds.inverse
  pos p hp := (h.map.entry _ (h.map.holds.mem_left.mp hp)).pos
  xapps p hp := by
    obtain ⟨info, hinfo⟩ := Option.isSome_iff_exists.mp (h.map.entry _ (h.map.holds.mem_left.mp hp)).setUp
    obtain ⟨l₁, l₂, hsetups, -⟩ := List.lookup_eq_some_iff.mp hinfo
    have hmem : (p.2.xappId, info) ∈ s.setups := by simp [hsetups]
    exact ⟨_, h.map.xapps.mem_left.mpr hmem, rfl, hmem⟩

lemma UniqueIds.erase {un : List PendingEventRic} (hun : UniqueIds un) (ev : PendingEventRic) :
    UniqueIds (un.erase ev) := hun.sublist (List.erase_sublist.map _)

lemma UniqueIds.eq {un : List PendingEventRic} (hun : UniqueIds un) {ev ev' : PendingEventRic} (hev : ev ∈ un)
    (hev' : ev' ∈ un) (hid : ev.id.ricReqId = ev'.id.ricReqId) : ev = ev' :=
  List.inj_on_of_nodup_map hun hev hev' hid

lemma Inv.uniqueIds_request (h : s.Inv l) (hun : UniqueIds s.unanswered) {xappId : ℕ} {ricId : RicGenId}
    (hfresh : s.FreshIds xappId ricId) (kind : PendingEvent) :
    UniqueIds (⟨kind, { ricId with ricReqId := s.ric.reqId % 65536 }⟩ :: s.unanswered) := by
  refine List.nodup_cons.mpr ⟨fun hmem => ?_, hun⟩
  obtain ⟨ev, hev, hid⟩ := List.mem_map.mp hmem
  obtain ⟨p, hp, hpid, -⟩ := h.served ev hev
  exact hfresh.2.1 _ (h.map.holds.mem_left.mpr hp) (by rw [hpid, hid])

lemma Inv.uniqueIds_delete (h : s.Inv l) (hun : UniqueIds s.unanswered) {p : E2NodeRicId × XappRicId} (hp : p ∈ l)
    (htype : p.1.ricReqType = .subscription) (hsub : ⟨.subscriptionRequest, p.1.ricId⟩ ∉ s.unanswered)
    (hdel : ⟨.subscriptionDeleteRequest, p.1.ricId⟩ ∉ s.unanswered) :
    UniqueIds (⟨.subscriptionDeleteRequest, p.1.ricId⟩ :: s.unanswered) := by
  refine List.nodup_cons.mpr ⟨fun hmem => ?_, hun⟩
  obtain ⟨⟨kind, id⟩, hev, hid⟩ := List.mem_map.mp hmem
  obtain ⟨q, hq, rfl, hqtype⟩ := h.served _ hev
  obtain rfl := h.entry_unique hq hp hid
  rw [htype] at hqtype
  cases kind
  case subscriptionRequest => exact hsub hev
  case subscriptionDeleteRequest => exact hdel hev
  all_goals simp [requestType] at hqtype

lemma e42SubscriptionDeleteRequest_error {xappId : ℕ} {ricId : RicGenId} (fd : ℕ)
    (hnone : ∀ p ∈ s.ric.mapRicId.right.findIf (eqXappRicGenId ⟨ricId, xappId⟩), p.2.ricReqType ≠ .subscription) :
    ∃ a, s.step (.e42SubscriptionDeleteRequest xappId ricId fd) = .error a ∧ NoSubscription a := by
  cases hfind : s.ric.mapRicId.right.findIf (eqXappRicGenId ⟨ricId, xappId⟩) with
  | none =>
    refine ⟨.xappRicIdNotFound, ?_, .inl rfl⟩
    simp [step, NearRic.handle, NearRic.handleE42SubscriptionDeleteRequest, NearRic.findRicReqMapRicId, hfind, bind,
      Except.bind]
  | some p =>
    have htype := hnone p hfind
    refine ⟨.notSubscription, ?_, .inr rfl⟩
    simp [step, NearRic.handle, NearRic.handleE42SubscriptionDeleteRequest, NearRic.findRicReqMapRicId, hfind, htype,
      bind, Except.bind]

lemma Inv.step_deleteRequest (h : s.Inv l) (hun : UniqueIds s.unanswered) {xappId fd : ℕ} {ricId : RicGenId}
    (hoff : s.Offered (.e42SubscriptionDeleteRequest xappId ricId fd)) (hnum : s.MeetsAnswered xappId ricId) :
    Yields (s.step (.e42SubscriptionDeleteRequest xappId ricId fd))
      (fun s' => ∃ l', s'.Inv l' ∧ UniqueIds s'.unanswered) NoSubscription := by
  by_cases hmeet : ∃ p ∈ s.ric.mapRicId.right.findIf (eqXappRicGenId ⟨ricId, xappId⟩), p.2.ricReqType = .subscription
  · obtain ⟨⟨x, n⟩, hfind, htype⟩ := hmeet
    obtain ⟨ric, msgs, hhandle, rfl, h'⟩ := h.fwdDelete hfind htype hoff.2.1 hoff.2.2
    rw [step_of_handle hhandle]
    refine ⟨l, h', ?_⟩
    have hp : (n, x) ∈ l := h.map.holds.mem_right.mp (AssocRbTree.mem_of_findIf hfind).1
    by_cases hdel : ⟨.subscriptionDeleteRequest, n.ricId⟩ ∈ s.unanswered
    · rw [if_pos hdel]
      exact hun
    · rw [if_neg hdel]
      exact h.uniqueIds_delete hun hp htype (hnum _ hfind) hdel
  · obtain ⟨a, herror, ha⟩ := e42SubscriptionDeleteRequest_error fd (by simpa using hmeet)
    rw [herror]
    exact ha

lemma Inv.step_numbered (h : s.Inv l) (hun : UniqueIds s.unanswered) {e : NearRic.Event} (hoff : s.Offered e)
    (hnum : s.Numbered e) :
    Yields (s.step e) (fun s' => ∃ l', s'.Inv l' ∧ UniqueIds s'.unanswered) NoSubscription := by
  cases e with
  | e42SetupRequest info =>
    obtain ⟨ric, msgs, hhandle, ⟨xappId, rfl⟩, h'⟩ := h.e42SetupRequest info hnum
    rw [step_of_handle hhandle]
    exact ⟨l, h', hun⟩
  | e42SubscriptionRequest xappId node ricId fd =>
    obtain ⟨ric, p, hhandle, h'⟩ := h.e42SubscriptionRequest hoff hnum
    rw [step_of_handle hhandle]
    exact ⟨p :: l, h', h.uniqueIds_request hun hnum _⟩
  | e42SubscriptionDeleteRequest xappId ricId fd => exact h.step_deleteRequest hun hoff hnum
  | e42ControlRequest xappId node ricId fd =>
    obtain ⟨ric, p, hhandle, h'⟩ := h.e42ControlRequest hoff hnum
    rw [step_of_handle hhandle]
    exact ⟨p :: l, h', h.uniqueIds_request hun hnum _⟩
  | subscriptionResponse id admitted lenNa =>
    obtain ⟨ric, msgs, hhandle, ⟨x, type, info, _, _, rfl⟩, h'⟩ := h.subscriptionResponse hoff
    rw [step_of_handle hhandle]
    exact ⟨l, h', hun.erase _⟩
  | indication id =>
    obtain ⟨ric, msgs, hhandle, ⟨x, type, info, _, _, rfl⟩, h'⟩ := h.indication hoff
    rw [step_of_handle hhandle]
    exact ⟨l, h', hun⟩
  | subscriptionDeleteResponse id =>
    have hfirst : ⟨.subscriptionRequest, id⟩ ∉ s.unanswered := by
      intro hsub
      have heq := hun.eq hsub hoff rfl
      simp at heq
    obtain ⟨ric, msgs, rest, hhandle, ⟨x, type, info, _, _, rfl⟩, h'⟩ := h.subscriptionDeleteResponse hoff hfirst
    rw [step_of_handle hhandle]
    exact ⟨rest, h', hun.erase _⟩
  | controlAck id =>
    obtain ⟨ric, msgs, rest, hhandle, ⟨x, type, info, _, _, rfl⟩, h'⟩ := h.controlAck hoff
    rw [step_of_handle hhandle]
    exact ⟨rest, h', hun.erase _⟩

/-- In every such run the maps stay in order, and the only assert that can fail is that of a deletion for which the
search meets no subscription. -/
theorem ids_bookkept (e2Nodes : List GlobalE2NodeId) (es : List NearRic.Event)
    (hrun : RunsWithin step (fun s e => s.Offered e ∧ s.Numbered e) (start e2Nodes) es) :
    HoldsThroughout step Bookkept (start e2Nodes) es ∧
      Yields (runEvents step (start e2Nodes) es) Bookkept NoSubscription := by
  have hstep : ∀ s e, s.Offered e ∧ s.Numbered e → (∃ l, s.Inv l ∧ UniqueIds s.unanswered) →
      Yields (step s e) (fun s' => ∃ l', s'.Inv l' ∧ UniqueIds s'.unanswered) NoSubscription := by
    rintro s e ⟨hoff, hnum⟩ ⟨l, h, hun⟩
    exact h.step_numbered hun hoff hnum
  have hbook : ∀ s : RicSystem, (∃ l, s.Inv l ∧ UniqueIds s.unanswered) → s.Bookkept := by
    rintro s ⟨l, h, hun⟩
    exact h.bookkept hun
  obtain ⟨hall, hend⟩ := runsWithin_yields _ hstep hrun ⟨[], inv_start e2Nodes, List.nodup_nil⟩
  exact ⟨holdsThroughout_mono hbook hall, hend.post hbook⟩

end Steps

instance (s : RicSystem) (xappId : ℕ) (ricId : RicGenId) : Decidable (s.MeetsAnswered xappId ricId) :=
  inferInstanceAs (Decidable (∀ p ∈ s.ric.mapRicId.right.findIf _, _))

instance (s : RicSystem) (e : NearRic.Event) : Decidable (s.Numbered e) :=
  match e with
  | .e42SetupRequest _ => inferInstanceAs (Decidable (∀ p ∈ s.ric.xapps.left.toList, _))
  | .e42SubscriptionRequest xappId _ ricId _ | .e42ControlRequest xappId _ ricId _ =>
    inferInstanceAs (Decidable (s.FreshIds xappId ricId))
  | .e42SubscriptionDeleteRequest xappId ricId _ => inferInstanceAs (Decidable (s.MeetsAnswered xappId ricId))
  | .subscriptionResponse .. | .indication _ | .subscriptionDeleteResponse _ | .controlAck _ => isTrue trivial

section Example

/-- Two xApps under one id of their own: the deletion that one asks for meets the subscription of the other. -/
theorem ids_bookkept_two_xapps :
    let es := twoSubscriptions 1 1 ++ [.subscriptionResponse (kpmRicId 1021) [0] 0,
      .e42SubscriptionDeleteRequest 8 (kpmRicId 1) 12, .subscriptionDeleteResponse (kpmRicId 1021),
      .e42ControlRequest 7 gNB (kpmRicId 1) 12, .controlAck (kpmRicId 1023)]
    HoldsThroughout step Bookkept (start [gNB]) es ∧
      Yields (runEvents step (start [gNB]) es) Bookkept NoSubscription :=
  ids_bookkept [gNB] _ (by decide +kernel)

def earlyDeletion : List NearRic.Event :=
  [.e42SetupRequest (xappAddress 50000), .e42SubscriptionRequest 7 gNB (kpmRicId 1) 10,
    .e42SubscriptionDeleteRequest 7 (kpmRicId 1) 11]

/-- Both requests are pending under one id, and when the deletion is answered first the answer to the subscription
stops the RIC. -/
theorem ids_not_bookkept :
    let answers := [.subscriptionDeleteResponse (kpmRicId 1021), .subscriptionResponse (kpmRicId 1021) [0] 0]
    RunsWithin step Offered (start [gNB]) (earlyDeletion ++ answers) ∧
      (∃ s, runEvents step (start [gNB]) earlyDeletion = .ok s ∧ ¬s.Bookkept) ∧
      ∃ a, runEvents step (start [gNB]) (earlyDeletion ++ answers) = .error a ∧ a = .ricReqIdNotFound := by
  refine ⟨by decide +kernel, ⟨_, rfl, fun h => ?_⟩, _, rfl, rfl⟩
  have hids := h.pendingIds
  revert hids
  decide +kernel

end Example

end RicSystem

end OwlsRan.FlexRic
