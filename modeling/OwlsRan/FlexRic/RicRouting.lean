import OwlsRan.FlexRic.RicSystem
import Mathlib.Data.List.Perm.Subperm

/-!
# Routing between xApps and E2 nodes

Every answer of an E2 node goes to the xApp whose request has its id, under the id of the xApp, and a deletion goes out
for a subscription of the xApp that asks for it, as long as ids are not given twice and the search for the id of an
xApp does not stop at the same id of another one.
-/

namespace OwlsRan.FlexRic

open OwlsRan.Adt OwlsRan.Lib

namespace RicSystem

/-- One message of this kind, to the address of the xApp whose request has the id, under the xApp's own id. -/
def Forwards (s : RicSystem) (msgs : List RicMessage) (kind : XappMessage) (id : RicGenId) : Prop :=
  ∃ x type info, s.assigned.lookup id.ricReqId = some (x, type) ∧ s.setups.lookup x.xappId = some info ∧
    msgs = [.toXapp info kind x.ricId]

def Routes (s : RicSystem) (msgs : List RicMessage) : NearRic.Event → Prop
  | .e42SetupRequest info => ∃ xappId, msgs = [.setupResponse info xappId]
  | .e42SubscriptionRequest _ node ricId _ =>
    ∃ r, msgs = [.toNode node .subscriptionRequest { ricId with ricReqId := r }]
  | .e42ControlRequest _ node ricId _ => ∃ r, msgs = [.toNode node .controlRequest { ricId with ricReqId := r }]
  | .e42SubscriptionDeleteRequest xappId ricId _ =>
    ∀ msg ∈ msgs, ∃ node r, msg = .toNode node .subscriptionDeleteRequest { ricId with ricReqId := r } ∧
      s.assigned.lookup r = some (⟨ricId, xappId⟩, .subscription)
  | .subscriptionResponse id _ _ => s.Forwards msgs .subscriptionResponse id
  | .indication id => s.Forwards msgs .indication id
  | .subscriptionDeleteResponse id => s.Forwards msgs .subscriptionDeleteResponse id
  | .controlAck id => s.Forwards msgs .controlAck id

lemma step_of_handle {s : RicSystem} {e : NearRic.Event} {ric : NearRic} {msgs : List RicMessage}
    (hhandle : s.ric.handle e = .ok (ric, msgs)) : s.step e = .ok (s.advance e ric msgs) := by
  simp [step, hhandle, bind, Except.bind, pure, Except.pure]

def Routed (s : RicSystem) (e : NearRic.Event) : Prop := ∃ ric msgs, s.ric.handle e = .ok (ric, msgs) ∧ s.Routes msgs e

def requestType : PendingEvent → Option RicReqType
  | .subscriptionRequest | .subscriptionDeleteRequest => some .subscription
  | .controlRequest => some .control
  | _ => none

structure Inv (s : RicSystem) (l : List (E2NodeRicId × XappRicId)) : Prop where
  map : MapInv s.ric l s.setups s.assigned
  pending : PendingInv s.ric s.unanswered
  counter : s.ric.xappId = 7 + s.setups.length
  ids : ∀ p ∈ s.setups, p.1 < 65536 ∧ p.1 ≤ s.ric.xappId
  served : ∀ ev ∈ s.unanswered, ∃ p ∈ l, p.1.ricId = ev.id ∧ requestType ev.ev = some p.1.ricReqType
  subs : ∀ id ∈ s.subscribed, ∃ p ∈ l, p.1.ricId = id ∧ p.1.ricReqType = .subscription

section Steps

variable {s : RicSystem} {l : List (E2NodeRicId × XappRicId)}

lemma inv_start (e2Nodes : List GlobalE2NodeId) : (start e2Nodes).Inv [] where
  map := ⟨BiMap.holds_init, List.nodup_nil, List.nodup_nil, BiMap.holds_init, List.nodup_nil, by simp⟩
  pending := ⟨[], BiMap.holds_init, .nil, List.nodup_nil, by simp [start, NearRic.start], .nil, List.nodup_nil⟩
  counter := rfl
  ids := by simp [start]
  served := by simp [start]
  subs := by simp [start]

lemma Inv.length_setups (h : s.Inv l) : s.setups.length ≤ 65536 := by
  have hsub : s.setups.map Prod.fst ⊆ List.range 65536 := by
    intro x hx
    obtain ⟨p, hp, rfl⟩ := List.mem_map.mp hx
    exact List.mem_range.mpr (h.ids p hp).1
  have hlen := (List.subperm_of_subset h.map.setupIds hsub).length_le
  rwa [List.length_map, List.length_range] at hlen

variable {xappId fd : ℕ}

lemma Inv.validXappId (h : s.Inv l) (hx : (s.setups.lookup xappId).isSome) : s.ric.validXappId xappId = true := by
  obtain ⟨info, hinfo⟩ := Option.isSome_iff_exists.mp hx
  obtain ⟨l₁, l₂, hsetups, -⟩ := List.lookup_eq_some_iff.mp hinfo
  have hid := h.ids (xappId, info) (by simp [hsetups])
  simp [NearRic.validXappId, hid.1, hid.2]

variable {p : E2NodeRicId × XappRicId}

lemma Inv.entry_unique (h : s.Inv l) {q : E2NodeRicId × XappRicId} (hp : p ∈ l) (hq : q ∈ l)
    (heq : p.1.ricId.ricReqId = q.1.ricId.ricReqId) : p = q := List.inj_on_of_nodup_map h.map.reqIds hp hq heq

lemma Inv.e42SetupRequest (h : s.Inv l) (info : SctpInfo) (hfresh : s.FreshXapp) :
    ∃ ric msgs, s.ric.handle (.e42SetupRequest info) = .ok (ric, msgs) ∧ s.Routes msgs (.e42SetupRequest info) ∧
      (s.advance (.e42SetupRequest info) ric msgs).Inv l := by
  have hnew : ∀ p ∈ s.setups, p.1 ≠ s.ric.xappId % 65536 := fun p hp => hfresh p (h.map.xapps.mem_left.mpr hp)
  have hnone : s.ric.xapps.left.findIf (s.ric.xappId % 65536 == ·) = none := by
    rw [AssocRbTree.findIf_eq_none]
    intro p hp
    simpa using Ne.symm (hfresh p hp)
  have hcounter := h.counter
  have hlen := h.length_setups
  have hwrap : (s.ric.xappId + 1) % 4294967296 = s.ric.xappId + 1 := by omega
  refine ⟨{ s.ric with
      xappId := s.ric.xappId + 1, xapps := s.ric.xapps.insert (s.ric.xappId % 65536) info },
    [.setupResponse info (s.ric.xappId % 65536)], ?_, ⟨_, rfl⟩, ?_⟩
  · simp [NearRic.handle, NearRic.handleE42SetupRequest, hnone, hwrap]
  · exact {
      map := {
        holds := h.map.holds
        reqIds := h.map.reqIds
        owners := h.map.owners
        xapps := h.map.xapps.insert _ info
        setupIds := List.nodup_cons.mpr ⟨fun hmem => by
          obtain ⟨p, hp, heq⟩ := List.mem_map.mp hmem
          exact hnew p hp heq, h.map.setupIds⟩
        entry := fun p hp => by
          have hentry := h.map.entry p hp
          refine ⟨hentry.pos, hentry.small, hentry.ricId, ?_, hentry.node, hentry.assigned⟩
          simp only [advance, setUp, List.filterMap_cons, List.filterMap_nil, List.singleton_append, List.lookup_cons]
          split
          · rfl
          · exact hentry.setUp }
      pending := h.pending.congr rfl rfl
      counter := by
        simp only [advance, setUp, List.filterMap_cons, List.filterMap_nil, List.singleton_append, List.length_cons]
        omega
      ids := fun p hp => by
        obtain rfl | hp := List.mem_cons.mp hp
        · simp only [advance]
          omega
        · have hid := h.ids p hp
          simp only [advance]
          omega
      served := h.served
      subs := h.subs }

variable {node : GlobalE2NodeId} {ricId id : RicGenId}

lemma Inv.handleE42Request (h : s.Inv l) (kind : PendingEvent) (type : RicReqType)
    (hx : (s.setups.lookup xappId).isSome) (hnode : node ∈ s.ric.e2Nodes)
    (hsmall : ricId.ricReqId < 65536) (hpos : 0 < fd) (hfd : fd ∉ s.ric.fds) (hfresh : s.FreshIds xappId ricId) :
    let id := { ricId with ricReqId := s.ric.reqId % 65536 }
    ∃ ric, s.ric.handleE42Request kind type xappId node ricId fd = .ok (ric, [.toNode node kind id]) ∧
      MapInv ric ((⟨id, node, type⟩, ⟨ricId, xappId⟩) :: l) s.setups
        ((s.ric.reqId % 65536, ⟨ricId, xappId⟩, type) :: s.assigned) ∧
      PendingInv ric (⟨kind, id⟩ :: s.unanswered) ∧ ric.xappId = s.ric.xappId := by
  intro id
  obtain ⟨hzero, hmap, hown⟩ := hfresh
  have hnew : ∀ p ∈ l, p.1.ricId.ricReqId ≠ s.ric.reqId % 65536 := fun p hp =>
    hmap p (h.map.holds.mem_left.mpr hp)
  have hown' : ∀ p ∈ l, p.2 ≠ ⟨ricId, xappId⟩ := fun p hp => hown (p.2, p.1) (h.map.holds.mem_right.mpr hp)
  -- An unanswered request has an entry, so it does not have the new id.
  have hev : ⟨kind, id⟩ ∉ s.unanswered := by
    intro hmem
    obtain ⟨p, hp, hpid, -⟩ := h.served _ hmem
    exact hnew p hp (by rw [hpid])
  have hlow : ricId.ricReqId / 65536 * 65536 + s.ric.reqId % 65536 = s.ric.reqId % 65536 := by omega
  have hpend₀ : PendingInv { s.ric with reqId := s.ric.reqId + 1 } s.unanswered := h.pending.congr rfl rfl
  obtain ⟨ric, hadd, hric, hpend⟩ := hpend₀.addPending hpos hfd hev
  have hmapInv : MapInv ric l s.setups s.assigned := h.map.congr (by rw [hric]) (by rw [hric]) (by rw [hric])
  obtain ⟨m, hmapAdd, hmap'⟩ := hmapInv.addMapRicId type (Nat.pos_of_ne_zero hzero) (Nat.mod_lt _ (by decide)) hnew
    hown' hx (by rw [hric]; exact hnode)
  have hvalid : s.ric.validGlobalE2Node node = true :=
    List.any_eq_true.mpr ⟨node, hnode, eqGlobalE2NodeId_iff.mpr rfl⟩
  refine ⟨{ ric with mapRicId := m }, ?_, hmap', hpend.congr rfl rfl, by rw [hric]⟩
  have hnode' : node ∈ ric.e2Nodes := by rw [hric]; exact hnode
  simp [NearRic.handleE42Request, h.validXappId hx, hvalid, NearRic.fwdRicRequest, hlow, hadd, NearRic.sendToNode,
    hnode', hmapAdd, id, bind, Except.bind, pure, Except.pure]

lemma Inv.grow (h : s.Inv l) {ric : NearRic} {kind : PendingEvent}
    {assigned : List (ℕ × XappRicId × RicReqType)} {subs : List RicGenId}
    (hmap : MapInv ric (p :: l) s.setups assigned) (hpend : PendingInv ric (⟨kind, p.1.ricId⟩ :: s.unanswered))
    (hcount : ric.xappId = s.ric.xappId) (hkind : requestType kind = some p.1.ricReqType)
    (hsubs : ∀ id ∈ subs, id ∈ s.subscribed ∨ id = p.1.ricId ∧ p.1.ricReqType = .subscription) :
    Inv ⟨ric, ⟨kind, p.1.ricId⟩ :: s.unanswered, subs, s.setups, assigned⟩ (p :: l) where
  map := hmap
  pending := hpend
  counter := hcount.trans h.counter
  ids q hq := by
    have hid := h.ids q hq
    exact ⟨hid.1, by simp only [hcount, hid.2]⟩
  served ev hev := by
    obtain rfl | hev := List.mem_cons.mp hev
    · exact ⟨p, List.mem_cons_self, rfl, hkind⟩
    · obtain ⟨q, hq, hqev⟩ := h.served ev hev
      exact ⟨q, List.mem_cons_of_mem p hq, hqev⟩
  subs id hid := by
    obtain hid | ⟨rfl, htype⟩ := hsubs id hid
    · obtain ⟨q, hq, hqid⟩ := h.subs id hid
      exact ⟨q, List.mem_cons_of_mem p hq, hqid⟩
    · exact ⟨p, List.mem_cons_self, rfl, htype⟩

lemma Inv.e42SubscriptionRequest (h : s.Inv l)
    (hoff : s.Offered (.e42SubscriptionRequest xappId node ricId fd)) (hfresh : s.FreshIds xappId ricId) :
    let msg : RicMessage := .toNode node .subscriptionRequest { ricId with ricReqId := s.ric.reqId % 65536 }
    ∃ ric p, s.ric.handle (.e42SubscriptionRequest xappId node ricId fd) = .ok (ric, [msg]) ∧
      (s.advance (.e42SubscriptionRequest xappId node ricId fd) ric [msg]).Inv (p :: l) := by
  obtain ⟨hx, hnode, hsmall, hpos, hfd⟩ := hoff
  obtain ⟨ric, hrun, hmap, hpend, hcount⟩ :=
    h.handleE42Request .subscriptionRequest .subscription hx hnode hsmall hpos hfd hfresh
  refine ⟨ric, _, hrun, h.grow hmap hpend hcount rfl fun id hid => ?_⟩
  obtain rfl | hid := List.mem_cons.mp hid
  · exact .inr ⟨rfl, rfl⟩
  · exact .inl hid

lemma Inv.e42ControlRequest (h : s.Inv l)
    (hoff : s.Offered (.e42ControlRequest xappId node ricId fd)) (hfresh : s.FreshIds xappId ricId) :
    let msg : RicMessage := .toNode node .controlRequest { ricId with ricReqId := s.ric.reqId % 65536 }
    ∃ ric p, s.ric.handle (.e42ControlRequest xappId node ricId fd) = .ok (ric, [msg]) ∧
      (s.advance (.e42ControlRequest xappId node ricId fd) ric [msg]).Inv (p :: l) := by
  obtain ⟨hx, hnode, hsmall, hpos, hfd⟩ := hoff
  obtain ⟨ric, hrun, hmap, hpend, hcount⟩ :=
    h.handleE42Request .controlRequest .control hx hnode hsmall hpos hfd hfresh
  exact ⟨ric, _, hrun, h.grow hmap hpend hcount rfl fun id hid => .inl hid⟩

/-- The deletion goes out under the id of the entry that the search meets, unless it is pending already. -/
lemma Inv.fwdDelete (h : s.Inv l) {x : XappRicId} {n : E2NodeRicId}
    (hfind : s.ric.mapRicId.right.findIf (eqXappRicGenId ⟨ricId, xappId⟩) = some (x, n))
    (htype : n.ricReqType = .subscription) (hpos : 0 < fd) (hfd : fd ∉ s.ric.fds) :
    ∃ ric msgs, s.ric.handle (.e42SubscriptionDeleteRequest xappId ricId fd) = .ok (ric, msgs) ∧
      msgs = (if ⟨.subscriptionDeleteRequest, n.ricId⟩ ∈ s.unanswered then []
        else [.toNode n.e2NodeId .subscriptionDeleteRequest n.ricId]) ∧
      (s.advance (.e42SubscriptionDeleteRequest xappId ricId fd) ric msgs).Inv l := by
  obtain ⟨hmem, heq⟩ := AssocRbTree.mem_of_findIf hfind
  have hp : (n, x) ∈ l := h.map.holds.mem_right.mp hmem
  have hentry := h.map.entry _ hp
  have hid : { ricId with ricReqId := n.ricId.ricReqId } = n.ricId := by
    rw [show ricId = x.ricId from eqXappRicGenId_iff.mp heq]
    exact hentry.ricId.symm
  have hfound : s.ric.findRicReqMapRicId ⟨ricId, xappId⟩ = .ok n := by rw [NearRic.findRicReqMapRicId, hfind]
  have hhandle : s.ric.handle (.e42SubscriptionDeleteRequest xappId ricId fd) =
      s.ric.fwdRicSubscriptionRequestDelete n.e2NodeId n.ricId fd := by
    simp [NearRic.handle, NearRic.handleE42SubscriptionDeleteRequest, hfound, htype, hid, bind, Except.bind]
  rw [hhandle, NearRic.fwdRicSubscriptionRequestDelete]
  by_cases hev : ⟨.subscriptionDeleteRequest, n.ricId⟩ ∈ s.unanswered
  · refine ⟨s.ric, [], if_pos (h.pending.findIf_isSome.mpr hev), by rw [if_pos hev], ?_⟩
    exact ⟨h.map, h.pending, h.counter, h.ids, h.served, h.subs⟩
  · obtain ⟨ric, hadd, rfl, hpend⟩ := h.pending.addPending hpos hfd hev
    have hnode : n.e2NodeId ∈ s.ric.e2Nodes := hentry.node
    refine ⟨{ s.ric with
        fds := fd :: s.ric.fds, pending := s.ric.pending.insert fd ⟨.subscriptionDeleteRequest, n.ricId⟩ },
      [.toNode n.e2NodeId .subscriptionDeleteRequest n.ricId], ?_, by rw [if_neg hev], ?_⟩
    · rw [if_neg (by rwa [h.pending.findIf_isSome])]
      simp [hadd, NearRic.sendToNode, hnode, bind, Except.bind, pure, Except.pure]
    · exact {
        map := h.map.congr rfl rfl rfl
        pending := hpend
        counter := h.counter
        ids := h.ids
        served := fun ev hev => by
          obtain rfl | hev := List.mem_cons.mp hev
          · exact ⟨_, hp, rfl, congrArg some htype.symm⟩
          · exact h.served ev hev
        subs := h.subs }

lemma Inv.e42SubscriptionDeleteRequest (h : s.Inv l)
    (hoff : s.Offered (.e42SubscriptionDeleteRequest xappId ricId fd)) (hown : s.MeetsOwn xappId ricId) :
    ∃ ric msgs, s.ric.handle (.e42SubscriptionDeleteRequest xappId ricId fd) = .ok (ric, msgs) ∧
      s.Routes msgs (.e42SubscriptionDeleteRequest xappId ricId fd) ∧
      (s.advance (.e42SubscriptionDeleteRequest xappId ricId fd) ric msgs).Inv l := by
  obtain ⟨-, hpos, hfd⟩ := hoff
  obtain ⟨⟨x, n⟩, hfind, rfl, htype⟩ := hown
  have hfind := Option.mem_def.mp hfind
  have htype : n.ricReqType = .subscription := htype
  obtain ⟨ric, msgs, hhandle, hmsgs, h'⟩ := h.fwdDelete hfind htype hpos hfd
  refine ⟨ric, msgs, hhandle, fun msg hmsg => ?_, h'⟩
  have hentry := h.map.entry _ (h.map.holds.mem_right.mp (AssocRbTree.mem_of_findIf hfind).1)
  have hassigned : s.assigned.lookup n.ricId.ricReqId = some (⟨ricId, xappId⟩, n.ricReqType) := hentry.assigned
  rw [htype] at hassigned
  rw [hmsgs] at hmsg
  split at hmsg
  · simp at hmsg
  · obtain rfl := List.mem_singleton.mp hmsg
    exact ⟨n.e2NodeId, n.ricId.ricReqId, by rw [← hentry.ricId], hassigned⟩

variable {ev : PendingEventRic}

lemma Inv.stopPendingEvent (h : s.Inv l) (hev : ev ∈ s.unanswered) :
    ∃ ric p, s.ric.stopPendingEvent ev = .ok ric ∧ MapInv ric l s.setups s.assigned ∧
      PendingInv ric (s.unanswered.erase ev) ∧ ric.xappId = s.ric.xappId ∧ p ∈ l ∧ p.1.ricId = ev.id ∧
      requestType ev.ev = some p.1.ricReqType := by
  obtain ⟨m, fds, hrun, hpend⟩ := h.pending.stopPendingEvent hev
  obtain ⟨p, hp, hpid, htype⟩ := h.served ev hev
  exact ⟨_, p, hrun, h.map.congr rfl rfl rfl, hpend, rfl, hp, hpid, htype⟩

lemma Inv.shrink (h : s.Inv l) {ric : NearRic} {rest : List (E2NodeRicId × XappRicId)}
    {subs : List RicGenId} (hperm : l.Perm (p :: rest))
    (hmap : MapInv ric rest s.setups s.assigned) (hpend : PendingInv ric (s.unanswered.erase ev))
    (hcount : ric.xappId = s.ric.xappId) (hlast : ∀ ev' ∈ s.unanswered.erase ev, ev'.id ≠ p.1.ricId)
    (hsubs : ∀ id ∈ subs, id ∈ s.subscribed ∧ id ≠ p.1.ricId) :
    Inv ⟨ric, s.unanswered.erase ev, subs, s.setups, s.assigned⟩ rest where
  map := hmap
  pending := hpend
  counter := hcount.trans h.counter
  ids q hq := by
    have hid := h.ids q hq
    exact ⟨hid.1, by simp only [hcount, hid.2]⟩
  served ev' hev' := by
    obtain ⟨q, hq, hqid, htype⟩ := h.served ev' (List.mem_of_mem_erase hev')
    obtain rfl | hq := List.mem_cons.mp (hperm.mem_iff.mp hq)
    · exact absurd hqid.symm (hlast ev' hev')
    · exact ⟨q, hq, hqid, htype⟩
  subs id hid := by
    obtain ⟨hsub, hne⟩ := hsubs id hid
    obtain ⟨q, hq, hqid, htype⟩ := h.subs id hsub
    obtain rfl | hq := List.mem_cons.mp (hperm.mem_iff.mp hq)
    · exact absurd hqid.symm hne
    · exact ⟨q, hq, hqid, htype⟩

lemma Inv.requestType_eq (h : s.Inv l) (hp : p ∈ l)
    (hev : ev ∈ s.unanswered) (hid : ev.id = p.1.ricId) : requestType ev.ev = some p.1.ricReqType := by
  obtain ⟨q, hq, hqid, htype⟩ := h.served ev hev
  rw [h.entry_unique hp hq (by rw [hqid, hid])]
  exact htype

lemma Inv.subscriptionResponse (h : s.Inv l) {admitted : List ℕ} {lenNa : ℕ}
    (hoff : s.Offered (.subscriptionResponse id admitted lenNa)) :
    ∃ ric msgs, s.ric.handle (.subscriptionResponse id admitted lenNa) = .ok (ric, msgs) ∧
      s.Routes msgs (.subscriptionResponse id admitted lenNa) ∧
      (s.advance (.subscriptionResponse id admitted lenNa) ric msgs).Inv l := by
  obtain ⟨hev, rfl, rfl⟩ := hoff
  obtain ⟨ric, p, hstop, hmap, hpend, hcount, hp, hpid, -⟩ := h.stopPendingEvent hev
  have hpid : p.1.ricId = id := hpid
  subst hpid
  have hentry := h.map.entry p hp
  obtain ⟨info, hinfo, hsend⟩ := hmap.sendToXapp hp .subscriptionResponse p.2.ricId
  have hdst : { p.1.ricId with ricReqId := p.2.ricId.ricReqId } = p.2.ricId := by rw [hentry.ricId]
  refine ⟨ric, [.toXapp info .subscriptionResponse p.2.ricId], ?_, ⟨_, _, info, hentry.assigned, hinfo, rfl⟩, ?_⟩
  · simp [NearRic.handle, NearRic.handleSubscriptionResponse, hstop, NearRic.subscriptionResponseIapp,
      hmap.findXappMapRicId hp, hdst, hsend, bind, Except.bind, pure, Except.pure]
  · exact ⟨hmap, hpend, hcount.trans h.counter, fun q hq => by
      have hid := h.ids q hq
      exact ⟨hid.1, by simp only [advance, hcount, hid.2]⟩,
      fun ev' hev' => h.served ev' (List.mem_of_mem_erase hev'), h.subs⟩

lemma Inv.indication (h : s.Inv l) (hoff : s.Offered (.indication id)) :
    ∃ ric msgs, s.ric.handle (.indication id) = .ok (ric, msgs) ∧ s.Routes msgs (.indication id) ∧
      (s.advance (.indication id) ric msgs).Inv l := by
  obtain ⟨p, hp, rfl, -⟩ := h.subs id hoff
  have hentry := h.map.entry p hp
  obtain ⟨info, hinfo, hsend⟩ := h.map.sendToXapp hp .indication p.2.ricId
  have hdst : { p.1.ricId with ricReqId := p.2.ricId.ricReqId } = p.2.ricId := by rw [hentry.ricId]
  refine ⟨s.ric, [.toXapp info .indication p.2.ricId], ?_, ⟨_, _, info, hentry.assigned, hinfo, rfl⟩, ?_⟩
  · simp [NearRic.handle, NearRic.indicationIapp, h.map.findXappMapRicId hp, hdst, hsend, bind, Except.bind, pure,
      Except.pure]
  · exact ⟨h.map, h.pending, h.counter, h.ids, h.served, h.subs⟩

lemma Inv.subscriptionDeleteResponse (h : s.Inv l) (hoff : s.Offered (.subscriptionDeleteResponse id))
    (hfirst : ⟨.subscriptionRequest, id⟩ ∉ s.unanswered) :
    ∃ ric msgs rest, s.ric.handle (.subscriptionDeleteResponse id) = .ok (ric, msgs) ∧
      s.Routes msgs (.subscriptionDeleteResponse id) ∧
      (s.advance (.subscriptionDeleteResponse id) ric msgs).Inv rest := by
  obtain ⟨ric, p, hstop, hmap, hpend, hcount, hp, hpid, htype⟩ := h.stopPendingEvent hoff
  have hpid : p.1.ricId = id := hpid
  subst hpid
  have hentry := h.map.entry p hp
  obtain ⟨info, hinfo, hsend⟩ := hmap.sendToXapp hp .subscriptionDeleteResponse p.2.ricId
  obtain ⟨m, rest, hrm, hperm, hmap'⟩ := hmap.rmMapRicId hp
  obtain ⟨-, -, -, -, -, -, hnodup⟩ := h.pending
  refine ⟨{ ric with mapRicId := m }, [.toXapp info .subscriptionDeleteResponse p.2.ricId], rest, ?_,
    ⟨_, _, info, hentry.assigned, hinfo, rfl⟩,
    h.shrink hperm hmap' (hpend.congr rfl rfl) hcount (fun ev' hev' hid => ?_) fun id hid => ?_⟩
  · simp [NearRic.handle, NearRic.handleSubscriptionDeleteResponse, hstop, NearRic.subscriptionDeleteResponseIapp,
      hmap.findXappMapRicId hp, hsend, hrm, bind, Except.bind, pure, Except.pure]
  · -- The other kinds of request would be for an entry that is no subscription.
    obtain ⟨hne, hmem⟩ := hnodup.mem_erase_iff.mp hev'
    have htype' : requestType ev'.ev = some .subscription := (h.requestType_eq hp hmem hid).trans htype.symm
    obtain ⟨kind, id'⟩ := ev'
    obtain rfl : id' = p.1.ricId := hid
    cases kind
    case subscriptionRequest => exact hfirst hmem
    case subscriptionDeleteRequest => exact hne rfl
    all_goals simp [requestType] at htype'
  · simpa using List.mem_filter.mp hid

lemma Inv.controlAck (h : s.Inv l) (hoff : s.Offered (.controlAck id)) :
    ∃ ric msgs rest, s.ric.handle (.controlAck id) = .ok (ric, msgs) ∧ s.Routes msgs (.controlAck id) ∧
      (s.advance (.controlAck id) ric msgs).Inv rest := by
  obtain ⟨ric, p, hstop, hmap, hpend, hcount, hp, hpid, htype⟩ := h.stopPendingEvent hoff
  have hpid : p.1.ricId = id := hpid
  subst hpid
  have hentry := h.map.entry p hp
  have hcontrol : p.1.ricReqType = .control := (Option.some.inj htype).symm
  obtain ⟨info, hinfo, hsend⟩ := hmap.sendToXapp hp .controlAck p.2.ricId
  obtain ⟨m, rest, hrm, hperm, hmap'⟩ := hmap.rmMapRicId hp
  obtain ⟨-, -, -, -, -, -, hnodup⟩ := h.pending
  refine ⟨{ ric with mapRicId := m }, [.toXapp info .controlAck p.2.ricId], rest, ?_,
    ⟨_, _, info, hentry.assigned, hinfo, rfl⟩,
    h.shrink hperm hmap' (hpend.congr rfl rfl) hcount (fun ev' hev' hid => ?_) fun id hid => ⟨hid, ?_⟩⟩
  · simp [NearRic.handle, NearRic.handleControlAck, hstop, NearRic.controlAckIapp,
      hmap.findXappMapRicId hp, hsend, hrm, bind, Except.bind, pure, Except.pure]
  · obtain ⟨hne, hmem⟩ := hnodup.mem_erase_iff.mp hev'
    have htype' : requestType ev'.ev = some .control := (h.requestType_eq hp hmem hid).trans htype.symm
    obtain ⟨kind, id'⟩ := ev'
    obtain rfl : id' = p.1.ricId := hid
    cases kind
    case controlRequest => exact hne rfl
    all_goals simp [requestType] at htype'
  · rintro rfl
    obtain ⟨q, hq, hqid, hqtype⟩ := h.subs _ hid
    obtain rfl := h.entry_unique hq hp (by rw [hqid])
    simp [hcontrol] at hqtype

lemma Inv.step (h : s.Inv l) {e : NearRic.Event} (hoff : s.Offered e) (hiso : s.Isolated e) :
    ∃ ric msgs l', s.ric.handle e = .ok (ric, msgs) ∧ s.Routes msgs e ∧ (s.advance e ric msgs).Inv l' := by
  cases e with
  | e42SetupRequest info =>
    obtain ⟨ric, msgs, h'⟩ := h.e42SetupRequest info hiso
    exact ⟨ric, msgs, l, h'⟩
  | e42SubscriptionRequest xappId node ricId fd =>
    obtain ⟨ric, p, hhandle, h'⟩ := h.e42SubscriptionRequest hoff hiso
    exact ⟨ric, _, p :: l, hhandle, ⟨_, rfl⟩, h'⟩
  | e42SubscriptionDeleteRequest xappId ricId fd =>
    obtain ⟨ric, msgs, h'⟩ := h.e42SubscriptionDeleteRequest hoff hiso
    exact ⟨ric, msgs, l, h'⟩
  | e42ControlRequest xappId node ricId fd =>
    obtain ⟨ric, p, hhandle, h'⟩ := h.e42ControlRequest hoff hiso
    exact ⟨ric, _, p :: l, hhandle, ⟨_, rfl⟩, h'⟩
  | subscriptionResponse id admitted lenNa =>
    obtain ⟨ric, msgs, h'⟩ := h.subscriptionResponse hoff
    exact ⟨ric, msgs, l, h'⟩
  | indication id =>
    obtain ⟨ric, msgs, h'⟩ := h.indication hoff
    exact ⟨ric, msgs, l, h'⟩
  | subscriptionDeleteResponse id => exact h.subscriptionDeleteResponse hoff hiso
  | controlAck id => exact h.controlAck hoff

/-- In every run in which no id is given twice and each search of an xApp's id meets its own subscription, answers and
indications go to the xApp whose request has the id, and deletions to subscriptions of the xApp that asks. -/
theorem requests_routed (e2Nodes : List GlobalE2NodeId) (es : List NearRic.Event)
    (hrun : RunsWithin step (fun s e => s.Offered e ∧ s.Isolated e) (start e2Nodes) es) :
    RunsWithin step Routed (start e2Nodes) es := by
  have hinv : ∀ s e s', (∃ l, s.Inv l) → s.Offered e ∧ s.Isolated e → step s e = .ok s' → ∃ l, s'.Inv l := by
    rintro s e s' ⟨l, h⟩ ⟨hoff, hiso⟩ hs'
    obtain ⟨ric, msgs, l', hhandle, -, h'⟩ := h.step hoff hiso
    rw [step_of_handle hhandle, Except.ok.injEq] at hs'
    exact ⟨l', hs' ▸ h'⟩
  have hstep : ∀ (s : RicSystem) e, (∃ l, s.Inv l) → s.Offered e ∧ s.Isolated e → s.Routed e := by
    rintro s e ⟨l, h⟩ ⟨hoff, hiso⟩
    obtain ⟨ric, msgs, -, hhandle, hroutes, -⟩ := h.step hoff hiso
    exact ⟨ric, msgs, hhandle, hroutes⟩
  exact (runsWithin_establishes _ (fun _ _ => trivial) hinv hstep ⟨[], inv_start e2Nodes⟩ hrun).2

end Steps

instance (s : RicSystem) (e : NearRic.Event) : Decidable (s.Offered e) :=
  match e with
  | .e42SetupRequest _ => isTrue trivial
  | .e42SubscriptionRequest xappId node .. | .e42ControlRequest xappId node .. =>
    inferInstanceAs (Decidable ((s.setups.lookup xappId).isSome ∧ node ∈ s.ric.e2Nodes ∧ _))
  | .e42SubscriptionDeleteRequest xappId .. => inferInstanceAs (Decidable ((s.setups.lookup xappId).isSome ∧ _))
  | .subscriptionResponse id admitted lenNa =>
    inferInstanceAs (Decidable (⟨.subscriptionRequest, id⟩ ∈ s.unanswered ∧ admitted = [0] ∧ lenNa = 0))
  | .indication id => inferInstanceAs (Decidable (id ∈ s.subscribed))
  | .subscriptionDeleteResponse id => inferInstanceAs (Decidable (⟨.subscriptionDeleteRequest, id⟩ ∈ s.unanswered))
  | .controlAck id => inferInstanceAs (Decidable (⟨.controlRequest, id⟩ ∈ s.unanswered))

instance (s : RicSystem) (xappId : ℕ) (ricId : RicGenId) : Decidable (s.FreshIds xappId ricId) :=
  inferInstanceAs (Decidable (_ ∧ (∀ p ∈ _, _) ∧ ∀ p ∈ _, _))

instance (s : RicSystem) (xappId : ℕ) (ricId : RicGenId) : Decidable (s.MeetsOwn xappId ricId) :=
  inferInstanceAs (Decidable (∃ p ∈ s.ric.mapRicId.right.findIf _, _))

instance (s : RicSystem) (e : NearRic.Event) : Decidable (s.Isolated e) :=
  match e with
  | .e42SetupRequest _ => inferInstanceAs (Decidable (∀ p ∈ s.ric.xapps.left.toList, _))
  | .e42SubscriptionRequest xappId _ ricId _ | .e42ControlRequest xappId _ ricId _ =>
    inferInstanceAs (Decidable (s.FreshIds xappId ricId))
  | .e42SubscriptionDeleteRequest xappId ricId _ => inferInstanceAs (Decidable (s.MeetsOwn xappId ricId))
  | .subscriptionResponse .. | .indication _ | .controlAck _ => isTrue trivial
  | .subscriptionDeleteResponse id => inferInstanceAs (Decidable (⟨.subscriptionRequest, id⟩ ∉ s.unanswered))

section Example

lemma gNB_split : (none : Option ℕ).isSome = E2apNgranNode.gNB.isCuOrDu := rfl

def gNB : GlobalE2NodeId := ⟨.gNB, ⟨1, 1, 2⟩, ⟨3584, 0⟩, none, gNB_split⟩

def xappAddress (port : ℕ) : SctpInfo := ⟨⟨port, 2130706433, 2⟩, 1⟩

/-- Request `ricReqId` of RAN function 142. -/
def kpmRicId (ricReqId : ℕ) : RicGenId := ⟨ricReqId, 0, 142⟩

def twoSubscriptions (ricReqId ricReqId' : ℕ) : List NearRic.Event :=
  [.e42SetupRequest (xappAddress 50000), .e42SetupRequest (xappAddress 50001),
    .e42SubscriptionRequest 7 gNB (kpmRicId ricReqId) 10, .e42SubscriptionRequest 8 gNB (kpmRicId ricReqId') 11]

theorem requests_routed_two_xapps :
    RunsWithin step Routed (start [gNB]) (twoSubscriptions 1 2 ++
      [.subscriptionResponse (kpmRicId 1022) [0] 0, .e42ControlRequest 7 gNB (kpmRicId 2) 12, .indication (kpmRicId 1021),
        .controlAck (kpmRicId 1023), .e42SubscriptionDeleteRequest 8 (kpmRicId 2) 13,
        .subscriptionDeleteResponse (kpmRicId 1022)]) :=
  requests_routed [gNB] _ (by decide +kernel)

/-- The deletion that xApp 8 asks for goes out for the subscription of xApp 7. -/
theorem requests_not_routed :
    RunsWithin step Offered (start [gNB]) (twoSubscriptions 1 1 ++ [.e42SubscriptionDeleteRequest 8 (kpmRicId 1) 12]) ∧
      ¬RunsWithin step Routed (start [gNB])
        (twoSubscriptions 1 1 ++ [.e42SubscriptionDeleteRequest 8 (kpmRicId 1) 12]) := by
  refine ⟨by decide +kernel, fun h => ?_⟩
  obtain ⟨ric, msgs, hhandle, hroutes⟩ := (h.2 _ rfl |>.2 _ rfl |>.2 _ rfl |>.2 _ rfl).1
  obtain ⟨-, rfl⟩ := Prod.mk.inj (Except.ok.inj hhandle)
  obtain ⟨node, r, hmsg, hassigned⟩ := hroutes _ List.mem_cons_self
  obtain ⟨-, -, hid⟩ := RicMessage.toNode.inj hmsg
  obtain rfl : 1021 = r := congrArg RicGenId.ricReqId hid
  revert hassigned
  decide +kernel

end Example

end RicSystem

end OwlsRan.FlexRic
