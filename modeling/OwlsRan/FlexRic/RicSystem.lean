import Mathlib.Data.List.Nodup
import OwlsRan.Adt.BiMap
import OwlsRan.FlexRic.GlobalE2NodeId
import OwlsRan.Lib.EventRun

/-!
# Requests of xApps at the near-RT RIC

An xApp names its requests by ids of its own. The RIC gives each request an id of the RIC for the E2 node, keeps the two
in `map_ric_id`, and runs a timer for every request that a node has not answered.
-/

namespace OwlsRan.FlexRic

open OwlsRan.Adt

/-- `xapp_ric_id_t`: the id that an xApp has given to its request. -/
structure XappRicId where
  ricId : RicGenId
  xappId : ℕ
  deriving DecidableEq

def cmpXappRicGenId : XappRicId → XappRicId → Ordering :=
  compareLex (compareOn XappRicId.xappId) fun m0 m1 => cmpRicGenId m0.ricId m1.ricId

instance : Std.TransCmp fun m0 m1 : XappRicId => cmpRicGenId m0.ricId m1.ricId where
  eq_swap {a b} := @Std.OrientedCmp.eq_swap _ cmpRicGenId _ a.ricId b.ricId
  isLE_trans {a b c} := @Std.TransCmp.isLE_trans _ cmpRicGenId _ a.ricId b.ricId c.ricId

instance : Std.TransCmp cmpXappRicGenId := inferInstanceAs (Std.TransCmp (compareLex _ _))

lemma cmpXappRicGenId_eq_iff {m0 m1 : XappRicId} : cmpXappRicGenId m0 m1 = .eq ↔ m0 = m1 := by
  obtain ⟨id0, xapp0⟩ := m0
  obtain ⟨id1, xapp1⟩ := m1
  simp only [cmpXappRicGenId, compareLex_eq_eq, compareOn, Nat.compare_eq_eq, cmpRicGenId_eq_iff, XappRicId.mk.injEq]
  exact and_comm

def eqXappId (m0 m1 : ℕ) : Bool := m0 == m1

def eqXappRicGenId (m0 m1 : XappRicId) : Bool := eqXappId m0.xappId m0.xappId && eqRicGenId m0.ricId m1.ricId

lemma eqXappRicGenId_iff {m0 m1 : XappRicId} : eqXappRicGenId m0 m1 = true ↔ m0.ricId = m1.ricId := by
  simp [eqXappRicGenId, eqXappId, eqRicGenId_iff]

inductive RicReqType
  | subscription
  | control
  deriving DecidableEq

/-- `e2_node_ric_id_t`: the id that the RIC has given to a request, its node and its kind. -/
structure E2NodeRicId where
  ricId : RicGenId
  e2NodeId : GlobalE2NodeId
  ricReqType : RicReqType
  deriving DecidableEq

def cmpE2NodeRicReq : E2NodeRicId → E2NodeRicId → Ordering := compareOnDesc (·.ricId.ricReqId)

instance : Std.TransCmp cmpE2NodeRicReq := inferInstanceAs (Std.TransCmp (compareOnDesc _))

lemma cmpE2NodeRicReq_eq_iff {m0 m1 : E2NodeRicId} :
    cmpE2NodeRicReq m0 m1 = .eq ↔ m0.ricId.ricReqId = m1.ricId.ricReqId := compareOnDesc_eq_eq

/-- `pending_event_ric_t`: a request to an E2 node and its id. -/
structure PendingEventRic where
  ev : PendingEvent
  id : RicGenId
  deriving DecidableEq

def cmpPendingEventRic (p1 p2 : PendingEventRic) : Ordering :=
  compareLex (fun p1 p2 => cmpPendingEvent p1.ev p2.ev) (fun p1 p2 => cmpRicGenId p1.id p2.id) p1 p2

instance : Std.TransCmp fun p1 p2 : PendingEventRic => cmpPendingEvent p1.ev p2.ev where
  eq_swap {a b} := @Std.OrientedCmp.eq_swap _ cmpPendingEvent _ a.ev b.ev
  isLE_trans {a b c} := @Std.TransCmp.isLE_trans _ cmpPendingEvent _ a.ev b.ev c.ev

instance : Std.TransCmp fun p1 p2 : PendingEventRic => cmpRicGenId p1.id p2.id where
  eq_swap {a b} := @Std.OrientedCmp.eq_swap _ cmpRicGenId _ a.id b.id
  isLE_trans {a b c} := @Std.TransCmp.isLE_trans _ cmpRicGenId _ a.id b.id c.id

instance : Std.TransCmp cmpPendingEventRic := inferInstanceAs (Std.TransCmp (compareLex _ _))

lemma cmpPendingEventRic_eq_iff {p1 p2 : PendingEventRic} : cmpPendingEventRic p1 p2 = .eq ↔ p1 = p2 := by
  obtain ⟨ev1, id1⟩ := p1
  obtain ⟨ev2, id2⟩ := p2
  simp only [cmpPendingEventRic, compareLex_eq_eq, cmpPendingEvent_eq_iff, cmpRicGenId_eq_iff, PendingEventRic.mk.injEq]

def eqPendingEventRic (p1 p2 : PendingEventRic) : Bool := cmpPendingEventRic p1 p2 == .eq

/-- The asserts that requests and their answers can run into. -/
inductive RicAbort
  | badXappId
  | xappRegistered
  | xappNotFound
  | badE2Node
  | epollCtl
  | ricReqIdInMap
  | ricReqIdNotFound
  | xappRicIdNotFound
  | notSubscription
  | zeroRicReqId
  | answerMismatch
  | biMap
  deriving DecidableEq

inductive XappMessage
  | subscriptionResponse
  | indication
  | subscriptionDeleteResponse
  | controlAck
  deriving DecidableEq

inductive RicMessage
  | toNode (node : GlobalE2NodeId) (kind : PendingEvent) (ricId : RicGenId)
  | toXapp (info : SctpInfo) (kind : XappMessage) (ricId : RicGenId)
  | setupResponse (info : SctpInfo) (xappId : ℕ)
  deriving DecidableEq

/-- What `near_ric_t` and `e42_iapp_t` keep about requests. -/
structure NearRic where
  reqId : ℕ
  fds : List ℕ
  pending : BiMap cmpFd cmpPendingEventRic
  e2Nodes : List GlobalE2NodeId
  xappId : ℕ
  xapps : BiMap (compare : ℕ → ℕ → Ordering) cmpSctpInfo
  mapRicId : BiMap cmpE2NodeRicReq cmpXappRicGenId

namespace NearRic

/-- `init_near_ric` and the start of the iApp, with the E2 nodes that have set up. -/
def start (e2Nodes : List GlobalE2NodeId) : NearRic := ⟨1021, [], .init, e2Nodes, 7, .init, .init⟩

/-- A timer that waits for the answer to `ev`, with the descriptor that the system gives to it. -/
def addPending (ric : NearRic) (fd : ℕ) (ev : PendingEventRic) : Except RicAbort NearRic :=
  if fd ∈ ric.fds then .error .epollCtl
  else .ok { ric with fds := fd :: ric.fds, pending := ric.pending.insert fd ev }

/-- `e2ap_send_bytes_ric` asserts that the address of the node is known. -/
def sendToNode (ric : NearRic) (node : GlobalE2NodeId) (kind : PendingEvent) (ricId : RicGenId) :
    Except RicAbort RicMessage :=
  if node ∈ ric.e2Nodes then .ok (.toNode node kind ricId) else .error .badE2Node

/-- `fwd_ric_subscription_request` and `fwd_ric_control_request`: the low half of the id of the xApp is overwritten. -/
def fwdRicRequest (ric : NearRic) (kind : PendingEvent) (node : GlobalE2NodeId) (ricId : RicGenId) (fd : ℕ) :
    Except RicAbort (NearRic × ℕ × RicMessage) := do
  let ricReqId := ric.reqId % 65536
  let id := { ricId with ricReqId := ricId.ricReqId / 65536 * 65536 + ricReqId }
  let ric ← { ric with reqId := ric.reqId + 1 }.addPending fd ⟨kind, id⟩
  let msg ← ric.sendToNode node kind id
  return (ric, ricReqId, msg)

/-- `fwd_ric_subscription_request_delete`: a request that is pending already is not sent again. -/
def fwdRicSubscriptionRequestDelete (ric : NearRic) (node : GlobalE2NodeId) (ricId : RicGenId) (fd : ℕ) :
    Except RicAbort (NearRic × List RicMessage) :=
  if (ric.pending.right.findIf (eqPendingEventRic ⟨.subscriptionDeleteRequest, ricId⟩)).isSome then .ok (ric, [])
  else do
    let ric ← ric.addPending fd ⟨.subscriptionDeleteRequest, ricId⟩
    let msg ← ric.sendToNode node .subscriptionDeleteRequest ricId
    return (ric, [msg])

def addMapRicId (ric : NearRic) (node : E2NodeRicId) (x : XappRicId) : Except RicAbort NearRic :=
  if (ric.mapRicId.left.findIf fun n => node.ricId.ricReqId == n.ricId.ricReqId).isSome then .error .ricReqIdInMap
  else .ok { ric with mapRicId := ric.mapRicId.insert node x }

def rmMapRicId (ric : NearRic) (x : XappRicId) : Except RicAbort NearRic :=
  match ric.mapRicId.extractRight x with
  | none => .error .biMap
  | some (_, m) => .ok { ric with mapRicId := m }

def findXappMapRicId (ric : NearRic) (ricReqId : ℕ) : Except RicAbort (Option XappRicId) :=
  if 0 < ricReqId then .ok ((ric.mapRicId.left.findIf fun n => ricReqId == n.ricId.ricReqId).map (·.2))
  else .error .zeroRicReqId

def findRicReqMapRicId (ric : NearRic) (x : XappRicId) : Except RicAbort E2NodeRicId :=
  match ric.mapRicId.right.findIf (eqXappRicGenId x) with
  | none => .error .xappRicIdNotFound
  | some (_, n) => .ok n

def findMapXappsSad (ric : NearRic) (xappId : ℕ) : Except RicAbort SctpInfo :=
  match ric.xapps.left.findIf (xappId == ·) with
  | none => .error .xappNotFound
  | some (_, info) => .ok info

/-- `e2ap_handle_e42_setup_request_iapp` and `add_map_xapps_sad` of the new xApp. -/
def handleE42SetupRequest (ric : NearRic) (info : SctpInfo) : Except RicAbort (NearRic × List RicMessage) :=
  let xappId := ric.xappId % 65536
  if (ric.xapps.left.findIf (xappId == ·)).isSome then .error .xappRegistered
  else .ok ({ ric with xappId := (ric.xappId + 1) % 4294967296, xapps := ric.xapps.insert xappId info },
    [.setupResponse info xappId])

def validXappId (ric : NearRic) (xappId : ℕ) : Bool := xappId < 65536 && xappId ≤ ric.xappId

def validGlobalE2Node (ric : NearRic) (id : GlobalE2NodeId) : Bool := ric.e2Nodes.any fun n => eqGlobalE2NodeId n id

/-- The request to the node, and the entry of `map_ric_id` for it. -/
def handleE42Request (ric : NearRic) (kind : PendingEvent) (type : RicReqType) (xappId : ℕ) (node : GlobalE2NodeId)
    (ricId : RicGenId) (fd : ℕ) : Except RicAbort (NearRic × List RicMessage) :=
  if ric.validXappId xappId then
    if ric.validGlobalE2Node node then do
      let (ric, newRicId, msg) ← ric.fwdRicRequest kind node ricId fd
      let ric ← ric.addMapRicId ⟨{ ricId with ricReqId := newRicId }, node, type⟩ ⟨ricId, xappId⟩
      return (ric, [msg])
    else .error .badE2Node
  else .error .badXappId

/-- `e2ap_handle_e42_ric_subscription_request_iapp` -/
def handleE42SubscriptionRequest (ric : NearRic) (xappId : ℕ) (node : GlobalE2NodeId) (ricId : RicGenId) (fd : ℕ) :
    Except RicAbort (NearRic × List RicMessage) :=
  ric.handleE42Request .subscriptionRequest .subscription xappId node ricId fd

/-- `e2ap_handle_e42_ric_control_request_iapp` -/
def handleE42ControlRequest (ric : NearRic) (xappId : ℕ) (node : GlobalE2NodeId) (ricId : RicGenId) (fd : ℕ) :
    Except RicAbort (NearRic × List RicMessage) :=
  ric.handleE42Request .controlRequest .control xappId node ricId fd

/-- `e2ap_handle_e42_ric_subscription_delete_request_iapp` -/
def handleE42SubscriptionDeleteRequest (ric : NearRic) (xappId : ℕ) (ricId : RicGenId) (fd : ℕ) :
    Except RicAbort (NearRic × List RicMessage) := do
  let n ← ric.findRicReqMapRicId ⟨ricId, xappId⟩
  if n.ricReqType = .subscription then
    ric.fwdRicSubscriptionRequestDelete n.e2NodeId { ricId with ricReqId := n.ricId.ricReqId } fd
  else .error .notSubscription

def stopPendingEvent (ric : NearRic) (ev : PendingEventRic) : Except RicAbort NearRic :=
  match ric.pending.extractRight ev with
  | none => .error .biMap
  | some (fd, m) =>
    if 0 < fd ∧ fd ∈ ric.fds then .ok { ric with pending := m, fds := ric.fds.erase fd } else .error .epollCtl

/-- The message goes to the xApp of the entry, which has to have the RAN function and instance of the answer. -/
def sendToXapp (ric : NearRic) (x : XappRicId) (src : RicGenId) (kind : XappMessage) (dst : RicGenId) :
    Except RicAbort RicMessage :=
  if src.ranFuncId = x.ricId.ranFuncId ∧ src.ricInstId = x.ricId.ricInstId then do
    let info ← ric.findMapXappsSad x.xappId
    return .toXapp info kind dst
  else .error .answerMismatch

def subscriptionResponseIapp (ric : NearRic) (id : RicGenId) : Except RicAbort (NearRic × List RicMessage) := do
  match ← ric.findXappMapRicId (id.ricReqId % 65536) with
  | none => .error .ricReqIdNotFound
  | some x =>
    let msg ← ric.sendToXapp x id .subscriptionResponse { id with ricReqId := x.ricId.ricReqId }
    return (ric, [msg])

/-- `e2ap_handle_ric_indication_iapp`: an indication without an entry is dropped. -/
def indicationIapp (ric : NearRic) (id : RicGenId) : Except RicAbort (NearRic × List RicMessage) := do
  match ← ric.findXappMapRicId (id.ricReqId % 65536) with
  | none => .ok (ric, [])
  | some x =>
    let msg ← ric.sendToXapp x id .indication { id with ricReqId := x.ricId.ricReqId }
    return (ric, [msg])

def subscriptionDeleteResponseIapp (ric : NearRic) (id : RicGenId) : Except RicAbort (NearRic × List RicMessage) := do
  match ← ric.findXappMapRicId (id.ricReqId % 65536) with
  | none => .ok (ric, [])
  | some x =>
    let msg ← ric.sendToXapp x id .subscriptionDeleteResponse x.ricId
    let ric ← ric.rmMapRicId x
    return (ric, [msg])

def controlAckIapp (ric : NearRic) (id : RicGenId) : Except RicAbort (NearRic × List RicMessage) := do
  match ← ric.findXappMapRicId (id.ricReqId % 65536) with
  | none => .error .ricReqIdNotFound
  | some x =>
    let msg ← ric.sendToXapp x id .controlAck x.ricId
    let ric ← ric.rmMapRicId x
    return (ric, [msg])

/-- `e2ap_handle_subscription_response_ric`: one action is admitted, and it is action `0`. -/
def handleSubscriptionResponse (ric : NearRic) (id : RicGenId) (admitted : List ℕ) (lenNa : ℕ) :
    Except RicAbort (NearRic × List RicMessage) := do
  let ric ← ric.stopPendingEvent ⟨.subscriptionRequest, id⟩
  if lenNa = 0 ∧ admitted = [0] then ric.subscriptionResponseIapp id else .error .answerMismatch

def handleSubscriptionDeleteResponse (ric : NearRic) (id : RicGenId) : Except RicAbort (NearRic × List RicMessage) := do
  let ric ← ric.stopPendingEvent ⟨.subscriptionDeleteRequest, id⟩
  ric.subscriptionDeleteResponseIapp id

def handleControlAck (ric : NearRic) (id : RicGenId) : Except RicAbort (NearRic × List RicMessage) := do
  let ric ← ric.stopPendingEvent ⟨.controlRequest, id⟩
  ric.controlAckIapp id

/-- A message from an xApp or from an E2 node, with the descriptor that the system gives to a new timer. -/
inductive Event
  | e42SetupRequest (info : SctpInfo)
  | e42SubscriptionRequest (xappId : ℕ) (node : GlobalE2NodeId) (ricId : RicGenId) (fd : ℕ)
  | e42SubscriptionDeleteRequest (xappId : ℕ) (ricId : RicGenId) (fd : ℕ)
  | e42ControlRequest (xappId : ℕ) (node : GlobalE2NodeId) (ricId : RicGenId) (fd : ℕ)
  | subscriptionResponse (id : RicGenId) (admitted : List ℕ) (lenNa : ℕ)
  | indication (id : RicGenId)
  | subscriptionDeleteResponse (id : RicGenId)
  | controlAck (id : RicGenId)
  deriving DecidableEq

def handle (ric : NearRic) : Event → Except RicAbort (NearRic × List RicMessage)
  | .e42SetupRequest info => ric.handleE42SetupRequest info
  | .e42SubscriptionRequest xappId node ricId fd => ric.handleE42SubscriptionRequest xappId node ricId fd
  | .e42SubscriptionDeleteRequest xappId ricId fd => ric.handleE42SubscriptionDeleteRequest xappId ricId fd
  | .e42ControlRequest xappId node ricId fd => ric.handleE42ControlRequest xappId node ricId fd
  | .subscriptionResponse id admitted lenNa => ric.handleSubscriptionResponse id admitted lenNa
  | .indication id => ric.indicationIapp id
  | .subscriptionDeleteResponse id => ric.handleSubscriptionDeleteResponse id
  | .controlAck id => ric.handleControlAck id

end NearRic

/-!
## The RIC among its xApps and E2 nodes

Beside the RIC the state says which requests the E2 nodes have not answered, which subscriptions they keep, and which
ids were given to xApps and to requests. The invariant ties the maps of the RIC to these.
-/

open OwlsRan.Adt OwlsRan.Lib

structure RicSystem where
  ric : NearRic
  unanswered : List PendingEventRic
  subscribed : List RicGenId
  setups : List (ℕ × SctpInfo)
  assigned : List (ℕ × XappRicId × RicReqType)

namespace RicSystem

def start (e2Nodes : List GlobalE2NodeId) : RicSystem := ⟨.start e2Nodes, [], [], [], []⟩

def requests (msgs : List RicMessage) : List PendingEventRic := msgs.filterMap fun
  | .toNode _ kind id => some ⟨kind, id⟩
  | _ => none

def answered : NearRic.Event → Option PendingEventRic
  | .subscriptionResponse id _ _ => some ⟨.subscriptionRequest, id⟩
  | .subscriptionDeleteResponse id => some ⟨.subscriptionDeleteRequest, id⟩
  | .controlAck id => some ⟨.controlRequest, id⟩
  | _ => none

def subscribe (l : List RicGenId) (msgs : List RicMessage) : NearRic.Event → List RicGenId
  | .e42SubscriptionRequest .. => (requests msgs).map (·.id) ++ l
  | .subscriptionDeleteResponse id => l.filter (· ≠ id)
  | _ => l

def setUp (l : List (ℕ × SctpInfo)) (msgs : List RicMessage) : List (ℕ × SctpInfo) :=
  (msgs.filterMap fun
    | .setupResponse info xappId => some (xappId, info)
    | _ => none) ++ l

def assign (l : List (ℕ × XappRicId × RicReqType)) (msgs : List RicMessage) :
    NearRic.Event → List (ℕ × XappRicId × RicReqType)
  | .e42SubscriptionRequest xappId _ ricId _ =>
    (requests msgs).map (fun ev => (ev.id.ricReqId, ⟨ricId, xappId⟩, .subscription)) ++ l
  | .e42ControlRequest xappId _ ricId _ =>
    (requests msgs).map (fun ev => (ev.id.ricReqId, ⟨ricId, xappId⟩, .control)) ++ l
  | _ => l

def advance (s : RicSystem) (e : NearRic.Event) (ric : NearRic) (msgs : List RicMessage) : RicSystem where
  ric := ric
  unanswered := requests msgs ++ (answered e).elim s.unanswered s.unanswered.erase
  subscribed := subscribe s.subscribed msgs e
  setups := setUp s.setups msgs
  assigned := assign s.assigned msgs e

def step (s : RicSystem) (e : NearRic.Event) : Except RicAbort RicSystem := do
  let (ric, msgs) ← s.ric.handle e
  return s.advance e ric msgs

/-- An xApp has set up and names a known node and an id of 16 bits, the system gives a timer an unused descriptor, and an
E2 node answers each request at most once and reports for the subscriptions that it keeps. -/
def Offered (s : RicSystem) : NearRic.Event → Prop
  | .e42SetupRequest _ => True
  | .e42SubscriptionRequest xappId node ricId fd | .e42ControlRequest xappId node ricId fd =>
    (s.setups.lookup xappId).isSome ∧ node ∈ s.ric.e2Nodes ∧ ricId.ricReqId < 65536 ∧ 0 < fd ∧ fd ∉ s.ric.fds
  | .e42SubscriptionDeleteRequest xappId _ fd => (s.setups.lookup xappId).isSome ∧ 0 < fd ∧ fd ∉ s.ric.fds
  | .subscriptionResponse id admitted lenNa =>
    ⟨.subscriptionRequest, id⟩ ∈ s.unanswered ∧ admitted = [0] ∧ lenNa = 0
  | .indication id => id ∈ s.subscribed
  | .subscriptionDeleteResponse id => ⟨.subscriptionDeleteRequest, id⟩ ∈ s.unanswered
  | .controlAck id => ⟨.controlRequest, id⟩ ∈ s.unanswered

/-- The id that the RIC is about to give to a request is not `0` and not in the map, and the xApp has no request under
the id of its own. -/
def FreshIds (s : RicSystem) (xappId : ℕ) (ricId : RicGenId) : Prop :=
  s.ric.reqId % 65536 ≠ 0 ∧ (∀ p ∈ s.ric.mapRicId.left.toList, p.1.ricId.ricReqId ≠ s.ric.reqId % 65536) ∧
    ∀ p ∈ s.ric.mapRicId.right.toList, p.1 ≠ ⟨ricId, xappId⟩

def MeetsOwn (s : RicSystem) (xappId : ℕ) (ricId : RicGenId) : Prop :=
  ∃ p ∈ s.ric.mapRicId.right.findIf (eqXappRicGenId ⟨ricId, xappId⟩),
    p.1 = ⟨ricId, xappId⟩ ∧ p.2.ricReqType = .subscription

def FreshXapp (s : RicSystem) : Prop := ∀ p ∈ s.ric.xapps.left.toList, p.1 ≠ s.ric.xappId % 65536

def Isolated (s : RicSystem) : NearRic.Event → Prop
  | .e42SetupRequest _ => s.FreshXapp
  | .e42SubscriptionRequest xappId _ ricId _ | .e42ControlRequest xappId _ ricId _ => s.FreshIds xappId ricId
  | .e42SubscriptionDeleteRequest xappId ricId _ => s.MeetsOwn xappId ricId
  | .subscriptionDeleteResponse id => ⟨.subscriptionRequest, id⟩ ∉ s.unanswered
  | _ => True

end RicSystem

def PendingInv (ric : NearRic) (unanswered : List PendingEventRic) : Prop :=
  ∃ pl, ric.pending.Holds pl ∧ ric.fds.Perm (pl.map Prod.fst) ∧ ric.fds.Nodup ∧ (∀ fd ∈ ric.fds, 0 < fd) ∧
    (pl.map Prod.snd).Perm unanswered ∧ unanswered.Nodup

section Pending

variable {ric ric' : NearRic} {un : List PendingEventRic} {ev : PendingEventRic} {fd : ℕ}

lemma PendingInv.congr (h : PendingInv ric un) (hp : ric'.pending = ric.pending) (hf : ric'.fds = ric.fds) :
    PendingInv ric' un := by
  unfold PendingInv
  rw [hp, hf]
  exact h

lemma PendingInv.addPending (h : PendingInv ric un) (hpos : 0 < fd) (hfd : fd ∉ ric.fds) (hev : ev ∉ un) :
    ∃ ric', ric.addPending fd ev = .ok ric' ∧
      ric' = { ric with fds := fd :: ric.fds, pending := ric.pending.insert fd ev } ∧ PendingInv ric' (ev :: un) := by
  obtain ⟨pl, hholds, hfds, hnodup, hall, hevs, hun⟩ := h
  refine ⟨_, by simp [NearRic.addPending, hfd], rfl, (fd, ev) :: pl, hholds.insert fd ev, hfds.cons _,
    List.nodup_cons.mpr ⟨hfd, hnodup⟩, ?_, hevs.cons _, List.nodup_cons.mpr ⟨hev, hun⟩⟩
  intro fd' hfd'
  obtain rfl | hfd' := List.mem_cons.mp hfd'
  · exact hpos
  · exact hall fd' hfd'

lemma PendingInv.findIf_isSome (h : PendingInv ric un) :
    (ric.pending.right.findIf (eqPendingEventRic ev)).isSome = true ↔ ev ∈ un := by
  obtain ⟨pl, hholds, -, -, -, hevs, -⟩ := h
  rw [← hevs.mem_iff]
  constructor
  · intro hsome
    obtain ⟨⟨ev', fd⟩, hfind⟩ := Option.isSome_iff_exists.mp hsome
    obtain ⟨hmem, heq⟩ := AssocRbTree.mem_of_findIf hfind
    have heq' : ev = ev' := cmpPendingEventRic_eq_iff.mp (by simpa [eqPendingEventRic] using heq)
    subst heq'
    exact List.mem_map.mpr ⟨(fd, ev), hholds.mem_right.mp hmem, rfl⟩
  · intro hmem
    obtain ⟨⟨fd, ev'⟩, hp, rfl⟩ := List.mem_map.mp hmem
    by_contra hnot
    have hnone := AssocRbTree.findIf_eq_none.mp (Option.not_isSome_iff_eq_none.mp hnot) _ (hholds.mem_right.mpr hp)
    simp [eqPendingEventRic, cmpPendingEventRic_eq_iff.mpr] at hnone

lemma PendingInv.stopPendingEvent (h : PendingInv ric un) (hev : ev ∈ un) :
    ∃ m fds, ric.stopPendingEvent ev = .ok { ric with pending := m, fds := fds } ∧
      PendingInv { ric with pending := m, fds := fds } (un.erase ev) := by
  obtain ⟨pl, hholds, hfds, hnodup, hall, hevs, hun⟩ := h
  have hfdn : (pl.map Prod.fst).Nodup := hfds.nodup_iff.mp hnodup
  have hevn : (pl.map Prod.snd).Nodup := hevs.nodup_iff.mpr hun
  obtain ⟨⟨fd, ev'⟩, hp, rfl⟩ := List.mem_map.mp (hevs.mem_iff.mpr hev)
  have hright : ric.pending.right.find? ev' = some (ev', fd) := by
    apply AssocRbTree.find?_eq_some_of_unique (hholds.mem_right.mpr hp) (cmpPendingEventRic_eq_iff.mpr rfl)
    rintro ⟨ev₂, fd₂⟩ hmem heq
    have heq' := List.inj_on_of_nodup_map hevn (hholds.mem_right.mp hmem) hp (cmpPendingEventRic_eq_iff.mp heq).symm
    simp_all
  have hleft : ric.pending.left.find? fd = some (fd, ev') := by
    apply AssocRbTree.find?_eq_some_of_unique (hholds.mem_left.mpr hp) (cmpFd_eq_iff.mpr rfl)
    rintro ⟨fd₂, ev₂⟩ hmem heq
    exact List.inj_on_of_nodup_map hfdn (hholds.mem_left.mp hmem) hp (cmpFd_eq_iff.mp heq).symm
  obtain ⟨m, hextract, rest, hperm, hrest⟩ := hholds.extractRight hright hleft
  have hmem : fd ∈ ric.fds := hfds.mem_iff.mpr (List.mem_map.mpr ⟨_, hp, rfl⟩)
  refine ⟨m, ric.fds.erase fd, ?_, rest, hrest, ?_, hnodup.erase fd, ?_, ?_, hun.erase _⟩
  · simp [NearRic.stopPendingEvent, hextract, hall fd hmem, hmem]
  · exact ((hfds.trans (hperm.map Prod.fst)).erase fd).trans (by simp)
  · exact fun fd' hfd' => hall fd' (List.mem_of_mem_erase hfd')
  · have hevs' := ((hperm.map Prod.snd).symm.trans hevs).erase ev'
    simpa using hevs'

end Pending

/-- An entry of `map_ric_id`: the id that was given to the request, and an xApp that has set up. -/
structure MapEntry (e2Nodes : List GlobalE2NodeId) (setups : List (ℕ × SctpInfo))
    (assigned : List (ℕ × XappRicId × RicReqType)) (p : E2NodeRicId × XappRicId) : Prop where
  pos : 0 < p.1.ricId.ricReqId
  small : p.1.ricId.ricReqId < 65536
  ricId : p.1.ricId = { p.2.ricId with ricReqId := p.1.ricId.ricReqId }
  setUp : (setups.lookup p.2.xappId).isSome
  node : p.1.e2NodeId ∈ e2Nodes
  assigned : assigned.lookup p.1.ricId.ricReqId = some (p.2, p.1.ricReqType)

/-- The entries of `map_ric_id` differ in either id, and so do the xApps. -/
structure MapInv (ric : NearRic) (l : List (E2NodeRicId × XappRicId)) (setups : List (ℕ × SctpInfo))
    (assigned : List (ℕ × XappRicId × RicReqType)) : Prop where
  holds : ric.mapRicId.Holds l
  reqIds : (l.map fun p => p.1.ricId.ricReqId).Nodup
  owners : (l.map Prod.snd).Nodup
  xapps : ric.xapps.Holds setups
  setupIds : (setups.map Prod.fst).Nodup
  entry : ∀ p ∈ l, MapEntry ric.e2Nodes setups assigned p

section Map

variable {ric ric' : NearRic} {l : List (E2NodeRicId × XappRicId)} {setups : List (ℕ × SctpInfo)}
variable {assigned : List (ℕ × XappRicId × RicReqType)} {p : E2NodeRicId × XappRicId}

lemma MapInv.congr (h : MapInv ric l setups assigned) (hm : ric'.mapRicId = ric.mapRicId)
    (hx : ric'.xapps = ric.xapps) (hn : ric'.e2Nodes = ric.e2Nodes) : MapInv ric' l setups assigned where
  holds := hm ▸ h.holds
  reqIds := h.reqIds
  owners := h.owners
  xapps := hx ▸ h.xapps
  setupIds := h.setupIds
  entry := hn ▸ h.entry

lemma MapInv.findXappMapRicId (h : MapInv ric l setups assigned) (hp : p ∈ l) :
    ric.findXappMapRicId (p.1.ricId.ricReqId % 65536) = .ok (some p.2) := by
  have hentry := h.entry p hp
  rw [Nat.mod_eq_of_lt hentry.small, NearRic.findXappMapRicId, if_pos hentry.pos]
  cases hfind : ric.mapRicId.left.findIf fun n => p.1.ricId.ricReqId == n.ricId.ricReqId with
  | none =>
    have hne := AssocRbTree.findIf_eq_none.mp hfind (p.1, p.2) (h.holds.mem_left.mpr hp)
    simp at hne
  | some q =>
    obtain ⟨n, x⟩ := q
    obtain ⟨hmem, heq⟩ := AssocRbTree.mem_of_findIf hfind
    have hq := List.inj_on_of_nodup_map h.reqIds (h.holds.mem_left.mp hmem) hp (by simpa using Eq.symm (beq_iff_eq.mp heq))
    rw [← hq]
    rfl

lemma MapInv.findMapXappsSad (h : MapInv ric l setups assigned) {xappId : ℕ} {info : SctpInfo}
    (hinfo : setups.lookup xappId = some info) : ric.findMapXappsSad xappId = .ok info := by
  obtain ⟨l₁, l₂, hsetups, -⟩ := List.lookup_eq_some_iff.mp hinfo
  have hmem : (xappId, info) ∈ setups := by simp [hsetups]
  unfold NearRic.findMapXappsSad
  cases hfind : ric.xapps.left.findIf (xappId == ·) with
  | none =>
    have hne := AssocRbTree.findIf_eq_none.mp hfind _ (h.xapps.mem_left.mpr hmem)
    simp at hne
  | some q =>
    obtain ⟨xappId', info'⟩ := q
    obtain ⟨hmem', heq⟩ := AssocRbTree.mem_of_findIf hfind
    have hq := List.inj_on_of_nodup_map h.setupIds (h.xapps.mem_left.mp hmem') hmem (Eq.symm (beq_iff_eq.mp heq))
    rw [(Prod.mk.inj hq).2]

lemma MapInv.sendToXapp (h : MapInv ric l setups assigned) (hp : p ∈ l) (kind : XappMessage) (dst : RicGenId) :
    ∃ info, setups.lookup p.2.xappId = some info ∧
      ric.sendToXapp p.2 p.1.ricId kind dst = .ok (.toXapp info kind dst) := by
  have hentry := h.entry p hp
  obtain ⟨info, hinfo⟩ := Option.isSome_iff_exists.mp hentry.setUp
  have hfunc : p.1.ricId.ranFuncId = p.2.ricId.ranFuncId := by rw [hentry.ricId]
  have hinst : p.1.ricId.ricInstId = p.2.ricId.ricInstId := by rw [hentry.ricId]
  refine ⟨info, hinfo, ?_⟩
  simp [NearRic.sendToXapp, hfunc, hinst, h.findMapXappsSad hinfo, bind, Except.bind, pure, Except.pure]

lemma MapInv.rmMapRicId (h : MapInv ric l setups assigned) (hp : p ∈ l) :
    ∃ m rest, ric.rmMapRicId p.2 = .ok { ric with mapRicId := m } ∧ l.Perm (p :: rest) ∧
      MapInv { ric with mapRicId := m } rest setups assigned := by
  have hright : ric.mapRicId.right.find? p.2 = some (p.2, p.1) := by
    apply AssocRbTree.find?_eq_some_of_unique (h.holds.mem_right.mpr hp) (cmpXappRicGenId_eq_iff.mpr rfl)
    rintro ⟨x, n⟩ hmem heq
    have hq := List.inj_on_of_nodup_map h.owners (h.holds.mem_right.mp hmem) hp (cmpXappRicGenId_eq_iff.mp heq).symm
    rw [← hq]
  have hleft : ric.mapRicId.left.find? p.1 = some (p.1, p.2) := by
    apply AssocRbTree.find?_eq_some_of_unique (h.holds.mem_left.mpr hp) (cmpE2NodeRicReq_eq_iff.mpr rfl)
    rintro ⟨n, x⟩ hmem heq
    exact List.inj_on_of_nodup_map h.reqIds (h.holds.mem_left.mp hmem) hp (cmpE2NodeRicReq_eq_iff.mp heq).symm
  obtain ⟨m, hextract, rest, hperm, hrest⟩ := h.holds.extractRight hright hleft
  refine ⟨m, rest, by simp [NearRic.rmMapRicId, hextract], hperm, hrest, ?_, ?_, h.xapps, h.setupIds, fun q hq => ?_⟩
  · exact (List.nodup_cons.mp ((hperm.map fun p => p.1.ricId.ricReqId).nodup_iff.mp h.reqIds)).2
  · exact (List.nodup_cons.mp ((hperm.map Prod.snd).nodup_iff.mp h.owners)).2
  · exact h.entry q (hperm.mem_iff.mpr (List.mem_cons_of_mem _ hq))

lemma MapInv.addMapRicId (h : MapInv ric l setups assigned) {r xappId : ℕ} {ricId : RicGenId} {node : GlobalE2NodeId}
    (type : RicReqType) (hpos : 0 < r) (hsmall : r < 65536) (hnew : ∀ p ∈ l, p.1.ricId.ricReqId ≠ r)
    (hown : ∀ p ∈ l, p.2 ≠ ⟨ricId, xappId⟩) (hx : (setups.lookup xappId).isSome) (hnode : node ∈ ric.e2Nodes) :
    ∃ m, ric.addMapRicId ⟨{ ricId with ricReqId := r }, node, type⟩ ⟨ricId, xappId⟩ = .ok { ric with mapRicId := m } ∧
      MapInv { ric with mapRicId := m }
        ((⟨{ ricId with ricReqId := r }, node, type⟩, ⟨ricId, xappId⟩) :: l) setups
        ((r, ⟨ricId, xappId⟩, type) :: assigned) := by
  have hnone : ric.mapRicId.left.findIf (fun n => r == n.ricId.ricReqId) = none := by
    rw [AssocRbTree.findIf_eq_none]
    intro p hp
    have hne := hnew p (h.holds.mem_left.mp hp)
    simpa using Ne.symm hne
  refine ⟨ric.mapRicId.insert ⟨{ ricId with ricReqId := r }, node, type⟩ ⟨ricId, xappId⟩, ?_, h.holds.insert _ _,
    ?_, ?_, h.xapps, h.setupIds, fun p hp => ?_⟩
  · simp [NearRic.addMapRicId, hnone]
  · refine List.nodup_cons.mpr ⟨fun hmem => ?_, h.reqIds⟩
    obtain ⟨p, hp, heq⟩ := List.mem_map.mp hmem
    exact hnew p hp heq
  · refine List.nodup_cons.mpr ⟨fun hmem => ?_, h.owners⟩
    obtain ⟨p, hp, heq⟩ := List.mem_map.mp hmem
    exact hown p hp heq
  · obtain rfl | hp := List.mem_cons.mp hp
    · exact ⟨hpos, hsmall, rfl, hx, hnode, by simp⟩
    · have hentry := h.entry p hp
      refine ⟨hentry.pos, hentry.small, hentry.ricId, hentry.setUp, hentry.node, ?_⟩
      rw [List.lookup_cons, show (p.1.ricId.ricReqId == r) = false by simpa using hnew p hp]
      exact hentry.assigned

end Map

end OwlsRan.FlexRic
