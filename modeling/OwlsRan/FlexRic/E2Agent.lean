import OwlsRan.Adt.BiMap
import OwlsRan.FlexRic.GlobalE2NodeId

/-!
# Subscriptions of the E2 agent

`ind_event` maps the timer of a subscription to the subscription and back. A periodic subscription has a timer of its
own; the aperiodic ones are all kept under descriptor `0`.
-/

namespace OwlsRan.FlexRic

open OwlsRan.Adt

inductive AgentAbort
  | unsupportedRequest
  | ranFunctionNotFound
  | badTimer
  | epollCtl
  | biMap
  | unknownEvent
  deriving DecidableEq

/-- `asio_agent_t`: the descriptors that epoll watches. -/
structure AsioAgent where
  fds : List ℕ
  deriving DecidableEq

namespace AsioAgent

def addFd (io : AsioAgent) (fd : ℕ) : Except AgentAbort AsioAgent :=
  if fd ∈ io.fds then .error .epollCtl else .ok ⟨fd :: io.fds⟩

def rmFd (io : AsioAgent) (fd : ℕ) : Except AgentAbort AsioAgent :=
  if fd ∈ io.fds then .ok ⟨io.fds.erase fd⟩ else .error .epollCtl

/-- `tfd` is the descriptor that the system gives to the timer. -/
def createTimerMs (io : AsioAgent) (initialMs intervalMs : ℤ) (tfd : ℕ) : Except AgentAbort AsioAgent :=
  if -1 < initialMs ∧ -1 < intervalMs then io.addFd tfd else .error .badTimer

end AsioAgent

/-- `sm_agent_t`: the RAN function and whether it has a `free_act_def`. -/
structure SmAgent where
  id : ℕ
  freesActDef : Bool
  deriving DecidableEq

inductive SubscriptionAns
  | periodic
  | aperiodic
  deriving DecidableEq

structure IndEvent where
  ricId : RicGenId
  sm : Option SmAgent
  actionId : ℕ
  type : SubscriptionAns
  deriving DecidableEq

def cmpIndEvent (m0 m1 : IndEvent) : Ordering := cmpRicGenId m0.ricId m1.ricId

def eqIndEvent (value : RicGenId) (key : IndEvent) : Bool := eqRicGenId value key.ricId

instance : Std.TransCmp cmpIndEvent where
  eq_swap {a b} := @Std.OrientedCmp.eq_swap _ cmpRicGenId _ a.ricId b.ricId
  isLE_trans {a b c} := @Std.TransCmp.isLE_trans _ cmpRicGenId _ a.ricId b.ricId c.ricId

structure RicAction where
  id : ℕ
  isReport : Bool
  deriving DecidableEq

/-- `ric_subscription_request_t`, less the definitions that only the service model reads. -/
structure SubscriptionRequest where
  ricId : RicGenId
  action : List RicAction
  deriving DecidableEq

/-- `sm_ag_if_ans_subs_t`: what the service model answers to a subscription. -/
inductive SmAnsSubs
  | per (tMs : ℤ)
  | aper
  deriving DecidableEq

/-- What the agent sends and the functions of the service models that it calls to free their data. -/
inductive AgentEffect
  | subscriptionResponse (ricId : RicGenId) (admitted : ℕ)
  | subscriptionDeleteResponse (ricId : RicGenId)
  | indication (ricId : RicGenId) (actionId : ℕ)
  | setupRequest
  | freeActDef (ricId : RicGenId)
  | freeSubsAperiodic (ricReqId : ℕ)
  deriving DecidableEq

structure E2Agent where
  plugin : List SmAgent
  epFd : ℕ
  pipeR : ℕ
  io : AsioAgent
  pending : BiMap cmpFd cmpPendingEvent
  indEvent : BiMap cmpFd cmpIndEvent
  effects : List AgentEffect

namespace E2Agent

/-- `e2_init_agent` and the setup request of `e2_start_agent`, with the descriptors of the socket, the pipe and the
timer of the request. -/
def start (plugin : List SmAgent) (epFd pipeR setupFd : ℕ) : E2Agent where
  plugin := plugin
  epFd := epFd
  pipeR := pipeR
  io := ⟨[setupFd, epFd, pipeR]⟩
  pending := BiMap.init.insert setupFd .setupRequest
  indEvent := .init
  effects := [.setupRequest]

def emit (ag : E2Agent) (e : AgentEffect) : E2Agent := { ag with effects := ag.effects ++ [e] }

def smPlugin (ag : E2Agent) (key : ℕ) : Except AgentAbort SmAgent :=
  match ag.plugin.find? (·.id == key) with
  | some sm => .ok sm
  | none => .error .ranFunctionNotFound

/-- `supported_ric_subscription_request`, with the only action. -/
def supportedAction (sr : SubscriptionRequest) : Except AgentAbort RicAction :=
  match sr.action with
  | [a] => if a.isReport then .ok a else .error .unsupportedRequest
  | _ => .error .unsupportedRequest

/-- A subscription is entered with its timer, which `tfd` names, or with descriptor `0`. -/
def registerIndEvent (ag : E2Agent) (ricId : RicGenId) (sm : SmAgent) (actionId tfd : ℕ) :
    SmAnsSubs → Except AgentAbort E2Agent
  | .per tMs =>
    if tMs < 10001 then do
      let io ← ag.io.createTimerMs tMs tMs tfd
      return { ag with io := io, indEvent := ag.indEvent.insert tfd ⟨ricId, some sm, actionId, .periodic⟩ }
    else .error .badTimer
  | .aper => .ok { ag with indEvent := ag.indEvent.insert 0 ⟨ricId, some sm, actionId, .aperiodic⟩ }

def handleSubscriptionRequest (ag : E2Agent) (sr : SubscriptionRequest) (subs : SmAnsSubs) (tfd : ℕ) :
    Except AgentAbort E2Agent := do
  let action ← supportedAction sr
  let sm ← ag.smPlugin sr.ricId.ranFuncId
  let ag ← ag.registerIndEvent sr.ricId sm action.id tfd subs
  return ag.emit (.subscriptionResponse sr.ricId action.id)

def freeIndEvent (ag : E2Agent) (indEv : IndEvent) : E2Agent :=
  let ag := if indEv.sm.any (·.freesActDef) then ag.emit (.freeActDef indEv.ricId) else ag
  if indEv.type = .aperiodic then ag.emit (.freeSubsAperiodic indEv.ricId.ricReqId) else ag

def notAperiodicIndEvent (fd : ℕ) : Bool := fd ≠ 0

def rmTimer (ag : E2Agent) (fd : ℕ) : Except AgentAbort E2Agent :=
  if notAperiodicIndEvent fd then do
    let io ← ag.io.rmFd fd
    return { ag with io := io }
  else .ok ag

def stopIndEvent (ag : E2Agent) (id : RicGenId) : Except AgentAbort E2Agent :=
  match ag.indEvent.right.findIf (eqIndEvent id) with
  | none => .ok ag
  | some (indEv, _) =>
    match ag.indEvent.extractRight ⟨id, none, 0, .periodic⟩ with
    | none => .error .biMap
    | some (fd, indEvent) => rmTimer { ag.freeIndEvent indEv with indEvent := indEvent } fd

/-- `e2ap_handle_subscription_delete_request_agent`: the answer is the same when nothing was found. -/
def handleSubscriptionDeleteRequest (ag : E2Agent) (ricId : RicGenId) : Except AgentAbort E2Agent := do
  let ag ← ag.stopIndEvent ricId
  return ag.emit (.subscriptionDeleteResponse ricId)

inductive AsyncEvent
  | sctpMsg
  | aperiodicIndication
  | indication (iEv : IndEvent)
  | pending (pEv : PendingEvent)
  deriving DecidableEq

def indEvent? (ag : E2Agent) (fd : ℕ) : Option IndEvent := (ag.indEvent.left.findIf (· == fd)).map (·.2)

def pendEvent (ag : E2Agent) (fd : ℕ) : Except AgentAbort PendingEvent :=
  if ag.pending.left.size = 1 ∧ ag.pending.right.size = 1 then
    match ag.pending.left.findIf (· == fd) with
    | some (_, ev) => .ok ev
    | none => .error .unknownEvent
  else .error .unknownEvent

/-- `next_async_event_agent`, when epoll reports `fd`. -/
def nextAsyncEvent (ag : E2Agent) (fd : ℕ) : Except AgentAbort AsyncEvent :=
  if fd = ag.epFd then .ok .sctpMsg
  else if fd = ag.pipeR then .ok .aperiodicIndication
  else match ag.indEvent? fd with
    | some iEv => .ok (.indication iEv)
    | none => (ag.pendEvent fd).map .pending

/-- The branches of `e2_event_loop_agent` for timers; `hasValue` is the answer of the service model. What arrives on the
socket is an event of its own here. -/
def handleAsyncEvent (ag : E2Agent) (hasValue : Bool) : AsyncEvent → Except AgentAbort E2Agent
  | .sctpMsg => .ok ag
  | .aperiodicIndication => .ok ag
  | .indication iEv => .ok (if hasValue then ag.emit (.indication iEv.ricId iEv.actionId) else ag)
  | .pending .setupRequest => .ok (ag.emit .setupRequest)
  | .pending _ => .error .unknownEvent

inductive Event
  | subscriptionRequest (sr : SubscriptionRequest) (subs : SmAnsSubs) (tfd : ℕ)
  | subscriptionDeleteRequest (ricId : RicGenId)
  | timer (fd : ℕ) (hasValue : Bool)
  deriving DecidableEq

def step (ag : E2Agent) : Event → Except AgentAbort E2Agent
  | .subscriptionRequest sr subs tfd => ag.handleSubscriptionRequest sr subs tfd
  | .subscriptionDeleteRequest ricId => ag.handleSubscriptionDeleteRequest ricId
  | .timer fd hasValue => do
    let e ← ag.nextAsyncEvent fd
    ag.handleAsyncEvent hasValue e

end E2Agent

end OwlsRan.FlexRic
