import OwlsRan.Lib.EventRun
import OwlsRan.Adt.FlatMap

/-!
# User plane resource manager of the CU-CP

The PDU sessions of a UE with their DRBs and QoS flows, and two maps for quick access. A request is validated, turned into
an update, and the part of the update that succeeded is applied.
-/

namespace OwlsRan.CuCp

open Lib Adt

def MAX_NOF_DRBS : ℕ := 29

structure UpResourceManagerCfg where
  fiveQiConfig : ℕ → Bool
  maxNofDrbsPerUe : ℕ

abbrev QosFlows := FlatMap (Option ℕ)

structure UpDrbContext where
  drbId : ℕ
  pduSessionId : ℕ
  qosFlows : QosFlows
deriving DecidableEq

structure UpPduSessionContext where
  id : ℕ
  drbs : FlatMap UpDrbContext

structure UpContext where
  pduSessions : FlatMap UpPduSessionContext
  drbMap : FlatMap ℕ
  qosFlowMap : FlatMap ℕ
  drbDirty : ℕ → Bool

structure UpPduSessionContextUpdate where
  id : ℕ
  drbToAdd : FlatMap UpDrbContext
  drbToModify : FlatMap UpDrbContext
  drbToRemove : List ℕ

structure UpConfigUpdate where
  initialContextCreation : Bool
  pduSessionsToSetupList : FlatMap UpPduSessionContextUpdate
  pduSessionsToModifyList : FlatMap UpPduSessionContextUpdate
  pduSessionsToRemoveList : List ℕ
  pduSessionsFailedToModifyList : List ℕ
  drbToRemoveList : List ℕ

structure UpConfigUpdateResult where
  pduSessionsAddedList : List UpPduSessionContextUpdate
  pduSessionsModifiedList : List UpPduSessionContextUpdate
  pduSessionsRemovedList : List ℕ

structure PduSessionModifyItem where
  qosFlowAddOrModifyRequestList : QosFlows
  qosFlowToReleaseList : FlatMap Unit

inductive UpAbort where
  | assertion | outOfRange
deriving DecidableEq

def UpPduSessionContextUpdate.init (id : ℕ) : UpPduSessionContextUpdate := ⟨id, FlatMap.empty, FlatMap.empty, []⟩

def UpConfigUpdate.init (initialContextCreation : Bool) : UpConfigUpdate :=
  ⟨initialContextCreation, FlatMap.empty, FlatMap.empty, [], [], []⟩

def getDirtyDrbIndex (drbId : ℕ) : ℕ := drbId - 1

def getFiveQi (cfg : UpResourceManagerCfg) : Option ℕ → Option ℕ
  | none => none
  | some fiveQi => if cfg.fiveQiConfig fiveQi then some fiveQi else none

section Validation

variable (cfg : UpResourceManagerCfg) (ctx : UpContext)

def areFlowsValid (flows : QosFlows) : Bool := flows.entries.all fun flow => (getFiveQi cfg flow.2).isSome

def isValidSetup (items : FlatMap QosFlows) : Bool :=
  !items.entries.isEmpty &&
    items.entries.all fun item => !ctx.pduSessions.contains item.1 && areFlowsValid cfg item.2

def isValidModify (items : FlatMap PduSessionModifyItem) : Bool :=
  !items.entries.isEmpty && items.entries.all fun item =>
    ctx.pduSessions.contains item.1 && areFlowsValid cfg item.2.qosFlowAddOrModifyRequestList &&
      (item.2.qosFlowToReleaseList.keys.all fun qfi => ctx.qosFlowMap.contains qfi) &&
      decide (item.2.qosFlowToReleaseList.size < ctx.qosFlowMap.size)

def isValidRelease (items : FlatMap Unit) : Bool :=
  !items.entries.isEmpty && items.keys.all fun id => ctx.pduSessions.contains id

end Validation

section Calculation

variable (cfg : UpResourceManagerCfg) (ctx : UpContext)

def containsDrb (update : UpConfigUpdate) (drbId : ℕ) : Bool :=
  (update.pduSessionsToSetupList.entries.any fun item => item.2.drbToAdd.contains drbId) ||
    update.pduSessionsToModifyList.entries.any fun item => item.2.drbToAdd.contains drbId

def allocateDrbId (newSession : UpPduSessionContextUpdate) (update : UpConfigUpdate) : Option ℕ :=
  if cfg.maxNofDrbsPerUe ≤ ctx.drbMap.size then none
  else (List.range' 1 MAX_NOF_DRBS).find? fun drbId =>
    !(ctx.drbMap.contains drbId || containsDrb update drbId || newSession.drbToAdd.contains drbId ||
      ctx.drbDirty (getDirtyDrbIndex drbId))

def allocateQosFlow (newSession : UpPduSessionContextUpdate) (update : UpConfigUpdate) (qfi : ℕ) (fiveQi : Option ℕ) :
    Except UpAbort (Option ℕ × UpPduSessionContextUpdate) :=
  if (getFiveQi cfg fiveQi).isNone then .error .assertion
  else if cfg.maxNofDrbsPerUe ≤ ctx.drbMap.size then .ok (none, newSession)
  else
    match allocateDrbId cfg ctx newSession update with
    | none => .ok (none, newSession)
    | some drbId => .ok (some drbId, { newSession with
        drbToAdd := newSession.drbToAdd.emplace drbId
          ⟨drbId, newSession.id, FlatMap.empty.emplace qfi fiveQi⟩ })

def modifyQosFlow (newSession : UpPduSessionContextUpdate) (qfi : ℕ) (fiveQi : Option ℕ) :
    Except UpAbort (Option ℕ × UpPduSessionContextUpdate) :=
  match ctx.qosFlowMap.find? qfi with
  | none => .ok (none, newSession)
  | some drbId =>
    if (getFiveQi cfg fiveQi).isNone then .error .assertion
    else .ok (some drbId, { newSession with
      drbToModify := newSession.drbToModify.emplace drbId
        ⟨drbId, newSession.id, FlatMap.empty.emplace qfi fiveQi⟩ })

def setupFlow (update : UpConfigUpdate) (newSession : UpPduSessionContextUpdate) (flow : ℕ × Option ℕ) :
    Except UpAbort UpPduSessionContextUpdate :=
  match allocateQosFlow cfg ctx newSession update flow.1 flow.2 with
  | .error e => .error e
  | .ok (none, newSession) => .ok newSession
  | .ok (some drbId, newSession) =>
    if newSession.drbToAdd.contains drbId then .ok newSession else .error .outOfRange

def setupSession (update : UpConfigUpdate) (item : ℕ × QosFlows) : Except UpAbort UpConfigUpdate :=
  if ctx.pduSessions.contains item.1 then .error .assertion
  else
    (item.2.entries.foldlM (setupFlow cfg ctx update) (UpPduSessionContextUpdate.init item.1)).map fun newSession =>
      if newSession.drbToAdd.entries.isEmpty then update
      else { update with
        pduSessionsToSetupList := update.pduSessionsToSetupList.emplace newSession.id newSession }

def calculateUpdateSetup (items : FlatMap QosFlows) : Except UpAbort UpConfigUpdate :=
  items.entries.foldlM (setupSession cfg ctx) (UpConfigUpdate.init ctx.pduSessions.entries.isEmpty)

/-- A flow that any session has is modified, and a new one allocated. The session is listed as failed without a DRB. -/
def addOrModifyFlow (update : UpConfigUpdate) (s : UpPduSessionContextUpdate × List ℕ) (flow : ℕ × Option ℕ) :
    Except UpAbort (UpPduSessionContextUpdate × List ℕ) :=
  if ctx.qosFlowMap.contains flow.1 then
    match modifyQosFlow cfg ctx s.1 flow.1 flow.2 with
    | .error e => .error e
    | .ok (none, newSession) => .ok (newSession, s.2 ++ [newSession.id])
    | .ok (some drbId, newSession) =>
      if ctx.drbMap.contains drbId || newSession.drbToModify.contains drbId then .ok (newSession, s.2)
      else .error .assertion
  else
    match allocateQosFlow cfg ctx s.1 update flow.1 flow.2 with
    | .error e => .error e
    | .ok (none, newSession) => .ok (newSession, s.2 ++ [newSession.id])
    | .ok (some drbId, newSession) =>
      if ctx.drbMap.contains drbId || newSession.drbToAdd.contains drbId then .ok (newSession, s.2)
      else .error .assertion

/-- The DRB of the flow is released if this is the only flow mapped to it. -/
def releaseFlow (newSession : UpPduSessionContextUpdate) (qfi : ℕ) : Except UpAbort UpPduSessionContextUpdate :=
  match ctx.qosFlowMap.find? qfi with
  | none => .error .outOfRange
  | some drbId =>
    match ctx.pduSessions.find? newSession.id with
    | none => .error .outOfRange
    | some session =>
      match session.drbs.find? drbId with
      | none => .error .outOfRange
      | some drb =>
        if drb.qosFlows.contains qfi then
          .ok (if drb.qosFlows.size = 1 then { newSession with drbToRemove := newSession.drbToRemove ++ [drbId] }
            else newSession)
        else .error .assertion

def modifySession (update : UpConfigUpdate) (item : ℕ × PduSessionModifyItem) : Except UpAbort UpConfigUpdate :=
  if ctx.pduSessions.contains item.1 then do
    let s ← item.2.qosFlowAddOrModifyRequestList.entries.foldlM (addOrModifyFlow cfg ctx update)
      (UpPduSessionContextUpdate.init item.1, [])
    let newSession ← item.2.qosFlowToReleaseList.keys.foldlM (releaseFlow ctx) s.1
    .ok { update with
      pduSessionsToModifyList := update.pduSessionsToModifyList.emplace newSession.id newSession
      pduSessionsFailedToModifyList := update.pduSessionsFailedToModifyList ++ s.2 }
  else .error .assertion

def calculateUpdateModify (items : FlatMap PduSessionModifyItem) : Except UpAbort UpConfigUpdate :=
  items.entries.foldlM (modifySession cfg ctx) (UpConfigUpdate.init false)

def releaseSession (update : UpConfigUpdate) (id : ℕ) : Except UpAbort UpConfigUpdate :=
  match ctx.pduSessions.find? id with
  | none => .error .outOfRange
  | some session => .ok { update with
      drbToRemoveList := update.drbToRemoveList ++ session.drbs.keys
      pduSessionsToRemoveList := update.pduSessionsToRemoveList ++ [id] }

def calculateUpdateRelease (items : FlatMap Unit) : Except UpAbort UpConfigUpdate :=
  items.keys.foldlM (releaseSession ctx) (UpConfigUpdate.init true)

end Calculation

section Application

def markDirty (drbDirty : ℕ → Bool) (drbId : ℕ) : Except UpAbort (ℕ → Bool) :=
  if 0 < drbId ∧ getDirtyDrbIndex drbId < MAX_NOF_DRBS then
    .ok fun i => decide (i = getDirtyDrbIndex drbId) || drbDirty i
  else .error .assertion

def addDrb (s : UpPduSessionContext × UpContext) (drb : ℕ × UpDrbContext) :
    Except UpAbort (UpPduSessionContext × UpContext) :=
  (markDirty s.2.drbDirty drb.1).map fun drbDirty =>
    ({ s.1 with drbs := s.1.drbs.emplace drb.1 drb.2 },
      { s.2 with
        drbMap := s.2.drbMap.emplace drb.1 s.1.id
        drbDirty
        qosFlowMap := drb.2.qosFlows.keys.foldl (fun m qfi => m.emplace qfi drb.1) s.2.qosFlowMap })

def applyUpdateForNewDrbs (session : UpPduSessionContext) (ctx : UpContext) (drbToAdd : FlatMap UpDrbContext) :
    Except UpAbort (UpPduSessionContext × UpContext) :=
  drbToAdd.entries.foldlM addDrb (session, ctx)

def dropDrb (ctx : UpContext) (drbId : ℕ) (drb : UpDrbContext) : UpContext :=
  { ctx with
    qosFlowMap := drb.qosFlows.keys.foldl FlatMap.erase ctx.qosFlowMap
    drbMap := ctx.drbMap.erase drbId }

def removeDrb (s : UpPduSessionContext × UpContext) (drbId : ℕ) : Except UpAbort (UpPduSessionContext × UpContext) :=
  match s.1.drbs.find? drbId with
  | none => .error .outOfRange
  | some drb => .ok ({ s.1 with drbs := s.1.drbs.erase drbId }, dropDrb s.2 drbId drb)

def applyUpdateForRemovedDrbs (session : UpPduSessionContext) (ctx : UpContext) (drbToRemove : List ℕ) :
    Except UpAbort (UpPduSessionContext × UpContext) :=
  drbToRemove.foldlM removeDrb (session, ctx)

def applyAddedSession (ctx : UpContext) (session : UpPduSessionContextUpdate) : Except UpAbort UpContext :=
  (applyUpdateForNewDrbs ⟨session.id, FlatMap.empty⟩ ctx session.drbToAdd).map fun s =>
    { s.2 with pduSessions := s.2.pduSessions.emplace s.1.id s.1 }

def applyModifiedSession (ctx : UpContext) (modSession : UpPduSessionContextUpdate) : Except UpAbort UpContext :=
  match ctx.pduSessions.find? modSession.id with
  | none => .error .assertion
  | some session => do
    let s ← applyUpdateForNewDrbs session ctx modSession.drbToAdd
    let s ← applyUpdateForRemovedDrbs s.1 s.2 modSession.drbToRemove
    .ok { s.2 with pduSessions := s.2.pduSessions.modify modSession.id fun _ => s.1 }

def applyRemovedSession (ctx : UpContext) (id : ℕ) : Except UpAbort UpContext :=
  match ctx.pduSessions.find? id with
  | none => .error .assertion
  | some session =>
    let ctx := session.drbs.entries.foldl (fun ctx drb => dropDrb ctx drb.1 drb.2) ctx
    .ok { ctx with pduSessions := ctx.pduSessions.erase id }

def applyConfigUpdate (ctx : UpContext) (result : UpConfigUpdateResult) : Except UpAbort UpContext := do
  let ctx ← result.pduSessionsAddedList.foldlM applyAddedSession ctx
  let ctx ← result.pduSessionsModifiedList.foldlM applyModifiedSession ctx
  result.pduSessionsRemovedList.foldlM applyRemovedSession ctx

end Application

structure UpResourceManager where
  context : UpContext
  used : List ℕ

/-- A request comes with the result of the procedure that it starts, and one that is not valid is rejected. -/
inductive UpResourceManagerEvent where
  | setup (items : FlatMap QosFlows) (result : UpConfigUpdateResult)
  | modify (items : FlatMap PduSessionModifyItem) (result : UpConfigUpdateResult)
  | release (items : FlatMap Unit) (result : UpConfigUpdateResult)
  | refreshDrbIdAfterKeyChange

def UpConfigUpdateResult.newDrbs (result : UpConfigUpdateResult) : List (ℕ × UpDrbContext) :=
  (result.pduSessionsAddedList ++ result.pduSessionsModifiedList).flatMap fun session => session.drbToAdd.entries

namespace UpResourceManager

variable (cfg : UpResourceManagerCfg)

def init : UpResourceManager := ⟨⟨FlatMap.empty, FlatMap.empty, FlatMap.empty, fun _ => false⟩, []⟩

def apply (s : UpResourceManager) (result : UpConfigUpdateResult) : Except UpAbort UpResourceManager :=
  (applyConfigUpdate s.context result).map fun context =>
    { context, used := s.used ++ result.newDrbs.map Prod.fst }

def refreshDrbIdAfterKeyChange (s : UpResourceManager) : Except UpAbort UpResourceManager :=
  (s.context.drbMap.keys.foldlM markDirty fun _ => false).map fun drbDirty =>
    { context := { s.context with drbDirty }, used := s.context.drbMap.keys }

def calculateUpdate (s : UpResourceManager) : UpResourceManagerEvent → Option (Except UpAbort UpConfigUpdate)
  | .setup items _ =>
    if isValidSetup cfg s.context items then some (calculateUpdateSetup cfg s.context items) else none
  | .modify items _ =>
    if isValidModify cfg s.context items then some (calculateUpdateModify cfg s.context items) else none
  | .release items _ =>
    if isValidRelease s.context items then some (calculateUpdateRelease s.context items) else none
  | .refreshDrbIdAfterKeyChange => none

def result : UpResourceManagerEvent → UpConfigUpdateResult
  | .setup _ result => result
  | .modify _ result => result
  | .release _ result => result
  | .refreshDrbIdAfterKeyChange => ⟨[], [], []⟩

def step (s : UpResourceManager) (e : UpResourceManagerEvent) : Except UpAbort UpResourceManager :=
  match e, s.calculateUpdate cfg e with
  | .refreshDrbIdAfterKeyChange, _ => s.refreshDrbIdAfterKeyChange
  | _, none => .ok s
  | e, some (.ok _) => s.apply (result e)
  | _, some (.error a) => .error a

end UpResourceManager

end OwlsRan.CuCp
