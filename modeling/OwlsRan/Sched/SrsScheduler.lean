import OwlsRan.Lib.KeyedList
import OwlsRan.Lib.PeriodicWheel

/-!
# The SRS scheduler

`srs_scheduler_impl` keeps the periodic SRS resources of the UEs of a cell, and those of UEs of neighbour cells that are to
be measured for positioning, on a wheel of slots. New resources are scheduled over the part of the resource grid that
exists already, and afterwards every resource in the farthest slot only.
-/

namespace OwlsRan.Sched

open OwlsRan.Lib

def MAX_SRS_PDUS_PER_SLOT : ℕ := 32

/-- The number of positions of `periodic_srs_slot_wheel`. -/
def srsWheelSize : ℕ := 2560

def MAX_CRNTI : ℕ := 0xffef

def isCrnti (rnti : ℕ) : Bool := decide (rnti ≤ MAX_CRNTI) && decide (1 ≤ rnti)

inductive SrsPeriodicity where
  | sl1 | sl2 | sl4 | sl5 | sl8 | sl10 | sl16 | sl20 | sl32 | sl40 | sl64 | sl80 | sl160 | sl320 | sl640 | sl1280 | sl2560
deriving DecidableEq

/-- The value of the enumerator. -/
def SrsPeriodicity.value : SrsPeriodicity → ℕ
  | sl1 => 1
  | sl2 => 2
  | sl4 => 4
  | sl5 => 5
  | sl8 => 8
  | sl10 => 10
  | sl16 => 16
  | sl20 => 20
  | sl32 => 32
  | sl40 => 40
  | sl64 => 64
  | sl80 => 80
  | sl160 => 160
  | sl320 => 320
  | sl640 => 640
  | sl1280 => 1280
  | sl2560 => 2560

inductive SrsResourceType where
  | aperiodic | semiPersistent | periodic
deriving DecidableEq

/-- `srs_resource`; `otherFields` stands for what is copied into the PDU and compared. -/
structure SrsResource where
  ueResId : ℕ
  periodicityAndOffset : Option (SrsPeriodicity × ℕ)
  otherFields : ℕ
deriving DecidableEq

/-- `srs_resource_set`; `otherFields` stands for what is only compared. -/
structure SrsResourceSet where
  resType : SrsResourceType
  srsResIdList : List ℕ
  otherFields : ℕ
deriving DecidableEq

structure SrsConfig where
  srsResSetList : List SrsResourceSet
  srsResList : List SrsResource
deriving DecidableEq

def findSrsResource (srsResList : List SrsResource) (srsResId : ℕ) : Option SrsResource :=
  srsResList.find? fun res => decide (res.ueResId = srsResId)

/-- The resources that the loops over the periodic resource sets visit; what is not found is logged. -/
def SrsConfig.periodicResources (cfg : SrsConfig) : List SrsResource :=
  (cfg.srsResSetList.filter fun set => decide (set.resType = .periodic)).flatMap fun set =>
    set.srsResIdList.filterMap (findSrsResource cfg.srsResList)

/-- `ue_cell_configuration`: `srsCfg` is there when `ul_ded` and its `srs_cfg` are. That a periodic resource set has only
periodic resources is checked by the configuration validator. -/
structure SrsUeConfig where
  crnti : ℕ
  srsCfg : Option SrsConfig
  crnti_valid : isCrnti crnti = true
  periodic_valid : ∀ cfg, srsCfg = some cfg → ∀ res ∈ cfg.periodicResources, res.periodicityAndOffset.isSome = true

/-- `positioning_measurement_request::cell_info`; without UE index the RNTI stands for a UE of a neighbour cell. -/
structure PosRequest where
  posRnti : ℕ
  ueIndex : Option ℕ
  srsResList : List SrsResource

structure PeriodicSrsInfo where
  rnti : ℕ
  srsResId : ℕ
deriving DecidableEq

inductive SrsUeUpdateType where
  | newUe | positioningRequest | positioningStop
deriving DecidableEq

structure SrsUeUpdate where
  rnti : ℕ
  type : SrsUeUpdateType
deriving DecidableEq

structure SrsPdu where
  crnti : ℕ
  resource : SrsResource
  positioningReportRequested : Bool
deriving DecidableEq

inductive SrsAbort where
  | slotWheelFull
  | absentPeriodicity
  | absentSrsCfg
  | neighbourWithCrnti
  | noPeriodicResource
  | noPositioningRequest
  | duplicateUe
deriving DecidableEq

abbrev SrsWheel := ℕ → List PeriodicSrsInfo

/-- The part of `add_resource` for one position of the wheel. What is there already is logged. -/
def addSrsToSlot (e : PeriodicSrsInfo) (slotWheel : List PeriodicSrsInfo) : Except SrsAbort (List PeriodicSrsInfo) :=
  if e ∈ slotWheel then .ok slotWheel
  else if slotWheel.length < MAX_SRS_PDUS_PER_SLOT then .ok (slotWheel ++ [e])
  else .error .slotWheelFull

/-- The part of `rem_resource` for one position of the wheel: the element changes places with the last one. -/
def remSrsFromSlot (e : PeriodicSrsInfo) (slotWheel : List PeriodicSrsInfo) : List PeriodicSrsInfo :=
  match slotWheel.span fun e' => decide (e' ≠ e) with
  | (_, []) => slotWheel
  | (before, _ :: after) =>
    match after.getLast? with
    | none => before
    | some last => before ++ last :: after.dropLast

/-- `add_resource`, with the access to the periodicity of the resource. -/
def addSrsResource (crnti : ℕ) (wheel : SrsWheel) (res : SrsResource) : Except SrsAbort SrsWheel :=
  match res.periodicityAndOffset with
  | none => .error .absentPeriodicity
  | some (period, offset) =>
    (wheelOffsets srsWheelSize period.value offset).foldlM (updateAt (addSrsToSlot ⟨crnti, res.ueResId⟩)) wheel

/-- `rem_resource`, with the access to the periodicity of the resource. -/
def remSrsResource (crnti : ℕ) (wheel : SrsWheel) (res : SrsResource) : Except SrsAbort SrsWheel :=
  match res.periodicityAndOffset with
  | none => .error .absentPeriodicity
  | some (period, offset) =>
    .ok ((wheelOffsets srsWheelSize period.value offset).foldl
      (fun wheel w => Function.update wheel w (remSrsFromSlot ⟨crnti, res.ueResId⟩ (wheel w))) wheel)

structure SrsScheduler where
  periodicSrsSlotWheel : SrsWheel
  updatedUes : List SrsUeUpdate
  pendingPosRequests : List PosRequest

namespace SrsScheduler

def addUeToGrid (s : SrsScheduler) (ueCfg : SrsUeConfig) (isReconf : Bool) : Except SrsAbort SrsScheduler :=
  match ueCfg.srsCfg with
  | none => .ok s
  | some srsCfg =>
    (srsCfg.periodicResources.foldlM (addSrsResource ueCfg.crnti) s.periodicSrsSlotWheel).map fun wheel =>
      -- A reconfigured UE keeps the SRSs that the grid already holds.
      { s with
        periodicSrsSlotWheel := wheel
        updatedUes := if isReconf then s.updatedUes else s.updatedUes ++ [⟨ueCfg.crnti, .newUe⟩] }

def addUe (s : SrsScheduler) (ueCfg : SrsUeConfig) : Except SrsAbort SrsScheduler := s.addUeToGrid ueCfg false

def remUe (s : SrsScheduler) (ueCfg : SrsUeConfig) : Except SrsAbort SrsScheduler :=
  match ueCfg.srsCfg with
  | none => .ok s
  | some srsCfg =>
    (srsCfg.periodicResources.foldlM (remSrsResource ueCfg.crnti) s.periodicSrsSlotWheel).map fun wheel =>
      { s with periodicSrsSlotWheel := wheel }

def nothingChanged (newUeCfg oldUeCfg : SrsUeConfig) : Bool :=
  newUeCfg.srsCfg.isSome && decide (newUeCfg.srsCfg = oldUeCfg.srsCfg)

def reconfUe (s : SrsScheduler) (newUeCfg oldUeCfg : SrsUeConfig) : Except SrsAbort SrsScheduler :=
  if nothingChanged newUeCfg oldUeCfg then .ok s
  else do
    let removed ← s.remUe oldUeCfg
    removed.addUeToGrid newUeCfg true

def findPosRequest (s : SrsScheduler) (rnti : ℕ) : Option PosRequest :=
  findKey PosRequest.posRnti s.pendingPosRequests rnti

end SrsScheduler

/-- A UE of the repository: its configuration in the cell, and whether the one of its PCell has SRS. -/
structure SrsUe where
  ueIndex : ℕ
  cfg : SrsUeConfig
  pcellHasSrsCfg : Bool

structure SrsCell where
  maxUlSlotAllocDelay : ℕ
  isUlEnabled : ℕ → Bool

/-- The scheduler, the UE repository with the RNTIs of the UEs that the scheduler was told to remove, the next slot, and the
SRS PDUs of the slots. Slots are counted without wrap-around. -/
structure SrsSystem where
  sched : SrsScheduler
  ues : List SrsUe
  removed : List ℕ
  slotTx : ℕ
  srss : ℕ → List SrsPdu

namespace SrsSystem

def init (slotTx : ℕ) : SrsSystem := ⟨⟨fun _ => [], [], []⟩, [], [], slotTx, fun _ => []⟩

def findByRnti (s : SrsSystem) (rnti : ℕ) : Option SrsUe := findKey (fun u => u.cfg.crnti) s.ues rnti

def findByIndex (s : SrsSystem) (ueIndex : ℕ) : Option SrsUe := findKey SrsUe.ueIndex s.ues ueIndex

/-- The resources among which an opportunity looks up its own, if the slot is for it. -/
def srsResList (cell : SrsCell) (s : SrsSystem) (slot rnti : ℕ) : Except SrsAbort (List SrsResource) :=
  if isCrnti rnti then
    match s.findByRnti rnti with
    | none => .ok []
    | some u =>
      if cell.isUlEnabled slot then
        match u.cfg.srsCfg with
        | none => .error .absentSrsCfg
        | some srsCfg => .ok srsCfg.srsResList
      else .ok []
  else
    match s.sched.findPosRequest rnti with
    | none => .error .noPositioningRequest
    | some req => .ok req.srsResList

def allocateSrsOpportunity (cell : SrsCell) (s : SrsSystem) (slot : ℕ) (pdus : List SrsPdu) (e : PeriodicSrsInfo) :
    Except SrsAbort (List SrsPdu) :=
  if pdus.length = MAX_SRS_PDUS_PER_SLOT then .ok pdus
  else do
    let srsResList ← s.srsResList cell slot e.rnti
    match findSrsResource srsResList e.srsResId with
    | none => .ok pdus
    | some res =>
      if res.periodicityAndOffset.isNone then .error .absentPeriodicity
      else .ok (pdus ++ [⟨e.rnti, res, (s.sched.findPosRequest e.rnti).isSome⟩])

def patchFlags (updatedUes : List SrsUeUpdate) (pdus : List SrsPdu) : List SrsPdu :=
  updatedUes.foldl (fun pdus upd =>
    if upd.type = .positioningStop ∨ upd.type = .positioningRequest then
      pdus.map fun pdu => { pdu with positioningReportRequested := decide (upd.type = .positioningRequest) }
    else pdus) pdus

def isToBeAllocated (updatedUes : List SrsUeUpdate) (e : PeriodicSrsInfo) : Bool :=
  match updatedUes.find? fun upd => decide (upd.rnti = e.rnti) with
  | none => false
  | some upd => decide (upd.type = .newUe) || (decide (upd.type = .positioningRequest) && !isCrnti upd.rnti)

/-- What `schedule_updated_ues_srs` does in one slot of the grid. -/
def scheduleUpdatedUesSlot (cell : SrsCell) (s : SrsSystem) (slot : ℕ) (pdus : List SrsPdu) :
    Except SrsAbort (List SrsPdu) :=
  ((s.sched.periodicSrsSlotWheel (slot % srsWheelSize)).filter (isToBeAllocated s.sched.updatedUes)).foldlM
    (s.allocateSrsOpportunity cell slot) (patchFlags s.sched.updatedUes pdus)

def scheduleUpdatedUesSrs (cell : SrsCell) (s : SrsSystem) : Except SrsAbort (ℕ → List SrsPdu) :=
  ((List.range cell.maxUlSlotAllocDelay).map fun n => s.slotTx + n).foldlM
    (fun srss slot => (s.scheduleUpdatedUesSlot cell slot (srss slot)).map (Function.update srss slot)) s.srss

def scheduleSlotSrs (cell : SrsCell) (s : SrsSystem) (slot : ℕ) (pdus : List SrsPdu) : Except SrsAbort (List SrsPdu) :=
  (s.sched.periodicSrsSlotWheel (slot % srsWheelSize)).foldlM (s.allocateSrsOpportunity cell slot) pdus

def runSlot (cell : SrsCell) (s : SrsSystem) : Except SrsAbort SrsSystem := do
  let farthest := s.slotTx + cell.maxUlSlotAllocDelay
  let srss ← s.scheduleUpdatedUesSrs cell
  let pdus ← s.scheduleSlotSrs cell farthest (srss farthest)
  .ok { s with
    sched := { s.sched with updatedUes := [] }
    slotTx := s.slotTx + 1
    srss := Function.update srss farthest pdus }

def requestConnected (s : SrsSystem) (req : PosRequest) (ueIndex : ℕ) : SrsScheduler :=
  match s.findByIndex ueIndex with
  | none => s.sched
  | some u =>
    if u.cfg.crnti ≠ req.posRnti then s.sched
    else if u.pcellHasSrsCfg = false then s.sched
    else { s.sched with
      updatedUes := s.sched.updatedUes ++ [⟨req.posRnti, .positioningRequest⟩]
      pendingPosRequests := s.sched.pendingPosRequests ++ [req] }

def requestNeighbour (s : SrsSystem) (req : PosRequest) : Except SrsAbort SrsScheduler :=
  if isCrnti req.posRnti then .error .neighbourWithCrnti
  else
    let periodic := req.srsResList.filter fun res => res.periodicityAndOffset.isSome
    match periodic.foldlM (addSrsResource req.posRnti) s.sched.periodicSrsSlotWheel with
    | .error a => .error a
    | .ok wheel =>
      if periodic.isEmpty then .error .noPeriodicResource
      else .ok {
        periodicSrsSlotWheel := wheel
        updatedUes := s.sched.updatedUes ++ [⟨req.posRnti, .positioningRequest⟩]
        pendingPosRequests := s.sched.pendingPosRequests ++ [req] }

def handlePositioningMeasurementRequest (s : SrsSystem) (req : PosRequest) : Except SrsAbort SrsScheduler :=
  if (s.sched.findPosRequest req.posRnti).isSome then .ok s.sched
  else
    match req.ueIndex with
    | some ueIndex => .ok (s.requestConnected req ueIndex)
    | none => s.requestNeighbour req

def handlePositioningMeasurementStop (s : SrsSystem) (posRnti : ℕ) : Except SrsAbort SrsScheduler :=
  match s.sched.findPosRequest posRnti with
  | none => .ok s.sched
  | some req =>
    let wheel := if req.ueIndex.isNone then
        req.srsResList.foldlM (remSrsResource req.posRnti) s.sched.periodicSrsSlotWheel
      else .ok s.sched.periodicSrsSlotWheel
    wheel.map fun wheel =>
      { periodicSrsSlotWheel := wheel
        updatedUes := s.sched.updatedUes ++ [⟨posRnti, .positioningStop⟩]
        pendingPosRequests := s.sched.pendingPosRequests.eraseP fun req => decide (req.posRnti = posRnti) }

end SrsSystem

/-- The calls of the event manager, and slot indications. A UE leaves the repository some time after `rem_ue`. -/
inductive SrsEvent where
  | addUe (u : SrsUe)
  | reconfUe (newUeCfg : SrsUeConfig) (pcellHasSrsCfg : Bool)
  | remUe (rnti : ℕ)
  | ueLeaves (rnti : ℕ)
  | handlePositioningMeasurementRequest (req : PosRequest)
  | handlePositioningMeasurementStop (posRnti : ℕ)
  | runSlot

namespace SrsSystem

def activeUe (s : SrsSystem) (rnti : ℕ) : Option SrsUe := if rnti ∈ s.removed then none else s.findByRnti rnti

/-- A UE is added once, reconfigured and removed with the configuration that it has, and leaves after that. -/
def step (cell : SrsCell) (s : SrsSystem) : SrsEvent → Except SrsAbort SrsSystem
  | .addUe u =>
    if (s.findByRnti u.cfg.crnti).isSome ∨ (s.findByIndex u.ueIndex).isSome then .error .duplicateUe
    else (s.sched.addUe u.cfg).map fun sched => { s with sched, ues := s.ues ++ [u] }
  | .reconfUe newUeCfg pcellHasSrsCfg =>
    match s.activeUe newUeCfg.crnti with
    | none => .ok s
    | some u =>
      (s.sched.reconfUe newUeCfg u.cfg).map fun sched =>
        { s with
          sched
          ues := s.ues.map fun v => if v.cfg.crnti = newUeCfg.crnti then ⟨v.ueIndex, newUeCfg, pcellHasSrsCfg⟩ else v }
  | .remUe rnti =>
    match s.activeUe rnti with
    | none => .ok s
    | some u => (s.sched.remUe u.cfg).map fun sched => { s with sched, removed := rnti :: s.removed }
  | .ueLeaves rnti =>
    .ok (if rnti ∈ s.removed then
      { s with
        ues := s.ues.filter fun u => decide (u.cfg.crnti ≠ rnti)
        removed := s.removed.filter fun r => decide (r ≠ rnti) }
    else s)
  | .handlePositioningMeasurementRequest req =>
    (s.handlePositioningMeasurementRequest req).map fun sched => { s with sched }
  | .handlePositioningMeasurementStop posRnti =>
    (s.handlePositioningMeasurementStop posRnti).map fun sched => { s with sched }
  | .runSlot => s.runSlot cell

end SrsSystem

end OwlsRan.Sched
