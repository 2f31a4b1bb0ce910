import OwlsRan.Lib.PeriodicWheel
import OwlsRan.Ran.SlotPoint
import OwlsRan.Sched.PucchPdus

/-!
# The UCI scheduler

`uci_scheduler_impl` keeps the periodic SR and CSI occasions of the UEs of a cell on a wheel of slots. A new UE is
scheduled over the part of the resource grid that exists already, and afterwards every UE in the farthest slot only.
What the UCI allocator and the other schedulers leave in the grid is an input of `run_slot`.
-/

namespace OwlsRan.Sched

open OwlsRan.Lib OwlsRan.Ran

def MAX_SR_PERIOD : ℕ := 640

def MAX_CSI_REPORT_PERIOD : ℕ := 320

/-- The number of positions of `periodic_uci_slot_wheel`. -/
def uciWheelSize : ℕ := max MAX_SR_PERIOD MAX_CSI_REPORT_PERIOD

inductive SrPeriodicity where
  | sym2 | sym6Or7 | sl1 | sl2 | sl4 | sl5 | sl8 | sl10 | sl16 | sl20 | sl40 | sl80 | sl160 | sl320 | sl640
deriving DecidableEq

namespace SrPeriodicity

/-- The value of the enumerator. -/
def value : SrPeriodicity → Int
  | sym2 => -2
  | sym6Or7 => -1
  | sl1 => 1
  | sl2 => 2
  | sl4 => 4
  | sl5 => 5
  | sl8 => 8
  | sl10 => 10
  | sl16 => 16
  | sl20 => 20
  | sl40 => 40
  | sl80 => 80
  | sl160 => 160
  | sl320 => 320
  | sl640 => 640

def toSlot (p : SrPeriodicity) : ℕ :=
  if p = sym2 ∨ p = sym6Or7 then 1 else p.value.toNat

end SrPeriodicity

inductive CsiReportPeriodicity where
  | slots4 | slots5 | slots8 | slots10 | slots16 | slots20 | slots40 | slots80 | slots160 | slots320
deriving DecidableEq

def CsiReportPeriodicity.toUint : CsiReportPeriodicity → ℕ
  | slots4 => 4
  | slots5 => 5
  | slots8 => 8
  | slots10 => 10
  | slots16 => 16
  | slots20 => 20
  | slots40 => 40
  | slots80 => 80
  | slots160 => 160
  | slots320 => 320

/-- `scheduling_request_resource_config`; the offset is one of `0, …, period - 1`. -/
structure SchedulingRequestResourceConfig where
  srResId : ℕ
  srId : ℕ
  period : SrPeriodicity
  offset : ℕ
  pucchResId : ℕ
  offset_lt : offset < period.toSlot
deriving DecidableEq

/-- `report_cfg_type`; the fields of the reports on PUSCH are read by nothing but the comparison. -/
inductive CsiReportCfgType where
  | onPucch (reportSlotPeriod : CsiReportPeriodicity) (reportSlotOffset : ℕ)
      (offset_lt : reportSlotOffset < reportSlotPeriod.toUint)
  | semiPersistentOnPusch (fields : ℕ)
  | aperiodic (fields : ℕ)
deriving DecidableEq

/-- `otherFields` stands for what only the comparison of two configurations reads. -/
structure CsiMeasConfig where
  csiReportCfgList : List CsiReportCfgType
  otherFields : ℕ
deriving DecidableEq

/-- `ue_cell_configuration`: `pucchCfg` is there when `ul_ded` and its `pucch_cfg` are. -/
structure UciUeConfig where
  crnti : ℕ
  pucchCfg : Option (List SchedulingRequestResourceConfig)
  csiMeasCfg : Option CsiMeasConfig

inductive UciKind where
  | sr | csi
deriving DecidableEq

structure PeriodicUciInfo where
  rnti : ℕ
  srCounter : ℕ
  csiCounter : ℕ
deriving DecidableEq

namespace PeriodicUciInfo

def counter (e : PeriodicUciInfo) : UciKind → ℕ
  | .sr => e.srCounter
  | .csi => e.csiCounter

def increment (e : PeriodicUciInfo) : UciKind → PeriodicUciInfo
  | .sr => { e with srCounter := e.srCounter + 1 }
  | .csi => { e with csiCounter := e.csiCounter + 1 }

def decrement (e : PeriodicUciInfo) : UciKind → PeriodicUciInfo
  | .sr => { e with srCounter := e.srCounter - 1 }
  | .csi => { e with csiCounter := e.csiCounter - 1 }

end PeriodicUciInfo

inductive UciAbort where
  | slotWheelFull
  | srPeriodBelowOneSlot
  | noCsiReport
  | badVariantAccess
  | duplicateRnti
deriving DecidableEq

abbrev SlotWheel := ℕ → List PeriodicUciInfo

/-- The part of `add_resource` for one position of the wheel. -/
def addToSlot (crnti : ℕ) (kind : UciKind) (slotWheel : List PeriodicUciInfo) :
    Except UciAbort (List PeriodicUciInfo) :=
  match slotWheel.span fun e => decide (e.rnti ≠ crnti) with
  | (_, []) =>
    if slotWheel.length < MAX_PUCCH_PDUS_PER_SLOT then
      .ok (slotWheel ++ [(PeriodicUciInfo.mk crnti 0 0).increment kind])
    else .error .slotWheelFull
  | (before, e :: after) => .ok (before ++ e.increment kind :: after)

/-- The part of `rem_resource` for one position of the wheel: an element that is done with changes places with the
last one. What is not there is logged. -/
def remFromSlot (crnti : ℕ) (kind : UciKind) (slotWheel : List PeriodicUciInfo) : List PeriodicUciInfo :=
  match slotWheel.span fun e => decide (e.rnti ≠ crnti) with
  | (_, []) => slotWheel
  | (before, e :: after) =>
    if e.counter kind = 0 then slotWheel
    else
      let e' := e.decrement kind
      if e'.srCounter = 0 ∧ e'.csiCounter = 0 then
        match after.getLast? with
        | none => before
        | some last => before ++ last :: after.dropLast
      else before ++ e' :: after

def addResource (wheel : SlotWheel) (crnti resOffset resPeriod : ℕ) (kind : UciKind) : Except UciAbort SlotWheel :=
  (wheelOffsets uciWheelSize resPeriod resOffset).foldlM (updateAt (addToSlot crnti kind)) wheel

def remResource (wheel : SlotWheel) (crnti resOffset resPeriod : ℕ) (kind : UciKind) : SlotWheel :=
  (wheelOffsets uciWheelSize resPeriod resOffset).foldl
    (fun wheel w => Function.update wheel w (remFromSlot crnti kind (wheel w))) wheel

def CsiMeasConfig.periodPucch (csi : CsiMeasConfig) : Except UciAbort (ℕ × ℕ) :=
  match csi.csiReportCfgList with
  | [] => .error .noCsiReport
  | .onPucch period offset _ :: _ => .ok (period.toUint, offset)
  | _ => .error .badVariantAccess

structure UciScheduler where
  periodicUciSlotWheel : SlotWheel
  updatedUes : List ℕ

namespace UciScheduler

def addSrResource (crnti : ℕ) (wheel : SlotWheel) (srRes : SchedulingRequestResourceConfig) :
    Except UciAbort SlotWheel :=
  if srRes.period.value < 1 then .error .srPeriodBelowOneSlot
  else addResource wheel crnti srRes.offset srRes.period.toSlot .sr

def remSrResource (crnti : ℕ) (wheel : SlotWheel) (srRes : SchedulingRequestResourceConfig) : SlotWheel :=
  remResource wheel crnti srRes.offset srRes.period.toSlot .sr

def addCsiResource (crnti : ℕ) (wheel : SlotWheel) : Option CsiMeasConfig → Except UciAbort SlotWheel
  | none => .ok wheel
  | some csi => do
    let (period, offset) ← csi.periodPucch
    addResource wheel crnti offset period .csi

def remCsiResource (crnti : ℕ) (wheel : SlotWheel) : Option CsiMeasConfig → Except UciAbort SlotWheel
  | none => .ok wheel
  | some csi => do
    let (period, offset) ← csi.periodPucch
    pure (remResource wheel crnti offset period .csi)

def addUeToGrid (s : UciScheduler) (ueCfg : UciUeConfig) (isReconf : Bool) : Except UciAbort UciScheduler :=
  match ueCfg.pucchCfg with
  | none => .ok s
  | some srResList => do
    let srWheel ← srResList.foldlM (addSrResource ueCfg.crnti) s.periodicUciSlotWheel
    let wheel ← addCsiResource ueCfg.crnti srWheel ueCfg.csiMeasCfg
    -- A reconfigured UE keeps the UCIs that the grid already holds.
    pure ⟨wheel, if isReconf then s.updatedUes else s.updatedUes ++ [ueCfg.crnti]⟩

def addUe (s : UciScheduler) (ueCfg : UciUeConfig) : Except UciAbort UciScheduler :=
  s.addUeToGrid ueCfg false

/-- The UE stays in `updated_ues`. -/
def remUe (s : UciScheduler) (ueCfg : UciUeConfig) : Except UciAbort UciScheduler :=
  match ueCfg.pucchCfg with
  | none => .ok s
  | some srResList => do
    let srWheel := srResList.foldl (remSrResource ueCfg.crnti) s.periodicUciSlotWheel
    let wheel ← remCsiResource ueCfg.crnti srWheel ueCfg.csiMeasCfg
    pure { s with periodicUciSlotWheel := wheel }

/-- Both configurations have PUCCH, and neither the SR resources nor the CSI measurements differ. -/
def nothingChanged (newUeCfg oldUeCfg : UciUeConfig) : Bool :=
  newUeCfg.pucchCfg.isSome && decide (newUeCfg.pucchCfg = oldUeCfg.pucchCfg) &&
    decide (newUeCfg.csiMeasCfg = oldUeCfg.csiMeasCfg)

def reconfUe (s : UciScheduler) (newUeCfg oldUeCfg : UciUeConfig) : Except UciAbort UciScheduler :=
  if nothingChanged newUeCfg oldUeCfg then .ok s
  else do
    let removed ← s.remUe oldUeCfg
    removed.addUeToGrid newUeCfg true

end UciScheduler

inductive UciOutcome where
  | allocSrOpportunity
  | allocCsiOpportunity
  | skippedUciScheduling
deriving DecidableEq

/-- A call to the UCI allocator, or the note that it was skipped. Slots are counted without wrap-around. -/
structure UciAction where
  slot : ℕ
  rnti : ℕ
  outcome : UciOutcome
deriving DecidableEq

/-- The part of `sched_result` that `has_space_for_uci_pdu` reads. -/
structure UciSlotResult where
  pucchRntis : List ℕ
  nofPuschs : ℕ

structure UciCell where
  numerology : ℕ
  maxUlSlotAllocDelay : ℕ
  maxPucchsPerSlot : ℕ
  maxUlGrantsPerSlot : ℕ

namespace UciCell

/-- The slot point of the `n`-th slot. -/
def slotPoint (cell : UciCell) (n : ℕ) : SlotPoint :=
  (SlotPoint.mk cell.numerology 0).add n

def hasSpaceForUciPdu (cell : UciCell) (result : UciSlotResult) (crnti : ℕ) : Bool :=
  if result.nofPuschs ≠ 0 then false
  else if crnti ∈ result.pucchRntis then true
  else if min cell.maxPucchsPerSlot MAX_PUCCH_PDUS_PER_SLOT = result.pucchRntis.length then false
  else decide (result.pucchRntis.length + result.nofPuschs < cell.maxUlGrantsPerSlot)

end UciCell

def uciAllocations (slot : ℕ) (e : PeriodicUciInfo) : List UciAction :=
  (if 0 < e.srCounter then [⟨slot, e.rnti, .allocSrOpportunity⟩] else []) ++
    if 0 < e.csiCounter then [⟨slot, e.rnti, .allocCsiOpportunity⟩] else []

def UciCell.wheelIndex (cell : UciCell) (n : ℕ) : ℕ :=
  (cell.slotPoint n).count % uciWheelSize

/-- `schedule_slot_ucis` over the elements of the slot: those that it keeps, and its calls to the UCI allocator. -/
def scheduleSlotUcis (found : ℕ → Bool) (slot : ℕ) : List PeriodicUciInfo → List PeriodicUciInfo × List UciAction
  | [] => ([], [])
  | e :: es =>
    let rest := scheduleSlotUcis found slot es
    if found e.rnti then (e :: rest.1, uciAllocations slot e ++ rest.2) else rest

/-- What is done in the `n`-th slot of the grid for a UE whose configuration has been updated. -/
def scheduleUpdatedUeSlot (cell : UciCell) (wheel : SlotWheel) (result : List UciAction → ℕ → UciSlotResult)
    (slotTx rnti : ℕ) (actions : List UciAction) (n : ℕ) : List UciAction :=
  let slotUcis := (wheel (cell.wheelIndex (slotTx + n))).filter fun e => decide (e.rnti = rnti)
  actions ++
    if cell.hasSpaceForUciPdu (result actions n) rnti then slotUcis.flatMap (uciAllocations (slotTx + n))
    else slotUcis.map fun _ => ⟨slotTx + n, rnti, .skippedUciScheduling⟩

/-- `schedule_updated_ues_ucis`; `result` gives the result of a slot of the grid after the calls made so far. -/
def scheduleUpdatedUesUcis (cell : UciCell) (s : UciScheduler) (found : ℕ → Bool)
    (result : List UciAction → ℕ → UciSlotResult) (slotTx : ℕ) (actions : List UciAction) : List UciAction :=
  s.updatedUes.foldl (fun actions rnti =>
    if found rnti then
      (List.range cell.maxUlSlotAllocDelay).foldl
        (scheduleUpdatedUeSlot cell s.periodicUciSlotWheel result slotTx rnti) actions
    else actions) actions

/-- The scheduler with the UEs that it was told of, the next slot, and every call to the UCI allocator so far. -/
structure UciSystem where
  sched : UciScheduler
  ues : List UciUeConfig
  slotTx : ℕ
  actions : List UciAction

/-- The calls of the event manager, and slot indications. A UE that has been removed may linger in the repository. -/
inductive UciEvent where
  | addUe (ueCfg : UciUeConfig)
  | reconfUe (newUeCfg : UciUeConfig)
  | remUe (rnti : ℕ)
  | runSlot (lingering : List ℕ) (result : List UciAction → ℕ → UciSlotResult)

namespace UciSystem

def init (slotTx : ℕ) : UciSystem := ⟨⟨fun _ => [], []⟩, [], slotTx, []⟩

def findByRnti (s : UciSystem) (rnti : ℕ) : Option UciUeConfig :=
  s.ues.find? fun cfg => decide (cfg.crnti = rnti)

def runSlot (cell : UciCell) (s : UciSystem) (lingering : List ℕ) (result : List UciAction → ℕ → UciSlotResult) :
    UciSystem :=
  let found := fun rnti => (s.findByRnti rnti).isSome || decide (rnti ∈ lingering)
  let farthest := s.slotTx + cell.maxUlSlotAllocDelay
  let w := cell.wheelIndex farthest
  let slotUcis := scheduleSlotUcis found farthest (s.sched.periodicUciSlotWheel w)
  { s with
    sched := ⟨Function.update s.sched.periodicUciSlotWheel w slotUcis.1, []⟩
    slotTx := s.slotTx + 1
    actions := scheduleUpdatedUesUcis cell s.sched found result s.slotTx s.actions ++ slotUcis.2 }

/-- A UE is added once, and reconfigured and removed with the configuration that it has. -/
def step (cell : UciCell) (s : UciSystem) : UciEvent → Except UciAbort UciSystem
  | .addUe ueCfg =>
    if (s.findByRnti ueCfg.crnti).isSome then .error .duplicateRnti
    else (s.sched.addUe ueCfg).map fun sched => { s with sched, ues := s.ues ++ [ueCfg] }
  | .reconfUe newUeCfg =>
    match s.findByRnti newUeCfg.crnti with
    | none => .ok s
    | some oldUeCfg =>
      (s.sched.reconfUe newUeCfg oldUeCfg).map fun sched =>
        { s with sched, ues := s.ues.map fun cfg => if cfg.crnti = newUeCfg.crnti then newUeCfg else cfg }
  | .remUe rnti =>
    match s.findByRnti rnti with
    | none => .ok s
    | some ueCfg =>
      (s.sched.remUe ueCfg).map fun sched =>
        { s with sched, ues := s.ues.filter fun cfg => decide (cfg.crnti ≠ rnti) }
  | .runSlot lingering result => .ok (s.runSlot cell lingering result)

end UciSystem

end OwlsRan.Sched
