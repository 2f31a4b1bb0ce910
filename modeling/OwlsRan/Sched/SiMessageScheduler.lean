import OwlsRan.Sched.Msg3Retx
import OwlsRan.Sched.PrbsCalculator
import OwlsRan.Sched.RbHelper

/-!
# The scheduler of SI messages

`si_message_scheduler` opens and closes the window of each SI message, and transmits a message once in its window. The
grant is computed in `allocate_si_message`; its DCI and its PDSCH are filled in `fill_si_grant`.
-/

namespace OwlsRan.Sched

open OwlsRan.Adt OwlsRan.Lib OwlsRan.Ran

def MAX_SI_PDUS_PER_SLOT : Nat := 2

/-- `si_message_scheduling_config`. The values of the periodicity divide the number of SFNs. -/
structure SiMessageSchedulingConfig where
  msgLen : Nat
  periodRadioFrames : Nat
  siWindowPosition : Option Nat
  period_dvd : periodRadioFrames ∣ NOF_SFNS

def slotsPerFrame (numerology : Nat) : Nat := (⟨numerology, 0⟩ : SlotPoint).nofSlotsPerFrame

def maxSiWindowLenSlots : Nat := 1280

/-- `si_scheduling_config` of a cell. The window is never longer than a period. -/
structure SiSchedulingConfig (numerology : Nat) where
  siMessages : List SiMessageSchedulingConfig
  siWindowLenSlots : Nat
  len_pos : 0 < siWindowLenSlots
  len_le_max : siWindowLenSlots ≤ maxSiWindowLenSlots
  len_le : ∀ msg ∈ siMessages, siWindowLenSlots ≤ msg.periodRadioFrames * slotsPerFrame numerology

/-- The monitoring occasions in `search_space_configuration`. -/
structure SearchSpaceMonitoring where
  monitoringSlotPeriodicity : Nat
  monitoringSlotOffset : Nat
  duration : Nat
deriving DecidableEq

def isPdcchMonitoringActive (sl : SlotPoint) (ss : SearchSpaceMonitoring) : Bool :=
  let slotOffset := sl.count % ss.monitoringSlotPeriodicity
  let windowStart := ss.monitoringSlotOffset
  let windowEnd := (windowStart + ss.duration) % ss.monitoringSlotPeriodicity
  if windowStart < windowEnd then decide (windowStart ≤ slotOffset) && decide (slotOffset < windowEnd)
  else decide (windowStart ≤ slotOffset) || decide (slotOffset < windowEnd)

structure Dci10SiRnti where
  nRbDlBwp : Nat
  frequencyResource : Nat
  timeResource : Nat
  interleavedVrbPrbMapping : Bool
  modulationCodingScheme : Nat
  redundancyVersion : Nat
  systemInformationIndicator : Nat
deriving DecidableEq

/-- `pdsch_information` of an SI message, without the fields that are the same for all of them. -/
structure SiPdschInformation (Dmrs : Type) where
  symbols : UnsignedInterval
  rbs : UnsignedInterval
  nofLayers : Nat
  rvIndex : Nat
  mcsIndex : Nat
  tbSizeBytes : Nat
  dmrs : Dmrs

/-- `sib_information` of an SI message -/
structure SibInformation (Dmrs : Type) where
  siMsgIndex : Nat
  version : Nat
  nofTxs : Nat
  isRepetition : Bool
  pdschCfg : SiPdschInformation Dmrs

structure SiTransmission (Dmrs : Type) where
  dci : Dci10SiRnti
  sib : SibInformation Dmrs

/-- What the scheduler reads of the cell and of its expert configuration. `defaultATable` are the default time domain
allocations; `crbLims` and `pdcchRequest` belong to the search space for SI messages. -/
structure SiCell (Mcs Dmrs : Type) (numerology : Nat) where
  carrier : ScsSpecificCarrier
  monitoring : SearchSpaceMonitoring
  pdcchRequest : PdcchRequest
  crbLims : UnsignedInterval
  coresetStartCrb : Nat
  coreset0Length : Nat
  pdschTdAllocList : List PdschTimeDomainResourceAllocation
  defaultATable : List PdschTimeDomainResourceAllocation
  sib1McsIndex : Nat
  siMessageMcsIndex : Nat
  functions : PdschFunctions Mcs Dmrs
  /-- The RBs of DCI Format 1_0 in a common search space begin with those of the CORESET. -/
  coresetStartCrb_le : coresetStartCrb ≤ crbLims.start

inductive SiAbort where
  | pdcch (a : PdcchAbort)
  | search (a : RbSearchAbort)
  | noTimeDomainRow
  | sibsFull
deriving DecidableEq

/-- `message_window_context`; the default window is empty. -/
structure MessageWindowContext where
  window : Option SlotInterval
  nofTxInCurrentWindow : Nat
  totalNofTx : Nat

def MessageWindowContext.init : MessageWindowContext := ⟨none, 0, 0⟩

structure SiSlot where
  pdcch : PdcchSlot
  nofSibs : Nat
deriving DecidableEq

namespace SiCell

variable {Mcs Dmrs : Type} {numerology : Nat} (cell : SiCell Mcs Dmrs numerology)

def timeResource : Nat := 0

def getSiRntiType0ACommonPdschTimeDomainList : List PdschTimeDomainResourceAllocation :=
  if cell.pdschTdAllocList.isEmpty then cell.defaultATable else cell.pdschTdAllocList

def getSiRntiPdschTimeDomainList : List PdschTimeDomainResourceAllocation := cell.defaultATable

def siPrbsTbs (msgLen : Nat) (row : PdschTimeDomainResourceAllocation) : SchPrbsTbs :=
  cell.functions.tbs.getNofPrbs {
    payloadSizeBytes := msgLen
    nofSymbSh := row.symbols.length
    nofDmrsPrb := cell.functions.calculateNofDmrsPerRb (cell.functions.makeDmrsInfoCommon row)
    nofOhPrb := 0
    mcsDescr := cell.functions.pdschMcsGetConfig cell.siMessageMcsIndex
    nofLayers := 1 }

def usedCrbsOf (res : SiSlot) (row : PdschTimeDomainResourceAllocation) : BoundedBitset MAX_NOF_PRBS :=
  usedCrbs cell.carrier numerology res.pdcch.dlResGrid cell.crbLims row.symbols

def crbToVrb (crbs : UnsignedInterval) : UnsignedInterval :=
  ⟨crbs.start - cell.coresetStartCrb, crbs.stop - cell.coresetStartCrb, Nat.sub_le_sub_right crbs.valid _⟩

def buildDciF10SiRnti (crbs : UnsignedInterval) (timeResource mcsIndex siIndicator : Nat) : Dci10SiRnti where
  nRbDlBwp := cell.coreset0Length
  frequencyResource := slivFromSAndL cell.coreset0Length (cell.crbToVrb crbs).start (cell.crbToVrb crbs).length
  timeResource := timeResource
  interleavedVrbPrbMapping := false
  modulationCodingScheme := mcsIndex
  redundancyVersion := 0
  systemInformationIndicator := siIndicator

def buildPdschF10SiRnti (tbsBytes : Nat) (dci : Dci10SiRnti) (crbs symbols : UnsignedInterval) (dmrs : Dmrs) :
    SiPdschInformation Dmrs where
  symbols := symbols
  rbs := cell.crbToVrb crbs
  nofLayers := 1
  rvIndex := dci.redundancyVersion
  mcsIndex := dci.modulationCodingScheme
  tbSizeBytes := tbsBytes
  dmrs := dmrs

/-- `fill_si_grant`. The DCI has the MCS of SIB1, and the symbols come from the default list. -/
def fillSiGrant (version siMessage : Nat) (ctx : MessageWindowContext) (crbs : UnsignedInterval) (dmrs : Dmrs) (tbs : Nat) :
    Except SiAbort (SiTransmission Dmrs) :=
  let dci := cell.buildDciF10SiRnti crbs timeResource cell.sib1McsIndex 1
  match cell.getSiRntiPdschTimeDomainList[timeResource]? with
  | none => .error .noTimeDomainRow
  | some row =>
    .ok ⟨dci, ⟨siMessage, version, ctx.totalNofTx, decide (ctx.nofTxInCurrentWindow ≠ 0),
      cell.buildPdschF10SiRnti tbs dci crbs row.symbols dmrs⟩⟩

def allocateSiMessage (version siMessage msgLen : Nat) (ctx : MessageWindowContext) (res : SiSlot) :
    Except SiAbort (Option (SiTransmission Dmrs) × SiSlot) :=
  match cell.getSiRntiType0ACommonPdschTimeDomainList[timeResource]? with
  | none => .error .noTimeDomainRow
  | some row =>
    let siPrbsTbs := cell.siPrbsTbs msgLen row
    match findEmptyIntervalOfLength (cell.usedCrbsOf res row) siPrbsTbs.nofPrbs (.ofStartAndLen 0 MAX_NOF_PRBS) with
    | .error a => .error (.search a)
    | .ok siCrbs =>
      if siCrbs.length < siPrbsTbs.nofPrbs then .ok (none, res)
      else
        match res.pdcch.allocDlPdcchHelper cell.pdcchRequest with
        | .error a => .error (.pdcch a)
        | .ok (false, pdcch) => .ok (none, { res with pdcch })
        | .ok (true, pdcch) =>
          if MAX_SI_PDUS_PER_SLOT ≤ res.nofSibs then .error .sibsFull
          else
            let grid := pdcch.dlResGrid ∪ grantElements numerology row.symbols siCrbs
            (cell.fillSiGrant version siMessage ctx siCrbs (cell.functions.makeDmrsInfoCommon row) siPrbsTbs.tbsBytes).map
              fun tx => (some tx, ⟨{ pdcch with dlResGrid := grid }, res.nofSibs + 1⟩)

end SiCell

def slotIndex (sl : SlotPoint) : Nat := sl.count % sl.nofSlotsPerFrame

namespace SiSchedulingConfig

variable {numerology : Nat} (cfg : SiSchedulingConfig numerology)

/-- The position of the windows of the `i`-th message, in slots. -/
def windowOffset (i : Nat) (msg : SiMessageSchedulingConfig) : Nat :=
  match msg.siWindowPosition with
  | some position => (position - 1) * cfg.siWindowLenSlots
  | none => i * cfg.siWindowLenSlots

/-- The test of `update_si_message_windows` for the start of a window. -/
def isWindowStart (i : Nat) (msg : SiMessageSchedulingConfig) (sl : SlotPoint) : Bool :=
  let x := cfg.windowOffset i msg
  decide (slotIndex sl = x % sl.nofSlotsPerFrame) &&
    decide (sl.sfn % msg.periodRadioFrames = x / sl.nofSlotsPerFrame)

/-- A turn of the loop of `update_si_message_windows`. -/
def updateWindow (sl : SlotPoint) (i : Nat) (msg : SiMessageSchedulingConfig) (ctx : MessageWindowContext) :
    MessageWindowContext :=
  match ctx.window with
  | some window =>
    if window.stop = sl ∨ window.stop.lt sl = true then { ctx with window := none, nofTxInCurrentWindow := 0 } else ctx
  | none =>
    if cfg.isWindowStart i msg sl then
      { ctx with window := some ⟨sl, sl.add cfg.siWindowLenSlots⟩, nofTxInCurrentWindow := 0 }
    else ctx

end SiSchedulingConfig

/-- The turn of a message in a slot: its context and the resources before, and what was transmitted. -/
structure SiTurn (Dmrs : Type) where
  context : MessageWindowContext
  resources : SiSlot
  transmitted : Option (SiTransmission Dmrs)

namespace SiTurn

def contextAfter {Dmrs : Type} (turn : SiTurn Dmrs) : MessageWindowContext :=
  match turn.transmitted with
  | some _ => { turn.context with
      nofTxInCurrentWindow := turn.context.nofTxInCurrentWindow + 1, totalNofTx := turn.context.totalNofTx + 1 }
  | none => turn.context

end SiTurn

structure SiMessageScheduler (numerology : Nat) where
  version : Nat
  siSchedCfg : Option (SiSchedulingConfig numerology)
  pendingMessages : List MessageWindowContext

namespace SiMessageScheduler

variable {Mcs Dmrs : Type} {numerology : Nat} (cell : SiCell Mcs Dmrs numerology) (s : SiMessageScheduler numerology)

/-- The constructor, and `handle_si_message_update_indication`. -/
def updated (newVersion : Nat) (newSiSchedCfg : Option (SiSchedulingConfig numerology)) :
    SiMessageScheduler numerology :=
  ⟨newVersion, newSiSchedCfg, newSiSchedCfg.elim [] fun cfg => cfg.siMessages.map fun _ => .init⟩

def messages (cfg : SiSchedulingConfig numerology) : List (SiMessageSchedulingConfig × MessageWindowContext) :=
  cfg.siMessages.zip s.pendingMessages

def updateSiMessageWindows (cfg : SiSchedulingConfig numerology) (sl : SlotPoint) :
    List (SiMessageSchedulingConfig × MessageWindowContext) :=
  (s.messages cfg).mapIdx fun i m => (m.1, cfg.updateWindow sl i m.1 m.2)

/-- A turn of the loop of `schedule_pending_si_messages`. -/
def scheduleMessage (version : Nat) (sl : SlotPoint) (i : Nat) (msg : SiMessageSchedulingConfig)
    (ctx : MessageWindowContext) (res : SiSlot) : Except SiAbort (Option (SiTransmission Dmrs) × SiSlot) :=
  if ctx.window = none ∨ 0 < ctx.nofTxInCurrentWindow then .ok (none, res)
  else if isPdcchMonitoringActive sl cell.monitoring = false then .ok (none, res)
  else cell.allocateSiMessage version i msg.msgLen ctx res

/-- The loop over the messages from the `i`-th on, with a record of each turn. -/
def scheduleLoop (version : Nat) (sl : SlotPoint) :
    Nat → List (SiMessageSchedulingConfig × MessageWindowContext) → SiSlot → Except SiAbort (List (SiTurn Dmrs) × SiSlot)
  | _, [], res => .ok ([], res)
  | i, (msg, ctx) :: rest, res => do
    let out ← scheduleMessage cell version sl i msg ctx res
    let more ← scheduleLoop version sl (i + 1) rest out.2
    pure (⟨ctx, res, out.1⟩ :: more.1, more.2)

/-- `run_slot`, with the turns of the slot. -/
def runSlot (sl : SlotPoint) (res : SiSlot) :
    Except SiAbort (List (SiTurn Dmrs) × SiMessageScheduler numerology × SiSlot) :=
  match s.siSchedCfg with
  | none => .ok ([], s, res)
  | some cfg => do
    let out ← scheduleLoop cell s.version sl 0 (s.updateSiMessageWindows cfg sl) res
    pure (out.1, { s with pendingMessages := out.1.map SiTurn.contextAfter }, out.2)

end SiMessageScheduler

inductive SiEvent (numerology : Nat) where
  | update (version : Nat) (siSchedCfg : Option (SiSchedulingConfig numerology))
  | runSlot (resources : SiSlot)

/-- The scheduler in a run over consecutive slots: the slot to come, the first slot since the last update, and the turns of
each slot since then. -/
structure SiRun (Dmrs : Type) (numerology : Nat) where
  scheduler : SiMessageScheduler numerology
  first : SlotPoint
  slots : List (List (SiTurn Dmrs))
  first_numerology : first.numerology = numerology

namespace SiRun

variable {Mcs Dmrs : Type} {numerology : Nat} (cell : SiCell Mcs Dmrs numerology)

def start (count : Nat) (siSchedCfg : Option (SiSchedulingConfig numerology)) : SiRun Dmrs numerology :=
  ⟨.updated 0 siSchedCfg, ⟨numerology, count⟩, [], rfl⟩

variable (r : SiRun Dmrs numerology)

def slot : SlotPoint := r.first.add r.slots.length

def step : SiEvent numerology → Except SiAbort (SiRun Dmrs numerology)
  | .update version siSchedCfg => .ok ⟨.updated version siSchedCfg, r.slot, [], r.first_numerology⟩
  | .runSlot resources => do
    let out ← r.scheduler.runSlot cell r.slot resources
    pure ⟨out.2.1, r.first, r.slots ++ [out.1], r.first_numerology⟩

end SiRun

end OwlsRan.Sched
