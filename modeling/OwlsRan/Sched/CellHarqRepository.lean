import Mathlib.Logic.Function.Basic
import OwlsRan.Lib.EventRun
import OwlsRan.Sched.ResourceGridUtil

/-!
# The HARQ repository of a cell

One model serves the DL and the UL instance of `cell_harq_repository`: the base fields are shared and the DL
fields stay at their defaults in the UL instance. NTN HARQ mode B, with its allocation history, is off.
-/

namespace OwlsRan.Sched
open OwlsRan.Lib OwlsRan.Ran

inductive HarqState where
  | empty
  | pendingRetx
  | waitingAck
deriving DecidableEq

inductive MacHarqAckReportStatus where
  | nack
  | ack
  | dtx
deriving DecidableEq

/-- A reference to a process: `ues[ueIdx].harqs[hId]`. -/
structure HarqRef where
  ueIdx : Nat
  hId : Nat
deriving DecidableEq

/-- `base_harq_process` and the fields that `dl_harq_process_impl` adds. -/
structure HarqProcess (Snr : Type) where
  ueIdx : Nat
  rnti : Nat
  hId : Nat
  status : HarqState
  slotTx : SlotPoint
  slotAck : SlotPoint
  slotTimeout : SlotPoint
  ndi : Bool
  nofRetxs : Nat
  maxNofHarqRetxs : Nat
  ackOnTimeout : Bool
  retxsCancelled : Bool
  harqBitIdx : Nat
  pucchAckToReceive : Nat
  chosenAck : MacHarqAckReportStatus
  lastPucchSnr : Option Snr

def HarqProcess.init (Snr : Type) : HarqProcess Snr where
  ueIdx := 0
  rnti := 0
  hId := 0
  status := .empty
  slotTx := .invalid
  slotAck := .invalid
  slotTimeout := .invalid
  ndi := false
  nofRetxs := 0
  maxNofHarqRetxs := 0
  ackOnTimeout := false
  retxsCancelled := false
  harqBitIdx := 0
  pucchAckToReceive := 0
  chosenAck := .dtx
  lastPucchSnr := none

def HarqProcess.newTx {Snr : Type} (p : HarqProcess Snr) (slTx slAck : SlotPoint) (maxNofHarqRetxs : Nat) :
    HarqProcess Snr :=
  { p with
    status := .waitingAck, slotTx := slTx, slotAck := slAck, nofRetxs := 0, ndi := !p.ndi,
    maxNofHarqRetxs := maxNofHarqRetxs, ackOnTimeout := false, retxsCancelled := false }

def HarqProcess.newRetx {Snr : Type} (p : HarqProcess Snr) (slTx slAck : SlotPoint) : HarqProcess Snr :=
  { p with
    slotTimeout := .invalid, status := .waitingAck, slotTx := slTx, slotAck := slAck,
    ackOnTimeout := false, nofRetxs := p.nofRetxs + 1 }

/-- `ue_harq_entity_impl`. `freeHarqIds` is a stack, written from its back. -/
structure UeHarqEntity (Snr : Type) where
  nofHarqs : Nat
  harqs : Nat → HarqProcess Snr
  freeHarqIds : List Nat
  lastSlotTx : SlotPoint
  lastSlotAck : SlotPoint

def UeHarqEntity.init (Snr : Type) : UeHarqEntity Snr :=
  ⟨0, fun _ => HarqProcess.init Snr, [], .invalid, .invalid⟩

structure HarqConfig where
  maxUes : Nat
  maxAckWaitTimeout : Nat
  harqRetxTimeout : Nat
  maxHarqsPerUe : Nat
  ntnCsKoffset : Nat
deriving DecidableEq

def HarqConfig.maxAckWaitInSlots (cfg : HarqConfig) : Nat := cfg.maxAckWaitTimeout + cfg.ntnCsKoffset

def HarqConfig.wheelSize (cfg : HarqConfig) : Nat :=
  getAllocatorRingSizeGtMin (cfg.maxAckWaitTimeout + getMaxSlotUlAllocDelay cfg.ntnCsKoffset) 0

def HarqConfig.wheelIdx (cfg : HarqConfig) (sl : SlotPoint) : Nat := sl.count % cfg.wheelSize

inductive HarqAbort where
  | invalidNofHarqs
  | invalidUeIndex
  | duplicateUeIndex
  | wrongHarqState
  | noSuchHarq
  | notLinked
  | loopNotFinished
deriving DecidableEq

inductive HarqTrace where
  | ackTimeout (h : HarqRef) (slotTimeout slTx : SlotPoint) (ack : Bool)
  | retxTrapped (h : HarqRef)
  | ackDeadline (h : HarqRef) (slotAck deadline : SlotPoint)
deriving DecidableEq

structure CellHarqRepository (Snr : Type) where
  lastSlInd : SlotPoint
  ues : Nat → UeHarqEntity Snr
  harqPendingRetxList : List HarqRef
  harqTimeoutWheel : Nat → List HarqRef
  trace : List HarqTrace

namespace CellHarqRepository

variable {Snr : Type}

def init (Snr : Type) : CellHarqRepository Snr :=
  ⟨.invalid, fun _ => UeHarqEntity.init Snr, [], fun _ => [], []⟩

def harq (s : CellHarqRepository Snr) (h : HarqRef) : HarqProcess Snr := (s.ues h.ueIdx).harqs h.hId

def hasHarq (s : CellHarqRepository Snr) (h : HarqRef) : Prop := h.hId < (s.ues h.ueIdx).nofHarqs

instance (s : CellHarqRepository Snr) (h : HarqRef) : Decidable (s.hasHarq h) :=
  inferInstanceAs (Decidable (_ < _))

def modifyUe (s : CellHarqRepository Snr) (u : Nat) (f : UeHarqEntity Snr → UeHarqEntity Snr) :
    CellHarqRepository Snr :=
  { s with ues := Function.update s.ues u (f (s.ues u)) }

def modifyHarq (s : CellHarqRepository Snr) (h : HarqRef) (f : HarqProcess Snr → HarqProcess Snr) :
    CellHarqRepository Snr :=
  s.modifyUe h.ueIdx fun ue => { ue with harqs := Function.update ue.harqs h.hId (f (ue.harqs h.hId)) }

def record (s : CellHarqRepository Snr) (t : HarqTrace) : CellHarqRepository Snr :=
  { s with trace := s.trace ++ [t] }

def setWheelEntry (s : CellHarqRepository Snr) (b : Nat) (l : List HarqRef) : CellHarqRepository Snr :=
  { s with harqTimeoutWheel := Function.update s.harqTimeoutWheel b l }

/-- `pop` of an intrusive list. The node must be linked in that very list. -/
def popLinked (l : List HarqRef) (h : HarqRef) : Except HarqAbort (List HarqRef) :=
  if h ∈ l then .ok (l.erase h) else .error .notLinked

/-- `harq_timeout_wheel[h.slot_timeout.to_uint() % size].pop(&h)` -/
def popTimeout (cfg : HarqConfig) (s : CellHarqRepository Snr) (h : HarqRef) :
    Except HarqAbort (CellHarqRepository Snr) :=
  let b := cfg.wheelIdx (s.harq h).slotTimeout
  (popLinked (s.harqTimeoutWheel b) h).map (s.setWheelEntry b)

/-- Sets `h.slot_timeout` and links `h` at the front of the respective wheel entry. -/
def pushTimeout (cfg : HarqConfig) (s : CellHarqRepository Snr) (h : HarqRef) (deadline : SlotPoint) :
    CellHarqRepository Snr :=
  let b := cfg.wheelIdx deadline
  (s.modifyHarq h fun p => { p with slotTimeout := deadline }).setWheelEntry b (h :: s.harqTimeoutWheel b)

def popPendingRetx (s : CellHarqRepository Snr) (h : HarqRef) : Except HarqAbort (CellHarqRepository Snr) :=
  (popLinked s.harqPendingRetxList h).map fun l => { s with harqPendingRetxList := l }

def pushPendingRetx (s : CellHarqRepository Snr) (h : HarqRef) : CellHarqRepository Snr :=
  { s with harqPendingRetxList := s.harqPendingRetxList ++ [h] }

def latestSlot (last sl : SlotPoint) : SlotPoint := if last.valid then last.max sl else sl

def updateLastSlots (s : CellHarqRepository Snr) (u : Nat) (slTx slAck : SlotPoint) : CellHarqRepository Snr :=
  s.modifyUe u fun ue =>
    { ue with lastSlotTx := latestSlot ue.lastSlotTx slTx, lastSlotAck := latestSlot ue.lastSlotAck slAck }

def forgetSlot (last sl : SlotPoint) : SlotPoint := if last.valid ∧ sl.ge last then .invalid else last

/-- The part of `alloc_harq` that follows the choice of the process. -/
def startNewTx (cfg : HarqConfig) (s : CellHarqRepository Snr) (h : HarqRef) (freeHarqIds : List Nat)
    (slTx slAck : SlotPoint) (maxNofHarqRetxs : Nat) : CellHarqRepository Snr :=
  let deadline := (slAck.add cfg.maxAckWaitInSlots).sub cfg.ntnCsKoffset
  let s := s.modifyUe h.ueIdx fun ue => { ue with freeHarqIds := freeHarqIds }
  let s := s.modifyHarq h fun p => p.newTx slTx slAck maxNofHarqRetxs
  let s := s.updateLastSlots h.ueIdx slTx slAck
  (s.pushTimeout cfg h deadline).record (.ackDeadline h slAck deadline)

def allocHarq (cfg : HarqConfig) (s : CellHarqRepository Snr) (ueIdx : Nat) (slTx slAck : SlotPoint)
    (maxNofHarqRetxs : Nat) : Except HarqAbort (CellHarqRepository Snr × Option HarqRef) :=
  match (s.ues ueIdx).freeHarqIds with
  | [] => .ok (s, none)
  | hId :: rest =>
    let h : HarqRef := ⟨ueIdx, hId⟩
    if (s.harq h).ueIdx = ueIdx ∧ (s.harq h).hId = hId then
      .ok (s.startNewTx cfg h rest slTx slAck maxNofHarqRetxs, some h)
    else .error .wrongHarqState

/-- The part of `dealloc_harq` that follows the unlinking of the process. -/
def releaseHarq (s : CellHarqRepository Snr) (h : HarqRef) : CellHarqRepository Snr :=
  let s := s.modifyHarq h fun p => { p with slotTimeout := .invalid, status := .empty }
  let p := s.harq h
  s.modifyUe p.ueIdx fun ue =>
    { ue with
      lastSlotTx := forgetSlot ue.lastSlotTx p.slotTx
      lastSlotAck := forgetSlot ue.lastSlotAck p.slotAck
      freeHarqIds := p.hId :: ue.freeHarqIds }

def deallocHarq (cfg : HarqConfig) (s : CellHarqRepository Snr) (h : HarqRef) :
    Except HarqAbort (CellHarqRepository Snr) :=
  match (s.harq h).status with
  | .empty => .ok s
  | .pendingRetx => do
    let s ← s.popPendingRetx h
    let s ← s.popTimeout cfg h
    return s.releaseHarq h
  | .waitingAck => do
    let s ← s.popTimeout cfg h
    return s.releaseHarq h

def setPendingRetx (cfg : HarqConfig) (s : CellHarqRepository Snr) (h : HarqRef) :
    Except HarqAbort (CellHarqRepository Snr) :=
  match (s.harq h).status with
  | .empty => .error .wrongHarqState
  | .pendingRetx => .ok s
  | .waitingAck => do
    let s ← s.popTimeout cfg h
    let s := s.pushTimeout cfg h (s.lastSlInd.add cfg.harqRetxTimeout)
    let s := s.pushPendingRetx h
    return s.modifyHarq h fun p => { p with status := .pendingRetx }

def handleAck (cfg : HarqConfig) (s : CellHarqRepository Snr) (h : HarqRef) (ack : Bool) :
    Except HarqAbort (CellHarqRepository Snr) :=
  if ack ∨ (s.harq h).maxNofHarqRetxs ≤ (s.harq h).nofRetxs then s.deallocHarq cfg h
  else s.setPendingRetx cfg h

/-- The part of `handle_new_retx` that follows the unlinking of the process. Unlike in `alloc_harq`, the NTN
offset stays in the deadline. -/
def startRetx (cfg : HarqConfig) (s : CellHarqRepository Snr) (h : HarqRef) (slTx slAck : SlotPoint) :
    CellHarqRepository Snr :=
  let deadline := slAck.add cfg.maxAckWaitInSlots
  let s := s.modifyHarq h fun p => p.newRetx slTx slAck
  let s := s.updateLastSlots (s.harq h).ueIdx slTx slAck
  (s.pushTimeout cfg h deadline).record (.ackDeadline h slAck deadline)

def handleNewRetx (cfg : HarqConfig) (s : CellHarqRepository Snr) (h : HarqRef) (slTx slAck : SlotPoint) :
    Except HarqAbort (CellHarqRepository Snr × Bool) :=
  if (s.harq h).status = .pendingRetx then do
    let s ← s.popPendingRetx h
    let s ← s.popTimeout cfg h
    return (s.startRetx cfg h slTx slAck, true)
  else .ok (s, false)

/-- `cell_harq_manager::add_ue`, which checks its arguments, and then `reserve_ue_harqs`. -/
def reserveUeHarqs (cfg : HarqConfig) (s : CellHarqRepository Snr) (ueIdx rnti nofHarqs : Nat) :
    Except HarqAbort (CellHarqRepository Snr) :=
  if nofHarqs = 0 ∨ cfg.maxHarqsPerUe < nofHarqs then .error .invalidNofHarqs
  else if cfg.maxUes ≤ ueIdx then .error .invalidUeIndex
  else if (s.ues ueIdx).nofHarqs ≠ 0 then .error .duplicateUeIndex
  else .ok (s.modifyUe ueIdx fun ue =>
    { ue with
      nofHarqs := nofHarqs
      freeHarqIds := List.range nofHarqs
      harqs := fun hId =>
        if hId < nofHarqs then { HarqProcess.init Snr with ueIdx := ueIdx, rnti := rnti, hId := hId }
        else HarqProcess.init Snr })

def ueHarqRefs (s : CellHarqRepository Snr) (u : Nat) : List HarqRef :=
  (List.range (s.ues u).nofHarqs).map (HarqRef.mk u)

def deallocAll (cfg : HarqConfig) (s : CellHarqRepository Snr) (hs : List HarqRef) :
    Except HarqAbort (CellHarqRepository Snr) :=
  hs.foldlM (deallocHarq cfg) s

def destroyUe (cfg : HarqConfig) (s : CellHarqRepository Snr) (ueIdx : Nat) :
    Except HarqAbort (CellHarqRepository Snr) := do
  let s ← s.deallocAll cfg (s.ueHarqRefs ueIdx)
  return s.modifyUe ueIdx fun ue =>
    { ue with nofHarqs := 0, harqs := fun _ => HarqProcess.init Snr, freeHarqIds := [] }

def cancelRetxs (cfg : HarqConfig) (s : CellHarqRepository Snr) (h : HarqRef) :
    Except HarqAbort (CellHarqRepository Snr) :=
  match (s.harq h).status with
  | .empty => .ok s
  | .pendingRetx => s.deallocHarq cfg h
  | .waitingAck => .ok (s.modifyHarq h fun p => { p with maxNofHarqRetxs := p.nofRetxs, retxsCancelled := true })

/-- `stop`: only non-empty processes are deallocated, which `dealloc_harq` checks again. -/
def stop (cfg : HarqConfig) (s : CellHarqRepository Snr) : Except HarqAbort (CellHarqRepository Snr) := do
  let s ← s.deallocAll cfg ((List.range cfg.maxUes).flatMap s.ueHarqRefs)
  return { s with lastSlInd := .invalid }

def handleHarqAckTimeout (cfg : HarqConfig) (s : CellHarqRepository Snr) (h : HarqRef) (slTx : SlotPoint) :
    Except HarqAbort (CellHarqRepository Snr) :=
  if (s.harq h).status = .empty then .error .wrongHarqState
  else do
    let ackVal := (s.harq h).ackOnTimeout
    let deadline := (s.harq h).slotTimeout
    let s ← s.deallocHarq cfg h
    return s.record (.ackTimeout h deadline slTx ackVal)

/-- The loop over the HARQs that time out in this slot; the fuel bounds the length of the wheel entry. -/
def timeoutLoop (cfg : HarqConfig) (slTx : SlotPoint) :
    Nat → CellHarqRepository Snr → Except HarqAbort (CellHarqRepository Snr)
  | fuel, s =>
    match s.harqTimeoutWheel (cfg.wheelIdx slTx), fuel with
    | [], _ => .ok s
    | _ :: _, 0 => .error .loopNotFinished
    | h :: _, fuel + 1 => (s.handleHarqAckTimeout cfg h slTx).bind (timeoutLoop cfg slTx fuel)

def trappedRetxLoop (cfg : HarqConfig) :
    Nat → CellHarqRepository Snr → Except HarqAbort (CellHarqRepository Snr)
  | fuel, s =>
    match s.harqPendingRetxList, fuel with
    | [], _ => .ok s
    | _ :: _, 0 => .error .loopNotFinished
    | h :: _, fuel + 1 =>
      if (s.harq h).status ≠ .pendingRetx then .error .wrongHarqState
      else
        let maxNofSlotsForRetx := s.lastSlInd.nofSlotsPerHyperSystemFrame / 4
        if s.lastSlInd.lt ((s.harq h).slotAck.add maxNofSlotsForRetx) then .ok s
        else (s.deallocHarq cfg h).bind fun s => trappedRetxLoop cfg fuel (s.record (.retxTrapped h))

def slotIndication (cfg : HarqConfig) (s : CellHarqRepository Snr) (slTx : SlotPoint) :
    Except HarqAbort (CellHarqRepository Snr) := do
  let s := { s with lastSlInd := slTx }
  let s ← timeoutLoop cfg slTx (s.harqTimeoutWheel (cfg.wheelIdx slTx)).length s
  trappedRetxLoop cfg s.harqPendingRetxList.length s

end CellHarqRepository

/-- Timeout to use while a further PUCCH is awaited for a HARQ that was already ACKed or NACKed. -/
def SHORT_ACK_TIMEOUT_DTX : Nat := 8

inductive StatusUpdate where
  | acked
  | nacked
  | noUpdate
  | error
deriving DecidableEq

section DlHandle

variable {Snr : Type} [LT Snr] [DecidableLT Snr]

def higherPucchSnr (last snr : Option Snr) : Bool :=
  match last, snr with
  | none, _ => true
  | some l, some n => decide (l < n)
  | some _, none => false

def HarqProcess.chooseAck (p : HarqProcess Snr) (ackStatus : MacHarqAckReportStatus) (pucchSnr : Option Snr) :
    HarqProcess Snr :=
  if ackStatus ≠ .dtx ∧ higherPucchSnr p.lastPucchSnr pucchSnr then
    { p with chosenAck := ackStatus, lastPucchSnr := pucchSnr }
  else p

end DlHandle

namespace CellHarqRepository

variable {Snr : Type}

def resetDlParams (harqBitIdx : Nat) (p : HarqProcess Snr) : HarqProcess Snr :=
  { p with harqBitIdx := harqBitIdx, pucchAckToReceive := 0, chosenAck := .dtx, lastPucchSnr := none }

def newDlTx (cfg : HarqConfig) (s : CellHarqRepository Snr) (ueIdx : Nat) (pdschSlot : SlotPoint)
    (ackDelay maxHarqNofRetxs harqBitIdx : Nat) : Except HarqAbort (CellHarqRepository Snr × Option HarqRef) := do
  match ← s.allocHarq cfg ueIdx pdschSlot (pdschSlot.add ackDelay) maxHarqNofRetxs with
  | (s, none) => return (s, none)
  | (s, some h) => return (s.modifyHarq h (resetDlParams harqBitIdx), some h)

/-- `dl_harq_process_handle::new_retx` -/
def newDlRetx (cfg : HarqConfig) (s : CellHarqRepository Snr) (h : HarqRef) (pdschSlot : SlotPoint)
    (ackDelay harqBitIdx : Nat) : Except HarqAbort (CellHarqRepository Snr × Bool) := do
  match ← s.handleNewRetx cfg h pdschSlot (pdschSlot.add ackDelay) with
  | (s, true) => return (s.modifyHarq h (resetDlParams harqBitIdx), true)
  | (s, false) => return (s, false)

def incrementPucchCounter (s : CellHarqRepository Snr) (h : HarqRef) : CellHarqRepository Snr :=
  s.modifyHarq h fun p => { p with pucchAckToReceive := p.pucchAckToReceive + 1 }

/-- More HARQ-ACKs are expected: the timer is shortened, to be over soon if they do not arrive. -/
def awaitNextAck (cfg : HarqConfig) (s : CellHarqRepository Snr) (h : HarqRef) (finalAck : Bool) :
    Except HarqAbort (CellHarqRepository Snr) := do
  let s := s.modifyHarq h fun p =>
    { p with pucchAckToReceive := p.pucchAckToReceive - 1, ackOnTimeout := finalAck }
  let s ← s.popTimeout cfg h
  return s.pushTimeout cfg h (s.lastSlInd.add SHORT_ACK_TIMEOUT_DTX)

def dlAckInfo [LT Snr] [DecidableLT Snr] (cfg : HarqConfig) (s : CellHarqRepository Snr) (h : HarqRef)
    (ackStatus : MacHarqAckReportStatus) (pucchSnr : Option Snr) :
    Except HarqAbort (CellHarqRepository Snr × StatusUpdate) :=
  if (s.harq h).status = .waitingAck then do
    let s := s.modifyHarq h fun p => p.chooseAck ackStatus pucchSnr
    let finalAck := decide ((s.harq h).chosenAck = .ack)
    if (s.harq h).pucchAckToReceive ≤ 1 then
      let s ← s.handleAck cfg h finalAck
      return (s, if finalAck then .acked else .nacked)
    else
      let s ← s.awaitNextAck cfg h finalAck
      return (s, .noUpdate)
  else .ok (s, .error)

/-- `ul_harq_process_handle::ul_crc_info`, which also reports whether a CRC was expected. -/
def ulCrcInfo (cfg : HarqConfig) (s : CellHarqRepository Snr) (h : HarqRef) (ack : Bool) :
    Except HarqAbort (CellHarqRepository Snr × Bool) :=
  if (s.harq h).status = .waitingAck then do
    let s ← s.handleAck cfg h ack
    return (s, true)
  else .ok (s, false)

end CellHarqRepository

/-- The calls that the repository receives. -/
inductive HarqEvent (Snr : Type) where
  | reserveUeHarqs (ueIdx rnti nofHarqs : Nat)
  | allocHarq (ueIdx : Nat) (slTx slAck : SlotPoint) (maxNofHarqRetxs : Nat)
  | newDlTx (ueIdx : Nat) (pdschSlot : SlotPoint) (ackDelay maxHarqNofRetxs harqBitIdx : Nat)
  | handleAck (h : HarqRef) (ack : Bool)
  | setPendingRetx (h : HarqRef)
  | handleNewRetx (h : HarqRef) (slTx slAck : SlotPoint)
  | newDlRetx (h : HarqRef) (pdschSlot : SlotPoint) (ackDelay harqBitIdx : Nat)
  | cancelRetxs (h : HarqRef)
  | deallocHarq (h : HarqRef)
  | incrementPucchCounter (h : HarqRef)
  | dlAckInfo (h : HarqRef) (ackStatus : MacHarqAckReportStatus) (pucchSnr : Option Snr)
  | ulCrcInfo (h : HarqRef) (ack : Bool)
  | slotIndication (slTx : SlotPoint)
  | destroyUe (ueIdx : Nat)
  | stop

namespace CellHarqRepository

variable {Snr : Type}

def withHarq (s : CellHarqRepository Snr) (h : HarqRef) {β : Type} (op : Except HarqAbort β) :
    Except HarqAbort β :=
  if s.hasHarq h then op else .error .noSuchHarq

def step [LT Snr] [DecidableLT Snr] (cfg : HarqConfig) (s : CellHarqRepository Snr) :
    HarqEvent Snr → Except HarqAbort (CellHarqRepository Snr)
  | .reserveUeHarqs ueIdx rnti nofHarqs => s.reserveUeHarqs cfg ueIdx rnti nofHarqs
  | .allocHarq ueIdx slTx slAck maxRetxs => (s.allocHarq cfg ueIdx slTx slAck maxRetxs).map Prod.fst
  | .newDlTx ueIdx slot ackDelay maxRetxs bitIdx =>
    (s.newDlTx cfg ueIdx slot ackDelay maxRetxs bitIdx).map Prod.fst
  | .handleAck h ack => s.withHarq h (s.handleAck cfg h ack)
  | .setPendingRetx h => s.withHarq h (s.setPendingRetx cfg h)
  | .handleNewRetx h slTx slAck => s.withHarq h ((s.handleNewRetx cfg h slTx slAck).map Prod.fst)
  | .newDlRetx h slot ackDelay bitIdx => s.withHarq h ((s.newDlRetx cfg h slot ackDelay bitIdx).map Prod.fst)
  | .cancelRetxs h => s.withHarq h (s.cancelRetxs cfg h)
  | .deallocHarq h => s.withHarq h (s.deallocHarq cfg h)
  | .incrementPucchCounter h => s.withHarq h (.ok (s.incrementPucchCounter h))
  | .dlAckInfo h ackStatus snr => s.withHarq h ((s.dlAckInfo cfg h ackStatus snr).map Prod.fst)
  | .ulCrcInfo h ack => s.withHarq h ((s.ulCrcInfo cfg h ack).map Prod.fst)
  | .slotIndication slTx => s.slotIndication cfg slTx
  | .destroyUe ueIdx => s.destroyUe cfg ueIdx
  | .stop => s.stop cfg

end CellHarqRepository

end OwlsRan.Sched
