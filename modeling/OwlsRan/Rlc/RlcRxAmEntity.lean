import OwlsRan.Lib.SequenceNumber
import OwlsRan.Rlc.RlcAmPdu
import OwlsRan.Rlc.RlcAmStatusPdu
import OwlsRan.Rlc.SduWindow

/-!
# The receiving side of RLC AM

`rlc_rx_am_entity`. What it passes to the upper layer and to the transmitting side is returned.
-/

namespace OwlsRan.Rlc
open OwlsRan.Lib OwlsRan.Adt

structure RlcRxAmConfig where
  snFieldLength : RlcAmSnSize
  tReassembly : Nat
  tStatusProhibit : Nat
  maxSnPerStatus : Option Nat
  maxSnPerStatus_valid : ∀ n, maxSnPerStatus = some n → 0 < n ∧ n ≤ snFieldLength.amWindowSize

structure RlcRxAmSduSegment where
  si : RlcSiField
  so : UInt16
  payload : List UInt8
deriving DecidableEq

inductive RlcRxAmSduData where
  | payload (bytes : List UInt8)
  | segments (set : List RlcRxAmSduSegment)
deriving DecidableEq

structure RlcRxAmSduInfo where
  fullyReceived : Bool
  hasGap : Bool
  sduData : RlcRxAmSduData
deriving DecidableEq

structure RlcRxAmState where
  rxNext : Nat
  rxNextStatusTrigger : Nat
  rxHighestStatus : Nat
  rxNextHighest : Nat
deriving DecidableEq

structure RlcRxAmEntity where
  st : RlcRxAmState
  rxWindow : SduWindow RlcRxAmSduInfo
  reassemblyTimerRunning : Bool
  doStatus : Bool
  statusProhibitTimerIsRunning : Bool
  statusOwnedByWriter : RlcAmStatusPdu
  statusForExchange : RlcAmStatusPdu
  statusOwnedByReader : RlcAmStatusPdu

namespace RlcRxAmConfig

variable (cfg : RlcRxAmConfig)

def mod : Nat := cfg.snFieldLength.modulus

def amWindowSize : Nat := cfg.snFieldLength.amWindowSize

def maxNofSnPerStatusReport : Nat := cfg.maxSnPerStatus.getD cfg.amWindowSize

lemma mod_eq : cfg.mod = 2 * cfg.amWindowSize := by
  unfold mod amWindowSize
  cases cfg.snFieldLength <;> rfl

lemma amWindowSize_pos : 0 < cfg.amWindowSize := by
  unfold amWindowSize
  cases cfg.snFieldLength <;> decide

end RlcRxAmConfig

namespace RlcRxAmSduInfo

def default : RlcRxAmSduInfo := ⟨false, false, .payload []⟩

end RlcRxAmSduInfo

/-- `std::set::insert`: nothing happens if there is a segment with the same offset. -/
def insertSegment (segment : RlcRxAmSduSegment) : List RlcRxAmSduSegment → List RlcRxAmSduSegment
  | [] => [segment]
  | cur :: rest =>
    if segment.so < cur.so then segment :: cur :: rest
    else if cur.so < segment.so then cur :: insertSegment segment rest
    else cur :: rest

/-- The loop of `store_segment` over the segments that are left. `visited` are the segments before them. The result is
the set without the bytes of the new segment, and what is left of the new segment, or none if it has no new bytes. -/
def trimSegment (visited : List RlcRxAmSduSegment) (new : RlcRxAmSduSegment) :
    List RlcRxAmSduSegment → Option (List RlcRxAmSduSegment × RlcRxAmSduSegment)
  | [] => some (visited, new)
  | cur :: rest =>
    let curLastByte := cur.so.toNat + cur.payload.length - 1
    let newLastByte := new.so.toNat + new.payload.length - 1
    if new.so.toNat > curLastByte then trimSegment (visited ++ [cur]) new rest
    else if new.so ≥ cur.so then
      if newLastByte ≤ curLastByte then none
      else
        trimSegment (visited ++ [cur])
          { new with payload := new.payload.drop (curLastByte + 1 - new.so.toNat), so := .ofNat (curLastByte + 1) } rest
    else if newLastByte < cur.so.toNat then some (visited ++ cur :: rest, new)
    else if newLastByte < curLastByte then
      -- the current segment loses its first bytes and is inserted again
      let cut := { cur with
        payload := cur.payload.drop (newLastByte + 1 - cur.so.toNat), so := .ofNat (newLastByte + 1) }
      some (insertSegment cut (visited ++ rest), new)
    else trimSegment visited new rest

def segmentSet : RlcRxAmSduData → List RlcRxAmSduSegment
  | .segments set => set
  | .payload _ => []

def storeSegment (sduInfo : RlcRxAmSduInfo) (new : RlcRxAmSduSegment) : Bool × RlcRxAmSduInfo :=
  let set := segmentSet sduInfo.sduData
  match trimSegment [] new set with
  | none => (false, { sduInfo with sduData := .segments set })
  | some (set, new) => (true, { sduInfo with sduData := .segments (insertSegment new set) })

def segmentInventory (nextByte : Nat) : List RlcRxAmSduSegment → Bool × Bool
  | [] => (false, false)
  | segm :: rest =>
    if segm.so.toNat ≠ nextByte then (true, false)
    else if segm.si = .lastSegment then (false, true)
    else segmentInventory (nextByte + segm.payload.length) rest

def updateSegmentInventory (rxSdu : RlcRxAmSduInfo) : Except RlcAbort RlcRxAmSduInfo :=
  match rxSdu.sduData with
  | .payload _ => .error .sduData
  | .segments set =>
    let (hasGap, fullyReceived) := segmentInventory 0 set
    .ok { rxSdu with hasGap := hasGap, fullyReceived := fullyReceived }

def reassembleSdu (sduInfo : RlcRxAmSduInfo) : List UInt8 :=
  match sduInfo.sduData with
  | .payload bytes => bytes
  | .segments set => set.flatMap RlcRxAmSduSegment.payload

/-- The NACKs for the bytes that are missing of an SDU, from `lastSo` on. -/
def nackSegments (sn : Nat) (pdu : RlcAmStatusPdu) (lastSo : Nat) (haveLastSegment : Bool) :
    List RlcRxAmSduSegment → Except RlcAbort RlcAmStatusPdu
  | [] =>
    if haveLastSegment then .ok pdu
    else .ok (pdu.pushNack { RlcAmStatusNack.ofSn sn with hasSo := true, soStart := .ofNat lastSo })
  | segm :: rest => do
    let nack : RlcAmStatusNack :=
      { RlcAmStatusNack.ofSn sn with hasSo := true, soStart := .ofNat lastSo, soEnd := segm.so - 1 }
    let missing : Bool := segm.so.toNat ≠ lastSo
    if missing && nack.soStart > nack.soEnd then .error .segmentOffsets
    else
      nackSegments sn (if missing then pdu.pushNack nack else pdu) (segm.so.toNat + segm.payload.length)
        (haveLastSegment || segm.si = .lastSegment) rest

namespace RlcRxAmEntity

def init (cfg : RlcRxAmConfig) : RlcRxAmEntity where
  st := ⟨0, 0, 0, 0⟩
  rxWindow := .new cfg.amWindowSize cfg.amWindowSize_pos
  reassemblyTimerRunning := false
  doStatus := false
  statusProhibitTimerIsRunning := false
  statusOwnedByWriter := .new cfg.snFieldLength
  statusForExchange := { RlcAmStatusPdu.new cfg.snFieldLength with ackSn := 0 }
  statusOwnedByReader := .new cfg.snFieldLength

section Window

variable (cfg : RlcRxAmConfig) (s : RlcRxAmEntity)

def rxModBase (sn : Nat) : Nat := modBase cfg.mod s.st.rxNext sn

def insideRxWindow (sn : Nat) : Bool := s.rxModBase cfg sn < cfg.amWindowSize

def validAckSn (sn : Nat) : Bool := 0 < s.rxModBase cfg sn && s.rxModBase cfg sn ≤ cfg.amWindowSize

end Window

def ensureSn (w : SduWindow RlcRxAmSduInfo) (sn : Nat) : Except RlcAbort (SduWindow RlcRxAmSduInfo) :=
  if SduWindow.hasSn w sn then .ok w else SduWindow.addSn w sn .default

def handleFullDataSdu (w : SduWindow RlcRxAmSduInfo) (header : RlcAmPduHeader) (payload : List UInt8) :
    Except RlcAbort (SduWindow RlcRxAmSduInfo × Bool) := do
  let w ← ensureSn w header.sn
  let w ← SduWindow.modifySn w header.sn fun _ => ⟨true, false, .payload payload⟩
  .ok (w, true)

def handleSegmentDataSdu (w : SduWindow RlcRxAmSduInfo) (header : RlcAmPduHeader) (payload : List UInt8) :
    Except RlcAbort (SduWindow RlcRxAmSduInfo × Bool) := do
  let w ← ensureSn w header.sn
  let rxSdu ← SduWindow.atSn w header.sn
  let (stored, rxSdu) := storeSegment rxSdu ⟨header.si, header.so, payload⟩
  let rxSdu ← updateSegmentInventory rxSdu
  let w ← SduWindow.modifySn w header.sn fun _ => rxSdu
  .ok (w, stored)

def placePdu (w : SduWindow RlcRxAmSduInfo) (header : RlcAmPduHeader) (payload : List UInt8) :
    Except RlcAbort (SduWindow RlcRxAmSduInfo × Bool) :=
  if header.si = .fullSdu then handleFullDataSdu w header payload else handleSegmentDataSdu w header payload

def fullyReceivedSn (s : RlcRxAmEntity) (sn : Nat) : Bool :=
  match s.rxWindow.find? sn with
  | some info => info.fullyReceived
  | none => false

/-- The loop that looks for the first SDU that is not fully received, up to `rx_next_highest`. -/
def firstNotReceived (cfg : RlcRxAmConfig) (s : RlcRxAmEntity) : Nat → Nat → Except RlcAbort Nat
  | 0, _ => .error .endlessLoop
  | fuel + 1, snUpd =>
    if s.rxModBase cfg snUpd < s.rxModBase cfg s.st.rxNextHighest then
      if s.fullyReceivedSn snUpd then firstNotReceived cfg s fuel ((snUpd + 1) % cfg.mod) else .ok snUpd
    else .ok snUpd

/-- The loop that moves `rx_next` forward: it removes what is fully received from the window. -/
def releaseReceived (cfg : RlcRxAmConfig) : Nat → RlcRxAmEntity → Nat → Except RlcAbort (RlcRxAmEntity × Nat)
  | 0, _, _ => .error .endlessLoop
  | fuel + 1, s, snUpd =>
    if s.rxModBase cfg snUpd < s.rxModBase cfg s.st.rxNextHighest then
      if s.fullyReceivedSn snUpd then do
        let w ← SduWindow.removeSn s.rxWindow snUpd
        releaseReceived cfg fuel { s with rxWindow := w } ((snUpd + 1) % cfg.mod)
      else .ok (s, snUpd)
    else .ok (s, snUpd)

def updateRxNextHighest (cfg : RlcRxAmConfig) (s : RlcRxAmEntity) (sn : Nat) : RlcRxAmEntity :=
  if s.rxModBase cfg sn ≥ s.rxModBase cfg s.st.rxNextHighest then
    { s with st := { s.st with rxNextHighest := (sn + 1) % cfg.mod } }
  else s

def updateRxHighestStatus (cfg : RlcRxAmConfig) (s : RlcRxAmEntity) (sn : Nat) : Except RlcAbort RlcRxAmEntity :=
  if s.rxModBase cfg sn = s.rxModBase cfg s.st.rxHighestStatus then do
    let snUpd ← s.firstNotReceived cfg cfg.mod ((s.st.rxHighestStatus + 1) % cfg.mod)
    .ok { s with st := { s.st with rxHighestStatus := snUpd } }
  else .ok s

def updateRxNext (cfg : RlcRxAmConfig) (s : RlcRxAmEntity) (sn : Nat) : Except RlcAbort RlcRxAmEntity :=
  if s.rxModBase cfg sn = s.rxModBase cfg s.st.rxNext then do
    let (s, snUpd) ← releaseReceived cfg cfg.mod s (s.st.rxNext % cfg.mod)
    .ok { s with st := { s.st with rxNext := snUpd } }
  else .ok s

def deliverSdu (cfg : RlcRxAmConfig) (s : RlcRxAmEntity) (sn : Nat) :
    Except RlcAbort (RlcRxAmEntity × Option (List UInt8)) :=
  if s.fullyReceivedSn sn then do
    let sduInfo ← SduWindow.atSn s.rxWindow sn
    let w ← SduWindow.modifySn s.rxWindow sn fun info => { info with sduData := .payload [] }
    let s ← updateRxHighestStatus cfg { s with rxWindow := w } sn
    let s ← updateRxNext cfg s sn
    .ok (s, some (reassembleSdu sduInfo))
  else .ok (s, none)

def runReassemblyTimer (cfg : RlcRxAmConfig) (s : RlcRxAmEntity) : Except RlcAbort RlcRxAmEntity :=
  if cfg.tReassembly = 0 then .error .timerUnset
  else
    .ok { s with reassemblyTimerRunning := true, st := { s.st with rxNextStatusTrigger := s.st.rxNextHighest } }

def stopsReassemblyTimer (cfg : RlcRxAmConfig) (s : RlcRxAmEntity) : Except RlcAbort Bool := do
  let atRxNext : Bool := s.st.rxNextStatusTrigger = s.st.rxNext
  let noGap ←
    if s.rxModBase cfg s.st.rxNextStatusTrigger = s.rxModBase cfg (s.st.rxNext + 1) then do
      let info ← SduWindow.atSn s.rxWindow s.st.rxNext
      .ok (!info.hasGap)
    else .ok false
  .ok (atRxNext || noGap || !s.insideRxWindow cfg s.st.rxNextStatusTrigger)

def hasGapAt (s : RlcRxAmEntity) (sn : Nat) : Bool :=
  match s.rxWindow.find? sn with
  | some info => info.hasGap
  | none => false

/-- The condition under which t-Reassembly starts, for the SN that the missing bytes are counted from. -/
def startsReassemblyTimer (cfg : RlcRxAmConfig) (s : RlcRxAmEntity) (sn : Nat) : Bool :=
  s.rxModBase cfg s.st.rxNextHighest > s.rxModBase cfg (sn + 1) ||
    (s.rxModBase cfg s.st.rxNextHighest = s.rxModBase cfg (sn + 1) && s.hasGapAt sn)

/-- Starts t-Reassembly if it is not running and the condition holds for `rx_next`. -/
def restartReassemblyTimer (cfg : RlcRxAmConfig) (s : RlcRxAmEntity) : Except RlcAbort RlcRxAmEntity :=
  if !s.reassemblyTimerRunning && s.startsReassemblyTimer cfg s.st.rxNext then s.runReassemblyTimer cfg else .ok s

def updateReassemblyTimer (cfg : RlcRxAmConfig) (s : RlcRxAmEntity) : Except RlcAbort RlcRxAmEntity :=
  if s.reassemblyTimerRunning then do
    let stop ← s.stopsReassemblyTimer cfg
    restartReassemblyTimer cfg { s with reassemblyTimerRunning := !stop }
  else restartReassemblyTimer cfg s

def reportSn (s : RlcRxAmEntity) (pdu : RlcAmStatusPdu) (sn : Nat) : Except RlcAbort RlcAmStatusPdu :=
  match s.rxWindow.find? sn with
  | none => .ok (pdu.pushNack (.ofSn sn))
  | some info =>
    if info.fullyReceived then .ok pdu
    else
      match info.sduData with
      | .payload _ => .error .sduData
      | .segments set => nackSegments sn pdu 0 false set

/-- The loop of `refresh_status_report`. -/
def reportSns (cfg : RlcRxAmConfig) (s : RlcRxAmEntity) (stopSn : Nat) :
    Nat → RlcAmStatusPdu → Nat → Except RlcAbort RlcAmStatusPdu
  | 0, _, _ => .error .endlessLoop
  | fuel + 1, pdu, i =>
    if s.rxModBase cfg i < s.rxModBase cfg stopSn then do
      let pdu ← s.reportSn pdu i
      reportSns cfg s stopSn fuel pdu ((i + 1) % cfg.mod)
    else .ok pdu

def statusStopSn (cfg : RlcRxAmConfig) (s : RlcRxAmEntity) : Nat :=
  let limit := (s.st.rxNext + cfg.maxNofSnPerStatusReport) % cfg.mod
  if s.rxModBase cfg s.st.rxHighestStatus > s.rxModBase cfg limit then limit else s.st.rxHighestStatus

def refreshStatusReport (cfg : RlcRxAmConfig) (s : RlcRxAmEntity) : Except RlcAbort RlcRxAmEntity := do
  let stopSn := s.statusStopSn cfg
  let pdu ← s.reportSns cfg stopSn cfg.mod s.statusOwnedByWriter.reset s.st.rxNext
  .ok { s with statusOwnedByWriter := s.statusForExchange, statusForExchange := { pdu with ackSn := stopSn } }

/-- What happens to a data PDU with a payload, up to the exit of `handle_data_pdu`: the SDU that is passed up and whether
the status has changed. -/
def receivePdu (cfg : RlcRxAmConfig) (s : RlcRxAmEntity) (header : RlcAmPduHeader) (payload : List UInt8) :
    Except RlcAbort (RlcRxAmEntity × Option (List UInt8) × Bool) :=
  if !s.insideRxWindow cfg header.sn then .ok (s, none, false)
  else if s.fullyReceivedSn header.sn then .ok (s, none, false)
  else do
    let (w, statusChanged) ← placePdu s.rxWindow header payload
    let s := updateRxNextHighest cfg { s with rxWindow := w } header.sn
    let (s, sdu) ← deliverSdu cfg s header.sn
    let s ← updateReassemblyTimer cfg s
    .ok (s, sdu, statusChanged)

def handleDataPdu (cfg : RlcRxAmConfig) (s : RlcRxAmEntity) (buf : List UInt8) :
    Except RlcAbort (RlcRxAmEntity × Option (List UInt8)) :=
  match rlcAmReadDataPduHeader buf cfg.snFieldLength with
  | .error _ => .ok (s, none)
  | .ok header =>
    if buf.length ≤ header.getPackedSize then .ok (s, none)
    else do
      let (s, sdu, statusChanged) ← receivePdu cfg s header (buf.drop header.getPackedSize)
      let s ← if statusChanged || header.p then s.refreshStatusReport cfg else .ok s
      .ok ({ s with doStatus := s.doStatus || header.p }, sdu)

/-- What `handle_pdu` passes on: an SDU to the upper layer or a STATUS PDU to the transmitting side. -/
inductive RxOutput where
  | nothing
  | sdu (bytes : List UInt8)
  | statusPdu (pdu : RlcAmStatusPdu)

def handlePdu (cfg : RlcRxAmConfig) (s : RlcRxAmEntity) (buf : List UInt8) :
    Except RlcAbort (RlcRxAmEntity × RxOutput) :=
  match RlcAmStatusPdu.isControlPdu buf with
  | .error _ => .ok (s, .nothing)
  | .ok true =>
    match (RlcAmStatusPdu.new cfg.snFieldLength).unpack buf with
    | .ok pdu => .ok (s, .statusPdu pdu)
    | .error _ => .ok (s, .nothing)
  | .ok false => do
    let (s, sdu) ← handleDataPdu cfg s buf
    .ok (s, sdu.elim .nothing .sdu)

def onExpiredReassemblyTimer (cfg : RlcRxAmConfig) (s : RlcRxAmEntity) : Except RlcAbort RlcRxAmEntity :=
  if s.reassemblyTimerRunning then .ok s
  else if !s.validAckSn cfg s.st.rxNextStatusTrigger then .ok s
  else do
    let snUpd ← s.firstNotReceived cfg cfg.mod s.st.rxNextStatusTrigger
    if !s.validAckSn cfg snUpd then .error .stateVariable
    else do
      let s := { s with st := { s.st with rxHighestStatus := snUpd } }
      let s ← if s.startsReassemblyTimer cfg snUpd then s.runReassemblyTimer cfg else .ok s
      let s ← s.refreshStatusReport cfg
      .ok { s with doStatus := true }

def reassemblyTimerExpires (cfg : RlcRxAmConfig) (s : RlcRxAmEntity) : Except RlcAbort RlcRxAmEntity :=
  if s.reassemblyTimerRunning then onExpiredReassemblyTimer cfg { s with reassemblyTimerRunning := false } else .ok s

def getStatusPdu (cfg : RlcRxAmConfig) (s : RlcRxAmEntity) : RlcAmStatusPdu × RlcRxAmEntity :=
  (s.statusForExchange,
    { s with
      doStatus := false
      statusProhibitTimerIsRunning := s.statusProhibitTimerIsRunning || decide (0 < cfg.tStatusProhibit)
      statusForExchange := s.statusOwnedByReader
      statusOwnedByReader := s.statusForExchange })

def onExpiredStatusProhibitTimer (s : RlcRxAmEntity) : RlcRxAmEntity :=
  { s with statusProhibitTimerIsRunning := false }

end RlcRxAmEntity

end OwlsRan.Rlc
