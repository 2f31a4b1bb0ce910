import Mathlib.Data.List.Basic
import OwlsRan.Lib.SequenceNumber
import OwlsRan.Pdcp.PdcpSn
import OwlsRan.Rlc.RlcAmPdu
import OwlsRan.Rlc.RlcAmStatusPdu
import OwlsRan.Rlc.RlcSduQueue
import OwlsRan.Rlc.SduWindow

/-!
# The transmitting side of RLC AM

`rlc_tx_am_entity`. The calls to the upper layers are kept in a list.
-/

/-!
## `rlc_retx_queue`

The queue of retransmissions, with what is counted of it for the buffer state.
-/

namespace OwlsRan.Rlc

/-- `rlc_tx_amd_retx`: a part of an SDU. -/
structure RlcTxAmdRetx where
  sn : Nat
  so : Nat
  length : Nat
deriving DecidableEq

structure RlcRetxQueueState where
  retxBytes : Nat
  nRetxSoZero : Nat
  nRetxSoNonzero : Nat
deriving DecidableEq

namespace RlcRetxQueueState

variable (st : RlcRetxQueueState)

def add (elem : RlcTxAmdRetx) : RlcRetxQueueState :=
  { retxBytes := st.retxBytes + elem.length
    nRetxSoZero := if elem.so = 0 then st.nRetxSoZero + 1 else st.nRetxSoZero
    nRetxSoNonzero := if elem.so = 0 then st.nRetxSoNonzero else st.nRetxSoNonzero + 1 }

def subtract (elem : RlcTxAmdRetx) : RlcRetxQueueState :=
  { retxBytes := st.retxBytes - elem.length
    nRetxSoZero := if elem.so = 0 then st.nRetxSoZero - 1 else st.nRetxSoZero
    nRetxSoNonzero := if elem.so = 0 then st.nRetxSoNonzero else st.nRetxSoNonzero - 1 }

end RlcRetxQueueState

structure RlcRetxQueue where
  capacity : Nat
  queue : List RlcTxAmdRetx
  st : RlcRetxQueueState
deriving DecidableEq

namespace RlcRetxQueue

def new (capacity : Nat) : RlcRetxQueue := ⟨capacity, [], ⟨0, 0, 0⟩⟩

variable (q : RlcRetxQueue)

def empty : Bool := q.queue.isEmpty

def tryPush (retx : RlcTxAmdRetx) : Bool × RlcRetxQueue :=
  if q.queue.length ≥ q.capacity then (false, q)
  else (true, { q with queue := q.queue ++ [retx], st := q.st.add retx })

def front : Option RlcTxAmdRetx := q.queue.head?

def pop : RlcRetxQueue :=
  match q.queue with
  | [] => q
  | elem :: rest => { q with queue := rest, st := q.st.subtract elem }

def replaceFront (retx : RlcTxAmdRetx) : RlcRetxQueue :=
  match q.queue with
  | [] => q
  | elem :: rest => { q with queue := retx :: rest, st := (q.st.subtract elem).add retx }

end RlcRetxQueue

open OwlsRan.Lib OwlsRan.Adt OwlsRan.Pdcp

/-- `rlc_tx_am_config`, with the kind of the bearer. -/
structure RlcTxAmConfig where
  snFieldLength : RlcAmSnSize
  pdcpSnLen : PdcpSnSize
  isSrb : Bool
  tPollRetx : Int
  maxRetxThresh : UInt32
  pollPdu : Int
  pollByte : Int
  queueSize : Nat
  queueSize_pos : 0 < queueSize
  queueSizeBytes : Nat
  maxWindow : Nat

def retxCountNotStarted : UInt32 := 0xffffffff

structure RlcTxAmSduInfo where
  sdu : List UInt8
  isRetx : Bool
  pdcpSn : Option Nat
  nextSo : Nat
  retxCount : UInt32
deriving DecidableEq

structure RlcTxAmState where
  txNextAck : Nat
  txNext : Nat
  pollSn : Nat
  pduWithoutPoll : UInt32
  byteWithoutPoll : UInt32
deriving DecidableEq

inductive TxNotice where
  | transmittedSdu (pdcpSn : Nat)
  | retransmittedSdu (pdcpSn : Nat)
  | deliveredSdu (pdcpSn : Nat)
  | deliveredRetransmittedSdu (pdcpSn : Nat)
  | protocolFailure
  | maxRetx
deriving DecidableEq

structure RlcTxAmEntity where
  st : RlcTxAmState
  sduQueue : RlcSduQueue
  snUnderSegmentation : Option Nat
  retxQueue : RlcRetxQueue
  retxSn : Option Nat
  txWindow : SduWindow RlcTxAmSduInfo
  pollRetransmitTimerRunning : Bool
  stoppedLower : Bool
  maxRetxReached : Bool
  notices : List TxNotice

namespace RlcTxAmConfig

variable (cfg : RlcTxAmConfig)

def mod : Nat := cfg.snFieldLength.modulus

def amWindowSize : Nat := cfg.snFieldLength.amWindowSize

def headMinSize : Nat := rlcAmPduHeaderMinSize cfg.snFieldLength

def headMaxSize : Nat := rlcAmPduHeaderMaxSize cfg.snFieldLength

lemma mod_eq : cfg.mod = 2 * cfg.amWindowSize := by
  unfold mod amWindowSize
  cases cfg.snFieldLength <;> rfl

lemma amWindowSize_pos : 0 < cfg.amWindowSize := by
  unfold amWindowSize
  cases cfg.snFieldLength <;> decide

end RlcTxAmConfig

namespace RlcTxAmEntity

def init (cfg : RlcTxAmConfig) : RlcTxAmEntity where
  st := ⟨0, 0, 0, 0, 0⟩
  sduQueue := .new cfg.queueSize cfg.queueSize_pos cfg.queueSizeBytes
  snUnderSegmentation := none
  retxQueue := .new cfg.amWindowSize
  retxSn := none
  txWindow := .new cfg.amWindowSize cfg.amWindowSize_pos
  pollRetransmitTimerRunning := false
  stoppedLower := false
  maxRetxReached := false
  notices := []

def notify (s : RlcTxAmEntity) (notices : List TxNotice) : RlcTxAmEntity := { s with notices := s.notices ++ notices }

section Window

variable (cfg : RlcTxAmConfig) (s : RlcTxAmEntity)

def txModBase (sn : Nat) : Nat := modBase cfg.mod s.st.txNextAck sn

def insideTxWindow (sn : Nat) : Bool := s.txModBase cfg sn < cfg.amWindowSize

def isTxWindowFull : Bool :=
  s.txWindow.full || (cfg.maxWindow ≠ 0 && s.txModBase cfg s.st.txNext > cfg.maxWindow)

def validAckSn (sn : Nat) : Bool := 0 < s.txModBase cfg sn && s.txModBase cfg sn ≤ cfg.amWindowSize

end Window

def pollNeeded (cfg : RlcTxAmConfig) (s : RlcTxAmEntity) : Bool :=
  (s.sduQueue.isEmpty && s.retxQueue.empty && s.snUnderSegmentation.isNone) || s.isTxWindowFull cfg

def handleSdu (cfg : RlcTxAmConfig) (s : RlcTxAmEntity) (sduBuf : List UInt8) (isRetx : Bool) : RlcTxAmEntity :=
  { s with sduQueue :=
      (s.sduQueue.write ⟨sduBuf, isRetx && !cfg.isSrb, getPdcpSn sduBuf cfg.pdcpSnLen cfg.isSrb⟩).2 }

def discardSdu (s : RlcTxAmEntity) (pdcpSn : Nat) : RlcTxAmEntity :=
  { s with sduQueue := (s.sduQueue.tryDiscard pdcpSn).2 }

/-- Whether a PDU has the polling bit. The counters are set to 0 if it has. -/
def getPollingBit (cfg : RlcTxAmConfig) (s : RlcTxAmEntity) (sn : Nat) (isRetx : Bool) (payloadSize : Nat) :
    Bool × RlcTxAmEntity :=
  let pduWithoutPoll := if isRetx then s.st.pduWithoutPoll else s.st.pduWithoutPoll + 1
  let byteWithoutPoll := if isRetx then s.st.byteWithoutPoll else s.st.byteWithoutPoll + .ofNat payloadSize
  let poll := (!isRetx && cfg.pollPdu > 0 && pduWithoutPoll.toNat ≥ cfg.pollPdu) ||
    (!isRetx && cfg.pollByte > 0 && byteWithoutPoll.toNat ≥ cfg.pollByte) || s.pollNeeded cfg
  if poll then
    (true,
      { s with
        st := { s.st with
          pduWithoutPoll := 0, byteWithoutPoll := 0, pollSn := if isRetx then s.st.pollSn else sn }
        pollRetransmitTimerRunning := s.pollRetransmitTimerRunning || (cfg.tPollRetx > 0 && !s.stoppedLower) })
  else (false, { s with st := { s.st with pduWithoutPoll := pduWithoutPoll, byteWithoutPoll := byteWithoutPoll } })

/-- The bytes of an SDU from an offset on, as `byte_buffer_view` takes them. -/
def sduView (sdu : List UInt8) (so : Nat) (length : Nat) : List UInt8 := (sdu.drop so).take length

def buildFirstSduSegment (cfg : RlcTxAmConfig) (s : RlcTxAmEntity) (sduInfo : RlcTxAmSduInfo) (grantLen : Nat) :
    Except RlcAbort (RlcTxAmEntity × List UInt8) :=
  if sduInfo.sdu.length + cfg.headMinSize ≤ grantLen then .ok (s, [])
  else if grantLen ≤ cfg.headMinSize then .ok (s, [])
  else do
    let segmentPayloadLen := grantLen - cfg.headMinSize
    let sn := s.st.txNext
    let (p, s) := getPollingBit cfg { s with snUnderSegmentation := some sn } sn false segmentPayloadLen
    let hdr : RlcAmPduHeader := ⟨p, .firstSegment, cfg.snFieldLength, sn, .ofNat sduInfo.nextSo⟩
    let payload := sduView sduInfo.sdu hdr.so.toNat segmentPayloadLen
    if payload.length = 0 ∨ payload.length ≠ segmentPayloadLen then .ok (s, [])
    else do
      let w ← SduWindow.modifySn s.txWindow sn fun info => { info with nextSo := info.nextSo + segmentPayloadLen }
      .ok ({ s with txWindow := w }, rlcAmWriteDataPduHeader hdr ++ payload)

def buildContinuedSduSegment (cfg : RlcTxAmConfig) (s : RlcTxAmEntity) (sn : Nat) (sduInfo : RlcTxAmSduInfo)
    (grantLen : Nat) : Except RlcAbort (RlcTxAmEntity × List UInt8) :=
  if sduInfo.nextSo = 0 then .ok ({ s with snUnderSegmentation := none }, [])
  else if sduInfo.nextSo ≥ sduInfo.sdu.length then .ok ({ s with snUnderSegmentation := none }, [])
  else if grantLen ≤ cfg.headMaxSize then .ok (s, [])
  else do
    let remaining := sduInfo.sdu.length - sduInfo.nextSo
    let isLast : Bool := remaining + cfg.headMaxSize ≤ grantLen
    let segmentPayloadLen := if isLast then remaining else grantLen - cfg.headMaxSize
    let s := if isLast then { s with snUnderSegmentation := none } else s
    let (p, s) := getPollingBit cfg s s.st.txNext false segmentPayloadLen
    let hdr : RlcAmPduHeader :=
      ⟨p, if isLast then .lastSegment else .middleSegment, cfg.snFieldLength, s.st.txNext, .ofNat sduInfo.nextSo⟩
    let payload := sduView sduInfo.sdu hdr.so.toNat segmentPayloadLen
    if payload.length = 0 ∨ payload.length ≠ segmentPayloadLen then .ok (s, [])
    else do
      let w ← SduWindow.modifySn s.txWindow sn fun info => { info with nextSo := info.nextSo + segmentPayloadLen }
      let txNext := if isLast then (s.st.txNext + 1) % cfg.mod else s.st.txNext
      .ok ({ s with txWindow := w, st := { s.st with txNext := txNext } }, rlcAmWriteDataPduHeader hdr ++ payload)

def transferNotice (sdu : RlcSdu) : List TxNotice :=
  match sdu.pdcpSn with
  | some pdcpSn => [if sdu.isRetx then .retransmittedSdu pdcpSn else .transmittedSdu pdcpSn]
  | none => []

def sendFullSdu (cfg : RlcTxAmConfig) (s : RlcTxAmEntity) (sdu : List UInt8) : RlcTxAmEntity × List UInt8 :=
  -- the length of the buffer is read after the SDU has been moved to the window
  let (p, s) := getPollingBit cfg s s.st.txNext false 0
  let hdr : RlcAmPduHeader := ⟨p, .fullSdu, cfg.snFieldLength, s.st.txNext, 0⟩
  if sdu.length = 0 then (s, [])
  else
    ({ s with st := { s.st with txNext := (s.st.txNext + 1) % cfg.mod } }, rlcAmWriteDataPduHeader hdr ++ sdu)

def sendSdu (cfg : RlcTxAmConfig) (s : RlcTxAmEntity) (sdu : RlcSdu) (grantLen : Nat) :
    Except RlcAbort (RlcTxAmEntity × List UInt8) := do
  let sduInfo : RlcTxAmSduInfo := ⟨sdu.buf, sdu.isRetx, sdu.pdcpSn, 0, retxCountNotStarted⟩
  let w ← SduWindow.addSn s.txWindow s.st.txNext sduInfo
  let s := notify { s with txWindow := w } (transferNotice sdu)
  if sduInfo.sdu.length + cfg.headMinSize > grantLen then buildFirstSduSegment cfg s sduInfo grantLen
  else .ok (sendFullSdu cfg s sduInfo.sdu)

def buildNewPdu (cfg : RlcTxAmConfig) (s : RlcTxAmEntity) (grantLen : Nat) :
    Except RlcAbort (RlcTxAmEntity × List UInt8) :=
  if grantLen ≤ cfg.headMinSize then .ok (s, [])
  else if s.isTxWindowFull cfg then .ok (s, [])
  else
    match s.sduQueue.read with
    | (none, q) => .ok ({ s with sduQueue := q }, [])
    | (some sdu, q) => sendSdu cfg { s with sduQueue := q } sdu grantLen

def dropAbsentRetx (w : SduWindow RlcTxAmSduInfo) : List RlcTxAmdRetx → RlcRetxQueue → RlcRetxQueue
  | [], q => q
  | retx :: rest, q => if SduWindow.hasSn w retx.sn then q else dropAbsentRetx w rest q.pop

def dropRetx (s : RlcTxAmEntity) : RlcTxAmEntity :=
  { s with retxQueue := dropAbsentRetx s.txWindow s.retxQueue.queue s.retxQueue }

def getRetxExpectedHdrLen (cfg : RlcTxAmConfig) (retx : RlcTxAmdRetx) : Nat :=
  if retx.so = 0 then cfg.headMinSize else cfg.headMaxSize

def retxSi (retx : RlcTxAmdRetx) (sduComplete : Bool) : RlcSiField :=
  if retx.so = 0 then if sduComplete then .fullSdu else .firstSegment
  else if sduComplete then .lastSegment else .middleSegment

def consumeRetx (cfg : RlcTxAmConfig) (s : RlcTxAmEntity) (retx : RlcTxAmdRetx) (sduInfo : RlcTxAmSduInfo)
    (retxPayloadLen : Nat) : RlcTxAmEntity :=
  if retxPayloadLen = retx.length then
    { s with
      maxRetxReached := s.maxRetxReached || sduInfo.retxCount = cfg.maxRetxThresh
      retxQueue := s.retxQueue.pop }
  else
    { s with
      retxQueue := s.retxQueue.replaceFront ⟨retx.sn, retx.so + retxPayloadLen, retx.length - retxPayloadLen⟩ }

/-- The PDU for the first retransmission of the queue, whose SDU is in the window. -/
def sendRetx (cfg : RlcTxAmConfig) (s : RlcTxAmEntity) (retx : RlcTxAmdRetx) (sduInfo : RlcTxAmSduInfo)
    (grantLen : Nat) : Except RlcAbort (RlcTxAmEntity × List UInt8) :=
  let s := { s with retxSn := some retx.sn }
  let expectedHdrLen := getRetxExpectedHdrLen cfg retx
  if retx.so + retx.length > sduInfo.sdu.length then .ok ({ s with retxQueue := s.retxQueue.pop }, [])
  else if grantLen ≤ expectedHdrLen then .ok (s, [])
  else
    let retxPayloadLen := min retx.length (grantLen - expectedHdrLen)
    let sduComplete : Bool := retx.so + retxPayloadLen ≥ sduInfo.sdu.length
    let (p, s) := getPollingBit cfg (consumeRetx cfg s retx sduInfo retxPayloadLen) retx.sn true 0
    let hdr : RlcAmPduHeader := ⟨p, retxSi retx sduComplete, cfg.snFieldLength, retx.sn, .ofNat retx.so⟩
    let payload := sduView sduInfo.sdu hdr.so.toNat retxPayloadLen
    if (rlcAmWriteDataPduHeader hdr).length ≠ expectedHdrLen then .error .headerLength
    else if payload.length = 0 ∨ payload.length ≠ retxPayloadLen then .ok (s, [])
    else .ok (s, rlcAmWriteDataPduHeader hdr ++ payload)

def buildRetxPdu (cfg : RlcTxAmConfig) (s : RlcTxAmEntity) (grantLen : Nat) :
    Except RlcAbort (RlcTxAmEntity × List UInt8) :=
  let s := s.dropRetx
  match s.retxQueue.front with
  | none => .ok (s, [])
  | some retx => do
    let sduInfo ← SduWindow.atSn s.txWindow retx.sn
    sendRetx cfg s retx sduInfo grantLen

def packStatusPdu (statusPdu : RlcAmStatusPdu) (grantLen : Nat) : List UInt8 :=
  if statusPdu.packedSize > grantLen then
    match statusPdu.trim grantLen with
    | (false, _) => []
    | (true, trimmed) => trimmed.pack
  else statusPdu.pack

def pullDataPdu (cfg : RlcTxAmConfig) (s : RlcTxAmEntity) (grantLen : Nat) :
    Except RlcAbort (RlcTxAmEntity × List UInt8) :=
  if !s.retxQueue.empty then buildRetxPdu cfg s grantLen
  else
    match s.snUnderSegmentation with
    | some sn =>
      match s.txWindow.find? sn with
      | some sduInfo => buildContinuedSduSegment cfg s sn sduInfo grantLen
      | none =>
        let s := { s with snUnderSegmentation := none }
        if s.sduQueue.isEmpty then .ok (s, []) else buildNewPdu cfg s grantLen
    | none => if s.sduQueue.isEmpty then .ok (s, []) else buildNewPdu cfg s grantLen

/-- `statusPdu` is the report of the receiving side, if it requires one. -/
def pullPdu (cfg : RlcTxAmConfig) (s : RlcTxAmEntity) (statusPdu : Option RlcAmStatusPdu) (grantLen : Nat) :
    Except RlcAbort (RlcTxAmEntity × List UInt8) :=
  if s.maxRetxReached then .ok (s, [])
  else
    match statusPdu with
    | some statusPdu =>
      .ok (s, if grantLen < sizeofHeaderAckSn then [] else packStatusPdu statusPdu grantLen)
    | none => pullDataPdu cfg s grantLen

def getBufferState (cfg : RlcTxAmConfig) (s : RlcTxAmEntity) (statusBytes : Nat) : Nat × RlcTxAmEntity :=
  let queueBytes := s.sduQueue.nBytes + s.sduQueue.nSdus * cfg.headMinSize
  let segmentBytes :=
    match s.snUnderSegmentation.bind s.txWindow.find? with
    | some sduInfo => sduInfo.sdu.length - sduInfo.nextSo + cfg.headMaxSize
    | none => 0
  let retxState := s.retxQueue.st
  let retxBytes := retxState.retxBytes + retxState.nRetxSoZero * cfg.headMinSize +
    retxState.nRetxSoNonzero * cfg.headMaxSize
  let s := if s.snUnderSegmentation.isNone then { s with sduQueue := s.sduQueue.front.2 } else s
  (queueBytes + segmentBytes + retxBytes + statusBytes, s.dropRetx)

def updateMacBufferState (cfg : RlcTxAmConfig) (s : RlcTxAmEntity) : RlcTxAmEntity := (s.getBufferState cfg 0).2

def validNackSn (cfg : RlcTxAmConfig) (s : RlcTxAmEntity) (ackSn sn : Nat) : Bool :=
  s.txModBase cfg sn < s.txModBase cfg ackSn && s.insideTxWindow cfg sn

def beyondTxNext (cfg : RlcTxAmConfig) (s : RlcTxAmEntity) (sn : Nat) : Bool :=
  s.txModBase cfg sn > s.txModBase cfg s.st.txNext

/-- The last SN that a NACK is about. The arithmetic is that of `uint32_t`. -/
def lastNackSn (nack : RlcAmStatusNack) : Nat :=
  if nack.hasNackRange then (nack.nackSn + nack.nackRange.toNat + 2 ^ 32 - 1) % 2 ^ 32 else nack.nackSn

def validNack (cfg : RlcTxAmConfig) (s : RlcTxAmEntity) (ackSn : Nat) (nack : RlcAmStatusNack) :
    Bool × List TxNotice :=
  if !(s.validNackSn cfg ackSn nack.nackSn && s.validNackSn cfg ackSn (lastNackSn nack)) then (false, [])
  else if s.beyondTxNext cfg nack.nackSn || s.beyondTxNext cfg (lastNackSn nack) then (false, [.protocolFailure])
  else (true, [])

def checkNacks (check : RlcAmStatusNack → Bool × List TxNotice) : List RlcAmStatusNack → Bool × List TxNotice
  | [] => (true, [])
  | nack :: nacks =>
    match check nack with
    | (true, _) => checkNacks check nacks
    | (false, notices) => (false, notices)

def validNacks (cfg : RlcTxAmConfig) (s : RlcTxAmEntity) (ackSn : Nat) (nacks : List RlcAmStatusNack) :
    Bool × List TxNotice := checkNacks (s.validNack cfg ackSn) nacks

structure DeliveredSns where
  pdcpSn : Option Nat
  retxPdcpSn : Option Nat

def DeliveredSns.notices (d : DeliveredSns) : List TxNotice :=
  d.pdcpSn.toList.map .deliveredSdu ++ d.retxPdcpSn.toList.map .deliveredRetransmittedSdu

def DeliveredSns.add (d : DeliveredSns) (sduInfo : RlcTxAmSduInfo) : DeliveredSns :=
  if sduInfo.pdcpSn.isNone then d
  else if sduInfo.isRetx then { d with retxPdcpSn := sduInfo.pdcpSn }
  else { d with pdcpSn := sduInfo.pdcpSn }

/-- The loop over the SNs that are acknowledged. -/
def processAcks (cfg : RlcTxAmConfig) (stopSn : Nat) :
    Nat → RlcTxAmEntity → DeliveredSns → Nat → Except RlcAbort (RlcTxAmEntity × DeliveredSns)
  | 0, _, _, _ => .error .endlessLoop
  | fuel + 1, s, delivered, sn =>
    if s.txModBase cfg sn < s.txModBase cfg stopSn then
      match s.txWindow.find? sn with
      | some sduInfo => do
        let w ← SduWindow.removeSn s.txWindow sn
        let next := (sn + 1) % cfg.mod
        processAcks cfg stopSn fuel { s with txWindow := w, st := { s.st with txNextAck := next } }
          (delivered.add sduInfo) next
      | none => .ok (s, delivered)
    else .ok (s, delivered)

def decrementRetxCount (info : RlcTxAmSduInfo) : RlcTxAmSduInfo :=
  if info.retxCount = retxCountNotStarted then info
  else if info.retxCount = 0 then { info with retxCount := retxCountNotStarted }
  else { info with retxCount := info.retxCount - 1 }

/-- The loop that clears the queue of retransmissions: those that were not started are not counted. -/
def clearRetxQueue : List RlcTxAmdRetx → RlcTxAmEntity → RlcTxAmEntity
  | [], s => { s with retxSn := none }
  | retx :: rest, s =>
    let s :=
      if s.retxSn = some retx.sn then s
      else
        { s with
          txWindow :=
            if SduWindow.hasSn s.txWindow retx.sn then s.txWindow.modify retx.sn decrementRetxCount else s.txWindow
          retxSn := some retx.sn }
    clearRetxQueue rest { s with retxQueue := s.retxQueue.pop }

/-- What is left of a NACK for the bytes of an SDU, with what the upper layers are told. -/
structure CheckedNack where
  soStart : UInt16
  soEnd : UInt16
  notices : List TxNotice

/-- `sdu_length - 1`, in the 16 bits of an offset. -/
def lastOffset (sduLength : Nat) : UInt16 := .ofNat sduLength - 1

def sanitizeNack (soStart soEnd : UInt16) (sduLength : Nat) : CheckedNack :=
  let order : Bool := soStart > soEnd
  let soStart := if order then 0 else soStart
  let pastStart : Bool := soStart.toNat ≥ sduLength
  let soStart := if pastStart then 0 else soStart
  let pastEnd : Bool := soEnd.toNat ≥ sduLength
  { soStart := soStart
    soEnd := if pastEnd then lastOffset sduLength else soEnd
    notices := (if order then [.protocolFailure] else []) ++ (if pastStart then [.protocolFailure] else []) ++
      if pastEnd then [.protocolFailure, .protocolFailure] else [] }

/-- The end of a NACK, without the mark for the end of the SDU; of an SDU under segmentation only what was sent. None if
there is nothing to retransmit. -/
def nackEnd (s : RlcTxAmEntity) (nack : RlcAmStatusNack) (sduInfo : RlcTxAmSduInfo) : Option UInt16 :=
  let soStart := if nack.hasSo then nack.soStart else 0
  let soEnd := if nack.hasSo then nack.soEnd else lastOffset sduInfo.sdu.length
  if soEnd ≠ RlcAmStatusNack.soEndOfSdu then some soEnd
  else if s.snUnderSegmentation ≠ some nack.nackSn then some (lastOffset sduInfo.sdu.length)
  else if sduInfo.nextSo = 0 then none
  else if soStart.toNat > sduInfo.nextSo then none
  else if soStart.toNat = sduInfo.nextSo then none
  else some (.ofNat (sduInfo.nextSo - 1))

def enqueueRetx (s : RlcTxAmEntity) (sn : Nat) (checked : CheckedNack) : Bool × RlcTxAmEntity :=
  let s := s.notify checked.notices
  match s.retxQueue.tryPush ⟨sn, checked.soStart.toNat, checked.soEnd.toNat + 1 - checked.soStart.toNat⟩ with
  | (false, _) => (false, s)
  | (true, q) => (true, { s with retxQueue := q })

def handleNack (cfg : RlcTxAmConfig) (s : RlcTxAmEntity) (nack : RlcAmStatusNack) :
    Except RlcAbort (Bool × RlcTxAmEntity) :=
  if nack.hasNackRange then .ok (false, s)
  else if ¬(s.txModBase cfg s.st.txNextAck ≤ s.txModBase cfg nack.nackSn ∧
      s.txModBase cfg nack.nackSn ≤ s.txModBase cfg s.st.txNext) then .ok (false, s)
  else do
    let sduInfo ← SduWindow.atSn s.txWindow nack.nackSn
    match s.nackEnd nack sduInfo with
    | none => .ok (false, s)
    | some soEnd =>
      .ok (s.enqueueRetx nack.nackSn
        (sanitizeNack (if nack.hasSo then nack.soStart else 0) soEnd sduInfo.sdu.length))

def countRetx (info : RlcTxAmSduInfo) : RlcTxAmSduInfo :=
  { info with retxCount := if info.retxCount = retxCountNotStarted then 0 else info.retxCount + 1 }

def incrementRetxCount (cfg : RlcTxAmConfig) (s : RlcTxAmEntity) (sn : Nat) : Except RlcAbort RlcTxAmEntity := do
  let w ← SduWindow.modifySn s.txWindow sn countRetx
  let sduInfo ← SduWindow.atSn w sn
  .ok (notify { s with txWindow := w } (if sduInfo.retxCount = cfg.maxRetxThresh then [.maxRetx] else []))

def processNack (cfg : RlcTxAmConfig) (s : RlcTxAmEntity) (prevRetxSn : Option Nat) (nack : RlcAmStatusNack) :
    Except RlcAbort (RlcTxAmEntity × Option Nat) := do
  let (enqueued, s) ← handleNack cfg s nack
  if enqueued && prevRetxSn ≠ some nack.nackSn then do
    let s ← incrementRetxCount cfg s nack.nackSn
    .ok (s, some nack.nackSn)
  else .ok (s, prevRetxSn)

def rangeItem (cfg : RlcTxAmConfig) (nack : RlcAmStatusNack) (rangeSn : Nat) : RlcAmStatusNack :=
  let item := RlcAmStatusNack.ofSn rangeSn
  if nack.hasSo then
    let soStart := if rangeSn = nack.nackSn then nack.soStart else item.soStart
    let soEnd := if rangeSn = (lastNackSn nack) % cfg.mod then nack.soEnd else item.soEnd
    { item with soStart := soStart, soEnd := soEnd, hasSo := soStart ≠ 0 || soEnd ≠ RlcAmStatusNack.soEndOfSdu }
  else item

def processNackRange (cfg : RlcTxAmConfig) (ackSn : Nat) (nack : RlcAmStatusNack) :
    Nat → RlcTxAmEntity → Option Nat → Nat → Except RlcAbort (RlcTxAmEntity × Option Nat)
  | 0, _, _, _ => .error .endlessLoop
  | fuel + 1, s, prevRetxSn, rangeSn =>
    if rangeSn = (nack.nackSn + nack.nackRange.toNat) % cfg.mod then .ok (s, prevRetxSn)
    else if rangeSn = ackSn then .ok (s, prevRetxSn)
    else do
      let (s, prevRetxSn) ← processNack cfg s prevRetxSn (rangeItem cfg nack rangeSn)
      processNackRange cfg ackSn nack fuel s prevRetxSn ((rangeSn + 1) % cfg.mod)

def processNacks (cfg : RlcTxAmConfig) (ackSn : Nat) :
    List RlcAmStatusNack → RlcTxAmEntity → Option Nat → Except RlcAbort RlcTxAmEntity
  | [], s, _ => .ok s
  | nack :: nacks, s, prevRetxSn => do
    let (s, prevRetxSn) ←
      if nack.hasNackRange then processNackRange cfg ackSn nack cfg.mod s prevRetxSn nack.nackSn
      else processNack cfg s prevRetxSn nack
    processNacks cfg ackSn nacks s prevRetxSn

/-- t-PollRetransmit stops when the SN of the poll is acknowledged, positively or negatively. -/
def stopPollTimer (cfg : RlcTxAmConfig) (s : RlcTxAmEntity) (ackSn : Nat) : RlcTxAmEntity :=
  if s.txModBase cfg s.st.pollSn < s.txModBase cfg ackSn then { s with pollRetransmitTimerRunning := false } else s

/-- The part of `handle_status_pdu` after the checks. -/
def applyStatusPdu (cfg : RlcTxAmConfig) (s : RlcTxAmEntity) (status : RlcAmStatusPdu) :
    Except RlcAbort RlcTxAmEntity := do
  let s := s.stopPollTimer cfg status.ackSn
  let stopSn := (status.nacks.head?.map RlcAmStatusNack.nackSn).getD status.ackSn
  let (s, delivered) ← processAcks cfg stopSn cfg.mod s ⟨none, none⟩ s.st.txNextAck
  let s := s.notify delivered.notices
  let s := clearRetxQueue s.retxQueue.queue s
  let s ← processNacks cfg status.ackSn status.nacks s none
  .ok (s.updateMacBufferState cfg)

def handleStatusPdu (cfg : RlcTxAmConfig) (s : RlcTxAmEntity) (status : RlcAmStatusPdu) :
    Except RlcAbort RlcTxAmEntity :=
  if !s.validAckSn cfg status.ackSn then .ok s
  else if s.txModBase cfg status.ackSn > s.txModBase cfg (s.st.txNext + 1) then .ok (s.notify [.protocolFailure])
  else
    match s.validNacks cfg status.ackSn status.nacks with
    | (false, notices) => .ok (s.notify notices)
    | (true, _) => applyStatusPdu cfg s status

def onExpiredPollRetransmitTimer (cfg : RlcTxAmConfig) (s : RlcTxAmEntity) : Except RlcAbort RlcTxAmEntity :=
  if s.pollNeeded cfg then
    match s.txWindow.find? s.st.txNextAck with
    | none => .ok s
    | some sduInfo =>
      match s.retxQueue.tryPush ⟨s.st.txNextAck, 0, sduInfo.sdu.length⟩ with
      | (true, q) => do
        let s ← incrementRetxCount cfg { s with retxQueue := q } s.st.txNextAck
        .ok (s.updateMacBufferState cfg)
      | (false, _) => .ok (s.updateMacBufferState cfg)
  else .ok s

def pollRetransmitTimerExpires (cfg : RlcTxAmConfig) (s : RlcTxAmEntity) : Except RlcAbort RlcTxAmEntity :=
  if s.pollRetransmitTimerRunning then
    onExpiredPollRetransmitTimer cfg { s with pollRetransmitTimerRunning := false }
  else .ok s

end RlcTxAmEntity

end OwlsRan.Rlc
