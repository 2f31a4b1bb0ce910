import Mathlib.Tactic.Lemma
import OwlsRan.Pdcp.PdcpEntityRx

/-!
# The transmitting side of PDCP

`pdcp_entity_tx`, from the SDUs of the upper layer to the PDUs that are handed on to be ciphered, with the notifications
of the lower layer and the status reports of the peer. One discard timer serves all SDUs of the window.
-/

/-!
## `unique_timer`

A timer as its owner sees it: the current tick, and the tick at which a running timer expires. The callback of an expiry
is a task of the owner, which runs before the next tick.
-/

namespace OwlsRan.Support

structure UniqueTimer where
  now : Nat
  deadline : Option Nat
deriving DecidableEq

namespace UniqueTimer

def isRunning (t : UniqueTimer) : Bool := t.deadline.isSome

/-- `set` and `run`, which start a running timer anew. A run takes one tick at least. -/
def start (t : UniqueTimer) (duration : Nat) : UniqueTimer := { t with deadline := some (t.now + max duration 1) }

def stop (t : UniqueTimer) : UniqueTimer := { t with deadline := none }

def Due (t : UniqueTimer) : Prop := t.deadline = some t.now

instance (t : UniqueTimer) : Decidable t.Due := inferInstanceAs (Decidable (_ = _))

def tick (t : UniqueTimer) : UniqueTimer := { t with now := t.now + 1 }

end UniqueTimer

end OwlsRan.Support

namespace OwlsRan.Pdcp
open OwlsRan.Lib OwlsRan.Rlc OwlsRan.Support

inductive PdcpRbType where
  | srb
  | drb
deriving DecidableEq

inductive PdcpRlcMode where
  | um
  | am
deriving DecidableEq

/-- `pdcp_discard_timer`, in ticks. -/
inductive PdcpDiscardTimer where
  | infinity
  | ms (timeout : Nat)
deriving DecidableEq

structure PdcpTxConfig where
  rbType : PdcpRbType
  rlcMode : PdcpRlcMode
  snSize : PdcpSnSize
  discardTimer : Option PdcpDiscardTimer
  maxCount : PdcpMaxCount
deriving DecidableEq

/-- `pdcp_tx_window_element`: the copy of the SDU, which is empty unless the mode is AM, its COUNT, the tick of its
arrival if the discard timer is finite, and its length. -/
structure PdcpTxWindowElement where
  sdu : List UInt8
  count : Nat
  tickPointOfArrival : Option Nat
  sduLength : Nat
deriving DecidableEq

inductive PdcpAbort where
  | window (a : RlcAbort)
  /-- `SDU without arrival time` -/
  | noArrivalTime
  /-- `Invalid timer duration` -/
  | timerDuration
deriving DecidableEq

structure PdcpTxEntity where
  txNext : Nat
  txTransCrypto : Nat
  txTrans : Nat
  txNextAck : Nat
  txWindow : SduWindow PdcpTxWindowElement
  sduBytes : Nat
  nofSdus : Nat
  discardTimer : UniqueTimer
  desiredBufferSize : Nat
  integrityEnabled : Bool
  maxCountNotified : Bool
  maxCountOverflow : Bool
  stopped : Bool
  buffering : Bool
  sduBuffer : List (List UInt8)

inductive EarlyDropReason where
  | zeroDbs
  | fullRlcQueue
  | fullWindow
deriving DecidableEq

/-- What becomes of an SDU. -/
inductive SduOutcome where
  | stopped
  | buffered
  | bufferFull
  | earlyDrop (reason : EarlyDropReason)
  | countLimit
  | copyFailed
  | headerFailed
  | accepted (count : Nat) (pdu : List UInt8)
deriving DecidableEq

structure HandledSdu where
  entity : PdcpTxEntity
  notes : List PdcpCountNotification
  outcome : SduOutcome

/-- The allocations that `handle_sdu` asks for. -/
structure SduAllocation where
  copyOk : Bool
  headerOk : Bool
deriving DecidableEq

namespace PdcpTxConfig

variable (cfg : PdcpTxConfig)

def isSrb : Bool := cfg.rbType = .srb

def isAm : Bool := cfg.rlcMode = .am

def isUm : Bool := cfg.rlcMode = .um

end PdcpTxConfig

def pdcpDataHeaderSize : PdcpSnSize → Nat
  | .size12bits => 2
  | .size18bits => 3

def pdcpDataTrailerSize (rbType : PdcpRbType) (integrityEnabled : Bool) : Nat :=
  if rbType = .srb ∨ integrityEnabled then 4 else 0

namespace PdcpTxEntity

variable (cfg : PdcpTxConfig)

/-- The entity as it is created, at a tick. Nothing is sent until the lower layer asks for data. -/
def start (now : Nat) : PdcpTxEntity where
  txNext := 0
  txTransCrypto := 0
  txTrans := 0
  txNextAck := 0
  txWindow := .new cfg.snSize.windowSize cfg.snSize.windowSize_pos
  sduBytes := 0
  nofSdus := 0
  discardTimer := ⟨now, none⟩
  desiredBufferSize := 0
  integrityEnabled := false
  maxCountNotified := false
  maxCountOverflow := false
  stopped := false
  buffering := false
  sduBuffer := []

variable (s : PdcpTxEntity)

/-- `add_sdu` of the window. -/
def addSdu (info : PdcpTxWindowElement) : Except PdcpAbort PdcpTxEntity := do
  let window ← (SduWindow.addSn s.txWindow info.count info).mapError .window
  .ok { s with txWindow := window, sduBytes := s.sduBytes + info.sduLength, nofSdus := s.nofSdus + 1 }

/-- `remove_sdu` of the window. -/
def removeSdu (count : Nat) : PdcpTxEntity :=
  match s.txWindow.find? count with
  | none => s
  | some elem => { s with
      txWindow := s.txWindow.erase count, sduBytes := s.sduBytes - elem.sduLength, nofSdus := s.nofSdus - 1 }

/-- `get_pdu_bytes` of the window. -/
def getPduBytes : Nat :=
  s.sduBytes + s.nofSdus * (pdcpDataHeaderSize cfg.snSize + pdcpDataTrailerSize cfg.rbType s.integrityEnabled)

def getPduSize (sdu : List UInt8) : Nat :=
  pdcpDataHeaderSize cfg.snSize + sdu.length + if s.integrityEnabled then 4 else 0

def checkEarlyDrop (buf : List UInt8) : Option EarlyDropReason :=
  if s.desiredBufferSize = 0 then some .zeroDbs
  else if s.desiredBufferSize < s.getPduBytes cfg + s.getPduSize cfg buf then some .fullRlcQueue
  else if cfg.snSize.windowSize - 1 ≤ s.txNext - s.txNextAck then some .fullWindow
  else none

def writeDataPduHeader (sn : Nat) : List UInt8 :=
  let first := if cfg.isSrb then 0 else 128
  match cfg.snSize with
  | .size12bits => [UInt8.ofNat (first + sn / 256 % 16), UInt8.ofNat sn]
  | .size18bits => [UInt8.ofNat (first + sn / 65536 % 4), UInt8.ofNat (sn / 256), UInt8.ofNat sn]

/-- The discard timer is armed by an SDU that does not find it running, unless it is infinite. -/
def armDiscardTimer : PdcpTxEntity :=
  match cfg.discardTimer with
  | some (.ms timeout) =>
    if s.discardTimer.isRunning then s else { s with discardTimer := s.discardTimer.start timeout }
  | _ => s

/-- `tick_point_of_arrival` of an SDU that arrives now. -/
def arrivalTick : Option Nat :=
  match cfg.discardTimer with
  | some (.ms _) => some s.discardTimer.now
  | _ => none

/-- `handle_sdu` from the point where the SDU has passed the checks. -/
def transmitSdu (buf : List UInt8) (alloc : SduAllocation) (notes : List PdcpCountNotification) :
    Except PdcpAbort HandledSdu := do
  let arrival := s.arrivalTick cfg
  let s := s.armDiscardTimer cfg
  let keepCopy := cfg.discardTimer.isSome && cfg.isAm
  if keepCopy && !alloc.copyOk then .ok ⟨s, notes ++ [.protocolFailure], .copyFailed⟩
  else
    let s ← s.addSdu ⟨if keepCopy then buf else [], s.txNext, arrival, buf.length⟩
    if !alloc.headerOk then .ok ⟨s, notes ++ [.protocolFailure], .headerFailed⟩
    else
      let pdu := writeDataPduHeader cfg (pdcpComputeSn s.txNext cfg.snSize) ++ buf
      .ok ⟨{ s with txNext := s.txNext + 1 }, notes, .accepted s.txNext pdu⟩

def handleSdu (buf : List UInt8) (alloc : SduAllocation) : Except PdcpAbort HandledSdu :=
  if s.stopped then .ok ⟨s, [], .stopped⟩
  else if s.buffering then
    if s.sduBuffer.length < 2048 then .ok ⟨{ s with sduBuffer := s.sduBuffer ++ [buf] }, [], .buffered⟩
    else .ok ⟨s, [], .bufferFull⟩
  else match if cfg.isSrb then none else s.checkEarlyDrop cfg buf with
    | some reason => .ok ⟨s, [], .earlyDrop reason⟩
    | none =>
      if cfg.maxCount.hard.toNat ≤ s.txNext then
        .ok ⟨{ s with maxCountOverflow := true }, if s.maxCountOverflow then [] else [.protocolFailure], .countLimit⟩
      else
        let notify := decide (cfg.maxCount.notify.toNat ≤ s.txNext) && !s.maxCountNotified
        transmitSdu cfg { s with maxCountNotified := s.maxCountNotified || notify } buf alloc
          (if notify then [.maxCountReached] else [])

def passOldest : PdcpTxEntity :=
  let s := s.removeSdu s.txNextAck
  { s with txNextAck := s.txNextAck + 1 }

def removeUpTo : Nat → PdcpTxEntity → PdcpTxEntity
  | 0, s => s
  | n + 1, s => removeUpTo n s.passOldest

def oldestArrival : Except PdcpAbort Nat := do
  let elem ← (SduWindow.atSn s.txWindow s.txNextAck).mapError .window
  match elem.tickPointOfArrival with
  | none => .error .noArrivalTime
  | some arrival => .ok arrival

def stopDiscardTimer (highestCount : Nat) : Except PdcpAbort PdcpTxEntity :=
  match cfg.discardTimer with
  | none => .ok s
  | some timer =>
    if highestCount < s.txNextAck ∨ s.txNext ≤ highestCount then .ok s
    else if SduWindow.hasSn s.txWindow s.txNextAck = false then .ok s
    else
      let s := { s with discardTimer := s.discardTimer.stop }
      let s := removeUpTo (highestCount + 1 - s.txNextAck) s
      let s := { s with txTrans := max s.txTrans s.txNextAck }
      match timer with
      | .infinity => .ok s
      | .ms timeout =>
        if s.txNextAck = s.txNext then .ok s
        else do
          let arrival ← s.oldestArrival
          if arrival + timeout < s.discardTimer.now then .error .timerDuration
          else .ok { s with discardTimer := s.discardTimer.start (arrival + timeout - s.discardTimer.now) }

def notificationCountEstimation (sn : Nat) : Nat :=
  estimateCount cfg.snSize (if cfg.discardTimer.isSome then s.txNextAck else s.txTrans) sn

def handleTransmitNotification (notifSn : Nat) : Except PdcpAbort PdcpTxEntity :=
  if s.stopped ∨ cfg.snSize.cardinality ≤ notifSn then .ok s
  else
    let notifCount := s.notificationCountEstimation cfg notifSn
    if s.txTransCrypto ≤ notifCount ∨ notifCount < s.txTrans ∨ s.txNext ≤ notifCount then .ok s
    else
      let s := { s with txTrans := notifCount + 1 }
      if cfg.discardTimer.isSome ∧ cfg.isUm then s.stopDiscardTimer cfg notifCount else .ok s

def handleDeliveryNotification (notifSn : Nat) : Except PdcpAbort PdcpTxEntity :=
  if s.stopped ∨ cfg.snSize.cardinality ≤ notifSn then .ok s
  else
    let notifCount := s.notificationCountEstimation cfg notifSn
    if s.txNext ≤ notifCount then .ok s
    else if cfg.discardTimer.isSome ∧ cfg.isAm then s.stopDiscardTimer cfg notifCount else .ok s

/-- TX_NEXT_ACK moves to the oldest SDU in the window, or to TX_NEXT after the given number of rounds. -/
def advanceNextAck : Nat → PdcpTxEntity → PdcpTxEntity
  | 0, s => s
  | n + 1, s =>
    if SduWindow.hasSn s.txWindow s.txNextAck then s else advanceNextAck n { s with txNextAck := s.txNextAck + 1 }

def discardPdu (count : Nat) : PdcpTxEntity × Option Nat :=
  if cfg.discardTimer.isNone then (s, none)
  else if count < s.txNextAck ∨ s.txNext ≤ count then (s, none)
  else if SduWindow.hasSn s.txWindow count = false then (s, none)
  else
    let s := s.removeSdu count
    let s := advanceNextAck (s.txNext - s.txNextAck) s
    ({ s with txTrans := max s.txTrans s.txNextAck }, some (pdcpComputeSn count cfg.snSize))

def discardBelow : List Nat → PdcpTxEntity → PdcpTxEntity × List Nat
  | [], s => (s, [])
  | count :: counts, s =>
    let (s, sn) := s.discardPdu cfg count
    let (s, sns) := discardBelow counts s
    (s, sn.toList ++ sns)

/-- The loop over the bitmap of a status report, which has no more bits than the given number. -/
def discardMarked : Nat → Nat → BitDecoder → PdcpTxEntity → PdcpTxEntity × List Nat
  | 0, _, _, s => (s, [])
  | n + 1, fmc, dec, s => match dec.unpack 1 with
    | (false, _, _) => (s, [])
    | (true, bit, dec) =>
      let fmc := (fmc + 1) % 2 ^ 32
      let (s, sn) := if bit = 1 then s.discardPdu cfg fmc else (s, none)
      let (s, sns) := discardMarked n fmc dec s
      (s, sn.toList ++ sns)

/-- The entity, and the SNs whose discard the lower layer is told. That the report ends early is not looked at. -/
def handleStatusReport (status : List UInt8) : PdcpTxEntity × List Nat :=
  let (_, dc, dec) := (BitDecoder.ofBytes status).unpack 1
  if dc ≠ 0 then (s, [])
  else
    let (_, cpt, dec) := dec.unpack 3
    if cpt ≠ 0 then (s, [])
    else
      let (_, reserved, dec) := dec.unpack 4
      if reserved ≠ 0 then (s, [])
      else
        let (_, fmc, dec) := dec.unpack 32
        let (s, sns) := discardBelow cfg (List.range' s.txNextAck (fmc - s.txNextAck)) s
        let (s, sns') := discardMarked cfg (8 * dec.buffer.length) fmc dec s
        (s, sns ++ sns')

/-- The loop of `discard_callback`, with the COUNTs that it discards. It reaches TX_NEXT after the given number of
rounds. -/
def discardOldest (oldest : Nat) : Nat → PdcpTxEntity → Except PdcpAbort (PdcpTxEntity × List Nat)
  | 0, s => .ok (s, [])
  | n + 1, s => do
    let count := s.txNextAck
    let s := (s.discardPdu cfg count).1
    if SduWindow.hasSn s.txWindow s.txNextAck = false then .ok (s, [count])
    else
      let arrival ← s.oldestArrival
      if arrival ≠ oldest then
        if arrival < oldest then .error .timerDuration
        else .ok ({ s with discardTimer := s.discardTimer.start (arrival - oldest) }, [count])
      else if s.txNextAck = s.txNext then .ok (s, [count])
      else
        let (s, counts) ← discardOldest oldest n s
        .ok (s, count :: counts)

def discardCallback : Except PdcpAbort (PdcpTxEntity × List Nat) :=
  if s.stopped then .ok (s, [])
  else if SduWindow.hasSn s.txWindow s.txNextAck = false then .ok (s, [])
  else do
    let oldest ← s.oldestArrival
    discardOldest cfg oldest (s.txNext - s.txNextAck) s

end PdcpTxEntity

end OwlsRan.Pdcp
