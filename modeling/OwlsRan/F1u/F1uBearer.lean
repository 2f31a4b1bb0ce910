import Mathlib.Data.List.Basic
import Mathlib.Logic.Function.Basic

/-!
# NR-U messages

The frames that the CU-UP and the DU exchange for a data radio bearer. SNs and sizes have the widths of the source.
-/

namespace OwlsRan.F1u

/-- `nru_pdcp_sn_discard_block`: consecutive PDCP SNs to be discarded. -/
structure NruPdcpSnDiscardBlock where
  pdcpSnStart : UInt32
  blockSize : UInt8
deriving DecidableEq

/-- Capacity of `nru_pdcp_sn_discard_blocks`. -/
def nruMaxNofPdcpSnDiscardBlocks : Nat := 16

structure NruDlUserData where
  reportPolling : Bool := false
  retransmissionFlag : Bool := false
  discardBlocks : Option (List NruPdcpSnDiscardBlock) := none
deriving DecidableEq

structure NruDlDataDeliveryStatus where
  desiredBufferSizeForDrb : UInt32
  highestTransmittedPdcpSn : Option UInt32
  highestDeliveredPdcpSn : Option UInt32
  highestRetransmittedPdcpSn : Option UInt32
  highestDeliveredRetransmittedPdcpSn : Option UInt32
deriving DecidableEq

structure NruDlMessage where
  tPdu : List UInt8 := []
  dlUserData : NruDlUserData := {}
deriving DecidableEq

structure NruUlMessage where
  tPdu : Option (List UInt8)
  dataDeliveryStatus : Option NruDlDataDeliveryStatus
deriving DecidableEq

namespace NruPdcpSnDiscardBlock

variable (b : NruPdcpSnDiscardBlock)

def pdcpSnEnd : UInt32 := b.pdcpSnStart + b.blockSize.toUInt32

/-- The SNs that the loop of the DU visits: from the start of the block as long as they are below its end. -/
def pdcpSns : List UInt32 :=
  (List.range' b.pdcpSnStart.toNat (b.pdcpSnEnd.toNat - b.pdcpSnStart.toNat)).map UInt32.ofNat

def single (pdcpSn : UInt32) : NruPdcpSnDiscardBlock := ⟨pdcpSn, 1⟩

/-- `block_size++`, in eight bits. -/
def expanded : NruPdcpSnDiscardBlock := { b with blockSize := b.blockSize + 1 }

end NruPdcpSnDiscardBlock

/-!
## The F1-U bearer of the CU-UP

Downlink, PDCP SNs to be discarded are collected in blocks, which leave with the next SDU, when the list of blocks is
full or when the notification timer expires. Uplink, SDUs and the values of a delivery status are passed to the upper
layers.
-/

inductive CuUpAbort where
  /-- A block is pushed onto a `static_vector` that is full. -/
  | discardBlocksOverflow
deriving DecidableEq

inductive CuUpNotification where
  | onNewSdu (sdu : List UInt8)
  | onDesiredBufferSizeNotification (desiredBufferSize : UInt32)
  | onTransmitNotification (pdcpSn : UInt32)
  | onDeliveryNotification (pdcpSn : UInt32)
  | onRetransmitNotification (pdcpSn : UInt32)
  | onDeliveryRetransmittedNotification (pdcpSn : UInt32)
deriving DecidableEq

def unsetPdcpSn : UInt32 := 0xffffffff

structure CuUpF1uBearer where
  dlNotifTimerRunning : Bool := false
  notifHighestTransmittedPdcpSn : UInt32 := unsetPdcpSn
  notifHighestDeliveredPdcpSn : UInt32 := unsetPdcpSn
  discardBlocks : List NruPdcpSnDiscardBlock := []
deriving DecidableEq

namespace CuUpF1uBearer

variable (b : CuUpF1uBearer)

section Downlink

def fillDiscardBlocks (msg : NruDlMessage) : CuUpF1uBearer × NruDlMessage :=
  if b.discardBlocks ≠ [] then
    ({ b with discardBlocks := [] },
      { msg with dlUserData := { msg.dlUserData with discardBlocks := some b.discardBlocks } })
  else (b, msg)

def flushDiscardBlocks : CuUpF1uBearer × List NruDlMessage :=
  let (b, msg) := b.fillDiscardBlocks {}
  let b := { b with dlNotifTimerRunning := false }
  if msg.dlUserData.discardBlocks.isSome then (b, [msg]) else (b, [])

def handleSdu (sdu : List UInt8) (isRetx : Bool) : CuUpF1uBearer × List NruDlMessage :=
  let (b, msg) := b.fillDiscardBlocks { tPdu := sdu, dlUserData := { retransmissionFlag := isRetx } }
  ({ b with dlNotifTimerRunning := false }, [msg])

def pushDiscardBlock (pdcpSn : UInt32) : Except CuUpAbort CuUpF1uBearer :=
  if b.discardBlocks.length < nruMaxNofPdcpSnDiscardBlocks then
    .ok { b with discardBlocks := b.discardBlocks ++ [.single pdcpSn] }
  else .error .discardBlocksOverflow

/-- The SN joins the last block when it is the one after it, else it starts a block of its own. -/
def discardSdu (pdcpSn : UInt32) : Except CuUpAbort (CuUpF1uBearer × List NruDlMessage) := do
  let b := { b with dlNotifTimerRunning := true }
  match b.discardBlocks.getLast? with
  | none =>
    let b ← b.pushDiscardBlock pdcpSn
    return (b, [])
  | some lastBlock =>
    if lastBlock.pdcpSnEnd = pdcpSn then
      return ({ b with discardBlocks := b.discardBlocks.dropLast ++ [lastBlock.expanded] }, [])
    let b ← b.pushDiscardBlock pdcpSn
    if b.discardBlocks.length = nruMaxNofPdcpSnDiscardBlocks then
      return b.flushDiscardBlocks
    return (b, [])

def onExpiredDlNotifTimer : CuUpF1uBearer × List NruDlMessage := b.flushDiscardBlocks

end Downlink

section Uplink

def notifyChange (notif : UInt32) (call : UInt32 → CuUpNotification) : Option UInt32 → UInt32 × List CuUpNotification
  | none => (notif, [])
  | some pdcpSn => if pdcpSn ≠ notif then (pdcpSn, [call pdcpSn]) else (notif, [])

def notifyAlways (call : UInt32 → CuUpNotification) : Option UInt32 → List CuUpNotification
  | none => []
  | some pdcpSn => [call pdcpSn]

def handleDataDeliveryStatus (status : NruDlDataDeliveryStatus) : CuUpF1uBearer × List CuUpNotification :=
  let (transmitted, onTransmit) :=
    notifyChange b.notifHighestTransmittedPdcpSn .onTransmitNotification status.highestTransmittedPdcpSn
  let (delivered, onDelivery) :=
    notifyChange b.notifHighestDeliveredPdcpSn .onDeliveryNotification status.highestDeliveredPdcpSn
  ({ b with notifHighestTransmittedPdcpSn := transmitted, notifHighestDeliveredPdcpSn := delivered },
    .onDesiredBufferSizeNotification status.desiredBufferSizeForDrb :: onTransmit ++ onDelivery ++
      notifyAlways .onRetransmitNotification status.highestRetransmittedPdcpSn ++
      notifyAlways .onDeliveryRetransmittedNotification status.highestDeliveredRetransmittedPdcpSn)

def deliverTPdu : Option (List UInt8) → List CuUpNotification
  | none => []
  | some tPdu => if tPdu = [] then [] else [.onNewSdu tPdu]

def handlePduImpl (msg : NruUlMessage) : CuUpF1uBearer × List CuUpNotification :=
  match msg.dataDeliveryStatus with
  | none => (b, deliverTPdu msg.tPdu)
  | some status =>
    let (b, notified) := b.handleDataDeliveryStatus status
    (b, deliverTPdu msg.tPdu ++ notified)

end Uplink

end CuUpF1uBearer

/-!
## The F1-U bearer of the DU

The RLC stores its latest SNs in atomic variables from an executor of its own. The bearer loads them whenever it builds
a delivery status, so stores may fall between the loads of one status.
-/

structure DuF1uConfig where
  rlcQueueBytesLimit : UInt32
  bufferUlOnStartup : Bool
  ulBufferSize : Nat
deriving DecidableEq

inductive RlcVariable where
  | desiredBufferSizeForDataRadioBearer
  | highestTransmittedPdcpSn
  | highestDeliveredPdcpSn
  | highestRetransmittedPdcpSn
  | highestDeliveredRetransmittedPdcpSn
deriving DecidableEq

structure RlcStore where
  target : RlcVariable
  value : UInt32
deriving DecidableEq

/-- The value of an atomic variable, and the one that was last put into a status (`notif_...`). -/
@[ext] structure ReportedValue where
  stored : UInt32
  notif : UInt32
deriving DecidableEq

inductive DuNotification where
  | onNewSdu (sdu : List UInt8) (isRetx : Bool)
  | onDiscardSdu (pdcpSn : UInt32)
deriving DecidableEq

structure DuF1uBearer where
  cfg : DuF1uConfig
  buffering : Bool
  ulBuffer : List NruUlMessage
  values : RlcVariable → ReportedValue

/-- An SDU of the RLC: it has at least one byte, since a PDU without payload is dropped. -/
abbrev UlSdu := { sdu : List UInt8 // sdu ≠ [] }

structure StatusStores where
  desiredBufferSize : List RlcStore := []
  transmitted : List RlcStore := []
  delivered : List RlcStore := []
  retransmitted : List RlcStore := []
  deliveredRetransmitted : List RlcStore := []
deriving DecidableEq

namespace ReportedValue

variable (v : ReportedValue)

def fresh : Bool := v.stored ≠ v.notif

def report : ReportedValue := { v with notif := v.stored }

/-- `fill_highest_transmitted_pdcp_sn`, `fill_highest_delivered_pdcp_sn`: the value is reported as soon as it is set. -/
def fillLatest : Option UInt32 × Bool × ReportedValue :=
  if v.stored = unsetPdcpSn then (none, false, v) else (some v.stored, v.fresh, v.report)

/-- `fill_highest_retransmitted_pdcp_sn`, `fill_highest_delivered_retransmitted_pdcp_sn`: the value is only reported when
it has changed. -/
def fillChanged : Option UInt32 × Bool × ReportedValue :=
  if v.fresh then (some v.stored, true, v.report) else (none, false, v)

end ReportedValue

namespace DuF1uBearer

def init (cfg : DuF1uConfig) : DuF1uBearer where
  cfg := cfg
  buffering := cfg.bufferUlOnStartup
  ulBuffer := []
  values
    | .desiredBufferSizeForDataRadioBearer => ⟨cfg.rlcQueueBytesLimit, 0⟩
    | _ => ⟨unsetPdcpSn, unsetPdcpSn⟩

variable (b : DuF1uBearer)

section Stores

def setValue (k : RlcVariable) (v : ReportedValue) : DuF1uBearer := { b with values := Function.update b.values k v }

def store (b : DuF1uBearer) (w : RlcStore) : DuF1uBearer :=
  b.setValue w.target { b.values w.target with stored := w.value }

def storeAll (ws : List RlcStore) : DuF1uBearer := ws.foldl store b

def handleTransmitNotification (highestPdcpSn desiredBufSize : UInt32) : List RlcStore :=
  [⟨.highestTransmittedPdcpSn, highestPdcpSn⟩, ⟨.desiredBufferSizeForDataRadioBearer, desiredBufSize⟩]

def handleRetransmitNotification (highestPdcpSn : UInt32) : List RlcStore :=
  [⟨.highestRetransmittedPdcpSn, highestPdcpSn⟩]

end Stores

section Status

def fillDesiredBufferSizeOfDataRadioBearer : UInt32 × Bool × DuF1uBearer :=
  let v := b.values .desiredBufferSizeForDataRadioBearer
  (v.stored, v.fresh, b.setValue .desiredBufferSizeForDataRadioBearer v.report)

def fillLatest (k : RlcVariable) : Option UInt32 × Bool × DuF1uBearer :=
  let (sn, fresh, v) := (b.values k).fillLatest
  (sn, fresh, b.setValue k v)

def fillChanged (k : RlcVariable) : Option UInt32 × Bool × DuF1uBearer :=
  let (sn, fresh, v) := (b.values k).fillChanged
  (sn, fresh, b.setValue k v)

def fillHighestTransmittedPdcpSn : Option UInt32 × Bool × DuF1uBearer := b.fillLatest .highestTransmittedPdcpSn

def fillHighestDeliveredPdcpSn : Option UInt32 × Bool × DuF1uBearer := b.fillLatest .highestDeliveredPdcpSn

def fillHighestRetransmittedPdcpSn : Option UInt32 × Bool × DuF1uBearer := b.fillChanged .highestRetransmittedPdcpSn

def fillHighestDeliveredRetransmittedPdcpSn : Option UInt32 × Bool × DuF1uBearer :=
  b.fillChanged .highestDeliveredRetransmittedPdcpSn

def fillDataDeliveryStatus (w : StatusStores) : NruDlDataDeliveryStatus × Bool × DuF1uBearer :=
  let (size, fresh₁, b) := (b.storeAll w.desiredBufferSize).fillDesiredBufferSizeOfDataRadioBearer
  let (transmitted, fresh₂, b) := (b.storeAll w.transmitted).fillHighestTransmittedPdcpSn
  let (delivered, fresh₃, b) := (b.storeAll w.delivered).fillHighestDeliveredPdcpSn
  let (retransmitted, fresh₄, b) := (b.storeAll w.retransmitted).fillHighestRetransmittedPdcpSn
  let (deliveredRetransmitted, fresh₅, b) :=
    (b.storeAll w.deliveredRetransmitted).fillHighestDeliveredRetransmittedPdcpSn
  (⟨size, transmitted, delivered, retransmitted, deliveredRetransmitted⟩,
    fresh₁ || fresh₂ || fresh₃ || fresh₄ || fresh₅, b)

def sendDataDeliveryStatus (force : Bool) (w : StatusStores) : DuF1uBearer × List NruUlMessage :=
  let (status, fresh, b) := b.fillDataDeliveryStatus w
  if !fresh && !force then (b, []) else (b, [⟨none, some status⟩])

def onExpiredUlNotifTimer (w : StatusStores) : DuF1uBearer × List NruUlMessage := b.sendDataDeliveryStatus false w

end Status

section Uplink

def ulBufferFull : Bool := b.cfg.ulBufferSize ≤ b.ulBuffer.length

def handleSdu (sdu : UlSdu) (w : StatusStores) : DuF1uBearer × List NruUlMessage :=
  let (status, _, b) := b.fillDataDeliveryStatus w
  let msg : NruUlMessage := ⟨some sdu.val, some status⟩
  if b.buffering then
    if b.ulBufferFull then (b, []) else ({ b with ulBuffer := b.ulBuffer ++ [msg] }, [])
  else (b, [msg])

def flushUlBuffer : DuF1uBearer × List NruUlMessage :=
  if b.buffering then ({ b with ulBuffer := [], buffering := false }, b.ulBuffer) else (b, [])

end Uplink

section Downlink

def deliverTPdu (msg : NruDlMessage) : List DuNotification :=
  if msg.tPdu ≠ [] then [.onNewSdu msg.tPdu msg.dlUserData.retransmissionFlag] else []

def handleDiscardBlocks : Option (List NruPdcpSnDiscardBlock) → List DuNotification
  | none => []
  | some blocks => blocks.flatMap fun block => block.pdcpSns.map .onDiscardSdu

def handlePduImpl (msg : NruDlMessage) (w : StatusStores) : DuF1uBearer × List DuNotification × List NruUlMessage :=
  let (b, sent) := if msg.dlUserData.reportPolling then b.sendDataDeliveryStatus true w else (b, [])
  (b, deliverTPdu msg ++ handleDiscardBlocks msg.dlUserData.discardBlocks, sent)

end Downlink

end DuF1uBearer

end OwlsRan.F1u
