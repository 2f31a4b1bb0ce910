import OwlsRan.Pdcp.PdcpSn
import OwlsRan.Rlc.SduWindow
import OwlsRan.Support.BitEncoding

/-!
# The receiving side of PDCP

`pdcp_entity_rx`, from the data PDUs of the lower layer to the SDUs in order. Deciphering and the check of the integrity
lie between `handleDataPdu` and `applyReordering`, and may hand on the PDUs in any order.
-/

namespace OwlsRan.Pdcp
open OwlsRan.Lib OwlsRan.Rlc OwlsRan.Support

inductive PdcpTReordering where
  | ms0
  | ms (timeout : Nat)
  | infinity
deriving DecidableEq

/-- `pdcp_max_count`: above `notify` the RRC is to refresh the keys, from `hard` on nothing is received or sent. -/
structure PdcpMaxCount where
  notify : UInt32
  hard : UInt32
deriving DecidableEq

structure PdcpRxConfig where
  snSize : PdcpSnSize
  tReordering : PdcpTReordering
  maxCount : PdcpMaxCount
deriving DecidableEq

structure PdcpRxSduInfo where
  buf : List UInt8
  count : Nat
deriving DecidableEq

structure PdcpRxEntity where
  rxNext : Nat
  rxDeliv : Nat
  rxReord : Nat
  rxWindow : SduWindow PdcpRxSduInfo
  reorderingTimerRunning : Bool
  maxCountNotified : Bool
  maxCountOverflow : Bool

inductive PdcpCountNotification where
  | maxCountReached
  | protocolFailure
deriving DecidableEq

def pdcpControlPduMaxSize : Nat := 9000

namespace PdcpRxEntity

variable (cfg : PdcpRxConfig)

def start : PdcpRxEntity where
  rxNext := 0
  rxDeliv := 0
  rxReord := 0
  rxWindow := .new cfg.snSize.windowSize cfg.snSize.windowSize_pos
  reorderingTimerRunning := false
  maxCountNotified := false
  maxCountOverflow := false

def readDataPduHeader (pdu : List UInt8) : Option Nat :=
  match cfg.snSize, pdu with
  | .size12bits, b0 :: b1 :: _ :: _ => some (b0.toNat % 16 * 256 + b1.toNat)
  | .size18bits, b0 :: b1 :: b2 :: _ :: _ => some (b0.toNat % 4 * 65536 + b1.toNat * 256 + b2.toNat)
  | _, _ => none

variable (s : PdcpRxEntity)

def rcvdCount (sn : Nat) : Nat := estimateCount cfg.snSize s.rxDeliv sn

/-- The entity, what the upper layer is told, and the COUNT with which the PDU is passed on to be deciphered. -/
def handleDataPdu (pdu : List UInt8) : PdcpRxEntity × List PdcpCountNotification × Option Nat :=
  match readDataPduHeader cfg pdu with
  | none => (s, [], none)
  | some sn =>
    let count := s.rcvdCount cfg sn
    let notify := decide (cfg.maxCount.notify.toNat < count) && !s.maxCountNotified
    let notes : List PdcpCountNotification := if notify then [.maxCountReached] else []
    let s := { s with maxCountNotified := s.maxCountNotified || notify }
    if cfg.maxCount.hard.toNat ≤ count then
      ({ s with maxCountOverflow := true }, notes ++ if s.maxCountOverflow then [] else [.protocolFailure], none)
    else (s, notes, some count)

/-- The loop of `deliver_all_consecutive_counts`, which reaches RX_NEXT after the given number of rounds. -/
def deliverConsecutive : Nat → PdcpRxEntity → PdcpRxEntity × List PdcpRxSduInfo
  | 0, s => (s, [])
  | n + 1, s => match s.rxWindow.find? s.rxDeliv with
    | none => (s, [])
    | some info =>
      let (s, sdus) := deliverConsecutive n { s with rxWindow := s.rxWindow.erase s.rxDeliv, rxDeliv := s.rxDeliv + 1 }
      (s, info :: sdus)

def deliverAllConsecutiveCounts : PdcpRxEntity × List PdcpRxSduInfo := deliverConsecutive (s.rxNext - s.rxDeliv) s

/-- The first loop of `handle_t_reordering_expire`, which reaches RX_REORD after the given number of rounds. -/
def deliverUpTo : Nat → PdcpRxEntity → PdcpRxEntity × List PdcpRxSduInfo
  | 0, s => (s, [])
  | n + 1, s =>
    let next := { s with rxWindow := s.rxWindow.erase s.rxDeliv, rxDeliv := s.rxDeliv + 1 }
    match s.rxWindow.find? s.rxDeliv with
    | none => deliverUpTo n { s with rxDeliv := s.rxDeliv + 1 }
    | some info =>
      let (s, sdus) := deliverUpTo n next
      (s, info :: sdus)

def handleTReorderingExpire : PdcpRxEntity × List PdcpRxSduInfo :=
  let (s, sdus) := deliverUpTo (s.rxReord - s.rxDeliv) s
  let (s, sdus') := s.deliverAllConsecutiveCounts
  if s.rxDeliv < s.rxNext ∧ cfg.tReordering ≠ .ms0 then
    ({ s with rxReord := s.rxNext, reorderingTimerRunning := true }, sdus ++ sdus')
  else (s, sdus ++ sdus')

/-- The end of `apply_reordering`. -/
def handleReorderingTimers : PdcpRxEntity × List PdcpRxSduInfo :=
  let s := if s.reorderingTimerRunning ∧ s.rxReord ≤ s.rxDeliv then { s with reorderingTimerRunning := false } else s
  match cfg.tReordering with
  | .infinity => (s, [])
  | .ms0 => handleTReorderingExpire cfg { s with rxReord := s.rxNext }
  | .ms _ =>
    if ¬s.reorderingTimerRunning ∧ s.rxDeliv < s.rxNext then
      ({ s with rxReord := s.rxNext, reorderingTimerRunning := true }, [])
    else (s, [])

def applyReordering (info : PdcpRxSduInfo) : Except RlcAbort (PdcpRxEntity × List PdcpRxSduInfo) := do
  if info.count < s.rxDeliv then .ok (s, [])
  else
    let stored := s.rxWindow.find? info.count
    if stored.any (·.count = info.count) then .ok (s, [])
    else
      let window := if stored.isSome then s.rxWindow.erase info.count else s.rxWindow
      let window ← SduWindow.addSn window info.count info
      let s := { s with rxWindow := window, rxNext := if s.rxNext ≤ info.count then info.count + 1 else s.rxNext }
      let (s, sdus) := if info.count = s.rxDeliv then s.deliverAllConsecutiveCounts else (s, [])
      let (s, sdus') := s.handleReorderingTimers cfg
      .ok (s, sdus ++ sdus')

def bitmapEnd : Nat :=
  let maxBits := (pdcpControlPduMaxSize - 5) * 8
  let bitmapBegin := (s.rxDeliv + 1) % 2 ^ 32
  if bitmapBegin < s.rxNext ∧ maxBits < s.rxNext - bitmapBegin then bitmapBegin + maxBits else s.rxNext

def compileStatusReport : List UInt8 :=
  let enc := BitEncoder.empty
  let enc := ((enc.pack 0 1).pack 0 3).pack 0 4
  let enc := enc.pack s.rxDeliv 32
  let bitmapBegin := (s.rxDeliv + 1) % 2 ^ 32
  ((List.range' bitmapBegin (s.bitmapEnd - bitmapBegin)).foldl
    (fun enc i => enc.pack (SduWindow.hasSn s.rxWindow i).toNat 1) enc).data

end PdcpRxEntity

end OwlsRan.Pdcp
