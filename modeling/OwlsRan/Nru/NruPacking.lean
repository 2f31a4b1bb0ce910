import OwlsRan.F1u.F1uBearer
import OwlsRan.Support.BitFields

/-!
# NR-U packing

The encoder and the decoder of the NR-U frames. Octets are appended to the output buffer, and allocation succeeds.
-/

namespace OwlsRan.Nru
open OwlsRan.Support OwlsRan.Support.BitReader
open OwlsRan.F1u (NruPdcpSnDiscardBlock nruMaxNofPdcpSnDiscardBlocks)

inductive NruPduType where
  | dlUserData
  | dlDataDeliveryStatus
  | assistanceInformation
  | reserved
deriving DecidableEq

def nruPduTypeToUint : NruPduType → Nat
  | .dlUserData => 0
  | .dlDataDeliveryStatus => 1
  | .assistanceInformation => 2
  | .reserved => 3

/-- Capacity of `nru_lost_nru_sn_ranges`. -/
def nruMaxNofLostNruSnRanges : Nat := 2

structure NruLostNruSnRange where
  nruSnStart : UInt32
  nruSnEnd : UInt32
deriving DecidableEq

/-- `nru_dl_user_data` with the fields that only the codec looks at. -/
structure NruDlUserData extends F1u.NruDlUserData where
  requestOutOfSeqReport : Bool := false
  reportDelivered : Bool := false
  userDataExistenceFlag : Bool := false
  assistInfoReportPollingFlag : Bool := false
  nruSn : UInt32 := 0
  dlDiscardPdcpSn : Option UInt32 := none
  dlReportPdcpSn : UInt32 := 0
deriving DecidableEq

/-- `nru_dl_data_delivery_status` with the fields that only the codec looks at. -/
structure NruDlDataDeliveryStatus extends F1u.NruDlDataDeliveryStatus where
  desiredBufferSizeForDrb := 0
  highestTransmittedPdcpSn := none
  highestDeliveredPdcpSn := none
  highestRetransmittedPdcpSn := none
  highestDeliveredRetransmittedPdcpSn := none
  finalFrameInd : Bool := false
  desiredDataRate : Option UInt32 := none
  lostNruSnRanges : Option (List NruLostNruSnRange) := none
  causeValue : Option UInt8 := none
deriving DecidableEq

def addPadding (startLen : Nat) : Nat → List UInt8 → List UInt8
  | 0, outBuf => outBuf
  | n + 1, outBuf =>
    if (outBuf.length - startLen + 2) % 4 ≠ 0 then addPadding startLen n (outBuf ++ [0]) else outBuf

section Decoding

def flag : BitReader Bool := (· != 0) <$> field 1

def uncheckedFlag : BitReader Bool := (· != 0) <$> uncheckedField 1

def hasValidLength (container : List UInt8) : Bool := !container.isEmpty && (container.length + 2) % 4 == 0

def readDiscardBlock : BitReader NruPdcpSnDiscardBlock := do
  let pdcpSnStart ← field 24
  let blockSize ← field 8
  pure ⟨.ofNat pdcpSnStart, .ofNat blockSize⟩

def readDiscardBlocks : BitReader (List NruPdcpSnDiscardBlock) := do
  let nofDiscardBlocks ← field 8
  guard (nofDiscardBlocks ≤ nruMaxNofPdcpSnDiscardBlocks)
  BitReader.replicate readDiscardBlock nofDiscardBlocks

/-- What is not in the container stays as it is in `m`. -/
def readDlUserData (m : NruDlUserData) : BitReader NruDlUserData := do
  let pduType ← field 4
  guard (pduType = nruPduTypeToUint .dlUserData)
  let spare ← field 1
  guard (spare = 0)
  let dlDiscardBlocks ← flag
  let dlFlush ← flag
  let reportPolling ← flag
  let spare ← field 3
  guard (spare = 0)
  let requestOutOfSeqReport ← uncheckedFlag
  let reportDelivered ← uncheckedFlag
  let userDataExistenceFlag ← uncheckedFlag
  let assistInfoReportPollingFlag ← uncheckedFlag
  let retransmissionFlag ← flag
  let nruSn ← field 24
  let dlDiscardPdcpSn ← optional dlFlush (field 24)
  let discardBlocks ← optional dlDiscardBlocks readDiscardBlocks
  let dlReportPdcpSn ← optional reportDelivered (field 24)
  pure {
    reportPolling, requestOutOfSeqReport, reportDelivered, userDataExistenceFlag, assistInfoReportPollingFlag,
    retransmissionFlag
    nruSn := .ofNat nruSn
    dlDiscardPdcpSn := (dlDiscardPdcpSn.map UInt32.ofNat).or m.dlDiscardPdcpSn
    discardBlocks := discardBlocks.or m.discardBlocks
    dlReportPdcpSn := (dlReportPdcpSn.map UInt32.ofNat).getD m.dlReportPdcpSn }

def unpackDlUserData (m : NruDlUserData) (container : List UInt8) : Option NruDlUserData :=
  if hasValidLength container then (readDlUserData m).run' (.ofBytes container) else none

def readLostNruSnRange : BitReader NruLostNruSnRange := do
  let nruSnStart ← field 24
  let nruSnEnd ← field 24
  pure ⟨.ofNat nruSnStart, .ofNat nruSnEnd⟩

def readLostNruSnRanges : BitReader (List NruLostNruSnRange) := do
  let nofLostSnRanges ← field 8
  guard (nofLostSnRanges ≤ nruMaxNofLostNruSnRanges)
  BitReader.replicate readLostNruSnRange nofLostSnRanges

/-- The fields follow each other in another order than their flags. -/
def readDlDataDeliveryStatus (s : NruDlDataDeliveryStatus) : BitReader NruDlDataDeliveryStatus := do
  let pduType ← field 4
  guard (pduType = nruPduTypeToUint .dlDataDeliveryStatus)
  let highestTransmittedPdcpSnIndication ← flag
  let highestDeliveredPdcpSnIndication ← flag
  let finalFrameInd ← flag
  let lostPacketReport ← flag
  let spare ← field 4
  guard (spare = 0)
  let dataRateIndication ← flag
  let highestRetransmittedPdcpSnIndication ← flag
  let highestDeliveredRetransmittedPdcpSnIndication ← flag
  let causeReport ← flag
  let desiredBufferSizeForDrb ← field 32
  let desiredDataRate ← optional dataRateIndication (field 32)
  let lostNruSnRanges ← optional lostPacketReport readLostNruSnRanges
  let highestDeliveredPdcpSn ← optional highestDeliveredPdcpSnIndication (field 24)
  let highestTransmittedPdcpSn ← optional highestTransmittedPdcpSnIndication (field 24)
  let causeValue ← optional causeReport (field 8)
  let highestDeliveredRetransmittedPdcpSn ← optional highestDeliveredRetransmittedPdcpSnIndication (field 24)
  let highestRetransmittedPdcpSn ← optional highestRetransmittedPdcpSnIndication (field 24)
  pure {
    finalFrameInd
    desiredBufferSizeForDrb := .ofNat desiredBufferSizeForDrb
    desiredDataRate := (desiredDataRate.map UInt32.ofNat).or s.desiredDataRate
    lostNruSnRanges := lostNruSnRanges.or s.lostNruSnRanges
    highestDeliveredPdcpSn := (highestDeliveredPdcpSn.map UInt32.ofNat).or s.highestDeliveredPdcpSn
    highestTransmittedPdcpSn := (highestTransmittedPdcpSn.map UInt32.ofNat).or s.highestTransmittedPdcpSn
    causeValue := (causeValue.map UInt8.ofNat).or s.causeValue
    highestDeliveredRetransmittedPdcpSn :=
      (highestDeliveredRetransmittedPdcpSn.map UInt32.ofNat).or s.highestDeliveredRetransmittedPdcpSn
    highestRetransmittedPdcpSn := (highestRetransmittedPdcpSn.map UInt32.ofNat).or s.highestRetransmittedPdcpSn }

def unpackDlDataDeliveryStatus (s : NruDlDataDeliveryStatus) (container : List UInt8) :
    Option NruDlDataDeliveryStatus :=
  if hasValidLength container then (readDlDataDeliveryStatus s).run' (.ofBytes container) else none

end Decoding

section Encoding

def writeDiscardBlocks (e : BitEncoder) (blocks : List NruPdcpSnDiscardBlock) : BitEncoder :=
  blocks.foldl (fun e block => (e.pack block.pdcpSnStart.toNat 24).pack block.blockSize.toNat 8) (e.pack blocks.length 8)

def writeDlUserData (e : BitEncoder) (m : NruDlUserData) : BitEncoder :=
  let discardBlocks := m.discardBlocks.getD []
  let dlDiscardBlocks := m.discardBlocks.isSome && !discardBlocks.isEmpty
  let e := e.pack (nruPduTypeToUint .dlUserData) 4
  let e := e.pack 0 1
  let e := e.pack dlDiscardBlocks.toNat 1
  let e := e.pack m.dlDiscardPdcpSn.isSome.toNat 1
  let e := e.pack m.reportPolling.toNat 1
  let e := e.pack 0 3
  let e := e.pack m.requestOutOfSeqReport.toNat 1
  let e := e.pack m.reportDelivered.toNat 1
  let e := e.pack m.userDataExistenceFlag.toNat 1
  let e := e.pack m.assistInfoReportPollingFlag.toNat 1
  let e := e.pack m.retransmissionFlag.toNat 1
  let e := e.pack m.nruSn.toNat 24
  let e := e.packOptional (m.dlDiscardPdcpSn.map UInt32.toNat) 24
  let e := if dlDiscardBlocks then writeDiscardBlocks e discardBlocks else e
  if m.reportDelivered then e.pack m.dlReportPdcpSn.toNat 24 else e

def packDlUserData (outBuf : List UInt8) (m : NruDlUserData) : List UInt8 :=
  addPadding outBuf.length 4 (writeDlUserData ⟨outBuf, 0, 0⟩ m).data

def writeLostNruSnRanges (e : BitEncoder) (ranges : List NruLostNruSnRange) : BitEncoder :=
  ranges.foldl (fun e range => (e.pack range.nruSnStart.toNat 24).pack range.nruSnEnd.toNat 24) (e.pack ranges.length 8)

def writeDlDataDeliveryStatus (e : BitEncoder) (s : NruDlDataDeliveryStatus) : BitEncoder :=
  let e := e.pack (nruPduTypeToUint .dlDataDeliveryStatus) 4
  let e := e.pack s.highestTransmittedPdcpSn.isSome.toNat 1
  let e := e.pack s.highestDeliveredPdcpSn.isSome.toNat 1
  let e := e.pack s.finalFrameInd.toNat 1
  let e := e.pack s.lostNruSnRanges.isSome.toNat 1
  let e := e.pack 0 4
  let e := e.pack s.desiredDataRate.isSome.toNat 1
  let e := e.pack s.highestRetransmittedPdcpSn.isSome.toNat 1
  let e := e.pack s.highestDeliveredRetransmittedPdcpSn.isSome.toNat 1
  let e := e.pack s.causeValue.isSome.toNat 1
  let e := e.pack s.desiredBufferSizeForDrb.toNat 32
  let e := e.packOptional (s.desiredDataRate.map UInt32.toNat) 32
  -- A list without ranges is announced and written, unlike a list without discard blocks.
  let e := match s.lostNruSnRanges with
    | none => e
    | some ranges => writeLostNruSnRanges e ranges
  let e := e.packOptional (s.highestDeliveredPdcpSn.map UInt32.toNat) 24
  let e := e.packOptional (s.highestTransmittedPdcpSn.map UInt32.toNat) 24
  let e := e.packOptional (s.causeValue.map UInt8.toNat) 8
  let e := e.packOptional (s.highestDeliveredRetransmittedPdcpSn.map UInt32.toNat) 24
  e.packOptional (s.highestRetransmittedPdcpSn.map UInt32.toNat) 24

def packDlDataDeliveryStatus (outBuf : List UInt8) (s : NruDlDataDeliveryStatus) : List UInt8 :=
  addPadding outBuf.length 4 (writeDlDataDeliveryStatus ⟨outBuf, 0, 0⟩ s).data

end Encoding

end OwlsRan.Nru
