import OwlsRan.Support.BitEncoding

/-!
# GTP-U headers

A header has eight bytes, four optional ones, and a chain of extension headers, each of which says the type of the next.
-/

namespace OwlsRan.Gtpu
open OwlsRan.Support

def GTPU_BASE_HEADER_LEN : Nat := 8
def GTPU_EXTENDED_HEADER_LEN : Nat := 12
def GTPU_FLAGS_VERSION_V1 : Nat := 1
def GTPU_FLAGS_GTP_PROTOCOL : Nat := 1
def GTPU_MSG_ECHO_REQUEST : UInt8 := 1
def GTPU_MSG_ECHO_RESPONSE : UInt8 := 2
def GTPU_MSG_ERROR_INDICATION : UInt8 := 26
def GTPU_MSG_END_MARKER : UInt8 := 254
def GTPU_MSG_DATA_PDU : UInt8 := 255
def GTPU_MAX_NUM_HEADER_EXTENSIONS : Nat := 10

/-- `gtpu_extension_header_type`: one byte, any value of which can be received. -/
abbrev GtpuExtensionHeaderType := UInt8

namespace GtpuExtensionHeaderType

def noMoreExtensionHeaders : GtpuExtensionHeaderType := 0b00000000
def reserved0 : GtpuExtensionHeaderType := 0b00000001
def reserved1 : GtpuExtensionHeaderType := 0b00000010
def nrRanContainer : GtpuExtensionHeaderType := 0b10000100
def pduSessionContainer : GtpuExtensionHeaderType := 0b10000101
def pdcpPduNumber : GtpuExtensionHeaderType := 0b11000000
def reserved2 : GtpuExtensionHeaderType := 0b11000001
def reserved3 : GtpuExtensionHeaderType := 0b11000010

end GtpuExtensionHeaderType

open GtpuExtensionHeaderType

structure GtpuExtensionHeader where
  extensionHeaderType : GtpuExtensionHeaderType
  container : List UInt8
deriving DecidableEq

structure GtpuFlags where
  version : Nat
  protocolType : Nat
  extHdr : Bool
  seqNumber : Bool
  nPdu : Bool
deriving DecidableEq

structure GtpuHeader where
  flags : GtpuFlags
  messageType : UInt8
  length : UInt16
  teid : UInt32
  seqNumber : UInt16
  nPdu : UInt8
  nextExtHdrType : GtpuExtensionHeaderType
  extList : List GtpuExtensionHeader
deriving DecidableEq

section Checks

def gtpuSupportedFlagsCheck (header : GtpuHeader) : Bool :=
  if header.flags.version ≠ GTPU_FLAGS_VERSION_V1 then false
  else if header.flags.protocolType ≠ GTPU_FLAGS_GTP_PROTOCOL then false
  else if header.flags.nPdu then false
  else true

def gtpuSupportedMsgTypeCheck (header : GtpuHeader) : Bool :=
  if header.messageType ≠ GTPU_MSG_DATA_PDU ∧ header.messageType ≠ GTPU_MSG_ECHO_REQUEST ∧
      header.messageType ≠ GTPU_MSG_ECHO_RESPONSE ∧ header.messageType ≠ GTPU_MSG_ERROR_INDICATION ∧
      header.messageType ≠ GTPU_MSG_END_MARKER then false
  else true

def gtpuExtensionHeaderComprehensionCheck (type : GtpuExtensionHeaderType) : Bool :=
  if type = noMoreExtensionHeaders then true
  else if type = nrRanContainer ∨ type = pduSessionContainer then true
  else if type = pdcpPduNumber then true
  else if type = reserved0 ∨ type = reserved1 ∨ type = reserved2 ∨ type = reserved3 then false
  else
    let comp := type.toNat >>> 6
    !(comp = 0b10 ∨ comp = 0b11)

end Checks

section Write

def GtpuHeader.hasOptional (header : GtpuHeader) : Bool :=
  !header.extList.isEmpty || header.flags.seqNumber || header.flags.nPdu

def gtpuGetLength (header : GtpuHeader) (sdu : List UInt8) : UInt16 :=
  let len : UInt16 := .ofNat sdu.length
  let len := if header.hasOptional then len + 4 else len
  header.extList.foldl (fun len ext => len + 2 + .ofNat ext.container.length) len

inductive GtpuWriteFault where
  | unsupported
  | invalidExtensionSize
deriving DecidableEq

def gtpuWriteExtHeader (encoder : BitEncoder) (ext : GtpuExtensionHeader)
    (nextExtensionHeaderType : GtpuExtensionHeaderType) : Except GtpuWriteFault BitEncoder :=
  let payload := (1 + ext.container.length + 1) % 256
  if payload % 4 ≠ 0 then .error .invalidExtensionSize
  else
    let length := payload / 4
    let encoder := encoder.pack length 8
    let encoder := encoder.packBytes ext.container
    .ok (encoder.pack nextExtensionHeaderType.toNat 8)

def nextType : List GtpuExtensionHeader → GtpuExtensionHeaderType
  | [] => noMoreExtensionHeaders
  | ext :: _ => ext.extensionHeaderType

def gtpuWriteExtensions (encoder : BitEncoder) : List GtpuExtensionHeader → Except GtpuWriteFault BitEncoder
  | [] => .ok encoder
  | ext :: exts => do
    let encoder ← gtpuWriteExtHeader encoder ext (nextType exts)
    gtpuWriteExtensions encoder exts

def gtpuWriteBaseHeader (pdu : List UInt8) (header : GtpuHeader) : BitEncoder :=
  let encoder := BitEncoder.empty.pack header.flags.version 3
  let encoder := encoder.pack header.flags.protocolType 1
  let encoder := encoder.pack 0 1
  let encoder := encoder.pack (if header.extList.isEmpty then 0 else 1) 1
  let encoder := encoder.pack (if header.flags.seqNumber then 1 else 0) 1
  let encoder := encoder.pack (if header.flags.nPdu then 1 else 0) 1
  let encoder := encoder.pack header.messageType.toNat 8
  let encoder := encoder.pack (gtpuGetLength header pdu).toNat 16
  encoder.pack header.teid.toNat 32

def gtpuWriteOptional (encoder : BitEncoder) (header : GtpuHeader) : BitEncoder :=
  if header.hasOptional then
    let encoder := encoder.pack header.seqNumber.toNat 16
    let encoder := encoder.pack header.nPdu.toNat 8
    encoder.pack (nextType header.extList).toNat 8
  else encoder

/-- `gtpu_write_header`: the header is prepended to the PDU. -/
def gtpuWriteHeader (pdu : List UInt8) (header : GtpuHeader) : Except GtpuWriteFault (List UInt8) :=
  if !gtpuSupportedFlagsCheck header then .error .unsupported
  else if !gtpuSupportedMsgTypeCheck header then .error .unsupported
  else do
    let encoder := gtpuWriteOptional (gtpuWriteBaseHeader pdu header) header
    let encoder ← gtpuWriteExtensions encoder header.extList
    return encoder.data ++ pdu

end Write

section Dissect

structure GtpuDissectedPdu where
  buf : List UInt8
  hdr : GtpuHeader
  hdrLen : Nat
deriving DecidableEq

def gtpuUnpackExtHeaderType (decoder : BitDecoder) : GtpuExtensionHeaderType × BitDecoder :=
  let (_, tmp, decoder) := decoder.unpack 8
  (.ofNat tmp, decoder)

/-- `length * 4 - 2` in 16 bits: the size of a container. -/
def extPayloadSize (length : Nat) : Nat := if length = 0 then 65536 - 2 else length * 4 - 2

def gtpuReadContainer (payload : Nat) (decoder : BitDecoder) : List UInt8 × GtpuExtensionHeaderType × BitDecoder :=
  let (container, decoder) := decoder.unpackAlignedBytes payload
  let (next, decoder) := gtpuUnpackExtHeaderType decoder
  (container, next, decoder)

/-- What the reads return is not looked at: missing bytes are read as zeros and as an empty container. -/
def gtpuReadExtHeader (decoder : BitDecoder) : List UInt8 × GtpuExtensionHeaderType × BitDecoder :=
  let (_, length, decoder) := decoder.unpack 8
  gtpuReadContainer (extPayloadSize length) decoder

/-- The loop over the extension headers, with space for `room` further ones in the list. When there is none, the header
that was read is refused. -/
def gtpuReadExtensions : Nat → GtpuExtensionHeaderType → BitDecoder → Option (List GtpuExtensionHeader × BitDecoder)
  | 0, _, _ => none
  | room + 1, type, decoder =>
    if gtpuExtensionHeaderComprehensionCheck type then
      let (container, next, decoder) := gtpuReadExtHeader decoder
      if next = noMoreExtensionHeaders then some ([⟨type, container⟩], decoder)
      else (gtpuReadExtensions room next decoder).map fun (exts, decoder) => (⟨type, container⟩ :: exts, decoder)
    else none

def gtpuUnpackFlags (decoder : BitDecoder) : GtpuFlags × BitDecoder :=
  let (_, version, decoder) := decoder.unpack 3
  let (_, protocolType, decoder) := decoder.unpack 1
  let (_, _, decoder) := decoder.unpack 1
  let (_, extHdr, decoder) := decoder.unpack 1
  let (_, seqNumber, decoder) := decoder.unpack 1
  let (_, nPdu, decoder) := decoder.unpack 1
  (⟨version, protocolType, extHdr ≠ 0, seqNumber ≠ 0, nPdu ≠ 0⟩, decoder)

def gtpuUnpackBaseHeader (decoder : BitDecoder) : GtpuHeader × BitDecoder :=
  let (flags, decoder) := gtpuUnpackFlags decoder
  let (_, messageType, decoder) := decoder.unpack 8
  let (_, length, decoder) := decoder.unpack 16
  let (_, teid, decoder) := decoder.unpack 32
  (⟨flags, .ofNat messageType, .ofNat length, .ofNat teid, 0, 0, noMoreExtensionHeaders, []⟩, decoder)

def gtpuUnpackOptional (pduLen : Nat) (hdr : GtpuHeader) (decoder : BitDecoder) : Option (GtpuHeader × BitDecoder) :=
  if hdr.flags.extHdr || hdr.flags.seqNumber || hdr.flags.nPdu then
    if pduLen < GTPU_EXTENDED_HEADER_LEN then none
    else
      let (_, seqNumber, decoder) := decoder.unpack 16
      let (_, nPdu, decoder) := decoder.unpack 8
      let (next, decoder) := gtpuUnpackExtHeaderType decoder
      if !gtpuExtensionHeaderComprehensionCheck next then none
      else some ({ hdr with seqNumber := .ofNat seqNumber, nPdu := .ofNat nPdu, nextExtHdrType := next }, decoder)
  else some (hdr, decoder)

/-- The end of `gtpu_dissect_pdu`: the extension headers are read and the header length is saved. -/
def gtpuDissectExtensions (rawPdu : List UInt8) (hdr : GtpuHeader) (decoder : BitDecoder) : Option GtpuDissectedPdu :=
  if hdr.flags.extHdr then
    if hdr.nextExtHdrType = noMoreExtensionHeaders then none
    else
      (gtpuReadExtensions GTPU_MAX_NUM_HEADER_EXTENSIONS hdr.nextExtHdrType decoder).map fun (exts, decoder) =>
        ⟨rawPdu, { hdr with extList := exts }, decoder.nofBytes⟩
  else some ⟨rawPdu, hdr, decoder.nofBytes⟩

def gtpuDissectPdu (rawPdu : List UInt8) : Option GtpuDissectedPdu :=
  if rawPdu.length < GTPU_BASE_HEADER_LEN then none
  else
    let (hdr, decoder) := gtpuUnpackBaseHeader (.ofBytes rawPdu)
    if !gtpuSupportedFlagsCheck hdr then none
    else
      let expectedLength : UInt16 := .ofNat (rawPdu.length - GTPU_BASE_HEADER_LEN)
      if hdr.length ≠ expectedLength then none
      else
        (gtpuUnpackOptional rawPdu.length hdr decoder).bind fun (hdr, decoder) =>
          gtpuDissectExtensions rawPdu hdr decoder

def gtpuExtractMsg (dissectedPdu : GtpuDissectedPdu) : List UInt8 := dissectedPdu.buf.drop dissectedPdu.hdrLen

end Dissect

end OwlsRan.Gtpu
