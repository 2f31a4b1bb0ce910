import Mathlib.Algebra.Group.Nat.Defs
import Mathlib.Tactic.IntervalCases
import OwlsRan.Lib.ByteReader
import OwlsRan.Ofh.UplaneDownlinkData

/-!
# Decoding of uplink U-Plane messages

`uplane_message_decoder_impl` with either of its compression headers. The deserializer is the list of bytes that remain,
and to read past its end is a fault. Shifts and masks are written with `/` and `%`.
-/

namespace OwlsRan.Ofh

open Lib

def MAX_NOF_SUPPORTED_SECTIONS : ℕ := 1

def RESULTS_MAX_NOF_SUPPORTED_SECTIONS : ℕ := 2

def OFH_PAYLOAD_VERSION : ℕ := 1

def NOF_BYTES_UP_HEADER : ℕ := 4

def SECTION_ID_HEADER_NO_COMPRESSION_SIZE : ℕ := 4

def NOF_SUBFRAMES_PER_FRAME : ℕ := 10

inductive DataDirection where
  | uplink | downlink
deriving DecidableEq

inductive FilterIndexType where
  | standardChannelFilter | ulPrachPreamble1p25khz | ulPrachPreamble5kHz | ulPrachPreambleShort | ulNprachPreamble
  | ulPrachPreamble7p5kHz | ulPrachPreambleShort15kHz | ulPrachPreambleShort30kHz | reserved
deriving DecidableEq

def toFilterIndexType : ℕ → FilterIndexType
  | 0 => .standardChannelFilter
  | 1 => .ulPrachPreamble1p25khz
  | 2 => .ulPrachPreamble5kHz
  | 3 => .ulPrachPreambleShort
  | 4 => .ulNprachPreamble
  | 5 => .ulPrachPreamble7p5kHz
  | 6 => .ulPrachPreambleShort15kHz
  | 7 => .ulPrachPreambleShort30kHz
  | _ => .reserved

def toCompressionType : ℕ → CompressionType
  | 0 => .none
  | 1 => .bfp
  | 2 => .blockScaling
  | 3 => .muLaw
  | 4 => .modulation
  | 5 => .bfpSelective
  | 6 => .modSelective
  | _ => .reserved

/-- `uplane_message_params`, with the parts of the slot point. -/
structure UplaneMessageParams where
  direction : DataDirection
  sfn : ℕ
  subframe : ℕ
  slotId : ℕ
  filterIndex : FilterIndexType
  symbolId : ℕ
deriving DecidableEq

structure UplaneSectionParams (α : Type) where
  sectionId : ℕ
  isEveryRbUsed : Bool
  useCurrentSymbolNumber : Bool
  startPrb : ℕ
  nofPrbs : ℕ
  udCompHdr : RuCompressionParams
  udCompLen : Option ℕ
  udCompParam : Option ℕ
  iqSamples : List α

/-- The decoder with static compression has its parameters from the configuration. The decompressor gives the samples of
the bytes that it is handed. -/
structure UplaneDecoder (α : Type) where
  numerology : Fin 5
  nofSymbols : ℕ
  ruNofPrbs : ℕ
  nofSymbols_le : nofSymbols ≤ 14
  ruNofPrbs_le : ruNofPrbs ≤ MAX_NOF_PRBS
  staticCompression : Option RuCompressionParams
  decompress : RuCompressionParams → List UInt8 → ℕ → α

inductive DecodeFault where
  | pastEnd | sectionsOverflow | samplesOverflow | endless
deriving DecidableEq

/-- What the decoding of a part of a section comes to, with the bytes that remain. -/
inductive DecodedPart (β : Type) where
  | ok (part : β) (rest : ByteReader)
  | incomplete
  | malformed

namespace UplaneDecoder

variable {α : Type} (d : UplaneDecoder α)

def decodeHeader : ByteReader → Except DecodeFault (Option (UplaneMessageParams × ByteReader))
  | bytes =>
    if bytes.length < NOF_BYTES_UP_HEADER then .ok none
    else
      match bytes with
      | value :: frame :: subframeAndSlot :: slotAndSymbol :: rest =>
        let direction : DataDirection := if value.toNat / 128 = 0 then .uplink else .downlink
        let version := value.toNat / 16 % 8
        let filterIndex := toFilterIndexType (value.toNat % 16)
        let subframe := subframeAndSlot.toNat / 16
        let slotId := subframeAndSlot.toNat % 16 * 4 + slotAndSymbol.toNat / 64
        let symbolId := slotAndSymbol.toNat % 64
        if NOF_SUBFRAMES_PER_FRAME ≤ subframe then .ok none
        else if 2 ^ d.numerology.val ≤ slotId then .ok none
        else if direction ≠ .uplink then .ok none
        else if version ≠ OFH_PAYLOAD_VERSION then .ok none
        else if filterIndex = .reserved then .ok none
        else if d.nofSymbols ≤ symbolId then .ok none
        else .ok (some (⟨direction, frame.toNat, subframe, slotId, filterIndex, symbolId⟩, rest))
      | _ => .error .pastEnd

/-- The fields of the section header, with the PRBs that they stand for. -/
structure SectionFields where
  sectionId : ℕ
  isEveryRbUsed : Bool
  useCurrentSymbolNumber : Bool
  startPrb : ℕ
  nofPrbs : ℕ

def decodeSectionHeader (bytes : ByteReader) : Except DecodeFault (DecodedPart SectionFields) :=
  if bytes.length < SECTION_ID_HEADER_NO_COMPRESSION_SIZE then .ok .incomplete
  else
    match bytes with
    | b :: sectionAndRest :: prb :: nofPrb :: rest =>
      let startPrb := sectionAndRest.toNat % 4 * 256 + prb.toNat
      .ok (.ok {
        sectionId := b.toNat * 16 + sectionAndRest.toNat / 16
        isEveryRbUsed := sectionAndRest.toNat / 8 % 2 = 0
        useCurrentSymbolNumber := sectionAndRest.toNat / 4 % 2 = 0
        startPrb := if nofPrb.toNat = 0 then 0 else startPrb
        nofPrbs := if nofPrb.toNat = 0 then d.ruNofPrbs else nofPrb.toNat } rest)
    | _ => .error .pastEnd

/-- The width `0` stands for 16 bits. -/
def dynamicCompressionParams (type : CompressionType) (width : Fin 16) : RuCompressionParams where
  type := type
  dataWidth := if (width : ℕ) = 0 then 16 else width
  dataWidth_pos := by
    split
    · decide
    · rename_i h
      exact Nat.pos_of_ne_zero h
  dataWidth_le := by
    split
    · exact Nat.le_refl 16
    · exact Nat.le_of_lt width.isLt

lemma dataWidth_lt (value : UInt8) : value.toNat / 16 < 16 := Nat.div_lt_of_lt_mul value.toNat_lt

def decodeCompressionHeader (bytes : ByteReader) : Except DecodeFault (DecodedPart RuCompressionParams) :=
  match d.staticCompression with
  | some params => .ok (.ok params bytes)
  | none =>
    if bytes.length < 2 then .ok .incomplete
    else
      match bytes with
      | value :: _ :: rest =>
        let type := toCompressionType (value.toNat % 16)
        if type = .reserved then .ok .malformed
        else .ok (.ok (dynamicCompressionParams type ⟨value.toNat / 16, dataWidth_lt value⟩) rest)
      | _ => .error .pastEnd

/-- The types without a length come back with none. -/
def decodeCompressionLength (type : CompressionType) (bytes : ByteReader) :
    Except DecodeFault (DecodedPart (Option ℕ)) :=
  match type with
  | .none | .bfp | .blockScaling | .muLaw | .modulation => .ok (.ok none bytes)
  | .bfpSelective | .modSelective | .reserved =>
    if bytes.length < 2 then .ok .incomplete
    else
      match bytes with
      | hi :: lo :: rest => .ok (.ok (some (hi.toNat * 256 + lo.toNat)) rest)
      | _ => .error .pastEnd

/-- The size of a PRB as `check_iq_data_size` computes it. -/
def checkedPrbSize (params : RuCompressionParams) : ℕ :=
  bitsToBytes (NOF_SUBCARRIERS_PER_RB * 2 * params.dataWidth) + if isCompressionParamPresent params.type then 1 else 0

def getViewAndAdvance (bytes : ByteReader) (n : ℕ) : Except DecodeFault (List UInt8 × ByteReader) :=
  if bytes.length < n then .error .pastEnd else .ok (bytes.take n, bytes.drop n)

/-- `decode_iq_data` -/
def decodeIqData (nofPrbs : ℕ) (params : RuCompressionParams) (bytes : ByteReader) :
    Except DecodeFault (List α × ByteReader) := do
  let (compressedData, rest) ← getViewAndAdvance bytes (nofPrbs * getCompressedPrbSize params)
  if MAX_NOF_PRBS < nofPrbs then .error .samplesOverflow
  else return ((List.range (nofPrbs * NOF_SUBCARRIERS_PER_RB)).map (d.decompress params compressedData), rest)

def decodeSection (bytes : ByteReader) : Except DecodeFault (DecodedPart (UplaneSectionParams α)) := do
  match ← d.decodeSectionHeader bytes with
  | .incomplete => return .incomplete
  | .malformed => return .malformed
  | .ok fields bytes =>
    match ← d.decodeCompressionHeader bytes with
    | .incomplete => return .incomplete
    | .malformed => return .malformed
    | .ok params bytes =>
      match ← decodeCompressionLength params.type bytes with
      | .incomplete => return .incomplete
      | .malformed => return .malformed
      | .ok udCompLen bytes =>
        if bytes.length < checkedPrbSize params * fields.nofPrbs then return .incomplete
        else
          let (iqSamples, rest) ← d.decodeIqData fields.nofPrbs params bytes
          return .ok ⟨fields.sectionId, fields.isEveryRbUsed, fields.useCurrentSymbolNumber, fields.startPrb,
            fields.nofPrbs, params, udCompLen, none, iqSamples⟩ rest

/-- The loop over the sections, with the bytes of the message as fuel. -/
def decodeAllSections : ℕ → List (UplaneSectionParams α) → ByteReader →
    Except DecodeFault (Option (List (UplaneSectionParams α)))
  | _, sections, [] => .ok (if sections.isEmpty then none else some sections)
  | 0, _, _ :: _ => .error .endless
  | fuel + 1, sections, b :: bytes => do
    match ← d.decodeSection (b :: bytes) with
    | .incomplete => return if sections.isEmpty then none else some sections
    | .malformed => return none
    | .ok section_ rest =>
      if RESULTS_MAX_NOF_SUPPORTED_SECTIONS ≤ sections.length then .error .sectionsOverflow
      else if (sections ++ [section_]).length = RESULTS_MAX_NOF_SUPPORTED_SECTIONS then return none
      else decodeAllSections fuel (sections ++ [section_]) rest

/-- The results, or none when the message is dropped. -/
def decode (message : List UInt8) :
    Except DecodeFault (Option (UplaneMessageParams × List (UplaneSectionParams α))) := do
  match ← d.decodeHeader message with
  | none => return none
  | some (params, bytes) => return (← d.decodeAllSections message.length [] bytes).map (params, ·)

/-- A valid uplink header. -/
structure IsUplinkHeader (params : UplaneMessageParams) (bytes : List UInt8) : Prop where
  direction : params.direction = .uplink
  sfn : params.sfn < 256
  subframe : params.subframe < NOF_SUBFRAMES_PER_FRAME
  slotId : params.slotId < 2 ^ d.numerology.val
  symbolId : params.symbolId < d.nofSymbols
  bytes : ∃ filter < 8, params.filterIndex = toFilterIndexType filter ∧
    bytes = [.ofNat (OFH_PAYLOAD_VERSION * 16 + filter), .ofNat params.sfn,
      .ofNat (params.subframe * 16 + params.slotId / 4), .ofNat (params.slotId % 4 * 64 + params.symbolId)]

/-- The fields of a section header as they are sent. -/
structure SectionHeader where
  sectionId : Fin 4096
  everyOtherRb : Bool
  incrementSymbol : Bool
  startPrb : Fin 1024
  nofPrb : Fin 256

def SectionHeader.bytes (h : SectionHeader) : List UInt8 :=
  [.ofNat (h.sectionId / 16),
    .ofNat (h.sectionId % 16 * 16 + h.everyOtherRb.toNat * 8 + h.incrementSymbol.toNat * 4 + h.startPrb / 256),
    .ofNat (h.startPrb % 256), .ofNat h.nofPrb]

/-- No PRBs stand for all PRBs of the RU. -/
def SectionHeader.fields (h : SectionHeader) : SectionFields :=
  ⟨h.sectionId, !h.everyOtherRb, !h.incrementSymbol, if h.nofPrb.val = 0 then 0 else h.startPrb,
    if h.nofPrb.val = 0 then d.ruNofPrbs else h.nofPrb⟩

inductive IsCompressionHeader : RuCompressionParams → List UInt8 → Prop
  | static {params : RuCompressionParams} (h : d.staticCompression = some params) : IsCompressionHeader params []
  | dynamic (h : d.staticCompression = none) (type : Fin 7) (width : Fin 16) (reservedByte : UInt8) :
    IsCompressionHeader (dynamicCompressionParams (toCompressionType type) width)
      [.ofNat (width * 16 + type), reservedByte]

def HasLength (type : CompressionType) : Prop := type = .bfpSelective ∨ type = .modSelective ∨ type = .reserved

inductive IsCompressionLength (type : CompressionType) : Option ℕ → List UInt8 → Prop
  | absent (h : ¬HasLength type) : IsCompressionLength type none []
  | present (h : HasLength type) (hi lo : UInt8) :
    IsCompressionLength type (some (hi.toNat * 256 + lo.toNat)) [hi, lo]

/-- A complete section, with the samples of its own IQ data. -/
inductive IsSection : UplaneSectionParams α → List UInt8 → Prop
  | mk (h : SectionHeader) {params : RuCompressionParams} {len : Option ℕ} {comp lenBytes iq : List UInt8}
      (hcomp : d.IsCompressionHeader params comp) (hlen : IsCompressionLength params.type len lenBytes)
      (hiq : iq.length = (h.fields d).nofPrbs * getCompressedPrbSize params) :
    IsSection ⟨(h.fields d).sectionId, (h.fields d).isEveryRbUsed, (h.fields d).useCurrentSymbolNumber,
        (h.fields d).startPrb, (h.fields d).nofPrbs, params, len, none,
        (List.range ((h.fields d).nofPrbs * NOF_SUBCARRIERS_PER_RB)).map (d.decompress params iq)⟩
      (h.bytes ++ (comp ++ (lenBytes ++ iq)))

/-- A section that ends in one of its fields. -/
inductive IsTruncated : List UInt8 → Prop
  | header {bytes : List UInt8} (h : bytes.length < SECTION_ID_HEADER_NO_COMPRESSION_SIZE) : IsTruncated bytes
  | compressionHeader (h : SectionHeader) {comp : List UInt8} (hdynamic : d.staticCompression = none)
      (hcomp : comp.length < 2) : IsTruncated (h.bytes ++ comp)
  | compressionLength (h : SectionHeader) {params : RuCompressionParams} {comp lenBytes : List UInt8}
      (hcomp : d.IsCompressionHeader params comp) (hhas : HasLength params.type) (hlen : lenBytes.length < 2) :
    IsTruncated (h.bytes ++ (comp ++ lenBytes))
  | iqData (h : SectionHeader) {params : RuCompressionParams} {len : Option ℕ} {comp lenBytes iq : List UInt8}
      (hcomp : d.IsCompressionHeader params comp) (hlen : IsCompressionLength params.type len lenBytes)
      (hiq : iq.length < (h.fields d).nofPrbs * getCompressedPrbSize params) :
    IsTruncated (h.bytes ++ (comp ++ (lenBytes ++ iq)))

section Fields

lemma toNat_ofNat_byte {n : ℕ} (h : n < 256) : (UInt8.ofNat n).toNat = n := UInt8.toNat_ofNat_of_lt' h

lemma eq_ofNat_iff {b : UInt8} {n : ℕ} (h : n < 256) : b = .ofNat n ↔ b.toNat = n := by
  constructor
  · rintro rfl
    exact toNat_ofNat_byte h
  · rintro rfl
    exact UInt8.ofNat_toNat.symm

lemma toFilterIndexType_eq_reserved : ∀ n, toFilterIndexType n = .reserved ↔ 8 ≤ n := by
  intro n
  rcases Nat.lt_or_ge n 8 with h | h
  · refine iff_of_false ?_ (Nat.not_le.mpr h)
    interval_cases n <;> decide
  · obtain ⟨m, rfl⟩ := Nat.exists_eq_add_of_le' h
    exact iff_of_true rfl h

lemma toCompressionType_eq_reserved (n : ℕ) : toCompressionType n = .reserved ↔ 7 ≤ n := by
  rcases Nat.lt_or_ge n 7 with h | h
  · refine iff_of_false ?_ (Nat.not_le.mpr h)
    interval_cases n <;> decide
  · obtain ⟨m, rfl⟩ := Nat.exists_eq_add_of_le' h
    exact iff_of_true rfl h

lemma checkedPrbSize_eq (params : RuCompressionParams) : checkedPrbSize params = getCompressedPrbSize params := by
  unfold checkedPrbSize getCompressedPrbSize bitsToBytes
  split <;> omega

lemma exists_sectionHeader (b₀ b₁ b₂ b₃ : UInt8) : ∃ h : SectionHeader, h.bytes = [b₀, b₁, b₂, b₃] := by
  have h₀ := b₀.toNat_lt
  have h₁ := b₁.toNat_lt
  have h₂ := b₂.toNat_lt
  have h₃ := b₃.toNat_lt
  refine ⟨⟨⟨b₀.toNat * 16 + b₁.toNat / 16, by omega⟩, b₁.toNat / 8 % 2 = 1, b₁.toNat / 4 % 2 = 1,
    ⟨b₁.toNat % 4 * 256 + b₂.toNat, by omega⟩, ⟨b₃.toNat, h₃⟩⟩, ?_⟩
  have hrb : (decide (b₁.toNat / 8 % 2 = 1)).toNat = b₁.toNat / 8 % 2 := by
    rcases Nat.mod_two_eq_zero_or_one (b₁.toNat / 8) with h | h <;> simp [h]
  have hinc : (decide (b₁.toNat / 4 % 2 = 1)).toNat = b₁.toNat / 4 % 2 := by
    rcases Nat.mod_two_eq_zero_or_one (b₁.toNat / 4) with h | h <;> simp [h]
  simp only [SectionHeader.bytes, hrb, hinc, List.cons.injEq, and_true]
  refine ⟨?_, ?_, ?_, ?_⟩
  all_goals
    symm
    rw [eq_ofNat_iff (by omega)]
    try omega

lemma exists_compressionHeader (hdynamic : d.staticCompression = none) (b b' : UInt8)
    (htype : toCompressionType (b.toNat % 16) ≠ .reserved) : ∃ params, d.IsCompressionHeader params [b, b'] := by
  have hb := b.toNat_lt
  rw [Ne, toCompressionType_eq_reserved, Nat.not_le] at htype
  have h := IsCompressionHeader.dynamic hdynamic ⟨b.toNat % 16, htype⟩ ⟨b.toNat / 16, by omega⟩ b'
  have hbyte : b = .ofNat (b.toNat / 16 * 16 + b.toNat % 16) := by
    rw [eq_ofNat_iff (by omega)]
    omega
  exact ⟨_, by rw [hbyte]; exact h⟩

end Fields

section Complete

variable {d}

lemma decodeSectionHeader_bytes (h : SectionHeader) (rest : List UInt8) :
    d.decodeSectionHeader (h.bytes ++ rest) = .ok (.ok (h.fields d) rest) := by
  have hid := h.sectionId.isLt
  have hstart := h.startPrb.isLt
  have hprb := h.nofPrb.isLt
  have hrb := h.everyOtherRb.toNat_le
  have hinc := h.incrementSymbol.toNat_le
  have hrbBit : decide (h.everyOtherRb.toNat = 0) = !h.everyOtherRb := by cases h.everyOtherRb <;> rfl
  have hincBit : decide (h.incrementSymbol.toNat = 0) = !h.incrementSymbol := by cases h.incrementSymbol <;> rfl
  have hlen : ¬(h.bytes ++ rest).length < SECTION_ID_HEADER_NO_COMPRESSION_SIZE := by
    rw [List.length_append]
    exact Nat.not_lt.mpr (Nat.le_add_right 4 _)
  unfold decodeSectionHeader
  rw [if_neg hlen]
  simp only [SectionHeader.bytes, List.cons_append, List.nil_append]
  rw [toNat_ofNat_byte (by omega), toNat_ofNat_byte (by omega), toNat_ofNat_byte (by omega),
    toNat_ofNat_byte (by omega)]
  simp only [SectionHeader.fields, Except.ok.injEq, DecodedPart.ok.injEq, and_true, SectionFields.mk.injEq]
  rw [← hrbBit, ← hincBit]
  refine ⟨by omega, decide_eq_decide.mpr (by omega), decide_eq_decide.mpr (by omega), ?_⟩
  congr 1
  omega

lemma decodeCompressionHeader_bytes {params : RuCompressionParams} {comp : List UInt8}
    (h : d.IsCompressionHeader params comp) (rest : List UInt8) :
    d.decodeCompressionHeader (comp ++ rest) = .ok (.ok params rest) := by
  cases h with
  | static h => simp only [decodeCompressionHeader, h, List.nil_append]
  | dynamic h type width reservedByte =>
    have htype := type.isLt
    have hwidth := width.isLt
    have hbyte : (UInt8.ofNat (width * 16 + type)).toNat = width * 16 + type := toNat_ofNat_byte (by omega)
    have hmod : (width.val * 16 + type) % 16 = type := by omega
    have hdiv : (width.val * 16 + type) / 16 = width := by omega
    have hvalid : toCompressionType type ≠ .reserved := fun hr =>
      Nat.not_le.mpr htype ((toCompressionType_eq_reserved _).mp hr)
    simp only [decodeCompressionHeader, h, List.cons_append, List.nil_append, hbyte, hmod, hdiv]
    rw [if_neg (by simp), if_neg hvalid]

lemma decodeCompressionLength_bytes {type : CompressionType} {len : Option ℕ} {lenBytes : List UInt8}
    (h : IsCompressionLength type len lenBytes) (rest : List UInt8) :
    decodeCompressionLength type (lenBytes ++ rest) = .ok (.ok len rest) := by
  cases h with
  | absent h => cases type <;> first | rfl | simp [HasLength] at h
  | present h hi lo => rcases h with rfl | rfl | rfl <;> simp [decodeCompressionLength]

lemma decodeSection_section {s : UplaneSectionParams α} {bytes : List UInt8} (hs : d.IsSection s bytes)
    (rest : List UInt8) : d.decodeSection (bytes ++ rest) = .ok (.ok s rest) := by
  cases hs with
  | mk h hcomp hlen hiq =>
    rename_i params len comp lenBytes iq
    have hprbs : ¬MAX_NOF_PRBS < (h.fields d).nofPrbs := by
      have := d.ruNofPrbs_le
      have := h.nofPrb.isLt
      simp only [SectionHeader.fields, MAX_NOF_PRBS] at *
      split <;> omega
    have henough : ¬(iq ++ rest).length < checkedPrbSize params * (h.fields d).nofPrbs := by
      rw [checkedPrbSize_eq, List.length_append, hiq, Nat.mul_comm]
      exact Nat.not_lt.mpr (Nat.le_add_right _ _)
    have hview : getViewAndAdvance (iq ++ rest) ((h.fields d).nofPrbs * getCompressedPrbSize params) = .ok (iq, rest) := by
      unfold getViewAndAdvance
      rw [← hiq, if_neg (by rw [List.length_append]; omega), List.take_left, List.drop_left]
    simp only [decodeSection, List.append_assoc, decodeSectionHeader_bytes, decodeCompressionHeader_bytes hcomp,
      decodeCompressionLength_bytes hlen, decodeIqData, hview, if_neg henough, if_neg hprbs, bind, Except.bind, pure,
      Except.pure]

lemma decodeSection_truncated {bytes : List UInt8} (h : d.IsTruncated bytes) :
    d.decodeSection bytes = .ok .incomplete := by
  cases h with
  | header h => simp only [decodeSection, decodeSectionHeader, if_pos h, bind, Except.bind, pure, Except.pure]
  | compressionHeader h hdynamic hcomp =>
    simp only [decodeSection, decodeSectionHeader_bytes, decodeCompressionHeader, hdynamic, if_pos hcomp, bind,
      Except.bind, pure, Except.pure]
  | compressionLength h hcomp hhas hlen =>
    rename_i params comp lenBytes
    have hlength : decodeCompressionLength params.type lenBytes = .ok .incomplete := by
      rcases hhas with h | h | h <;> simp only [h, decodeCompressionLength, if_pos hlen]
    simp only [decodeSection, decodeSectionHeader_bytes, decodeCompressionHeader_bytes hcomp, hlength, bind, Except.bind,
      pure, Except.pure]
  | iqData h hcomp hlen hiq =>
    rw [Nat.mul_comm, ← checkedPrbSize_eq] at hiq
    simp only [decodeSection, decodeSectionHeader_bytes, decodeCompressionHeader_bytes hcomp,
      decodeCompressionLength_bytes hlen, if_pos hiq, bind, Except.bind, pure, Except.pure]

lemma compressionHeader_cases (bytes : List UInt8) :
    (∃ params comp rest, bytes = comp ++ rest ∧ d.IsCompressionHeader params comp) ∨
      (d.staticCompression = none ∧ bytes.length < 2) ∨ d.decodeCompressionHeader bytes = .ok .malformed := by
  cases hstatic : d.staticCompression with
  | some params => exact .inl ⟨params, [], bytes, rfl, .static hstatic⟩
  | none =>
    rcases bytes with _ | ⟨b, _ | ⟨b', rest⟩⟩
    · exact .inr (.inl ⟨rfl, by simp⟩)
    · exact .inr (.inl ⟨rfl, by simp⟩)
    · by_cases htype : toCompressionType (b.toNat % 16) = .reserved
      · right; right
        simp [decodeCompressionHeader, hstatic, htype]
      · obtain ⟨params, h⟩ := exists_compressionHeader d hstatic b b' htype
        exact .inl ⟨params, [b, b'], rest, rfl, h⟩

lemma compressionLength_cases (type : CompressionType) (bytes : List UInt8) :
    (∃ len lenBytes rest, bytes = lenBytes ++ rest ∧ IsCompressionLength type len lenBytes) ∨
      (HasLength type ∧ bytes.length < 2) := by
  by_cases htype : HasLength type
  · rcases bytes with _ | ⟨hi, _ | ⟨lo, rest⟩⟩
    · exact .inr ⟨htype, by simp⟩
    · exact .inr ⟨htype, by simp⟩
    · exact .inl ⟨_, [hi, lo], rest, rfl, .present htype hi lo⟩
  · exact .inl ⟨none, [], bytes, rfl, .absent htype⟩

/-- Bytes begin with a complete section, are a truncated one, or have a reserved compression type. -/
lemma decodeSection_cases (bytes : List UInt8) :
    (∃ s p rest, bytes = p ++ rest ∧ d.IsSection s p) ∨ d.IsTruncated bytes ∨ d.decodeSection bytes = .ok .malformed := by
  rcases bytes with _ | ⟨b₀, _ | ⟨b₁, _ | ⟨b₂, _ | ⟨b₃, bytes⟩⟩⟩⟩
  iterate 4 exact .inr (.inl (.header (by simp [SECTION_ID_HEADER_NO_COMPRESSION_SIZE])))
  obtain ⟨h, hh⟩ := exists_sectionHeader b₀ b₁ b₂ b₃
  have hbytes : b₀ :: b₁ :: b₂ :: b₃ :: bytes = h.bytes ++ bytes := by
    rw [hh]
    rfl
  rw [hbytes]
  rcases d.compressionHeader_cases bytes with ⟨params, comp, bytes, rfl, hcomp⟩ | ⟨hdynamic, hshort⟩ | hmalformed
  · rcases compressionLength_cases params.type bytes with ⟨len, lenBytes, bytes, rfl, hlen⟩ | ⟨hhas, hshort⟩
    · rcases Nat.lt_or_ge bytes.length ((h.fields d).nofPrbs * getCompressedPrbSize params) with hshort | henough
      · exact .inr (.inl (.iqData h hcomp hlen hshort))
      · refine .inl ⟨_, _, bytes.drop ((h.fields d).nofPrbs * getCompressedPrbSize params), ?_,
        .mk h hcomp hlen (List.length_take_of_le henough)⟩
        simp
    · exact .inr (.inl (.compressionLength h hcomp hhas hshort))
  · exact .inr (.inl (.compressionHeader h hdynamic hshort))
  · right; right
    simp only [decodeSection, decodeSectionHeader_bytes, hmalformed, bind, Except.bind, pure, Except.pure]

end Complete

section Message

variable {d}

lemma isUplinkHeader_iff {params : UplaneMessageParams} {b₀ b₁ b₂ b₃ : UInt8} :
    d.IsUplinkHeader params [b₀, b₁, b₂, b₃] ↔
      (b₂.toNat / 16 < NOF_SUBFRAMES_PER_FRAME ∧ b₂.toNat % 16 * 4 + b₃.toNat / 64 < 2 ^ d.numerology.val ∧
        b₀.toNat / 128 = 0 ∧ b₀.toNat / 16 % 8 = OFH_PAYLOAD_VERSION ∧ b₀.toNat % 16 < 8 ∧
        b₃.toNat % 64 < d.nofSymbols) ∧
      params = ⟨.uplink, b₁.toNat, b₂.toNat / 16, b₂.toNat % 16 * 4 + b₃.toNat / 64, toFilterIndexType (b₀.toNat % 16),
        b₃.toNat % 64⟩ := by
  have hslots : 2 ^ d.numerology.val ≤ 16 := Nat.pow_le_pow_right (by decide) (Nat.le_of_lt_succ d.numerology.isLt)
  have hsymbols := d.nofSymbols_le
  have hb₁ := b₁.toNat_lt
  have hb₂ := b₂.toNat_lt
  have hb₃ := b₃.toNat_lt
  simp only [NOF_SUBFRAMES_PER_FRAME, OFH_PAYLOAD_VERSION]
  constructor
  · rintro ⟨hdirection, hsfn, hsubframe, hslot, hsymbol, filter, hfilter, hindex, hbytes⟩
    obtain ⟨direction, sfn, subframe, slotId, filterIndex, symbolId⟩ := params
    simp only [NOF_SUBFRAMES_PER_FRAME, OFH_PAYLOAD_VERSION] at hdirection hsfn hsubframe hslot hsymbol hindex hbytes
    simp only [List.cons.injEq, and_true] at hbytes
    obtain ⟨h₀, h₁, h₂, h₃⟩ := hbytes
    rw [eq_ofNat_iff (by omega)] at h₀ h₁ h₂ h₃
    have hmod : b₀.toNat % 16 = filter := by omega
    rw [hmod]
    refine ⟨⟨by omega, by omega, by omega, by omega, hfilter, by omega⟩, ?_⟩
    simp only [UplaneMessageParams.mk.injEq]
    exact ⟨hdirection, by omega, by omega, by omega, hindex, by omega⟩
  · rintro ⟨⟨hsubframe, hslot, hdirection, hversion, hfilter, hsymbol⟩, rfl⟩
    refine ⟨rfl, hb₁, hsubframe, hslot, hsymbol, _, hfilter, rfl, ?_⟩
    simp only [List.cons.injEq, and_true, OFH_PAYLOAD_VERSION]
    refine ⟨?_, ?_, ?_, ?_⟩
    all_goals
      rw [eq_ofNat_iff (by omega)]
      try omega

lemma decodeHeader_spec (bytes : List UInt8) :
    ∃ o, d.decodeHeader bytes = .ok o ∧
      ∀ params rest, o = some (params, rest) ↔ ∃ header, bytes = header ++ rest ∧ d.IsUplinkHeader params header := by
  have hheader : ∀ {params header}, d.IsUplinkHeader params header → ∃ b₀ b₁ b₂ b₃, header = [b₀, b₁, b₂, b₃] := by
    rintro params header ⟨-, -, -, -, -, filter, -, -, rfl⟩
    exact ⟨_, _, _, _, rfl⟩
  by_cases hshort : bytes.length < NOF_BYTES_UP_HEADER
  · refine ⟨none, if_pos hshort, fun params rest => iff_of_false (by simp) ?_⟩
    rintro ⟨header, rfl, hh⟩
    obtain ⟨b₀, b₁, b₂, b₃, rfl⟩ := hheader hh
    simp only [NOF_BYTES_UP_HEADER, List.length_append, List.length_cons] at hshort
    omega
  · rcases bytes with _ | ⟨b₀, _ | ⟨b₁, _ | ⟨b₂, _ | ⟨b₃, bytes⟩⟩⟩⟩
    iterate 4 exact absurd (by simp [NOF_BYTES_UP_HEADER]) hshort
    have hiff : ∀ params rest, (∃ header, b₀ :: b₁ :: b₂ :: b₃ :: bytes = header ++ rest ∧ d.IsUplinkHeader params header) ↔
        d.IsUplinkHeader params [b₀, b₁, b₂, b₃] ∧ rest = bytes := by
      intro params rest
      constructor
      · rintro ⟨header, hbytes, hh⟩
        obtain ⟨c₀, c₁, c₂, c₃, rfl⟩ := hheader hh
        simp only [List.cons_append, List.nil_append, List.cons.injEq] at hbytes
        obtain ⟨rfl, rfl, rfl, rfl, rfl⟩ := hbytes
        exact ⟨hh, rfl⟩
      · rintro ⟨hh, rfl⟩
        exact ⟨_, rfl, hh⟩
    simp only [hiff, isUplinkHeader_iff]
    unfold decodeHeader
    rw [if_neg hshort]
    dsimp only
    by_cases huplink : b₀.toNat / 128 = 0
    · simp only [huplink, if_true, ne_self_iff_false, if_false]
      split_ifs with hsubframe hslot hversion hfilter hsymbol
      · exact ⟨none, rfl, fun _ _ => iff_of_false (by simp) fun h => Nat.not_lt.mpr hsubframe h.1.1.1⟩
      · exact ⟨none, rfl, fun _ _ => iff_of_false (by simp) fun h => Nat.not_lt.mpr hslot h.1.1.2.1⟩
      · exact ⟨none, rfl, fun _ _ => iff_of_false (by simp) fun h => hversion h.1.1.2.2.2.1⟩
      · have hreserved := (toFilterIndexType_eq_reserved _).mp hfilter
        exact ⟨none, rfl, fun _ _ => iff_of_false (by simp) fun h => Nat.not_lt.mpr hreserved h.1.1.2.2.2.2.1⟩
      · exact ⟨none, rfl, fun _ _ => iff_of_false (by simp) fun h => Nat.not_lt.mpr hsymbol h.1.1.2.2.2.2.2⟩
      · have hfilter := fun hle => hfilter ((toFilterIndexType_eq_reserved _).mpr hle)
        refine ⟨_, rfl, fun params rest => ?_⟩
        simp only [Option.some.injEq, Prod.mk.injEq]
        constructor
        · rintro ⟨rfl, rfl⟩
          exact ⟨⟨⟨Nat.not_le.mp hsubframe, Nat.not_le.mp hslot, trivial, not_not.mp hversion, Nat.not_le.mp hfilter,
            Nat.not_le.mp hsymbol⟩, rfl⟩, rfl⟩
        · rintro ⟨⟨-, rfl⟩, rfl⟩
          exact ⟨rfl, rfl⟩
    · have hdownlink : DataDirection.downlink ≠ .uplink := by decide
      simp only [if_neg huplink, if_pos hdownlink, ite_self]
      exact ⟨none, rfl, fun _ _ => iff_of_false (by simp) fun h => huplink h.1.1.2.2.1⟩

/-- The bytes go on with complete sections, as many as the results are left with room for but one, and end there or in
a truncated section. -/
def Accepts (sections : List (UplaneSectionParams α)) (bytes : List UInt8) (out : List (UplaneSectionParams α)) : Prop :=
  ∃ parts added tail, bytes = parts.flatten ++ tail ∧ List.Forall₂ d.IsSection added parts ∧
    (tail = [] ∨ d.IsTruncated tail) ∧ out = sections ++ added ∧ out ≠ [] ∧
    out.length < RESULTS_MAX_NOF_SUPPORTED_SECTIONS

variable {sections out : List (UplaneSectionParams α)} {s : UplaneSectionParams α} {bytes p rest : List UInt8}

lemma IsSection.ne_nil (h : d.IsSection s p) : p ≠ [] := by
  cases h with
  | mk h hcomp hlen hiq => exact List.cons_ne_nil _ _

lemma accepts_end (h : bytes = [] ∨ d.IsTruncated bytes) (hroom : sections.length < RESULTS_MAX_NOF_SUPPORTED_SECTIONS) :
    d.Accepts sections bytes out ↔ (if sections.isEmpty then none else some sections) = some out := by
  constructor
  · rintro ⟨parts, added, tail, hbytes, hparts, -, rfl, hne, -⟩
    cases hparts with
    | nil =>
      rw [List.append_nil] at hne ⊢
      rw [if_neg (by simpa using hne)]
    | cons hs _ =>
      rename_i s p added parts
      rw [List.flatten_cons, List.append_assoc] at hbytes
      rcases h with rfl | htruncated
      · exact absurd (List.append_eq_nil_iff.mp hbytes.symm).1 hs.ne_nil
      · have hdecode := decodeSection_truncated htruncated
        rw [hbytes, decodeSection_section hs] at hdecode
        cases hdecode
  · intro hout
    split_ifs at hout with hempty
    cases hout
    exact ⟨[], [], bytes, rfl, .nil, h, (List.append_nil _).symm, by simpa using hempty, hroom⟩

lemma accepts_section (hs : d.IsSection s p) :
    d.Accepts sections (p ++ rest) out ↔ d.Accepts (sections ++ [s]) rest out := by
  constructor
  · rintro ⟨parts, added, tail, hbytes, hparts, htail, rfl, hne, hroom⟩
    have hdecode := decodeSection_section hs rest
    cases hparts with
    | nil =>
      rw [hbytes] at hdecode
      rcases htail with rfl | htruncated
      · exact absurd (List.append_eq_nil_iff.mp hbytes).1 hs.ne_nil
      · rw [List.flatten_nil, List.nil_append, decodeSection_truncated htruncated] at hdecode
        cases hdecode
    | cons hs' hparts =>
      rename_i s' p' added parts
      rw [hbytes, List.flatten_cons, List.append_assoc, decodeSection_section hs'] at hdecode
      cases hdecode
      exact ⟨parts, added, tail, rfl, hparts, htail, by simp, hne, hroom⟩
  · rintro ⟨parts, added, tail, rfl, hparts, htail, rfl, hne, hroom⟩
    exact ⟨p :: parts, s :: added, tail, by simp, .cons hs hparts, htail, by simp, hne, hroom⟩

lemma decodeAllSections_spec {fuel : ℕ} (hfuel : bytes.length ≤ fuel)
    (hroom : sections.length < RESULTS_MAX_NOF_SUPPORTED_SECTIONS) :
    ∃ o, d.decodeAllSections fuel sections bytes = .ok o ∧ ∀ out, o = some out ↔ d.Accepts sections bytes out := by
  induction fuel generalizing sections bytes with
  | zero =>
    obtain rfl := List.length_eq_zero_iff.mp (Nat.le_zero.mp hfuel)
    exact ⟨_, rfl, fun out => (accepts_end (.inl rfl) hroom).symm⟩
  | succ fuel ih =>
    cases bytes with
    | nil => exact ⟨_, rfl, fun out => (accepts_end (.inl rfl) hroom).symm⟩
    | cons b bytes =>
      unfold decodeAllSections
      rcases d.decodeSection_cases (b :: bytes) with ⟨s, p, rest, hbytes, hs⟩ | htruncated | hmalformed
      · simp only [hbytes, decodeSection_section hs, bind, Except.bind, if_neg (Nat.not_le.mpr hroom), accepts_section hs]
        split_ifs with hfull
        · refine ⟨none, rfl, fun out => iff_of_false (by simp) ?_⟩
          rintro ⟨parts, added, tail, -, -, -, rfl, -, hlt⟩
          rw [List.length_append] at hlt
          omega
        · apply ih
          · have hlen := congrArg List.length hbytes
            have hpos := List.length_pos_iff.mpr hs.ne_nil
            rw [List.length_append, List.length_cons] at hlen
            rw [List.length_cons] at hfuel
            omega
          · rw [List.length_append, List.length_singleton] at hfull ⊢
            omega
      · simp only [decodeSection_truncated htruncated, bind, Except.bind, pure, Except.pure]
        exact ⟨_, rfl, fun out => (accepts_end (.inr htruncated) hroom).symm⟩
      · simp only [hmalformed, bind, Except.bind, pure, Except.pure]
        refine ⟨none, rfl, fun out => iff_of_false (by simp) ?_⟩
        rintro ⟨parts, added, tail, hbytes, hparts, htail, -⟩
        rw [hbytes] at hmalformed
        cases hparts with
        | nil =>
          rcases htail with rfl | htruncated
          · exact absurd hbytes (List.cons_ne_nil _ _)
          · rw [List.flatten_nil, List.nil_append, decodeSection_truncated htruncated] at hmalformed
            cases hmalformed
        | cons hs _ =>
          rw [List.flatten_cons, List.append_assoc, decodeSection_section hs] at hmalformed
          cases hmalformed

end Message

/-- Every message is decoded or dropped without a fault. It is decoded if it is a valid uplink header and complete
sections, as many as are supported, and nothing or a truncated section behind them. -/
theorem decode_iff (d : UplaneDecoder α) (message : List UInt8) :
    ∃ o, d.decode message = .ok o ∧ ∀ params sections, o = some (params, sections) ↔
      ∃ header parts tail, message = header ++ (parts.flatten ++ tail) ∧ d.IsUplinkHeader params header ∧
        List.Forall₂ d.IsSection sections parts ∧ (tail = [] ∨ d.IsTruncated tail) ∧
        1 ≤ sections.length ∧ sections.length ≤ MAX_NOF_SUPPORTED_SECTIONS := by
  obtain ⟨o, hheader, hiff⟩ := d.decodeHeader_spec message
  simp only [decode, hheader, bind, Except.bind]
  cases o with
  | none =>
    refine ⟨none, rfl, fun params sections => iff_of_false (by simp) ?_⟩
    rintro ⟨header, parts, tail, hmessage, hh, -⟩
    simpa using (hiff params (parts.flatten ++ tail)).mpr ⟨header, hmessage, hh⟩
  | some res =>
    obtain ⟨params₀, bytes⟩ := res
    obtain ⟨header₀, hmessage, hh₀⟩ := (hiff params₀ bytes).mp rfl
    have hfuel : bytes.length ≤ message.length := by
      rw [hmessage, List.length_append]
      exact Nat.le_add_left _ _
    have hroom : ([] : List (UplaneSectionParams α)).length < RESULTS_MAX_NOF_SUPPORTED_SECTIONS := Nat.zero_lt_two
    obtain ⟨o, hdecode, hout⟩ := decodeAllSections_spec (d := d) hfuel hroom
    simp only [hdecode, pure, Except.pure]
    refine ⟨_, rfl, fun params sections => ?_⟩
    constructor
    · intro hsome
      obtain ⟨out, ho, hpair⟩ := Option.map_eq_some_iff.mp hsome
      cases hpair
      obtain ⟨parts, added, tail, hbytes, hparts, htail, rfl, hne, hlt⟩ := (hout _).mp ho
      exact ⟨header₀, parts, tail, by rw [hmessage, hbytes], hh₀, hparts, htail, List.length_pos_iff.mpr hne,
        Nat.le_of_lt_succ hlt⟩
    · rintro ⟨header, parts, tail, hbytes, hh, hparts, htail, hpos, hle⟩
      have hsame := (hiff params (parts.flatten ++ tail)).mpr ⟨header, hbytes, hh⟩
      simp only [Option.some.injEq, Prod.mk.injEq] at hsame
      obtain ⟨rfl, rfl⟩ := hsame
      have ho := (hout sections).mpr
        ⟨parts, sections, tail, rfl, hparts, htail, rfl, List.length_pos_iff.mp hpos, Nat.lt_succ_of_le hle⟩
      rw [ho]
      rfl

end UplaneDecoder

end OwlsRan.Ofh
