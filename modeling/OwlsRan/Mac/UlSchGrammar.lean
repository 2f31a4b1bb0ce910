import Mathlib.Data.Fin.Basic
import OwlsRan.Lib.ByteReader
import OwlsRan.Lib.FrameSequence

/-!
# Unpacking of UL-SCH MAC PDUs

A PDU is cut into subPDUs until it is empty. The BSR control elements among them are decoded afterwards, from the payload
that the subPDU delimits.
-/

namespace OwlsRan.Mac
open OwlsRan.Lib

/-- `lcid_ul_sch_t`: values of the LCID for UL-SCH, six bits wide. -/
abbrev LcidUlSch := Fin 64

namespace LcidUlSch

def CCCH_SIZE_64 : LcidUlSch := 0
def LCID1 : LcidUlSch := 1
def LCID32 : LcidUlSch := 32
def MIN_RESERVED : LcidUlSch := 33
def MAX_RESERVED : LcidUlSch := 51
def CCCH_SIZE_48 : LcidUlSch := 52
def BIT_RATE_QUERY : LcidUlSch := 53
def SE_PHR : LcidUlSch := 57
def CRNTI : LcidUlSch := 58
def SHORT_TRUNC_BSR : LcidUlSch := 59
def LONG_TRUNC_BSR : LcidUlSch := 60
def SHORT_BSR : LcidUlSch := 61
def LONG_BSR : LcidUlSch := 62
def PADDING : LcidUlSch := 63

variable (lcid : LcidUlSch)

def isCcch : Bool := lcid = CCCH_SIZE_48 ∨ lcid = CCCH_SIZE_64

def isSdu : Bool := lcid ≤ LCID32 ∧ lcid ≥ LCID1

def isValidLcid : Bool := lcid ≤ PADDING ∧ (lcid < MIN_RESERVED ∨ lcid > MAX_RESERVED)

def isVarLenCe : Bool := lcid = LONG_TRUNC_BSR ∨ lcid = LONG_BSR

def hasLengthField : Bool := if isCcch lcid then false else isSdu lcid || isVarLenCe lcid

def sizeofCe : Nat :=
  if lcid = CCCH_SIZE_48 then 6
  else if lcid = CCCH_SIZE_64 then 8
  else if lcid = CRNTI then 2
  else if lcid = SHORT_BSR ∨ lcid = SHORT_TRUNC_BSR then 1
  else if lcid = SE_PHR then 2
  else if lcid = LONG_BSR ∨ lcid = LONG_TRUNC_BSR then 1
  else if lcid = PADDING then 0
  else 0

end LcidUlSch

inductive UnpackFault where
  | failed (cause : String)
  | pastEnd
deriving DecidableEq

structure MacUlSchSubPdu where
  lcid : LcidUlSch
  headerLength : Nat
  fBit : Bool
  payload : List UInt8
deriving DecidableEq

section SubPdu

def readByte (r : ByteReader) : Except UnpackFault (UInt8 × ByteReader) := r.next.mapError fun _ => .pastEnd

def splitAndAdvance (r : ByteReader) (offset : Nat) : Except UnpackFault (List UInt8 × ByteReader) :=
  if offset ≤ r.length then .ok (r.take offset, r.drop offset) else .error .pastEnd

def readLengthField (fBit : Bool) (subPduLen : Nat) (r : ByteReader) : Except UnpackFault (Nat × Nat × ByteReader) :=
  if subPduLen < (if fBit then 3 else 2) then
    .error (.failed "Not enough bytes remaining in PDU to decode length prefix.")
  else do
    let (b, r) ← readByte r
    if fBit then do
      let (b', r) ← readByte r
      return (3, b.toNat <<< 8 ||| b'.toNat, r)
    else return (2, b.toNat, r)

def readPayload (what : String) (subPduLen headerLength sduLength : Nat) (r : ByteReader) :
    Except UnpackFault (List UInt8 × ByteReader) :=
  if subPduLen < headerLength + sduLength then
    let remaining := subPduLen - headerLength
    .error (.failed s!"Not enough bytes remaining in PDU to decode {what} payload ({remaining} < {sduLength}).")
  else splitAndAdvance r sduLength

def MacUlSchSubPdu.unpack (r : ByteReader) : Except UnpackFault (MacUlSchSubPdu × ByteReader) :=
  let subPduLen := r.length
  if subPduLen = 0 then .error (.failed "Empty subPDU.")
  else do
    let (b, r) ← readByte r
    let fBit : Bool := b.toNat &&& 0x40 > 0
    let lcid : LcidUlSch := Fin.ofNat 64 (b.toNat &&& 0x3f)
    if !lcid.isValidLcid then
      let value := lcid.val
      .error (.failed s!"Unrecognized lcid={value}.")
    else if lcid.hasLengthField then do
      let (headerLength, sduLength, r) ← readLengthField fBit subPduLen r
      let (payload, r) ← readPayload "SDU" subPduLen headerLength sduLength r
      return (⟨lcid, headerLength, fBit, payload⟩, r)
    else if lcid = .PADDING then return (⟨lcid, 1, fBit, r⟩, [])
    else do
      let (payload, r) ← readPayload "CE" subPduLen 1 lcid.sizeofCe r
      return (⟨lcid, 1, fBit, payload⟩, r)

end SubPdu

section Pdu

def MAX_SUBPDUS_PER_PDU : Nat := 4096

/-- The subPDU list and what `unpack` returns. -/
structure MacUlSchPdu where
  subPdus : List MacUlSchSubPdu
  ret : Except UnpackFault Unit
deriving DecidableEq

/-- The loop of `unpack`, with space for `room` further subPDUs. A full list ends it with a warning. -/
def unpackLoop (subPdus : List MacUlSchSubPdu) : Nat → ByteReader → MacUlSchPdu
  | _, [] => ⟨subPdus, .ok ()⟩
  | 0, _ => ⟨subPdus, .ok ()⟩
  | room + 1, r =>
    match MacUlSchSubPdu.unpack r with
    | .error e => ⟨[], .error e⟩
    | .ok (subPdu, r) => unpackLoop (subPdus ++ [subPdu]) room r

/-- `mac_ul_sch_pdu::unpack` of an empty list. -/
def MacUlSchPdu.unpack (payload : List UInt8) : MacUlSchPdu := unpackLoop [] MAX_SUBPDUS_PER_PDU payload

end Pdu

section Bsr

inductive BsrFormat where
  | SHORT_BSR
  | LONG_BSR
  | SHORT_TRUNC_BSR
  | LONG_TRUNC_BSR
deriving DecidableEq

def MAX_NOF_LCGS : Nat := 8

structure LcgBsrReport where
  lcgId : Fin MAX_NOF_LCGS
  bufferSize : Nat
deriving DecidableEq

def decodeLcg (format : BsrFormat) (bitmap : UInt8) (i : Fin MAX_NOF_LCGS) (r : ByteReader) :
    Parsed (List LcgBsrReport × ByteReader) :=
  if bitmap.toNat &&& (0x1 <<< i.val) ≠ 0 then
    if r.length > 0 then do
      let (bufferSize, r) ← r.next
      rejectUnless (bufferSize.toNat ≠ 255)
      return ([⟨i, bufferSize.toNat⟩], r)
    else if format = .LONG_TRUNC_BSR then .ok ([⟨i, 64⟩], r)
    else .error .rejected
  else if format = .LONG_TRUNC_BSR then .ok ([⟨i, 0⟩], r)
  else .ok ([], r)

def decodeLcgs (format : BsrFormat) (bitmap : UInt8) : List (Fin MAX_NOF_LCGS) → ByteReader → Parsed (List LcgBsrReport)
  | [], _ => .ok []
  | i :: is, r => do
    let (report, r) ← decodeLcg format bitmap i r
    let list ← decodeLcgs format bitmap is r
    return report ++ list

/-- `decode_lbsr`: the bitmap is read from the payload without a look at its length. -/
def decodeLbsr (format : BsrFormat) (payload : List UInt8) : Parsed (List LcgBsrReport) := do
  let (bitmap, r) ← ByteReader.next payload
  if bitmap = 0 then return (List.finRange MAX_NOF_LCGS).map fun i => ⟨i, 0⟩
  decodeLcgs format bitmap (List.finRange MAX_NOF_LCGS) r

/-- The format under which `handle_mac_ce` decodes a Long BSR. -/
def longBsrFormat (lcid : LcidUlSch) : Option BsrFormat :=
  if lcid = .LONG_BSR then some .LONG_BSR else if lcid = .LONG_TRUNC_BSR then some .LONG_TRUNC_BSR else none

end Bsr

/-!
## The UL-SCH subPDU grammar

The subPDUs of a format with a table of the sizes of its control elements.
-/

/-- The octets of a fixed-size control element or a CCCH SDU, for the LCIDs that have a meaning. -/
abbrev CeSizes := LcidUlSch → Option Nat

/-- The sizes of TS 38.321, for the LCIDs of `lcid_ul_sch_t`. -/
def standardCeSizes : CeSizes := fun lcid =>
  if lcid = .CCCH_SIZE_64 then some 8
  else if lcid = .CCCH_SIZE_48 then some 6
  else if lcid = .BIT_RATE_QUERY ∨ lcid = .SE_PHR ∨ lcid = .CRNTI then some 2
  else if lcid = .SHORT_TRUNC_BSR ∨ lcid = .SHORT_BSR then some 1
  else none

def HasLengthField (lcid : LcidUlSch) : Prop :=
  (1 ≤ lcid.val ∧ lcid.val ≤ 32) ∨ lcid = .LONG_TRUNC_BSR ∨ lcid = .LONG_BSR

def headerLcid (header : UInt8) : LcidUlSch := ⟨header.toNat % 64, Nat.mod_lt _ (by decide)⟩

def headerF (header : UInt8) : Bool := header.toNat / 64 % 2 = 1

/-- A subPDU is cut off the front of a PDU. A padding subPDU takes all that is left. -/
inductive UlSubPdu (sizes : CeSizes) : MacUlSchSubPdu → List UInt8 → List UInt8 → Prop
  | short {header lo : UInt8} {payload : List UInt8} (rest : List UInt8) (hlcid : HasLengthField (headerLcid header))
      (hf : headerF header = false) (hlen : payload.length = lo.toNat) :
    UlSubPdu sizes ⟨headerLcid header, 2, false, payload⟩ (header :: lo :: (payload ++ rest)) rest
  | long {header hi lo : UInt8} {payload : List UInt8} (rest : List UInt8) (hlcid : HasLengthField (headerLcid header))
      (hf : headerF header = true) (hlen : payload.length = hi.toNat * 256 + lo.toNat) :
    UlSubPdu sizes ⟨headerLcid header, 3, true, payload⟩ (header :: hi :: lo :: (payload ++ rest)) rest
  | fixed {header : UInt8} {payload : List UInt8} (rest : List UInt8) (hlcid : ¬HasLengthField (headerLcid header))
      (hlen : sizes (headerLcid header) = some payload.length) :
    UlSubPdu sizes ⟨headerLcid header, 1, headerF header, payload⟩ (header :: (payload ++ rest)) rest
  | padding {header : UInt8} (payload : List UInt8) (hlcid : headerLcid header = .PADDING) :
    UlSubPdu sizes ⟨headerLcid header, 1, headerF header, payload⟩ (header :: payload) []

def unpackedCeSizes : CeSizes := fun lcid => if 53 ≤ lcid.val ∧ lcid.val ≤ 56 then some 0 else standardCeSizes lcid

section Bytes

lemma headerLcid_eq (b : UInt8) : (Fin.ofNat 64 (b.toNat &&& 0x3f) : LcidUlSch) = headerLcid b := by
  have hand : b.toNat &&& 0x3f = b.toNat % 2 ^ 6 := Nat.and_two_pow_sub_one_eq_mod _ 6
  apply Fin.ext
  simp only [Fin.ofNat, headerLcid, hand]
  omega

lemma headerF_eq (b : UInt8) : decide (b.toNat &&& 0x40 > 0) = headerF b := by
  have hbits : ∀ n < 256, decide (n &&& 0x40 > 0) = decide (n / 64 % 2 = 1) := by decide +kernel
  exact hbits b.toNat b.toNat_lt

lemma longLength_eq (hi lo : UInt8) : hi.toNat <<< 8 ||| lo.toNat = hi.toNat * 256 + lo.toNat := by
  have hlo : lo.toNat < 2 ^ 8 := lo.toNat_lt
  rw [← Nat.shiftLeft_add_eq_or_of_lt hlo, Nat.shiftLeft_eq]

instance (lcid : LcidUlSch) : Decidable (HasLengthField lcid) := by
  unfold HasLengthField
  infer_instance

lemma hasLengthField_eq : ∀ lcid : LcidUlSch, lcid.hasLengthField = decide (HasLengthField lcid) := by decide

lemma unpackedCeSizes_eq : ∀ lcid : LcidUlSch, ¬HasLengthField lcid → lcid ≠ .PADDING →
    unpackedCeSizes lcid = if lcid.isValidLcid then some lcid.sizeofCe else none := by decide

lemma isValidLcid_of_hasLengthField : ∀ lcid : LcidUlSch, HasLengthField lcid ∨ lcid = .PADDING →
    lcid.isValidLcid = true := by decide

lemma not_hasLengthField_padding : ¬HasLengthField .PADDING := by decide

end Bytes

section Reader

def cutPayload (lcid : LcidUlSch) (headerLength : Nat) (fBit : Bool) (n : Nat) (bs : List UInt8) :
    Option (MacUlSchSubPdu × List UInt8) :=
  if n ≤ bs.length then some (⟨lcid, headerLength, fBit, bs.take n⟩, bs.drop n) else none

def cutVarLen (lcid : LcidUlSch) : Bool → List UInt8 → Option (MacUlSchSubPdu × List UInt8)
  | true, hi :: lo :: bs => cutPayload lcid 3 true (hi.toNat * 256 + lo.toNat) bs
  | false, lo :: bs => cutPayload lcid 2 false lo.toNat bs
  | _, _ => none

def cutSubPdu (sizes : CeSizes) : List UInt8 → Option (MacUlSchSubPdu × List UInt8)
  | [] => none
  | header :: bs =>
    let lcid := headerLcid header
    if HasLengthField lcid then cutVarLen lcid (headerF header) bs
    else if lcid = .PADDING then some (⟨lcid, 1, headerF header, bs⟩, [])
    else
      match sizes lcid with
      | some n => cutPayload lcid 1 (headerF header) n bs
      | none => none

variable {sizes : CeSizes} {x : MacUlSchSubPdu} {bs rest : List UInt8} {lcid : LcidUlSch} {k n : Nat} {f : Bool}

lemma cutPayload_append {payload : List UInt8} (h : payload.length = n) :
    cutPayload lcid k f n (payload ++ rest) = some (⟨lcid, k, f, payload⟩, rest) := by
  subst h
  rw [cutPayload, if_pos (by simp), List.take_left, List.drop_left]

lemma cutPayload_eq_some (h : cutPayload lcid k f n bs = some (x, rest)) :
    ∃ payload, payload.length = n ∧ bs = payload ++ rest ∧ x = ⟨lcid, k, f, payload⟩ := by
  rw [cutPayload] at h
  split at h
  case isTrue hle =>
    obtain ⟨rfl, rfl⟩ := Prod.mk.inj (Option.some.inj h)
    exact ⟨bs.take n, List.length_take_of_le hle, (List.take_append_drop n bs).symm, rfl⟩
  case isFalse => cases h

/-- The reader cuts off exactly the subPDUs of the grammar. -/
theorem cutSubPdu_eq_some_iff (hpadding : sizes .PADDING = none) :
    cutSubPdu sizes bs = some (x, rest) ↔ UlSubPdu sizes x bs rest := by
  constructor
  · intro h
    cases bs with
    | nil => cases h
    | cons header bs =>
      simp only [cutSubPdu] at h
      split at h
      case isTrue hlcid =>
        generalize hf : headerF header = f at h
        unfold cutVarLen at h
        split at h
        case h_1 hi lo bs =>
          obtain ⟨payload, hlen, rfl, rfl⟩ := cutPayload_eq_some h
          exact UlSubPdu.long rest hlcid hf hlen
        case h_2 lo bs =>
          obtain ⟨payload, hlen, rfl, rfl⟩ := cutPayload_eq_some h
          exact UlSubPdu.short rest hlcid hf hlen
        case h_3 => cases h
      case isFalse hlcid =>
        split at h
        case isTrue hpad =>
          obtain ⟨rfl, rfl⟩ := Prod.mk.inj (Option.some.inj h)
          exact UlSubPdu.padding bs hpad
        case isFalse hpad =>
          split at h
          case h_1 n hsize =>
            obtain ⟨payload, hlen, rfl, rfl⟩ := cutPayload_eq_some h
            exact UlSubPdu.fixed rest hlcid (hlen ▸ hsize)
          case h_2 => cases h
  · intro h
    cases h with
    | short _ hlcid hf hlen => simp only [cutSubPdu, cutVarLen, hlcid, hf, if_true, cutPayload_append hlen]
    | long _ hlcid hf hlen => simp only [cutSubPdu, cutVarLen, hlcid, hf, if_true, cutPayload_append hlen]
    | @fixed header payload _ hlcid hlen =>
      have hpad : headerLcid header ≠ .PADDING := by
        intro hpad
        rw [hpad, hpadding] at hlen
        cases hlen
      simp only [cutSubPdu, hlcid, hpad, if_false, hlen, cutPayload_append]
    | padding _ hlcid => simp only [cutSubPdu, hlcid, not_hasLengthField_padding, if_false, if_true]

lemma UlSubPdu.bytes (h : UlSubPdu sizes x bs rest) :
    ∃ header, header.length = x.headerLength ∧ 1 ≤ x.headerLength ∧ bs = header ++ x.payload ++ rest := by
  cases h with
  | @short header lo payload _ hlcid hf hlen => exact ⟨[header, lo], rfl, Nat.le_add_left _ _, rfl⟩
  | @long header hi lo payload _ hlcid hf hlen => exact ⟨[header, hi, lo], rfl, Nat.le_add_left _ _, rfl⟩
  | @fixed header payload _ hlcid hlen => exact ⟨[header], rfl, Nat.le_refl _, rfl⟩
  | @padding header payload hlcid => exact ⟨[header], rfl, Nat.le_refl _, by simp⟩

/-- At most one subPDU can be cut off. -/
theorem ulSubPdu_format (hpadding : sizes .PADDING = none) : FrameFormat (UlSubPdu sizes) := by
  refine ⟨?_, ?_⟩
  · intro x y bs rest rest' h h'
    have heq := ((cutSubPdu_eq_some_iff hpadding).mpr h).symm.trans ((cutSubPdu_eq_some_iff hpadding).mpr h')
    exact Prod.mk.inj (Option.some.inj heq)
  · intro x bs rest h
    obtain ⟨header, hheader, hpos, rfl⟩ := h.bytes
    rw [List.length_append, List.length_append]
    omega

end Reader

section Unpack

variable {r : ByteReader}

lemma readPayload_spec (what : String) (lcid : LcidUlSch) (k n : Nat) (f : Bool) (r : ByteReader) :
    (∃ payload rest, cutPayload lcid k f n r = some (⟨lcid, k, f, payload⟩, rest) ∧
        readPayload what (k + r.length) k n r = .ok (payload, rest)) ∨
      (cutPayload lcid k f n r = none ∧ ∃ cause, readPayload what (k + r.length) k n r = .error (.failed cause)) := by
  by_cases hle : n ≤ r.length
  · refine Or.inl ⟨r.take n, r.drop n, if_pos hle, ?_⟩
    rw [readPayload, if_neg (by omega), splitAndAdvance, if_pos hle]
  · refine Or.inr ⟨if_neg hle, ?_⟩
    rw [readPayload, if_pos (by omega)]
    exact ⟨_, rfl⟩

lemma readLengthField_spec (lcid : LcidUlSch) (f : Bool) (bs : ByteReader) :
    (∃ x rest, cutVarLen lcid f bs = some (x, rest) ∧ (do
        let (headerLength, sduLength, r) ← readLengthField f (1 + bs.length) bs
        let (payload, r) ← readPayload "SDU" (1 + bs.length) headerLength sduLength r
        return ((⟨lcid, headerLength, f, payload⟩ : MacUlSchSubPdu), r)) = .ok (x, rest)) ∨
      (cutVarLen lcid f bs = none ∧ ∃ cause, (do
        let (headerLength, sduLength, r) ← readLengthField f (1 + bs.length) bs
        let (payload, r) ← readPayload "SDU" (1 + bs.length) headerLength sduLength r
        return ((⟨lcid, headerLength, f, payload⟩ : MacUlSchSubPdu), r)) = .error (.failed cause)) := by
  cases f with
  | true =>
    match bs with
    | [] => exact Or.inr ⟨rfl, _, rfl⟩
    | [hi] => exact Or.inr ⟨rfl, _, rfl⟩
    | hi :: lo :: r =>
      have hlength : readLengthField true (1 + (hi :: lo :: r).length) (hi :: lo :: r) =
          .ok (3, hi.toNat * 256 + lo.toNat, r) := by
        rw [← longLength_eq, readLengthField, if_neg (by simp only [List.length_cons, if_true]; omega)]
        rfl
      have htotal : 1 + (hi :: lo :: r).length = 3 + r.length := by
        simp only [List.length_cons]
        omega
      simp only [hlength, cutVarLen, bind, Except.bind]
      rw [htotal]
      rcases readPayload_spec "SDU" lcid 3 (hi.toNat * 256 + lo.toNat) true r with
        ⟨payload, rest, hcut, hread⟩ | ⟨hcut, cause, hread⟩
      · exact Or.inl ⟨_, rest, hcut, by rw [hread]; rfl⟩
      · exact Or.inr ⟨hcut, cause, by rw [hread]⟩
  | false =>
    match bs with
    | [] => exact Or.inr ⟨rfl, _, rfl⟩
    | lo :: r =>
      have hlength : readLengthField false (1 + (lo :: r).length) (lo :: r) = .ok (2, lo.toNat, r) := by
        rw [readLengthField, if_neg (by simp only [List.length_cons, Bool.false_eq_true, if_false]; omega)]
        rfl
      have htotal : 1 + (lo :: r).length = 2 + r.length := by
        simp only [List.length_cons]
        omega
      simp only [hlength, cutVarLen, bind, Except.bind]
      rw [htotal]
      rcases readPayload_spec "SDU" lcid 2 lo.toNat false r with
        ⟨payload, rest, hcut, hread⟩ | ⟨hcut, cause, hread⟩
      · exact Or.inl ⟨_, rest, hcut, by rw [hread]; rfl⟩
      · exact Or.inr ⟨hcut, cause, by rw [hread]⟩

/-- `unpack` cuts off a subPDU of the grammar with its own table of sizes, or fails with a text. -/
theorem unpack_spec (r : ByteReader) :
    (∃ x rest, cutSubPdu unpackedCeSizes r = some (x, rest) ∧ MacUlSchSubPdu.unpack r = .ok (x, rest)) ∨
      (cutSubPdu unpackedCeSizes r = none ∧ ∃ cause, MacUlSchSubPdu.unpack r = .error (.failed cause)) := by
  cases r with
  | nil => exact Or.inr ⟨rfl, _, rfl⟩
  | cons header bs =>
    have hunpack : MacUlSchSubPdu.unpack (header :: bs) =
        if !(headerLcid header).isValidLcid then
          .error (.failed s!"Unrecognized lcid={(headerLcid header).val}.")
        else if (headerLcid header).hasLengthField then do
          let (headerLength, sduLength, r) ← readLengthField (headerF header) (1 + bs.length) bs
          let (payload, r) ← readPayload "SDU" (1 + bs.length) headerLength sduLength r
          return (⟨headerLcid header, headerLength, headerF header, payload⟩, r)
        else if headerLcid header = .PADDING then return (⟨headerLcid header, 1, headerF header, bs⟩, [])
        else do
          let (payload, r) ← readPayload "CE" (1 + bs.length) 1 (headerLcid header).sizeofCe bs
          return (⟨headerLcid header, 1, headerF header, payload⟩, r) := by
      rw [← headerLcid_eq, ← headerF_eq, Nat.add_comm]
      rfl
    rw [hunpack]
    simp only [cutSubPdu, hasLengthField_eq, decide_eq_true_eq]
    by_cases hlength : HasLengthField (headerLcid header)
    · simp only [isValidLcid_of_hasLengthField _ (Or.inl hlength), hlength, Bool.not_true, Bool.false_eq_true, if_false,
        if_true]
      exact readLengthField_spec (headerLcid header) (headerF header) bs
    · by_cases hpad : headerLcid header = .PADDING
      · have hvalid := isValidLcid_of_hasLengthField _ (Or.inr hpad)
        have hknown : ¬(!(headerLcid header).isValidLcid) = true := by rw [hvalid]; exact Bool.false_ne_true
        rw [if_neg hlength, if_pos hpad, if_neg hknown, if_neg hlength, if_pos hpad]
        exact Or.inl ⟨_, _, rfl, rfl⟩
      · rw [if_neg hlength, if_neg hpad, unpackedCeSizes_eq _ hlength hpad]
        by_cases hvalid : (headerLcid header).isValidLcid = true
        · have hknown : ¬(!(headerLcid header).isValidLcid) = true := by rw [hvalid]; exact Bool.false_ne_true
          rw [if_pos hvalid, if_neg hknown, if_neg hlength, if_neg hpad]
          rcases readPayload_spec "CE" (headerLcid header) 1 (headerLcid header).sizeofCe (headerF header) bs with
            ⟨payload, rest, hcut, hread⟩ | ⟨hcut, cause, hread⟩
          · exact Or.inl ⟨_, rest, hcut, by rw [hread]; rfl⟩
          · exact Or.inr ⟨hcut, cause, by rw [hread]; rfl⟩
        · have hunknown : (!(headerLcid header).isValidLcid) = true := by
            rw [Bool.eq_false_iff.mpr hvalid]
            rfl
          rw [if_neg hvalid, if_pos hunknown]
          exact Or.inr ⟨rfl, _, rfl⟩

end Unpack

end OwlsRan.Mac
