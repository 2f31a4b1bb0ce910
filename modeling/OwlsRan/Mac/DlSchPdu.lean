import Mathlib.Data.List.Basic
import OwlsRan.Lib.ByteReader
import OwlsRan.Ran.MacPduFormat

/-!
# The DL-SCH subheader grammar

How a receiver reads a DL-SCH MAC PDU: one subPDU after the other, each with a subheader of one byte for a CE, and of
two or three bytes for an SDU. The length of an SDU has eight bits exactly when it is less than 256.
-/

namespace OwlsRan.Mac
open OwlsRan.Ran

/-- `ue_con_res_id_t`: the six bytes of a contention resolution identity. -/
abbrev UeConResId := { id : List UInt8 // id.length = 6 }

/-- `lcid_t`: the LCIDs that carry SDUs. -/
abbrev Lcid := Fin 33

inductive SubPdu where
  | ueConResId (id : UeConResId)
  | taCmd (tagId : Fin 4) (taCmd : Fin 64)
  | sdu (lcid : Lcid) (payload : List UInt8)
  | padding (length : Nat)
deriving DecidableEq

section Parser

def parseLength (fBit : Bool) : List UInt8 → Option (Nat × List UInt8)
  | lo :: rest =>
    if !fBit then some (lo.toNat, rest)
    else
      match rest with
      | [] => none
      | lo' :: rest =>
        let length := lo.toNat * 256 + lo'.toNat
        if length < 256 then none else some (length, rest)
  | [] => none

lemma toNat_mod_lt (b : UInt8) : b.toNat % 64 < 64 := Nat.mod_lt _ (by decide)

def parseSubPdu : List UInt8 → Option (SubPdu × List UInt8)
  | [] => none
  | header :: rest =>
    let lcid := header.toNat % 64
    if lcid = 63 then some (.padding rest.length, [])
    else if lcid = 62 then
      if h : (rest.take 6).length = 6 then some (.ueConResId ⟨rest.take 6, h⟩, rest.drop 6) else none
    else if lcid = 61 then
      match rest with
      | [] => none
      | ce :: rest =>
        some (.taCmd ⟨ce.toNat / 64 % 4, Nat.mod_lt _ (by decide)⟩ ⟨ce.toNat % 64, toNat_mod_lt ce⟩, rest)
    else if h : lcid < 33 then do
      let (length, rest) ← parseLength (header.toNat / 64 % 2 = 1) rest
      if rest.length < length then none else some (.sdu ⟨lcid, h⟩ (rest.take length), rest.drop length)
    else none

/-- Reads subPDUs to the end of the PDU, at most `fuel` of them. -/
def parseSubPdus : Nat → List UInt8 → Option (List SubPdu)
  | _, [] => some []
  | 0, _ => none
  | fuel + 1, bs => do
    let (x, rest) ← parseSubPdu bs
    let xs ← parseSubPdus fuel rest
    return x :: xs

def parsePdu (bs : List UInt8) : Option (List SubPdu) := parseSubPdus bs.length bs

end Parser

section Rules

variable {bs rest : List UInt8} {x : SubPdu} {xs : List SubPdu}

lemma parseLength_length {fBit : Bool} {n : Nat} (h : parseLength fBit bs = some (n, rest)) :
    rest.length < bs.length := by
  cases bs with
  | nil => simp [parseLength] at h
  | cons lo bs =>
    cases fBit with
    | false =>
      simp only [parseLength, Bool.not_false, if_true, Option.some.injEq, Prod.mk.injEq] at h
      rw [← h.2, List.length_cons]
      omega
    | true =>
      cases bs with
      | nil => simp [parseLength] at h
      | cons lo' bs =>
        simp only [parseLength, Bool.not_true, Bool.false_eq_true, if_false] at h
        split at h
        · cases h
        · simp only [Option.some.injEq, Prod.mk.injEq] at h
          rw [← h.2, List.length_cons, List.length_cons]
          omega

lemma parseSubPdu_length (h : parseSubPdu bs = some (x, rest)) : rest.length < bs.length := by
  cases bs with
  | nil => cases h
  | cons header bs =>
    simp only [parseSubPdu] at h
    rw [List.length_cons]
    split at h
    · simp only [Option.some.injEq, Prod.mk.injEq] at h
      rw [← h.2]
      simp
    · split at h
      · split at h
        · simp only [Option.some.injEq, Prod.mk.injEq] at h
          rw [← h.2, List.length_drop]
          omega
        · cases h
      · split at h
        · cases bs with
          | nil => cases h
          | cons ce bs =>
            simp only [Option.some.injEq, Prod.mk.injEq] at h
            rw [← h.2, List.length_cons]
            omega
        · split at h
          · obtain ⟨⟨n, rest'⟩, hlen, hsdu⟩ := Option.bind_eq_some_iff.mp h
            have hlt := parseLength_length hlen
            dsimp only at hsdu
            split at hsdu
            · cases hsdu
            · simp only [Option.some.injEq, Prod.mk.injEq] at hsdu
              rw [← hsdu.2, List.length_drop]
              omega
          · cases h

lemma parseSubPdus_fuel {fuel fuel' : Nat} (h : bs.length ≤ fuel) (h' : bs.length ≤ fuel') :
    parseSubPdus fuel bs = parseSubPdus fuel' bs := by
  induction fuel generalizing fuel' bs with
  | zero =>
    obtain rfl := List.length_eq_zero_iff.mp (Nat.le_zero.mp h)
    cases fuel' <;> rfl
  | succ fuel ih =>
    cases bs with
    | nil => cases fuel' <;> rfl
    | cons b bs =>
      cases fuel' with
      | zero => cases h'
      | succ fuel' =>
        simp only [parseSubPdus]
        cases hx : parseSubPdu (b :: bs) with
        | none => rfl
        | some r =>
          have hlt := parseSubPdu_length hx
          simp only [List.length_cons] at h h' hlt
          have hrest : parseSubPdus fuel r.2 = parseSubPdus fuel' r.2 := ih (by omega) (by omega)
          change (parseSubPdus fuel r.2).bind _ = (parseSubPdus fuel' r.2).bind _
          rw [hrest]

lemma parsePdu_of_some (h : parseSubPdu bs = some (x, rest)) : parsePdu bs = (parsePdu rest).map (x :: ·) := by
  have hlt := parseSubPdu_length h
  cases bs with
  | nil => cases h
  | cons b bs =>
    have hfuel : parseSubPdus bs.length rest = parsePdu rest := by
      simp only [List.length_cons] at hlt
      exact parseSubPdus_fuel (by omega) (Nat.le_refl _)
    have hunfold : parsePdu (b :: bs) = (parseSubPdus bs.length rest).bind fun xs => some (x :: xs) := by
      simp only [parsePdu, List.length_cons, parseSubPdus, h]
      rfl
    rw [hunfold, hfuel]
    cases hrest : parsePdu rest <;> rfl

lemma parsePdu_eq_cons (h : parsePdu bs = some (x :: xs)) :
    ∃ rest, parseSubPdu bs = some (x, rest) ∧ parsePdu rest = some xs := by
  cases hx : parseSubPdu bs with
  | none =>
    cases bs with
    | nil => cases h
    | cons b bs => simp [parsePdu, parseSubPdus, hx] at h
  | some r =>
    obtain ⟨y, rest⟩ := r
    rw [parsePdu_of_some hx, Option.map_eq_some_iff] at h
    obtain ⟨ys, hys, hcons⟩ := h
    obtain ⟨rfl, rfl⟩ := List.cons.inj hcons
    exact ⟨rest, rfl, hys⟩

end Rules

/-!
## Assembly of DL-SCH MAC PDUs

SubPDUs are written one after the other into the buffer of a transport block. An SDU is written by the upper layer
itself, behind the place of a subheader whose size is predicted.
-/

open OwlsRan.Lib

inductive DlSchFault where
  | outsideTb
  | emptySdu
  | unsupportedHeaderLength
  /-- More bytes were packed for a logical channel than it was given. -/
  | tooManyBytes
deriving DecidableEq

structure DlSchPdu where
  pdu : List UInt8
  byteOffset : Nat
deriving DecidableEq

/-- A valid `mac_sdu_encoder`. -/
structure MacSduEncoder where
  lcid : Lcid
  subhrLen : Nat
  maxSduSize : Nat
deriving DecidableEq

/-- What the upper layer writes when it gets a buffer of some size: at most as many bytes as the buffer has. -/
abbrev TxSdu := { sdu : Nat → List UInt8 // ∀ size, (sdu size).length ≤ size }

def minMacSubhdrAndSduSpaceRequired (lcid : Lcid) : Nat := MIN_MAC_SDU_SUBHEADER_SIZE + 1 + if lcid ≠ 0 then 2 else 0

namespace DlSchPdu

variable (p : DlSchPdu)

def size : Nat := p.pdu.length

def nofEmptyBytes : Nat := p.size - p.byteOffset

def write (i : Nat) (bs : List UInt8) : Except DlSchFault DlSchPdu :=
  if i + bs.length ≤ p.size then .ok { p with pdu := overwrite p.pdu i bs } else .error .outsideTb

def append (bs : List UInt8) : Except DlSchFault DlSchPdu := do
  let p ← p.write p.byteOffset bs
  return { p with byteOffset := p.byteOffset + bs.length }

section Subheader

def headerByte (fBit : Bool) (lcid : LcidDlSch) : UInt8 := .ofNat (((if fBit then 1 else 0) <<< 6) ||| (lcid.val &&& 0x3f))

def encodeSubheader (fBit : Bool) (lcid : LcidDlSch) (headerLen payloadLen : Nat) : Except DlSchFault DlSchPdu :=
  match headerLen with
  | 3 => p.append [headerByte fBit lcid, .ofNat ((payloadLen &&& 0xff00) >>> 8), .ofNat (payloadLen &&& 0xff)]
  | 2 => p.append [headerByte fBit lcid, .ofNat (payloadLen &&& 0xff)]
  | 1 => p.append [headerByte fBit lcid]
  | _ => .error .unsupportedHeaderLength

end Subheader

section Sdu

def getSduEncoder (lcid : Lcid) (sduPayloadLenEstimate : Nat) : Option MacSduEncoder :=
  if sduPayloadLenEstimate = 0 then none
  else if p.nofEmptyBytes < minMacSubhdrAndSduSpaceRequired lcid then none
  else
    let spaceEstim := min p.nofEmptyBytes (getMacSduRequiredBytes sduPayloadLenEstimate)
    let sduSpaceEstim := getMacSduPayloadSize spaceEstim
    some ⟨lcid, getMacSduSubheaderSize sduSpaceEstim, sduSpaceEstim⟩

def sduOffset (enc : MacSduEncoder) : Nat := p.byteOffset + enc.subhrLen

def reviseSubheader (enc : MacSduEncoder) (sduBytesWritten : Nat) : Except DlSchFault (MacSduEncoder × DlSchPdu) :=
  if getMacSduSubheaderSize sduBytesWritten ≠ enc.subhrLen then do
    let newStart := p.byteOffset + MIN_MAC_SDU_SUBHEADER_SIZE
    let p ← p.write newStart ((p.pdu.drop (newStart + 1)).take sduBytesWritten)
    return ({ enc with subhrLen := MIN_MAC_SDU_SUBHEADER_SIZE }, p)
  else .ok (enc, p)

def encodeSdu (enc : MacSduEncoder) (sduBytesWritten : Nat) : Except DlSchFault (Nat × DlSchPdu) :=
  if sduBytesWritten = 0 ∨ sduBytesWritten > enc.maxSduSize then .ok (0, p)
  else do
    let (enc, p) ← p.reviseSubheader enc sduBytesWritten
    let fBit : Bool := enc.subhrLen > MIN_MAC_SDU_SUBHEADER_SIZE
    let p ← p.encodeSubheader fBit (enc.lcid.castLE (by decide)) enc.subhrLen sduBytesWritten
    return (enc.subhrLen + sduBytesWritten, { p with byteOffset := p.byteOffset + sduBytesWritten })

def addSdu (lcid : Lcid) (sdu : List UInt8) : Except DlSchFault (Nat × DlSchPdu) :=
  if sdu = [] then .error .emptySdu
  else
    match p.getSduEncoder lcid sdu.length with
    | none => .ok (0, p)
    | some enc => do
      let p ← p.write (p.sduOffset enc) sdu
      p.encodeSdu enc sdu.length

end Sdu

section ControlElements

def addUeConResId (conRes : UeConResId) : Except DlSchFault DlSchPdu := do
  let p ← p.encodeSubheader false .UE_CON_RES_ID 1 LcidDlSch.UE_CON_RES_ID.sizeofCe
  p.append conRes.val

def tagCmdByte (tagId : Fin 4) (taCmd : Fin 64) : UInt8 := .ofNat ((tagId.val &&& 0xc0) ||| (taCmd.val &&& 0x3f))

def addTagCmd (tagId : Fin 4) (taCmd : Fin 64) : Except DlSchFault DlSchPdu := do
  let p ← p.encodeSubheader false .TA_CMD 1 LcidDlSch.TA_CMD.sizeofCe
  p.append [tagCmdByte tagId taCmd]

def addPadding (len : Nat) : Except DlSchFault DlSchPdu := do
  let p ← p.encodeSubheader false .PADDING 1 (len - 1)
  p.append (List.replicate (len - 1) 0)

end ControlElements

section Assembler

/-- The loop of `assemble_sdus`: the bytes left for the logical channel, and what the upper layer answers to each
request, until it has nothing to send. -/
def assembleSdusLoop (p : DlSchPdu) (lcid : Lcid) (remBytes : Nat) : List TxSdu → Except DlSchFault DlSchPdu
  | [] => .ok p
  | answer :: answers =>
    if remBytes < minMacSubhdrAndSduSpaceRequired lcid then .ok p
    else
      match p.getSduEncoder lcid (getMacSduPayloadSize remBytes) with
      | none => .ok p
      | some enc =>
        let sdu := answer.val enc.maxSduSize
        if sdu = [] then .ok p
        else do
          let p ← p.write (p.sduOffset enc) sdu
          let (subhAndSduSize, p) ← p.encodeSdu enc sdu.length
          if subhAndSduSize = 0 then return p
          if remBytes < subhAndSduSize then throw .tooManyBytes
          assembleSdusLoop p lcid (remBytes - subhAndSduSize) answers

def assembleSdus (lcid : Lcid) (schedBytes : Nat) (answers : List TxSdu) : Except DlSchFault DlSchPdu :=
  p.assembleSdusLoop lcid (min (getMacSduRequiredBytes schedBytes) p.nofEmptyBytes) answers

end Assembler

end DlSchPdu

/-- What is put into a PDU: the subPDUs that the scheduler asks for, or an SDU of its own. -/
inductive DlSchOp where
  | ueConResId (conRes : UeConResId)
  | taCmd (tagId : Fin 4) (taCmd : Fin 64)
  | sdus (lcid : Lcid) (schedBytes : Nat) (answers : List TxSdu)
  | addSdu (lcid : Lcid) (sdu : List UInt8) (nonempty : sdu ≠ [])

namespace DlSchPdu

def run (p : DlSchPdu) : DlSchOp → Except DlSchFault DlSchPdu
  | .ueConResId conRes => p.addUeConResId conRes
  | .taCmd tagId taCmd => p.addTagCmd tagId taCmd
  | .sdus lcid schedBytes answers => p.assembleSdus lcid schedBytes answers
  | .addSdu lcid sdu _ => do return (← p.addSdu lcid sdu).2

/-- The end of `assemble_newtx_pdu`: the rest of the transport block is padding. -/
def finish (p : DlSchPdu) : Except DlSchFault (List UInt8) :=
  if p.byteOffset < p.size then do
    let p ← p.addPadding (p.size - p.byteOffset)
    return p.pdu.take p.byteOffset
  else if p.byteOffset > p.size then .ok (List.replicate p.size 0)
  else .ok (p.pdu.take p.byteOffset)

end DlSchPdu

/-- `assemble_newtx_pdu` on the buffer of a transport block. -/
def assembleNewtxPdu (buffer : List UInt8) (ops : List DlSchOp) : Except DlSchFault (List UInt8) := do
  let p ← ops.foldlM DlSchPdu.run ⟨buffer, 0⟩
  p.finish

end OwlsRan.Mac
