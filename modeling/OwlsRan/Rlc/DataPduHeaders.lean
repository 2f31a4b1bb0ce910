import OwlsRan.Rlc.RlcUmPdu

/-!
# The length of a data PDU header

A receiver strips as many bytes as the packed length of the header it has read.
-/

namespace OwlsRan.Rlc
open OwlsRan.Lib ByteReader

inductive RlcDcField where
  | control
  | data
deriving DecidableEq

namespace RlcDcField

def toNumber : RlcDcField → Nat
  | control => 0
  | data => 1

def ofNumber : Nat → RlcDcField
  | 0 => control
  | _ => data

end RlcDcField

structure RlcAmDcPduHeader extends RlcAmPduHeader where
  dc : RlcDcField
deriving DecidableEq

def rlcAmReadDcPduHeader (pdu : List UInt8) (snSize : RlcAmSnSize) : Parsed (RlcAmDcPduHeader × ByteReader) := do
  rejectUnless (rlcAmPduHeaderMinSize snSize < pdu.length)
  let (b0, r) ← ByteReader.next pdu
  let si := RlcSiField.ofNumber (b0.toNat / 16 % 4)
  let (sn, r) ← readSn snSize b0 r
  let (so, r) ← readSegmentOffset si r
  .ok (⟨⟨b0.toNat / 64 % 2 = 1, si, snSize, sn, so⟩, .ofNumber (b0.toNat / 128)⟩, r)

def snHighBits : RlcAmSnSize → Nat → Nat
  | .size12bits, sn => sn / 256 % 16
  | .size18bits, sn => sn / 65536 % 4

def snLowBytes : RlcAmSnSize → Nat → List UInt8
  | .size12bits, sn => [UInt8.ofNat sn]
  | .size18bits, sn => [UInt8.ofNat (sn / 256), UInt8.ofNat sn]

def rlcAmWriteDcPduHeader (h : RlcAmDcPduHeader) : List UInt8 :=
  UInt8.ofNat (h.dc.toNumber * 128 + h.p.toNat * 64 + h.si.toNumber * 16 + snHighBits h.snSize h.sn) ::
    snLowBytes h.snSize h.sn ++ writeSo h.so

section Reading

variable {snSize : RlcAmSnSize}

lemma readSn_spec (snSize : RlcAmSnSize) (high : UInt8) (r : ByteReader) :
    Yields (readSn snSize high r) (fun res => Advanced r (rlcAmPduHeaderMinSize snSize - 1) res.2) fun _ => True := by
  cases snSize with
  | size12bits =>
    refine yields_bind (yields_true _) fun _ _ => yields_bind (yields_next_advanced r) fun _ h₁ => ?_
    exact h₁
  | size18bits =>
    refine yields_bind (yields_true _) fun _ _ => yields_bind (yields_true _) fun _ _ => ?_
    refine yields_bind (yields_next_advanced r) fun _ h₁ => yields_bind (yields_true _) fun _ _ => ?_
    exact yields_bind (yields_next_advanced _) fun _ h₂ => h₁.trans h₂

lemma rlcAmReadDcPduHeader_spec (pdu : List UInt8) (snSize : RlcAmSnSize) :
    Yields (rlcAmReadDcPduHeader pdu snSize)
      (fun res => Advanced pdu res.1.getPackedSize res.2 ∧ res.1.snSize = snSize) fun _ => True := by
  unfold rlcAmReadDcPduHeader
  cases pdu with
  | nil => trivial
  | cons b0 r =>
    refine yields_bind (yields_true _) fun _ _ => ?_
    change Yields (readSn snSize b0 r >>= _) _ _
    refine yields_bind (readSn_spec snSize b0 r) fun ⟨sn, r₁⟩ hr₁ => ?_
    refine yields_bind (readSegmentOffset_spec _ r₁) fun ⟨so, rest⟩ ⟨hrest, _⟩ => ⟨?_, rfl⟩
    have hall := ((advanced_cons b0 r).trans hr₁).trans hrest
    have hpos : 1 ≤ rlcAmPduHeaderMinSize snSize := by cases snSize <;> decide
    rw [Nat.add_sub_cancel' hpos] at hall
    unfold RlcAmPduHeader.getPackedSize
    split
    case isTrue hso =>
      rwa [if_pos hso] at hall
    case isFalse hso =>
      rwa [if_neg hso] at hall

end Reading

section RoundTrip

lemma snHighBits_lt (snSize : RlcAmSnSize) (sn : Nat) : snHighBits snSize sn < 16 := by
  cases snSize with
  | size12bits => exact Nat.mod_lt _ (by decide)
  | size18bits => exact (Nat.mod_lt _ (by decide)).trans (by decide : 4 < 16)

lemma length_snLowBytes (snSize : RlcAmSnSize) (sn : Nat) :
    (snLowBytes snSize sn).length + 1 = rlcAmPduHeaderMinSize snSize := by cases snSize <;> rfl

lemma amFirstByte_fields (dc : RlcDcField) (p : Bool) (si : RlcSiField) {high : Nat} (hhigh : high < 16) :
    let b := UInt8.ofNat (dc.toNumber * 128 + p.toNat * 64 + si.toNumber * 16 + high)
    b.toNat / 128 = dc.toNumber ∧ b.toNat / 64 % 2 = p.toNat ∧ b.toNat / 16 % 4 = si.toNumber ∧ b.toNat % 16 = high := by
  have hdc : dc.toNumber ≤ 1 := by cases dc <;> decide
  have hp : p.toNat ≤ 1 := Bool.toNat_le p
  have hsi := toNumber_lt si
  dsimp only
  rw [toNat_ofNat_of_lt (by omega)]
  omega

lemma readSn_write (snSize : RlcAmSnSize) {high : UInt8} {sn : Nat} (hhigh : high.toNat % 16 = snHighBits snSize sn)
    (r : List UInt8) : readSn snSize high (snLowBytes snSize sn ++ r) = .ok (sn % snSize.modulus, r) := by
  have hlow : ∀ n, (UInt8.ofNat n).toNat = n % 256 := fun _ => UInt8.toNat_ofNat'
  cases snSize with
  | size12bits =>
    have hsn := @readSn_write_size12bits high (sn % 4096) (Nat.mod_lt _ (by decide))
      (by rw [hhigh]; change sn / 256 % 16 = _; omega) r
    have hbyte : UInt8.ofNat (sn % 4096) = UInt8.ofNat sn := by
      rw [← UInt8.toNat_inj, hlow, hlow]
      omega
    rw [hbyte] at hsn
    exact hsn
  | size18bits =>
    have hsn := @readSn_write_size18bits high (sn % 262144) (Nat.mod_lt _ (by decide))
      (by rw [hhigh]; change sn / 65536 % 4 = _; omega) r
    have hbyte : UInt8.ofNat (sn % 262144) = UInt8.ofNat sn := by
      rw [← UInt8.toNat_inj, hlow, hlow]
      omega
    have hcenter : UInt8.ofNat (sn % 262144 / 256) = UInt8.ofNat (sn / 256) := by
      rw [← UInt8.toNat_inj, hlow, hlow]
      omega
    rw [hbyte, hcenter] at hsn
    exact hsn

variable {header : RlcAmDcPduHeader} {payload : List UInt8}

lemma length_rlcAmWriteDcPduHeader (hso : SoConsistent header.si header.so) :
    (rlcAmWriteDcPduHeader header).length = header.getPackedSize := by
  have hlow := length_snLowBytes header.snSize header.sn
  unfold rlcAmWriteDcPduHeader RlcAmPduHeader.getPackedSize rlcAmPduHeaderMaxSize rlcAmPduHeaderSoSize
  rw [List.cons_append, List.length_cons, List.length_append, length_writeSo hso]
  split <;> omega

lemma rlcAmReadDcPduHeader_write (hso : SoConsistent header.si header.so)
    (hlen : header.si.hasSo = true ∨ payload ≠ []) :
    rlcAmReadDcPduHeader (rlcAmWriteDcPduHeader header ++ payload) header.snSize =
      .ok (⟨{ header with sn := header.sn % header.snSize.modulus }, header.dc⟩, payload) := by
  have hlong : rlcAmPduHeaderMinSize header.snSize < (rlcAmWriteDcPduHeader header ++ payload).length := by
    rw [List.length_append, length_rlcAmWriteDcPduHeader hso, RlcAmPduHeader.getPackedSize, rlcAmPduHeaderMaxSize,
      rlcAmPduHeaderSoSize]
    rcases hlen with hhas | hpayload
    · rw [if_pos hhas]
      omega
    · have hpos := List.length_pos_iff.mpr hpayload
      split <;> omega
  have hok : ∀ {α β : Type} (a : α) (f : α → Parsed β), (Except.ok a >>= f) = f a := fun _ _ => rfl
  obtain ⟨⟨p, si, snSize, sn, so⟩, dc⟩ := header
  change SoConsistent si so at hso
  obtain ⟨hdc, hp, hsi, hhigh⟩ := amFirstByte_fields dc p si (snHighBits_lt snSize sn)
  have hbit : decide (p.toNat = 1) = p := by cases p <;> rfl
  have hfield : RlcDcField.ofNumber dc.toNumber = dc := by cases dc <;> rfl
  unfold rlcAmReadDcPduHeader
  rw [rejectUnless_ok hlong, hok]
  unfold rlcAmWriteDcPduHeader
  rw [List.cons_append, List.cons_append, List.append_assoc]
  simp only [ByteReader.next, hok, readSn_write snSize hhigh, hsi, ofNumber_toNumber, readSegmentOffset_write hso, hp,
    hbit, hdc, hfield]

lemma rlcAmReadDcPduHeader_write_empty (hso : SoConsistent header.si header.so) (hno : ¬header.si.hasSo = true) :
    rlcAmReadDcPduHeader (rlcAmWriteDcPduHeader header ++ []) header.snSize = .error .rejected := by
  have hlen : ¬rlcAmPduHeaderMinSize header.snSize < (rlcAmWriteDcPduHeader header ++ []).length := by
    rw [List.append_nil, length_rlcAmWriteDcPduHeader hso, RlcAmPduHeader.getPackedSize, if_neg hno]
    exact Nat.lt_irrefl _
  unfold rlcAmReadDcPduHeader
  rw [rejectUnless_error hlen]
  rfl

end RoundTrip

/-- The receivers strip the bytes that were read, and what is written is read back. In UM this needs that a later
segment does not give 0 as its offset. The SN must fit, PDUs with a complete SDU have none in UM, and PDUs without an
offset must have a payload in AM. -/
theorem dataPduHeaders_agree (pdu payload : List UInt8) :
    (∀ snSize header rest, rlcUmReadDataPduHeader pdu snSize = .ok (header, rest) →
      (Advanced pdu (rlcUmNrPackedLength header) rest ↔ ¬LaterSegmentAtZero snSize pdu)) ∧
    (∀ snSize header rest, rlcAmReadDcPduHeader pdu snSize = .ok (header, rest) →
      Advanced pdu header.getPackedSize rest) ∧
    (∀ header : RlcUmPduHeader, SoConsistent header.si header.so →
      (rlcUmReadDataPduHeader (rlcUmWriteDataPduHeader header ++ payload) header.snSize = .ok (header, payload) ↔
        header.sn < header.snSize.modulus ∧ (header.si = .fullSdu → header.sn = 0))) ∧
    ∀ header : RlcAmDcPduHeader, SoConsistent header.si header.so →
      (rlcAmReadDcPduHeader (rlcAmWriteDcPduHeader header ++ payload) header.snSize = .ok (header, payload) ↔
        header.sn < header.snSize.modulus ∧ (header.si.hasSo = true ∨ payload ≠ [])) := by
  refine ⟨?_, ?_, ?_, ?_⟩
  · intro snSize header rest hread
    exact rlcUmNrPackedLength_advanced ((rlcUmReadDataPduHeader_spec pdu snSize).of_ok hread)
  · intro snSize header rest hread
    exact ((rlcAmReadDcPduHeader_spec pdu snSize).of_ok hread).1
  · intro header hso
    rw [rlcUmReadDataPduHeader_write hso, ← header.writtenSn_eq_iff]
    constructor
    · intro hback
      exact congrArg (fun res => res.1.sn) (Except.ok.inj hback)
    · intro hsn
      rw [hsn]
  · intro header hso
    by_cases hlen : header.si.hasSo = true ∨ payload ≠ []
    · have hfits : header.sn % header.snSize.modulus = header.sn ↔ header.sn < header.snSize.modulus :=
        Nat.mod_eq_iff_lt (cardinality_ne_zero _)
      rw [rlcAmReadDcPduHeader_write hso hlen, ← hfits, and_iff_left hlen]
      constructor
      · intro hback
        exact congrArg (fun res => res.1.sn) (Except.ok.inj hback)
      · intro hsn
        rw [hsn]
    · obtain ⟨hno, hempty⟩ := not_or.mp hlen
      rw [not_not.mp hempty, rlcAmReadDcPduHeader_write_empty hso hno]
      rw [not_not.mp hempty] at hlen
      exact iff_of_false (fun hback => nomatch hback) fun h => hlen h.2

/-- A first segment of UM and a last segment of AM, each with a payload. -/
theorem dataPduHeaders_agree_segments :
    Advanced [0x45, 1, 2] (rlcUmNrPackedLength ⟨.firstSegment, .size6bits, 5, 0⟩) [1, 2] ∧
      Advanced [0xa0, 5, 0, 9, 1] (rlcAmPduHeaderMaxSize .size12bits) [1] ∧
      rlcUmReadDataPduHeader [0x45, 7] .size6bits = .ok (⟨.firstSegment, .size6bits, 5, 0⟩, [7]) ∧
      rlcAmReadDcPduHeader [0x80, 5, 7] .size12bits = .ok (⟨⟨false, .fullSdu, .size12bits, 5, 0⟩, .data⟩, [7]) :=
  ⟨((dataPduHeaders_agree [0x45, 1, 2] []).1 .size6bits ⟨.firstSegment, .size6bits, 5, 0⟩ [1, 2] rfl).mpr (by decide),
    (dataPduHeaders_agree [0xa0, 5, 0, 9, 1] []).2.1 .size12bits ⟨⟨false, .lastSegment, .size12bits, 5, 9⟩, .data⟩ [1]
      rfl,
    ((dataPduHeaders_agree [] [7]).2.2.1 ⟨.firstSegment, .size6bits, 5, 0⟩ (by decide)).mpr (by decide),
    ((dataPduHeaders_agree [] [7]).2.2.2 ⟨⟨false, .fullSdu, .size12bits, 5, 0⟩, .data⟩ (by decide)).mpr (by decide)⟩

/-- The last segment of an SDU, said to begin at 0. Its offset is read but not stripped. -/
theorem dataPduHeaders_disagree :
    rlcUmReadDataPduHeader [0x80, 0, 0, 7] .size6bits = .ok (⟨.lastSegment, .size6bits, 0, 0⟩, [7]) ∧
      ¬Advanced [0x80, 0, 0, 7] (rlcUmNrPackedLength ⟨.lastSegment, .size6bits, 0, 0⟩) [7] := by
  decide

end OwlsRan.Rlc
