import OwlsRan.Lib.EventRun
import OwlsRan.Mac.DlSchPdu

/-!
# The bytes of DL-SCH subPDUs

What the assembler writes for a subPDU, and what a receiver reads of it.
-/

namespace OwlsRan.Mac
open OwlsRan.Lib OwlsRan.Ran DlSchPdu

section Bytes

lemma headerByte_toNat : ∀ (fBit : Bool) (lcid : LcidDlSch),
    (headerByte fBit lcid).toNat = (if fBit then 64 else 0) + lcid.val := by decide

lemma tagCmdByte_toNat : ∀ (tagId : Fin 4) (taCmd : Fin 64), (tagCmdByte tagId taCmd).toNat = taCmd.val := by decide

lemma lowByte_toNat (n : Nat) : (UInt8.ofNat (n &&& 0xff)).toNat = n % 256 := by
  have hand : n &&& 0xff = n % 2 ^ 8 := Nat.and_two_pow_sub_one_eq_mod n 8
  rw [hand]
  simp

lemma highByte_toNat (n : Nat) : (UInt8.ofNat ((n &&& 0xff00) >>> 8)).toNat = n / 256 % 256 := by
  have hshift : (n &&& 0xff00) >>> 8 = n >>> 8 &&& 0xff := Nat.shiftRight_and_distrib
  have hand : n >>> 8 &&& 0xff = (n >>> 8) % 2 ^ 8 := Nat.and_two_pow_sub_one_eq_mod _ 8
  rw [hshift, hand, Nat.shiftRight_eq_div_pow]
  simp

lemma sduLcid_le : 33 ≤ 64 := by decide

def sduSubheader (lcid : Lcid) (n : Nat) : List UInt8 :=
  if n ≥ MAC_SDU_SUBHEADER_LENGTH_THRES then
    [headerByte true (lcid.castLE sduLcid_le), .ofNat ((n &&& 0xff00) >>> 8), .ofNat (n &&& 0xff)]
  else [headerByte false (lcid.castLE sduLcid_le), .ofNat (n &&& 0xff)]

namespace SubPdu

def encoded : SubPdu → List UInt8
  | ueConResId id => headerByte false .UE_CON_RES_ID :: id.val
  | taCmd tagId cmd => [headerByte false .TA_CMD, tagCmdByte tagId cmd]
  | sdu lcid payload => sduSubheader lcid payload.length ++ payload
  | padding length => headerByte false .PADDING :: List.replicate length 0

def Representable : SubPdu → Prop
  | taCmd tagId _ => tagId = 0
  | sdu _ payload => payload.length < 65536
  | _ => True

end SubPdu

variable {rest r : List UInt8} {x : SubPdu}

lemma parse_taCmd (tagId : Fin 4) (cmd : Fin 64) :
    parseSubPdu ((SubPdu.taCmd tagId cmd).encoded ++ rest) = some (.taCmd 0 cmd, rest) := by
  have hheader : (headerByte false .TA_CMD).toNat = 61 := rfl
  have hbyte := tagCmdByte_toNat tagId cmd
  have hcmd := cmd.isLt
  have htag : cmd.val / 64 % 4 = 0 := by omega
  have hmod : cmd.val % 64 = cmd.val := by omega
  simp [SubPdu.encoded, parseSubPdu, hheader, hbyte, htag, hmod]

lemma parse_ueConResId (id : UeConResId) :
    parseSubPdu ((SubPdu.ueConResId id).encoded ++ rest) = some (.ueConResId id, rest) := by
  obtain ⟨id, hid⟩ := id
  have hheader : (headerByte false .UE_CON_RES_ID).toNat = 62 := rfl
  have htake : (id ++ rest).take 6 = id := by rw [← hid, List.take_left]
  have hdrop : (id ++ rest).drop 6 = rest := by rw [← hid, List.drop_left]
  simp [SubPdu.encoded, parseSubPdu, hheader, htake, hdrop, hid]

lemma parse_padding (n : Nat) : parseSubPdu (SubPdu.padding n).encoded = some (.padding n, []) := by
  have hheader : (headerByte false .PADDING).toNat = 63 := rfl
  simp [SubPdu.encoded, parseSubPdu, hheader]

lemma parse_shortSdu {header lo : UInt8} {body : List UInt8} {lcid : Lcid} (hheader : header.toNat = lcid.val) :
    parseSubPdu (header :: lo :: body) =
      if body.length < lo.toNat then none else some (.sdu lcid (body.take lo.toNat), body.drop lo.toNat) := by
  have hlcid := lcid.isLt
  have h₀ : lcid.val % 64 = lcid.val := by omega
  have h₁ : lcid.val / 64 % 2 ≠ 1 := by omega
  have h₂ : lcid.val ≠ 63 ∧ lcid.val ≠ 62 ∧ lcid.val ≠ 61 := by omega
  simp [parseSubPdu, parseLength, hheader, h₀, h₁, h₂]

lemma parse_longSdu {header hi lo : UInt8} {body : List UInt8} {lcid : Lcid} {n : Nat}
    (hheader : header.toNat = 64 + lcid.val) (hn : hi.toNat * 256 + lo.toNat = n) :
    parseSubPdu (header :: hi :: lo :: body) =
      if n < 256 then none
      else if body.length < n then none
      else some (.sdu lcid (body.take n), body.drop n) := by
  have hlcid := lcid.isLt
  have h₀ : (64 + lcid.val) % 64 = lcid.val := by omega
  have h₁ : (64 + lcid.val) / 64 % 2 = 1 := by omega
  have h₂ : lcid.val ≠ 63 ∧ lcid.val ≠ 62 ∧ lcid.val ≠ 61 := by omega
  simp only [parseSubPdu, parseLength, hheader, h₀, h₁, h₂, hn, hlcid, if_false, dif_pos, decide_true, Bool.not_true,
    Bool.false_eq_true]
  split <;> rfl

lemma parse_sdu (lcid : Lcid) (payload : List UInt8) :
    parseSubPdu ((SubPdu.sdu lcid payload).encoded ++ rest) =
      if payload.length < 256 then some (.sdu lcid payload, rest)
      else if payload.length % 65536 < 256 then none
      else some (.sdu lcid (payload.take (payload.length % 65536)), (payload ++ rest).drop (payload.length % 65536)) := by
  have hcast : ∀ fBit, (headerByte fBit (lcid.castLE (by decide))).toNat = (if fBit then 64 else 0) + lcid.val :=
    fun fBit => headerByte_toNat fBit _
  have hlow := lowByte_toNat payload.length
  by_cases hshort : payload.length < 256
  · have hbytes : (SubPdu.sdu lcid payload).encoded ++ rest =
        headerByte false (lcid.castLE (by decide)) :: .ofNat (payload.length &&& 0xff) :: (payload ++ rest) := by
      simp only [SubPdu.encoded, sduSubheader, MAC_SDU_SUBHEADER_LENGTH_THRES, ge_iff_le, Nat.not_le.mpr hshort, if_false]
      rfl
    have hheader := (hcast false).trans (Nat.zero_add _)
    rw [hbytes, parse_shortSdu hheader, hlow, Nat.mod_eq_of_lt hshort, if_pos hshort, if_neg, List.take_left,
      List.drop_left]
    rw [List.length_append]
    omega
  · have hbytes : (SubPdu.sdu lcid payload).encoded ++ rest = headerByte true (lcid.castLE (by decide)) ::
        .ofNat ((payload.length &&& 0xff00) >>> 8) :: .ofNat (payload.length &&& 0xff) :: (payload ++ rest) := by
      simp only [SubPdu.encoded, sduSubheader, MAC_SDU_SUBHEADER_LENGTH_THRES, ge_iff_le, Nat.not_lt.mp hshort, if_true]
      rfl
    have hn : (UInt8.ofNat ((payload.length &&& 0xff00) >>> 8)).toNat * 256 +
        (UInt8.ofNat (payload.length &&& 0xff)).toNat = payload.length % 65536 := by
      rw [hlow, highByte_toNat]
      omega
    have hle : payload.length % 65536 ≤ payload.length := Nat.mod_le _ _
    rw [hbytes, parse_longSdu (hcast true) hn, if_neg hshort]
    by_cases hcut : payload.length % 65536 < 256
    · rw [if_pos hcut, if_pos hcut]
    · rw [if_neg hcut, if_neg hcut, if_neg, List.take_append_of_le_length hle]
      rw [List.length_append]
      omega

lemma parse_encoded_iff (hpadding : ∀ n, x ≠ .padding n) :
    (∃ r, parseSubPdu (x.encoded ++ rest) = some (x, r)) ↔ x.Representable := by
  cases x with
  | ueConResId id => exact ⟨fun _ => trivial, fun _ => ⟨rest, parse_ueConResId id⟩⟩
  | taCmd tagId cmd =>
    rw [parse_taCmd]
    constructor
    · rintro ⟨r, h⟩
      simp only [Option.some.injEq, Prod.mk.injEq, SubPdu.taCmd.injEq] at h
      exact h.1.1.symm
    · rintro rfl
      exact ⟨rest, rfl⟩
  | sdu lcid payload =>
    rw [parse_sdu]
    constructor
    · rintro ⟨r, h⟩
      by_contra hlong
      have hle : 65536 ≤ payload.length := Nat.not_lt.mp hlong
      rw [if_neg (by omega)] at h
      split at h
      · cases h
      · simp only [Option.some.injEq, Prod.mk.injEq, SubPdu.sdu.injEq, true_and] at h
        have hlength := congrArg List.length h.1
        rw [List.length_take] at hlength
        omega
    · intro hlt
      have hmod : payload.length % 65536 = payload.length := Nat.mod_eq_of_lt hlt
      rw [hmod]
      by_cases hshort : payload.length < 256
      · exact ⟨rest, by rw [if_pos hshort]⟩
      · exact ⟨rest, by rw [if_neg hshort, if_neg hshort, List.take_length, List.drop_left]⟩
  | padding n => exact absurd rfl (hpadding n)

lemma parse_encoded (hpadding : ∀ n, x ≠ .padding n) (h : x.Representable) :
    parseSubPdu (x.encoded ++ rest) = some (x, rest) := by
  cases x with
  | ueConResId id => exact parse_ueConResId id
  | taCmd tagId cmd =>
    obtain rfl : tagId = 0 := h
    exact parse_taCmd 0 cmd
  | sdu lcid payload =>
    have hmod : payload.length % 65536 = payload.length := Nat.mod_eq_of_lt h
    rw [parse_sdu, hmod]
    by_cases hshort : payload.length < 256
    · rw [if_pos hshort]
    · rw [if_neg hshort, if_neg hshort, List.take_length, List.drop_left]
  | padding n => exact absurd rfl (hpadding n)

lemma parse_flatMap_encoded {xs ys : List SubPdu} (hpadding : ∀ x ∈ xs, ∀ n, x ≠ .padding n) :
    parsePdu (xs.flatMap (·.encoded) ++ rest) = some (xs ++ ys) ↔
      (∀ x ∈ xs, x.Representable) ∧ parsePdu rest = some ys := by
  induction xs with
  | nil => simp
  | cons x xs ih =>
    have hx := hpadding x List.mem_cons_self
    have ih := ih fun y hy => hpadding y (List.mem_cons_of_mem x hy)
    rw [List.flatMap_cons, List.append_assoc]
    constructor
    · intro h
      obtain ⟨r, hr, hrest⟩ := parsePdu_eq_cons h
      have hrep : x.Representable := (parse_encoded_iff hx).mp ⟨r, hr⟩
      rw [parse_encoded hx hrep] at hr
      obtain ⟨-, rfl⟩ := Prod.mk.inj (Option.some.inj hr)
      obtain ⟨hall, hys⟩ := ih.mp hrest
      exact ⟨fun y hy => (List.mem_cons.mp hy).elim (fun he => he ▸ hrep) (hall y), hys⟩
    · rintro ⟨hall, hys⟩
      rw [parsePdu_of_some (parse_encoded hx (hall x List.mem_cons_self)),
        ih.mpr ⟨fun y hy => hall y (List.mem_cons_of_mem x hy), hys⟩]
      rfl

end Bytes

namespace DlSchPdu

section Writing

variable {p : DlSchPdu}

/-- `p'` is `p` with further bytes encoded. -/
def Extends (p p' : DlSchPdu) (bs : List UInt8) : Prop :=
  p'.size = p.size ∧ p'.byteOffset = p.byteOffset + bs.length ∧
    p'.pdu.take p'.byteOffset = p.pdu.take p.byteOffset ++ bs

lemma Extends.refl (p : DlSchPdu) : Extends p p [] := ⟨rfl, rfl, (List.append_nil _).symm⟩

lemma Extends.trans {p' p'' : DlSchPdu} {bs cs : List UInt8} (h : Extends p p' bs) (h' : Extends p' p'' cs) :
    Extends p p'' (bs ++ cs) := by
  refine ⟨h'.1.trans h.1, ?_, ?_⟩
  · rw [h'.2.1, h.2.1, List.length_append, Nat.add_assoc]
  · rw [h'.2.2, h.2.2, List.append_assoc]

lemma append_spec {bs : List UInt8} (h : p.byteOffset + bs.length ≤ p.size) :
    ∃ p', p.append bs = .ok p' ∧ Extends p p' bs := by
  refine ⟨⟨overwrite p.pdu p.byteOffset bs, p.byteOffset + bs.length⟩, ?_, length_overwrite h, rfl,
    take_overwrite_end h⟩
  rw [append, write, if_pos h]
  rfl

lemma append_before {hdr payload : List UInt8} (h : p.byteOffset + hdr.length + payload.length ≤ p.size) :
    ∃ p', ({ p with pdu := overwrite p.pdu (p.byteOffset + hdr.length) payload } : DlSchPdu).append hdr = .ok p' ∧
      Extends p { p' with byteOffset := p'.byteOffset + payload.length } (hdr ++ payload) := by
  have hsize : (overwrite p.pdu (p.byteOffset + hdr.length) payload).length = p.size := length_overwrite h
  have hin : p.byteOffset + hdr.length ≤ (overwrite p.pdu (p.byteOffset + hdr.length) payload).length := by omega
  refine ⟨⟨overwrite (overwrite p.pdu (p.byteOffset + hdr.length) payload) p.byteOffset hdr,
    p.byteOffset + hdr.length⟩, ?_, (length_overwrite hin).trans hsize, ?_, ?_⟩
  · rw [append, write, size, if_pos hin]
    rfl
  · rw [List.length_append, ← Nat.add_assoc]
  · have htake := take_overwrite_overwrite h
    rw [List.length_append, ← Nat.add_assoc] at htake
    exact htake

lemma encodeSubheader_sdu (p : DlSchPdu) (lcid : Lcid) {n : Nat} (hn : n ≠ 0) :
    p.encodeSubheader (decide (getMacSduSubheaderSize n > MIN_MAC_SDU_SUBHEADER_SIZE)) (lcid.castLE (by decide))
      (getMacSduSubheaderSize n) n = p.append (sduSubheader lcid n) := by
  unfold getMacSduSubheaderSize sduSubheader
  rw [if_neg hn]
  split <;> rfl

lemma length_sduSubheader (lcid : Lcid) {n : Nat} (hn : n ≠ 0) :
    (sduSubheader lcid n).length = getMacSduSubheaderSize n := by
  unfold getMacSduSubheaderSize sduSubheader
  rw [if_neg hn]
  split <;> rfl

end Writing

section Encoder

variable {p : DlSchPdu} {lcid : Lcid} {enc : MacSduEncoder} {sdu : List UInt8}

lemma subheaderSize_pos {n : Nat} (hn : n ≠ 0) : getMacSduSubheaderSize n = 2 ∨ getMacSduSubheaderSize n = 3 := by
  unfold getMacSduSubheaderSize MAX_MAC_SDU_SUBHEADER_SIZE MIN_MAC_SDU_SUBHEADER_SIZE
  split
  · contradiction
  · split <;> omega

lemma payloadSize_le {space : Nat} (h : 3 ≤ space) :
    1 ≤ getMacSduPayloadSize space ∧
      getMacSduPayloadSize space + getMacSduSubheaderSize (getMacSduPayloadSize space) ≤ space := by
  unfold getMacSduPayloadSize getMacSduSubheaderSize MAC_SDU_SUBHEADER_LENGTH_THRES MIN_MAC_SDU_SUBHEADER_SIZE
    MAX_MAC_SDU_SUBHEADER_SIZE
  split
  · rw [if_neg (by omega)]
    split <;> omega
  · rw [if_neg (by omega)]
    split <;> omega

lemma payloadSize_requiredBytes {n : Nat} (hn : n ≠ 0) : getMacSduPayloadSize (getMacSduRequiredBytes n) = n := by
  unfold getMacSduPayloadSize getMacSduRequiredBytes getMacSduSubheaderSize MAC_SDU_SUBHEADER_LENGTH_THRES
    MIN_MAC_SDU_SUBHEADER_SIZE MAX_MAC_SDU_SUBHEADER_SIZE
  rw [if_neg hn]
  split
  · rw [if_neg (by omega)]
    omega
  · rw [if_pos (by omega)]
    omega

lemma subheaderSize_mono {m n : Nat} (hm : m ≠ 0) (h : m ≤ n) :
    getMacSduSubheaderSize m = getMacSduSubheaderSize n ∨
      (getMacSduSubheaderSize m = 2 ∧ getMacSduSubheaderSize n = 3) := by
  unfold getMacSduSubheaderSize MAC_SDU_SUBHEADER_LENGTH_THRES MIN_MAC_SDU_SUBHEADER_SIZE MAX_MAC_SDU_SUBHEADER_SIZE
  have hn : n ≠ 0 := by omega
  simp only [hm, hn, if_false]
  split <;> split <;> omega

/-- The buffer of the encoder lies in the transport block, behind the place of its subheader. -/
structure Encodes (p : DlSchPdu) (enc : MacSduEncoder) : Prop where
  subhrLen : enc.subhrLen = getMacSduSubheaderSize enc.maxSduSize
  nonempty : 1 ≤ enc.maxSduSize
  fits : p.byteOffset + enc.subhrLen + enc.maxSduSize ≤ p.size

/-- An SDU that the upper layer wrote into the buffer is encoded behind a subheader of its own size. -/
theorem encodeSdu_spec (h : p.Encodes enc) (hne : sdu ≠ []) (hle : sdu.length ≤ enc.maxSduSize) :
    ∃ p₁ p', p.write (p.sduOffset enc) sdu = .ok p₁ ∧
      p₁.encodeSdu enc sdu.length = .ok (getMacSduRequiredBytes sdu.length, p') ∧
      Extends p p' (SubPdu.sdu enc.lcid sdu).encoded := by
  have hn : sdu.length ≠ 0 := fun h0 => hne (List.length_eq_zero_iff.mp h0)
  obtain ⟨hsubhr, hpos, hfits⟩ := h
  have hin : p.byteOffset + enc.subhrLen + sdu.length ≤ p.pdu.length := by
    unfold size at hfits
    omega
  have hwrite : p.write (p.sduOffset enc) sdu =
      .ok { p with pdu := overwrite p.pdu (p.byteOffset + enc.subhrLen) sdu } := if_pos hin
  have hlen := length_sduSubheader enc.lcid hn
  have hcode : ∀ q q' : DlSchPdu, ∀ enc' : MacSduEncoder, enc'.lcid = enc.lcid →
      enc'.subhrLen = getMacSduSubheaderSize sdu.length →
      q.reviseSubheader enc sdu.length = .ok (enc', q') → ∀ p', q'.append (sduSubheader enc.lcid sdu.length) = .ok p' →
      q.encodeSdu enc sdu.length = .ok (getMacSduRequiredBytes sdu.length,
        { p' with byteOffset := p'.byteOffset + sdu.length }) := by
    intro q q' enc' hlcid hsubhr' hrev p' happend
    have hguard : ¬(sdu.length = 0 ∨ sdu.length > enc.maxSduSize) := by omega
    have hsub := encodeSubheader_sdu q' enc.lcid hn
    rw [happend] at hsub
    rw [encodeSdu, if_neg hguard, hrev]
    simp only [bind, Except.bind, hlcid, hsubhr', hsub, pure, Except.pure, getMacSduRequiredBytes, Nat.add_comm]
  rcases subheaderSize_mono hn hle with hsame | ⟨hshort, hlong⟩
  · have hhdr : enc.subhrLen = (sduSubheader enc.lcid sdu.length).length := by rw [hlen, hsame, hsubhr]
    rw [hhdr] at hin
    obtain ⟨p', hp', hext⟩ := append_before hin
    rw [← hhdr] at hp'
    let p₁ : DlSchPdu := { p with pdu := overwrite p.pdu (p.byteOffset + enc.subhrLen) sdu }
    have hrev : p₁.reviseSubheader enc sdu.length = .ok (enc, p₁) := if_neg (by rw [hsubhr, hsame]; simp)
    exact ⟨p₁, _, hwrite, hcode p₁ p₁ enc rfl (by rw [hsubhr, hsame]) hrev p' hp', hext⟩
  · rw [← hsubhr] at hlong
    have hslice : ((overwrite p.pdu (p.byteOffset + enc.subhrLen) sdu).drop (p.byteOffset + enc.subhrLen)).take
        sdu.length = sdu := slice_overwrite hin
    have hsize : (overwrite p.pdu (p.byteOffset + enc.subhrLen) sdu).length = p.pdu.length := length_overwrite hin
    have hhdr : (sduSubheader enc.lcid sdu.length).length = 2 := by rw [hlen, hshort]
    let p₁ : DlSchPdu := { p with pdu := overwrite p.pdu (p.byteOffset + enc.subhrLen) sdu }
    have hin₁ : p₁.byteOffset + (sduSubheader enc.lcid sdu.length).length + sdu.length ≤ p₁.size := by
      rw [hhdr]
      change p.byteOffset + 2 + sdu.length ≤ (overwrite p.pdu _ sdu).length
      omega
    obtain ⟨p', hp', hsize', hoffset', htake'⟩ := append_before hin₁
    have htake : p₁.pdu.take p₁.byteOffset = p.pdu.take p.byteOffset :=
      take_overwrite_of_le (Nat.le_add_right _ _) hin
    refine ⟨p₁, _, hwrite, hcode p₁ _ { enc with subhrLen := 2 } rfl hshort.symm ?_ p' hp', hsize'.trans hsize, hoffset',
      htake'.trans (by rw [htake]; rfl)⟩
    have hne₁ : getMacSduSubheaderSize sdu.length ≠ enc.subhrLen := by omega
    have hwrite₁ : p₁.write (p₁.byteOffset + 2) sdu =
        .ok { p₁ with pdu := overwrite p₁.pdu (p₁.byteOffset + (sduSubheader enc.lcid sdu.length).length) sdu } := by
      rw [hhdr] at hin₁ ⊢
      exact if_pos hin₁
    have hstart : p₁.byteOffset + 2 + 1 = p.byteOffset + enc.subhrLen := by
      change p.byteOffset + 2 + 1 = _
      omega
    have hread : (p₁.pdu.drop (p₁.byteOffset + 2 + 1)).take sdu.length = sdu := by
      rw [hstart]
      exact hslice
    rw [reviseSubheader, if_pos hne₁]
    simp only [MIN_MAC_SDU_SUBHEADER_SIZE, hread, hwrite₁, bind, Except.bind, pure, Except.pure]

end Encoder

end DlSchPdu

end OwlsRan.Mac
