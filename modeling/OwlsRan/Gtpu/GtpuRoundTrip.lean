import OwlsRan.Gtpu.GtpuPdu
import OwlsRan.Lib.EventRun

/-!
# GTP-U headers are read back

The bytes of a header, and what `gtpu_dissect_pdu` reads from them.
-/

namespace OwlsRan.Gtpu
open OwlsRan.Lib OwlsRan.Support GtpuExtensionHeaderType

section Bytes

variable {header : GtpuHeader} {bytes pdu : List UInt8} {exts : List GtpuExtensionHeader} {ext : GtpuExtensionHeader}

def flagsByte (header : GtpuHeader) : UInt8 :=
  0x30 + (if header.extList.isEmpty then 0 else 4) + if header.flags.seqNumber then 2 else 0

def baseBytes (header : GtpuHeader) (length : UInt16) : List UInt8 :=
  [flagsByte header, header.messageType] ++ bigEndian 2 length.toNat ++ bigEndian 4 header.teid.toNat

def optionalBytes (header : GtpuHeader) : List UInt8 :=
  if header.hasOptional then bigEndian 2 header.seqNumber.toNat ++ [header.nPdu, nextType header.extList] else []

def lengthOctet (ext : GtpuExtensionHeader) : UInt8 := .ofNat ((1 + ext.container.length + 1) % 256 / 4)

def extensionBytes : List GtpuExtensionHeader → List UInt8
  | [] => []
  | ext :: exts => lengthOctet ext :: (ext.container ++ nextType exts :: extensionBytes exts)

def Aligned (ext : GtpuExtensionHeader) : Prop := (ext.container.length + 2) % 4 = 0

lemma writeBaseHeader_eq (hflags : gtpuSupportedFlagsCheck header = true) (pdu : List UInt8) :
    gtpuWriteBaseHeader pdu header = ⟨baseBytes header (gtpuGetLength header pdu), 0, 0⟩ := by
  have hsupported : header.flags.version = 1 ∧ header.flags.protocolType = 1 ∧ header.flags.nPdu = false := by
    unfold gtpuSupportedFlagsCheck GTPU_FLAGS_VERSION_V1 GTPU_FLAGS_GTP_PROTOCOL at hflags
    grind
  obtain ⟨hversion, hprotocol, hnpdu⟩ := hsupported
  have hfirst : ((((((BitEncoder.empty.pack 1 3).pack 1 1).pack 0 1).pack (if header.extList.isEmpty then 0 else 1) 1).pack
      (if header.flags.seqNumber then 1 else 0) 1).pack 0 1) = ⟨[flagsByte header], 0, 0⟩ := by
    unfold flagsByte
    cases header.extList.isEmpty <;> cases header.flags.seqNumber <;> rfl
  have hlength := @BitEncoder.pack_bytes ([flagsByte header] ++ [.ofNat header.messageType.toNat])
    (gtpuGetLength header pdu).toNat 2
  have hteid := @BitEncoder.pack_bytes
    ([flagsByte header] ++ [.ofNat header.messageType.toNat] ++ bigEndian 2 (gtpuGetLength header pdu).toNat)
    header.teid.toNat 4
  simp only [gtpuWriteBaseHeader, hversion, hprotocol, hnpdu, Bool.false_eq_true, if_false]
  rw [hfirst, BitEncoder.pack_byte]
  rw [hlength, hteid, UInt8.ofNat_toNat]
  rfl

lemma writeOptional_eq (header : GtpuHeader) (bytes : List UInt8) :
    gtpuWriteOptional ⟨bytes, 0, 0⟩ header = ⟨bytes ++ optionalBytes header, 0, 0⟩ := by
  have hseq := @BitEncoder.pack_bytes bytes header.seqNumber.toNat 2
  unfold gtpuWriteOptional optionalBytes
  split
  · simp only
    rw [hseq, BitEncoder.pack_byte, BitEncoder.pack_byte, UInt8.ofNat_toNat, UInt8.ofNat_toNat]
    simp only [List.append_assoc, List.cons_append, List.nil_append]
  · rw [List.append_nil]

lemma writeExtensions_eq (haligned : ∀ ext ∈ exts, Aligned ext) (bytes : List UInt8) :
    gtpuWriteExtensions ⟨bytes, 0, 0⟩ exts = .ok ⟨bytes ++ extensionBytes exts, 0, 0⟩ := by
  induction exts generalizing bytes with
  | nil => rw [extensionBytes, List.append_nil]; rfl
  | cons ext exts ih =>
    have hfour : ¬(1 + ext.container.length + 1) % 256 % 4 ≠ 0 := by
      have := haligned ext List.mem_cons_self
      unfold Aligned at this
      omega
    have hext : gtpuWriteExtHeader ⟨bytes, 0, 0⟩ ext (nextType exts) =
        .ok ⟨bytes ++ [lengthOctet ext] ++ ext.container ++ [nextType exts], 0, 0⟩ := by
      simp only [gtpuWriteExtHeader, if_neg hfour]
      rw [BitEncoder.pack_byte, BitEncoder.packBytes, if_pos rfl, BitEncoder.pack_byte, UInt8.ofNat_toNat]
      rfl
    rw [gtpuWriteExtensions, hext]
    simp only [bind, Except.bind]
    rw [ih fun e he => haligned e (List.mem_cons_of_mem _ he)]
    simp only [extensionBytes, List.append_assoc, List.cons_append, List.nil_append]

/-- The bytes of a header. -/
theorem writeHeader_eq (hflags : gtpuSupportedFlagsCheck header = true) (htype : gtpuSupportedMsgTypeCheck header = true)
    (haligned : ∀ ext ∈ header.extList, Aligned ext) (pdu : List UInt8) :
    gtpuWriteHeader pdu header =
      .ok (baseBytes header (gtpuGetLength header pdu) ++ optionalBytes header ++ extensionBytes header.extList ++ pdu) := by
  simp only [gtpuWriteHeader, hflags, htype, Bool.not_true, Bool.false_eq_true, if_false]
  rw [writeBaseHeader_eq hflags, writeOptional_eq, writeExtensions_eq haligned]
  rfl

end Bytes

section Read

variable {b : UInt8} {rest : List UInt8} {passed : Nat}

def flagsOf (b : UInt8) : GtpuFlags :=
  ⟨b.toNat / 32, b.toNat / 16 % 2, b.toNat / 4 % 2 = 1, b.toNat / 2 % 2 = 1, b.toNat % 2 = 1⟩

lemma unpackFlags_eq : gtpuUnpackFlags ⟨b :: rest, 0, passed⟩ = (flagsOf b, ⟨rest, 0, passed + 1⟩) := by
  have hlast := @BitDecoder.unpack_rest b rest passed 0 (Nat.zero_le 7)
  have hlt := b.toNat_lt
  have hbit : ∀ n, decide (n % 2 ≠ 0) = decide (n % 2 = 1) := by
    intro n
    rw [decide_eq_decide]
    omega
  have hunpack : ∀ offset n, offset + n < 8 → (BitDecoder.mk (b :: rest) offset passed).unpack n =
      (true, b.toNat / 2 ^ (8 - offset - n) % 2 ^ n, ⟨b :: rest, offset + n, passed⟩) :=
    fun _ _ h => BitDecoder.unpack_inner h
  simp only [gtpuUnpackFlags, hunpack 0 3 (by decide), hunpack (0 + 3) 1 (by decide), hunpack (0 + 3 + 1) 1 (by decide),
    hunpack (0 + 3 + 1 + 1) 1 (by decide), hunpack (0 + 3 + 1 + 1 + 1) 1 (by decide)]
  rw [hlast]
  simp only [Nat.pow_one, hbit, flagsOf, Nat.zero_add]
  norm_num
  omega

lemma unpackExtHeaderType_eq (next : UInt8) :
    gtpuUnpackExtHeaderType ⟨next :: rest, 0, passed⟩ = (next, ⟨rest, 0, passed + 1⟩) := by
  unfold gtpuUnpackExtHeaderType
  rw [BitDecoder.unpack_byte]
  simp only [UInt8.ofNat_toNat]

def baseHeader (flags type : UInt8) (length : UInt16) (teid : UInt32) : GtpuHeader :=
  ⟨flagsOf flags, type, length, teid, 0, 0, noMoreExtensionHeaders, []⟩

lemma unpackBaseHeader_eq (flags type : UInt8) (length teid : Nat) :
    gtpuUnpackBaseHeader (.ofBytes (flags :: type :: (bigEndian 2 length ++ (bigEndian 4 teid ++ rest)))) =
      (baseHeader flags type (.ofNat length) (.ofNat teid), ⟨rest, 0, 8⟩) := by
  have hlength := @BitDecoder.unpack_bytes (bigEndian 4 teid ++ rest) 2 2 length
  have hteid := @BitDecoder.unpack_bytes rest 4 4 teid
  have h16 : UInt16.ofNat (length % 256 ^ 2) = .ofNat length := by
    apply UInt16.toNat_inj.mp
    simp
  have h32 : UInt32.ofNat (teid % 256 ^ 4) = .ofNat teid := by
    apply UInt32.toNat_inj.mp
    simp
  unfold gtpuUnpackBaseHeader BitDecoder.ofBytes
  rw [unpackFlags_eq]
  simp only [Nat.zero_add]
  rw [BitDecoder.unpack_byte]
  simp only
  rw [hlength]
  simp only
  rw [hteid, h16, h32, UInt8.ofNat_toNat, baseHeader]

lemma dissect_eq (flags type : UInt8) (length teid : Nat) (rest : List UInt8) :
    gtpuDissectPdu (flags :: type :: (bigEndian 2 length ++ (bigEndian 4 teid ++ rest))) =
      if gtpuSupportedFlagsCheck (baseHeader flags type (.ofNat length) (.ofNat teid)) = true ∧
          UInt16.ofNat length = .ofNat rest.length then
        (gtpuUnpackOptional (8 + rest.length) (baseHeader flags type (.ofNat length) (.ofNat teid)) ⟨rest, 0, 8⟩).bind
          fun (hdr, decoder) =>
            gtpuDissectExtensions (flags :: type :: (bigEndian 2 length ++ (bigEndian 4 teid ++ rest))) hdr decoder
      else none := by
  have hlen : (flags :: type :: (bigEndian 2 length ++ (bigEndian 4 teid ++ rest))).length = 8 + rest.length := by
    simp only [List.length_cons, List.length_append, length_bigEndian]
    omega
  have hexpected : 8 + rest.length - GTPU_BASE_HEADER_LEN = rest.length := Nat.add_sub_cancel_left 8 _
  rw [gtpuDissectPdu, hlen, if_neg (by unfold GTPU_BASE_HEADER_LEN; omega), unpackBaseHeader_eq]
  have hfield : (baseHeader flags type (.ofNat length) (.ofNat teid)).length = .ofNat length := rfl
  simp only [hexpected, hfield]
  cases gtpuSupportedFlagsCheck (baseHeader flags type (.ofNat length) (.ofNat teid)) with
  | false => simp
  | true =>
    by_cases hlength : UInt16.ofNat length = .ofNat rest.length
    · simp [hlength]
    · simp [hlength]

lemma unpackOptional_eq {hdr : GtpuHeader} (hopt : (hdr.flags.extHdr || hdr.flags.seqNumber || hdr.flags.nPdu) = true)
    {pduLen : Nat} (hlen : 12 ≤ pduLen) (seq : Nat) (nPdu next : UInt8) :
    gtpuUnpackOptional pduLen hdr ⟨bigEndian 2 seq ++ nPdu :: next :: rest, 0, 8⟩ =
      if gtpuExtensionHeaderComprehensionCheck next then
        some ({ hdr with seqNumber := .ofNat seq, nPdu := nPdu, nextExtHdrType := next }, ⟨rest, 0, 12⟩)
      else none := by
  have hseq := @BitDecoder.unpack_bytes (nPdu :: next :: rest) 8 2 seq
  have h16 : UInt16.ofNat (seq % 256 ^ 2) = .ofNat seq := by
    apply UInt16.toNat_inj.mp
    simp
  rw [gtpuUnpackOptional, if_pos hopt, if_neg (by unfold GTPU_EXTENDED_HEADER_LEN; omega)]
  rw [hseq]
  simp only
  rw [BitDecoder.unpack_byte]
  simp only [unpackExtHeaderType_eq, h16, UInt8.ofNat_toNat]
  cases gtpuExtensionHeaderComprehensionCheck next <;> rfl

end Read

section RoundTrip

variable {header : GtpuHeader} {rest pdu : List UInt8} {exts : List GtpuExtensionHeader} {ext : GtpuExtensionHeader}
  {passed : Nat}

def Short (ext : GtpuExtensionHeader) : Prop := ext.container.length + 2 < 256

def announced (length : UInt8) : Nat := extPayloadSize length.toNat

lemma announced_eq {length : UInt8} {n : Nat} (h : length.toNat * 4 = n + 2) : announced length = n := by
  have hne : length.toNat ≠ 0 := by omega
  rw [announced, extPayloadSize, if_neg hne]
  omega

lemma announced_cases (length : UInt8) :
    (length.toNat = 0 ∧ announced length = 65534) ∨ (length.toNat ≠ 0 ∧ announced length + 2 = length.toNat * 4) := by
  by_cases hzero : length.toNat = 0
  · exact Or.inl ⟨hzero, if_pos hzero⟩
  · refine Or.inr ⟨hzero, ?_⟩
    rw [announced, extPayloadSize, if_neg hzero]
    omega

variable {container sdu : List UInt8} {next : GtpuExtensionHeaderType} {decoder : BitDecoder}

lemma readContainer_eq {payload : Nat}
    {d view : BitDecoder} (hview : d.unpackAlignedBytes payload = (container, view))
    (hnext : gtpuUnpackExtHeaderType view = (next, decoder)) :
    gtpuReadContainer payload d = (container, next, decoder) := by
  simp only [gtpuReadContainer, hview, hnext]

lemma readExtHeader_cons {length : UInt8} {view : BitDecoder}
    (hview : (BitDecoder.mk rest 0 (passed + 1)).unpackAlignedBytes (announced length) = (container, view))
    (hnext : gtpuUnpackExtHeaderType view = (next, decoder)) :
    gtpuReadExtHeader ⟨length :: rest, 0, passed⟩ = (container, next, decoder) := by
  rw [gtpuReadExtHeader, BitDecoder.unpack_byte]
  exact readContainer_eq hview hnext

lemma readExtHeader_eq {length : UInt8} (hlen : length.toNat * 4 = container.length + 2) (next : UInt8) :
    gtpuReadExtHeader ⟨length :: (container ++ next :: rest), 0, passed⟩ =
      (container, next, ⟨rest, 0, passed + (container.length + 2)⟩) := by
  have hannounced := announced_eq hlen
  have hpos : container.length ≠ 0 := by
    have hlt := length.toNat_lt
    omega
  have hview : (BitDecoder.mk (container ++ next :: rest) 0 (passed + 1)).unpackAlignedBytes container.length =
      (container, ⟨next :: rest, 0, passed + 1 + container.length⟩) := by
    simp only [BitDecoder.unpackAlignedBytes, BitDecoder.alignBytes, ne_eq, not_true, if_false, hpos]
    rw [if_neg (by simp), List.take_left, List.drop_left]
  have hpassed : passed + 1 + container.length + 1 = passed + (container.length + 2) := by omega
  rw [← hannounced] at hview
  rw [readExtHeader_cons hview (unpackExtHeaderType_eq next), hannounced, hpassed]

lemma length_readExtHeader (length : UInt8) (rest : List UInt8) (passed : Nat) :
    (gtpuReadExtHeader ⟨length :: rest, 0, passed⟩).1.length = announced length ∨
      (gtpuReadExtHeader ⟨length :: rest, 0, passed⟩).1 = [] := by
  rcases hview : (BitDecoder.mk rest 0 (passed + 1)).unpackAlignedBytes (announced length) with ⟨container, view⟩
  rcases hnext : gtpuUnpackExtHeaderType view with ⟨next, decoder⟩
  have hread : gtpuReadExtHeader ⟨length :: rest, 0, passed⟩ = (container, next, decoder) :=
    readExtHeader_cons hview hnext
  rw [hread]
  generalize announced length = n at hview ⊢
  simp only [BitDecoder.unpackAlignedBytes, BitDecoder.alignBytes, ne_eq, not_true, if_false] at hview
  split at hview
  · exact Or.inr (Prod.mk.inj hview).1.symm
  · split at hview
    · exact Or.inr (Prod.mk.inj hview).1.symm
    case isFalse hle =>
      obtain ⟨rfl, -⟩ := Prod.mk.inj hview
      exact Or.inl (List.length_take_of_le (Nat.not_lt.mp hle))

lemma lengthOctet_short (haligned : Aligned ext) (hshort : Short ext) :
    (lengthOctet ext).toNat * 4 = ext.container.length + 2 := by
  unfold Aligned at haligned
  unfold Short at hshort
  rw [lengthOctet, UInt8.toNat_ofNat']
  omega

lemma length_extensionBytes_cons (ext : GtpuExtensionHeader) (exts : List GtpuExtensionHeader) :
    (extensionBytes (ext :: exts)).length = ext.container.length + 2 + (extensionBytes exts).length := by
  rw [extensionBytes, List.length_cons, List.length_append, List.length_cons]
  omega

lemma extensionBytes_cons_append (ext : GtpuExtensionHeader) (exts : List GtpuExtensionHeader) (rest : List UInt8) :
    extensionBytes (ext :: exts) ++ rest =
      lengthOctet ext :: (ext.container ++ nextType exts :: (extensionBytes exts ++ rest)) := by
  simp only [extensionBytes, List.cons_append, List.append_assoc]

lemma readExtensions_succ {type : GtpuExtensionHeaderType} {decoder' : BitDecoder}
    (hread : gtpuReadExtHeader decoder = (container, next, decoder')) (room : Nat) :
    gtpuReadExtensions (room + 1) type decoder =
      if gtpuExtensionHeaderComprehensionCheck type then
        if next = noMoreExtensionHeaders then some ([⟨type, container⟩], decoder')
        else (gtpuReadExtensions room next decoder').map fun (exts, decoder) => (⟨type, container⟩ :: exts, decoder)
      else none := by
  rw [gtpuReadExtensions, hread]

lemma readExtensions_eq (hne : exts ≠ []) {room : Nat} (hroom : exts.length ≤ room)
    (hexts : ∀ ext ∈ exts, Aligned ext ∧ Short ext ∧ ext.extensionHeaderType ≠ noMoreExtensionHeaders ∧
      gtpuExtensionHeaderComprehensionCheck ext.extensionHeaderType = true) :
    gtpuReadExtensions room (nextType exts) ⟨extensionBytes exts ++ rest, 0, passed⟩ =
      some (exts, ⟨rest, 0, passed + (extensionBytes exts).length⟩) := by
  induction exts generalizing room passed with
  | nil => exact absurd rfl hne
  | cons ext exts ih =>
    obtain ⟨haligned, hshort, -, hcomp⟩ := hexts ext List.mem_cons_self
    cases room with
    | zero => cases hroom
    | succ room =>
      have hread := @readExtHeader_eq (extensionBytes exts ++ rest) passed ext.container (lengthOctet ext)
        (lengthOctet_short haligned hshort) (nextType exts)
      rw [nextType, extensionBytes_cons_append, length_extensionBytes_cons, readExtensions_succ hread, hcomp,
        if_pos rfl]
      cases exts with
      | nil =>
        have hlast : nextType [] = noMoreExtensionHeaders := rfl
        rw [if_pos hlast]
        rfl
      | cons ext' exts =>
        have hmore := (hexts ext' (List.mem_cons_of_mem _ List.mem_cons_self)).2.2.1
        rw [nextType, if_neg hmore]
        have htail := @ih (passed + (ext.container.length + 2)) (List.cons_ne_nil _ _) room (Nat.le_of_succ_le_succ hroom)
          fun e he => hexts e (List.mem_cons_of_mem _ he)
        rw [nextType] at htail
        rw [htail, Nat.add_assoc]
        rfl

lemma short_of_readExtensions {room : Nat} {type : GtpuExtensionHeaderType}
    (hexts : ∀ ext ∈ exts, Aligned ext ∧ ext.container.length + 2 ≤ 1020)
    (h : gtpuReadExtensions room type ⟨extensionBytes exts ++ rest, 0, passed⟩ = some (exts, decoder)) :
    ∀ ext ∈ exts, Short ext := by
  induction exts generalizing room type passed with
  | nil => exact fun ext hext => absurd hext List.not_mem_nil
  | cons ext exts ih =>
    obtain ⟨haligned, hmax⟩ := hexts ext List.mem_cons_self
    cases room with
    | zero => cases h
    | succ room =>
      rw [extensionBytes_cons_append] at h
      have hlength := length_readExtHeader (lengthOctet ext)
        (ext.container ++ nextType exts :: (extensionBytes exts ++ rest)) passed
      have heq : Short ext → gtpuReadExtHeader ⟨lengthOctet ext :: (ext.container ++ nextType exts ::
          (extensionBytes exts ++ rest)), 0, passed⟩ =
          (ext.container, nextType exts, ⟨extensionBytes exts ++ rest, 0, passed + (ext.container.length + 2)⟩) :=
        fun hshort => readExtHeader_eq (lengthOctet_short haligned hshort) (nextType exts)
      rcases hread : gtpuReadExtHeader ⟨lengthOctet ext :: (ext.container ++ nextType exts ::
          (extensionBytes exts ++ rest)), 0, passed⟩ with ⟨container, next, decoder'⟩
      rw [hread] at hlength heq
      rw [readExtensions_succ hread] at h
      -- The container was read as it is, so the length octet says its size.
      have hshort : container = ext.container → Short ext := by
        rintro rfl
        have hoctet : (lengthOctet ext).toNat = (1 + ext.container.length + 1) % 256 / 4 := by
          rw [lengthOctet, UInt8.toNat_ofNat']
          omega
        unfold Short
        rcases hlength with hlen | hnil
        · have hlen : ext.container.length = announced (lengthOctet ext) := hlen
          have hcases := announced_cases (lengthOctet ext)
          unfold Aligned at haligned
          omega
        · have hnil : ext.container = [] := hnil
          rw [hnil, List.length_nil]
          decide
      split at h
      · split at h
        · obtain ⟨hlist, -⟩ := Prod.mk.inj (Option.some.inj h)
          obtain ⟨hext, rfl⟩ := List.cons.inj hlist
          have hs := hshort (congrArg GtpuExtensionHeader.container hext)
          exact fun e he => (List.mem_singleton.mp he) ▸ hs
        · obtain ⟨⟨exts', decoder''⟩, htail, hlist⟩ := Option.map_eq_some_iff.mp h
          obtain ⟨hcons, rfl⟩ := Prod.mk.inj hlist
          obtain ⟨hext, rfl⟩ := List.cons.inj hcons
          have hs := hshort (congrArg GtpuExtensionHeader.container hext)
          obtain ⟨-, hnext⟩ := Prod.mk.inj (heq hs)
          obtain ⟨rfl, rfl⟩ := Prod.mk.inj hnext
          have hothers := ih (fun e he => hexts e (List.mem_cons_of_mem _ he)) htail
          exact fun e he => (List.mem_cons.mp he).elim (fun heq => heq ▸ hs) (hothers e)
      · cases h

/-- What the claim of a round trip covers: a header that the code supports and a PDU whose length has 16 bits. -/
structure Supported (header : GtpuHeader) (sdu : List UInt8) : Prop where
  flags : gtpuSupportedFlagsCheck header = true
  msgType : gtpuSupportedMsgTypeCheck header = true
  capacity : header.extList.length ≤ GTPU_MAX_NUM_HEADER_EXTENSIONS
  comprehended : ∀ ext ∈ header.extList, ext.extensionHeaderType ≠ noMoreExtensionHeaders ∧
    gtpuExtensionHeaderComprehensionCheck ext.extensionHeaderType = true
  sizes : ∀ ext ∈ header.extList, (ext.container.length + 2) % 4 = 0 ∧ ext.container.length + 2 ≤ 1020
  total : sdu.length + (if header.hasOptional then 4 else 0) +
    (header.extList.map fun ext => ext.container.length + 2).sum < 65536

/-- The header that should come out: the code computes the length, the E flag and the first type, and leaves out the
optional fields when none of them is needed. -/
def received (header : GtpuHeader) (sdu : List UInt8) : GtpuHeader :=
  { header with
    flags := { header.flags with extHdr := !header.extList.isEmpty }
    length := gtpuGetLength header sdu
    seqNumber := if header.hasOptional then header.seqNumber else 0
    nPdu := if header.hasOptional then header.nPdu else 0
    nextExtHdrType := nextType header.extList }

def RoundTrips (header : GtpuHeader) (sdu : List UInt8) : Prop :=
  ∃ pdu dissected, gtpuWriteHeader sdu header = .ok pdu ∧ gtpuDissectPdu pdu = some dissected ∧
    dissected.hdr = received header sdu ∧ gtpuExtractMsg dissected = sdu

lemma length_optionalBytes (header : GtpuHeader) :
    (optionalBytes header).length = if header.hasOptional then 4 else 0 := by
  unfold optionalBytes
  split
  · rw [List.length_append, length_bigEndian]
    rfl
  · rfl

lemma gtpuGetLength_eq (header : GtpuHeader) (sdu : List UInt8) :
    gtpuGetLength header sdu =
      .ofNat ((optionalBytes header).length + ((extensionBytes header.extList).length + sdu.length)) := by
  have hexts : ∀ (exts : List GtpuExtensionHeader) (n : Nat),
      exts.foldl (fun len ext => len + 2 + .ofNat ext.container.length) (UInt16.ofNat n) =
        .ofNat (n + (extensionBytes exts).length) := by
    intro exts
    induction exts with
    | nil => exact fun n => rfl
    | cons ext exts ih =>
      intro n
      have hnext : UInt16.ofNat n + 2 + .ofNat ext.container.length = .ofNat (n + 2 + ext.container.length) := by
        rw [UInt16.ofNat_add, UInt16.ofNat_add]
        rfl
      rw [List.foldl_cons, hnext, ih, length_extensionBytes_cons]
      congr 1
      omega
  have hopt : (if header.hasOptional then UInt16.ofNat sdu.length + 4 else .ofNat sdu.length) =
      .ofNat (sdu.length + if header.hasOptional then 4 else 0) := by
    split
    · rw [UInt16.ofNat_add]
      rfl
    · rfl
  unfold gtpuGetLength
  simp only [hopt, hexts]
  rw [length_optionalBytes]
  congr 1
  omega

lemma flagsOf_flagsByte (hflags : gtpuSupportedFlagsCheck header = true) :
    flagsOf (flagsByte header) = { header.flags with extHdr := !header.extList.isEmpty } := by
  have hsupported : header.flags.version = 1 ∧ header.flags.protocolType = 1 ∧ header.flags.nPdu = false := by
    unfold gtpuSupportedFlagsCheck GTPU_FLAGS_VERSION_V1 GTPU_FLAGS_GTP_PROTOCOL at hflags
    grind
  obtain ⟨hversion, hprotocol, hnpdu⟩ := hsupported
  rcases hflag : header.flags with ⟨version, protocolType, extHdr, seqNumber, nPdu⟩
  simp only [hflag] at hversion hprotocol hnpdu
  subst hversion hprotocol hnpdu
  have hbyte : ∀ e s : Bool,
      flagsOf (0x30 + (if e then 0 else 4) + if s then 2 else 0) = ⟨1, 1, !e, s, false⟩ := by decide
  unfold flagsByte
  rw [hflag]
  exact hbyte header.extList.isEmpty seqNumber

def writtenPdu (header : GtpuHeader) (sdu : List UInt8) : List UInt8 :=
  flagsByte header :: header.messageType :: (bigEndian 2 (gtpuGetLength header sdu).toNat ++
    (bigEndian 4 header.teid.toNat ++ (optionalBytes header ++ (extensionBytes header.extList ++ sdu))))

lemma writeHeader_eq_writtenPdu (h : Supported header sdu) :
    gtpuWriteHeader sdu header = .ok (writtenPdu header sdu) := by
  have haligned : ∀ ext ∈ header.extList, Aligned ext := fun ext hext => (h.sizes ext hext).1
  rw [writeHeader_eq h.flags h.msgType haligned, baseBytes, writtenPdu]
  simp only [List.append_assoc, List.cons_append, List.nil_append]

lemma comprehended_nextType (h : Supported header sdu) :
    gtpuExtensionHeaderComprehensionCheck (nextType header.extList) = true := by
  cases hexts : header.extList with
  | nil => rfl
  | cons ext exts =>
    have hmem : ext ∈ header.extList := by rw [hexts]; exact List.mem_cons_self
    exact (h.comprehended ext hmem).2

lemma dissect_writtenPdu (h : Supported header sdu) :
    gtpuDissectPdu (writtenPdu header sdu) = gtpuDissectExtensions (writtenPdu header sdu)
      { received header sdu with extList := [] }
      ⟨extensionBytes header.extList ++ sdu, 0, 8 + (optionalBytes header).length⟩ := by
  have hflags := flagsOf_flagsByte h.flags
  have hlength : UInt16.ofNat (gtpuGetLength header sdu).toNat =
      .ofNat (optionalBytes header ++ (extensionBytes header.extList ++ sdu)).length := by
    rw [UInt16.ofNat_toNat, gtpuGetLength_eq, List.length_append, List.length_append]
  have hbase : baseHeader (flagsByte header) header.messageType (.ofNat (gtpuGetLength header sdu).toNat)
      (.ofNat header.teid.toNat) = ⟨(received header sdu).flags, header.messageType, gtpuGetLength header sdu, header.teid,
        0, 0, noMoreExtensionHeaders, []⟩ := by
    rw [UInt16.ofNat_toNat, UInt32.ofNat_toNat, baseHeader, hflags]
    rfl
  rw [writtenPdu, dissect_eq, hbase, if_pos ⟨h.flags, hlength⟩]
  cases hopt : header.hasOptional with
  | true =>
    have hbytes : optionalBytes header ++ (extensionBytes header.extList ++ sdu) =
        bigEndian 2 header.seqNumber.toNat ++ header.nPdu :: nextType header.extList ::
          (extensionBytes header.extList ++ sdu) := by
      rw [optionalBytes, if_pos hopt]
      simp only [List.append_assoc, List.cons_append, List.nil_append]
    have hlen : (optionalBytes header).length = 4 := by rw [length_optionalBytes, if_pos hopt]
    have hread := @unpackOptional_eq (extensionBytes header.extList ++ sdu)
      ⟨(received header sdu).flags, header.messageType, gtpuGetLength header sdu, header.teid, 0, 0,
        noMoreExtensionHeaders, []⟩ hopt
      (8 + (optionalBytes header ++ (extensionBytes header.extList ++ sdu)).length)
      (by rw [List.length_append]; omega) header.seqNumber.toNat header.nPdu (nextType header.extList)
    rw [comprehended_nextType h, if_pos rfl, ← hbytes, UInt16.ofNat_toNat] at hread
    rw [hread, hlen]
    simp only [Option.bind_some, received, hopt, if_true]
  | false =>
    have hbytes : optionalBytes header = [] := by
      rw [optionalBytes, hopt]
      rfl
    have hnone : header.extList = [] := by
      have hall : header.extList.isEmpty = true := by
        unfold GtpuHeader.hasOptional at hopt
        revert hopt
        cases header.extList.isEmpty <;> simp
      exact List.isEmpty_iff.mp hall
    have hread : gtpuUnpackOptional (8 + (optionalBytes header ++ (extensionBytes header.extList ++ sdu)).length)
        ⟨(received header sdu).flags, header.messageType, gtpuGetLength header sdu, header.teid, 0, 0,
          noMoreExtensionHeaders, []⟩ ⟨optionalBytes header ++ (extensionBytes header.extList ++ sdu), 0, 8⟩ =
        some (⟨(received header sdu).flags, header.messageType, gtpuGetLength header sdu, header.teid, 0, 0,
          noMoreExtensionHeaders, []⟩, ⟨optionalBytes header ++ (extensionBytes header.extList ++ sdu), 0, 8⟩) :=
      if_neg (Bool.eq_false_iff.mp hopt)
    rw [hread, hbytes]
    simp only [Option.bind_some, received, hopt, hnone, nextType, Bool.false_eq_true, if_false, List.nil_append,
      List.length_nil, Nat.add_zero]

lemma drop_writtenPdu (header : GtpuHeader) (sdu : List UInt8) :
    (writtenPdu header sdu).drop (8 + (optionalBytes header).length + (extensionBytes header.extList).length) = sdu := by
  have hbytes : writtenPdu header sdu =
      (baseBytes header (gtpuGetLength header sdu) ++ optionalBytes header ++ extensionBytes header.extList) ++ sdu := by
    rw [writtenPdu, baseBytes]
    simp only [List.append_assoc, List.cons_append, List.nil_append]
  rw [hbytes]
  apply List.drop_left'
  rw [List.length_append, List.length_append, baseBytes, List.length_append, List.length_append, length_bigEndian,
    length_bigEndian]
  rfl

/-- The header and the message are read back exactly when the size of each extension header fits its length octet. -/
theorem roundTrips_iff (h : Supported header sdu) : RoundTrips header sdu ↔ ∀ ext ∈ header.extList, Short ext := by
  have hwrite := writeHeader_eq_writtenPdu h
  have hdissect := dissect_writtenPdu h
  have hdrop := drop_writtenPdu header sdu
  by_cases hnone : header.extList = []
  · have hflag : (received header sdu).flags.extHdr = false := by
      simp only [received, hnone]
      rfl
    have hend : gtpuDissectPdu (writtenPdu header sdu) =
        some ⟨writtenPdu header sdu, { received header sdu with extList := [] }, 8 + (optionalBytes header).length⟩ := by
      rw [hdissect]
      exact if_neg (by rw [hflag]; exact Bool.false_ne_true)
    rw [hnone]
    refine ⟨fun _ ext hext => absurd hext List.not_mem_nil, fun _ => ⟨_, _, hwrite, hend, ?_, ?_⟩⟩
    · simp only [received, hnone]
    · rw [hnone] at hdrop
      exact hdrop
  · have hflag : (received header sdu).flags.extHdr = true := by
      simp only [received, List.isEmpty_eq_false_iff.mpr hnone]
      rfl
    have hmore : nextType header.extList ≠ noMoreExtensionHeaders := by
      obtain ⟨ext, exts, hexts⟩ := List.exists_cons_of_ne_nil hnone
      have hmem : ext ∈ header.extList := by rw [hexts]; exact List.mem_cons_self
      rw [hexts]
      exact (h.comprehended ext hmem).1
    have hend : gtpuDissectPdu (writtenPdu header sdu) =
        (gtpuReadExtensions GTPU_MAX_NUM_HEADER_EXTENSIONS (nextType header.extList)
          ⟨extensionBytes header.extList ++ sdu, 0, 8 + (optionalBytes header).length⟩).map fun (exts, decoder) =>
            ⟨writtenPdu header sdu, { received header sdu with extList := exts }, decoder.nofBytes⟩ := by
      rw [hdissect]
      exact (if_pos hflag).trans (if_neg hmore)
    constructor
    · rintro ⟨pdu, dissected, hpdu, hread, hhdr, -⟩
      obtain rfl := Except.ok.inj (hwrite.symm.trans hpdu)
      rw [hend, Option.map_eq_some_iff] at hread
      obtain ⟨⟨exts, decoder⟩, hexts, rfl⟩ := hread
      obtain rfl : exts = header.extList := congrArg GtpuHeader.extList hhdr
      exact short_of_readExtensions (fun ext hext => h.sizes ext hext) hexts
    · intro hshort
      have hread := @readExtensions_eq sdu header.extList (8 + (optionalBytes header).length) hnone
        GTPU_MAX_NUM_HEADER_EXTENSIONS h.capacity fun ext hext =>
          ⟨(h.sizes ext hext).1, hshort ext hext, (h.comprehended ext hext).1, (h.comprehended ext hext).2⟩
      rw [hread] at hend
      exact ⟨_, _, hwrite, hend, rfl, hdrop⟩

end RoundTrip

end OwlsRan.Gtpu
