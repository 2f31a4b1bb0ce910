import Mathlib.Tactic.IntervalCases
import OwlsRan.Rlc.RlcAmPdu

/-!
# Headers of RLC UM data PDUs

The reader takes the segment offset from the kind of the segment, the writer and the packed length from its value.
-/

namespace OwlsRan.Rlc
open OwlsRan.Lib ByteReader

structure RlcUmPduHeader where
  si : RlcSiField
  snSize : RlcUmSnSize
  sn : Nat
  so : UInt16
deriving DecidableEq

def rlcUmPduHeaderSizeNoSo : RlcUmSnSize → Nat
  | .size6bits => 1
  | .size12bits => 2

def readSegmentOffset (si : RlcSiField) (r : ByteReader) : Parsed (UInt16 × ByteReader) :=
  if si.hasSo then do
    rejectUnless (r ≠ [])
    let (b1, r) ← r.next
    rejectUnless (r ≠ [])
    let (b0, r) ← r.next
    .ok (UInt16.ofNat (b1.toNat * 256 + b0.toNat), r)
  else .ok (0, r)

/-- The SN, of which the first byte holds the highest bits. PDUs with a complete SDU have none, and their bits must be
zero. The reserved bits of other PDUs are looked at in the first segment alone. -/
def readUmSn (snSize : RlcUmSnSize) (si : RlcSiField) (first : UInt8) (r : ByteReader) : Parsed (Nat × ByteReader) :=
  match snSize with
  | .size6bits => do
    rejectUnless (si = .fullSdu → first.toNat % 64 = 0)
    .ok (first.toNat % 64, r)
  | .size12bits => do
    rejectUnless (si = .fullSdu → first.toNat % 16 = 0)
    rejectUnless (si = .firstSegment → first.toNat / 16 % 4 = 0)
    if si = .fullSdu then .ok (first.toNat % 16 * 256, r)
    else do
      rejectUnless (r ≠ [])
      let (b, r) ← r.next
      .ok (first.toNat % 16 * 256 + b.toNat, r)

def rlcUmReadDataPduHeader (pdu : List UInt8) (snSize : RlcUmSnSize) : Parsed (RlcUmPduHeader × ByteReader) := do
  rejectUnless (pdu ≠ [])
  let (b0, r) ← ByteReader.next pdu
  let si := RlcSiField.ofNumber (b0.toNat / 64)
  let (sn, r) ← readUmSn snSize si b0 r
  let (so, r) ← readSegmentOffset si r
  .ok (⟨si, snSize, sn, so⟩, r)

def rlcUmNrPackedLength (header : RlcUmPduHeader) : Nat :=
  if header.si = .fullSdu then 1
  else (match header.snSize with
    | .size6bits => 1
    | .size12bits => 2) + if header.so ≠ 0 then 2 else 0

def rlcUmWriteDataPduHeader (header : RlcUmPduHeader) : List UInt8 :=
  let first := header.si.toNumber * 64
  if header.si = .fullSdu then [UInt8.ofNat first]
  else (match header.snSize with
    | .size6bits => [UInt8.ofNat (first + header.sn % 64)]
    | .size12bits => [UInt8.ofNat (first + header.sn / 256 % 16), UInt8.ofNat header.sn]) ++ writeSo header.so

def LaterSegmentAtZero (snSize : RlcUmSnSize) (pdu : List UInt8) : Prop :=
  128 ≤ (pdu.headD 0).toNat ∧ (pdu.drop (rlcUmPduHeaderSizeNoSo snSize)).take 2 = [0, 0]

instance (snSize : RlcUmSnSize) (pdu : List UInt8) : Decidable (LaterSegmentAtZero snSize pdu) :=
  inferInstanceAs (Decidable (_ ∧ _))

section Reading

variable {snSize : RlcUmSnSize} {si : RlcSiField} {pdu : List UInt8}

lemma hasSo_ofNumber {n : Nat} (hn : n < 4) : (RlcSiField.ofNumber n).hasSo = true ↔ 2 ≤ n := by
  interval_cases n <;> simp [RlcSiField.ofNumber, RlcSiField.hasSo]

lemma segmentOffset_eq_zero (b1 b0 : UInt8) : UInt16.ofNat (b1.toNat * 256 + b0.toNat) = 0 ↔ [b1, b0] = [0, 0] := by
  have h1 := b1.toNat_lt
  have h0 := b0.toNat_lt
  rw [← UInt16.toNat_inj, UInt16.toNat_ofNat', Nat.mod_eq_of_lt (by omega)]
  simp only [List.cons.injEq, ← UInt8.toNat_inj, and_true]
  change b1.toNat * 256 + b0.toNat = 0 ↔ b1.toNat = 0 ∧ b0.toNat = 0
  omega

lemma readSegmentOffset_spec (si : RlcSiField) (r : ByteReader) : Yields (readSegmentOffset si r)
    (fun res => Advanced r (if si.hasSo then 2 else 0) res.2 ∧
      if si.hasSo then (res.1 = 0 ↔ r.take 2 = [0, 0]) else res.1 = 0) fun _ => True := by
  unfold readSegmentOffset
  by_cases hso : si.hasSo = true
  · simp only [if_pos hso]
    rcases r with _ | ⟨b1, _ | ⟨b0, r⟩⟩
    · trivial
    · trivial
    · exact ⟨⟨Nat.le_add_left 2 r.length, rfl⟩, segmentOffset_eq_zero b1 b0⟩
  · simp only [if_neg hso]
    exact ⟨advanced_zero r, rfl⟩

lemma readUmSn_spec (snSize : RlcUmSnSize) (si : RlcSiField) (first : UInt8) (r : ByteReader) :
    Yields (readUmSn snSize si first r)
      (fun res => res.1 < snSize.modulus ∧
        Advanced r (if si = .fullSdu then 0 else rlcUmPduHeaderSizeNoSo snSize - 1) res.2) fun _ => True := by
  cases snSize with
  | size6bits =>
    refine yields_bind (yields_true _) fun _ _ => ?_
    have hlt : first.toNat % 64 < 64 := Nat.mod_lt _ (by decide)
    refine ⟨hlt, ?_⟩
    rw [rlcUmPduHeaderSizeNoSo, Nat.sub_self, ite_self]
    exact advanced_zero r
  | size12bits =>
    refine yields_bind (yields_true _) fun _ _ => yields_bind (yields_true _) fun _ _ => ?_
    by_cases hfull : si = .fullSdu
    · rw [if_pos hfull, if_pos hfull]
      have hlt : first.toNat % 16 * 256 < 4096 := by omega
      exact ⟨hlt, advanced_zero r⟩
    · rw [if_neg hfull, if_neg hfull]
      refine yields_bind (yields_true _) fun _ _ => yields_bind (yields_next_advanced r) fun res hres => ?_
      have hbyte := res.1.toNat_lt
      have hlt : first.toNat % 16 * 256 + res.1.toNat < 4096 := by omega
      exact ⟨hlt, hres⟩

structure UmHeaderRead (snSize : RlcUmSnSize) (pdu : List UInt8) (header : RlcUmPduHeader) (rest : ByteReader) :
    Prop where
  snSize_eq : header.snSize = snSize
  sn_lt : header.sn < snSize.modulus
  advanced : Advanced pdu ((if header.si = .fullSdu then 1 else rlcUmPduHeaderSizeNoSo snSize) +
    if header.si.hasSo then 2 else 0) rest
  atZero : header.si.hasSo = true ∧ header.so = 0 ↔ LaterSegmentAtZero snSize pdu
  noOffset : header.si.hasSo = false → header.so = 0

lemma rlcUmReadDataPduHeader_spec (pdu : List UInt8) (snSize : RlcUmSnSize) :
    Yields (rlcUmReadDataPduHeader pdu snSize) (fun res => UmHeaderRead snSize pdu res.1 res.2) fun _ => True := by
  unfold rlcUmReadDataPduHeader
  cases pdu with
  | nil => trivial
  | cons b0 r =>
    have hsi := hasSo_ofNumber (n := b0.toNat / 64) (by have := b0.toNat_lt; omega)
    refine yields_bind (yields_true _) fun _ _ => ?_
    change Yields ((readUmSn snSize (.ofNumber (b0.toNat / 64)) b0 r) >>= _) _ _
    generalize RlcSiField.ofNumber (b0.toNat / 64) = si at hsi
    refine yields_bind (readUmSn_spec snSize si b0 r) fun ⟨sn, r₁⟩ ⟨hsn, hr₁⟩ => ?_
    refine yields_bind (readSegmentOffset_spec si r₁) fun ⟨so, rest⟩ ⟨hrest, hso⟩ => ?_
    have hfirst : Advanced (b0 :: r) (if si = .fullSdu then 1 else rlcUmPduHeaderSizeNoSo snSize) r₁ := by
      have hall := (advanced_cons b0 r).trans hr₁
      have hpos : 0 < rlcUmPduHeaderSizeNoSo snSize := by cases snSize <;> decide
      split at hall
      case isTrue hfull => rwa [if_pos hfull]
      case isFalse hfull =>
        rw [if_neg hfull]
        rwa [show 1 + (rlcUmPduHeaderSizeNoSo snSize - 1) = rlcUmPduHeaderSizeNoSo snSize by omega] at hall
    have hzero : si.hasSo = true ∧ so = 0 ↔ LaterSegmentAtZero snSize (b0 :: r) := by
      unfold LaterSegmentAtZero
      rw [List.headD_cons]
      by_cases hhas : si.hasSo = true
      · have hnotFull : ¬si = .fullSdu := by
          rintro rfl
          exact Bool.false_ne_true hhas
        rw [if_neg hnotFull] at hfirst
        rw [if_pos hhas] at hso
        rw [hso, hfirst.2]
        have hge := hsi.mp hhas
        exact and_congr ⟨fun _ => by omega, fun _ => hhas⟩ Iff.rfl
      · have hlt : ¬128 ≤ b0.toNat := fun hge => hhas (hsi.mpr (by omega))
        exact iff_of_false (fun h => hhas h.1) fun h => hlt h.1
    refine ⟨rfl, hsn, hfirst.trans hrest, hzero, fun hno => ?_⟩
    change si.hasSo = false at hno
    rw [hno] at hso
    exact hso

variable {header : RlcUmPduHeader} {rest : ByteReader}

lemma rlcUmNrPackedLength_advanced (h : UmHeaderRead snSize pdu header rest) :
    Advanced pdu (rlcUmNrPackedLength header) rest ↔ ¬LaterSegmentAtZero snSize pdu := by
  have hbase : (match header.snSize with
      | .size6bits => 1
      | .size12bits => 2) = rlcUmPduHeaderSizeNoSo snSize := by
    rw [h.snSize_eq]
    cases snSize <;> rfl
  have hlength : rlcUmNrPackedLength header = (if header.si = .fullSdu then 1 else rlcUmPduHeaderSizeNoSo snSize) +
      (if header.si.hasSo then 2 else 0) ↔ ¬(header.si.hasSo = true ∧ header.so = 0) := by
    unfold rlcUmNrPackedLength
    rw [hbase]
    cases hhas : header.si.hasSo with
    | false =>
      have hso := h.noOffset hhas
      split <;> simp [hso]
    | true =>
      have hnotFull : ¬header.si = .fullSdu := by
        intro hfull
        rw [hfull] at hhas
        exact Bool.false_ne_true hhas
      rw [if_neg hnotFull, if_neg hnotFull]
      by_cases hso : header.so = 0
      · simp [hso]
      · simp [hso]
  rw [← h.atZero, ← hlength]
  constructor
  · intro hstripped
    exact hstripped.unique h.advanced
  · intro heq
    rw [heq]
    exact h.advanced

end Reading

section RoundTrip

lemma readSo_eq_readSegmentOffset (si : RlcSiField) (r : ByteReader) :
    readSo si r = Prod.fst <$> readSegmentOffset si r := by
  unfold readSo readSegmentOffset
  by_cases hso : si.hasSo = true
  · rw [if_pos hso, if_pos hso]
    match r with
    | [] => rfl
    | [_] => rfl
    | _ :: _ :: _ => rfl
  · rw [if_neg hso, if_neg hso]
    rfl

def SoConsistent (si : RlcSiField) (so : UInt16) : Prop := si.hasSo = true ↔ so ≠ 0

instance (si : RlcSiField) (so : UInt16) : Decidable (SoConsistent si so) := inferInstanceAs (Decidable (_ ↔ _))

lemma length_writeSo {si : RlcSiField} {so : UInt16} (h : SoConsistent si so) :
    (writeSo so).length = if si.hasSo then 2 else 0 := by
  unfold writeSo
  cases hhas : si.hasSo with
  | true => rw [if_pos (h.mp hhas), if_pos rfl, List.length_cons, List.length_singleton]
  | false =>
    have hso : ¬so ≠ 0 := fun hne => by
      rw [h.mpr hne] at hhas
      cases hhas
    rw [if_neg hso, if_neg Bool.false_ne_true, List.length_nil]

lemma readSegmentOffset_write {si : RlcSiField} {so : UInt16} (h : SoConsistent si so) (r : ByteReader) :
    readSegmentOffset si (writeSo so ++ r) = .ok (so, r) := by
  have hvalue := readSo_write (h := ⟨false, si, .size12bits, 0, so⟩) h r
  have hspec := readSegmentOffset_spec si (writeSo so ++ r)
  rw [readSo_eq_readSegmentOffset] at hvalue
  cases hread : readSegmentOffset si (writeSo so ++ r) with
  | error e =>
    rw [hread] at hvalue
    cases hvalue
  | ok res =>
    rw [hread] at hvalue hspec
    have hrest := hspec.1.2
    rw [← length_writeSo h, List.drop_left] at hrest
    exact congrArg Except.ok (Prod.ext (Except.ok.inj hvalue) hrest)

variable {header : RlcUmPduHeader}

/-- The SN that is left of a header after it was written. PDUs with a complete SDU have none. -/
def RlcUmPduHeader.writtenSn (header : RlcUmPduHeader) : Nat :=
  if header.si = .fullSdu then 0 else header.sn % header.snSize.modulus

lemma RlcUmPduHeader.writtenSn_eq_iff (header : RlcUmPduHeader) : header.writtenSn = header.sn ↔
    header.sn < header.snSize.modulus ∧ (header.si = .fullSdu → header.sn = 0) := by
  have hmod := Nat.mod_eq_iff_lt (m := header.sn) (cardinality_ne_zero header.snSize.toNumber)
  unfold RlcUmPduHeader.writtenSn
  by_cases hfull : header.si = .fullSdu
  · rw [if_pos hfull]
    have hpos := Nat.pos_of_ne_zero (cardinality_ne_zero header.snSize.toNumber)
    constructor
    · intro hzero
      exact ⟨hzero ▸ hpos, fun _ => hzero.symm⟩
    · intro h
      exact (h.2 hfull).symm
  · rw [if_neg hfull]
    exact hmod.trans ⟨fun hlt => ⟨hlt, fun h => absurd h hfull⟩, fun h => h.1⟩

lemma umFirstByte_fields (si : RlcSiField) (low : Nat) (hlow : low < 64) :
    (UInt8.ofNat (si.toNumber * 64 + low)).toNat / 64 = si.toNumber ∧
      (UInt8.ofNat (si.toNumber * 64 + low)).toNat % 64 = low := by
  have hsi := toNumber_lt si
  rw [toNat_ofNat_of_lt (by omega)]
  omega

lemma readUmSn_write {si : RlcSiField} (hsi : ¬si = .fullSdu) (snSize : RlcUmSnSize) (sn : Nat) (r : List UInt8) :
    ∃ first low, (∀ so, rlcUmWriteDataPduHeader ⟨si, snSize, sn, so⟩ = first :: low ++ writeSo so) ∧
      first.toNat / 64 = si.toNumber ∧ readUmSn snSize si first (low ++ r) = .ok (sn % snSize.modulus, r) := by
  cases snSize with
  | size6bits =>
    obtain ⟨hkind, hlow⟩ := umFirstByte_fields si (sn % 64) (by omega)
    refine ⟨UInt8.ofNat (si.toNumber * 64 + sn % 64), [], fun so => ?_, hkind, ?_⟩
    · rw [rlcUmWriteDataPduHeader, if_neg hsi]
    · unfold readUmSn
      simp only [rejectUnless_ok (fun hfull => absurd hfull hsi), hlow]
      rfl
  | size12bits =>
    obtain ⟨hkind, hlow⟩ := umFirstByte_fields si (sn / 256 % 16) (by omega)
    refine ⟨UInt8.ofNat (si.toNumber * 64 + sn / 256 % 16), [UInt8.ofNat sn], fun so => ?_, hkind, ?_⟩
    · rw [rlcUmWriteDataPduHeader, if_neg hsi]
    · have hreserved : (UInt8.ofNat (si.toNumber * 64 + sn / 256 % 16)).toNat / 16 % 4 = 0 := by omega
      have hvalue : (UInt8.ofNat (si.toNumber * 64 + sn / 256 % 16)).toNat % 16 * 256 + (UInt8.ofNat sn).toNat =
          sn % 4096 := by
        have hbyte : (UInt8.ofNat sn).toNat = sn % 256 := UInt8.toNat_ofNat'
        omega
      unfold readUmSn
      simp only [rejectUnless_ok (fun hfull => absurd hfull hsi), rejectUnless_ok (fun _ => hreserved), if_neg hsi]
      change Except.ok (_, r) = _
      rw [hvalue]
      rfl

lemma rlcUmReadDataPduHeader_write (hso : SoConsistent header.si header.so) (payload : List UInt8) :
    rlcUmReadDataPduHeader (rlcUmWriteDataPduHeader header ++ payload) header.snSize =
      .ok ({ header with sn := header.writtenSn }, payload) := by
  obtain ⟨si, snSize, sn, so⟩ := header
  change SoConsistent si so at hso
  by_cases hfull : si = .fullSdu
  · subst hfull
    have hzero : so = 0 := by
      by_contra hne
      exact Bool.false_ne_true (hso.mpr hne)
    subst hzero
    change rlcUmReadDataPduHeader (UInt8.ofNat 0 :: payload) snSize = .ok (⟨.fullSdu, snSize, 0, 0⟩, payload)
    unfold rlcUmReadDataPduHeader
    rw [rejectUnless_ok (List.cons_ne_nil _ _)]
    cases snSize <;> rfl
  · obtain ⟨first, low, hwrite, hkind, hread⟩ := readUmSn_write hfull snSize sn (writeSo so ++ payload)
    have hok : ∀ {α β : Type} (a : α) (f : α → Parsed β), (Except.ok a >>= f) = f a := fun _ _ => rfl
    rw [hwrite so, RlcUmPduHeader.writtenSn, if_neg hfull]
    unfold rlcUmReadDataPduHeader
    rw [List.append_assoc, List.cons_append, rejectUnless_ok (List.cons_ne_nil _ _)]
    simp only [ByteReader.next, hok, hkind, ofNumber_toNumber, hread, readSegmentOffset_write hso]

end RoundTrip

end OwlsRan.Rlc
