import Mathlib.Algebra.Group.Nat.Defs
import OwlsRan.Lib.ByteReader

/-!
# Headers of RLC AM data PDUs
-/

/-!
## Sequence number sizes and header fields
-/

namespace OwlsRan.Rlc

inductive RlcAmSnSize where
  | size12bits
  | size18bits
deriving DecidableEq

inductive RlcSiField where
  | fullSdu
  | firstSegment
  | lastSegment
  | middleSegment
deriving DecidableEq

def toNumber : RlcAmSnSize → Nat
  | .size12bits => 12
  | .size18bits => 18

def cardinality (snSize : Nat) : Nat := 2 ^ snSize

theorem cardinality_ne_zero (snSize : Nat) : cardinality snSize ≠ 0 := Nat.pos_iff_ne_zero.mp (Nat.two_pow_pos snSize)

def windowSize (snSize : Nat) : Nat := cardinality (snSize - 1)

namespace RlcAmSnSize

def modulus (s : RlcAmSnSize) : Nat := cardinality (toNumber s)

@[simp] theorem modulus_size12bits : modulus .size12bits = 4096 := rfl

@[simp] theorem modulus_size18bits : modulus .size18bits = 262144 := rfl

def amWindowSize (s : RlcAmSnSize) : Nat := windowSize (toNumber s)

end RlcAmSnSize

inductive RlcUmSnSize where
  | size6bits
  | size12bits
deriving DecidableEq

namespace RlcUmSnSize

def toNumber : RlcUmSnSize → Nat
  | .size6bits => 6
  | .size12bits => 12

def modulus (s : RlcUmSnSize) : Nat := cardinality s.toNumber

def umWindowSize (s : RlcUmSnSize) : Nat := windowSize s.toNumber

end RlcUmSnSize

open OwlsRan.Lib

structure RlcAmPduHeader where
  p : Bool
  si : RlcSiField
  snSize : RlcAmSnSize
  sn : Nat
  so : UInt16
deriving DecidableEq

def rlcAmPduHeaderSoSize : Nat := 2

def rlcAmPduHeaderMinSize : RlcAmSnSize → Nat
  | .size12bits => 2
  | .size18bits => 3

def rlcAmPduHeaderMaxSize (snSize : RlcAmSnSize) : Nat := rlcAmPduHeaderMinSize snSize + rlcAmPduHeaderSoSize

namespace RlcSiField

def toNumber : RlcSiField → Nat
  | fullSdu => 0
  | firstSegment => 1
  | lastSegment => 2
  | middleSegment => 3

def ofNumber : Nat → RlcSiField
  | 0 => fullSdu
  | 1 => firstSegment
  | 2 => lastSegment
  | _ => middleSegment

def hasSo : RlcSiField → Bool
  | lastSegment => true
  | middleSegment => true
  | _ => false

end RlcSiField

namespace RlcAmPduHeader

def getPackedSize (h : RlcAmPduHeader) : Nat :=
  if h.si.hasSo then rlcAmPduHeaderMaxSize h.snSize else rlcAmPduHeaderMinSize h.snSize

end RlcAmPduHeader

/-- The bytes of the SN, of which the first one has its highest bits in `high`. -/
def readSn (snSize : RlcAmSnSize) (high : UInt8) (r : ByteReader) : Parsed (Nat × ByteReader) :=
  match snSize with
  | .size12bits => do
    rejectUnless (r ≠ [])
    let (b1, r) ← r.next
    .ok (high.toNat % 16 * 256 + b1.toNat, r)
  | .size18bits => do
    rejectUnless (high.toNat / 4 % 4 = 0)
    rejectUnless (r ≠ [])
    let (b1, r) ← r.next
    rejectUnless (r ≠ [])
    let (b2, r) ← r.next
    .ok (high.toNat % 4 * 65536 + b1.toNat * 256 + b2.toNat, r)

def readSo (si : RlcSiField) (r : ByteReader) : Parsed UInt16 :=
  if si.hasSo then do
    rejectUnless (r ≠ [])
    let (b1, r) ← r.next
    rejectUnless (r ≠ [])
    let (b0, _) ← r.next
    .ok (UInt16.ofNat (b1.toNat * 256 + b0.toNat))
  else .ok 0

def rlcAmReadDataPduHeader (pdu : List UInt8) (snSize : RlcAmSnSize) : Parsed RlcAmPduHeader := do
  rejectUnless (rlcAmPduHeaderMinSize snSize < pdu.length)
  let (b0, r) ← ByteReader.next pdu
  let si := RlcSiField.ofNumber (b0.toNat / 16 % 4)
  let (sn, r) ← readSn snSize b0 r
  let so ← readSo si r
  .ok ⟨b0.toNat / 64 % 2 = 1, si, snSize, sn, so⟩

lemma rlcAmReadDataPduHeader_sn_lt {pdu : List UInt8} {snSize : RlcAmSnSize} {header : RlcAmPduHeader}
    (h : rlcAmReadDataPduHeader pdu snSize = .ok header) : header.sn < snSize.modulus := by
  have hsn : ∀ high r, Yields (readSn snSize high r) (fun res => res.1 < snSize.modulus) fun _ => True := by
    intro high r
    cases snSize with
    | size12bits =>
      refine yields_bind (yields_true _) fun _ _ => yields_bind (yields_true _) fun res _ => ?_
      have hlt := res.1.toNat_lt
      change high.toNat % 16 * 256 + res.1.toNat < 4096
      omega
    | size18bits =>
      refine yields_bind (yields_true _) fun _ _ => yields_bind (yields_true _) fun _ _ => ?_
      refine yields_bind (yields_true _) fun res₁ _ => yields_bind (yields_true _) fun _ _ => ?_
      refine yields_bind (yields_true _) fun res₂ _ => ?_
      have hlt₁ := res₁.1.toNat_lt
      have hlt₂ := res₂.1.toNat_lt
      change high.toNat % 4 * 65536 + res₁.1.toNat * 256 + res₂.1.toNat < 262144
      omega
  have hread : Yields (rlcAmReadDataPduHeader pdu snSize) (fun header => header.sn < snSize.modulus) fun _ => True := by
    refine yields_bind (yields_true _) fun _ _ => yields_bind (yields_true _) fun _ _ => ?_
    refine yields_bind (hsn _ _) fun res hres => yields_bind (yields_true _) fun so _ => ?_
    exact hres
  exact hread.of_ok h

def writeSo (so : UInt16) : List UInt8 :=
  if so ≠ 0 then [UInt8.ofNat (so.toNat / 256), UInt8.ofNat so.toNat] else []

def rlcAmWriteDataPduHeader (h : RlcAmPduHeader) : List UInt8 :=
  let first := 128 + h.p.toNat * 64 + h.si.toNumber * 16
  (match h.snSize with
    | .size12bits => [UInt8.ofNat (first + h.sn / 256 % 16), UInt8.ofNat h.sn]
    | .size18bits => [UInt8.ofNat (first + h.sn / 65536 % 4), UInt8.ofNat (h.sn / 256), UInt8.ofNat h.sn]) ++
  writeSo h.so

section RoundTrip

variable {h : RlcAmPduHeader} {payload : List UInt8}

lemma toNat_ofNat_of_lt {n : Nat} (h : n < 256) : (UInt8.ofNat n).toNat = n := by
  rw [UInt8.toNat_ofNat']
  exact Nat.mod_eq_of_lt h

lemma toNumber_lt (si : RlcSiField) : si.toNumber < 4 := by cases si <;> decide

lemma ofNumber_toNumber (si : RlcSiField) : .ofNumber si.toNumber = si := by cases si <;> rfl

lemma firstByte_fields (p : Bool) (si : RlcSiField) (high : Nat) (hhigh : high < 16) :
    (UInt8.ofNat (128 + p.toNat * 64 + si.toNumber * 16 + high)).toNat / 64 % 2 = p.toNat ∧
      (UInt8.ofNat (128 + p.toNat * 64 + si.toNumber * 16 + high)).toNat / 16 % 4 = si.toNumber ∧
      (UInt8.ofNat (128 + p.toNat * 64 + si.toNumber * 16 + high)).toNat % 16 = high := by
  have hp : p.toNat ≤ 1 := Bool.toNat_le p
  have hsi := toNumber_lt si
  rw [toNat_ofNat_of_lt (by omega)]
  omega

lemma readSo_write (hso : h.si.hasSo = true ↔ h.so ≠ 0) (r : List UInt8) :
    readSo h.si (writeSo h.so ++ r) = .ok h.so := by
  unfold readSo writeSo
  by_cases hzero : h.so = 0
  · have hno : h.si.hasSo = false := by
      cases hhas : h.si.hasSo with
      | true => exact absurd hzero (hso.mp hhas)
      | false => rfl
    rw [hno, if_neg Bool.false_ne_true, hzero]
  · have hlt := h.so.toNat_lt
    have hvalue : UInt16.ofNat ((UInt8.ofNat (h.so.toNat / 256)).toNat * 256 + (UInt8.ofNat h.so.toNat).toNat) = h.so := by
      rw [toNat_ofNat_of_lt (by omega), UInt8.toNat_ofNat', ← UInt16.toNat_inj, UInt16.toNat_ofNat']
      simp only [Nat.reducePow]
      omega
    rw [if_pos (hso.mpr hzero), if_pos hzero]
    simp only [List.cons_append, List.nil_append, rejectUnless_ok (List.cons_ne_nil _ _)]
    change Except.ok _ = _
    rw [hvalue]

lemma readSn_write_size12bits {high : UInt8} {sn : Nat} (hsn : sn < 4096) (hhigh : high.toNat % 16 = sn / 256 % 16)
    (r : List UInt8) : readSn .size12bits high (UInt8.ofNat sn :: r) = .ok (sn, r) := by
  have hvalue : high.toNat % 16 * 256 + (UInt8.ofNat sn).toNat = sn := by
    rw [hhigh, UInt8.toNat_ofNat']
    omega
  unfold readSn
  simp only [rejectUnless_ok (List.cons_ne_nil _ _)]
  change Except.ok (_, r) = _
  rw [hvalue]

lemma readSn_write_size18bits {high : UInt8} {sn : Nat} (hsn : sn < 262144) (hhigh : high.toNat % 16 = sn / 65536 % 4)
    (r : List UInt8) :
    readSn .size18bits high (UInt8.ofNat (sn / 256) :: UInt8.ofNat sn :: r) = .ok (sn, r) := by
  have hvalue : high.toNat % 4 * 65536 + (UInt8.ofNat (sn / 256)).toNat * 256 + (UInt8.ofNat sn).toNat = sn := by
    rw [UInt8.toNat_ofNat', UInt8.toNat_ofNat']
    omega
  have hreserved : high.toNat / 4 % 4 = 0 := by omega
  unfold readSn
  simp only [rejectUnless_ok hreserved, rejectUnless_ok (List.cons_ne_nil _ _)]
  change Except.ok (_, r) = _
  rw [hvalue]

/-- What is written is read, where the header has a segment offset exactly if the kind of the segment says so. -/
lemma rlcAmReadDataPduHeader_write (hsn : h.sn < h.snSize.modulus) (hso : h.si.hasSo = true ↔ h.so ≠ 0)
    (hpayload : payload ≠ []) : rlcAmReadDataPduHeader (rlcAmWriteDataPduHeader h ++ payload) h.snSize = .ok h := by
  have hpos : 0 < payload.length := List.length_pos_iff.mpr hpayload
  have hok : ∀ {α β : Type} (a : α) (f : α → Parsed β), (Except.ok a >>= f) = f a := fun _ _ => rfl
  obtain ⟨p, si, snSize, sn, so⟩ := h
  dsimp only at hsn hso
  have hbit : decide (p.toNat = 1) = p := by cases p <;> rfl
  unfold rlcAmReadDataPduHeader rlcAmWriteDataPduHeader
  cases snSize with
  | size12bits =>
    rw [RlcAmSnSize.modulus_size12bits] at hsn
    obtain ⟨hp, hsi, hhigh⟩ := firstByte_fields p si (sn / 256 % 16) (by omega)
    have hlen : rlcAmPduHeaderMinSize .size12bits < ([UInt8.ofNat (128 + p.toNat * 64 + si.toNumber * 16 + sn / 256 % 16),
        UInt8.ofNat sn] ++ writeSo so ++ payload).length := by
      simp only [List.length_append, List.length_cons, List.length_nil, rlcAmPduHeaderMinSize]
      omega
    dsimp only
    rw [rejectUnless_ok hlen, hok]
    simp only [List.cons_append, List.nil_append, ByteReader.next, hok, readSn_write_size12bits hsn hhigh, hsi, hp,
      ofNumber_toNumber, readSo_write (h := ⟨p, si, .size12bits, sn, so⟩) hso, hbit]
  | size18bits =>
    rw [RlcAmSnSize.modulus_size18bits] at hsn
    obtain ⟨hp, hsi, hhigh⟩ := firstByte_fields p si (sn / 65536 % 4) (by omega)
    have hlen : rlcAmPduHeaderMinSize .size18bits < ([UInt8.ofNat (128 + p.toNat * 64 + si.toNumber * 16 + sn / 65536 % 4),
        UInt8.ofNat (sn / 256), UInt8.ofNat sn] ++ writeSo so ++ payload).length := by
      simp only [List.length_append, List.length_cons, List.length_nil, rlcAmPduHeaderMinSize]
      omega
    dsimp only
    rw [rejectUnless_ok hlen, hok]
    simp only [List.cons_append, List.nil_append, ByteReader.next, hok, readSn_write_size18bits hsn hhigh, hsi, hp,
      ofNumber_toNumber, readSo_write (h := ⟨p, si, .size18bits, sn, so⟩) hso, hbit]

end RoundTrip

end OwlsRan.Rlc
