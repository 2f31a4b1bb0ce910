import OwlsRan.Lib.ByteReader
import OwlsRan.Rlc.RlcAmPdu

/-!
# RLC AM STATUS PDUs

`push_nack`, `trim`, `pack` and `unpack`. Shifts and masks are written with `/` and `%`.
-/

namespace OwlsRan.Rlc
open OwlsRan.Lib

structure RlcAmStatusNack where
  nackSn : Nat
  hasSo : Bool
  soStart : UInt16
  soEnd : UInt16
  hasNackRange : Bool
  nackRange : UInt8
deriving DecidableEq

def sizeofHeaderAckSn : Nat := 3
def sizeofNackSnExt12bitSn : Nat := 2
def sizeofNackSnExt18bitSn : Nat := 3
def sizeofNackSo : Nat := 4
def sizeofNackRange : Nat := 1

namespace RlcAmStatusNack

def soEndOfSdu : UInt16 := 0xffff

def default : RlcAmStatusNack := ⟨0, false, 0, soEndOfSdu, false, 0⟩

def ofSn (nackSn : Nat) : RlcAmStatusNack := { default with nackSn := nackSn }

def range (n : RlcAmStatusNack) : Nat := if n.hasNackRange then n.nackRange.toNat else 1

end RlcAmStatusNack

structure RlcAmStatusPdu where
  snSize : RlcAmSnSize
  nacks : List RlcAmStatusNack
  packedSize : Nat
  ackSn : Nat
deriving DecidableEq

def invalidRlcSn : Nat := 0xffffffff

namespace RlcAmStatusPdu

def new (snSize : RlcAmSnSize) : RlcAmStatusPdu := ⟨snSize, [], sizeofHeaderAckSn, invalidRlcSn⟩

def reset (pdu : RlcAmStatusPdu) : RlcAmStatusPdu :=
  { pdu with ackSn := invalidRlcSn, nacks := [], packedSize := sizeofHeaderAckSn }

def modNr (pdu : RlcAmStatusPdu) : Nat := pdu.snSize.modulus

def canBeMerged (modNr : Nat) (left right : RlcAmStatusNack) : Bool :=
  right.nackSn = (if left.hasNackRange then left.nackSn + left.nackRange.toNat else left.nackSn + 1) % modNr &&
  !(left.hasSo && left.soEnd != RlcAmStatusNack.soEndOfSdu) &&
  !(right.hasSo && right.soStart != 0) &&
  left.range + right.range ≤ 255

def nackSize (snSize : RlcAmSnSize) (nack : RlcAmStatusNack) : Nat :=
  (match snSize with
    | .size12bits => sizeofNackSnExt12bitSn
    | .size18bits => sizeofNackSnExt18bitSn) +
  (if nack.hasSo then sizeofNackSo else 0) + (if nack.hasNackRange then sizeofNackRange else 0)

/-- The range of `prev` after `nack` has been merged into it. -/
def mergedRange (prev nack : RlcAmStatusNack) : RlcAmStatusNack :=
  if nack.hasNackRange then
    if prev.hasNackRange then { prev with nackRange := prev.nackRange + nack.nackRange }
    else { prev with nackRange := nack.nackRange + 1, hasNackRange := true }
  else
    if prev.hasNackRange then { prev with nackRange := prev.nackRange + 1 }
    else { prev with nackRange := 2, hasNackRange := true }

/-- The segment offsets of `prev` after `nack` has been merged into it. -/
def mergedSo (prev nack : RlcAmStatusNack) : RlcAmStatusNack :=
  if nack.hasSo then
    if prev.hasSo then { prev with soEnd := nack.soEnd }
    else { prev with hasSo := true, soStart := 0, soEnd := nack.soEnd }
  else
    if prev.hasSo then { prev with soEnd := RlcAmStatusNack.soEndOfSdu } else prev

def merge (prev nack : RlcAmStatusNack) : RlcAmStatusNack := mergedSo (mergedRange prev nack) nack

def append (pdu : RlcAmStatusPdu) (nack : RlcAmStatusNack) : RlcAmStatusPdu :=
  { pdu with nacks := pdu.nacks ++ [nack], packedSize := pdu.packedSize + nackSize pdu.snSize nack }

def pushNack (pdu : RlcAmStatusPdu) (nack : RlcAmStatusNack) : RlcAmStatusPdu :=
  match pdu.nacks.getLast? with
  | none => pdu.append nack
  | some prev =>
    if canBeMerged pdu.modNr prev nack then
      { pdu with
        nacks := pdu.nacks.dropLast ++ [merge prev nack]
        packedSize := pdu.packedSize - nackSize pdu.snSize prev + nackSize pdu.snSize (merge prev nack) }
    else pdu.append nack

/-- The loop of `trim`, over the NACKs from the back. -/
def trimNacks (snSize : RlcAmSnSize) (maxPackedSize : Nat) : List RlcAmStatusNack → Nat → Nat →
    List RlcAmStatusNack × Nat × Nat
  | [], packedSize, ackSn => ([], packedSize, ackSn)
  | nack :: rest, packedSize, ackSn =>
    if maxPackedSize < packedSize ∨ nack.nackSn = ackSn then
      trimNacks snSize maxPackedSize rest (packedSize - nackSize snSize nack) nack.nackSn
    else (nack :: rest, packedSize, ackSn)

def trim (pdu : RlcAmStatusPdu) (maxPackedSize : Nat) : Bool × RlcAmStatusPdu :=
  if maxPackedSize ≥ pdu.packedSize then (true, pdu)
  else if maxPackedSize < sizeofHeaderAckSn then (false, pdu)
  else
    let (nacks, packedSize, ackSn) := trimNacks pdu.snSize maxPackedSize pdu.nacks.reverse pdu.packedSize pdu.ackSn
    (true, { pdu with nacks := nacks.reverse, packedSize := packedSize, ackSn := ackSn })

def flag (b : Bool) (bit : Nat) : Nat := if b then bit else 0

def packSo (nack : RlcAmStatusNack) : List UInt8 :=
  if nack.hasSo then
    [UInt8.ofNat (nack.soStart.toNat / 256), UInt8.ofNat nack.soStart.toNat, UInt8.ofNat (nack.soEnd.toNat / 256),
      UInt8.ofNat nack.soEnd.toNat]
  else []

def packRange (nack : RlcAmStatusNack) : List UInt8 := if nack.hasNackRange then [nack.nackRange] else []

def packNackSn (snSize : RlcAmSnSize) (e1 : Bool) (nack : RlcAmStatusNack) : List UInt8 :=
  match snSize with
  | .size12bits =>
    [UInt8.ofNat (nack.nackSn / 16),
      UInt8.ofNat (nack.nackSn % 16 * 16 + flag e1 8 + flag nack.hasSo 4 + flag nack.hasNackRange 2)]
  | .size18bits =>
    [UInt8.ofNat (nack.nackSn / 1024), UInt8.ofNat (nack.nackSn / 4),
      UInt8.ofNat (nack.nackSn % 4 * 64 + flag e1 32 + flag nack.hasSo 16 + flag nack.hasNackRange 8)]

/-- The loop of `pack`. -/
def packNacks (snSize : RlcAmSnSize) : List RlcAmStatusNack → List UInt8
  | [] => []
  | nack :: rest =>
    packNackSn snSize (!rest.isEmpty) nack ++ packSo nack ++ packRange nack ++ packNacks snSize rest

def packAckSn (snSize : RlcAmSnSize) (e1 : Bool) (ackSn : Nat) : List UInt8 :=
  match snSize with
  | .size12bits => [UInt8.ofNat (ackSn / 256 % 16), UInt8.ofNat ackSn, UInt8.ofNat (flag e1 128)]
  | .size18bits =>
    [UInt8.ofNat (ackSn / 16384 % 16), UInt8.ofNat (ackSn / 64), UInt8.ofNat (ackSn % 64 * 4 + flag e1 2)]

/-- The bytes that `pack` writes. -/
def pack (pdu : RlcAmStatusPdu) : List UInt8 :=
  packAckSn pdu.snSize (!pdu.nacks.isEmpty) pdu.ackSn ++ packNacks pdu.snSize pdu.nacks

def isControlPdu (pdu : List UInt8) : Parsed Bool := do
  let (b, _) ← ByteReader.next pdu
  .ok (b.toNat / 128 % 2 = 0)

def unpackAckSn (snSize : RlcAmSnSize) (r : ByteReader) : Parsed ((Nat × Bool) × ByteReader) := do
  let (b0, r) ← r.next
  rejectUnless (b0.toNat / 16 % 8 = 0)
  let (b1, r) ← r.next
  let (b2, r) ← r.next
  match snSize with
  | .size12bits =>
    rejectUnless (b2.toNat % 128 = 0)
    .ok ((b0.toNat % 16 * 256 + b1.toNat, b2.toNat / 128 % 2 = 1), r)
  | .size18bits =>
    rejectUnless (b2.toNat % 2 = 0)
    .ok ((b0.toNat % 16 * 16384 + b1.toNat * 64 + b2.toNat / 4, b2.toNat / 2 % 2 = 1), r)

/-- The extension bits of a NACK: further NACKs, segment offsets and a NACK range follow. -/
structure NackExtensions where
  e1 : Bool
  e2 : Bool
  e3 : Bool

def unpackNackSn (snSize : RlcAmSnSize) (r : ByteReader) : Parsed ((Nat × NackExtensions) × ByteReader) :=
  match snSize with
  | .size12bits => do
    rejectUnless (sizeofNackSnExt12bitSn ≤ r.length)
    let (b0, r) ← r.next
    let (b1, r) ← r.next
    rejectUnless (b1.toNat % 2 = 0)
    .ok ((b0.toNat * 16 + b1.toNat / 16, ⟨b1.toNat / 8 % 2 = 1, b1.toNat / 4 % 2 = 1, b1.toNat / 2 % 2 = 1⟩), r)
  | .size18bits => do
    rejectUnless (sizeofNackSnExt18bitSn ≤ r.length)
    let (b0, r) ← r.next
    let (b1, r) ← r.next
    let (b2, r) ← r.next
    rejectUnless (b2.toNat % 8 = 0)
    .ok ((b0.toNat * 1024 + b1.toNat * 4 + b2.toNat / 64,
      ⟨b2.toNat / 32 % 2 = 1, b2.toNat / 16 % 2 = 1, b2.toNat / 8 % 2 = 1⟩), r)

def unpackSo (e2 : Bool) (nack : RlcAmStatusNack) (r : ByteReader) : Parsed (RlcAmStatusNack × ByteReader) :=
  if e2 then do
    rejectUnless (sizeofNackSo ≤ r.length)
    let (s1, r) ← r.next
    let (s0, r) ← r.next
    let (t1, r) ← r.next
    let (t0, r) ← r.next
    .ok ({ nack with
      hasSo := true
      soStart := UInt16.ofNat (s1.toNat * 256 + s0.toNat)
      soEnd := UInt16.ofNat (t1.toNat * 256 + t0.toNat) }, r)
  else .ok (nack, r)

def unpackRange (e3 : Bool) (nack : RlcAmStatusNack) (r : ByteReader) : Parsed (RlcAmStatusNack × ByteReader) :=
  if e3 then do
    rejectUnless (sizeofNackRange ≤ r.length)
    let (b, r) ← r.next
    .ok ({ nack with hasNackRange := true, nackRange := b }, r)
  else .ok (nack, r)

/-- The loop of `unpack`, entered while E1 is set. -/
def unpackNacks : Nat → RlcAmStatusPdu → ByteReader → Parsed RlcAmStatusPdu
  | 0, _, _ => .error .outOfFuel
  | fuel + 1, pdu, r => do
    let ((nackSn, ext), r) ← unpackNackSn pdu.snSize r
    let (nack, r) ← unpackSo ext.e2 (.ofSn nackSn) r
    let (nack, r) ← unpackRange ext.e3 nack r
    if ext.e1 then unpackNacks fuel (pdu.pushNack nack) r else .ok (pdu.pushNack nack)

/-- `unpack`. Each turn of its loop takes at least two bytes, so that the length of the input bounds their number. -/
def unpack (pdu : RlcAmStatusPdu) (bytes : List UInt8) : Parsed RlcAmStatusPdu := do
  rejectUnless (sizeofHeaderAckSn ≤ bytes.length)
  let control ← isControlPdu bytes
  rejectUnless (control = true)
  let ((ackSn, e1), r) ← unpackAckSn pdu.snSize bytes
  let pdu := { pdu.reset with ackSn := ackSn }
  if e1 then unpackNacks bytes.length pdu r else .ok pdu

end RlcAmStatusPdu

end OwlsRan.Rlc
