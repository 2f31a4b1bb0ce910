import Mathlib.Data.List.Basic
import Mathlib.Tactic.Ring

/-!
# Bit encoder and bit decoder

Fields are packed and unpacked bit by bit, the most significant one first.
-/

namespace OwlsRan.Support

def bigEndian : Nat → Nat → List UInt8
  | 0, _ => []
  | k + 1, val => .ofNat (val / 256 ^ k) :: bigEndian k val

structure BitEncoder where
  bytes : List UInt8
  cur : Nat
  offset : Nat
deriving DecidableEq

namespace BitEncoder

def empty : BitEncoder := ⟨[], 0, 0⟩

def data (e : BitEncoder) : List UInt8 := if e.offset = 0 then e.bytes else e.bytes ++ [.ofNat e.cur]

def packBit (e : BitEncoder) (bit : Nat) : BitEncoder :=
  if e.offset = 7 then ⟨e.bytes ++ [.ofNat (e.cur + bit)], 0, 0⟩
  else ⟨e.bytes, e.cur + bit <<< (7 - e.offset), e.offset + 1⟩

def pack (e : BitEncoder) (val : Nat) : Nat → BitEncoder
  | 0 => e
  | n + 1 => (e.packBit (val >>> n % 2)).pack val n

def packBytes (e : BitEncoder) (bytes : List UInt8) : BitEncoder :=
  if e.offset = 0 then ⟨e.bytes ++ bytes, 0, 0⟩ else bytes.foldl (fun e b => e.pack b.toNat 8) e

end BitEncoder

structure BitDecoder where
  buffer : List UInt8
  offset : Nat
  passed : Nat
deriving DecidableEq

namespace BitDecoder

def ofBytes (bytes : List UInt8) : BitDecoder := ⟨bytes, 0, 0⟩

def nofBytes (d : BitDecoder) : Nat := d.passed + if d.offset ≠ 0 then 1 else 0

def unpack : BitDecoder → Nat → Bool × Nat × BitDecoder
  | d, 0 => (true, 0, d)
  | ⟨[], offset, passed⟩, _ + 1 => (false, 0, ⟨[], offset, passed⟩)
  | ⟨b :: rest, offset, passed⟩, n + 1 =>
    let bit := b.toNat >>> (7 - offset) % 2
    let d : BitDecoder := if offset = 7 then ⟨rest, 0, passed + 1⟩ else ⟨b :: rest, offset + 1, passed⟩
    let (ok, val, d) := d.unpack n
    (ok, bit * 2 ^ n + val, d)

def alignBytes (d : BitDecoder) : BitDecoder := if d.offset ≠ 0 then ⟨d.buffer.tail, 0, d.passed + 1⟩ else d

def unpackAlignedBytes (d : BitDecoder) (nBytes : Nat) : List UInt8 × BitDecoder :=
  let d := d.alignBytes
  if nBytes = 0 then ([], d)
  else if nBytes > d.buffer.length then ([], d)
  else (d.buffer.take nBytes, ⟨d.buffer.drop nBytes, 0, d.passed + nBytes⟩)

end BitDecoder

section Encoder

variable {bytes : List UInt8} (val m n k : Nat)

@[simp] lemma length_bigEndian : (bigEndian k val).length = k := by
  induction k with
  | zero => rfl
  | succ k ih => rw [bigEndian, List.length_cons, ih]

lemma bigEndian_mod : bigEndian k (val % 256 ^ k) = bigEndian k val := by
  have hdigits : ∀ j, j ≤ k → bigEndian j (val % 256 ^ k) = bigEndian j val := by
    intro j hj
    induction j with
    | zero => rfl
    | succ j ih =>
      rw [bigEndian, bigEndian, ih (Nat.le_of_succ_le hj)]
      congr 1
      apply UInt8.toNat_inj.mp
      rw [UInt8.toNat_ofNat', UInt8.toNat_ofNat', ← Nat.mod_mul_right_div_self, ← Nat.mod_mul_right_div_self,
        Nat.mod_mod_of_dvd]
      exact Nat.pow_dvd_pow 256 hj
  exact hdigits k (Nat.le_refl k)

lemma exists_bigEndian (bs : List UInt8) : ∃ val < 256 ^ bs.length, bs = bigEndian bs.length val := by
  induction bs with
  | nil => exact ⟨0, Nat.one_pos, rfl⟩
  | cons b bs ih =>
    obtain ⟨val, hlt, hbs⟩ := ih
    have hb := b.toNat_lt
    have hdiv : (b.toNat * 256 ^ bs.length + val) / 256 ^ bs.length = b.toNat := by
      rw [Nat.mul_comm, Nat.mul_add_div (Nat.pow_pos (by decide)), Nat.div_eq_of_lt hlt, Nat.add_zero]
    have hmod : (b.toNat * 256 ^ bs.length + val) % 256 ^ bs.length = val := by
      rw [Nat.mul_comm, Nat.mul_add_mod, Nat.mod_eq_of_lt hlt]
    refine ⟨b.toNat * 256 ^ bs.length + val, ?_, ?_⟩
    · rw [List.length_cons, Nat.pow_succ]
      have hle : (b.toNat + 1) * 256 ^ bs.length ≤ 256 * 256 ^ bs.length := Nat.mul_le_mul_right _ hb
      rw [Nat.add_one_mul] at hle
      omega
    · rw [List.length_cons, bigEndian, hdiv, UInt8.ofNat_toNat, ← bigEndian_mod, hmod, ← hbs]

lemma BitEncoder.pack_add (e : BitEncoder) : e.pack val (m + n) = (e.pack (val >>> n) m).pack val n := by
  induction m generalizing e with
  | zero => rw [Nat.zero_add]; rfl
  | succ m ih =>
    rw [Nat.add_right_comm, pack, pack, ih, ← Nat.shiftRight_add, Nat.add_comm n m]

lemma BitEncoder.pack_rest {n : Nat} (hn : n ≤ 7) (cur : Nat) :
    (BitEncoder.mk bytes cur (7 - n)).pack val (n + 1) = ⟨bytes ++ [.ofNat (cur + val % 2 ^ (n + 1))], 0, 0⟩ := by
  induction n generalizing cur with
  | zero => rfl
  | succ n ih =>
    have hoffset : 7 - (n + 1) ≠ 7 := by omega
    have hnext : 7 - (n + 1) + 1 = 7 - n := by omega
    have hshift : 7 - (7 - (n + 1)) = n + 1 := by omega
    have hval : cur + (val >>> (n + 1) % 2) <<< (n + 1) + val % 2 ^ (n + 1) = cur + val % 2 ^ (n + 1 + 1) := by
      have hmod : val % 2 ^ (n + 1 + 1) = val % 2 ^ (n + 1) + 2 ^ (n + 1) * (val / 2 ^ (n + 1) % 2) := Nat.mod_pow_succ
      rw [hmod, Nat.shiftLeft_eq, Nat.shiftRight_eq_div_pow]
      ring
    rw [pack, packBit, if_neg hoffset, hnext, hshift, ih (by omega), hval]

lemma BitEncoder.pack_byte : (BitEncoder.mk bytes 0 0).pack val 8 = ⟨bytes ++ [.ofNat val], 0, 0⟩ := by
  have hrest := @BitEncoder.pack_rest bytes val 7 (Nat.le_refl 7) 0
  have hbyte : UInt8.ofNat (0 + val % 2 ^ (7 + 1)) = .ofNat val := by
    apply UInt8.toNat_inj.mp
    simp
  rw [hbyte] at hrest
  exact hrest

lemma BitEncoder.pack_bytes :
    (BitEncoder.mk bytes 0 0).pack val (8 * k) = ⟨bytes ++ bigEndian k val, 0, 0⟩ := by
  induction k generalizing bytes with
  | zero =>
    rw [bigEndian, List.append_nil]
    rfl
  | succ k ih =>
    have hpow : val >>> (8 * k) = val / 256 ^ k := by
      rw [Nat.shiftRight_eq_div_pow, Nat.pow_mul]
    rw [Nat.mul_succ, Nat.add_comm, pack_add, pack_byte, ih, hpow, bigEndian, List.append_assoc]
    rfl

end Encoder

section Decoder

variable {b : UInt8} {rest : List UInt8} {passed : Nat} (m n k val : Nat)

lemma BitDecoder.unpack_rest {n : Nat} (hn : n ≤ 7) :
    (BitDecoder.mk (b :: rest) (7 - n) passed).unpack (n + 1) =
      (true, b.toNat % 2 ^ (n + 1), ⟨rest, 0, passed + 1⟩) := by
  induction n with
  | zero => simp [unpack]
  | succ n ih =>
    have hoffset : 7 - (n + 1) ≠ 7 := by omega
    have hnext : 7 - (n + 1) + 1 = 7 - n := by omega
    have hshift : 7 - (7 - (n + 1)) = n + 1 := by omega
    rw [unpack]
    simp only [if_neg hoffset, hnext, hshift, ih (by omega), Prod.mk.injEq, true_and, and_true]
    have hmod : b.toNat % 2 ^ (n + 1 + 1) = b.toNat % 2 ^ (n + 1) + 2 ^ (n + 1) * (b.toNat / 2 ^ (n + 1) % 2) :=
      Nat.mod_pow_succ
    rw [hmod, Nat.shiftRight_eq_div_pow]
    ring

lemma BitDecoder.unpack_inner {offset n : Nat} (h : offset + n < 8) :
    (BitDecoder.mk (b :: rest) offset passed).unpack n =
      (true, b.toNat / 2 ^ (8 - offset - n) % 2 ^ n, ⟨b :: rest, offset + n, passed⟩) := by
  induction n generalizing offset with
  | zero => rw [Nat.pow_zero, Nat.mod_one]; rfl
  | succ n ih =>
    have hoffset : offset ≠ 7 := by omega
    have hnext : offset + 1 + n = offset + (n + 1) := by omega
    have hrest : 8 - (offset + 1) - n = 8 - offset - (n + 1) := by omega
    have htop : 8 - offset - (n + 1) + n = 7 - offset := by omega
    rw [unpack]
    simp only [if_neg hoffset, ih (by omega : offset + 1 + n < 8), hnext, hrest, Prod.mk.injEq, true_and, and_true]
    have hmod : ∀ m, m % 2 ^ (n + 1) = m % 2 ^ n + 2 ^ n * (m / 2 ^ n % 2) := fun m => Nat.mod_pow_succ
    rw [hmod, Nat.div_div_eq_div_mul, ← Nat.pow_add, htop, Nat.shiftRight_eq_div_pow]
    ring

lemma BitDecoder.unpack_byte :
    (BitDecoder.mk (b :: rest) 0 passed).unpack 8 = (true, b.toNat, ⟨rest, 0, passed + 1⟩) := by
  have hrest := @BitDecoder.unpack_rest b rest passed 7 (Nat.le_refl 7)
  have hbyte : b.toNat % 2 ^ (7 + 1) = b.toNat := Nat.mod_eq_of_lt b.toNat_lt
  rw [hbyte] at hrest
  exact hrest

lemma BitDecoder.unpack_lt {n val : Nat} {ok : Bool} {d d' : BitDecoder} (h : d.unpack n = (ok, val, d')) :
    val < 2 ^ n := by
  induction n generalizing d val ok d' with
  | zero =>
    obtain ⟨-, hval⟩ := Prod.mk.inj h
    rw [← (Prod.mk.inj hval).1]
    exact Nat.one_pos
  | succ n ih =>
    obtain ⟨buffer, offset, passed⟩ := d
    cases buffer with
    | nil =>
      obtain ⟨-, hval⟩ := Prod.mk.inj h
      rw [← (Prod.mk.inj hval).1]
      exact Nat.two_pow_pos _
    | cons b rest =>
      rw [unpack] at h
      rcases hrest : (if offset = 7 then (⟨rest, 0, passed + 1⟩ : BitDecoder)
        else ⟨b :: rest, offset + 1, passed⟩).unpack n with ⟨ok', val', d₁⟩
      have hlt := ih hrest
      simp only [hrest, Prod.mk.injEq] at h
      obtain ⟨-, rfl, -⟩ := h
      have hbit : b.toNat >>> (7 - offset) % 2 ≤ 1 := Nat.le_of_lt_succ (Nat.mod_lt _ Nat.two_pos)
      have hle : b.toNat >>> (7 - offset) % 2 * 2 ^ n ≤ 1 * 2 ^ n := Nat.mul_le_mul_right _ hbit
      rw [Nat.pow_succ]
      omega

lemma BitDecoder.unpack_after {m n v : Nat} {d d' : BitDecoder} (h : d.unpack m = (true, v, d')) :
    d.unpack (m + n) = ((d'.unpack n).1, v * 2 ^ n + (d'.unpack n).2.1, (d'.unpack n).2.2) := by
  induction m generalizing d v with
  | zero =>
    obtain ⟨-, hv⟩ := Prod.mk.inj h
    obtain ⟨rfl, rfl⟩ := Prod.mk.inj hv
    rw [Nat.zero_add, Nat.zero_mul, Nat.zero_add]
  | succ m ih =>
    obtain ⟨buffer, offset, passed⟩ := d
    cases buffer with
    | nil => cases (Prod.mk.inj h).1
    | cons b rest =>
      rw [unpack] at h
      rw [Nat.add_right_comm, unpack]
      generalize (if offset = 7 then (⟨rest, 0, passed + 1⟩ : BitDecoder) else ⟨b :: rest, offset + 1, passed⟩) = d at h ⊢
      rcases hres : d.unpack m with ⟨ok, val, d₁⟩
      simp only [hres, Prod.mk.injEq] at h
      obtain ⟨rfl, rfl, rfl⟩ := h
      simp only [ih hres, Prod.mk.injEq, true_and, and_true]
      ring

lemma BitDecoder.unpack_add {m n v w : Nat} {d d' d'' : BitDecoder} (h : d.unpack m = (true, v, d'))
    (h' : d'.unpack n = (true, w, d'')) : d.unpack (m + n) = (true, v * 2 ^ n + w, d'') := by
  rw [unpack_after h, h']

lemma BitDecoder.unpack_bytes :
    (BitDecoder.mk (bigEndian k val ++ rest) 0 passed).unpack (8 * k) =
      (true, val % 256 ^ k, ⟨rest, 0, passed + k⟩) := by
  induction k generalizing passed with
  | zero =>
    rw [Nat.pow_zero, Nat.mod_one]
    rfl
  | succ k ih =>
    have hadd := BitDecoder.unpack_add (@unpack_byte (.ofNat (val / 256 ^ k)) (bigEndian k val ++ rest) passed)
      (@ih (passed + 1))
    have hmod : val % 256 ^ (k + 1) = val % 256 ^ k + 256 ^ k * (val / 256 ^ k % 256) := Nat.mod_pow_succ
    have hdigit : (UInt8.ofNat (val / 256 ^ k)).toNat = val / 256 ^ k % 256 := UInt8.toNat_ofNat'
    have hvalue : val / 256 ^ k % 256 * 2 ^ (8 * k) + val % 256 ^ k = val % 256 ^ (k + 1) := by
      rw [hmod, Nat.pow_mul]
      ring
    have hpassed : passed + 1 + k = passed + (k + 1) := by omega
    rw [hdigit, hvalue, hpassed] at hadd
    have hbits : 8 * (k + 1) = 8 + 8 * k := by omega
    rw [hbits]
    exact hadd

end Decoder

def bitsOf : Nat → Nat → List Nat
  | 0, _ => []
  | n + 1, val => val >>> n % 2 :: bitsOf n val

def bitString (bytes : List UInt8) : List Nat := bytes.flatMap fun b => bitsOf 8 b.toNat

def bitsValue : Nat → List Nat → Nat
  | 0, _ => 0
  | _ + 1, [] => 0
  | n + 1, bit :: bits => bit * 2 ^ n + bitsValue n bits

section Bits

variable {m n val k : Nat}

@[simp] lemma length_bitsOf : (bitsOf n val).length = n := by
  induction n with
  | zero => rfl
  | succ n ih => rw [bitsOf, List.length_cons, ih]

lemma bitsOf_add (m n val : Nat) : bitsOf (m + n) val = bitsOf m (val >>> n) ++ bitsOf n val := by
  induction m with
  | zero =>
    rw [Nat.zero_add]
    rfl
  | succ m ih => rw [Nat.add_right_comm, bitsOf, bitsOf, ih, ← Nat.shiftRight_add, Nat.add_comm n m, List.cons_append]

lemma bitsOf_double {bit : Nat} (hbit : bit < 2) : bitsOf (n + 1) (2 * val + bit) = bitsOf n val ++ [bit] := by
  have hhalf : (2 * val + bit) >>> 1 = val := by
    rw [Nat.shiftRight_eq_div_pow]
    omega
  have hlast : (2 * val + bit) >>> 0 % 2 = bit := by
    rw [Nat.shiftRight_zero]
    omega
  rw [bitsOf_add n 1, hhalf, bitsOf, bitsOf, hlast]

lemma bitsOf_two_pow_mul (h : m ≤ n) : bitsOf m (2 ^ n * k) = List.replicate m 0 := by
  induction m with
  | zero => rfl
  | succ m ih =>
    have heven : (2 ^ n * k) >>> m % 2 = 0 := by
      obtain ⟨j, rfl⟩ := Nat.exists_eq_add_of_lt h
      rw [Nat.shiftRight_eq_div_pow, Nat.add_assoc, Nat.pow_add, Nat.mul_assoc,
        Nat.mul_div_cancel_left _ (Nat.two_pow_pos m), Nat.pow_succ, Nat.mul_right_comm]
      exact Nat.mul_mod_left _ 2
    rw [bitsOf, heven, ih (Nat.le_of_succ_le h), List.replicate_succ]

lemma bitsValue_bitsOf (bits : List Nat) : bitsValue n (bitsOf n val ++ bits) = val % 2 ^ n := by
  induction n with
  | zero => rw [bitsValue, Nat.pow_zero, Nat.mod_one]
  | succ n ih =>
    have hmod : val % 2 ^ (n + 1) = val % 2 ^ n + 2 ^ n * (val / 2 ^ n % 2) := Nat.mod_pow_succ
    rw [bitsOf, List.cons_append, bitsValue, ih, hmod, Nat.shiftRight_eq_div_pow, Nat.mul_comm, Nat.add_comm]

@[simp] lemma bitString_cons (b : UInt8) (bytes : List UInt8) :
    bitString (b :: bytes) = bitsOf 8 b.toNat ++ bitString bytes := rfl

@[simp] lemma bitString_append (bytes bytes' : List UInt8) :
    bitString (bytes ++ bytes') = bitString bytes ++ bitString bytes' := List.flatMap_append

lemma bitString_singleton (hk : k < 256) : bitString [.ofNat k] = bitsOf 8 k := by
  have hnat : (UInt8.ofNat k).toNat = k := UInt8.toNat_ofNat_of_lt' hk
  rw [bitString_cons, hnat]
  exact List.append_nil _

@[simp] lemma length_bitString (bytes : List UInt8) : (bitString bytes).length = 8 * bytes.length := by
  induction bytes with
  | nil => rfl
  | cons b bytes ih =>
    rw [bitString_cons, List.length_append, length_bitsOf, ih, List.length_cons]
    omega

end Bits

section EncodedBits

variable {e : BitEncoder} {bits : List Nat} {bit n val : Nat}

structure BitEncoder.Holds (e : BitEncoder) (bits : List Nat) : Prop where
  offset_lt : e.offset < 8
  cur_eq : ∃ k < 2 ^ e.offset, e.cur = 2 ^ (8 - e.offset) * k ∧ bits = bitString e.bytes ++ bitsOf e.offset k

lemma BitEncoder.holds_empty : BitEncoder.empty.Holds [] := ⟨by decide, 0, by decide, rfl, rfl⟩

lemma BitEncoder.holds_bytes (bytes : List UInt8) : (BitEncoder.mk bytes 0 0).Holds (bitString bytes) :=
  ⟨Nat.zero_lt_succ 7, 0, Nat.one_pos, rfl, (List.append_nil _).symm⟩

lemma BitEncoder.Holds.packBit (h : e.Holds bits) (hbit : bit < 2) : (e.packBit bit).Holds (bits ++ [bit]) := by
  obtain ⟨bytes, cur, offset⟩ := e
  obtain ⟨hlt, k, hk, hcur, rfl⟩ := h
  dsimp only at hlt hk hcur ⊢
  have hdouble : bitsOf (offset + 1) (2 * k + bit) = bitsOf offset k ++ [bit] := bitsOf_double hbit
  unfold BitEncoder.packBit
  dsimp only
  by_cases hlast : offset = 7
  · rw [if_pos hlast]
    subst hlast
    have hsum : cur + bit = 2 * k + bit := congrArg (· + bit) hcur
    have hsmall : 2 * k + bit < 256 := by omega
    refine ⟨Nat.zero_lt_succ _, 0, Nat.one_pos, rfl, ?_⟩
    rw [hsum, bitString_append, bitString_singleton hsmall, hdouble, bitsOf, List.append_nil, List.append_assoc]
  · rw [if_neg hlast]
    refine ⟨by dsimp only; omega, 2 * k + bit, ?_, ?_, ?_⟩
    · dsimp only
      rw [Nat.pow_succ]
      omega
    · dsimp only
      have hpow : 8 - offset = 7 - offset + 1 := by omega
      have hpow' : 8 - (offset + 1) = 7 - offset := by omega
      rw [hcur, hpow, hpow', Nat.shiftLeft_eq, Nat.pow_succ]
      ring
    · dsimp only
      rw [hdouble, List.append_assoc]

lemma BitEncoder.Holds.pack (h : e.Holds bits) (val n : Nat) : (e.pack val n).Holds (bits ++ bitsOf n val) := by
  induction n generalizing e bits with
  | zero =>
    rw [bitsOf, List.append_nil]
    exact h
  | succ n ih =>
    have hbit := h.packBit (Nat.mod_lt (val >>> n) (by decide : 2 > 0))
    rw [BitEncoder.pack, bitsOf]
    have hrest := ih hbit
    rw [List.append_assoc] at hrest
    exact hrest

lemma BitEncoder.Holds.bitString_data (h : e.Holds bits) : ∃ padding, bitString e.data = bits ++ List.replicate padding 0 := by
  obtain ⟨hlt, k, hk, hcur, rfl⟩ := h
  unfold BitEncoder.data
  by_cases haligned : e.offset = 0
  · rw [if_pos haligned, haligned]
    exact ⟨0, by simp [bitsOf]⟩
  · rw [if_neg haligned]
    have hsplit : 8 = e.offset + (8 - e.offset) := by omega
    have hsmall : e.cur < 256 := by
      have hbyte : 2 ^ (8 - e.offset) * 2 ^ e.offset = 256 := by
        rw [← Nat.pow_add, Nat.sub_add_cancel (Nat.le_of_lt hlt)]
      rw [hcur, ← hbyte]
      exact Nat.mul_lt_mul_of_pos_left hk (Nat.two_pow_pos _)
    have hbits : bitsOf 8 e.cur = bitsOf e.offset k ++ List.replicate (8 - e.offset) 0 := by
      have hshift : e.cur >>> (8 - e.offset) = k := by
        rw [hcur, Nat.shiftRight_eq_div_pow, Nat.mul_div_cancel_left _ (Nat.two_pow_pos _)]
      have hadd := bitsOf_add e.offset (8 - e.offset) e.cur
      rw [← hsplit, hshift] at hadd
      rw [hadd, hcur, bitsOf_two_pow_mul (Nat.le_refl _)]
    refine ⟨8 - e.offset, ?_⟩
    rw [bitString_append, bitString_singleton hsmall, hbits, List.append_assoc]

end EncodedBits

section DecodedBits

variable {d : BitDecoder} {n : Nat}

def BitDecoder.remaining (d : BitDecoder) : List Nat := (bitString d.buffer).drop d.offset

lemma BitDecoder.remaining_ofBytes (bytes : List UInt8) : (BitDecoder.ofBytes bytes).remaining = bitString bytes := rfl

lemma drop_bitsOf_cons {offset : Nat} (h : offset < 8) (val : Nat) :
    (bitsOf 8 val).drop offset = val >>> (7 - offset) % 2 :: (bitsOf 8 val).drop (offset + 1) := by
  match offset, h with
  | 0, _ | 1, _ | 2, _ | 3, _ | 4, _ | 5, _ | 6, _ | 7, _ => rfl

lemma BitDecoder.unpack_eq (hd : d.offset < 8) (n : Nat) : ∃ d', d.unpack n =
    (decide (n ≤ d.remaining.length), bitsValue n d.remaining, d') ∧ d'.offset < 8 ∧
      d'.remaining = d.remaining.drop n := by
  induction n generalizing d with
  | zero => exact ⟨d, by simp [unpack, bitsValue], hd, rfl⟩
  | succ n ih =>
    obtain ⟨buffer, offset, passed⟩ := d
    dsimp only at hd
    cases buffer with
    | nil =>
      refine ⟨⟨[], offset, passed⟩, ?_, hd, ?_⟩
      · simp [unpack, remaining, bitString, bitsValue]
      · simp [remaining, bitString]
    | cons b rest =>
      generalize hnext : (if offset = 7 then (⟨rest, 0, passed + 1⟩ : BitDecoder) else ⟨b :: rest, offset + 1, passed⟩) = next
      have hremaining : (BitDecoder.mk (b :: rest) offset passed).remaining =
          b.toNat >>> (7 - offset) % 2 :: next.remaining := by
        unfold remaining
        dsimp only
        rw [bitString_cons, List.drop_append_of_le_length (by rw [length_bitsOf]; omega), drop_bitsOf_cons hd]
        by_cases hlast : offset = 7
        · rw [if_pos hlast] at hnext
          rw [← hnext, hlast]
          rfl
        · rw [if_neg hlast] at hnext
          rw [← hnext]
          dsimp only
          rw [bitString_cons, List.drop_append_of_le_length (by rw [length_bitsOf]; omega), List.cons_append]
      have hoffset : next.offset < 8 := by
        rw [← hnext]
        split
        · exact Nat.zero_lt_succ _
        · dsimp only
          omega
      obtain ⟨d', heq, hd', hdrop⟩ := ih hoffset
      refine ⟨d', ?_, hd', ?_⟩
      · rw [unpack, hnext, heq, hremaining, bitsValue, List.length_cons]
        simp
      · rw [hremaining, hdrop, List.drop_succ_cons]

end DecodedBits

end OwlsRan.Support
