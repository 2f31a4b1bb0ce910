import OwlsRan.Support.BitEncoding

/-!
# The bit codec, byte by byte

The functions of the codec split a field over the bytes that it touches, with masks and shifts for each. They do what
packing and unpacking bit by bit does.
-/

namespace OwlsRan.Support

namespace ByteCodec

/-- `bit_encoder::pack`, where `val` is below `2 ^ 64` and `cur` is the last byte of the writer. -/
def pack (e : BitEncoder) (val n : Nat) : BitEncoder :=
  if n = 0 then e
  else
    let val := if n < 64 then val &&& (1 <<< n - 1) else val
    if n < 8 - e.offset then
      ⟨e.bytes, (e.cur + (val <<< (8 - e.offset - n)) % 256) % 256, e.offset + n⟩
    else
      pack ⟨e.bytes ++ [.ofNat (e.cur + (val >>> (n + e.offset - 8)) % 256)], 0, 0⟩ val (n - (8 - e.offset))
termination_by (n, e.offset)
decreasing_by
  rcases Nat.lt_or_ge e.offset 8 with h | h
  · exact Prod.Lex.left _ _ (by omega)
  · rw [Nat.sub_eq_zero_of_le h]
    exact Prod.Lex.right _ (by omega)

def packBytes (e : BitEncoder) (bytes : List UInt8) : BitEncoder :=
  if bytes = [] then e
  else if e.offset = 0 then ⟨e.bytes ++ bytes, 0, 0⟩
  else bytes.foldl (fun e b => pack e b.toNat 8) e

def alignBytesZero (e : BitEncoder) : BitEncoder :=
  if e.offset = 0 then e else ⟨e.bytes ++ [.ofNat e.cur], 0, 0⟩

/-- `bit_decoder::advance_bits`. The sums have 32 bits. -/
def advanceBits (d : BitDecoder) (nBits : Nat) : Bool × BitDecoder :=
  let sum := (d.offset + nBits) % 2 ^ 32
  if (sum + 7) % 2 ^ 32 / 8 > d.buffer.length then (false, d)
  else (true, ⟨d.buffer.drop (sum / 8), sum % 8, d.passed + sum / 8⟩)

/-- The loop of `bit_decoder::unpack` into an unsigned type of `w` bits. -/
def unpackLoop (w : Nat) : List UInt8 → Nat → Nat → Nat → Nat → Bool × Nat × BitDecoder
  | [], offset, passed, n, val => (decide (n = 0), val, ⟨[], offset, passed⟩)
  | b :: rest, offset, passed, n, val =>
    if n = 0 then (true, val, ⟨b :: rest, offset, passed⟩)
    else if n < 8 - offset then
      let mask : UInt8 := .ofNat (1 <<< (8 - offset)) - .ofNat (1 <<< (8 - offset - n))
      (true, (val + (b &&& mask).toNat >>> (8 - offset - n)) % 2 ^ w, ⟨b :: rest, offset + n, passed⟩)
    else
      let mask : UInt8 := .ofNat (1 <<< (8 - offset) - 1)
      unpackLoop w rest 0 (passed + 1) (n - (8 - offset)) ((val + (b &&& mask).toNat <<< (n + offset - 8)) % 2 ^ w)

def unpack (w : Nat) (d : BitDecoder) (n : Nat) : Bool × Nat × BitDecoder :=
  unpackLoop w d.buffer d.offset d.passed n 0

/-- The loop of `bit_decoder::unpack_bytes` in the middle of a byte. -/
def unpackEach : Nat → BitDecoder → Bool × List UInt8 × BitDecoder
  | 0, d => (true, [], d)
  | k + 1, d =>
    match unpack 8 d 8 with
    | (false, v, d) => (false, [.ofNat v], d)
    | (true, v, d) =>
      let (ok, bytes, d) := unpackEach k d
      (ok, .ofNat v :: bytes, d)

/-- `bit_decoder::unpack_bytes` into a span of `k` bytes, with the bytes that were stored. -/
def unpackBytes (d : BitDecoder) (k : Nat) : Bool × List UInt8 × BitDecoder :=
  if k = 0 then (true, [], d)
  else if k > d.buffer.length then (false, [], d)
  else if d.offset = 0 then (true, d.buffer.take k, ⟨d.buffer.drop k, 0, d.passed + k⟩)
  else unpackEach k d

end ByteCodec

section Encoder

variable {bytes : List UInt8} {cur offset n m val : Nat}

lemma BitEncoder.pack_inner (h : offset + n < 8) :
    (BitEncoder.mk bytes cur offset).pack val n = ⟨bytes, cur + val % 2 ^ n * 2 ^ (8 - offset - n), offset + n⟩ := by
  induction n generalizing cur offset with
  | zero => simp [pack, Nat.mod_one]
  | succ n ih =>
    have hoffset : offset ≠ 7 := by omega
    have hstep (cur : Nat) : (BitEncoder.mk bytes cur (offset + 1)).pack val n =
        ⟨bytes, cur + val % 2 ^ n * 2 ^ (8 - offset - (n + 1)), offset + (n + 1)⟩ := by
      rw [ih (by omega), Nat.sub_sub, Nat.sub_sub, Nat.add_right_comm, Nat.add_assoc offset n 1]
    have hpow : 2 ^ (7 - offset) = 2 ^ (8 - offset - (n + 1)) * 2 ^ n := by
      rw [← Nat.pow_add]
      congr 1
      omega
    have hmod : val % 2 ^ (n + 1) = val % 2 ^ n + 2 ^ n * (val / 2 ^ n % 2) := Nat.mod_pow_succ
    rw [pack, packBit, if_neg hoffset, hstep, hmod, Nat.shiftLeft_eq, Nat.shiftRight_eq_div_pow, hpow]
    congr 1
    ring

lemma BitEncoder.pack_mod (e : BitEncoder) (h : n ≤ m) : e.pack (val % 2 ^ m) n = e.pack val n := by
  induction n generalizing e with
  | zero => rfl
  | succ n ih =>
    have hbit : (val % 2 ^ m) >>> n % 2 = val >>> n % 2 := by
      obtain ⟨k, rfl⟩ := Nat.exists_eq_add_of_le h
      rw [Nat.shiftRight_eq_div_pow, Nat.shiftRight_eq_div_pow, Nat.add_assoc, Nat.pow_add,
        Nat.mod_mul_right_div_self, Nat.add_comm 1 k, Nat.pow_succ]
      exact Nat.mod_mul_left_mod _ _ _
    rw [pack, pack, hbit, ih _ (Nat.le_of_succ_le h)]

lemma masked_eq (hval : val < 2 ^ 64) (hn : n ≤ 64) : (if n < 64 then val &&& (1 <<< n - 1) else val) = val % 2 ^ n := by
  split
  · rw [Nat.one_shiftLeft, Nat.and_two_pow_sub_one_eq_mod]
  · obtain rfl : n = 64 := by omega
    exact (Nat.mod_eq_of_lt hval).symm

lemma ByteCodec.pack_eq {e : BitEncoder} {bits : List Nat} (he : e.Holds bits) (hval : val < 2 ^ 64) (hn : n ≤ 64) :
    ByteCodec.pack e val n = e.pack val n := by
  induction n using Nat.strong_induction_on generalizing e bits val with
  | _ n ih =>
    obtain ⟨bytes, cur, offset⟩ := e
    obtain ⟨hoffset, k, hk, hcur, hbits⟩ := he
    dsimp only at hoffset hk hcur
    rw [ByteCodec.pack]
    split
    case isTrue hzero =>
      rw [hzero]
      rfl
    case isFalse hpos =>
      rw [masked_eq hval hn]
      dsimp only
      have hmasked : val % 2 ^ n < 2 ^ n := Nat.mod_lt _ (Nat.two_pow_pos n)
      split
      case isTrue hinner =>
        have hsum : cur + val % 2 ^ n * 2 ^ (8 - offset - n) < 256 := by
          have hbyte : 2 ^ (8 - offset) * 2 ^ offset = 256 := by
            rw [← Nat.pow_add, Nat.sub_add_cancel (Nat.le_of_lt hoffset)]
          have hfield : 2 ^ n * 2 ^ (8 - offset - n) = 2 ^ (8 - offset) := by
            rw [← Nat.pow_add]
            congr 1
            omega
          have hlow : val % 2 ^ n * 2 ^ (8 - offset - n) < 2 ^ (8 - offset) := by
            rw [← hfield]
            exact Nat.mul_lt_mul_of_pos_right hmasked (Nat.two_pow_pos _)
          have hhigh : 2 ^ (8 - offset) * (k + 1) ≤ 256 := by
            rw [← hbyte]
            exact Nat.mul_le_mul_left _ hk
          rw [Nat.mul_add_one, ← hcur] at hhigh
          omega
        rw [BitEncoder.pack_inner (by omega), Nat.shiftLeft_eq, Nat.add_mod_mod, Nat.mod_eq_of_lt hsum]
      case isFalse houter =>
        obtain ⟨r, rfl⟩ := Nat.exists_eq_add_of_le (Nat.le_of_not_lt houter)
        have hshift : 8 - offset + r + offset - 8 = r := by omega
        have hrest : 8 - offset + r - (8 - offset) = r := by omega
        have hbits : (val % 2 ^ (8 - offset + r)) >>> r % 256 = val >>> r % 2 ^ (8 - offset) := by
          have hle : 2 ^ (8 - offset) ≤ 256 := Nat.pow_le_pow_right (by decide) (Nat.sub_le _ _)
          have hlt : val / 2 ^ r % 2 ^ (8 - offset) < 2 ^ (8 - offset) := Nat.mod_lt _ (Nat.two_pow_pos _)
          rw [Nat.shiftRight_eq_div_pow, Nat.shiftRight_eq_div_pow, Nat.add_comm, Nat.pow_add,
            Nat.mod_mul_right_div_self, Nat.mod_eq_of_lt (Nat.lt_of_lt_of_le hlt hle)]
        have hbyte : (BitEncoder.mk bytes cur offset).pack (val >>> r) (8 - offset) =
            ⟨bytes ++ [.ofNat (cur + val >>> r % 2 ^ (8 - offset))], 0, 0⟩ := by
          have hlast := @BitEncoder.pack_rest bytes (val >>> r) (7 - offset) (by omega) cur
          have hback : 7 - (7 - offset) = offset := by omega
          have hnext : 7 - offset + 1 = 8 - offset := by omega
          rw [hback, hnext] at hlast
          exact hlast
        have hholds : (BitEncoder.mk (bytes ++ [.ofNat (cur + val >>> r % 2 ^ (8 - offset))]) 0 0).Holds
            (bitString (bytes ++ [.ofNat (cur + val >>> r % 2 ^ (8 - offset))])) :=
          ⟨Nat.zero_lt_succ _, 0, Nat.one_pos, rfl, (List.append_nil _).symm⟩
        rw [hshift, hrest, hbits, ih r (by omega) hholds (Nat.lt_of_le_of_lt (Nat.mod_le _ _) hval) (by omega),
          BitEncoder.pack_mod _ (Nat.le_add_left r _), BitEncoder.pack_add, hbyte]

end Encoder

section Decoder

variable {b : UInt8} {rest : List UInt8} {offset passed n w val : Nat} {d : BitDecoder}

lemma inner_mask (h : offset + n < 8) (hn : n ≠ 0) :
    (b &&& (.ofNat (1 <<< (8 - offset)) - .ofNat (1 <<< (8 - offset - n)))).toNat >>> (8 - offset - n) =
      b.toNat / 2 ^ (8 - offset - n) % 2 ^ n := by
  have hsplit : 2 ^ (8 - offset) = 2 ^ n * 2 ^ (8 - offset - n) := by
    rw [← Nat.pow_add]
    congr 1
    omega
  have hle : 2 ^ (8 - offset) ≤ 256 := Nat.pow_le_pow_right (by decide) (Nat.sub_le _ _)
  have hlow : 2 ^ (8 - offset - n) < 2 ^ (8 - offset) := Nat.pow_lt_pow_right (by decide) (by omega)
  have hpos : 0 < 2 ^ (8 - offset - n) := Nat.two_pow_pos _
  have hmask : (UInt8.ofNat (1 <<< (8 - offset)) - .ofNat (1 <<< (8 - offset - n))).toNat =
      (2 ^ n - 1) * 2 ^ (8 - offset - n) := by
    rw [UInt8.toNat_sub, UInt8.toNat_ofNat', UInt8.toNat_ofNat', Nat.one_shiftLeft, Nat.one_shiftLeft, Nat.sub_mul,
      ← hsplit, Nat.one_mul]
    omega
  rw [UInt8.toNat_and, hmask, Nat.shiftRight_and_distrib, Nat.shiftRight_eq_div_pow, Nat.shiftRight_eq_div_pow,
    Nat.mul_div_cancel _ hpos, Nat.and_two_pow_sub_one_eq_mod]

lemma last_mask :
    (b &&& .ofNat (1 <<< (8 - offset) - 1)).toNat = b.toNat % 2 ^ (8 - offset) := by
  have hle : 2 ^ (8 - offset) ≤ 2 ^ 8 := Nat.pow_le_pow_right (by decide) (Nat.sub_le _ _)
  have hpos : 0 < 2 ^ (8 - offset) := Nat.two_pow_pos _
  rw [UInt8.toNat_and, UInt8.toNat_ofNat', Nat.one_shiftLeft, Nat.mod_eq_of_lt (by omega),
    Nat.and_two_pow_sub_one_eq_mod]

lemma ByteCodec.unpackLoop_eq {buffer : List UInt8} (hoffset : offset < 8) (hval : val < 2 ^ w) :
    ByteCodec.unpackLoop w buffer offset passed n val =
      (((BitDecoder.mk buffer offset passed).unpack n).1,
        (val + ((BitDecoder.mk buffer offset passed).unpack n).2.1) % 2 ^ w,
        ((BitDecoder.mk buffer offset passed).unpack n).2.2) := by
  induction buffer generalizing offset passed n val with
  | nil =>
    rw [unpackLoop]
    cases n with
    | zero => simp [BitDecoder.unpack, Nat.mod_eq_of_lt hval]
    | succ n => simp [BitDecoder.unpack, Nat.mod_eq_of_lt hval]
  | cons b rest ih =>
    rw [unpackLoop]
    split
    case isTrue hzero =>
      rw [hzero]
      simp [BitDecoder.unpack, Nat.mod_eq_of_lt hval]
    case isFalse hpos =>
      split
      case isTrue hinner =>
        have hend : offset + n < 8 := by omega
        dsimp only
        rw [inner_mask hend hpos, BitDecoder.unpack_inner hend]
      case isFalse houter =>
        obtain ⟨r, rfl⟩ := Nat.exists_eq_add_of_le (Nat.le_of_not_lt houter)
        have hshift : 8 - offset + r + offset - 8 = r := by omega
        have hrest : 8 - offset + r - (8 - offset) = r := by omega
        have hback : 7 - (7 - offset) = offset := by omega
        have hnext : 7 - offset + 1 = 8 - offset := by omega
        have hbyte := @BitDecoder.unpack_rest b rest passed (7 - offset) (by omega)
        rw [hback, hnext] at hbyte
        dsimp only
        rw [BitDecoder.unpack_after hbyte, last_mask, hshift, hrest, ih (by decide) (Nat.mod_lt _ (Nat.two_pow_pos w)),
          Nat.mod_add_mod, Nat.shiftLeft_eq, Nat.add_assoc]

lemma ByteCodec.unpack_eq (hoffset : d.offset < 8) (hn : n ≤ w) : ByteCodec.unpack w d n = d.unpack n := by
  have hlt : (d.unpack n).2.1 < 2 ^ w :=
    Nat.lt_of_lt_of_le (BitDecoder.unpack_lt rfl) (Nat.pow_le_pow_right (by decide) hn)
  rw [ByteCodec.unpack, unpackLoop_eq hoffset (Nat.two_pow_pos w), Nat.zero_add, Nat.mod_eq_of_lt hlt]

end Decoder

end OwlsRan.Support
