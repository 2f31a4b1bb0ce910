import OwlsRan.Support.BitFields
import OwlsRan.Support.ByteCodec

/-!
# Round trips of the bit codec

What a sequence of operations writes from any bit on, the matching sequence reads back.
-/

namespace OwlsRan.Support

namespace BitDecoder

structure Inside (d : BitDecoder) : Prop where
  offset_lt : d.offset < 8
  current : d.offset ≠ 0 → d.buffer ≠ []

def moved (d : BitDecoder) (n : Nat) : BitDecoder :=
  ⟨d.buffer.drop ((d.offset + n) / 8), (d.offset + n) % 8, d.passed + (d.offset + n) / 8⟩

def exhausted (d : BitDecoder) : BitDecoder := ⟨[], 0, d.passed + d.buffer.length⟩

variable {d : BitDecoder} {m n k : Nat}

lemma moved_moved (d : BitDecoder) (m n : Nat) : (d.moved m).moved n = d.moved (m + n) := by
  simp only [moved, List.drop_drop, mk.injEq]
  refine ⟨?_, by omega, by omega⟩
  congr 1
  omega

lemma Inside.le (hd : d.Inside) : d.offset ≤ 8 * d.buffer.length := by
  by_cases hzero : d.offset = 0
  · omega
  · have hpos := List.length_pos_iff.mpr (hd.current hzero)
    have hlt := hd.offset_lt
    omega

lemma length_remaining (d : BitDecoder) : d.remaining.length = 8 * d.buffer.length - d.offset := by
  rw [remaining, List.length_drop, length_bitString]

lemma Inside.moved (hd : d.Inside) (h : n ≤ d.remaining.length) : (d.moved n).Inside := by
  have hle := hd.le
  rw [length_remaining] at h
  refine ⟨Nat.mod_lt _ (by decide), fun hne => ?_⟩
  apply List.length_pos_iff.mp
  change (d.offset + n) % 8 ≠ 0 at hne
  rw [BitDecoder.moved, List.length_drop]
  omega

lemma length_remaining_moved (hd : d.Inside) (m : Nat) :
    (d.moved m).remaining.length = d.remaining.length - m := by
  have hle := hd.le
  rw [length_remaining, length_remaining, BitDecoder.moved, List.length_drop]
  dsimp only
  omega

lemma exhausted_moved (hd : d.Inside) (h : m ≤ d.remaining.length) : (d.moved m).exhausted = d.exhausted := by
  have hle := hd.le
  rw [length_remaining] at h
  unfold exhausted BitDecoder.moved
  congr 1
  dsimp only
  rw [List.length_drop]
  omega

lemma moved_one {b : UInt8} {rest : List UInt8} {offset passed : Nat} (h : offset < 8) :
    (if offset = 7 then (⟨rest, 0, passed + 1⟩ : BitDecoder) else ⟨b :: rest, offset + 1, passed⟩) =
      (mk (b :: rest) offset passed).moved 1 := by
  unfold BitDecoder.moved
  split
  case isTrue hlast => simp [hlast]
  case isFalse hinner =>
    have hdiv : (offset + 1) / 8 = 0 := by omega
    have hmod : (offset + 1) % 8 = offset + 1 := by omega
    simp [hdiv, hmod]

lemma unpack_moved (hd : d.Inside) (n : Nat) :
    (d.unpack n).2.2 = if n ≤ d.remaining.length then d.moved n else d.exhausted := by
  induction n generalizing d with
  | zero =>
    rw [if_pos (Nat.zero_le _)]
    have hlt := hd.offset_lt
    simp [unpack, BitDecoder.moved, Nat.div_eq_of_lt hlt, Nat.mod_eq_of_lt hlt]
  | succ n ih =>
    obtain ⟨buffer, offset, passed⟩ := d
    cases buffer with
    | nil =>
      obtain rfl : offset = 0 := Nat.le_zero.mp hd.le
      rw [if_neg (by simp [length_remaining])]
      rfl
    | cons b rest =>
      have hone : 1 ≤ (mk (b :: rest) offset passed).remaining.length := by
        have hlt := hd.offset_lt
        rw [length_remaining, List.length_cons]
        dsimp only at hlt ⊢
        omega
      rw [unpack, moved_one hd.offset_lt]
      dsimp only
      rw [ih (hd.moved hone), length_remaining_moved hd, exhausted_moved hd hone, moved_moved, Nat.add_comm 1 n]
      congr 1
      apply propext
      omega

lemma unpack_spec (hd : d.Inside) (n : Nat) :
    d.unpack n = (decide (n ≤ d.remaining.length), bitsValue n d.remaining,
      if n ≤ d.remaining.length then d.moved n else d.exhausted) := by
  obtain ⟨d', heq, -⟩ := d.unpack_eq hd.offset_lt n
  have hmoved := unpack_moved hd n
  rw [heq] at hmoved ⊢
  rw [← hmoved]

lemma remaining_moved (hd : d.Inside) (h : n ≤ d.remaining.length) : (d.moved n).remaining = d.remaining.drop n := by
  obtain ⟨d', heq, -, hdrop⟩ := d.unpack_eq hd.offset_lt n
  have hspec := unpack_spec hd n
  rw [if_pos h, heq] at hspec
  rw [← hdrop, (Prod.mk.inj (Prod.mk.inj hspec).2).2]

lemma inside_exhausted (d : BitDecoder) : d.exhausted.Inside := ⟨Nat.zero_lt_succ 7, fun h => (h rfl).elim⟩

lemma alignBytes_eq (hd : d.Inside) : d.alignBytes = d.moved ((8 - d.offset) % 8) := by
  obtain ⟨buffer, offset, passed⟩ := d
  have hlt := hd.offset_lt
  dsimp only at hlt
  unfold alignBytes BitDecoder.moved
  dsimp only
  split
  case isTrue hne =>
    have hdiv : (offset + (8 - offset) % 8) / 8 = 1 := by omega
    have hmod : (offset + (8 - offset) % 8) % 8 = 0 := by omega
    rw [hdiv, hmod, List.drop_one]
  case isFalse hzero =>
    obtain rfl : offset = 0 := by simpa using hzero
    rfl

lemma align_le (hd : d.Inside) : (8 - d.offset) % 8 ≤ d.remaining.length := by
  have hlt := hd.offset_lt
  have hcurrent := hd.current
  rw [length_remaining]
  by_cases hzero : d.offset = 0
  · rw [hzero]
    exact Nat.zero_le _
  · have hpos := List.length_pos_iff.mpr (hcurrent hzero)
    omega

end BitDecoder

namespace ByteCodec

variable {d : BitDecoder} {k : Nat}

lemma unpackEach_spec (hd : d.Inside) (k : Nat) :
    (unpackEach k d).1 = decide (8 * k ≤ d.remaining.length) ∧
      (unpackEach k d).2.2 = (if 8 * k ≤ d.remaining.length then d.moved (8 * k) else d.exhausted) ∧
      ∀ bytes bits, bytes.length = k → d.remaining = bitString bytes ++ bits → (unpackEach k d).2.1 = bytes := by
  induction k generalizing d with
  | zero =>
    have hzero : 8 * 0 ≤ d.remaining.length := Nat.zero_le _
    have hspec := d.unpack_moved hd 0
    rw [if_pos (Nat.zero_le _)] at hspec
    rw [if_pos hzero, decide_eq_true hzero, Nat.mul_zero, ← hspec]
    exact ⟨rfl, rfl, fun bytes bits hlen _ => (List.length_eq_zero_iff.mp hlen).symm⟩
  | succ k ih =>
    have hspec := d.unpack_spec hd 8
    rw [← unpack_eq hd.offset_lt (Nat.le_refl 8)] at hspec
    by_cases hbyte : 8 ≤ d.remaining.length
    · have hlen := BitDecoder.length_remaining_moved hd 8
      obtain ⟨hok, hend, hbytes⟩ := ih (hd.moved hbyte)
      rw [if_pos hbyte, decide_eq_true hbyte] at hspec
      have heach : unpackEach (k + 1) d = ((unpackEach k (d.moved 8)).1,
          .ofNat (bitsValue 8 d.remaining) :: (unpackEach k (d.moved 8)).2.1, (unpackEach k (d.moved 8)).2.2) := by
        rw [unpackEach, hspec]
      rw [heach]
      refine ⟨?_, ?_, fun bytes bits hlength hbits => ?_⟩
      · rw [hok, hlen]
        apply decide_eq_decide.mpr
        omega
      · have hcond : 8 * k ≤ d.remaining.length - 8 ↔ 8 * (k + 1) ≤ d.remaining.length := by omega
        have hbits : 8 + 8 * k = 8 * (k + 1) := by omega
        rw [hend, hlen, BitDecoder.exhausted_moved hd hbyte, BitDecoder.moved_moved, hbits]
        exact if_congr hcond rfl rfl
      · cases bytes with
        | nil => cases hlength
        | cons b bytes =>
          rw [bitString_cons, List.append_assoc] at hbits
          have hrest : (d.moved 8).remaining = bitString bytes ++ bits := by
            rw [BitDecoder.remaining_moved hd hbyte, hbits]
            exact List.drop_left' (length_bitsOf)
          have hvalue : UInt8.ofNat (bitsValue 8 d.remaining) = b := by
            rw [hbits, bitsValue_bitsOf, Nat.mod_eq_of_lt b.toNat_lt, UInt8.ofNat_toNat]
          rw [hvalue, hbytes bytes bits (Nat.succ.inj hlength) hrest]
    · have hshort : ¬8 * (k + 1) ≤ d.remaining.length := by omega
      rw [if_neg hbyte, decide_eq_false hbyte] at hspec
      have heach : unpackEach (k + 1) d = (false, [.ofNat (bitsValue 8 d.remaining)], d.exhausted) := by
        rw [unpackEach, hspec]
      rw [heach, if_neg hshort, decide_eq_false hshort]
      refine ⟨rfl, rfl, fun bytes bits hlength hbits => ?_⟩
      have hlen := congrArg List.length hbits
      rw [List.length_append, length_bitString] at hlen
      omega

lemma unpackEach_aligned {buffer : List UInt8} {passed : Nat} (h : k ≤ buffer.length) :
    unpackEach k ⟨buffer, 0, passed⟩ = (true, buffer.take k, ⟨buffer.drop k, 0, passed + k⟩) := by
  induction k generalizing buffer passed with
  | zero => rfl
  | succ k ih =>
    cases buffer with
    | nil => exact absurd h (Nat.not_succ_le_zero k)
    | cons b rest =>
      have hbyte : unpack 8 ⟨b :: rest, 0, passed⟩ 8 = (true, b.toNat, ⟨rest, 0, passed + 1⟩) := by
        rw [unpack_eq (Nat.zero_lt_succ 7) (Nat.le_refl 8), BitDecoder.unpack_byte]
      rw [unpackEach, hbyte]
      dsimp only
      rw [ih (Nat.le_of_succ_le_succ h), UInt8.ofNat_toNat, List.take_succ_cons, List.drop_succ_cons, Nat.add_assoc,
        Nat.add_comm 1 k]

lemma unpackBytes_eq (hd : d.Inside) (k : Nat) :
    unpackBytes d k = if d.buffer.length < k then (false, [], d) else unpackEach k d := by
  unfold unpackBytes
  split
  case isTrue hzero =>
    rw [hzero, if_neg (Nat.not_lt_zero _)]
    rfl
  case isFalse hpos =>
    split
    case isTrue => rfl
    case isFalse hfits =>
      split
      case isTrue haligned =>
        obtain ⟨buffer, offset, passed⟩ := d
        obtain rfl : offset = 0 := haligned
        rw [unpackEach_aligned (Nat.le_of_not_lt hfits)]
      case isFalse => rfl

section Encoder

variable {e : BitEncoder} {bits : List Nat}

lemma length_of_holds (he : e.Holds bits) : bits.length = 8 * e.bytes.length + e.offset := by
  obtain ⟨-, k, -, -, rfl⟩ := he
  rw [List.length_append, length_bitString, length_bitsOf]

lemma holds_pack (he : e.Holds bits) (val : UInt64) {n : Nat} (hn : n ≤ 64) :
    (pack e val.toNat n).Holds (bits ++ bitsOf n val.toNat) := by
  rw [pack_eq he val.toNat_lt hn]
  exact he.pack val.toNat n

lemma holds_packBytes (he : e.Holds bits) (bytes : List UInt8) : (packBytes e bytes).Holds (bits ++ bitString bytes) := by
  have hpack (e : BitEncoder) (bits : List Nat) (b : UInt8) (he : e.Holds bits) :
      (pack e b.toNat 8).Holds (bits ++ bitsOf 8 b.toNat) := by
    have hlt := b.toNat_lt
    have hval : b.toNat < 2 ^ 64 := by omega
    rw [pack_eq he hval (by omega)]
    exact he.pack b.toNat 8
  have hfold := @BitEncoder.Holds.foldl e bits UInt8 (fun e b => pack e b.toNat 8) (fun b => bitsOf 8 b.toNat) hpack he bytes
  unfold packBytes
  split
  case isTrue hnil =>
    rw [hnil] at hfold ⊢
    exact hfold
  case isFalse =>
    split
    case isTrue haligned =>
      obtain ⟨-, k, hk, -, rfl⟩ := he
      rw [haligned, bitsOf, List.append_nil, ← bitString_append]
      exact BitEncoder.holds_bytes _
    case isFalse => exact hfold

lemma holds_alignBytesZero (he : e.Holds bits) :
    (alignBytesZero e).Holds (bits ++ List.replicate ((8 - e.offset) % 8) 0) := by
  have hlen := length_of_holds he
  have hlt := he.offset_lt
  obtain ⟨padding, hdata⟩ := he.bitString_data
  have hlength := congrArg List.length hdata
  rw [length_bitString, List.length_append, List.length_replicate] at hlength
  unfold BitEncoder.data at hdata hlength
  unfold alignBytesZero
  split
  case isTrue haligned =>
    rw [haligned, Nat.sub_zero, Nat.mod_self, List.replicate_zero, List.append_nil]
    exact he
  case isFalse hne =>
    rw [if_neg hne] at hdata hlength
    have hpadding : (8 - e.offset) % 8 = padding := by
      rw [List.length_append, List.length_singleton] at hlength
      omega
    rw [hpadding, ← hdata]
    exact BitEncoder.holds_bytes _

end Encoder

inductive WriteOp
  | pack (val : UInt64) (n : Nat)
  | packBytes (bytes : List UInt8)
  | align

/-- An operation of the decoder; a field goes into a type of `w` bits. -/
inductive ReadOp
  | unpack (w n : Nat)
  | unpackBytes (k : Nat)
  | unpackAlignedBytes (k : Nat)
  | align

inductive Item
  | field (val : Nat)
  | bytes (bytes : List UInt8)
  | aligned

def write (e : BitEncoder) : WriteOp → BitEncoder
  | .pack val n => pack e val.toNat n
  | .packBytes bytes => packBytes e bytes
  | .align => alignBytesZero e

def read (d : BitDecoder) : ReadOp → Bool × Item × BitDecoder
  | .unpack w n => let r := unpack w d n; (r.1, .field r.2.1, r.2.2)
  | .unpackBytes k => let r := unpackBytes d k; (r.1, .bytes r.2.1, r.2.2)
  | .unpackAlignedBytes k => let r := d.unpackAlignedBytes k; (decide (r.1.length = k), .bytes r.1, r.2)
  | .align => (true, .aligned, d.alignBytes)

def WriteOp.item : WriteOp → Item
  | .pack val n => .field (val.toNat % 2 ^ n)
  | .packBytes bytes => .bytes bytes
  | .align => .aligned

def WriteOp.bits (offset : Nat) : WriteOp → List Nat
  | .pack val n => bitsOf n val.toNat
  | .packBytes bytes => bitString bytes
  | .align => List.replicate ((8 - offset) % 8) 0

inductive Matches (e : BitEncoder) : WriteOp → ReadOp → Prop
  | field (val : UInt64) {n w : Nat} (hn : n ≤ 64) (hw : n ≤ w) : Matches e (.pack val n) (.unpack w n)
  | bytes (bytes : List UInt8) : Matches e (.packBytes bytes) (.unpackBytes bytes.length)
  | alignedBytes (bytes : List UInt8) (h : e.offset = 0) :
      Matches e (.packBytes bytes) (.unpackAlignedBytes bytes.length)
  | align : Matches e .align .align

inductive MatchAll : BitEncoder → List WriteOp → List ReadOp → Prop
  | nil (e : BitEncoder) : MatchAll e [] []
  | cons {e : BitEncoder} {op : WriteOp} {r : ReadOp} {ops : List WriteOp} {rs : List ReadOp} (h : Matches e op r)
      (hs : MatchAll (write e op) ops rs) : MatchAll e (op :: ops) (r :: rs)

inductive ReadsAll : BitDecoder → List ReadOp → List Item → Prop
  | nil (d : BitDecoder) : ReadsAll d [] []
  | cons {d d' : BitDecoder} {r : ReadOp} {item : Item} {rs : List ReadOp} {items : List Item}
      (h : read d r = (true, item, d')) (hs : ReadsAll d' rs items) : ReadsAll d (r :: rs) (item :: items)

def allBits : BitEncoder → List WriteOp → List Nat
  | _, [] => []
  | e, op :: ops => op.bits e.offset ++ allBits (write e op) ops

section RoundTrip

variable {e : BitEncoder} {bits tail : List Nat} {op : WriteOp} {r : ReadOp} {ops : List WriteOp} {rs : List ReadOp}

lemma holds_write (he : e.Holds bits) (h : Matches e op r) : (write e op).Holds (bits ++ op.bits e.offset) := by
  cases h with
  | field val hn hw => exact holds_pack he val hn
  | bytes bytes => exact holds_packBytes he bytes
  | alignedBytes bytes h => exact holds_packBytes he bytes
  | align => exact holds_alignBytesZero he

lemma holds_writeAll (he : e.Holds bits) (h : MatchAll e ops rs) : (ops.foldl write e).Holds (bits ++ allBits e ops) := by
  induction h generalizing bits with
  | nil e =>
    rw [allBits, List.append_nil]
    exact he
  | cons h _ ih =>
    rw [allBits, ← List.append_assoc]
    exact ih (holds_write he h)

lemma unpackAlignedBytes_eq (h : d.offset = 0) (hk : k ≤ d.buffer.length) :
    d.unpackAlignedBytes k = (unpackEach k d).2 := by
  obtain ⟨buffer, offset, passed⟩ := d
  obtain rfl : offset = 0 := h
  rw [unpackEach_aligned hk]
  cases k with
  | zero => rfl
  | succ k => exact if_neg (Nat.not_lt_of_le hk)

lemma read_matching (h : Matches e op r) (hd : d.Inside) (hoffset : d.offset = e.offset)
    (hbits : d.remaining = op.bits e.offset ++ tail) :
    read d r = (true, op.item, d.moved (op.bits e.offset).length) := by
  have hle : (op.bits e.offset).length ≤ d.remaining.length := by
    rw [hbits, List.length_append]
    exact Nat.le_add_right _ _
  have hbytes {bytes : List UInt8} (hbits : d.remaining = bitString bytes ++ tail) :
      bytes.length ≤ d.buffer.length ∧
        unpackEach bytes.length d = (true, bytes, d.moved (bitString bytes).length) := by
    have hlen := congrArg List.length hbits
    have hle := hd.le
    rw [BitDecoder.length_remaining, List.length_append, length_bitString] at hlen
    have hfits : 8 * bytes.length ≤ d.remaining.length := by
      rw [BitDecoder.length_remaining]
      omega
    obtain ⟨hok, hend, hvalues⟩ := unpackEach_spec hd bytes.length
    rw [if_pos hfits] at hend
    rw [decide_eq_true hfits] at hok
    rw [length_bitString]
    exact ⟨by omega, Prod.ext hok (Prod.ext (hvalues bytes tail rfl hbits) hend)⟩
  cases h with
  | @field val n w hn hw =>
    have hlen : (WriteOp.bits e.offset (.pack val n)).length = n := length_bitsOf
    rw [hlen] at hle ⊢
    rw [read, unpack_eq hd.offset_lt hw, BitDecoder.unpack_spec hd, if_pos hle, decide_eq_true hle, hbits,
      WriteOp.bits, bitsValue_bitsOf]
    rfl
  | bytes bytes =>
    obtain ⟨hfits, heach⟩ := hbytes hbits
    rw [read, unpackBytes_eq hd, if_neg (Nat.not_lt_of_le hfits), heach]
    rfl
  | alignedBytes bytes haligned =>
    obtain ⟨hfits, heach⟩ := hbytes hbits
    rw [read, unpackAlignedBytes_eq (hoffset.trans haligned) hfits, heach]
    simp [WriteOp.item, WriteOp.bits]
  | align =>
    rw [read, BitDecoder.alignBytes_eq hd, hoffset, WriteOp.bits, List.length_replicate]
    rfl

lemma readsAll_matching (he : e.Holds bits) (h : MatchAll e ops rs) (hd : d.Inside) (hoffset : d.offset = e.offset)
    (hbits : d.remaining = allBits e ops ++ tail) : ReadsAll d rs (ops.map WriteOp.item) := by
  induction h generalizing bits d with
  | nil e => exact .nil d
  | @cons e op r ops rs h hs ih =>
    rw [allBits, List.append_assoc] at hbits
    have hle : (op.bits e.offset).length ≤ d.remaining.length := by
      rw [hbits, List.length_append]
      exact Nat.le_add_right _ _
    have hnext := holds_write he h
    apply ReadsAll.cons (read_matching h hd hoffset hbits)
    apply ih hnext (hd.moved hle)
    · have hlen := length_of_holds he
      have hlen' := length_of_holds hnext
      have hlt := hnext.offset_lt
      rw [List.length_append] at hlen'
      change (d.offset + (op.bits e.offset).length) % 8 = _
      omega
    · rw [BitDecoder.remaining_moved hd hle, hbits]
      exact List.drop_left

lemma round_trip (he : e.Holds bits) (h : MatchAll e ops rs) (rest : List UInt8) :
    ReadsAll ((BitDecoder.ofBytes ((ops.foldl write e).data ++ rest)).moved bits.length) rs (ops.map WriteOp.item) := by
  obtain ⟨padding, hdata⟩ := (holds_writeAll he h).bitString_data
  have hinside : (BitDecoder.ofBytes ((ops.foldl write e).data ++ rest)).Inside :=
    ⟨Nat.zero_lt_succ 7, fun hne => (hne rfl).elim⟩
  have hremaining : (BitDecoder.ofBytes ((ops.foldl write e).data ++ rest)).remaining =
      bits ++ (allBits e ops ++ (List.replicate padding 0 ++ bitString rest)) := by
    rw [BitDecoder.remaining_ofBytes, bitString_append, hdata]
    simp only [List.append_assoc]
  have hle : bits.length ≤ (BitDecoder.ofBytes ((ops.foldl write e).data ++ rest)).remaining.length := by
    rw [hremaining, List.length_append]
    exact Nat.le_add_right _ _
  apply readsAll_matching he h (hinside.moved hle)
  · have hlen := length_of_holds he
    have hlt := he.offset_lt
    change (0 + bits.length) % 8 = _
    omega
  · rw [BitDecoder.remaining_moved hinside hle, hremaining]
    exact List.drop_left

end RoundTrip

def StaysInside (d d' : BitDecoder) : Prop :=
  d'.Inside ∧ d'.passed + d'.buffer.length = d.passed + d.buffer.length

/-- What the codec should do, with `unpack_bytes` called for `k` bytes at a place of a buffer. -/
structure CodecRight (d : BitDecoder) (k : Nat) : Prop where
  roundTrip : ∀ (e : BitEncoder) (bits : List Nat) (ops : List WriteOp) (rs : List ReadOp) (rest : List UInt8),
    e.Holds bits → MatchAll e ops rs →
      ReadsAll ((BitDecoder.ofBytes ((ops.foldl write e).data ++ rest)).moved bits.length) rs (ops.map WriteOp.item)
  advances : ∀ n w, n ≤ 64 → n ≤ w → (advanceBits d n).1 = (unpack w d n).1 ∧
    ((unpack w d n).1 = true → (advanceBits d n).2 = (unpack w d n).2.2)
  staysInside : ∀ n w, n ≤ 64 → n ≤ w → StaysInside d (advanceBits d n).2 ∧ StaysInside d (unpack w d n).2.2
  staysInsideBytes : ∀ n, StaysInside d (unpackBytes d n).2.2 ∧ StaysInside d (d.unpackAlignedBytes n).2 ∧
    StaysInside d d.alignBytes
  unchanged : (unpackBytes d k).1 = false → (unpackBytes d k).2.2 = d

section Decoder

variable {n w : Nat}

lemma staysInside_moved (hd : d.Inside) (h : n ≤ d.remaining.length) : StaysInside d (d.moved n) := by
  have hle := hd.le
  refine ⟨hd.moved h, ?_⟩
  rw [BitDecoder.length_remaining] at h
  rw [BitDecoder.moved, List.length_drop]
  dsimp only
  omega

lemma staysInside_exhausted (d : BitDecoder) : StaysInside d d.exhausted := ⟨d.inside_exhausted, rfl⟩

lemma staysInside_self (hd : d.Inside) : StaysInside d d := ⟨hd, rfl⟩

lemma advanceBits_eq (hd : d.Inside) (hn : n ≤ 64) :
    advanceBits d n = (decide (n ≤ d.remaining.length), if n ≤ d.remaining.length then d.moved n else d) := by
  have hlt := hd.offset_lt
  have hle := hd.le
  have hsum : (d.offset + n) % 2 ^ 32 = d.offset + n := Nat.mod_eq_of_lt (by omega)
  have hround : (d.offset + n + 7) % 2 ^ 32 = d.offset + n + 7 := Nat.mod_eq_of_lt (by omega)
  unfold advanceBits
  dsimp only
  rw [hsum, hround, BitDecoder.length_remaining]
  split
  case isTrue hlong =>
    have hshort : ¬n ≤ 8 * d.buffer.length - d.offset := by omega
    rw [decide_eq_false hshort, if_neg hshort]
  case isFalse hfits =>
    have hroom : n ≤ 8 * d.buffer.length - d.offset := by omega
    rw [decide_eq_true hroom, if_pos hroom]
    rfl

lemma staysInside_unpackEach (hd : d.Inside) (k : Nat) : StaysInside d (unpackEach k d).2.2 := by
  rw [(unpackEach_spec hd k).2.1]
  split
  case isTrue h => exact staysInside_moved hd h
  case isFalse => exact staysInside_exhausted d

lemma staysInside_unpackBytes (hd : d.Inside) (k : Nat) : StaysInside d (unpackBytes d k).2.2 := by
  rw [unpackBytes_eq hd]
  split
  · exact staysInside_self hd
  · exact staysInside_unpackEach hd k

lemma staysInside_alignBytes (hd : d.Inside) : StaysInside d d.alignBytes := by
  rw [BitDecoder.alignBytes_eq hd]
  exact staysInside_moved hd (BitDecoder.align_le hd)

lemma staysInside_unpackAlignedBytes (hd : d.Inside) (k : Nat) : StaysInside d (d.unpackAlignedBytes k).2 := by
  obtain ⟨halign, hsize⟩ := staysInside_alignBytes hd
  unfold BitDecoder.unpackAlignedBytes
  dsimp only
  split
  · exact ⟨halign, hsize⟩
  · split
    · exact ⟨halign, hsize⟩
    · refine ⟨⟨Nat.zero_lt_succ 7, fun h => (h rfl).elim⟩, ?_⟩
      rw [List.length_drop]
      dsimp only
      omega

/-- A failing `unpack_bytes` runs to the end of the buffer exactly when its check counts the current byte as a whole. -/
lemma unchanged_iff (hd : d.Inside) (k : Nat) : ((unpackBytes d k).1 = false → (unpackBytes d k).2.2 = d) ↔
    ¬(d.offset ≠ 0 ∧ 0 < k ∧ k = d.buffer.length) := by
  have hlt := hd.offset_lt
  have hle := hd.le
  have hlen := d.length_remaining
  obtain ⟨hok, hend, -⟩ := unpackEach_spec hd k
  rw [unpackBytes_eq hd]
  split
  case isTrue hlong => exact iff_of_true (fun _ => rfl) (by omega)
  case isFalse hfits =>
    rw [hok]
    by_cases hroom : 8 * k ≤ d.remaining.length
    · rw [decide_eq_true hroom]
      exact iff_of_true nofun (by omega)
    · rw [decide_eq_false hroom, hend, if_neg hroom]
      refine iff_of_false (fun h => ?_) fun h => h (by omega)
      have hbuffer := congrArg (fun d => d.buffer.length) (h rfl)
      change 0 = d.buffer.length at hbuffer
      omega

end Decoder

/-- The codec does what it should unless `unpack_bytes` is called in the middle of a byte for as many bytes as there are
from the current one on. -/
theorem codec_right_iff (hd : d.Inside) (k : Nat) :
    CodecRight d k ↔ ¬(d.offset ≠ 0 ∧ 0 < k ∧ k = d.buffer.length) := by
  rw [← unchanged_iff hd k]
  refine ⟨fun h => h.unchanged, fun h => ⟨fun e bits ops rs rest he hops => round_trip he hops rest,
    fun n w hn hw => ?_, fun n w hn hw => ?_, fun n => ?_, h⟩⟩
  · rw [advanceBits_eq hd hn, unpack_eq hd.offset_lt hw, BitDecoder.unpack_spec hd]
    refine ⟨rfl, fun hroom => ?_⟩
    rw [if_pos (of_decide_eq_true hroom), if_pos (of_decide_eq_true hroom)]
  · rw [advanceBits_eq hd hn, unpack_eq hd.offset_lt hw, BitDecoder.unpack_spec hd]
    by_cases hroom : n ≤ d.remaining.length
    · rw [if_pos hroom, if_pos hroom]
      exact ⟨staysInside_moved hd hroom, staysInside_moved hd hroom⟩
    · rw [if_neg hroom, if_neg hroom]
      exact ⟨staysInside_self hd, staysInside_exhausted d⟩
  · exact ⟨staysInside_unpackBytes hd n, staysInside_unpackAlignedBytes hd n, staysInside_alignBytes hd⟩

/-- Two bytes in the middle of the first of four. -/
theorem codec_right_two_bytes : CodecRight ⟨[0xaa, 1, 2, 3], 3, 0⟩ 2 :=
  (codec_right_iff ⟨by decide, fun _ => List.cons_ne_nil _ _⟩ 2).mpr (by decide)

/-- One byte is asked for behind the first bit of the last byte. The call fails, and the decoder is at the end. -/
theorem codec_not_right : ¬CodecRight ⟨[0xaa], 1, 0⟩ 1 := by
  intro h
  have hend := h.unchanged (by decide)
  revert hend
  decide

end ByteCodec

end OwlsRan.Support
