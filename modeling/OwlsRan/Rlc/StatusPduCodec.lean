import Mathlib.Algebra.GroupWithZero.Nat
import OwlsRan.Rlc.RlcAmStatusPdu
import Mathlib.Data.List.Chain
import Mathlib.Data.Set.Basic

/-!
# The STATUS PDU codec

`packed_size` follows the list of NACKs, no two neighbours of the list can be merged, and so `unpack` pushes the NACKs
that `pack` has written without merging any.
-/

namespace OwlsRan.Rlc
open OwlsRan.Lib

namespace RlcAmStatusNack

/-- The missing positions that a NACK denotes: pairs of an SN and a byte offset. The end of an SDU is not known to the
receiver, and `so_end_of_sdu` stands for every offset from the first one on. -/
def missing (modulus : Nat) (n : RlcAmStatusNack) : Set (Nat × Nat) :=
  {p | ∃ i < n.range, p.1 = (n.nackSn + i) % modulus ∧
    (n.hasSo → i = 0 → n.soStart.toNat ≤ p.2) ∧
    (n.hasSo → i + 1 = n.range → n.soEnd ≠ soEndOfSdu → p.2 ≤ n.soEnd.toNat)}

def received (n : RlcAmStatusNack) : RlcAmStatusNack :=
  { n with
    soStart := if n.hasSo then n.soStart else 0
    soEnd := if n.hasSo then n.soEnd else soEndOfSdu
    nackRange := if n.hasNackRange then n.nackRange else 0 }

lemma range_received (n : RlcAmStatusNack) : n.received.range = n.range := by
  unfold range received
  cases n.hasNackRange <;> rfl

lemma missing_received (modulus : Nat) (n : RlcAmStatusNack) : n.received.missing modulus = n.missing modulus := by
  unfold missing
  rw [range_received]
  cases hso : n.hasSo <;> simp [received, hso]

end RlcAmStatusNack

namespace RlcAmStatusPdu

def missing (pdu : RlcAmStatusPdu) : Set (Nat × Nat) := {p | ∃ n ∈ pdu.nacks, p ∈ n.missing pdu.modNr}

/-- `packed_size` is in sync with the NACKs, and no NACK can be merged into the one before. -/
structure InSync (pdu : RlcAmStatusPdu) : Prop where
  packedSize : pdu.packedSize = sizeofHeaderAckSn + (pdu.nacks.map (nackSize pdu.snSize)).sum
  apart : pdu.nacks.IsChain fun left right => canBeMerged pdu.modNr left right = false
  sns : ∀ n ∈ pdu.nacks, n.nackSn < pdu.modNr

section Merging

variable {modNr : Nat} {prev nack left : RlcAmStatusNack}

@[simp] lemma mergedRange_nackSn : (mergedRange prev nack).nackSn = prev.nackSn := by
  unfold mergedRange
  split <;> split <;> rfl

@[simp] lemma mergedRange_hasSo : (mergedRange prev nack).hasSo = prev.hasSo := by
  unfold mergedRange
  split <;> split <;> rfl

@[simp] lemma mergedRange_soStart : (mergedRange prev nack).soStart = prev.soStart := by
  unfold mergedRange
  split <;> split <;> rfl

@[simp] lemma merge_nackSn : (merge prev nack).nackSn = prev.nackSn := by
  unfold merge mergedSo
  split <;> split <;> exact mergedRange_nackSn

lemma merge_range (h : prev.range + nack.range ≤ 255) : (merge prev nack).range = prev.range + nack.range := by
  have hso : (merge prev nack).range = (mergedRange prev nack).range := by
    unfold merge mergedSo
    split <;> split <;> rfl
  rw [hso]
  unfold RlcAmStatusNack.range mergedRange at *
  cases hnack : nack.hasNackRange <;> cases hprev : prev.hasNackRange <;>
    simp only [hnack, hprev, Bool.false_eq_true, if_true, if_false] at h ⊢
  · rfl
  · rw [UInt8.toNat_add]
    change (prev.nackRange.toNat + 1) % 256 = _
    omega
  · rw [UInt8.toNat_add]
    change (nack.nackRange.toNat + 1) % 256 = _
    omega
  · rw [UInt8.toNat_add]
    omega

lemma merge_so (nack : RlcAmStatusNack) (hso : prev.hasSo = true) :
    (merge prev nack).hasSo = true ∧ (merge prev nack).soStart = prev.soStart := by
  unfold merge mergedSo
  rw [mergedRange_hasSo, if_pos hso, if_pos hso]
  split
  · exact ⟨hso, mergedRange_soStart⟩
  · exact ⟨hso, mergedRange_soStart⟩

lemma canBeMerged_iff : canBeMerged modNr left nack = true ↔
    nack.nackSn = (if left.hasNackRange then left.nackSn + left.nackRange.toNat else left.nackSn + 1) % modNr ∧
    (left.hasSo = true → left.soEnd = RlcAmStatusNack.soEndOfSdu) ∧ (nack.hasSo = true → nack.soStart = 0) ∧
    left.range + nack.range ≤ 255 := by
  unfold canBeMerged
  simp only [Bool.and_eq_true, decide_eq_true_eq, Bool.not_eq_true', Bool.eq_false_iff, bne_iff_ne, ne_eq, not_and,
    not_not, and_assoc]

lemma canBeMerged_of_merge (hmerged : canBeMerged modNr prev nack = true)
    (h : canBeMerged modNr left (merge prev nack) = true) : canBeMerged modNr left prev = true := by
  rw [canBeMerged_iff] at h hmerged ⊢
  obtain ⟨hsn, hend, hstart, hrange⟩ := h
  rw [merge_range hmerged.2.2.2] at hrange
  refine ⟨merge_nackSn.symm.trans hsn, hend, fun hso => ?_, by omega⟩
  obtain ⟨hkept, hkeptStart⟩ := merge_so nack hso
  rw [← hkeptStart]
  exact hstart hkept

lemma canBeMerged_received : canBeMerged modNr left.received nack.received = canBeMerged modNr left nack := by
  unfold canBeMerged
  rw [RlcAmStatusNack.range_received, RlcAmStatusNack.range_received]
  unfold RlcAmStatusNack.received
  cases hl : left.hasSo <;> cases hn : nack.hasSo <;> cases hr : left.hasNackRange <;> simp

end Merging

lemma new_inSync (snSize : RlcAmSnSize) : (new snSize).InSync := ⟨rfl, .nil, nofun⟩

section Push

variable {pdu : RlcAmStatusPdu} {nack : RlcAmStatusNack}

lemma pushNack_snSize : (pdu.pushNack nack).snSize = pdu.snSize := by
  unfold pushNack
  split
  · rfl
  · split <;> rfl

lemma pushNack_ackSn : (pdu.pushNack nack).ackSn = pdu.ackSn := by
  unfold pushNack
  split
  · rfl
  · split <;> rfl

lemma append_inSync (h : pdu.InSync) (hsn : nack.nackSn < pdu.modNr)
    (hapart : ∀ prev ∈ pdu.nacks.getLast?, canBeMerged pdu.modNr prev nack = false) : (pdu.append nack).InSync := by
  refine ⟨?_, ?_, fun n hn => ?_⟩
  · change pdu.packedSize + _ = _ + ((pdu.nacks ++ [nack]).map (nackSize pdu.snSize)).sum
    rw [h.packedSize, List.map_append, List.sum_append, List.map_singleton, List.sum_singleton, Nat.add_assoc]
  · change (pdu.nacks ++ [nack]).IsChain _
    rw [List.isChain_append]
    refine ⟨h.apart, .singleton nack, fun prev hprev n hn => ?_⟩
    rw [← Option.some.inj hn]
    exact hapart prev hprev
  · rcases List.mem_append.mp hn with hn | hn
    · exact h.sns n hn
    · rw [List.mem_singleton.mp hn]
      exact hsn

lemma pushNack_append (hapart : ∀ prev ∈ pdu.nacks.getLast?, canBeMerged pdu.modNr prev nack = false) :
    pdu.pushNack nack = pdu.append nack := by
  unfold pushNack
  split
  case h_1 => rfl
  case h_2 prev hprev =>
    rw [hapart prev hprev]
    rfl

lemma pushNack_inSync (h : pdu.InSync) (hsn : nack.nackSn < pdu.modNr) : (pdu.pushNack nack).InSync := by
  unfold pushNack
  split
  case h_1 hnone => exact append_inSync h hsn (by simp [hnone])
  case h_2 prev hprev =>
    obtain ⟨front, hfront⟩ : ∃ front, pdu.nacks = front ++ [prev] :=
      ⟨_, (List.dropLast_append_getLast? prev hprev).symm⟩
    cases hmerged : canBeMerged pdu.modNr prev nack with
    | false =>
      apply append_inSync h hsn
      intro p hp
      rw [hprev] at hp
      rw [← Option.some.inj hp]
      exact hmerged
    | true =>
      have hsize := h.packedSize
      have hchain := h.apart
      rw [hfront, List.map_append, List.sum_append, List.map_singleton, List.sum_singleton] at hsize
      rw [hfront, List.isChain_append] at hchain
      rw [if_pos rfl, hfront, List.dropLast_concat]
      refine ⟨?_, ?_, fun n hn => ?_⟩
      · change pdu.packedSize - _ + _ = _ + ((front ++ [merge prev nack]).map (nackSize pdu.snSize)).sum
        rw [List.map_append, List.sum_append, List.map_singleton, List.sum_singleton, hsize]
        omega
      · change (front ++ [merge prev nack]).IsChain _
        rw [List.isChain_append]
        refine ⟨hchain.1, .singleton _, fun left hleft n hn => ?_⟩
        rw [← Option.some.inj hn]
        have hbefore := hchain.2.2 left hleft prev rfl
        cases hnow : canBeMerged pdu.modNr left (merge prev nack) with
        | false => exact hnow
        | true =>
          rw [canBeMerged_of_merge hmerged hnow] at hbefore
          exact absurd hbefore (by decide)
      · rcases List.mem_append.mp hn with hn | hn
        · exact h.sns n (by rw [hfront]; exact List.mem_append_left _ hn)
        · rw [List.mem_singleton.mp hn, merge_nackSn]
          exact h.sns prev (by rw [hfront]; exact List.mem_append_right _ (List.mem_singleton.mpr rfl))

lemma pushes_inSync {nacks : List RlcAmStatusNack} (h : pdu.InSync) (hsn : ∀ n ∈ nacks, n.nackSn < pdu.modNr) :
    (nacks.foldl pushNack pdu).InSync ∧ (nacks.foldl pushNack pdu).snSize = pdu.snSize := by
  induction nacks generalizing pdu with
  | nil => exact ⟨h, rfl⟩
  | cons n ns ih =>
    have hsize : (pdu.pushNack n).snSize = pdu.snSize := pushNack_snSize
    have hmod : (pdu.pushNack n).modNr = pdu.modNr := congrArg RlcAmSnSize.modulus hsize
    have hrest := ih (pushNack_inSync h (hsn n List.mem_cons_self)) fun m hm => by
      rw [hmod]
      exact hsn m (List.mem_cons_of_mem n hm)
    exact ⟨hrest.1, hrest.2.trans hsize⟩

end Push

section Codec

variable {snSize : RlcAmSnSize}

@[simp] lemma toNat_ofNat (n : Nat) : (UInt8.ofNat n).toNat = n % 256 := UInt8.toNat_ofNat'

lemma ofNat_bytes (v : UInt16) :
    UInt16.ofNat ((UInt8.ofNat (v.toNat / 256)).toNat * 256 + (UInt8.ofNat v.toNat).toNat) = v := by
  apply UInt16.toNat_inj.mp
  have hv : v.toNat < 65536 := v.toNat_lt
  rw [UInt16.toNat_ofNat', toNat_ofNat, toNat_ofNat]
  omega

/-- The last byte of a NACK_SN: the lowest bits of the SN, then the extension bits, then `k` to one reserved bits. -/
lemma extensionByte {k sn : Nat} (hk : k = 1 ∧ sn < 16 ∨ k = 4 ∧ sn < 4) (e1 e2 e3 : Bool) :
    let b := sn * (16 * k) + flag e1 (8 * k) + flag e2 (4 * k) + flag e3 (2 * k)
    b < 256 ∧ b % (2 * k) = 0 ∧ b / (16 * k) = sn ∧ decide (b / (8 * k) % 2 = 1) = e1 ∧
      decide (b / (4 * k) % 2 = 1) = e2 ∧ decide (b / (2 * k) % 2 = 1) = e3 := by
  intro b
  obtain ⟨rfl, hsn⟩ | ⟨rfl, hsn⟩ := hk <;> cases e1 <;> cases e2 <;> cases e3 <;>
    simp only [b, flag, Bool.false_eq_true, if_true, if_false, decide_eq_true_eq, decide_eq_false_iff_not] <;> omega

lemma length_packNackSn (e1 : Bool) (nack : RlcAmStatusNack) :
    (packNackSn snSize e1 nack ++ packSo nack ++ packRange nack).length = nackSize snSize nack := by
  unfold packNackSn packSo packRange nackSize
  cases snSize <;> cases nack.hasSo <;> cases nack.hasNackRange <;> rfl

lemma length_packNacks (nacks : List RlcAmStatusNack) :
    (packNacks snSize nacks).length = (nacks.map (nackSize snSize)).sum := by
  induction nacks with
  | nil => rfl
  | cons nack rest ih =>
    rw [packNacks, List.length_append, length_packNackSn, ih, List.map_cons, List.sum_cons]

lemma length_pack {pdu : RlcAmStatusPdu}
    (h : pdu.packedSize = sizeofHeaderAckSn + (pdu.nacks.map (nackSize pdu.snSize)).sum) :
    pdu.pack.length = pdu.packedSize := by
  unfold pack
  rw [List.length_append, length_packNacks, h]
  unfold packAckSn
  cases pdu.snSize <;> rfl

lemma unpackNackSn_pack (e1 : Bool) {nack : RlcAmStatusNack} (hsn : nack.nackSn < snSize.modulus) (r : ByteReader) :
    unpackNackSn snSize (packNackSn snSize e1 nack ++ r) =
      .ok ((nack.nackSn, ⟨e1, nack.hasSo, nack.hasNackRange⟩), r) := by
  cases snSize
  case size12bits =>
    rw [RlcAmSnSize.modulus_size12bits] at hsn
    obtain ⟨hlt, hreserved, hlow, h1, h2, h3⟩ :=
      extensionByte (Or.inl ⟨rfl, Nat.mod_lt nack.nackSn (by decide)⟩) e1 nack.hasSo nack.hasNackRange
    change (rejectUnless _ >>= fun _ => _) = _
    rw [rejectUnless_ok (by simp [packNackSn, sizeofNackSnExt12bitSn])]
    change (rejectUnless _ >>= fun _ => _) = _
    rw [toNat_ofNat, Nat.mod_eq_of_lt hlt, rejectUnless_ok hreserved]
    change Except.ok _ = Except.ok _
    rw [toNat_ofNat, hlow, h1, h2, h3]
    congr 3
    omega
  case size18bits =>
    rw [RlcAmSnSize.modulus_size18bits] at hsn
    obtain ⟨hlt, hreserved, hlow, h1, h2, h3⟩ :=
      extensionByte (Or.inr ⟨rfl, Nat.mod_lt nack.nackSn (by decide)⟩) e1 nack.hasSo nack.hasNackRange
    change (rejectUnless _ >>= fun _ => _) = _
    rw [rejectUnless_ok (by simp [packNackSn, sizeofNackSnExt18bitSn])]
    change (rejectUnless _ >>= fun _ => _) = _
    rw [toNat_ofNat, Nat.mod_eq_of_lt hlt, rejectUnless_ok hreserved]
    change Except.ok _ = Except.ok _
    rw [toNat_ofNat, toNat_ofNat, hlow, h1, h2, h3]
    congr 3
    omega

lemma unpackSo_pack (nack rest : RlcAmStatusNack) (r : ByteReader) :
    unpackSo nack.hasSo rest (packSo nack ++ r) =
      .ok (if nack.hasSo then { rest with hasSo := true, soStart := nack.soStart, soEnd := nack.soEnd } else rest, r) := by
  unfold unpackSo packSo
  cases nack.hasSo
  case false => rfl
  case true =>
    change (rejectUnless _ >>= fun _ => _) = _
    rw [rejectUnless_ok (by simp [sizeofNackSo])]
    change Except.ok _ = Except.ok _
    rw [ofNat_bytes, ofNat_bytes]
    rfl

lemma unpackRange_pack (nack rest : RlcAmStatusNack) (r : ByteReader) :
    unpackRange nack.hasNackRange rest (packRange nack ++ r) =
      .ok (if nack.hasNackRange then { rest with hasNackRange := true, nackRange := nack.nackRange } else rest, r) := by
  unfold unpackRange packRange
  cases nack.hasNackRange
  case false => rfl
  case true =>
    change (rejectUnless _ >>= fun _ => _) = _
    rw [rejectUnless_ok (by simp [sizeofNackRange])]
    rfl

lemma received_eq (nack : RlcAmStatusNack) :
    (let withSo := if nack.hasSo then
        { RlcAmStatusNack.ofSn nack.nackSn with hasSo := true, soStart := nack.soStart, soEnd := nack.soEnd }
      else RlcAmStatusNack.ofSn nack.nackSn
    if nack.hasNackRange then { withSo with hasNackRange := true, nackRange := nack.nackRange } else withSo) =
      nack.received := by
  obtain ⟨sn, so, start, stop, range, count⟩ := nack
  cases so <;> cases range <;> rfl

lemma foldl_append (nacks : List RlcAmStatusNack) (pdu : RlcAmStatusPdu) :
    (nacks.foldl append pdu).nacks = pdu.nacks ++ nacks ∧ (nacks.foldl append pdu).ackSn = pdu.ackSn ∧
      (nacks.foldl append pdu).snSize = pdu.snSize := by
  induction nacks generalizing pdu with
  | nil => exact ⟨(List.append_nil _).symm, rfl, rfl⟩
  | cons nack rest ih =>
    obtain ⟨hnacks, hack, hsize⟩ := ih (pdu.append nack)
    refine ⟨hnacks.trans ?_, hack, hsize⟩
    exact List.append_assoc pdu.nacks [nack] rest

lemma unpackNacks_pack {nacks : List RlcAmStatusNack} (pdu : RlcAmStatusPdu) (hne : nacks ≠ [])
    (hsns : ∀ n ∈ nacks, n.nackSn < pdu.modNr)
    (hapart : (pdu.nacks ++ nacks.map RlcAmStatusNack.received).IsChain
      fun left right => canBeMerged pdu.modNr left right = false)
    {fuel : Nat} (hfuel : nacks.length ≤ fuel) :
    unpackNacks fuel pdu (packNacks pdu.snSize nacks) = .ok ((nacks.map .received).foldl append pdu) := by
  induction nacks generalizing pdu fuel with
  | nil => exact absurd rfl hne
  | cons nack rest ih =>
    obtain ⟨fuel, rfl⟩ : ∃ n, fuel = n + 1 := ⟨fuel - 1, by rw [List.length_cons] at hfuel; omega⟩
    have hpush : pdu.pushNack nack.received = pdu.append nack.received := by
      apply pushNack_append
      intro prev hprev
      rw [List.map_cons, List.isChain_append] at hapart
      exact hapart.2.2 prev hprev _ rfl
    rw [unpackNacks, packNacks, List.append_assoc, List.append_assoc,
      unpackNackSn_pack _ (hsns nack List.mem_cons_self)]
    change (unpackSo nack.hasSo _ _ >>= fun _ => _) = _
    rw [unpackSo_pack]
    change (unpackRange nack.hasNackRange _ _ >>= fun _ => _) = _
    rw [unpackRange_pack]
    change (if (!rest.isEmpty) = true then _ else _) = _
    rw [received_eq, hpush, List.map_cons, List.foldl_cons]
    cases rest with
    | nil => rfl
    | cons next rest =>
      have hmore : (!(next :: rest).isEmpty) = true := rfl
      rw [if_pos hmore]
      refine ih (pdu.append nack.received) (List.cons_ne_nil _ _) (fun n hn => hsns n (List.mem_cons_of_mem _ hn)) ?_
        (Nat.le_of_succ_le_succ hfuel)
      change ((pdu.nacks ++ [nack.received]) ++ _).IsChain _
      rw [List.append_assoc]
      exact hapart

lemma flag_eq (b : Bool) (n : Nat) : flag b n = n * b.toNat := by
  cases b
  · exact (Nat.mul_zero n).symm
  · exact (Nat.mul_one n).symm

lemma decide_toNat (b : Bool) : decide (b.toNat = 1) = b := by
  cases b <;> rfl

lemma unpackAckSn_pack (e1 : Bool) {ackSn : Nat} (hack : ackSn < snSize.modulus) (r : ByteReader) :
    unpackAckSn snSize (packAckSn snSize e1 ackSn ++ r) = .ok ((ackSn, e1), r) := by
  have he1 := e1.toNat_lt
  cases snSize
  case size12bits =>
    rw [RlcAmSnSize.modulus_size12bits] at hack
    change (rejectUnless _ >>= fun _ => _) = _
    rw [toNat_ofNat, rejectUnless_ok (by omega)]
    change (rejectUnless _ >>= fun _ => _) = _
    rw [toNat_ofNat, flag_eq, rejectUnless_ok (by omega)]
    change Except.ok _ = Except.ok _
    rw [toNat_ofNat, show 128 * e1.toNat % 256 / 128 % 2 = e1.toNat by omega, decide_toNat]
    congr 3
    omega
  case size18bits =>
    rw [RlcAmSnSize.modulus_size18bits] at hack
    change (rejectUnless _ >>= fun _ => _) = _
    rw [toNat_ofNat, rejectUnless_ok (by omega)]
    change (rejectUnless _ >>= fun _ => _) = _
    rw [toNat_ofNat, flag_eq, rejectUnless_ok (by omega)]
    change Except.ok _ = Except.ok _
    rw [toNat_ofNat, show (ackSn % 64 * 4 + 2 * e1.toNat) % 256 / 2 % 2 = e1.toNat by omega, decide_toNat]
    congr 3
    omega

lemma isControlPdu_pack (e1 : Bool) (ackSn : Nat) (r : ByteReader) :
    isControlPdu (packAckSn snSize e1 ackSn ++ r) = .ok true := by
  cases snSize
  · change Except.ok (decide ((UInt8.ofNat (ackSn / 256 % 16)).toNat / 128 % 2 = 0)) = _
    rw [toNat_ofNat, decide_eq_true (by omega)]
  · change Except.ok (decide ((UInt8.ofNat (ackSn / 16384 % 16)).toNat / 128 % 2 = 0)) = _
    rw [toNat_ofNat, decide_eq_true (by omega)]

lemma two_le_nackSize (nack : RlcAmStatusNack) : 2 ≤ nackSize snSize nack := by
  unfold nackSize
  cases snSize
  · exact Nat.le_add_right_of_le (Nat.le_add_right 2 _)
  · exact Nat.le_add_right_of_le (Nat.le_add_right_of_le (by decide))

lemma length_le_packNacks (nacks : List RlcAmStatusNack) : nacks.length ≤ (packNacks snSize nacks).length := by
  rw [length_packNacks]
  induction nacks with
  | nil => exact le_rfl
  | cons nack rest ih =>
    have hsize : 2 ≤ nackSize snSize nack := two_le_nackSize nack
    rw [List.length_cons, List.map_cons, List.sum_cons]
    omega

lemma unpack_pack {pdu : RlcAmStatusPdu} (h : pdu.InSync) (hack : pdu.ackSn < pdu.modNr) (into : RlcAmStatusPdu)
    (hsize : into.snSize = pdu.snSize) :
    into.unpack pdu.pack = .ok ((pdu.nacks.map .received).foldl append { into.reset with ackSn := pdu.ackSn }) := by
  have hack3 : (packAckSn pdu.snSize (!pdu.nacks.isEmpty) pdu.ackSn).length = 3 := by
    unfold packAckSn
    cases pdu.snSize <;> rfl
  unfold unpack pack
  rw [rejectUnless_ok (by rw [List.length_append, hack3]; exact Nat.le_add_right _ _), isControlPdu_pack]
  change (unpackAckSn into.snSize _ >>= fun _ => _) = _
  rw [hsize, unpackAckSn_pack _ hack]
  change (if (!pdu.nacks.isEmpty) = true then unpackNacks _ _ _ else _) = _
  by_cases hnone : pdu.nacks = []
  · rw [hnone]
    rfl
  · have hsome : (!pdu.nacks.isEmpty) = true := by simp [hnone]
    have hmod : ({ into.reset with ackSn := pdu.ackSn } : RlcAmStatusPdu).modNr = pdu.modNr :=
      congrArg RlcAmSnSize.modulus hsize
    rw [if_pos hsome, ← hsize]
    refine unpackNacks_pack { into.reset with ackSn := pdu.ackSn } hnone ?_ ?_ ?_
    · rw [hmod]
      exact h.sns
    · rw [hmod]
      refine (List.isChain_map _).mpr (h.apart.imp fun left right hapart => ?_)
      rw [canBeMerged_received]
      exact hapart
    · rw [List.length_append]
      exact (length_le_packNacks _).trans (Nat.le_add_left _ _)

end Codec

section Reading

lemma unpackNackSn_yields (snSize : RlcAmSnSize) (r : ByteReader) :
    Yields (unpackNackSn snSize r) (fun res => res.1.1 < snSize.modulus ∧ res.2.length + 2 ≤ r.length)
      (· = .rejected) := by
  cases snSize
  case size12bits =>
    refine yields_bind yields_rejectUnless fun _ (hlen : 2 ≤ r.length) => ?_
    refine yields_bind (yields_next (by omega)) fun b0 h0 => ?_
    refine yields_bind (yields_next (by omega)) fun b1 h1 => ?_
    refine yields_bind yields_rejectUnless fun _ _ => ?_
    have hb0 := b0.1.toNat_lt
    have hb1 := b1.1.toNat_lt
    constructor
    · change b0.1.toNat * 16 + b1.1.toNat / 16 < 4096
      omega
    · change b1.2.length + 2 ≤ r.length
      omega
  case size18bits =>
    refine yields_bind yields_rejectUnless fun _ (hlen : 3 ≤ r.length) => ?_
    refine yields_bind (yields_next (by omega)) fun b0 h0 => ?_
    refine yields_bind (yields_next (by omega)) fun b1 h1 => ?_
    refine yields_bind (yields_next (by omega)) fun b2 h2 => ?_
    refine yields_bind yields_rejectUnless fun _ _ => ?_
    have hb0 := b0.1.toNat_lt
    have hb1 := b1.1.toNat_lt
    have hb2 := b2.1.toNat_lt
    constructor
    · change b0.1.toNat * 1024 + b1.1.toNat * 4 + b2.1.toNat / 64 < 262144
      omega
    · change b2.2.length + 2 ≤ r.length
      omega

lemma unpackSo_yields (e2 : Bool) (nack : RlcAmStatusNack) (r : ByteReader) :
    Yields (unpackSo e2 nack r) (fun res => res.1.nackSn = nack.nackSn ∧ res.2.length ≤ r.length)
      (· = .rejected) := by
  refine yields_ite (fun _ => ?_) fun _ => ⟨rfl, le_rfl⟩
  refine yields_bind yields_rejectUnless fun _ (hlen : 4 ≤ r.length) => ?_
  refine yields_bind (yields_next (by omega)) fun s1 h1 => ?_
  refine yields_bind (yields_next (by omega)) fun s0 h0 => ?_
  refine yields_bind (yields_next (by omega)) fun t1 h1' => ?_
  refine yields_bind (yields_next (by omega)) fun t0 h0' => ?_
  refine ⟨rfl, ?_⟩
  change t0.2.length ≤ r.length
  omega

lemma unpackRange_yields (e3 : Bool) (nack : RlcAmStatusNack) (r : ByteReader) :
    Yields (unpackRange e3 nack r) (fun res => res.1.nackSn = nack.nackSn ∧ res.2.length ≤ r.length)
      (· = .rejected) := by
  refine yields_ite (fun _ => ?_) fun _ => ⟨rfl, le_rfl⟩
  refine yields_bind yields_rejectUnless fun _ (hlen : 1 ≤ r.length) => ?_
  refine yields_bind (yields_next (by omega)) fun b h => ?_
  refine ⟨rfl, ?_⟩
  change b.2.length ≤ r.length
  omega

lemma unpackNacks_yields {fuel : Nat} {pdu : RlcAmStatusPdu} (h : pdu.InSync) {r : ByteReader}
    (hfuel : r.length < fuel) :
    Yields (unpackNacks fuel pdu r) (fun res => res.InSync ∧ res.snSize = pdu.snSize ∧ res.ackSn = pdu.ackSn)
      (· = .rejected) := by
  induction fuel generalizing pdu r with
  | zero => exact absurd hfuel (Nat.not_lt_zero _)
  | succ fuel ih =>
    refine yields_bind (unpackNackSn_yields pdu.snSize r) fun res hres => ?_
    refine yields_bind (unpackSo_yields res.1.2.e2 _ res.2) fun so hso => ?_
    refine yields_bind (unpackRange_yields res.1.2.e3 so.1 so.2) fun range hrange => ?_
    have hsn : range.1.nackSn < pdu.modNr := by
      rw [hrange.1, hso.1]
      exact hres.1
    have hpushed := pushNack_inSync h hsn
    refine yields_ite (fun _ => (ih hpushed (by omega)).post fun pdu' hpdu' => ?_) fun _ =>
      ⟨hpushed, pushNack_snSize, pushNack_ackSn⟩
    exact ⟨hpdu'.1, hpdu'.2.1.trans pushNack_snSize, hpdu'.2.2.trans pushNack_ackSn⟩

lemma unpack_yields (pdu : RlcAmStatusPdu) (bytes : List UInt8) :
    Yields (pdu.unpack bytes) (fun res => res.InSync ∧ res.snSize = pdu.snSize ∧ res.ackSn < pdu.snSize.modulus)
      (· = .rejected) := by
  refine yields_bind yields_rejectUnless fun _ (hlen : 3 ≤ bytes.length) => ?_
  have hcontrol : Yields (isControlPdu bytes) (fun _ => True) (· = .rejected) :=
    yields_bind (yields_next (by omega)) fun _ _ => trivial
  refine yields_bind hcontrol fun _ _ => ?_
  refine yields_bind yields_rejectUnless fun _ _ => ?_
  have hack : Yields (unpackAckSn pdu.snSize bytes)
      (fun res => res.1.1 < pdu.snSize.modulus ∧ res.2.length < bytes.length) (· = .rejected) := by
    refine yields_bind (yields_next (by omega)) fun b0 h0 => ?_
    refine yields_bind yields_rejectUnless fun _ _ => ?_
    refine yields_bind (yields_next (by omega)) fun b1 h1 => ?_
    refine yields_bind (yields_next (by omega)) fun b2 h2 => ?_
    have hb0 := b0.1.toNat_lt
    have hb1 := b1.1.toNat_lt
    have hb2 := b2.1.toNat_lt
    have hrest : b2.2.length < bytes.length := by omega
    cases pdu.snSize with
    | size12bits =>
      refine yields_bind yields_rejectUnless fun _ _ => ⟨?_, hrest⟩
      change b0.1.toNat % 16 * 256 + b1.1.toNat < 4096
      omega
    | size18bits =>
      refine yields_bind yields_rejectUnless fun _ _ => ⟨?_, hrest⟩
      change b0.1.toNat % 16 * 16384 + b1.1.toNat * 64 + b2.1.toNat / 4 < 262144
      omega
  refine yields_bind hack fun res hres => ?_
  have hreset : InSync { pdu.reset with ackSn := res.1.1 } := ⟨rfl, .nil, nofun⟩
  refine yields_ite (fun _ => (unpackNacks_yields hreset hres.2).post fun pdu' hpdu' => ?_) fun _ =>
    ⟨hreset, rfl, hres.1⟩
  exact ⟨hpdu'.1, hpdu'.2.1, hpdu'.2.2.trans_lt hres.1⟩

end Reading

/-- The PDU that `push_nack` builds from a list of NACKs. -/
def build (snSize : RlcAmSnSize) (nacks : List RlcAmStatusNack) (ackSn : Nat) : RlcAmStatusPdu :=
  { nacks.foldl pushNack (new snSize) with ackSn := ackSn }

/-- `get_packed_size` is the number of bytes that `pack` writes, and `unpack` gives the same ACK_SN and the same missing
positions back. For other bytes `unpack` returns or rejects. -/
theorem status_pdu_codec (into : RlcAmStatusPdu) (nacks : List RlcAmStatusNack) (ackSn : Nat)
    (hack : ackSn < into.snSize.modulus) (hsns : ∀ n ∈ nacks, n.nackSn < into.snSize.modulus) :
    let pdu := build into.snSize nacks ackSn
    pdu.packedSize = pdu.pack.length ∧
      (∃ received, into.unpack pdu.pack = .ok received ∧ received.ackSn = ackSn ∧ received.missing = pdu.missing) ∧
      ∀ bytes, into.unpack bytes ≠ .error .pastEnd ∧ into.unpack bytes ≠ .error .outOfFuel := by
  intro pdu
  obtain ⟨hsync, hsize⟩ := pushes_inSync (new_inSync into.snSize) hsns
  have hpdu : pdu.InSync := ⟨hsync.packedSize, hsync.apart, hsync.sns⟩
  have hmod : pdu.modNr = into.snSize.modulus := congrArg RlcAmSnSize.modulus hsize
  refine ⟨(length_pack hpdu.packedSize).symm, ⟨_, unpack_pack hpdu (hmod.symm ▸ hack) into hsize.symm, ?_, ?_⟩, fun bytes => ?_⟩
  · exact (foldl_append _ _).2.1
  · obtain ⟨hnacks, -, hsnSize⟩ := foldl_append (pdu.nacks.map .received) { into.reset with ackSn := pdu.ackSn }
    have hmodNr := (congrArg RlcAmSnSize.modulus hsnSize).trans hmod.symm
    ext p
    unfold missing modNr at *
    rw [hnacks, hmodNr]
    change (∃ n ∈ pdu.nacks.map RlcAmStatusNack.received, _) ↔ _
    constructor
    · rintro ⟨_, hmem, hp⟩
      obtain ⟨n, hn, rfl⟩ := List.mem_map.mp hmem
      rw [RlcAmStatusNack.missing_received] at hp
      exact ⟨n, hn, hp⟩
    · rintro ⟨n, hn, hp⟩
      refine ⟨n.received, List.mem_map_of_mem hn, ?_⟩
      rw [RlcAmStatusNack.missing_received]
      exact hp
  · have h := fun fault => (unpack_yields into bytes).of_error (a := fault)
    exact ⟨fun hfault => absurd (h _ hfault) (by decide), fun hfault => absurd (h _ hfault) (by decide)⟩

/-- The last SDU before the wrap-around and the first bytes of the SDU after it, which are merged. -/
theorem status_pdu_codec_merged :
    let pdu := build .size12bits [.ofSn 4095, ⟨0, true, 0, 7, false, 0⟩] 5
    pdu.packedSize = pdu.pack.length ∧
      (∃ received, (new .size12bits).unpack pdu.pack = .ok received ∧ received.ackSn = 5 ∧
        received.missing = pdu.missing) ∧
      ∀ bytes, (new .size12bits).unpack bytes ≠ .error .pastEnd ∧
        (new .size12bits).unpack bytes ≠ .error .outOfFuel :=
  status_pdu_codec (new .size12bits) [.ofSn 4095, ⟨0, true, 0, 7, false, 0⟩] 5 (by decide) (by decide)

end RlcAmStatusPdu

end OwlsRan.Rlc
