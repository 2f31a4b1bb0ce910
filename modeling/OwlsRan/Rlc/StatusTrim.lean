import Mathlib.Data.List.TakeWhile
import OwlsRan.Rlc.NackMerging
import OwlsRan.Rlc.TxAmMoves

/-!
# Trimmed STATUS PDUs

`trim` drops NACKs from the back until the PDU fits, moves the ACK_SN back to the first NACK that was dropped, and goes
on with the NACKs whose `nack_sn` is the new ACK_SN. A range that ends at the new ACK_SN has another `nack_sn`.
-/

namespace OwlsRan.Rlc
open OwlsRan.Lib

namespace RlcAmStatusNack

def lastSn (modulus : Nat) (n : RlcAmStatusNack) : Nat := (n.nackSn + (n.range - 1)) % modulus

end RlcAmStatusNack

namespace RlcAmStatusPdu

def sizeWith (snSize : RlcAmSnSize) (nacks : List RlcAmStatusNack) : Nat :=
  sizeofHeaderAckSn + (nacks.map (nackSize snSize)).sum

/-- The NACKs of a status report, before they are merged: their SNs are in increasing order from `base` on, all of them
before the ACK_SN. -/
structure NackReport (snSize : RlcAmSnSize) (base ackSn : Nat) (nacks : List RlcAmStatusNack) : Prop where
  ack_lt : ackSn < snSize.modulus
  ranges : ∀ n ∈ nacks, 1 ≤ n.range
  sn_lt : ∀ n ∈ nacks, n.nackSn < snSize.modulus
  inOrder : (nacks.flatMap (RlcAmStatusNack.positions snSize.modulus)).Pairwise fun p q =>
    snDist snSize.modulus base p.sn ≤ snDist snSize.modulus base q.sn
  beforeAck : ∀ p ∈ nacks.flatMap (RlcAmStatusNack.positions snSize.modulus),
    snDist snSize.modulus base p.sn < snDist snSize.modulus base ackSn

/-- No NACK range among the NACKs that fit ends at the SN of the first NACK that does not fit, and begins before it. -/
def CutsNoRange (pdu : RlcAmStatusPdu) (maxPackedSize : Nat) : Prop :=
  ∀ fit x rest, pdu.nacks = fit ++ x :: rest → sizeWith pdu.snSize fit ≤ maxPackedSize →
    maxPackedSize < sizeWith pdu.snSize (fit ++ [x]) →
    ∀ r ∈ fit, r.nackSn ≠ x.nackSn → r.lastSn pdu.modNr ≠ x.nackSn

/-- What a trimmed report owes to the one that was trimmed. -/
structure TrimmedValid (base maxPackedSize : Nat) (pdu : RlcAmStatusPdu) (res : Bool × RlcAmStatusPdu) : Prop where
  success : res.1 = true
  fits : res.2.packedSize ≤ maxPackedSize
  inSync : res.2.packedSize = sizeWith pdu.snSize res.2.nacks
  kept : res.2.nacks <+: pdu.nacks
  before : ∀ p ∈ res.2.nacks.flatMap (RlcAmStatusNack.positions pdu.modNr),
    snDist pdu.modNr base p.sn < snDist pdu.modNr base res.2.ackSn
  complete : ∀ p ∈ pdu.positions, snDist pdu.modNr base p.sn < snDist pdu.modNr base res.2.ackSn →
    p ∈ res.2.nacks.flatMap (RlcAmStatusNack.positions pdu.modNr)
  /-- A peer to which the NACKs of the whole report are valid finds those of the trimmed one valid. -/
  accepted : ∀ (cfg : RlcTxAmConfig) (peer : RlcTxAmEntity), cfg.snFieldLength = pdu.snSize →
    peer.st.txNextAck < cfg.mod → (peer.validNacks cfg pdu.ackSn pdu.nacks).1 = true →
    (peer.validNacks cfg res.2.ackSn res.2.nacks).1 = true

section Loop

variable {snSize : RlcAmSnSize} {maxPackedSize : Nat}

lemma sizeWith_reverse (l : List RlcAmStatusNack) : sizeWith snSize l.reverse = sizeWith snSize l := by
  unfold sizeWith
  rw [List.map_reverse, List.sum_reverse]

lemma sizeWith_cons (snSize : RlcAmSnSize) (n : RlcAmStatusNack) (l : List RlcAmStatusNack) :
    sizeWith snSize (n :: l) = sizeWith snSize l + nackSize snSize n := by
  unfold sizeWith
  rw [List.map_cons, List.sum_cons]
  omega

lemma sizeWith_le (snSize : RlcAmSnSize) (l l' : List RlcAmStatusNack) : sizeWith snSize l' ≤ sizeWith snSize (l ++ l') := by
  unfold sizeWith
  rw [List.map_append, List.sum_append]
  omega

lemma sizeWith_le_left (snSize : RlcAmSnSize) (l l' : List RlcAmStatusNack) : sizeWith snSize l ≤ sizeWith snSize (l ++ l') := by
  unfold sizeWith
  rw [List.map_append, List.sum_append]
  omega

lemma isPrefix_of_fits {fit fit' rest rest' : List RlcAmStatusNack} {x : RlcAmStatusNack}
    (h : fit ++ x :: rest = fit' ++ rest') (hfits : sizeWith snSize fit' ≤ maxPackedSize)
    (hcut : maxPackedSize < sizeWith snSize (fit ++ [x])) : fit' <+: fit := by
  rcases List.append_eq_append_iff.mp h with ⟨a, rfl, ha⟩ | ⟨a, rfl, -⟩
  · cases a with
    | nil => simp
    | cons z zs =>
      obtain ⟨rfl, -⟩ := List.cons.inj ha
      have hle := sizeWith_le_left snSize (fit ++ [x]) zs
      rw [List.append_assoc, List.singleton_append] at hle
      omega
  · exact List.prefix_append _ _

lemma trimNacks_fit {l : List RlcAmStatusNack} {ackSn : Nat} (hfit : sizeWith snSize l ≤ maxPackedSize) :
    trimNacks snSize maxPackedSize l (sizeWith snSize l) ackSn =
      (l.dropWhile (fun n => n.nackSn == ackSn), sizeWith snSize (l.dropWhile fun n => n.nackSn == ackSn), ackSn) := by
  induction l with
  | nil => rfl
  | cons n l ih =>
    have hsize := sizeWith_cons snSize n l
    unfold trimNacks
    by_cases hsn : n.nackSn = ackSn
    · rw [if_pos (Or.inr hsn), List.dropWhile_cons_of_pos (by simpa using hsn), hsn, hsize, Nat.add_sub_cancel]
      exact ih (by omega)
    · have hgo : ¬ (maxPackedSize < sizeWith snSize (n :: l) ∨ n.nackSn = ackSn) := by omega
      rw [if_neg hgo, List.dropWhile_cons_of_neg (by simpa using hsn)]

lemma trimNacks_spec {l : List RlcAmStatusNack} (ackSn : Nat) (hheader : sizeofHeaderAckSn ≤ maxPackedSize)
    (hlarge : maxPackedSize < sizeWith snSize l) :
    ∃ above x fit, l = above ++ x :: fit ∧ sizeWith snSize fit ≤ maxPackedSize ∧
      maxPackedSize < sizeWith snSize (x :: fit) ∧
      trimNacks snSize maxPackedSize l (sizeWith snSize l) ackSn =
        (fit.dropWhile (fun n => n.nackSn == x.nackSn),
          sizeWith snSize (fit.dropWhile fun n => n.nackSn == x.nackSn), x.nackSn) := by
  induction l generalizing ackSn with
  | nil => exact absurd hlarge (Nat.not_lt.mpr hheader)
  | cons n l ih =>
    have hsize := sizeWith_cons snSize n l
    have hstep : trimNacks snSize maxPackedSize (n :: l) (sizeWith snSize (n :: l)) ackSn =
        trimNacks snSize maxPackedSize l (sizeWith snSize l) n.nackSn := by
      rw [trimNacks, if_pos (Or.inl hlarge), hsize, Nat.add_sub_cancel]
    rw [hstep]
    by_cases hfit : sizeWith snSize l ≤ maxPackedSize
    · exact ⟨[], n, l, rfl, hfit, hlarge, trimNacks_fit hfit⟩
    · obtain ⟨above, x, fit, hl, hfits, hcut, htrim⟩ := ih n.nackSn (Nat.not_le.mp hfit)
      refine ⟨n :: above, x, fit, ?_, hfits, hcut, htrim⟩
      rw [hl, List.cons_append]

/-- What `trim` leaves of a PDU that does not fit. The NACKs that fit end with those that it keeps and with NACKs of the
SN at which it cuts. -/
lemma trim_spec {pdu : RlcAmStatusPdu} (hsync : pdu.packedSize = sizeWith pdu.snSize pdu.nacks)
    (hheader : sizeofHeaderAckSn ≤ maxPackedSize) (hlarge : maxPackedSize < pdu.packedSize) :
    ∃ kept same x rest, pdu.nacks = kept ++ same ++ x :: rest ∧ sizeWith pdu.snSize (kept ++ same) ≤ maxPackedSize ∧
      maxPackedSize < sizeWith pdu.snSize (kept ++ same ++ [x]) ∧ (∀ n ∈ same, n.nackSn = x.nackSn) ∧
      (∀ z ∈ kept.getLast?, z.nackSn ≠ x.nackSn) ∧ sizeWith pdu.snSize kept ≤ maxPackedSize ∧
      pdu.trim maxPackedSize =
        (true, { pdu with nacks := kept, packedSize := sizeWith pdu.snSize kept, ackSn := x.nackSn }) := by
  rw [hsync, ← sizeWith_reverse] at hlarge
  obtain ⟨above, x, fit, hsplit, hfit, hcut, htrim⟩ := trimNacks_spec pdu.ackSn hheader hlarge
  set p : RlcAmStatusNack → Bool := fun n => n.nackSn == x.nackSn with hp
  have hparts : fit.reverse = (fit.dropWhile p).reverse ++ (fit.takeWhile p).reverse := by
    rw [← List.reverse_append, List.takeWhile_append_dropWhile]
  have hnacks : pdu.nacks = fit.reverse ++ x :: above.reverse := by
    rw [← List.reverse_reverse pdu.nacks, hsplit]
    simp
  refine ⟨(fit.dropWhile p).reverse, (fit.takeWhile p).reverse, x, above.reverse, ?_, ?_, ?_, ?_, ?_, ?_, ?_⟩
  · rw [← hparts]
    exact hnacks
  · rw [← hparts, sizeWith_reverse]
    exact hfit
  · rw [← hparts, ← List.reverse_cons, sizeWith_reverse]
    exact hcut
  · intro n hn
    have := List.mem_takeWhile_imp (List.mem_reverse.mp hn)
    simpa [hp] using this
  · intro z hz
    rw [List.getLast?_reverse] at hz
    have := List.head?_dropWhile_not p fit
    rw [Option.mem_def.mp hz] at this
    simpa [hp] using this
  · rw [sizeWith_reverse]
    have hle := sizeWith_le pdu.snSize (fit.takeWhile p) (fit.dropWhile p)
    rw [List.takeWhile_append_dropWhile] at hle
    exact hle.trans hfit
  · unfold trim
    rw [if_neg (by rw [hsync, ← sizeWith_reverse]; omega), if_neg (Nat.not_lt.mpr hheader), hsync, ← sizeWith_reverse,
      htrim, sizeWith_reverse]

end Loop

section Order

variable {snSize : RlcAmSnSize} {base ackSn : Nat} {nacks : List RlcAmStatusNack} {pdu : RlcAmStatusPdu}

structure Ordered (base : Nat) (pdu : RlcAmStatusPdu) : Prop where
  proper : pdu.RangesProper
  sn_lt : ∀ n ∈ pdu.nacks, n.nackSn < pdu.modNr
  inOrder : pdu.positions.Pairwise fun p q => snDist pdu.modNr base p.sn ≤ snDist pdu.modNr base q.sn
  beforeAck : ∀ p ∈ pdu.positions, snDist pdu.modNr base p.sn < snDist pdu.modNr base pdu.ackSn
  inSync : pdu.packedSize = sizeWith pdu.snSize pdu.nacks

lemma NackReport.ordered (h : NackReport snSize base ackSn nacks) :
    (build snSize nacks ackSn).snSize = snSize ∧ Ordered base (build snSize nacks ackSn) := by
  obtain ⟨hsync, hsize⟩ := pushes_inSync (new_inSync snSize) h.sn_lt
  have hmod : (build snSize nacks ackSn).modNr = snSize.modulus := congrArg RlcAmSnSize.modulus hsize
  obtain ⟨hproper, hpositions⟩ := build_positions snSize ackSn h.ranges
  refine ⟨hsize, hproper, hsync.sns, ?_, ?_, hsync.packedSize⟩
  · rw [hmod, hpositions]
    exact h.inOrder
  · rw [hmod, hpositions]
    exact h.beforeAck

lemma Ordered.le_of_split (h : Ordered base pdu) {a b : List RlcAmStatusNack} (hsplit : pdu.nacks = a ++ b)
    {p q : NackPosition} (hp : p ∈ a.flatMap (RlcAmStatusNack.positions pdu.modNr))
    (hq : q ∈ b.flatMap (RlcAmStatusNack.positions pdu.modNr)) :
    snDist pdu.modNr base p.sn ≤ snDist pdu.modNr base q.sn := by
  have horder := h.inOrder
  unfold positions at horder
  rw [hsplit, List.flatMap_append, List.pairwise_append] at horder
  exact horder.2.2 p hp q hq

lemma Ordered.first_mem (h : Ordered base pdu) {n : RlcAmStatusNack} (hn : n ∈ pdu.nacks) :
    ∃ p ∈ n.positions pdu.modNr, p.sn = n.nackSn := by
  exact ⟨_, List.mem_map.mpr ⟨0, List.mem_range.mpr (h.proper n hn), rfl⟩, Nat.mod_eq_of_lt (h.sn_lt n hn)⟩

lemma Ordered.lt_of_index (h : Ordered base pdu) {n : RlcAmStatusNack} (hn : n ∈ pdu.nacks) {i j : Nat} (hij : i < j)
    (hj : j < n.range) : snDist pdu.modNr base ((n.nackSn + i) % pdu.modNr) <
      snDist pdu.modNr base ((n.nackSn + j) % pdu.modNr) := by
  have hmod : 0 < pdu.modNr := Nat.zero_lt_of_lt (h.sn_lt n hn)
  have hlen : n.range ≤ 255 := by
    have := n.nackRange.toNat_lt
    unfold RlcAmStatusNack.range
    split <;> omega
  have hlarge : 255 < pdu.modNr := by
    unfold modNr
    cases pdu.snSize <;> decide
  obtain ⟨a, b, hsplit⟩ := List.append_of_mem hn
  have horder := h.inOrder
  unfold positions at horder
  rw [hsplit, List.flatMap_append, List.flatMap_cons, List.pairwise_append, List.pairwise_append] at horder
  have hmine := horder.2.1.1
  unfold RlcAmStatusNack.positions at hmine
  rw [List.pairwise_map, List.pairwise_iff_getElem] at hmine
  have hle := hmine i j (by rw [List.length_range]; omega) (by rw [List.length_range]; exact hj) hij
  simp only [List.getElem_range] at hle
  apply Nat.lt_of_le_of_ne hle
  intro heq
  have hsame := snDist_congr hmod heq
  rw [Nat.mod_mod, Nat.mod_mod] at hsame
  exact add_mod_ne hij (by omega) hsame

lemma eq_of_snDist {m x y : Nat} (hx : x < m) (hy : y < m) (h : snDist m base x = snDist m base y) : x = y := by
  have hsame := snDist_congr (Nat.zero_lt_of_lt hx) h
  rwa [Nat.mod_eq_of_lt hx, Nat.mod_eq_of_lt hy] at hsame

lemma Ordered.before (h : Ordered base pdu) {kept tail : List RlcAmStatusNack} {sn : Nat}
    (hsplit : pdu.nacks = kept ++ tail) (hsn : sn < pdu.modNr)
    (hcut : ∃ q ∈ tail.flatMap (RlcAmStatusNack.positions pdu.modNr), q.sn = sn)
    (hlast : ∀ z ∈ kept.getLast?, z.nackSn ≠ sn)
    (hrange : ∀ r ∈ kept, r.nackSn ≠ sn → r.lastSn pdu.modNr ≠ sn) :
    ∀ p ∈ kept.flatMap (RlcAmStatusNack.positions pdu.modNr),
      snDist pdu.modNr base p.sn < snDist pdu.modNr base sn := by
  intro p hp
  have hmod : 0 < pdu.modNr := Nat.zero_lt_of_lt hsn
  obtain ⟨q, hq, rfl⟩ := hcut
  have hle := h.le_of_split hsplit hp hq
  apply Nat.lt_of_le_of_ne hle
  intro heq
  obtain ⟨n, hn, hpart⟩ := List.mem_flatMap.mp hp
  obtain ⟨i, hi, rfl⟩ := List.mem_map.mp hpart
  rw [List.mem_range] at hi
  have hmem : n ∈ pdu.nacks := by
    rw [hsplit]
    exact List.mem_append_left tail hn
  have hsame : (n.nackSn + i) % pdu.modNr = q.sn := eq_of_snDist (Nat.mod_lt _ hmod) hsn heq
  have hend : i + 1 = n.range := by
    by_contra hne
    have hnext : i + 1 < n.range := by omega
    have hlt := h.lt_of_index hmem (Nat.lt_succ_self i) hnext
    have hle' := h.le_of_split hsplit
      (List.mem_flatMap.mpr ⟨n, hn, List.mem_map.mpr ⟨i + 1, List.mem_range.mpr hnext, rfl⟩⟩) hq
    rw [hsame] at hlt
    exact absurd hle' (Nat.not_le.mpr hlt)
  by_cases hfirst : n.nackSn = q.sn
  case neg =>
    apply hrange n hn hfirst
    unfold RlcAmStatusNack.lastSn
    rw [show n.range - 1 = i by omega]
    exact hsame
  case pos =>
    -- the last NACK that is kept stands between this one and the cut
    obtain ⟨front, z, rfl⟩ : ∃ front z, kept = front ++ [z] := by
      have hne : kept ≠ [] := List.ne_nil_of_mem hn
      exact ⟨_, _, (List.dropLast_append_getLast hne).symm⟩
    have hz : z.nackSn ≠ q.sn := hlast z (by simp)
    have hzmem : z ∈ pdu.nacks := by
      rw [hsplit]
      simp
    obtain ⟨pz, hpz, hpzSn⟩ := h.first_mem hzmem
    have hafter := h.le_of_split hsplit (List.mem_flatMap.mpr ⟨z, by simp, hpz⟩) hq
    rcases List.mem_append.mp hn with hfront | hn
    · obtain ⟨pn, hpn, hpnSn⟩ := h.first_mem hmem
      have hbefore := h.le_of_split (a := front) (b := z :: tail) (by rw [hsplit, List.append_assoc]; rfl)
        (List.mem_flatMap.mpr ⟨n, hfront, hpn⟩) (List.mem_flatMap.mpr ⟨z, List.mem_cons_self, hpz⟩)
      rw [hpnSn, hfirst, hpzSn] at hbefore
      rw [hpzSn] at hafter
      exact hz (eq_of_snDist (h.sn_lt z hzmem) hsn (Nat.le_antisymm hafter hbefore))
    · rw [List.mem_singleton.mp hn] at hfirst
      exact hz hfirst

lemma Ordered.after (h : Ordered base pdu) {kept tail : List RlcAmStatusNack} {y : RlcAmStatusNack}
    (hsplit : pdu.nacks = kept ++ y :: tail) :
    ∀ p ∈ (y :: tail).flatMap (RlcAmStatusNack.positions pdu.modNr),
      snDist pdu.modNr base y.nackSn ≤ snDist pdu.modNr base p.sn := by
  intro p hp
  have hy : y ∈ pdu.nacks := by
    rw [hsplit]
    simp
  have hysn := Nat.mod_eq_of_lt (h.sn_lt y hy)
  rw [List.flatMap_cons] at hp
  rcases List.mem_append.mp hp with hp | hp
  · obtain ⟨i, hi, rfl⟩ := List.mem_map.mp hp
    rcases Nat.eq_zero_or_pos i with rfl | hpos
    · exact Nat.le_of_eq (by rw [Nat.add_zero, hysn])
    · have hlt := h.lt_of_index hy hpos (List.mem_range.mp hi)
      rw [Nat.add_zero, hysn] at hlt
      exact Nat.le_of_lt hlt
  · obtain ⟨q, hq, hqSn⟩ := h.first_mem hy
    have := h.le_of_split (a := kept ++ [y]) (b := tail) (by rw [hsplit]; simp)
      (List.mem_flatMap.mpr ⟨y, by simp, hq⟩) hp
    rwa [hqSn] at this

end Order

section Peer

variable {cfg : RlcTxAmConfig} {peer : RlcTxAmEntity} {base ackSn ackSn' sn : Nat} {n : RlcAmStatusNack}

lemma peer_txModBase (hnext : peer.st.txNextAck < cfg.mod) (sn : Nat) :
    peer.txModBase cfg sn = snDist cfg.mod peer.st.txNextAck sn :=
  modBase_eq cfg.mod_dvd (hnext.trans cfg.mod_lt)

lemma validNackSn_earlier (hnext : peer.st.txNextAck < cfg.mod)
    (hsn : snDist cfg.mod base sn < snDist cfg.mod base ackSn')
    (hack : snDist cfg.mod base ackSn' < snDist cfg.mod base ackSn)
    (hvalid : peer.validNackSn cfg ackSn sn = true) (hvalid' : peer.validNackSn cfg ackSn ackSn' = true) :
    peer.validNackSn cfg ackSn' sn = true := by
  unfold RlcTxAmEntity.validNackSn at hvalid hvalid' ⊢
  rw [Bool.and_eq_true, decide_eq_true_iff, peer_txModBase hnext, peer_txModBase hnext] at hvalid hvalid' ⊢
  exact ⟨snDist_lt_of_lt (Nat.zero_lt_of_lt hnext) hsn hack hvalid.1 hvalid'.1, hvalid.2⟩

lemma validNack_iff : (peer.validNack cfg ackSn n).1 = true ↔
    (peer.validNackSn cfg ackSn n.nackSn = true ∧ peer.validNackSn cfg ackSn (RlcTxAmEntity.lastNackSn n) = true) ∧
      peer.beyondTxNext cfg n.nackSn = false ∧ peer.beyondTxNext cfg (RlcTxAmEntity.lastNackSn n) = false := by
  unfold RlcTxAmEntity.validNack
  cases peer.validNackSn cfg ackSn n.nackSn <;>
    cases peer.validNackSn cfg ackSn (RlcTxAmEntity.lastNackSn n) <;>
      cases peer.beyondTxNext cfg n.nackSn <;> cases peer.beyondTxNext cfg (RlcTxAmEntity.lastNackSn n) <;> simp

lemma checkNacks_iff {check : RlcAmStatusNack → Bool × List TxNotice} {nacks : List RlcAmStatusNack} :
    (RlcTxAmEntity.checkNacks check nacks).1 = true ↔ ∀ n ∈ nacks, (check n).1 = true := by
  induction nacks with
  | nil => exact iff_of_true rfl fun _ hn => (nomatch hn)
  | cons n ns ih =>
    unfold RlcTxAmEntity.checkNacks
    rw [List.forall_mem_cons, ← ih]
    rcases hcheck : check n with ⟨valid, notices⟩
    cases valid with
    | true => simp
    | false => simp

lemma lastNackSn_mod (hsn : n.nackSn < cfg.mod) (hrange : 1 ≤ n.range) :
    RlcTxAmEntity.lastNackSn n % cfg.mod = n.lastSn cfg.mod := by
  have hlt := n.nackRange.toNat_lt
  have hmod := cfg.mod_lt
  have hlarge : cfg.mod ≤ 262144 := by
    unfold RlcTxAmConfig.mod
    cases cfg.snFieldLength <;> decide
  unfold RlcTxAmEntity.lastNackSn RlcAmStatusNack.lastSn
  unfold RlcAmStatusNack.range at hrange ⊢
  cases hranged : n.hasNackRange with
  | false => rfl
  | true =>
    rw [hranged, if_pos rfl] at hrange
    have hindex : (n.nackSn + n.nackRange.toNat + 2 ^ 32 - 1) % 2 ^ 32 = n.nackSn + (n.nackRange.toNat - 1) := by omega
    rw [if_pos rfl, if_pos rfl, hindex]

end Peer

section Trim

variable {snSize : RlcAmSnSize} {base ackSn maxPackedSize : Nat} {nacks : List RlcAmStatusNack} {pdu : RlcAmStatusPdu}

lemma Ordered.trimmedValid (h : Ordered base pdu) {kept tail : List RlcAmStatusNack} {y : RlcAmStatusNack}
    (hsplit : pdu.nacks = kept ++ y :: tail) (hfit : sizeWith pdu.snSize kept ≤ maxPackedSize)
    (hbefore : ∀ p ∈ kept.flatMap (RlcAmStatusNack.positions pdu.modNr),
      snDist pdu.modNr base p.sn < snDist pdu.modNr base y.nackSn) :
    TrimmedValid base maxPackedSize pdu
      (true, { pdu with nacks := kept, packedSize := sizeWith pdu.snSize kept, ackSn := y.nackSn }) where
  success := rfl
  fits := hfit
  inSync := rfl
  kept := ⟨y :: tail, hsplit.symm⟩
  before := hbefore
  complete := by
    intro p hp hlt
    unfold positions at hp
    rw [hsplit, List.flatMap_append] at hp
    rcases List.mem_append.mp hp with hp | hp
    · exact hp
    · exact absurd hlt (Nat.not_lt.mpr (h.after hsplit p hp))
  accepted := by
    intro cfg peer hsize hnext hvalid
    have hmod : cfg.mod = pdu.modNr := congrArg RlcAmSnSize.modulus hsize
    have hmem : ∀ n ∈ kept, n ∈ pdu.nacks := fun n hn => by
      rw [hsplit]
      exact List.mem_append_left _ hn
    have hy : y ∈ pdu.nacks := by
      rw [hsplit]
      simp
    rw [← hmod] at hbefore
    have hack : snDist cfg.mod base y.nackSn < snDist cfg.mod base pdu.ackSn := by
      obtain ⟨q, hq, hqSn⟩ := h.first_mem hy
      rw [← hqSn, hmod]
      exact h.beforeAck q (List.mem_flatMap.mpr ⟨y, hy, hq⟩)
    unfold RlcTxAmEntity.validNacks at hvalid ⊢
    rw [checkNacks_iff] at hvalid ⊢
    intro n hn
    have hrange := h.proper n (hmem n hn)
    have hsn : n.nackSn < cfg.mod := hmod ▸ h.sn_lt n (hmem n hn)
    obtain ⟨⟨hfirst, hlast⟩, hbeyond⟩ := validNack_iff.mp (hvalid n (hmem n hn))
    have hyValid := (validNack_iff.mp (hvalid y hy)).1.1
    have hfirstBefore : snDist cfg.mod base n.nackSn < snDist cfg.mod base y.nackSn := by
      obtain ⟨q, hq, hqSn⟩ := h.first_mem (hmem n hn)
      rw [← hqSn]
      rw [← hmod] at hq
      exact hbefore q (List.mem_flatMap.mpr ⟨n, hn, hq⟩)
    have hlastBefore : snDist cfg.mod base (RlcTxAmEntity.lastNackSn n) < snDist cfg.mod base y.nackSn := by
      rw [← snDist_mod_right, lastNackSn_mod hsn hrange]
      exact hbefore ⟨n.lastSn cfg.mod, _, _⟩ (List.mem_flatMap.mpr ⟨n, hn, List.mem_map.mpr
        ⟨n.range - 1, List.mem_range.mpr (by omega), rfl⟩⟩)
    exact validNack_iff.mpr ⟨⟨validNackSn_earlier hnext hfirstBefore hack hfirst hyValid,
      validNackSn_earlier hnext hlastBefore hack hlast hyValid⟩, hbeyond⟩

lemma Ordered.whole_valid (h : Ordered base pdu) (hfit : pdu.packedSize ≤ maxPackedSize) :
    TrimmedValid base maxPackedSize pdu (pdu.trim maxPackedSize) := by
  unfold trim
  rw [if_pos hfit]
  exact ⟨rfl, hfit, h.inSync, List.prefix_refl _, h.beforeAck, fun p hp _ => hp, fun _ _ _ _ hvalid => hvalid⟩

lemma Ordered.range_kept (h : Ordered base pdu) {kept same : List RlcAmStatusNack} {sn : Nat}
    (hmem : ∀ n ∈ kept ++ same, n ∈ pdu.nacks) (hsame : ∀ n ∈ same, n.nackSn = sn) {r : RlcAmStatusNack}
    (hr : r ∈ kept ++ same) (hfirst : r.nackSn ≠ sn) (hend : r.lastSn pdu.modNr = sn) :
    ∃ p ∈ kept.flatMap (RlcAmStatusNack.positions pdu.modNr), p.sn = sn := by
  have hrange := h.proper r (hmem r hr)
  rcases List.mem_append.mp hr with hr' | hr'
  · exact ⟨_, List.mem_flatMap.mpr ⟨r, hr', List.mem_map.mpr ⟨r.range - 1, List.mem_range.mpr (by omega), rfl⟩⟩, hend⟩
  · exact absurd (hsame r hr') hfirst

lemma Ordered.trim_valid_iff (h : Ordered base pdu) (hheader : sizeofHeaderAckSn ≤ maxPackedSize) :
    TrimmedValid base maxPackedSize pdu (pdu.trim maxPackedSize) ↔ CutsNoRange pdu maxPackedSize := by
  by_cases hfit : pdu.packedSize ≤ maxPackedSize
  · apply iff_of_true (h.whole_valid hfit)
    intro fit x rest hsplit _ hcut
    have hle := sizeWith_le pdu.snSize rest.reverse (fit ++ [x]).reverse
    rw [← List.reverse_append, sizeWith_reverse, sizeWith_reverse, List.append_assoc, List.singleton_append,
      ← hsplit, ← h.inSync] at hle
    omega
  · obtain ⟨kept, same, x, rest, hsplit, hfits, hcut, hsame, hlast, hkept, htrim⟩ :=
      trim_spec h.inSync hheader (Nat.not_le.mp hfit)
    have hmem : ∀ n ∈ kept ++ same, n ∈ pdu.nacks := fun n hn => by
      rw [hsplit]
      exact List.mem_append_left _ hn
    have hx : x ∈ pdu.nacks := by
      rw [hsplit]
      simp
    -- the first NACK that is dropped
    obtain ⟨y, tail, htail, hySn⟩ : ∃ y tail, same ++ x :: rest = y :: tail ∧ y.nackSn = x.nackSn := by
      cases same with
      | nil => exact ⟨x, rest, rfl, rfl⟩
      | cons y ys => exact ⟨y, ys ++ x :: rest, rfl, hsame y List.mem_cons_self⟩
    have hsplit' : pdu.nacks = kept ++ y :: tail := by rw [hsplit, List.append_assoc, htail]
    have hcutAt : ∃ q ∈ (y :: tail).flatMap (RlcAmStatusNack.positions pdu.modNr), q.sn = y.nackSn := by
      obtain ⟨q, hq, hqSn⟩ := h.first_mem (n := y) (by rw [hsplit']; simp)
      exact ⟨q, List.mem_flatMap.mpr ⟨y, List.mem_cons_self, hq⟩, hqSn⟩
    rw [htrim, ← hySn]
    constructor
    · intro hvalid fit x' rest' hsplit₁ hfits₁ hcut₁ r hr hfirst hend
      have hsplits : kept ++ same ++ x :: rest = fit ++ x' :: rest' := hsplit.symm.trans hsplit₁
      have hfit₁ : fit = kept ++ same :=
        (isPrefix_of_fits hsplits hfits₁ hcut).eq_of_length_le (isPrefix_of_fits hsplits.symm hfits hcut₁).length_le
      rw [hfit₁] at hsplits hr
      obtain ⟨hx', -⟩ := List.cons.inj (List.append_cancel_left hsplits)
      rw [← hx'] at hfirst hend
      obtain ⟨p, hp, hpSn⟩ := h.range_kept hmem hsame hr hfirst hend
      have hlt := hvalid.before p hp
      rw [hpSn, hySn] at hlt
      exact absurd hlt (Nat.lt_irrefl _)
    · intro hno
      apply h.trimmedValid hsplit' hkept
      apply h.before hsplit' (hySn ▸ h.sn_lt x hx) hcutAt (fun z hz => hySn ▸ hlast z hz)
      intro r hr hfirst
      rw [hySn] at hfirst ⊢
      exact hno (kept ++ same) x rest hsplit hfits hcut r (List.mem_append_left _ hr) hfirst

/-- `trim` leaves a valid report if and only if no NACK range among the NACKs that fit ends at the SN of the first NACK
that does not fit and begins before it. -/
theorem status_trim_valid_iff (h : NackReport snSize base ackSn nacks) (hheader : sizeofHeaderAckSn ≤ maxPackedSize) :
    TrimmedValid base maxPackedSize (build snSize nacks ackSn) ((build snSize nacks ackSn).trim maxPackedSize) ↔
      CutsNoRange (build snSize nacks ackSn) maxPackedSize :=
  h.ordered.2.trim_valid_iff hheader

def partsOfLast : List RlcAmStatusNack :=
  [.ofSn 5, .ofSn 6, ⟨7, true, 0, 20, false, 0⟩, ⟨7, true, 30, 40, false, 0⟩, ⟨7, true, 50, 0xffff, false, 0⟩]

lemma partsOfLast_report : NackReport .size12bits 4 9 partsOfLast where
  ack_lt := by decide
  ranges := by decide
  sn_lt := by decide
  inOrder := by decide +kernel
  beforeAck := by decide +kernel

/-- All parts of SDU 7 but the one in the range are dropped. -/
theorem status_trim_valid_iff_parts :
    TrimmedValid 4 16 (build .size12bits partsOfLast 9) ((build .size12bits partsOfLast 9).trim 16) ↔
      CutsNoRange (build .size12bits partsOfLast 9) 16 :=
  status_trim_valid_iff partsOfLast_report (by decide)

def somePeer : RlcTxAmConfig × RlcTxAmEntity :=
  let cfg : RlcTxAmConfig := ⟨.size12bits, .size12bits, false, 45, 4, 4, 25, 16, by decide, 4096, 0⟩
  (cfg, { RlcTxAmEntity.init cfg with st := ⟨0, 10, 0, 0, 0⟩ })

/-- The range from 5 to 7 is kept with the ACK_SN 7, and a peer that finds the report valid rejects the trimmed one. -/
theorem status_trim_not_valid :
    NackReport .size12bits 4 9 partsOfLast ∧
      ((build .size12bits partsOfLast 9).trim 16).2 =
        { build .size12bits partsOfLast 9 with
          nacks := [⟨5, true, 0, 20, true, 3⟩], packedSize := 10, ackSn := 7 } ∧
      (somePeer.2.validNacks somePeer.1 9 (build .size12bits partsOfLast 9).nacks).1 = true ∧
      (somePeer.2.validNacks somePeer.1 7 ((build .size12bits partsOfLast 9).trim 16).2.nacks).1 = false ∧
      ¬ TrimmedValid 4 16 (build .size12bits partsOfLast 9) ((build .size12bits partsOfLast 9).trim 16) := by
  refine ⟨partsOfLast_report, by decide +kernel, by decide +kernel, by decide +kernel, ?_⟩
  intro hvalid
  have hlt := hvalid.before ⟨7, 0, 20⟩ (by decide +kernel)
  exact absurd hlt (by decide +kernel)

end Trim

end RlcAmStatusPdu

end OwlsRan.Rlc
