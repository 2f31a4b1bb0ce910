import OwlsRan.Rlc.RlcTxAmEntity
import OwlsRan.Rlc.StatusPduCodec

/-!
# Merged NACKs

`push_nack` merges a NACK into the one before where the SNs follow each other and the bytes meet.
-/

namespace OwlsRan.Rlc
open OwlsRan.Lib

structure NackPosition where
  sn : Nat
  first : UInt16
  last : UInt16
deriving DecidableEq

namespace RlcAmStatusNack

def firstByte (n : RlcAmStatusNack) : UInt16 := if n.hasSo then n.soStart else 0

def lastByte (n : RlcAmStatusNack) : UInt16 := if n.hasSo then n.soEnd else soEndOfSdu

def positions (modulus : Nat) (n : RlcAmStatusNack) : List NackPosition :=
  (List.range n.range).map fun i =>
    ⟨(n.nackSn + i) % modulus, if i = 0 then n.firstByte else 0, if i + 1 = n.range then n.lastByte else soEndOfSdu⟩

lemma positions_of_plain {modulus : Nat} {n : RlcAmStatusNack} (hplain : n.hasNackRange = false)
    (hsn : n.nackSn < modulus) : n.positions modulus = [⟨n.nackSn, n.firstByte, n.lastByte⟩] := by
  have hrange : n.range = 1 := by
    unfold range
    rw [hplain]
    rfl
  unfold positions
  rw [hrange]
  simp [Nat.mod_eq_of_lt hsn]

end RlcAmStatusNack

namespace RlcAmStatusPdu

def positions (pdu : RlcAmStatusPdu) : List NackPosition := pdu.nacks.flatMap (RlcAmStatusNack.positions pdu.modNr)

section Merging

variable {modNr : Nat} {prev nack : RlcAmStatusNack}

lemma merge_firstByte (prev nack : RlcAmStatusNack) : (merge prev nack).firstByte = prev.firstByte := by
  unfold RlcAmStatusNack.firstByte merge mergedSo
  cases hnack : nack.hasSo <;> cases hprev : prev.hasSo <;> simp [hprev]

lemma merge_lastByte (prev nack : RlcAmStatusNack) : (merge prev nack).lastByte = nack.lastByte := by
  unfold RlcAmStatusNack.lastByte merge mergedSo
  cases hnack : nack.hasSo <;> cases hprev : prev.hasSo <;> simp [hprev]

lemma canBeMerged_meets (h : canBeMerged modNr prev nack = true) :
    nack.nackSn = (prev.nackSn + prev.range) % modNr ∧ prev.lastByte = RlcAmStatusNack.soEndOfSdu ∧
      nack.firstByte = 0 := by
  obtain ⟨hsn, hend, hstart, -⟩ := canBeMerged_iff.mp h
  refine ⟨?_, ?_, ?_⟩
  · rw [hsn]
    unfold RlcAmStatusNack.range
    cases prev.hasNackRange <;> rfl
  · unfold RlcAmStatusNack.lastByte
    split
    case isTrue hso => exact hend hso
    case isFalse => rfl
  · unfold RlcAmStatusNack.firstByte
    split
    case isTrue hso => exact hstart hso
    case isFalse => rfl

lemma merge_positions (h : canBeMerged modNr prev nack = true) (hprev : 1 ≤ prev.range) (hnack : 1 ≤ nack.range) :
    (merge prev nack).positions modNr = prev.positions modNr ++ nack.positions modNr := by
  obtain ⟨hsn, hend, hstart⟩ := canBeMerged_meets h
  unfold RlcAmStatusNack.positions
  rw [merge_range (canBeMerged_iff.mp h).2.2.2, merge_firstByte, merge_lastByte, merge_nackSn, List.range_add,
    List.map_append, List.map_map]
  congr 1
  · apply List.map_congr_left
    intro i hi
    have hlt := List.mem_range.mp hi
    have hlast : ¬ i + 1 = prev.range + nack.range := by omega
    rw [if_neg hlast, hend]
    simp
  · apply List.map_congr_left
    intro j _
    have hmod : (prev.nackSn + (prev.range + j)) % modNr = (nack.nackSn + j) % modNr := by
      rw [hsn, Nat.mod_add_mod, Nat.add_assoc]
    have hfirst : ¬ prev.range + j = 0 := by omega
    have hlast : prev.range + j + 1 = prev.range + nack.range ↔ j + 1 = nack.range := by omega
    simp only [Function.comp_apply, hmod, if_neg hfirst, hlast, hstart, ite_self]

def RangesProper (pdu : RlcAmStatusPdu) : Prop := ∀ n ∈ pdu.nacks, 1 ≤ n.range

lemma pushNack_positions {pdu : RlcAmStatusPdu} (h : pdu.RangesProper) (hnack : 1 ≤ nack.range) :
    (pdu.pushNack nack).RangesProper ∧
      (pdu.pushNack nack).positions = pdu.positions ++ nack.positions pdu.modNr := by
  have happend : (pdu.append nack).RangesProper ∧
      (pdu.append nack).positions = pdu.positions ++ nack.positions pdu.modNr := by
    constructor
    · intro n hn
      rcases List.mem_append.mp hn with hn | hn
      · exact h n hn
      · rw [List.mem_singleton.mp hn]
        exact hnack
    · unfold positions append modNr
      simp
  unfold pushNack
  split
  case h_1 => exact happend
  case h_2 prev hprev =>
    split
    case isFalse => exact happend
    case isTrue hmerged =>
      obtain ⟨front, hfront⟩ : ∃ front, pdu.nacks = front ++ [prev] :=
        ⟨_, (List.dropLast_append_getLast? prev hprev).symm⟩
      have hmem : prev ∈ pdu.nacks := by
        rw [hfront]
        simp
      have hprevRange := h prev hmem
      constructor
      · intro n hn
        change n ∈ pdu.nacks.dropLast ++ [merge prev nack] at hn
        rcases List.mem_append.mp hn with hn | hn
        · exact h n (List.dropLast_subset _ hn)
        · rw [List.mem_singleton.mp hn, merge_range (canBeMerged_iff.mp hmerged).2.2.2]
          omega
      · unfold positions modNr at *
        change (pdu.nacks.dropLast ++ [merge prev nack]).flatMap _ = _
        rw [hfront, List.dropLast_concat, List.flatMap_append, List.flatMap_append, List.flatMap_singleton,
          List.flatMap_singleton, merge_positions hmerged hprevRange hnack, List.append_assoc]

lemma pushes_positions {pdu : RlcAmStatusPdu} {nacks : List RlcAmStatusNack} (h : pdu.RangesProper)
    (hranges : ∀ n ∈ nacks, 1 ≤ n.range) :
    (nacks.foldl pushNack pdu).RangesProper ∧
      (nacks.foldl pushNack pdu).positions = pdu.positions ++ nacks.flatMap (RlcAmStatusNack.positions pdu.modNr) := by
  induction nacks generalizing pdu with
  | nil => exact ⟨h, by simp⟩
  | cons n ns ih =>
    obtain ⟨hproper, hpositions⟩ := pushNack_positions h (hranges n List.mem_cons_self)
    have hmod : (pdu.pushNack n).modNr = pdu.modNr := congrArg RlcAmSnSize.modulus pushNack_snSize
    obtain ⟨hproper', hpositions'⟩ := ih hproper fun m hm => hranges m (List.mem_cons_of_mem n hm)
    refine ⟨hproper', ?_⟩
    rw [List.foldl_cons, hpositions', hpositions, hmod, List.flatMap_cons, List.append_assoc]

end Merging

lemma build_positions (snSize : RlcAmSnSize) {nacks : List RlcAmStatusNack} (ackSn : Nat)
    (hranges : ∀ n ∈ nacks, 1 ≤ n.range) :
    (build snSize nacks ackSn).RangesProper ∧
      (build snSize nacks ackSn).positions = nacks.flatMap (RlcAmStatusNack.positions snSize.modulus) := by
  have hnew : (new snSize).RangesProper := fun _ hn => (nomatch hn)
  exact pushes_positions hnew hranges

end RlcAmStatusPdu

namespace RlcTxAmEntity

section Expansion

variable {cfg : RlcTxAmConfig} {ackSn : Nat} {nack : RlcAmStatusNack}

def rangeItems (cfg : RlcTxAmConfig) (ackSn : Nat) (nack : RlcAmStatusNack) : Nat → Nat → List RlcAmStatusNack
  | 0, _ => []
  | fuel + 1, rangeSn =>
    if rangeSn = (nack.nackSn + nack.nackRange.toNat) % cfg.mod then []
    else if rangeSn = ackSn then []
    else rangeItem cfg nack rangeSn :: rangeItems cfg ackSn nack fuel ((rangeSn + 1) % cfg.mod)

/-- The NACKs of single SNs that `handle_status_pdu` makes of a NACK. -/
def expand (cfg : RlcTxAmConfig) (ackSn : Nat) (nack : RlcAmStatusNack) : List RlcAmStatusNack :=
  if nack.hasNackRange then rangeItems cfg ackSn nack cfg.mod nack.nackSn else [nack]

def processItem (cfg : RlcTxAmConfig) (st : RlcTxAmEntity × Option Nat) (item : RlcAmStatusNack) :
    Except RlcAbort (RlcTxAmEntity × Option Nat) := processNack cfg st.1 st.2 item

lemma range_lt_mod (cfg : RlcTxAmConfig) (nack : RlcAmStatusNack) : nack.nackRange.toNat < cfg.mod := by
  have hlt := nack.nackRange.toNat_lt
  unfold RlcTxAmConfig.mod
  cases cfg.snFieldLength
  · rw [RlcAmSnSize.modulus_size12bits]
    omega
  · rw [RlcAmSnSize.modulus_size18bits]
    omega

lemma add_mod_next (sn k : Nat) : ((sn + k) % cfg.mod + 1) % cfg.mod = (sn + (k + 1)) % cfg.mod := by
  rw [Nat.mod_add_mod, Nat.add_assoc]

lemma processNackRange_eq {fuel k : Nat} (hk : k ≤ nack.nackRange.toNat) (hfuel : nack.nackRange.toNat - k < fuel)
    (s : RlcTxAmEntity) (prevRetxSn : Option Nat) :
    processNackRange cfg ackSn nack fuel s prevRetxSn ((nack.nackSn + k) % cfg.mod) =
      (rangeItems cfg ackSn nack fuel ((nack.nackSn + k) % cfg.mod)).foldlM (processItem cfg) (s, prevRetxSn) := by
  induction fuel generalizing k s prevRetxSn with
  | zero => omega
  | succ fuel ih =>
    unfold processNackRange rangeItems
    by_cases hend : (nack.nackSn + k) % cfg.mod = (nack.nackSn + nack.nackRange.toNat) % cfg.mod
    · rw [if_pos hend, if_pos hend]
      rfl
    · have hlt : k < nack.nackRange.toNat := by
        rcases Nat.lt_or_eq_of_le hk with hlt | rfl
        · exact hlt
        · exact absurd rfl hend
      rw [if_neg hend, if_neg hend]
      by_cases hack : (nack.nackSn + k) % cfg.mod = ackSn
      · rw [if_pos hack, if_pos hack]
        rfl
      · rw [if_neg hack, if_neg hack, List.foldlM_cons, add_mod_next]
        apply bind_congr
        intro st
        exact ih hlt (by omega) st.1 st.2

lemma processNacks_eq {nacks : List RlcAmStatusNack} (hsn : ∀ n ∈ nacks, n.nackSn < cfg.mod) (s : RlcTxAmEntity)
    (prevRetxSn : Option Nat) :
    processNacks cfg ackSn nacks s prevRetxSn =
      ((nacks.flatMap (expand cfg ackSn)).foldlM (processItem cfg) (s, prevRetxSn)).map Prod.fst := by
  induction nacks generalizing s prevRetxSn with
  | nil => rfl
  | cons n ns ih =>
    have hrest : ∀ x : Except RlcAbort (RlcTxAmEntity × Option Nat),
        (x >>= fun st => processNacks cfg ackSn ns st.1 st.2) =
          (x >>= fun st => (ns.flatMap (expand cfg ackSn)).foldlM (processItem cfg) st).map Prod.fst := by
      intro x
      cases x with
      | error a => rfl
      | ok st => exact ih (fun m hm => hsn m (List.mem_cons_of_mem n hm)) st.1 st.2
    unfold processNacks
    rw [List.flatMap_cons, List.foldlM_append]
    cases hrange : n.hasNackRange with
    | true =>
      have hloop : processNackRange cfg ackSn n cfg.mod s prevRetxSn ((n.nackSn + 0) % cfg.mod) = _ :=
        processNackRange_eq (Nat.zero_le _) (range_lt_mod cfg n) s prevRetxSn
      rw [Nat.add_zero, Nat.mod_eq_of_lt (hsn n List.mem_cons_self)] at hloop
      have hexpand : expand cfg ackSn n = rangeItems cfg ackSn n cfg.mod n.nackSn := if_pos hrange
      rw [hexpand, ← hloop]
      exact hrest _
    | false =>
      have hexpand : expand cfg ackSn n = [n] := by
        unfold expand
        rw [hrange]
        rfl
      rw [hexpand, List.foldlM_cons]
      simp only [List.foldlM_nil, bind_pure]
      exact hrest _

lemma rangeItems_eq {m fuel k : Nat} (hk : k + m = nack.nackRange.toNat) (hfuel : m < fuel)
    (hack : ∀ i < nack.nackRange.toNat, (nack.nackSn + i) % cfg.mod ≠ ackSn) :
    rangeItems cfg ackSn nack fuel ((nack.nackSn + k) % cfg.mod) =
      (List.range' k m).map fun i => rangeItem cfg nack ((nack.nackSn + i) % cfg.mod) := by
  induction m generalizing fuel k with
  | zero =>
    obtain ⟨fuel, rfl⟩ : ∃ f, fuel = f + 1 := ⟨fuel - 1, by omega⟩
    unfold rangeItems
    rw [if_pos (by rw [← hk, Nat.add_zero])]
    rfl
  | succ m ih =>
    obtain ⟨fuel, rfl⟩ : ∃ f, fuel = f + 1 := ⟨fuel - 1, by omega⟩
    unfold rangeItems
    rw [if_neg (add_mod_ne (by omega) (range_lt_mod cfg nack)), if_neg (hack k (by omega)), add_mod_next,
      ih (by omega) (by omega), List.range'_succ, List.map_cons]

lemma spans_of_hasSo {n : RlcAmStatusNack}
    (h : n.hasSo = false → n.soStart = 0 ∧ n.soEnd = RlcAmStatusNack.soEndOfSdu) :
    n.firstByte = n.soStart ∧ n.lastByte = n.soEnd := by
  unfold RlcAmStatusNack.firstByte RlcAmStatusNack.lastByte
  cases hso : n.hasSo with
  | true => exact ⟨rfl, rfl⟩
  | false => exact ⟨(h hso).1.symm, (h hso).2.symm⟩

lemma rangeItem_spec (cfg : RlcTxAmConfig) (nack : RlcAmStatusNack) (rangeSn : Nat) :
    (rangeItem cfg nack rangeSn).nackSn = rangeSn ∧ (rangeItem cfg nack rangeSn).hasNackRange = false ∧
      (rangeItem cfg nack rangeSn).firstByte = (if rangeSn = nack.nackSn then nack.firstByte else 0) ∧
      (rangeItem cfg nack rangeSn).lastByte =
        if rangeSn = lastNackSn nack % cfg.mod then nack.lastByte else RlcAmStatusNack.soEndOfSdu := by
  cases hso : nack.hasSo with
  | false =>
    have hitem : rangeItem cfg nack rangeSn = .ofSn rangeSn := by
      unfold rangeItem
      rw [hso]
      rfl
    have hfirst : nack.firstByte = 0 := by
      unfold RlcAmStatusNack.firstByte
      rw [hso]
      rfl
    have hlast : nack.lastByte = RlcAmStatusNack.soEndOfSdu := by
      unfold RlcAmStatusNack.lastByte
      rw [hso]
      rfl
    rw [hitem, hfirst, hlast, ite_self, ite_self]
    exact ⟨rfl, rfl, rfl, rfl⟩
  | true =>
    have hfirst : nack.firstByte = nack.soStart := if_pos hso
    have hlast : nack.lastByte = nack.soEnd := if_pos hso
    have hitem : rangeItem cfg nack rangeSn =
        { RlcAmStatusNack.ofSn rangeSn with
          soStart := if rangeSn = nack.nackSn then nack.soStart else 0
          soEnd := if rangeSn = lastNackSn nack % cfg.mod then nack.soEnd else RlcAmStatusNack.soEndOfSdu
          hasSo := (if rangeSn = nack.nackSn then nack.soStart else 0) ≠ 0 ||
            (if rangeSn = lastNackSn nack % cfg.mod then nack.soEnd else RlcAmStatusNack.soEndOfSdu) ≠
              RlcAmStatusNack.soEndOfSdu } := by
      unfold rangeItem
      rw [hso]
      rfl
    have hspans := spans_of_hasSo (n := rangeItem cfg nack rangeSn) fun hnone => by
      rw [hitem] at hnone ⊢
      simpa using hnone
    rw [hspans.1, hspans.2, hitem, hfirst, hlast]
    exact ⟨rfl, rfl, rfl, rfl⟩

lemma rangeItem_positions {i : Nat} (hsn : nack.nackSn < cfg.mod) (hrange : nack.hasNackRange = true)
    (hi : i < nack.nackRange.toNat) :
    (rangeItem cfg nack ((nack.nackSn + i) % cfg.mod)).positions cfg.mod =
      [⟨(nack.nackSn + i) % cfg.mod, if i = 0 then nack.firstByte else 0,
        if i + 1 = nack.range then nack.lastByte else RlcAmStatusNack.soEndOfSdu⟩] := by
  have hlen := range_lt_mod cfg nack
  have hmod : cfg.mod ≤ 262144 := by
    unfold RlcTxAmConfig.mod
    cases cfg.snFieldLength <;> decide
  have hwhole : nack.range = nack.nackRange.toNat := by
    unfold RlcAmStatusNack.range
    rw [if_pos hrange]
  have hfirst : (nack.nackSn + i) % cfg.mod = nack.nackSn ↔ i = 0 := by
    constructor
    · intro heq
      by_contra hne
      have : (nack.nackSn + 0) % cfg.mod ≠ (nack.nackSn + i) % cfg.mod :=
        add_mod_ne (Nat.pos_of_ne_zero hne) (by omega)
      rw [Nat.add_zero, Nat.mod_eq_of_lt hsn] at this
      exact this heq.symm
    · rintro rfl
      rw [Nat.add_zero, Nat.mod_eq_of_lt hsn]
  have hlastSn : lastNackSn nack = nack.nackSn + (nack.nackRange.toNat - 1) := by
    unfold lastNackSn
    rw [if_pos hrange]
    omega
  have hlast : (nack.nackSn + i) % cfg.mod = lastNackSn nack % cfg.mod ↔ i + 1 = nack.range := by
    rw [hlastSn, hwhole]
    constructor
    · intro heq
      by_contra hne
      exact add_mod_ne (by omega) (by omega) heq
    · intro heq
      rw [show nack.nackRange.toNat - 1 = i by omega]
  obtain ⟨hitemSn, hplain, hitemFirst, hitemLast⟩ := rangeItem_spec cfg nack ((nack.nackSn + i) % cfg.mod)
  have hlt : (nack.nackSn + i) % cfg.mod < cfg.mod := Nat.mod_lt _ (Nat.zero_lt_of_lt hsn)
  rw [RlcAmStatusNack.positions_of_plain hplain (by rw [hitemSn]; exact hlt), hitemSn, hitemFirst, hitemLast]
  simp only [hfirst, hlast]

lemma expand_positions (hsn : nack.nackSn < cfg.mod)
    (hack : ∀ i < nack.range, (nack.nackSn + i) % cfg.mod ≠ ackSn) :
    (expand cfg ackSn nack).flatMap (RlcAmStatusNack.positions cfg.mod) = nack.positions cfg.mod := by
  unfold expand
  split
  case isFalse => rw [List.flatMap_singleton]
  case isTrue hrange =>
    have hwhole : nack.range = nack.nackRange.toNat := by
      unfold RlcAmStatusNack.range
      rw [if_pos hrange]
    rw [hwhole] at hack
    have hitems : rangeItems cfg ackSn nack cfg.mod ((nack.nackSn + 0) % cfg.mod) = _ :=
      rangeItems_eq (Nat.zero_add _) (range_lt_mod cfg nack) hack
    rw [Nat.add_zero, Nat.mod_eq_of_lt hsn] at hitems
    rw [hitems, List.flatMap_map, ← List.range_eq_range']
    unfold RlcAmStatusNack.positions
    rw [hwhole, List.map_eq_flatMap]
    apply List.flatMap_congr
    intro i hi
    have := rangeItem_positions hsn hrange (List.mem_range.mp hi)
    rw [hwhole] at this
    exact this

/-- The list that `push_nack` holds stands for the parts of the SDUs that were pushed, and so does what the transmitter
expands it to. No range exceeds the 8 bits of its counter. -/
theorem nack_merging_preserves (cfg : RlcTxAmConfig) (nacks : List RlcAmStatusNack) (ackSn : Nat)
    (hranges : ∀ n ∈ nacks, 1 ≤ n.range) (hsns : ∀ n ∈ nacks, n.nackSn < cfg.mod)
    (hack : ∀ p ∈ nacks.flatMap (RlcAmStatusNack.positions cfg.mod), p.sn ≠ ackSn) :
    let pdu := RlcAmStatusPdu.build cfg.snFieldLength nacks ackSn
    pdu.positions = nacks.flatMap (RlcAmStatusNack.positions cfg.mod) ∧
      (∀ n ∈ pdu.nacks, n.hasNackRange = true → 1 ≤ n.nackRange.toNat ∧ n.nackRange.toNat ≤ 255) ∧
      (pdu.nacks.flatMap (expand cfg pdu.ackSn)).flatMap (RlcAmStatusNack.positions cfg.mod) =
        nacks.flatMap (RlcAmStatusNack.positions cfg.mod) := by
  intro pdu
  obtain ⟨hproper, hpositions⟩ : pdu.RangesProper ∧ _ := RlcAmStatusPdu.build_positions _ ackSn hranges
  obtain ⟨hsync, hsize⟩ := RlcAmStatusPdu.pushes_inSync (RlcAmStatusPdu.new_inSync cfg.snFieldLength) hsns
  have hmod : pdu.modNr = cfg.mod := congrArg RlcAmSnSize.modulus hsize
  have hparts : pdu.nacks.flatMap (RlcAmStatusNack.positions cfg.mod) =
      nacks.flatMap (RlcAmStatusNack.positions cfg.mod) := by
    rw [← hmod]
    exact hpositions.trans (by rw [hmod]; rfl)
  refine ⟨hpositions, fun n hn hrange => ⟨?_, ?_⟩, ?_⟩
  · have := hproper n hn
    unfold RlcAmStatusNack.range at this
    rwa [if_pos hrange] at this
  · have := n.nackRange.toNat_lt
    omega
  · rw [List.flatMap_assoc, ← hparts]
    apply List.flatMap_congr
    intro n hn
    apply expand_positions (hmod ▸ hsync.sns n hn)
    -- no SN of the list is the ACK_SN, because none of the SNs that were pushed is
    intro i hi
    obtain ⟨part, hpart, hpartSn⟩ : ∃ part ∈ n.positions cfg.mod, part.sn = (n.nackSn + i) % cfg.mod :=
      ⟨_, List.mem_map.mpr ⟨i, List.mem_range.mpr hi, rfl⟩, rfl⟩
    have hmem := List.mem_flatMap.mpr ⟨n, hn, hpart⟩
    rw [hparts] at hmem
    rw [← hpartSn]
    exact hack part hmem

/-- The end of one SDU, a whole one and the beginning of the next, around the wrap-around of the SNs. -/
theorem nack_merging_preserves_wrapAround :
    let nacks : List RlcAmStatusNack := [⟨4095, true, 3, 0xffff, false, 0⟩, .ofSn 0, ⟨1, true, 0, 7, false, 0⟩]
    let cfg : RlcTxAmConfig := ⟨.size12bits, .size12bits, false, 45, 4, 4, 25, 16, by decide, 4096, 0⟩
    let pdu := RlcAmStatusPdu.build .size12bits nacks 2
    pdu.positions = nacks.flatMap (RlcAmStatusNack.positions cfg.mod) ∧
      (∀ n ∈ pdu.nacks, n.hasNackRange = true → 1 ≤ n.nackRange.toNat ∧ n.nackRange.toNat ≤ 255) ∧
      (pdu.nacks.flatMap (expand cfg pdu.ackSn)).flatMap (RlcAmStatusNack.positions cfg.mod) =
        nacks.flatMap (RlcAmStatusNack.positions cfg.mod) := by
  intro nacks cfg
  exact nack_merging_preserves cfg nacks 2 (by decide) (by decide) (by decide +kernel)

end Expansion

end RlcTxAmEntity

end OwlsRan.Rlc
