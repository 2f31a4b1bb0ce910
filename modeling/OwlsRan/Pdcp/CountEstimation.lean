import OwlsRan.Pdcp.DiscardMoves

/-!
# COUNTs that are put together from an SN

The receiver does so for each data PDU, and the transmitter for each notification.
-/

namespace OwlsRan.Pdcp
open OwlsRan.Rlc OwlsRan.Support

def wrappedCount (count : Int) : Nat := (count + 2 ^ 32).toNat

section Receiver

variable (cfg : PdcpRxConfig) (s : PdcpRxEntity) (pdu : List UInt8) (sn : Nat)

def PdcpRxEntity.trueCount : Int := nearestCount cfg.snSize s.rxDeliv sn

/-- A PDU is given its COUNT, or is dropped in silence if that is negative. The upper layer is told of limits that the
COUNT really exceeds. -/
structure PdcpRxEntity.CountRight : Prop where
  computed : 0 ≤ s.trueCount cfg sn → (s.rcvdCount cfg sn : Int) = s.trueCount cfg sn
  dropped : s.trueCount cfg sn < 0 → (s.handleDataPdu cfg pdu).2 = ([], none)
  maxCount : .maxCountReached ∈ (s.handleDataPdu cfg pdu).2.1 → (cfg.maxCount.notify.toNat : Int) < s.trueCount cfg sn
  failure : .protocolFailure ∈ (s.handleDataPdu cfg pdu).2.1 → (cfg.maxCount.hard.toNat : Int) ≤ s.trueCount cfg sn

/-- The COUNT has 32 bits, or it is negative and the COUNT that is computed is above both limits, or above the hard one
alone, after the upper layer was told so. -/
def PdcpRxEntity.CountFits : Prop :=
  0 ≤ s.trueCount cfg sn ∧ s.trueCount cfg sn < 2 ^ 32 ∨
    s.trueCount cfg sn < 0 ∧ cfg.maxCount.hard.toNat ≤ wrappedCount (s.trueCount cfg sn) ∧ s.maxCountOverflow = true ∧
      (s.maxCountNotified = true ∨ wrappedCount (s.trueCount cfg sn) ≤ cfg.maxCount.notify.toNat)

variable {cfg s pdu sn}

lemma readDataPduHeader_lt (hread : PdcpRxEntity.readDataPduHeader cfg pdu = some sn) : sn < cfg.snSize.cardinality := by
  unfold PdcpRxEntity.readDataPduHeader at hread
  split at hread
  case h_1 b0 b1 _ _ hsize =>
    have h1 := b1.toNat_lt
    rw [hsize, PdcpSnSize.cardinality_size12bits, ← Option.some.inj hread]
    omega
  case h_2 b0 b1 b2 _ _ hsize =>
    have h1 := b1.toNat_lt
    have h2 := b2.toNat_lt
    rw [hsize, PdcpSnSize.cardinality_size18bits, ← Option.some.inj hread]
    omega
  case h_3 => cases hread

lemma wrappedCount_eq (hsn : sn < cfg.snSize.cardinality) (hneg : s.trueCount cfg sn < 0) :
    wrappedCount (s.trueCount cfg sn) = s.rcvdCount cfg sn := by
  have h := estimateCount_of_neg hsn hneg
  unfold wrappedCount PdcpRxEntity.trueCount PdcpRxEntity.rcvdCount
  omega

lemma handleDataPdu_spec (hread : PdcpRxEntity.readDataPduHeader cfg pdu = some sn) :
    (.maxCountReached ∈ (s.handleDataPdu cfg pdu).2.1 ↔
      cfg.maxCount.notify.toNat < s.rcvdCount cfg sn ∧ s.maxCountNotified = false) ∧
    (.protocolFailure ∈ (s.handleDataPdu cfg pdu).2.1 ↔
      cfg.maxCount.hard.toNat ≤ s.rcvdCount cfg sn ∧ s.maxCountOverflow = false) ∧
    ((s.handleDataPdu cfg pdu).2.2 = none ↔ cfg.maxCount.hard.toNat ≤ s.rcvdCount cfg sn) := by
  unfold PdcpRxEntity.handleDataPdu
  rw [hread]
  dsimp only
  by_cases hnotify : cfg.maxCount.notify.toNat < s.rcvdCount cfg sn <;> cases s.maxCountNotified <;>
    by_cases hhard : cfg.maxCount.hard.toNat ≤ s.rcvdCount cfg sn <;> cases s.maxCountOverflow <;> simp [hnotify, hhard]

lemma notes_eq_nil_iff {notes : List PdcpCountNotification} :
    notes = [] ↔ .maxCountReached ∉ notes ∧ .protocolFailure ∉ notes := by
  constructor
  · rintro rfl
    exact ⟨List.not_mem_nil, List.not_mem_nil⟩
  · rintro ⟨hmax, hfailure⟩
    apply List.eq_nil_iff_forall_not_mem.mpr
    intro note
    cases note with
    | maxCountReached => exact hmax
    | protocolFailure => exact hfailure

lemma countRight_of_fits (hread : PdcpRxEntity.readDataPduHeader cfg pdu = some sn) (hpos : 0 ≤ s.trueCount cfg sn)
    (hlt : s.trueCount cfg sn < 2 ^ 32) : s.CountRight cfg pdu sn := by
  have heq : (s.rcvdCount cfg sn : Int) = s.trueCount cfg sn :=
    (estimateCount_eq_iff (readDataPduHeader_lt hread) hpos).mpr hlt
  obtain ⟨hmax, hfailure, -⟩ := handleDataPdu_spec (s := s) hread
  constructor
  · exact fun _ => heq
  · intro hneg
    omega
  · intro hmem
    have hnotify := (hmax.mp hmem).1
    omega
  · intro hmem
    have hhard := (hfailure.mp hmem).1
    omega

lemma countRight_iff_of_neg (hread : PdcpRxEntity.readDataPduHeader cfg pdu = some sn) (hneg : s.trueCount cfg sn < 0) :
    s.CountRight cfg pdu sn ↔ cfg.maxCount.hard.toNat ≤ s.rcvdCount cfg sn ∧ s.maxCountOverflow = true ∧
      (s.maxCountNotified = true ∨ s.rcvdCount cfg sn ≤ cfg.maxCount.notify.toNat) := by
  obtain ⟨hmax, hfailure, hnone⟩ := handleDataPdu_spec (s := s) hread
  have hdropped : s.CountRight cfg pdu sn ↔ (s.handleDataPdu cfg pdu).2.1 = [] ∧ (s.handleDataPdu cfg pdu).2.2 = none := by
    constructor
    · intro h
      exact Prod.mk.inj (h.dropped hneg)
    · rintro ⟨hnotes, hpassed⟩
      refine ⟨fun hpos => by omega, fun _ => Prod.ext hnotes hpassed, fun hmem => ?_, fun hmem => ?_⟩
      · rw [hnotes] at hmem
        cases hmem
      · rw [hnotes] at hmem
        cases hmem
  rw [hdropped, notes_eq_nil_iff, hmax, hfailure, hnone]
  cases s.maxCountNotified <;> cases s.maxCountOverflow <;> grind

lemma countRight_iff (hread : PdcpRxEntity.readDataPduHeader cfg pdu = some sn) :
    s.CountRight cfg pdu sn ↔ s.CountFits cfg sn := by
  have hsn := readDataPduHeader_lt hread
  unfold PdcpRxEntity.CountFits
  by_cases hpos : 0 ≤ s.trueCount cfg sn
  · have hexact := estimateCount_eq_iff hsn hpos
    constructor
    · intro h
      exact .inl ⟨hpos, hexact.mp (h.computed hpos)⟩
    · rintro (⟨-, hlt⟩ | ⟨hneg, -⟩)
      · exact countRight_of_fits hread hpos hlt
      · omega
  · have hneg : s.trueCount cfg sn < 0 := by omega
    rw [countRight_iff_of_neg hread hneg, wrappedCount_eq hsn hneg]
    constructor
    · exact fun h => .inr ⟨hneg, h⟩
    · rintro (⟨hge, -⟩ | ⟨-, h⟩)
      · exact absurd hge hpos
      · exact h

end Receiver

section Transmitter

variable (cfg : PdcpTxConfig) (s : PdcpTxEntity) (sn : Nat)

namespace PdcpTxEntity

/-- `tx_lower`, the edge of the window around which the COUNT is looked for. -/
def txLower : Nat := if cfg.discardTimer.isSome then s.txNextAck else s.txTrans

def trueCount : Int := nearestCount cfg.snSize (s.txLower cfg) sn

structure CountRight : Prop where
  computed : 0 ≤ s.trueCount cfg sn → (s.notificationCountEstimation cfg sn : Int) = s.trueCount cfg sn
  transmit : s.trueCount cfg sn < 0 → s.handleTransmitNotification cfg sn = .ok s
  delivery : s.trueCount cfg sn < 0 → s.handleDeliveryNotification cfg sn = .ok s

def TakesTransmit (count : Nat) : Prop :=
  s.stopped = false ∧ count < s.txTransCrypto ∧ s.txTrans ≤ count ∧ count < s.txNext

instance (count : Nat) : Decidable (s.TakesTransmit count) := inferInstanceAs (Decidable (_ ∧ _ ∧ _ ∧ _))

def TakesDelivery (count : Nat) : Prop := s.stopped = false ∧ cfg.isAm = true ∧ StopsTimers cfg s count

/-- The COUNT has 32 bits, or it is negative and the COUNT that is computed is not taken by notifications. -/
def CountFits : Prop :=
  0 ≤ s.trueCount cfg sn ∧ s.trueCount cfg sn < 2 ^ 32 ∨
    s.trueCount cfg sn < 0 ∧ ¬s.TakesTransmit (wrappedCount (s.trueCount cfg sn)) ∧
      ¬s.TakesDelivery cfg (wrappedCount (s.trueCount cfg sn))

end PdcpTxEntity

variable {cfg s sn}

open PdcpTxEntity

lemma wrappedCount_eq_notification (hsn : sn < cfg.snSize.cardinality) (hneg : s.trueCount cfg sn < 0) :
    wrappedCount (s.trueCount cfg sn) = s.notificationCountEstimation cfg sn := by
  have h := estimateCount_of_neg hsn hneg
  unfold wrappedCount trueCount notificationCountEstimation
  change _ = estimateCount cfg.snSize (s.txLower cfg) sn
  omega

lemma handleTransmitNotification_ignored_iff (hsn : sn < cfg.snSize.cardinality) :
    s.handleTransmitNotification cfg sn = .ok s ↔ ¬s.TakesTransmit (s.notificationCountEstimation cfg sn) := by
  unfold handleTransmitNotification TakesTransmit
  generalize s.notificationCountEstimation cfg sn = count
  by_cases hstopped : s.stopped = true
  · rw [if_pos (.inl hstopped)]
    simp [hstopped]
  have hgoes : ¬(s.stopped = true ∨ cfg.snSize.cardinality ≤ sn) := by
    rw [not_or]
    exact ⟨hstopped, Nat.not_le.mpr hsn⟩
  rw [if_neg hgoes]
  dsimp only
  by_cases hout : s.txTransCrypto ≤ count ∨ count < s.txTrans ∨ s.txNext ≤ count
  · rw [if_pos hout]
    refine iff_of_true rfl fun h => ?_
    omega
  · rw [if_neg hout]
    have htakes : s.stopped = false ∧ count < s.txTransCrypto ∧ s.txTrans ≤ count ∧ count < s.txNext :=
      ⟨Bool.not_eq_true _ ▸ hstopped, by omega⟩
    refine iff_of_false (fun h => ?_) fun h => h htakes
    have hmoved : count + 1 ≤ s.txTrans := by
      split at h
      case isTrue => exact stopDiscardTimer_txTrans_le h
      case isFalse => exact Nat.le_of_eq (congrArg txTrans (Except.ok.inj h))
    omega

lemma handleDeliveryNotification_ignored_iff (hsn : sn < cfg.snSize.cardinality) :
    s.handleDeliveryNotification cfg sn = .ok s ↔ ¬s.TakesDelivery cfg (s.notificationCountEstimation cfg sn) := by
  unfold handleDeliveryNotification TakesDelivery
  generalize s.notificationCountEstimation cfg sn = count
  by_cases hstopped : s.stopped = true
  · rw [if_pos (.inl hstopped)]
    simp [hstopped]
  have hgoes : ¬(s.stopped = true ∨ cfg.snSize.cardinality ≤ sn) := by
    rw [not_or]
    exact ⟨hstopped, Nat.not_le.mpr hsn⟩
  rw [if_neg hgoes]
  dsimp only
  by_cases htakes : cfg.isAm = true ∧ StopsTimers cfg s count
  · obtain ⟨ham, hsome, hge, hlt, hpresent⟩ := htakes
    rw [if_neg (Nat.not_le.mpr hlt), if_pos ⟨hsome, ham⟩]
    refine iff_of_false (fun h => ?_) fun h => h ⟨Bool.not_eq_true _ ▸ hstopped, ham, hsome, hge, hlt, hpresent⟩
    have hack := (stopDiscardTimer_spec ⟨hsome, hge, hlt, hpresent⟩ h).txNextAck_eq
    omega
  · refine iff_of_true ?_ fun h => htakes h.2
    split
    case isTrue => rfl
    case isFalse =>
      split
      case isTrue ham => exact stopDiscardTimer_ignored fun heffect => htakes ⟨ham.2, heffect⟩
      case isFalse => rfl

lemma notificationRight_iff (hsn : sn < cfg.snSize.cardinality) : s.CountRight cfg sn ↔ s.CountFits cfg sn := by
  unfold PdcpTxEntity.CountFits
  by_cases hpos : 0 ≤ s.trueCount cfg sn
  · have hexact := estimateCount_eq_iff hsn hpos
    constructor
    · intro h
      exact .inl ⟨hpos, hexact.mp (h.computed hpos)⟩
    · rintro (⟨-, hlt⟩ | ⟨hneg, -⟩)
      · exact ⟨fun _ => hexact.mpr hlt, fun hneg => by omega, fun hneg => by omega⟩
      · omega
  · have hneg : s.trueCount cfg sn < 0 := by omega
    rw [wrappedCount_eq_notification hsn hneg, ← handleTransmitNotification_ignored_iff hsn,
      ← handleDeliveryNotification_ignored_iff hsn]
    constructor
    · exact fun h => .inr ⟨hneg, h.transmit hneg, h.delivery hneg⟩
    · rintro (⟨hge, -⟩ | ⟨-, htransmit, hdelivery⟩)
      · exact absurd hge hpos
      · exact ⟨fun hge => absurd hge hpos, fun _ => htransmit, fun _ => hdelivery⟩

end Transmitter

/-- Each SN has one COUNT in the window. The receiver and the transmitter find it, and drop or ignore what has a
negative one, exactly if the COUNT fits. -/
theorem count_reconstruction (rxCfg : PdcpRxConfig) (rx : PdcpRxEntity) (txCfg : PdcpTxConfig) (tx : PdcpTxEntity) :
    (∀ snSize edge sn, sn < snSize.cardinality → ∀ count, NearCount snSize edge sn count ↔ count = nearestCount snSize edge sn) ∧
    (∀ pdu sn, PdcpRxEntity.readDataPduHeader rxCfg pdu = some sn →
      (rx.CountRight rxCfg pdu sn ↔ rx.CountFits rxCfg sn)) ∧
    ∀ sn, sn < txCfg.snSize.cardinality → (tx.CountRight txCfg sn ↔ tx.CountFits txCfg sn) := by
  refine ⟨fun snSize edge sn hsn count => ⟨fun h => h.eq_nearestCount, ?_⟩, ?_, ?_⟩
  · rintro rfl
    exact nearCount_nearestCount hsn
  · intro pdu sn hread
    exact countRight_iff hread
  · intro sn hsn
    exact notificationRight_iff hsn

/-- `pdcp_rx_default_max_count_notify` and `pdcp_rx_default_max_count_hard` -/
def pdcpRxDefaultMaxCount : PdcpMaxCount := ⟨0xc0000000, 0xd0000000⟩

/-- `pdcp_tx_default_max_count_notify` and `pdcp_tx_default_max_count_hard` -/
def pdcpTxDefaultMaxCount : PdcpMaxCount := ⟨0xc0000000, 0xfffffffe⟩

/-- The SN 5 at fresh entities. -/
theorem count_reconstruction_start :
    let rx : PdcpRxConfig := ⟨.size12bits, .ms 35, pdcpRxDefaultMaxCount⟩
    let tx : PdcpTxConfig := ⟨.drb, .am, .size18bits, some (.ms 10), pdcpTxDefaultMaxCount⟩
    NearCount .size12bits 0 5 5 ∧ (PdcpRxEntity.start rx).CountRight rx [0x80, 5, 1] 5 ∧
      (PdcpTxEntity.start tx 0).CountRight tx 5 := by
  intro rx tx
  have h := count_reconstruction rx (PdcpRxEntity.start rx) tx (PdcpTxEntity.start tx 0)
  exact ⟨(h.1 .size12bits 0 5 (by decide) 5).mpr (by decide), (h.2.1 [0x80, 5, 1] 5 (by decide)).mpr (.inl (by decide)),
    (h.2.2 5 (by decide)).mpr (.inl (by decide))⟩

/-- A PDU with the SN 2048 is the first one to arrive. It is taken for one with the COUNT 4294965248, and the upper
layer is told of a protocol failure. -/
theorem count_wraps :
    let cfg : PdcpRxConfig := ⟨.size12bits, .ms 35, pdcpRxDefaultMaxCount⟩
    (PdcpRxEntity.start cfg).trueCount cfg 2048 = -2048 ∧
      ((PdcpRxEntity.start cfg).handleDataPdu cfg [0x88, 0, 1]).2 = ([.maxCountReached, .protocolFailure], none) := by
  decide

end OwlsRan.Pdcp
