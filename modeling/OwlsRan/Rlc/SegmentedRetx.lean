import OwlsRan.Rlc.NewDataPdus

/-!
# Retransmissions of the SDU under segmentation

Of an SDU under segmentation only what has been sent is to be retransmitted.
-/

namespace OwlsRan.Rlc
open OwlsRan.Lib OwlsRan.Adt

namespace RlcTxAmEntity

/-- Only the first `nextSo` bytes of an SDU are retransmitted. -/
def BehindOriginal (s : RlcTxAmEntity) (sn nextSo : Nat) : Prop :=
  ∀ retx ∈ s.retxQueue.queue, retx.sn = sn → retx.so + retx.length ≤ nextSo

def nackSoEnd (nack : RlcAmStatusNack) (sduLength : Nat) : UInt16 :=
  if nack.hasSo then nack.soEnd else lastOffset sduLength

def EndsSent (sduLength nextSo : Nat) (nack : RlcAmStatusNack) : Prop :=
  nackSoEnd nack sduLength = RlcAmStatusNack.soEndOfSdu ∨ (nackSoEnd nack sduLength).toNat < nextSo

instance (s : RlcTxAmEntity) (sn nextSo : Nat) : Decidable (BehindOriginal s sn nextSo) :=
  inferInstanceAs (Decidable (∀ retx ∈ s.retxQueue.queue, _))

instance (sduLength nextSo : Nat) (nack : RlcAmStatusNack) : Decidable (EndsSent sduLength nextSo nack) :=
  inferInstanceAs (Decidable (_ ∨ _))

section Bounds

variable {cfg : RlcTxAmConfig} {s t : RlcTxAmEntity} {nack : RlcAmStatusNack} {v : SentSdu}

lemma sanitizeNack_soEnd (soStart soEnd : UInt16) (sduLength : Nat) :
    (sanitizeNack soStart soEnd sduLength).soEnd = if soEnd.toNat ≥ sduLength then lastOffset sduLength else soEnd := by
  unfold sanitizeNack
  simp only [decide_eq_true_eq]

lemma retxOf_stop (nack : RlcAmStatusNack) (soEnd : UInt16) {sduLength : Nat} (hpos : 0 < sduLength) :
    (retxOf nack soEnd sduLength).so + (retxOf nack soEnd sduLength).length = min (soEnd.toNat + 1) sduLength := by
  obtain ⟨hle, hlt⟩ := sanitizeNack_spec (if nack.hasSo then nack.soStart else 0) soEnd hpos
  have hend := sanitizeNack_soEnd (if nack.hasSo then nack.soStart else 0) soEnd sduLength
  have hsoEnd := soEnd.toNat_lt
  unfold retxOf CheckedNack.retx
  dsimp only
  generalize sanitizeNack (if nack.hasSo then nack.soStart else 0) soEnd sduLength = checked at *
  split at hend
  case isTrue hge =>
    have hval : checked.soEnd.toNat = sduLength - 1 := by rw [hend, toNat_lastOffset hpos (by omega)]
    omega
  case isFalse =>
    have hval : checked.soEnd.toNat = soEnd.toNat := by rw [hend]
    omega

lemma toNat_ofNat_pred_lt {nextSo : Nat} (hpos : 0 < nextSo) : (UInt16.ofNat (nextSo - 1)).toNat < nextSo := by
  have := Nat.mod_le (nextSo - 1) 65536
  rw [toNat_ofNat_so]
  omega

lemma nackInRange_txNext (cfg : RlcTxAmConfig) (t : RlcTxAmEntity) : NackInRange cfg t t.st.txNext := by
  have hzero : t.txModBase cfg t.st.txNextAck = 0 := by
    unfold txModBase modBase
    rw [Nat.add_sub_cancel_left]
    rfl
  exact ⟨hzero.trans_le (Nat.zero_le _), le_rfl⟩

lemma nackEnd_under {info : RlcTxAmSduInfo} (hunder : t.snUnderSegmentation = some nack.nackSn) (hpos : 0 < info.nextSo) :
    nackSoEnd nack info.sdu.length ≠ RlcAmStatusNack.soEndOfSdu ∧
        t.nackEnd nack info = some (nackSoEnd nack info.sdu.length) ∨
      nackSoEnd nack info.sdu.length = RlcAmStatusNack.soEndOfSdu ∧
        ∀ soEnd, t.nackEnd nack info = some soEnd → soEnd = .ofNat (info.nextSo - 1) := by
  by_cases hmark : nackSoEnd nack info.sdu.length = RlcAmStatusNack.soEndOfSdu
  · refine .inr ⟨hmark, fun soEnd hend => ?_⟩
    unfold nackSoEnd at hmark
    unfold nackEnd at hend
    dsimp only at hend
    rw [if_neg (not_not.mpr hmark), if_neg (not_not.mpr hunder), if_neg (by omega)] at hend
    generalize (if nack.hasSo then nack.soStart else 0) = soStart at hend
    split_ifs at hend
    exact (Option.some.inj hend).symm
  · exact .inl ⟨hmark, if_pos hmark⟩

lemma requested_under (hinv : SegmentInv cfg t) (hunder : t.core.under = some nack.nackSn)
    (hv : t.core.window nack.nackSn = some v) (hplain : nack.hasNackRange = false) :
    (EndsSent v.sdu.length v.nextSo nack → ∀ retx, requested cfg t nack = some retx → retx.so + retx.length ≤ v.nextSo) ∧
      (¬EndsSent v.sdu.length v.nextSo nack →
        ∃ retx, requested cfg t nack = some retx ∧ v.nextSo < retx.so + retx.length) := by
  obtain ⟨hnext, hso⟩ := hinv.under _ hunder
  obtain ⟨hpos, hlt⟩ := hso v hv
  obtain ⟨info, hinfo, rfl⟩ := core_window.mp hv
  dsimp only at hpos hlt ⊢
  have hrange : NackInRange cfg t nack.nackSn := by
    rw [show nack.nackSn = t.st.txNext from hnext]
    exact nackInRange_txNext cfg t
  have hrequested : requested cfg t nack = (t.nackEnd nack info).map fun soEnd => retxOf nack soEnd info.sdu.length := by
    unfold requested
    rw [hplain, if_neg Bool.false_ne_true, if_neg (not_not.mpr hrange), hinfo]
    rfl
  have hend := nackEnd_under hunder hpos
  constructor
  · intro hends retx hretx
    rw [hrequested] at hretx
    obtain ⟨soEnd, hsoEnd, rfl⟩ := Option.map_eq_some_iff.mp hretx
    rw [retxOf_stop nack soEnd (by omega)]
    suffices hsent : soEnd.toNat < info.nextSo by omega
    obtain ⟨hmark, hkept⟩ | ⟨-, hreplaced⟩ := hend
    · obtain rfl := Option.some.inj (hkept.symm.trans hsoEnd)
      exact hends.resolve_left hmark
    · rw [hreplaced soEnd hsoEnd]
      exact toNat_ofNat_pred_lt hpos
  · intro hends
    obtain ⟨hmark, hahead⟩ := not_or.mp hends
    obtain ⟨-, hkept⟩ | ⟨hmark', -⟩ := hend
    · refine ⟨retxOf nack (nackSoEnd nack info.sdu.length) info.sdu.length, ?_, ?_⟩
      · rw [hrequested, hkept]
        rfl
      · rw [retxOf_stop nack _ (by omega)]
        omega
    · exact absurd hmark' hmark

lemma nackItems_plain {status : RlcAmStatusPdu} : ∀ item ∈ nackItems cfg status, item.hasNackRange = false := by
  intro item hitem
  obtain ⟨nack, -, hexpand⟩ := List.mem_flatMap.mp hitem
  unfold expand at hexpand
  split at hexpand
  case isFalse hplain =>
    rw [List.mem_singleton.mp hexpand]
    exact Bool.eq_false_iff.mpr hplain
  case isTrue =>
    have hrange : ∀ fuel rangeSn, item ∈ rangeItems cfg status.ackSn nack fuel rangeSn → item.hasNackRange = false := by
      intro fuel
      induction fuel with
      | zero => exact fun _ h => nomatch h
      | succ fuel ih =>
        intro rangeSn hmem
        unfold rangeItems at hmem
        split_ifs at hmem
        · cases hmem
        · cases hmem
        · obtain rfl | hmem := List.mem_cons.mp hmem
          · exact (rangeItem_spec cfg nack rangeSn).2.1
          · exact ih _ hmem
    exact hrange _ _ hexpand

end Bounds

/-- After an accepted STATUS PDU, only what has been sent of the SDU under segmentation is retransmitted, if each of its
NACKs of that SDU ends with the mark for the end of the SDU or with a byte that has been sent. If the queue has room for
all of its NACKs, only then. -/
theorem retx_behind_original_iff (cfg : RlcTxAmConfig) (es : List TxAmEvent) (s s' : RlcTxAmEntity) (sn : Nat)
    (info : RlcTxAmSduInfo) (buf : List UInt8) (status : RlcAmStatusPdu)
    (hrun : runEvents (step cfg) (init cfg) es = .ok s) (hunder : s.snUnderSegmentation = some sn)
    (hinfo : s.txWindow.find? sn = some info) (hdecoded : decoded cfg buf = some status)
    (haccepts : s.accepts cfg status = true) (hs' : s.onStatusPdu cfg buf = .ok s') :
    let endsSent := ∀ nack ∈ nackItems cfg status, nack.nackSn = sn → EndsSent info.sdu.length info.nextSo nack
    (endsSent → BehindOriginal s' sn info.nextSo) ∧
      ((nackItems cfg status).length ≤ cfg.amWindowSize → BehindOriginal s' sn info.nextSo → endsSent) := by
  intro endsSent
  have hinv := run_segmentInv hrun
  have happlied : applyStatusPdu cfg s status = .ok s' := by
    unfold accepts at haccepts
    simp only [Bool.and_eq_true, Bool.not_eq_true', decide_eq_false_iff_not] at haccepts
    obtain ⟨⟨hack, hbeyond⟩, hnacks⟩ := haccepts
    unfold onStatusPdu at hs'
    rw [hdecoded] at hs'
    unfold handleStatusPdu at hs'
    dsimp only at hs'
    rw [hack, if_neg (by simp), if_neg hbeyond] at hs'
    split at hs'
    case h_1 hinvalid =>
      rw [hinvalid] at hnacks
      cases hnacks
    case h_2 => exact hs'
  obtain ⟨t, hdropped, -, hqueue, hpresent⟩ :=
    (applyStatusPdu_requested hinv.window (decoded_sn hdecoded)).of_ok happlied
  rw [hinv.capacity] at hqueue
  have hinvT := hinv.dropped hdropped
  have hunderT : t.core.under = some sn := hdropped.under.trans hunder
  have hwindow : ∀ v, t.core.window sn = some v → v.sdu = info.sdu ∧ v.nextSo = info.nextSo := by
    intro v hv
    obtain ⟨info', hinfo', rfl⟩ := core_window.mp (hdropped.infos sn v hv)
    obtain rfl := Option.some.inj (hinfo.symm.trans hinfo')
    exact ⟨rfl, rfl⟩
  constructor
  · intro hends retx hretx hsn
    rw [hqueue] at hretx
    obtain ⟨nack, hnack, hrequested⟩ := List.mem_filterMap.mp (List.mem_of_mem_take hretx)
    obtain ⟨hretxSn, hhas⟩ := requested_present hrequested
    obtain rfl : nack.nackSn = sn := hretxSn.symm.trans hsn
    obtain ⟨infoT, hinfoT⟩ := SduWindow.hasSn_iff.mp hhas
    rw [hretxSn] at hinfoT
    have hv : t.core.window nack.nackSn = some ⟨infoT.sdu, infoT.nextSo⟩ := core_window.mpr ⟨infoT, hinfoT, rfl⟩
    obtain ⟨hsdu, hso⟩ := hwindow _ hv
    have hbound := (requested_under hinvT hunderT hv (nackItems_plain nack hnack)).1
    dsimp only at hsdu hso hbound
    rw [hsdu, hso] at hbound
    exact hbound (hends nack hnack rfl) retx hrequested
  · intro hroom hbehind nack hnack hsn
    subst hsn
    by_contra hends
    have hplain := nackItems_plain nack hnack
    have hrange : NackInRange cfg t nack.nackSn := by
      rw [show nack.nackSn = t.st.txNext from (hinvT.under _ hunderT).1]
      exact nackInRange_txNext cfg t
    obtain ⟨infoT, hinfoT⟩ := SduWindow.hasSn_iff.mp (hpresent nack hnack hplain hrange)
    have hv : t.core.window nack.nackSn = some ⟨infoT.sdu, infoT.nextSo⟩ := core_window.mpr ⟨infoT, hinfoT, rfl⟩
    obtain ⟨hsdu, hso⟩ := hwindow _ hv
    have hbound := (requested_under hinvT hunderT hv hplain).2
    dsimp only at hsdu hso hbound
    rw [hsdu, hso] at hbound
    obtain ⟨retx, hrequested, hahead⟩ := hbound hends
    have hmem : retx ∈ s'.retxQueue.queue := by
      rw [hqueue, List.take_of_length_le ((List.length_filterMap_le _ _).trans hroom)]
      exact List.mem_filterMap.mpr ⟨nack, hnack, hrequested⟩
    have hle := hbehind retx hmem (requested_present hrequested).1
    omega

def segmentedRun : List TxAmEvent := [.handleSdu [0x80, 0, 1] false, .pullPdu none 3]

/-- The NACK has an SO, up to the end of the SDU. -/
theorem retx_behind_original_iff_marked :
    ∃ s, runEvents (step shortSnConfig) (init shortSnConfig) segmentedRun = .ok s ∧
      ∃ s', s.onStatusPdu shortSnConfig [0, 1, 0x80, 0, 4, 0, 0, 0xff, 0xff] = .ok s' ∧ BehindOriginal s' 0 1 := by
  have hrun : ∃ s, runEvents (step shortSnConfig) (init shortSnConfig) segmentedRun = .ok s ∧
      s.snUnderSegmentation = some 0 ∧
      (s.txWindow.find? 0).map (fun info => (info.sdu.length, info.nextSo)) = some (3, 1) ∧
      s.accepts shortSnConfig ⟨.size12bits, [⟨0, true, 0, 0xffff, false, 0⟩], 9, 1⟩ = true ∧
      ∃ s', s.onStatusPdu shortSnConfig [0, 1, 0x80, 0, 4, 0, 0, 0xff, 0xff] = .ok s' ∧ True := by
    decide +kernel
  obtain ⟨s, hs, hunder, hwindow, haccepts, s', hs', -⟩ := hrun
  obtain ⟨info, hinfo, hsent⟩ := Option.map_eq_some_iff.mp hwindow
  obtain ⟨hlen, hso⟩ := Prod.mk.inj hsent
  refine ⟨s, hs, s', hs', ?_⟩
  have hends := (retx_behind_original_iff shortSnConfig segmentedRun s s' 0 info _ _ hs hunder hinfo (by decide +kernel)
    haccepts hs').1
  rw [hlen, hso] at hends
  exact hends (by decide +kernel)

/-- The NACK has no SO: the whole SDU is retransmitted, of which one byte has been sent. -/
theorem retx_ahead_of_original :
    ∃ s, runEvents (step shortSnConfig) (init shortSnConfig) segmentedRun = .ok s ∧ s.snUnderSegmentation = some 0 ∧
      (s.txWindow.find? 0).map RlcTxAmSduInfo.nextSo = some 1 ∧
      decoded shortSnConfig [0, 1, 0x80, 0, 0] = some ⟨.size12bits, [.ofSn 0], 5, 1⟩ ∧
      s.accepts shortSnConfig ⟨.size12bits, [.ofSn 0], 5, 1⟩ = true ∧
      ∃ s', s.onStatusPdu shortSnConfig [0, 1, 0x80, 0, 0] = .ok s' ∧ s'.retxQueue.queue = [⟨0, 0, 3⟩] ∧
        ¬BehindOriginal s' 0 1 := by
  decide +kernel

end RlcTxAmEntity

end OwlsRan.Rlc
