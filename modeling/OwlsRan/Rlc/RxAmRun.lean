import OwlsRan.Rlc.RxAmInvariant

/-!
# Runs of the RLC AM receiver

The invariant over any sequence of PDUs and timer expiries.
-/

namespace OwlsRan.Rlc
open OwlsRan.Lib OwlsRan.Adt

namespace RlcRxAmEntity

/-- The state between the delivery of an SDU and the update of t-Reassembly, whose trigger may have been passed. -/
structure RxSettled (cfg : RlcRxAmConfig) (s : RlcRxAmEntity) : Prop extends RxBase cfg s where
  rxNext_missing : s.fullyReceivedSn s.st.rxNext = false
  highestStatus_missing : s.fullyReceivedSn s.st.rxHighestStatus = false
  trigger : s.reassemblyTimerRunning = true → s.dist cfg s.st.rxNextStatusTrigger = 0 ∨
    cfg.amWindowSize < s.dist cfg s.st.rxNextStatusTrigger ∨ s.TriggerInv cfg

/-- What the delivery of an SN does: nothing if bytes are missing, else its data is passed up, and `rx_highest_status`
and `rx_next` move on. -/
inductive Delivery (cfg : RlcRxAmConfig) (s : RlcRxAmEntity) (sn : Nat) : RlcRxAmEntity → Option (List UInt8) → Prop
  | kept (h : s.fullyReceivedSn sn = false) : Delivery cfg s sn s none
  | passed {w : SduWindow RlcRxAmSduInfo} {s' : RlcRxAmEntity} (info : RlcRxAmSduInfo) (r d : Nat)
      (hinfo : s.rxWindow.find? sn = some info) (hfull : info.fullyReceived = true)
      (hw : Written s.rxWindow w sn { info with sduData := .payload [] })
      (h : Advanced cfg { s with rxWindow := w, st := { s.st with rxHighestStatus := r } } s' d) :
      Delivery cfg s sn s' (some (reassembleSdu info))

section Delivering

variable {cfg : RlcRxAmConfig} {s s' : RlcRxAmEntity} {sn : Nat} {E : RlcAbort → Prop}

lemma RxBase.clear {w : SduWindow RlcRxAmSduInfo} {info : RlcRxAmSduInfo} (h : s.RxBase cfg)
    (hinfo : s.rxWindow.find? sn = some info) (hfull : info.fullyReceived = true)
    (hw : Written s.rxWindow w sn { info with sduData := .payload [] }) :
    RxBase cfg { s with rxWindow := w } := by
  have hkept : ∀ {x}, s.EndsReceived cfg x → EndsReceived cfg { s with rxWindow := w } x := by
    rintro x ⟨j, v, hjv, hj⟩
    by_cases hne : j = sn
    · exact ⟨j, _, (hw.find? j).trans (if_pos hne), hj⟩
    · exact ⟨j, v, ((hw.find? j).trans (if_neg hne)).trans hjv, hj⟩
  refine ⟨h.rxNext_lt, h.highestStatus_lt, h.nextHighest_lt, h.trigger_lt, h.highestStatus_le, h.nextHighest_le,
    ⟨hw.wellFormed, hw.capacity.trans h.window.capacity, ?_, ?_⟩, fun hpos => hkept (h.ends hpos)⟩
  · intro j v hjv
    change w.find? j = some v at hjv
    rw [hw.find?] at hjv
    split at hjv
    case isTrue hj =>
      rw [hj]
      exact h.window.inWindow sn info hinfo
    case isFalse => exact h.window.inWindow j v hjv
  · intro j v hjv hv
    change w.find? j = some v at hjv
    rw [hw.find?] at hjv
    split at hjv
    · cases hjv
      rw [hfull] at hv
      cases hv
    · exact h.window.segments j v hjv hv

lemma fullyReceivedSn_clear {w : SduWindow RlcRxAmSduInfo} {info : RlcRxAmSduInfo}
    (hinfo : s.rxWindow.find? sn = some info) (hw : Written s.rxWindow w sn { info with sduData := .payload [] })
    (j : Nat) : fullyReceivedSn { s with rxWindow := w } j = s.fullyReceivedSn j := by
  by_cases hj : j = sn
  · unfold fullyReceivedSn
    rw [hj, hinfo, (hw.find? sn).trans (if_pos rfl)]
  · exact fullyReceivedSn_congr ((hw.find? j).trans (if_neg hj))

lemma updateRxHighestStatus_spec (h : s.RxBase cfg) (hsn : s.fullyReceivedSn sn = true)
    (hhighest : s.fullyReceivedSn s.st.rxHighestStatus = true → sn = s.st.rxHighestStatus) :
    Yields (updateRxHighestStatus cfg s sn) (fun s' => ∃ r < cfg.mod, s.dist cfg r ≤ s.dist cfg s.st.rxNextHighest ∧
      s.fullyReceivedSn r = false ∧ s' = { s with st := { s.st with rxHighestStatus := r } }) E := by
  obtain ⟨info, hinfo, -⟩ := fullyReceivedSn_iff.mp hsn
  obtain ⟨hlt, hdist⟩ := h.window.inWindow sn info hinfo
  have hmod := cfg.mod_eq
  have hW := h.nextHighest_le
  have hWpos := cfg.amWindowSize_pos
  unfold updateRxHighestStatus
  rw [rxModBase_eq h.rxNext_lt, rxModBase_eq h.rxNext_lt]
  refine yields_ite (fun heq => ?_) fun hne => ?_
  · have hsucc : s.dist cfg ((s.st.rxHighestStatus + 1) % cfg.mod) = s.dist cfg s.st.rxHighestStatus + 1 :=
      dist_succ (by omega)
    refine yields_bind (firstNotReceived_spec h (Nat.mod_lt _ cfg.mod_pos) (by omega) (by omega)) ?_
    rintro r ⟨hr, -, hle, hmissing⟩
    exact ⟨r, hr, hle, hmissing, rfl⟩
  · refine ⟨s.st.rxHighestStatus, h.highestStatus_lt, h.highestStatus_le, ?_, rfl⟩
    by_contra hreceived
    rw [hhighest (Bool.not_eq_false _ ▸ hreceived)] at hne
    exact hne rfl

lemma updateRxNext_spec (h : s.RxBase cfg) (hsn : s.fullyReceivedSn sn = true)
    (hnext : s.fullyReceivedSn s.st.rxNext = true → sn = s.st.rxNext) :
    Yields (updateRxNext cfg s sn) (fun s' => ∃ d, Advanced cfg s s' d) E := by
  obtain ⟨info, hinfo, -⟩ := fullyReceivedSn_iff.mp hsn
  obtain ⟨hlt, -⟩ := h.window.inWindow sn info hinfo
  have hmod := cfg.mod_eq
  have hW := h.nextHighest_le
  have hWpos := cfg.amWindowSize_pos
  have hzero : s.dist cfg s.st.rxNext = 0 := dist_rxNext
  unfold updateRxNext
  rw [rxModBase_eq h.rxNext_lt, rxModBase_eq h.rxNext_lt, hzero, Nat.mod_eq_of_lt h.rxNext_lt]
  refine yields_ite (fun heq => ?_) fun hne => ?_
  · refine yields_bind (releaseReceived_spec (w := s.rxWindow) h h.rxNext_lt (by omega) (by omega)
      h.window.wellFormed rfl (fun j v => ?_) fun j _ hj => ?_) fun res hres => ⟨_, hres⟩
    · rw [hzero]
      exact ⟨fun hv => ⟨hv, Nat.zero_le _⟩, fun hv => hv.1⟩
    · omega
  · refine ⟨0, ⟨s.rxWindow, s.st.rxNext, rfl⟩, ?_, Nat.zero_le _, h.window.wellFormed, rfl, ?_, ?_, ?_⟩
    · rw [Nat.add_zero, Nat.mod_eq_of_lt h.rxNext_lt]
    · exact fun j v => ⟨fun hv => ⟨hv, Nat.zero_le _⟩, fun hv => hv.1⟩
    · exact fun j _ hj => absurd hj (Nat.not_lt_zero _)
    · by_contra hreceived
      rw [hnext (Bool.not_eq_false _ ▸ hreceived)] at hne
      exact hne hzero

lemma Advanced.settled {d : Nat} (hbase : s.RxBase cfg) (hhighest : s.fullyReceivedSn s.st.rxHighestStatus = false)
    (htrigger : s.reassemblyTimerRunning = true → s.TriggerInv cfg) (h : Advanced cfg s s' d) : s'.RxSettled cfg := by
  have hd := h.le_of_missing hbase.highestStatus_lt hhighest
  have hmod := cfg.mod_eq
  have hle := h.le.trans hbase.nextHighest_le
  have hmissing := h.missing
  refine ⟨h.base hbase hd, hmissing, ?_, fun hrun => ?_⟩
  · obtain ⟨w, x, rfl⟩ := h.others
    by_contra hreceived
    obtain ⟨info, hinfo, hfull⟩ := fullyReceivedSn_iff.mp (Bool.not_eq_false _ ▸ hreceived)
    rw [fullyReceivedSn_iff.mpr ⟨info, ((h.find? _ info).mp hinfo).1, hfull⟩] at hhighest
    cases hhighest
  · obtain ⟨w, x, rfl⟩ := h.others
    obtain ⟨hpos, htle, j, v, hjv, hj⟩ := htrigger hrun
    change 0 < s.dist cfg s.st.rxNextStatusTrigger at hpos
    by_cases hpassed : s.dist cfg s.st.rxNextStatusTrigger < d
    · right
      left
      rw [h.dist_of_lt hbase hpassed]
      omega
    · have hdist := h.dist_of_le (j := s.st.rxNextStatusTrigger) (by omega)
      by_cases hzero : s.dist cfg s.st.rxNextStatusTrigger = d
      · left
        rw [hdist]
        omega
      · right
        right
        have hjd : d ≤ s.dist cfg j := by omega
        refine ⟨by rw [hdist]; omega, ?_, j, v, (h.find? j v).mpr ⟨hjv, hjd⟩, ?_⟩
        · rw [hdist, h.dist_of_le h.le]
          omega
        · rw [hdist, h.dist_of_le hjd]
          omega

lemma deliverSdu_spec (h : s.RxPlaced cfg sn) :
    Yields (deliverSdu cfg s sn) (fun res => res.1.RxSettled cfg ∧ Delivery cfg s sn res.1 res.2) E := by
  unfold deliverSdu
  refine yields_ite (fun hreceived => ?_) fun hmissing => ?_
  · obtain ⟨info, hinfo, hfull⟩ := fullyReceivedSn_iff.mp hreceived
    refine yields_bind (SduWindow.yields_atSn hinfo) ?_
    rintro info rfl
    refine yields_bind (SduWindow.yields_modifySn h.window.wellFormed hinfo) fun w hw => ?_
    have hwritten : Written s.rxWindow w sn { info with sduData := .payload [] } := ⟨hw.1, hw.2.1, hw.2.2.1⟩
    have hsame := fullyReceivedSn_clear hinfo hwritten
    have hclear := h.toRxBase.clear hinfo hfull hwritten
    refine yields_bind (updateRxHighestStatus_spec hclear ((hsame sn).trans hreceived) fun hhighest => ?_) ?_
    · exact h.highestStatus_missing ((hsame _).symm.trans hhighest)
    · rintro _ ⟨r, hr, hle, hrmissing, rfl⟩
      have hbase : RxBase cfg { s with rxWindow := w, st := { s.st with rxHighestStatus := r } } :=
        ⟨hclear.rxNext_lt, hr, hclear.nextHighest_lt, hclear.trigger_lt, hle, hclear.nextHighest_le,
          ⟨hclear.window.wellFormed, hclear.window.capacity, hclear.window.inWindow, hclear.window.segments⟩,
          hclear.ends⟩
      refine yields_bind (updateRxNext_spec hbase ((hsame sn).trans hreceived) fun hnext => ?_) ?_
      · exact h.rxNext_missing ((hsame _).symm.trans hnext)
      · rintro s' ⟨d, hadvanced⟩
        refine ⟨hadvanced.settled hbase hrmissing fun hrun => ?_, .passed info r d hinfo hfull hwritten hadvanced⟩
        obtain ⟨hpos, htle, j, v, hjv, hj⟩ := h.trigger hrun
        refine ⟨hpos, htle, ?_⟩
        by_cases hne : j = sn
        · exact ⟨j, _, (hwritten.find? j).trans (if_pos hne), hj⟩
        · exact ⟨j, v, ((hwritten.find? j).trans (if_neg hne)).trans hjv, hj⟩
  · have hsn := Bool.not_eq_true _ ▸ hmissing
    refine ⟨⟨h.toRxBase, ?_, ?_, fun hrun => .inr (.inr (h.trigger hrun))⟩, .kept hsn⟩
    · by_contra hreceived
      have hat : s.fullyReceivedSn s.st.rxNext = true := Bool.not_eq_false _ ▸ hreceived
      rw [h.rxNext_missing hat] at hmissing
      exact hmissing hat
    · by_contra hreceived
      have hat : s.fullyReceivedSn s.st.rxHighestStatus = true := Bool.not_eq_false _ ▸ hreceived
      rw [h.highestStatus_missing hat] at hmissing
      exact hmissing hat

end Delivering

def TimerSet (s s' : RlcRxAmEntity) : Prop :=
  ∃ b t, s' = { s with reassemblyTimerRunning := b, st := { s.st with rxNextStatusTrigger := t } }

def ReportSet (s s' : RlcRxAmEntity) : Prop :=
  ∃ p q b, s' = { s with statusOwnedByWriter := p, statusForExchange := q, doStatus := b }

section Timer

variable {cfg : RlcRxAmConfig} {s s' : RlcRxAmEntity} {sn : Nat}

lemma RxInv.congr (h : s.RxInv cfg) (hst : s'.st = s.st) (hw : s'.rxWindow = s.rxWindow)
    (hrun : s'.reassemblyTimerRunning = s.reassemblyTimerRunning) : s'.RxInv cfg := by
  obtain ⟨⟨h1, h2, h3, h4, h5, h6, ⟨h7, h8, h9, h10⟩, h11⟩, h12, h13, h14⟩ := h
  obtain ⟨st, w, run, _, _, _, _, _⟩ := s
  obtain ⟨st', w', run', _, _, _, _, _⟩ := s'
  subst hst hw hrun
  refine ⟨⟨h1, h2, h3, h4, h5, h6, ⟨h7, h8, h9, h10⟩, h11⟩, h12, h13, fun hrun => ?_⟩
  obtain ⟨hpos, hle, hends⟩ := h14 hrun
  exact ⟨hpos, hle, hends⟩

lemma runReassemblyTimer_spec (h : s.RxBase cfg) (hnext : s.fullyReceivedSn s.st.rxNext = false)
    (hhighest : s.fullyReceivedSn s.st.rxHighestStatus = false) (hpos : 0 < s.dist cfg s.st.rxNextHighest) :
    Yields (runReassemblyTimer cfg s) (fun s' => s'.RxInv cfg ∧ TimerSet s s') rxAborts := by
  unfold runReassemblyTimer
  refine yields_ite (fun _ => .inr rfl) fun _ => ?_
  refine ⟨⟨⟨h.rxNext_lt, h.highestStatus_lt, h.nextHighest_lt, h.nextHighest_lt, h.highestStatus_le, h.nextHighest_le,
    ⟨h.window.wellFormed, h.window.capacity, h.window.inWindow, h.window.segments⟩, h.ends⟩, hnext, hhighest,
    fun _ => ⟨hpos, le_rfl, h.ends hpos⟩⟩, true, s.st.rxNextHighest, rfl⟩

lemma lt_nextHighest_of_starts (h : s.RxBase cfg) (hsn : s.dist cfg sn < cfg.amWindowSize + 1)
    (hstart : s.startsReassemblyTimer cfg sn = true) : s.dist cfg sn < s.dist cfg s.st.rxNextHighest := by
  have hmod := cfg.mod_eq
  have hW := cfg.one_lt_amWindowSize
  have hsucc : s.dist cfg ((sn + 1) % cfg.mod) = s.dist cfg sn + 1 := dist_succ (by omega)
  have hmodSn : s.dist cfg ((sn + 1) % cfg.mod) = s.dist cfg (sn + 1) := snDist_mod_right
  unfold startsReassemblyTimer at hstart
  rw [rxModBase_eq h.rxNext_lt, rxModBase_eq h.rxNext_lt, Bool.or_eq_true, Bool.and_eq_true, decide_eq_true_iff,
    decide_eq_true_iff] at hstart
  omega

/-- The check whether t-Reassembly stops looks up `rx_next` only where it is in the window. If the timer goes on, its
trigger is ahead. -/
lemma stopsReassemblyTimer_spec (h : s.RxSettled cfg) (hrun : s.reassemblyTimerRunning = true) :
    Yields (stopsReassemblyTimer cfg s) (fun stop => stop = false → s.TriggerInv cfg) rxAborts := by
  have hW := cfg.one_lt_amWindowSize
  unfold stopsReassemblyTimer insideRxWindow
  rw [rxModBase_eq h.rxNext_lt, rxModBase_eq h.rxNext_lt, dist_one]
  have hrest : ∀ noGap : Bool, (decide (s.st.rxNextStatusTrigger = s.st.rxNext) || noGap ||
      !decide (s.dist cfg s.st.rxNextStatusTrigger < cfg.amWindowSize)) = false → s.TriggerInv cfg := by
    intro noGap hgo
    rw [Bool.or_eq_false_iff, Bool.or_eq_false_iff, decide_eq_false_iff_not, Bool.not_eq_false', decide_eq_true_iff] at hgo
    obtain hzero | hlarge | htrigger := h.trigger hrun
    · exact absurd (dist_eq_zero h.trigger_lt h.rxNext_lt hzero) hgo.1.1
    · omega
    · exact htrigger
  refine yields_ite (fun hone => ?_) fun _ => hrest false
  obtain hzero | hlarge | ⟨-, -, j, v, hjv, hj⟩ := h.trigger hrun
  · omega
  · omega
  · have hat : j = s.st.rxNext := dist_eq_zero (h.window.inWindow j v hjv).1 h.rxNext_lt (by omega)
    rw [hat] at hjv
    exact yields_bind (SduWindow.yields_atSn hjv) fun info _ => hrest _

lemma restartReassemblyTimer_spec (h : s.RxSettled cfg) {b : Bool} (htrigger : b = true → s.TriggerInv cfg) :
    Yields (restartReassemblyTimer cfg { s with reassemblyTimerRunning := b })
      (fun s' => s'.RxInv cfg ∧ TimerSet s s') rxAborts := by
  have hbase : RxBase cfg { s with reassemblyTimerRunning := b } :=
    ⟨h.rxNext_lt, h.highestStatus_lt, h.nextHighest_lt, h.trigger_lt, h.highestStatus_le, h.nextHighest_le,
      ⟨h.window.wellFormed, h.window.capacity, h.window.inWindow, h.window.segments⟩, h.ends⟩
  unfold restartReassemblyTimer
  refine yields_ite (fun hstart => ?_) fun _ => ?_
  · have hzero : s.dist cfg s.st.rxNext < cfg.amWindowSize + 1 := dist_rxNext.trans_lt (Nat.succ_pos _)
    have hpos := Nat.zero_lt_of_lt (lt_nextHighest_of_starts hbase hzero (Bool.and_eq_true .. ▸ hstart).2)
    refine (runReassemblyTimer_spec hbase h.rxNext_missing h.highestStatus_missing hpos).post ?_
    rintro _ ⟨hinv, b', t, rfl⟩
    exact ⟨hinv, b', t, rfl⟩
  · refine ⟨⟨hbase, h.rxNext_missing, h.highestStatus_missing, fun hb => ?_⟩, b, s.st.rxNextStatusTrigger, rfl⟩
    obtain ⟨hpos, hle, hends⟩ := htrigger hb
    exact ⟨hpos, hle, hends⟩

lemma updateReassemblyTimer_spec (h : s.RxSettled cfg) :
    Yields (updateReassemblyTimer cfg s) (fun s' => s'.RxInv cfg ∧ TimerSet s s') rxAborts := by
  unfold updateReassemblyTimer
  refine yields_ite (fun hrun => ?_) fun hrun => ?_
  · refine yields_bind (stopsReassemblyTimer_spec h hrun) fun stop hgo => restartReassemblyTimer_spec h fun hb => ?_
    exact hgo (Bool.not_eq_true' stop ▸ hb)
  · exact restartReassemblyTimer_spec h fun hb => absurd hb hrun

variable {pdu : RlcAmStatusPdu}

lemma nackSegments_yields {lastSo : Nat} {haveLast : Bool} {set : List RlcRxAmSduSegment} :
    Yields (nackSegments sn pdu lastSo haveLast set) (fun _ => True) rxAborts := by
  induction set generalizing pdu lastSo haveLast with
  | nil =>
    unfold nackSegments
    split
    · trivial
    · trivial
  | cons segm rest ih =>
    unfold nackSegments
    exact yields_ite (fun _ => .inl rfl) fun _ => ih

lemma reportSn_yields (h : s.WindowInv cfg) : Yields (s.reportSn pdu sn) (fun _ => True) rxAborts := by
  unfold reportSn
  cases hfind : s.rxWindow.find? sn with
  | none => trivial
  | some info =>
    cases hfull : info.fullyReceived with
    | true =>
      dsimp only
      rw [if_pos hfull]
      trivial
    | false =>
      obtain ⟨set, hset⟩ := h.segments sn info hfind hfull
      dsimp only
      rw [hset, if_neg (by rw [hfull]; exact Bool.false_ne_true)]
      exact nackSegments_yields

lemma reportSns_yields (h : s.RxBase cfg) {stopSn fuel i : Nat} (hfuel : s.dist cfg stopSn - s.dist cfg i < fuel) :
    Yields (s.reportSns cfg stopSn fuel pdu i) (fun _ => True) rxAborts := by
  induction fuel generalizing pdu i with
  | zero => exact absurd hfuel (Nat.not_lt_zero _)
  | succ fuel ih =>
    unfold reportSns
    rw [rxModBase_eq h.rxNext_lt, rxModBase_eq h.rxNext_lt]
    refine yields_ite (fun hlt => yields_bind (reportSn_yields h.window) fun pdu' _ => ih ?_) fun _ => trivial
    have hstop : s.dist cfg stopSn < cfg.mod := dist_lt
    have hsucc : s.dist cfg ((i + 1) % cfg.mod) = s.dist cfg i + 1 := dist_succ (by omega)
    omega

lemma refreshStatusReport_spec (h : s.RxInv cfg) :
    Yields (refreshStatusReport cfg s) (fun s' => s'.RxInv cfg ∧ ReportSet s s') rxAborts := by
  unfold refreshStatusReport
  have hstop : s.dist cfg (s.statusStopSn cfg) < cfg.mod := dist_lt
  have hstart : s.dist cfg s.st.rxNext = 0 := dist_rxNext
  refine yields_bind (reportSns_yields h.toRxBase (by omega)) fun pdu _ => ?_
  exact ⟨h.congr rfl rfl rfl, _, _, s.doStatus, rfl⟩

/-- When t-Reassembly expires, `rx_highest_status` moves to the first SDU from the trigger on that is not fully received. -/
lemma reassemblyTimerExpires_spec (h : s.RxInv cfg) :
    Yields (reassemblyTimerExpires cfg s) (fun s' => s'.RxInv cfg ∧ s'.st.rxNext = s.st.rxNext ∧
      s'.st.rxNextHighest = s.st.rxNextHighest ∧ s'.rxWindow = s.rxWindow) rxAborts := by
  unfold reassemblyTimerExpires
  refine yields_ite (fun hrun => ?_) fun _ => ⟨h, rfl, rfl, rfl⟩
  obtain ⟨hpos, hle, -⟩ := h.trigger hrun
  have hvalid : ∀ {x}, 0 < s.dist cfg x → s.dist cfg x ≤ cfg.amWindowSize →
      RlcRxAmEntity.validAckSn cfg { s with reassemblyTimerRunning := false } x = true := by
    intro x hx hxW
    unfold validAckSn
    change (decide (0 < s.rxModBase cfg x) && decide (s.rxModBase cfg x ≤ cfg.amWindowSize)) = true
    rw [rxModBase_eq h.rxNext_lt]
    simp [hx, hxW]
  have hbase : RxBase cfg { s with reassemblyTimerRunning := false } :=
    ⟨h.rxNext_lt, h.highestStatus_lt, h.nextHighest_lt, h.trigger_lt, h.highestStatus_le, h.nextHighest_le,
      ⟨h.window.wellFormed, h.window.capacity, h.window.inWindow, h.window.segments⟩, h.ends⟩
  have hmod := cfg.mod_eq
  have hW := h.nextHighest_le
  have hWpos := cfg.amWindowSize_pos
  unfold onExpiredReassemblyTimer
  dsimp only
  rw [if_neg Bool.false_ne_true, hvalid hpos (hle.trans hW), if_neg (by decide)]
  have hdistLt : s.dist cfg s.st.rxNextHighest - s.dist cfg s.st.rxNextStatusTrigger < cfg.mod := by omega
  refine yields_bind (firstNotReceived_spec hbase h.trigger_lt hle hdistLt) ?_
  rintro snUpd ⟨hsnUpd, hge, hsnLe, hmissing⟩
  change s.dist cfg s.st.rxNextStatusTrigger ≤ s.dist cfg snUpd at hge
  change s.dist cfg snUpd ≤ s.dist cfg s.st.rxNextHighest at hsnLe
  rw [hvalid (hpos.trans_le hge) (hsnLe.trans hW), if_neg (by decide)]
  have hupdated : RxBase cfg { s with reassemblyTimerRunning := false, st := { s.st with rxHighestStatus := snUpd } } :=
    ⟨h.rxNext_lt, hsnUpd, h.nextHighest_lt, h.trigger_lt, hsnLe, h.nextHighest_le,
      ⟨h.window.wellFormed, h.window.capacity, h.window.inWindow, h.window.segments⟩, h.ends⟩
  have hrest : ∀ s', s'.RxInv cfg ∧
      TimerSet { s with reassemblyTimerRunning := false, st := { s.st with rxHighestStatus := snUpd } } s' →
        Yields (do let s ← refreshStatusReport cfg s'; .ok { s with doStatus := true }) (fun s' => s'.RxInv cfg ∧
          s'.st.rxNext = s.st.rxNext ∧ s'.st.rxNextHighest = s.st.rxNextHighest ∧ s'.rxWindow = s.rxWindow) rxAborts := by
    rintro _ ⟨hinv, b, t, rfl⟩
    refine yields_bind (refreshStatusReport_spec hinv) ?_
    rintro _ ⟨hreport, p, q, c, rfl⟩
    exact ⟨hreport.congr rfl rfl rfl, rfl, rfl, rfl⟩
  refine yields_ite (fun hstart => ?_) fun _ => hrest _ ?_
  · have hdist : s.dist cfg snUpd < cfg.amWindowSize + 1 := by omega
    exact yields_bind (runReassemblyTimer_spec hupdated h.rxNext_missing hmissing
      (Nat.zero_lt_of_lt (lt_nextHighest_of_starts hupdated hdist hstart))) hrest
  · exact ⟨⟨hupdated, h.rxNext_missing, hmissing, fun hb => nomatch hb⟩, false, s.st.rxNextStatusTrigger, rfl⟩

end Timer

section Receiving

variable {cfg : RlcRxAmConfig} {s : RlcRxAmEntity} {header : RlcAmPduHeader} {payload : List UInt8}

/-- What a PDU does to the receiver: nothing if its SN is not expected, else it is placed in the window, the SDU is
delivered if it is complete, and the timer is updated. -/
inductive Received (cfg : RlcRxAmConfig) (s : RlcRxAmEntity) (header : RlcAmPduHeader) (payload : List UInt8) :
    RlcRxAmEntity → Option (List UInt8) → Prop
  | dropped : Received cfg s header payload s none
  | placed {w : SduWindow RlcRxAmSduInfo} {s' s'' : RlcRxAmEntity} {sdu : Option (List UInt8)} (info : RlcRxAmSduInfo)
      (hin : s.dist cfg header.sn < cfg.amWindowSize) (hmissing : s.fullyReceivedSn header.sn = false)
      (hstored : Stored (s.rxWindow.find? header.sn) header payload info)
      (hw : Written s.rxWindow w header.sn info)
      (hdelivery : Delivery cfg (updateRxNextHighest cfg { s with rxWindow := w } header.sn) header.sn s' sdu)
      (htimer : TimerSet s' s'') : Received cfg s header payload s'' sdu

lemma receivePdu_spec (h : s.RxInv cfg) (hsn : header.sn < cfg.mod) :
    Yields (receivePdu cfg s header payload)
      (fun res => res.1.RxInv cfg ∧ Received cfg s header payload res.1 res.2.1) rxAborts := by
  unfold receivePdu insideRxWindow
  rw [rxModBase_eq h.rxNext_lt]
  refine yields_ite (fun _ => ⟨h, .dropped⟩) fun hin => ?_
  refine yields_ite (fun _ => ⟨h, .dropped⟩) fun hmissing => ?_
  have hinside : s.dist cfg header.sn < cfg.amWindowSize := by simpa using hin
  refine yields_bind (place_spec h.toRxBase hsn hinside) ?_
  rintro ⟨w, changed⟩ ⟨info, hstored, hw⟩
  refine yields_bind (deliverSdu_spec (placed_spec h hsn hinside hstored hw)) ?_
  rintro ⟨s', sdu⟩ ⟨hsettled, hdelivery⟩
  refine yields_bind (updateReassemblyTimer_spec hsettled) ?_
  rintro s'' ⟨hinv, htimer⟩
  exact ⟨hinv, .placed info hinside (Bool.not_eq_true _ ▸ hmissing) hstored hw hdelivery htimer⟩

def Handled (cfg : RlcRxAmConfig) (s : RlcRxAmEntity) (buf : List UInt8) (s' : RlcRxAmEntity)
    (sdu : Option (List UInt8)) : Prop :=
  (s' = s ∧ sdu = none) ∨ ∃ header s₁, rlcAmReadDataPduHeader buf cfg.snFieldLength = .ok header ∧
    Received cfg s header (buf.drop header.getPackedSize) s₁ sdu ∧ ReportSet s₁ s'

lemma handleDataPdu_spec (h : s.RxInv cfg) {buf : List UInt8} :
    Yields (handleDataPdu cfg s buf) (fun res => res.1.RxInv cfg ∧ Handled cfg s buf res.1 res.2) rxAborts := by
  unfold handleDataPdu
  cases hread : rlcAmReadDataPduHeader buf cfg.snFieldLength with
  | error e => exact ⟨h, .inl ⟨rfl, rfl⟩⟩
  | ok header =>
    refine yields_ite (fun _ => ⟨h, .inl ⟨rfl, rfl⟩⟩) fun _ => ?_
    refine yields_bind (receivePdu_spec h (rlcAmReadDataPduHeader_sn_lt hread)) ?_
    rintro ⟨s₁, sdu, changed⟩ ⟨hinv, hreceived⟩
    refine yields_ite (fun _ => yields_bind (refreshStatusReport_spec hinv) ?_) fun _ => ?_
    · rintro _ ⟨hreport, p, q, b, rfl⟩
      exact ⟨hreport.congr rfl rfl rfl, .inr ⟨header, s₁, hread, hreceived, p, q, _, rfl⟩⟩
    · exact ⟨hinv.congr rfl rfl rfl, .inr ⟨header, s₁, hread, hreceived, _, _, _, rfl⟩⟩

end Receiving

/-- What happens to the receiver: a PDU arrives, a timer expires, or the transmitting side takes the status report. -/
inductive RxAmEvent where
  | handlePdu (buf : List UInt8)
  | reassemblyTimerExpires
  | getStatusPdu
  | statusProhibitTimerExpires
deriving DecidableEq

def step (cfg : RlcRxAmConfig) (s : RlcRxAmEntity) : RxAmEvent → Except RlcAbort RlcRxAmEntity
  | .handlePdu buf => Prod.fst <$> s.handlePdu cfg buf
  | .reassemblyTimerExpires => s.reassemblyTimerExpires cfg
  | .getStatusPdu => .ok (s.getStatusPdu cfg).2
  | .statusProhibitTimerExpires => .ok s.onExpiredStatusProhibitTimer

section Runs

variable {cfg : RlcRxAmConfig} {s : RlcRxAmEntity}

lemma init_rxInv : (init cfg).RxInv cfg := by
  have hzero : snDist cfg.mod 0 0 = 0 := snDist_self cfg.mod_pos
  have hnone : ∀ sn, (init cfg).rxWindow.find? sn = none := fun sn => CircularMap.new_find? _ cfg.amWindowSize_pos
  have hmissing : ∀ sn, (init cfg).fullyReceivedSn sn = false := by
    intro sn
    unfold fullyReceivedSn
    rw [hnone]
  refine ⟨⟨cfg.mod_pos, cfg.mod_pos, cfg.mod_pos, cfg.mod_pos, le_rfl, hzero.le.trans (Nat.zero_le _),
    ⟨CircularMap.new_wellFormed _ cfg.amWindowSize_pos, CircularMap.new_capacity _ cfg.amWindowSize_pos, ?_, ?_⟩, fun hpos => ?_⟩, hmissing _, hmissing _,
    fun hrun => nomatch hrun⟩
  · intro sn info hinfo
    rw [hnone] at hinfo
    cases hinfo
  · intro sn info hinfo
    rw [hnone] at hinfo
    cases hinfo
  · exact absurd hpos (hzero.le.not_gt)

lemma handlePdu_rxInv (h : s.RxInv cfg) {buf : List UInt8} :
    Yields (handlePdu cfg s buf) (fun res => res.1.RxInv cfg) rxAborts := by
  unfold handlePdu
  cases RlcAmStatusPdu.isControlPdu buf with
  | error _ => exact h
  | ok control =>
    cases control with
    | true =>
      dsimp only
      cases (RlcAmStatusPdu.new cfg.snFieldLength).unpack buf with
      | error _ => exact h
      | ok _ => exact h
    | false => exact yields_bind (handleDataPdu_spec h) fun res hres => hres.1

lemma step_rxInv (h : s.RxInv cfg) (e : RxAmEvent) : Yields (step cfg s e) (RxInv cfg) rxAborts := by
  cases e with
  | handlePdu buf => exact yields_bind (handlePdu_rxInv h) fun _ hres => hres
  | reassemblyTimerExpires => exact (reassemblyTimerExpires_spec h).post fun _ hs' => hs'.1
  | getStatusPdu => exact h.congr rfl rfl rfl
  | statusProhibitTimerExpires => exact h.congr rfl rfl rfl

end Runs

/-- The state variables, as the code compares them: modulo the SN space, from `rx_next` on. -/
structure StateConsistent (cfg : RlcRxAmConfig) (s : RlcRxAmEntity) : Prop where
  highestStatus_le : s.rxModBase cfg s.st.rxHighestStatus ≤ s.rxModBase cfg s.st.rxNextHighest
  nextHighest_le : s.rxModBase cfg s.st.rxNextHighest ≤ cfg.amWindowSize
  rxWindow : ∀ sn, SduWindow.hasSn s.rxWindow sn = true → s.rxModBase cfg sn < s.rxModBase cfg s.st.rxNextHighest
  rxNext_missing : s.fullyReceivedSn s.st.rxNext = false
  highestStatus_missing : s.fullyReceivedSn s.st.rxHighestStatus = false
  trigger : s.reassemblyTimerRunning = true → 0 < s.rxModBase cfg s.st.rxNextStatusTrigger ∧
    s.rxModBase cfg s.st.rxNextStatusTrigger ≤ s.rxModBase cfg s.st.rxNextHighest

lemma RxInv.stateConsistent {cfg : RlcRxAmConfig} {s : RlcRxAmEntity} (h : s.RxInv cfg) : s.StateConsistent cfg := by
  have heq := rxModBase_eq h.rxNext_lt
  refine ⟨?_, ?_, fun sn hsn => ?_, h.rxNext_missing, h.highestStatus_missing, fun hrun => ?_⟩
  · rw [heq, heq]
    exact h.highestStatus_le
  · rw [heq]
    exact h.nextHighest_le
  · obtain ⟨info, hinfo⟩ := SduWindow.hasSn_iff.mp hsn
    rw [heq, heq]
    exact (h.window.inWindow sn info hinfo).2
  · rw [heq, heq]
    exact ⟨(h.trigger hrun).pos, (h.trigger hrun).le⟩

/-- Whatever PDUs arrive and whenever the timers expire, the state variables stay consistent. A run only stops in the
status report, for segments out of the range of the offset, or where t-Reassembly is started without a duration. -/
theorem rx_state_consistent (cfg : RlcRxAmConfig) (es : List RxAmEvent) :
    (∀ s, runEvents (step cfg) (init cfg) es = .ok s → s.StateConsistent cfg) ∧
      ∀ a, runEvents (step cfg) (init cfg) es = .error a → a = .segmentOffsets ∨ a = .timerUnset := by
  have hrun : Yields (runEvents (step cfg) (init cfg) es) (RxInv cfg) rxAborts :=
    runEvents_yields (C := fun _ => True) (RxInv cfg) (fun _ e _ h => step_rxInv h e) (fun _ _ => trivial) init_rxInv
  obtain ⟨hok, herror⟩ := yields_iff.mp hrun
  exact ⟨fun s hs => (hok s hs).stateConsistent, herror⟩

end RlcRxAmEntity

end OwlsRan.Rlc
