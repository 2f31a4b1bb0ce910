import OwlsRan.Rlc.TxAmMoves

/-!
# STATUS PDUs at the transmitter of RLC AM
-/

namespace OwlsRan.Rlc
open OwlsRan.Lib OwlsRan.Adt Relation

namespace RlcTxAmEntity

structure Acked (cfg : RlcTxAmConfig) (ahead : Prop) (s s' : RlcTxAmEntity) : Prop where
  moves : ReflTransGen (TxCore.AckMove cfg.sizes ahead) s.core s'.core
  window : WindowOk cfg s'.txWindow
  sduQueue : s'.sduQueue = s.sduQueue
  retxQueue : s'.retxQueue = s.retxQueue

def RetxIn (cfg : RlcTxAmConfig) (c : TxCore) (queue : List RlcTxAmdRetx) : Prop :=
  ∀ r ∈ queue, ∃ sdu, c.InFlight cfg.sizes r.sn sdu ∧ 0 < r.length ∧ r.so + r.length ≤ sdu.length

section Distances

variable {cfg : RlcTxAmConfig} {s : RlcTxAmEntity} {sn : Nat}

lemma txModBase_eq (hsafe : s.core.Safe cfg.sizes) (sn : Nat) :
    s.txModBase cfg sn = snDist cfg.mod s.st.txNextAck sn :=
  modBase_eq cfg.mod_dvd (hsafe.txNextAck_lt.trans cfg.mod_lt)

lemma mod_pos : 0 < cfg.mod := TxCore.mod_pos (z := cfg.sizes)

lemma txModBase_txNext (hsafe : s.core.Safe cfg.sizes) :
    s.txModBase cfg s.st.txNext = s.core.outstanding cfg.sizes := txModBase_eq hsafe _

lemma age_add_txModBase (hsafe : s.core.Safe cfg.sizes)
    (hle : s.txModBase cfg sn ≤ s.core.outstanding cfg.sizes) :
    s.txModBase cfg sn + s.core.age cfg.sizes sn = s.core.outstanding cfg.sizes := by
  have htriangle := snDist_triangle (m := cfg.mod) mod_pos s.st.txNextAck sn s.st.txNext
  have hlt : snDist cfg.mod sn s.st.txNext < cfg.mod := snDist_lt mod_pos
  rw [txModBase_eq hsafe] at hle ⊢
  change snDist cfg.mod s.st.txNextAck sn ≤ snDist cfg.mod s.st.txNextAck s.st.txNext at hle
  change snDist cfg.mod s.st.txNextAck sn + snDist cfg.mod sn s.st.txNext =
    snDist cfg.mod s.st.txNextAck s.st.txNext
  omega

/-- The window is not ahead of `tx_next`. -/
def NotAhead (cfg : RlcTxAmConfig) (s : RlcTxAmEntity) : Prop := s.core.outstanding cfg.sizes ≤ cfg.amWindowSize

lemma find?_of_le (hsafe : s.core.Safe cfg.sizes) (hahead : NotAhead cfg s) (hsn : sn < cfg.mod)
    (hle : s.txModBase cfg sn ≤ s.core.outstanding cfg.sizes)
    (hnext : sn = s.st.txNext → ∃ info, s.txWindow.find? sn = some info) :
    ∃ info, s.txWindow.find? sn = some info := by
  have hsum := age_add_txModBase hsafe hle
  have hmod := cfg.mod_eq
  have hW := cfg.one_lt_amWindowSize
  by_cases hzero : s.core.age cfg.sizes sn = 0
  · exact hnext ((TxCore.age_eq_zero hsn hsafe.txNext_lt).mp hzero)
  · obtain hlag | ⟨-, hall⟩ := hsafe.inFlight
    · unfold NotAhead at hahead
      change s.core.outstanding cfg.sizes + 1 = cfg.mod at hlag
      omega
    · obtain ⟨v, hv⟩ := hall sn hsn (by omega) (by omega)
      obtain ⟨info, hinfo, -⟩ := core_window.mp hv
      exact ⟨info, hinfo⟩

end Distances

section Acks

variable {cfg : RlcTxAmConfig} {s : RlcTxAmEntity} {ahead : Prop} {E : RlcAbort → Prop}

/-- The loop over the acknowledged SNs. It gets ahead of `tx_next` only if it is told to stop there, and finds it. -/
lemma processAcks_acked {stopSn fuel : Nat} {delivered : DeliveredSns} (hw : WindowOk cfg s.txWindow)
    (hsafe : s.core.Safe cfg.sizes) (hfuel : s.txModBase cfg stopSn < fuel)
    (hahead : s.core.outstanding cfg.sizes < s.txModBase cfg stopSn →
      (∃ v, s.core.window s.st.txNext = some v) → ahead) :
    Yields (processAcks cfg stopSn fuel s delivered s.st.txNextAck) (fun res => Acked cfg ahead s res.1 ∧
      (s.txModBase cfg stopSn ≤ s.core.outstanding cfg.sizes →
        res.1.core.outstanding cfg.sizes ≤ s.core.outstanding cfg.sizes)) E := by
  induction fuel generalizing s delivered with
  | zero => exact absurd hfuel (Nat.not_lt_zero _)
  | succ fuel ih =>
    have hstop : Acked cfg ahead s s := ⟨.refl, hw, rfl, rfl⟩
    unfold processAcks
    refine yields_ite (fun hlt => ?_) fun _ => ⟨hstop, fun _ => le_rfl⟩
    cases hinfo : s.txWindow.find? s.st.txNextAck with
    | none => exact ⟨hstop, fun _ => le_rfl⟩
    | some info =>
      refine yields_bind (yields_removeInfo hw hinfo) ?_
      rintro w ⟨hw', hfind⟩
      have hv : s.core.window s.core.txNextAck = some ⟨info.sdu, info.nextSo⟩ := core_window.mpr ⟨info, hinfo, rfl⟩
      have hzero : s.txModBase cfg s.st.txNextAck = 0 := (txModBase_eq hsafe _).trans (snDist_self mod_pos)
      have hcore : RlcTxAmEntity.core { s with
          txWindow := w, st := { s.st with txNextAck := (s.st.txNextAck + 1) % cfg.mod } } =
          { s.core with
            txNextAck := (s.core.txNextAck + 1) % cfg.sizes.mod
            window := fun j => if j = s.core.txNextAck then none else s.core.window j } := by
        refine core_eq rfl rfl rfl fun j => ?_
        change (w.find? j).map _ = if j = s.st.txNextAck then none else (s.txWindow.find? j).map _
        rw [hfind]
        split <;> rfl
      have hmove : TxCore.AckMove cfg.sizes ahead s.core _ := .ack _ hv fun hout => by
        apply hahead (by omega)
        have heq : s.st.txNextAck = s.st.txNext := (snDist_eq_zero mod_pos hsafe.txNextAck_lt hsafe.txNext_lt).mp hout
        rw [← heq]
        exact ⟨_, hv⟩
      rw [← hcore] at hmove
      have hsafe' := hmove.safe hsafe
      have hmod := cfg.mod_eq
      have hW := cfg.one_lt_amWindowSize
      have hstop₁ : RlcTxAmEntity.txModBase cfg { s with
          txWindow := w, st := { s.st with txNextAck := (s.st.txNextAck + 1) % cfg.mod } } stopSn + 1 =
          s.txModBase cfg stopSn := by
        have hpos : 0 < snDist cfg.mod s.st.txNextAck stopSn := by
          rw [← txModBase_eq hsafe]
          omega
        rw [txModBase_eq hsafe', txModBase_eq hsafe]
        change snDist cfg.mod ((s.st.txNextAck + 1) % cfg.mod) stopSn + 1 = snDist cfg.mod s.st.txNextAck stopSn
        rw [snDist_mod_left, snDist_rebase mod_pos (by omega)]
        omega
      have hout : s.core.outstanding cfg.sizes ≠ 0 → TxCore.outstanding cfg.sizes (RlcTxAmEntity.core { s with
          txWindow := w, st := { s.st with txNextAck := (s.st.txNextAck + 1) % cfg.mod } }) + 1 =
          s.core.outstanding cfg.sizes := by
        intro hne
        change snDist cfg.mod s.st.txNextAck s.st.txNext ≠ 0 at hne
        change snDist cfg.mod ((s.st.txNextAck + 1) % cfg.mod) s.st.txNext + 1 = snDist cfg.mod s.st.txNextAck s.st.txNext
        rw [snDist_mod_left, snDist_rebase mod_pos (by omega)]
        omega
      refine (ih (s := { s with
        txWindow := w, st := { s.st with txNextAck := (s.st.txNextAck + 1) % cfg.mod } })
        hw' hsafe' (by omega) fun hlt₁ hpresent => ?_).post ?_
      rotate_left
      · rintro res ⟨hacked, hmono⟩
        refine ⟨⟨.head hmove hacked.moves, hacked.window, hacked.sduQueue, hacked.retxQueue⟩, fun hle => ?_⟩
        have hout' := hout (by omega)
        have hmono' := hmono (by omega)
        omega
      · have hkept : ∃ v, s.core.window s.st.txNext = some v := by
          obtain ⟨v, hv'⟩ := hpresent
          rw [hcore] at hv'
          dsimp only at hv'
          split at hv'
          · cases hv'
          · exact ⟨v, hv'⟩
        refine hahead ?_ hkept
        by_cases hD : s.core.outstanding cfg.sizes = 0
        · omega
        · have hout' := hout hD
          omega

end Acks

structure Nacked (cfg : RlcTxAmConfig) (s s' : RlcTxAmEntity) : Prop where
  core : s'.core = s.core
  window : WindowOk cfg s'.txWindow
  sduQueue : s'.sduQueue = s.sduQueue
  retx : RetxIn cfg s.core s'.retxQueue.queue

section Nacks

variable {cfg : RlcTxAmConfig} {s s' s'' : RlcTxAmEntity} {sn : Nat} {E : RlcAbort → Prop}

lemma Nacked.refl (hw : WindowOk cfg s.txWindow) (hretx : RetxIn cfg s.core s.retxQueue.queue) : Nacked cfg s s :=
  ⟨rfl, hw, rfl, hretx⟩

lemma Nacked.trans (h : Nacked cfg s s') (h' : Nacked cfg s' s'') : Nacked cfg s s'' :=
  ⟨h'.core.trans h.core, h'.window, h'.sduQueue.trans h.sduQueue, h.core ▸ h'.retx⟩

lemma Nacked.notify (h : Nacked cfg s s') (notices : List TxNotice) : Nacked cfg s (s'.notify notices) :=
  ⟨h.core, h.window, h.sduQueue, h.retx⟩

lemma core_modify {w : SduWindow RlcTxAmSduInfo} {info : RlcTxAmSduInfo}
    (hinfo : s.txWindow.find? sn = some info) {f : RlcTxAmSduInfo → RlcTxAmSduInfo}
    (hf : ∀ i, (f i).sdu = i.sdu ∧ (f i).nextSo = i.nextSo)
    (hfind : ∀ j, w.find? j = if j = sn then some (f info) else s.txWindow.find? j) :
    RlcTxAmEntity.core { s with txWindow := w } = s.core := by
  refine core_eq rfl rfl rfl fun j => ?_
  change (w.find? j).map _ = (s.txWindow.find? j).map _
  rw [hfind]
  split
  case isTrue hj =>
    rw [hj, hinfo]
    refine congrArg some ?_
    dsimp only
    rw [(hf info).1, (hf info).2]
  case isFalse => rfl

lemma decrementRetxCount_spec (info : RlcTxAmSduInfo) :
    (decrementRetxCount info).sdu = info.sdu ∧ (decrementRetxCount info).nextSo = info.nextSo := by
  unfold decrementRetxCount
  split_ifs
  · exact ⟨rfl, rfl⟩
  · exact ⟨rfl, rfl⟩
  · exact ⟨rfl, rfl⟩

lemma clearRetxQueue_nacked {l : List RlcTxAmdRetx} (hl : s.retxQueue.queue = l) (hw : WindowOk cfg s.txWindow) :
    Nacked cfg s (clearRetxQueue l s) := by
  induction l generalizing s with
  | nil =>
    refine ⟨rfl, hw, rfl, ?_⟩
    change RetxIn cfg s.core s.retxQueue.queue
    rw [hl]
    exact fun _ hr => (nomatch hr)
  | cons retx rest ih =>
    have hpop : s.retxQueue.pop.queue = rest := by
      unfold RlcRetxQueue.pop
      rw [hl]
    unfold clearRetxQueue
    dsimp only
    split_ifs with hsame hhas
    · have hrest := ih (s := { s with retxQueue := s.retxQueue.pop }) hpop hw
      exact ⟨hrest.core, hrest.window, hrest.sduQueue, hrest.retx⟩
    · obtain ⟨info, hinfo⟩ := SduWindow.hasSn_iff.mp hhas
      obtain ⟨hfind, hwf⟩ := CircularMap.modify_spec (f := decrementRetxCount) hw.wellFormed hinfo
      have hcore := core_modify hinfo decrementRetxCount_spec hfind
      have hrest := ih (s := { s with
        txWindow := s.txWindow.modify retx.sn decrementRetxCount, retxSn := some retx.sn, retxQueue := s.retxQueue.pop })
        hpop ⟨hwf, CircularMap.modify_counted hw.counted, CircularMap.capacity_modify.trans hw.capacity⟩
      have hsame' : RlcTxAmEntity.core { s with
        txWindow := s.txWindow.modify retx.sn decrementRetxCount, retxSn := some retx.sn
        retxQueue := s.retxQueue.pop } = s.core := hcore
      exact ⟨hrest.core.trans hsame', hrest.window, hrest.sduQueue, hsame' ▸ hrest.retx⟩
    · have hrest := ih (s := { s with retxSn := some retx.sn, retxQueue := s.retxQueue.pop }) hpop hw
      exact ⟨hrest.core, hrest.window, hrest.sduQueue, hrest.retx⟩

lemma toNat_lastOffset {sduLength : Nat} (hpos : 0 < sduLength) (hlt : sduLength < 65536) :
    (lastOffset sduLength).toNat = sduLength - 1 := by
  unfold lastOffset
  rw [UInt16.toNat_sub_of_le _ _ (by rw [UInt16.le_iff_toNat_le, UInt16.toNat_ofNat']; simp; omega),
    UInt16.toNat_ofNat']
  simp
  omega

lemma sanitizeNack_spec (soStart soEnd : UInt16) {sduLength : Nat} (hpos : 0 < sduLength) :
    (sanitizeNack soStart soEnd sduLength).soStart.toNat ≤ (sanitizeNack soStart soEnd sduLength).soEnd.toNat ∧
      (sanitizeNack soStart soEnd sduLength).soEnd.toNat < sduLength := by
  have hend := soEnd.toNat_lt
  have hlast : soEnd.toNat ≥ sduLength → (lastOffset sduLength).toNat = sduLength - 1 := fun hge =>
    toNat_lastOffset hpos (by omega)
  unfold sanitizeNack
  simp only [decide_eq_true_eq]
  split_ifs with h₁ h₂ h₃
  all_goals simp only [gt_iff_lt, UInt16.lt_iff_toNat_lt, UInt16.toNat_zero] at *
  all_goals omega

lemma enqueueRetx_nacked (hw : WindowOk cfg s.txWindow) (hretx : RetxIn cfg s.core s.retxQueue.queue)
    {sdu : List UInt8} (hsdu : s.core.InFlight cfg.sizes sn sdu) {checked : CheckedNack}
    (hle : checked.soStart.toNat ≤ checked.soEnd.toNat) (hlt : checked.soEnd.toNat < sdu.length) : Nacked cfg s (s.enqueueRetx sn checked).2 := by
  have hnotified := (Nacked.refl hw hretx).notify checked.notices
  unfold enqueueRetx RlcRetxQueue.tryPush
  dsimp only
  split_ifs
  · exact hnotified
  · refine ⟨rfl, hw, rfl, fun r hr => ?_⟩
    rcases List.mem_append.mp hr with hold | hnew
    · exact hretx r hold
    · rw [List.mem_singleton.mp hnew]
      refine ⟨sdu, hsdu, ?_, ?_⟩
      · dsimp only
        omega
      · dsimp only
        omega

lemma yields_atSn_of (h : ¬E .snAbsent → ∃ info, s.txWindow.find? sn = some info) :
    Yields (SduWindow.atSn s.txWindow sn) (fun info => s.txWindow.find? sn = some info) E := by
  unfold SduWindow.atSn
  cases hinfo : s.txWindow.find? sn with
  | some info => exact rfl
  | none =>
    by_contra hE
    obtain ⟨info, hinfo'⟩ := h hE
    rw [hinfo] at hinfo'
    cases hinfo'

variable {nack : RlcAmStatusNack}

/-- A NACK is handled. It aborts only if the SN that it is about is `tx_next`, and not in the window. -/
lemma handleNack_nacked (hw : WindowOk cfg s.txWindow) (hsafe : s.core.Safe cfg.sizes) (hahead : NotAhead cfg s)
    (hretx : RetxIn cfg s.core s.retxQueue.queue) (hsn : nack.nackSn < cfg.mod)
    (hnext : ¬E .snAbsent → nack.nackSn = s.st.txNext → ∃ info, s.txWindow.find? nack.nackSn = some info) :
    Yields (handleNack cfg s nack) (fun res => Nacked cfg s res.2 ∧
      (res.1 = true → ∃ v, s.core.window nack.nackSn = some v)) E := by
  have hstop : Nacked cfg s s := .refl hw hretx
  unfold handleNack
  refine yields_ite (fun _ => ⟨hstop, fun h => (nomatch h)⟩) fun _ => ?_
  refine yields_ite (fun _ => ⟨hstop, fun h => (nomatch h)⟩) fun hin => ?_
  rw [not_not, txModBase_txNext hsafe] at hin
  have hsum := age_add_txModBase hsafe hin.2
  refine yields_bind (yields_atSn_of fun hE => find?_of_le hsafe hahead hsn hin.2 (hnext hE)) fun info hinfo => ?_
  cases s.nackEnd nack info with
  | none => exact ⟨hstop, fun h => (nomatch h)⟩
  | some soEnd =>
    have hv : s.core.window nack.nackSn = some ⟨info.sdu, info.nextSo⟩ := core_window.mpr ⟨info, hinfo, rfl⟩
    obtain ⟨-, hsdu, -⟩ := hsafe.entry _ _ hv
    obtain ⟨hle, hlt⟩ := sanitizeNack_spec (if nack.hasSo then nack.soStart else 0) soEnd (List.length_pos_iff.mpr hsdu)
    exact ⟨enqueueRetx_nacked hw hretx ⟨hahead, by omega, _, hv, rfl⟩ hle hlt, fun _ => ⟨_, hv⟩⟩

lemma incrementRetxCount_nacked (hw : WindowOk cfg s.txWindow) (hretx : RetxIn cfg s.core s.retxQueue.queue)
    (hv : ∃ v, s.core.window sn = some v) : Yields (incrementRetxCount cfg s sn) (Nacked cfg s) E := by
  obtain ⟨v, hv⟩ := hv
  obtain ⟨info, hinfo, -⟩ := core_window.mp hv
  unfold incrementRetxCount
  refine yields_bind (yields_modifyInfo hw hinfo) ?_
  rintro w ⟨hw', hfind⟩
  have hself : w.find? sn = some (countRetx info) := (hfind sn).trans (if_pos rfl)
  refine yields_bind (SduWindow.yields_atSn hself) fun counted _ => ?_
  have hcore : RlcTxAmEntity.core { s with txWindow := w } = s.core := core_modify (f := countRetx) hinfo (fun _ => ⟨rfl, rfl⟩) hfind
  exact ⟨hcore, hw', rfl, hretx⟩

/-- The SN, or the SNs, that a NACK is about are in the window if they are `tx_next`. -/
def NackPresent (cfg : RlcTxAmConfig) (s : RlcTxAmEntity) (nack : RlcAmStatusNack) : Prop :=
  ∀ i < nack.range, (nack.nackSn + i) % cfg.mod = s.st.txNext → ∃ v, s.core.window s.st.txNext = some v

variable {prevRetxSn : Option Nat}

lemma processNack_nacked (hw : WindowOk cfg s.txWindow) (hsafe : s.core.Safe cfg.sizes) (hahead : NotAhead cfg s)
    (hretx : RetxIn cfg s.core s.retxQueue.queue)
    (hsn : nack.nackSn < cfg.mod)
    (hnext : ¬E .snAbsent → nack.nackSn = s.st.txNext → ∃ v, s.core.window s.st.txNext = some v) :
    Yields (processNack cfg s prevRetxSn nack) (fun res => Nacked cfg s res.1) E := by
  have hpresent : ¬E .snAbsent → nack.nackSn = s.st.txNext → ∃ info, s.txWindow.find? nack.nackSn = some info := by
    intro hE heq
    obtain ⟨v, hv⟩ := hnext hE heq
    obtain ⟨info, hinfo, -⟩ := core_window.mp hv
    exact ⟨info, heq ▸ hinfo⟩
  unfold processNack
  refine yields_bind (handleNack_nacked hw hsafe hahead hretx hsn hpresent) ?_
  rintro ⟨enqueued, s'⟩ ⟨hnacked, hfound⟩
  refine yields_ite (fun hcount => ?_) fun _ => hnacked
  have henqueued : enqueued = true := (Bool.and_eq_true .. ▸ hcount).1
  have hretx' : RetxIn cfg s'.core s'.retxQueue.queue := hnacked.core.symm ▸ hnacked.retx
  have hv : ∃ v, s'.core.window nack.nackSn = some v := hnacked.core.symm ▸ hfound henqueued
  refine yields_bind (incrementRetxCount_nacked hnacked.window hretx' hv) fun s'' hs'' => ?_
  exact hnacked.trans hs''

lemma Nacked.keeps (h : Nacked cfg s s') (hsafe : s.core.Safe cfg.sizes) (hahead : NotAhead cfg s) :
    s'.core.Safe cfg.sizes ∧ NotAhead cfg s' ∧ RetxIn cfg s'.core s'.retxQueue.queue := by
  unfold NotAhead
  rw [h.core]
  exact ⟨hsafe, hahead, h.retx⟩

lemma processNackRange_nacked (hw : WindowOk cfg s.txWindow) (hsafe : s.core.Safe cfg.sizes) (hahead : NotAhead cfg s)
    (hretx : RetxIn cfg s.core s.retxQueue.queue) {ackSn fuel rangeSn : Nat}
    (hsn : rangeSn < cfg.mod)
    (hfuel : snDist cfg.mod rangeSn ((nack.nackSn + nack.nackRange.toNat) % cfg.mod) < fuel)
    (hnext : ¬E .snAbsent → ∀ i < snDist cfg.mod rangeSn ((nack.nackSn + nack.nackRange.toNat) % cfg.mod),
      (rangeSn + i) % cfg.mod = s.st.txNext → ∃ v, s.core.window s.st.txNext = some v) :
    Yields (processNackRange cfg ackSn nack fuel s prevRetxSn rangeSn) (fun res => Nacked cfg s res.1) E := by
  induction fuel generalizing s prevRetxSn rangeSn with
  | zero => exact absurd hfuel (Nat.not_lt_zero _)
  | succ fuel ih =>
    have hstop : Nacked cfg s s := .refl hw hretx
    unfold processNackRange
    refine yields_ite (fun _ => hstop) fun hne => yields_ite (fun _ => hstop) fun _ => ?_
    have hend : (nack.nackSn + nack.nackRange.toNat) % cfg.mod < cfg.mod := Nat.mod_lt _ mod_pos
    have hpos : snDist cfg.mod rangeSn ((nack.nackSn + nack.nackRange.toNat) % cfg.mod) ≠ 0 := fun hzero =>
      hne ((snDist_eq_zero mod_pos hsn hend).mp hzero)
    have hitem : (rangeItem cfg nack rangeSn).nackSn = rangeSn := by
      unfold rangeItem
      dsimp only
      split <;> rfl
    have hfirst : ¬E .snAbsent → rangeSn = s.st.txNext → ∃ v, s.core.window s.st.txNext = some v := by
      intro hE heq
      apply hnext hE 0 (by omega)
      rw [Nat.add_zero, Nat.mod_eq_of_lt hsn]
      exact heq
    refine yields_bind (processNack_nacked hw hsafe hahead hretx (hitem.trans_lt hsn) (hitem.symm ▸ hfirst)) ?_
    rintro ⟨s', prevRetxSn'⟩ hnacked
    have hnacked' : Nacked cfg s s' := hnacked
    obtain ⟨hsafe', hahead', hretx'⟩ := hnacked'.keeps hsafe hahead
    have htxNext : s'.st.txNext = s.st.txNext := congrArg TxCore.txNext hnacked'.core
    have hrebase : snDist cfg.mod ((rangeSn + 1) % cfg.mod) ((nack.nackSn + nack.nackRange.toNat) % cfg.mod) =
        snDist cfg.mod rangeSn ((nack.nackSn + nack.nackRange.toNat) % cfg.mod) - 1 := by
      rw [snDist_mod_left, snDist_rebase mod_pos (by omega)]
    refine (ih hnacked'.window hsafe' hahead' hretx' (Nat.mod_lt _ mod_pos) (by omega) fun hE i hi heq => ?_).post
      fun res hres => hnacked'.trans hres
    rw [htxNext] at heq ⊢
    rw [hnacked'.core]
    apply hnext hE (i + 1) (by omega)
    rw [← heq, Nat.mod_add_mod, Nat.add_assoc, Nat.add_comm 1 i]

lemma processNacks_nacked {nacks : List RlcAmStatusNack} (hw : WindowOk cfg s.txWindow) (hsafe : s.core.Safe cfg.sizes)
    (hahead : NotAhead cfg s) (hretx : RetxIn cfg s.core s.retxQueue.queue) {ackSn : Nat}
    (hsn : ∀ nack ∈ nacks, nack.nackSn < cfg.mod) 
    (hnext : ¬E .snAbsent → ∀ nack ∈ nacks, NackPresent cfg s nack) :
    Yields (processNacks cfg ackSn nacks s prevRetxSn) (Nacked cfg s) E := by
  induction nacks generalizing s prevRetxSn with
  | nil => exact .refl hw hretx
  | cons nack nacks ih =>
    have hnackSn := hsn nack List.mem_cons_self
    have hpresent : ¬E .snAbsent → NackPresent cfg s nack := fun hE => hnext hE nack List.mem_cons_self
    have hrest : ∀ res : RlcTxAmEntity × Option Nat, Nacked cfg s res.1 →
        Yields (processNacks cfg ackSn nacks res.1 res.2) (Nacked cfg s) E := by
      rintro ⟨s', prevRetxSn'⟩ hnacked
      have hnacked' : Nacked cfg s s' := hnacked
      obtain ⟨hsafe', hahead', hretx'⟩ := hnacked'.keeps hsafe hahead
      refine (ih hnacked'.window hsafe' hahead' hretx' (fun n hn => hsn n (List.mem_cons_of_mem nack hn))
        fun hE n hn i hi => ?_).post fun _ hres => hnacked'.trans hres
      rw [hnacked'.core, show s'.st.txNext = s.st.txNext from congrArg TxCore.txNext hnacked'.core]
      exact hnext hE n (List.mem_cons_of_mem nack hn) i hi
    unfold processNacks
    refine yields_ite (fun hrange => ?_) fun hrange => ?_
    · have hlt : nack.nackRange.toNat < cfg.mod := by
        have h8 := nack.nackRange.toNat_lt
        have hmod : 256 < cfg.mod := by
          unfold RlcTxAmConfig.mod
          cases cfg.snFieldLength <;> decide
        omega
      have hdist : snDist cfg.mod nack.nackSn ((nack.nackSn + nack.nackRange.toNat) % cfg.mod) = nack.nackRange.toNat := by
        rw [snDist_mod_right, snDist_add hlt]
      have hrangeEq : nack.range = nack.nackRange.toNat := if_pos hrange
      refine yields_bind (processNackRange_nacked hw hsafe hahead hretx hnackSn (by omega) fun hE i hi => ?_) hrest
      exact hpresent hE i (by omega)
    · have hrangeEq : nack.range = 1 := if_neg hrange
      refine yields_bind (processNack_nacked hw hsafe hahead hretx hnackSn fun hE heq => ?_) hrest
      apply hpresent hE 0 (by omega)
      rw [Nat.add_zero, Nat.mod_eq_of_lt hnackSn]
      exact heq

end Nacks

def accepts (cfg : RlcTxAmConfig) (s : RlcTxAmEntity) (status : RlcAmStatusPdu) : Bool :=
  s.validAckSn cfg status.ackSn && !(s.txModBase cfg status.ackSn > s.txModBase cfg (s.st.txNext + 1)) &&
    (s.validNacks cfg status.ackSn status.nacks).1

def AcksUnder (cfg : RlcTxAmConfig) (s : RlcTxAmEntity) (status : RlcAmStatusPdu) : Prop :=
  s.accepts cfg status = true ∧ s.snUnderSegmentation.isSome = true ∧ status.nacks = [] ∧
    s.txModBase cfg s.st.txNext < s.txModBase cfg status.ackSn

structure TxInv (cfg : RlcTxAmConfig) (s : RlcTxAmEntity) : Prop where
  window : WindowOk cfg s.txWindow
  safe : s.core.Safe cfg.sizes
  retx : RetxIn cfg s.core s.retxQueue.queue

section Status

variable {cfg : RlcTxAmConfig} {s s' : RlcTxAmEntity} {status : RlcAmStatusPdu} {E : RlcAbort → Prop}

lemma updateMacBufferState_keeps (cfg : RlcTxAmConfig) (s : RlcTxAmEntity) :
    (s.updateMacBufferState cfg).core = s.core ∧ (s.updateMacBufferState cfg).txWindow = s.txWindow ∧
      (∀ sdu ∈ (s.updateMacBufferState cfg).sduQueue.queue, sdu ∈ s.sduQueue.queue) ∧
      ∀ r ∈ (s.updateMacBufferState cfg).retxQueue.queue, r ∈ s.retxQueue.queue := by
  unfold updateMacBufferState getBufferState
  dsimp only
  split
  · exact ⟨rfl, rfl, RlcSduQueue.front_mem, dropRetx_mem⟩
  · exact ⟨rfl, rfl, fun _ h => h, dropRetx_mem⟩

lemma TxInv.of_core (h : TxInv cfg s) (hcore : s'.core = s.core) (hw : WindowOk cfg s'.txWindow)
    (hretx : ∀ r ∈ s'.retxQueue.queue, r ∈ s.retxQueue.queue) : TxInv cfg s' := by
  refine ⟨hw, hcore ▸ h.safe, fun r hr => ?_⟩
  rw [hcore]
  exact h.retx r (hretx r hr)

lemma TxInv.updateMacBufferState (h : TxInv cfg s) : TxInv cfg (s.updateMacBufferState cfg) := by
  obtain ⟨hcore, hw, -, hretx⟩ := updateMacBufferState_keeps cfg s
  exact h.of_core hcore (hw ▸ h.window) hretx

lemma validNack_le {ackSn : Nat} {nack : RlcAmStatusNack} (h : (s.validNack cfg ackSn nack).1 = true) :
    s.txModBase cfg nack.nackSn ≤ s.txModBase cfg s.st.txNext := by
  by_contra hlt
  have hbeyond : s.beyondTxNext cfg nack.nackSn = true := decide_eq_true (Nat.not_le.mp hlt)
  unfold validNack at h
  rw [hbeyond, Bool.true_or, if_pos rfl] at h
  split at h
  · cases h
  · cases h

lemma checkNacks_mem {check : RlcAmStatusNack → Bool × List TxNotice} {nacks : List RlcAmStatusNack}
    (h : (checkNacks check nacks).1 = true) : ∀ nack ∈ nacks, (check nack).1 = true := by
  induction nacks with
  | nil => exact fun _ hn => (nomatch hn)
  | cons nack nacks ih =>
    unfold checkNacks at h
    cases hvalid : check nack with
    | mk valid notices =>
      rw [hvalid] at h
      cases valid with
      | false => cases h
      | true =>
        intro n hn
        rcases List.mem_cons.mp hn with heq | hn
        · rw [heq]
          exact congrArg Prod.fst hvalid
        · exact ih h n hn

/-- A STATUS PDU is accepted only if the window is not ahead of `tx_next`, and if it acknowledges `tx_next` at most. -/
lemma accepts_bounds (hsafe : s.core.Safe cfg.sizes) (h : s.accepts cfg status = true) :
    NotAhead cfg s ∧ ∀ nack ∈ status.nacks, s.txModBase cfg nack.nackSn ≤ s.core.outstanding cfg.sizes := by
  unfold accepts validAckSn at h
  simp only [Bool.and_eq_true, Bool.not_eq_true', decide_eq_true_eq, decide_eq_false_iff_not, Nat.not_lt] at h
  obtain ⟨⟨⟨hpos, -⟩, hle⟩, hnacks⟩ := h
  refine ⟨?_, fun nack hnack => ?_⟩
  · unfold NotAhead
    obtain hlag | ⟨hout, -⟩ := hsafe.inFlight
    · -- the SN after `tx_next` is `tx_next_ack`
      have hzero : s.txModBase cfg (s.st.txNext + 1) = 0 := by
        have hnext := snDist_succ (m := cfg.mod) (b := s.st.txNextAck) (x := s.st.txNext) mod_pos
        have hlt : snDist cfg.mod s.st.txNextAck (s.st.txNext + 1) < cfg.mod := snDist_lt mod_pos
        rw [snDist_mod_right] at hnext
        rw [txModBase_eq hsafe]
        change snDist cfg.mod s.st.txNextAck s.st.txNext + 1 = cfg.mod at hlag
        omega
      omega
    · exact hout
  · rw [← txModBase_txNext hsafe]
    exact validNack_le (checkNacks_mem hnacks nack hnack)

lemma ackMoves_safe {ahead : Prop} {c c' : TxCore} (hmoves : ReflTransGen (TxCore.AckMove cfg.sizes ahead) c c')
    (h : c.Safe cfg.sizes) : c'.Safe cfg.sizes := by
  induction hmoves with
  | refl => exact h
  | tail _ hmove ih => exact hmove.safe ih

lemma ackMoves_present {c c' : TxCore} (hmoves : ReflTransGen (TxCore.AckMove cfg.sizes False) c c')
    (h : c.Safe cfg.sizes) (hv : ∃ v, c.window c.txNext = some v) : ∃ v, c'.window c'.txNext = some v := by
  induction hmoves with
  | refl => exact hv
  | tail hmoves hmove ih => exact hmove.txNext_present (ackMoves_safe hmoves h) ih

lemma ackMoves_txNext {ahead : Prop} {c c' : TxCore} (hmoves : ReflTransGen (TxCore.AckMove cfg.sizes ahead) c c') :
    c'.txNext = c.txNext := by
  induction hmoves with
  | refl => rfl
  | tail _ hmove ih =>
    obtain ⟨v, -, -⟩ := hmove
    exact ih

lemma under_of_present (hsafe : s.core.Safe cfg.sizes) (hv : ∃ v, s.core.window s.st.txNext = some v) :
    s.snUnderSegmentation.isSome = true := by
  obtain ⟨v, hv⟩ := hv
  obtain ⟨-, -, hunder | ⟨hpos, -⟩⟩ := hsafe.entry _ v hv
  · exact Option.isSome_iff_exists.mpr ⟨_, hunder⟩
  · have hzero : s.core.age cfg.sizes s.st.txNext = 0 := (TxCore.age_eq_zero hsafe.txNext_lt hsafe.txNext_lt).mpr rfl
    omega

lemma applyNacks_spec {t u : RlcTxAmEntity} (hsafe : s.core.Safe cfg.sizes) (hahead : NotAhead cfg s)
    (hsn : ∀ nack ∈ status.nacks, nack.nackSn < cfg.mod)
    (hnext : ¬E .snAbsent → ∀ nack ∈ status.nacks, NackPresent cfg s nack)
    (hmoves : status.nacks ≠ [] → ReflTransGen (TxCore.AckMove cfg.sizes False) s.core t.core)
    (hle : status.nacks ≠ [] → t.core.outstanding cfg.sizes ≤ s.core.outstanding cfg.sizes)
    (hcleared : Nacked cfg t u) :
    Yields (processNacks cfg status.ackSn status.nacks u none) (Nacked cfg t) E := by
  by_cases hnil : status.nacks = []
  · rw [hnil]
    exact hcleared
  · have hmoves := hmoves hnil
    have hle := hle hnil
    obtain ⟨hsafe', hahead', hretx'⟩ := hcleared.keeps (ackMoves_safe hmoves hsafe) (le_trans hle hahead)
    refine (processNacks_nacked hcleared.window hsafe' hahead' hretx' hsn fun hE nack hnack i hi heq => ?_).post
      fun _ hres => hcleared.trans hres
    have htxNext : u.st.txNext = s.st.txNext := (congrArg TxCore.txNext hcleared.core).trans (ackMoves_txNext hmoves)
    have hpresent := ackMoves_present hmoves hsafe (hnext hE nack hnack i hi (heq.trans htxNext))
    rw [← hcleared.core] at hpresent
    exact hpresent

lemma stopPollTimer_keeps (cfg : RlcTxAmConfig) (s : RlcTxAmEntity) (ackSn : Nat) :
    ∃ s₀, s.stopPollTimer cfg ackSn = s₀ ∧ s₀.st = s.st ∧ s₀.snUnderSegmentation = s.snUnderSegmentation ∧
      s₀.txWindow = s.txWindow := by
  unfold stopPollTimer
  split
  · exact ⟨_, rfl, rfl, rfl, rfl⟩
  · exact ⟨_, rfl, rfl, rfl, rfl⟩

lemma applyStatusPdu_spec (h : TxInv cfg s) (haccepts : s.accepts cfg status = true)
    (hsn : ∀ nack ∈ status.nacks, nack.nackSn < cfg.mod)
    (hnext : ¬E .snAbsent → ∀ nack ∈ status.nacks, NackPresent cfg s nack) :
    Yields (applyStatusPdu cfg s status) (fun s' => TxInv cfg s' ∧
      ReflTransGen (TxCore.AckMove cfg.sizes (AcksUnder cfg s status)) s.core s'.core) E := by
  obtain ⟨hahead, hbound⟩ := accepts_bounds h.safe haccepts
  have hstop : status.nacks ≠ [] → s.txModBase cfg ((status.nacks.head?.map RlcAmStatusNack.nackSn).getD status.ackSn) ≤
      s.core.outstanding cfg.sizes := by
    intro hne
    obtain ⟨nack, rest, hnacks⟩ := List.exists_cons_of_ne_nil hne
    rw [hnacks]
    exact hbound nack (hnacks ▸ List.mem_cons_self)
  obtain ⟨s₀, hs₀, hst₀, hunder₀, hwindow₀⟩ := stopPollTimer_keeps cfg s status.ackSn
  have hcore₀ : s₀.core = s.core := by
    unfold core
    rw [hst₀, hunder₀, hwindow₀]
  have hout : ∀ sn, s₀.txModBase cfg sn = s.txModBase cfg sn := by
    intro sn
    unfold txModBase
    rw [hst₀]
  have hsafe₀ : s₀.core.Safe cfg.sizes := hcore₀ ▸ h.safe
  unfold applyStatusPdu
  rw [hs₀]
  dsimp only
  have hfuel : s₀.txModBase cfg ((status.nacks.head?.map RlcAmStatusNack.nackSn).getD status.ackSn) < cfg.mod := by
    rw [txModBase_eq hsafe₀]
    exact snDist_lt mod_pos
  have hunder : s₀.core.outstanding cfg.sizes <
      s₀.txModBase cfg ((status.nacks.head?.map RlcAmStatusNack.nackSn).getD status.ackSn) →
        (∃ v, s₀.core.window s₀.st.txNext = some v) → AcksUnder cfg s status := by
    rw [hout, hcore₀]
    intro hlt hv
    have hnil : status.nacks = [] := by
      by_contra hne
      have hle := hstop hne
      omega
    rw [hnil] at hlt
    refine ⟨haccepts, under_of_present h.safe ?_, hnil, ?_⟩
    · rw [← hst₀]
      exact hv
    · rw [txModBase_txNext h.safe]
      exact hlt
  refine yields_bind (processAcks_acked (hwindow₀ ▸ h.window) hsafe₀ hfuel hunder) ?_
  rintro ⟨s₁, delivered⟩ ⟨hacked, hmono⟩
  have hcleared : Nacked cfg (s₁.notify delivered.notices) (clearRetxQueue s₁.retxQueue.queue (s₁.notify delivered.notices)) :=
    clearRetxQueue_nacked rfl hacked.window
  have hmoves : ReflTransGen (TxCore.AckMove cfg.sizes (AcksUnder cfg s status)) s.core s₁.core := hcore₀ ▸ hacked.moves
  have hbehind : status.nacks ≠ [] → ReflTransGen (TxCore.AckMove cfg.sizes False) s.core s₁.core := by
    intro hne
    refine ReflTransGen.mono (fun c c' hmove => ?_) _ _ hmoves
    obtain ⟨v, hv, hunder⟩ := hmove
    exact .ack v hv fun hzero => hne (hunder hzero).2.2.1
  refine yields_bind (applyNacks_spec (t := s₁.notify delivered.notices) h.safe hahead hsn hnext hbehind
    (fun hne => ?_) hcleared) fun s₂ hs₂ => ?_
  · have hle := hmono (by
      rw [hout, hcore₀]
      exact hstop hne)
    rw [hcore₀] at hle
    exact hle
  · have hinv : TxInv cfg s₂ := by
      refine ⟨hs₂.window, ?_, hs₂.core.symm ▸ hs₂.retx⟩
      rw [hs₂.core]
      exact ackMoves_safe hmoves h.safe
    refine ⟨hinv.updateMacBufferState, ?_⟩
    rw [(updateMacBufferState_keeps cfg s₂).1, hs₂.core]
    exact hmoves

lemma handleStatusPdu_spec (h : TxInv cfg s) (hsn : ∀ nack ∈ status.nacks, nack.nackSn < cfg.mod)
    (hnext : ¬E .snAbsent → s.accepts cfg status = true → ∀ nack ∈ status.nacks, NackPresent cfg s nack) :
    Yields (handleStatusPdu cfg s status) (fun s' => TxInv cfg s' ∧
      ReflTransGen (TxCore.AckMove cfg.sizes (AcksUnder cfg s status)) s.core s'.core) E := by
  have hignored : ∀ notices, TxInv cfg (s.notify notices) ∧
      ReflTransGen (TxCore.AckMove cfg.sizes (AcksUnder cfg s status)) s.core (s.notify notices).core :=
    fun notices => ⟨h.of_core rfl h.window fun _ hr => hr, .refl⟩
  unfold handleStatusPdu
  refine yields_ite (fun _ => ⟨h, .refl⟩) fun hack => ?_
  refine yields_ite (fun _ => hignored _) fun hbeyond => ?_
  split
  case h_1 => exact hignored _
  case h_2 hnacks =>
    have haccepts : s.accepts cfg status = true := by
      unfold accepts
      rw [hnacks]
      simp_all
    exact applyStatusPdu_spec h haccepts hsn fun hE => hnext hE haccepts

end Status

end RlcTxAmEntity

end OwlsRan.Rlc
