import OwlsRan.Lib.EventRun
import OwlsRan.Rlc.StatusPduCodec
import OwlsRan.Rlc.TxAmStatus

/-!
# Runs of the transmitter of RLC AM
-/

namespace OwlsRan.Rlc
open OwlsRan.Lib OwlsRan.Adt OwlsRan.Pdcp Relation

namespace RlcTxAmEntity

/-- What happens to the transmitter. A STATUS PDU is decoded by the receiving side of the entity. -/
inductive TxAmEvent where
  | handleSdu (sduBuf : List UInt8) (isRetx : Bool)
  | discardSdu (pdcpSn : Nat)
  | pullPdu (statusPdu : Option RlcAmStatusPdu) (grantLen : Nat)
  | onStatusPdu (buf : List UInt8)
  | pollRetransmitTimerExpires
  | updateMacBufferState

def decoded (cfg : RlcTxAmConfig) (buf : List UInt8) : Option RlcAmStatusPdu :=
  ((RlcAmStatusPdu.new cfg.snFieldLength).unpack buf).toOption

def onStatusPdu (cfg : RlcTxAmConfig) (s : RlcTxAmEntity) (buf : List UInt8) : Except RlcAbort RlcTxAmEntity :=
  match decoded cfg buf with
  | some status => s.handleStatusPdu cfg status
  | none => .ok s

def step (cfg : RlcTxAmConfig) (s : RlcTxAmEntity) : TxAmEvent → Except RlcAbort RlcTxAmEntity
  | .handleSdu sduBuf isRetx => .ok (s.handleSdu cfg sduBuf isRetx)
  | .discardSdu pdcpSn => .ok (s.discardSdu pdcpSn)
  | .pullPdu statusPdu grantLen => Prod.fst <$> s.pullPdu cfg statusPdu grantLen
  | .onStatusPdu buf => s.onStatusPdu cfg buf
  | .pollRetransmitTimerExpires => s.pollRetransmitTimerExpires cfg
  | .updateMacBufferState => .ok (s.updateMacBufferState cfg)

section Steps

variable {cfg : RlcTxAmConfig} {s s' : RlcTxAmEntity} {E : RlcAbort → Prop}

lemma decoded_sn {buf : List UInt8} {status : RlcAmStatusPdu} (h : decoded cfg buf = some status) :
    ∀ nack ∈ status.nacks, nack.nackSn < cfg.mod := by
  unfold decoded at h
  cases hread : (RlcAmStatusPdu.new cfg.snFieldLength).unpack buf with
  | error e =>
    rw [hread] at h
    cases h
  | ok pdu =>
    rw [hread] at h
    obtain rfl := Option.some.inj h
    obtain ⟨hsync, hsize, -⟩ := (RlcAmStatusPdu.unpack_yields _ buf).of_ok hread
    intro nack hnack
    have hlt := hsync.sns nack hnack
    unfold RlcAmStatusPdu.modNr at hlt
    rw [hsize] at hlt
    exact hlt

lemma sendMoves_spec {c c' : TxCore} (hmoves : ReflTransGen (TxCore.SendMove cfg.sizes) c c') (h : c.Safe cfg.sizes) :
    c'.Safe cfg.sizes ∧ ∀ sn sdu, c.InFlight cfg.sizes sn sdu → c'.InFlight cfg.sizes sn sdu := by
  induction hmoves with
  | refl => exact ⟨h, fun _ _ hsn => hsn⟩
  | tail _ hmove ih =>
    obtain ⟨hsafe, hflight⟩ := ih
    exact ⟨hmove.safe hsafe, fun sn sdu hsn => hmove.inFlight hsafe (hflight sn sdu hsn)⟩

lemma Sent.txInv {res : RlcTxAmEntity × List UInt8} (hsent : Sent cfg s res) (h : TxInv cfg s) : TxInv cfg res.1 := by
  obtain ⟨hsafe, hflight⟩ := sendMoves_spec hsent.moves h.safe
  refine ⟨hsent.window, hsafe, fun r' hr' => ?_⟩
  obtain ⟨r, hr, hpart⟩ := hsent.retx r' hr'
  obtain ⟨sdu, hin, hpos, hle⟩ := h.retx r hr
  have hend := hpart.end_le
  refine ⟨sdu, ?_, hpart.length_pos hpos, by omega⟩
  rw [hpart.sn]
  exact hflight r.sn sdu hin

lemma pullPdu_spec (hE : E .headerLength) (h : TxInv cfg s) {statusPdu : Option RlcAmStatusPdu} {grantLen : Nat}
    (hsdu : ∀ sdu ∈ pulledSdu cfg s statusPdu grantLen, sdu.buf ≠ []) :
    Yields (pullPdu cfg s statusPdu grantLen) (fun res => TxInv cfg res.1 ∧
      ReflTransGen (TxCore.SendMove cfg.sizes) s.core res.1.core) E := by
  have hlen : ∀ r ∈ s.retxQueue.queue, 0 < r.length := by
    intro r hr
    obtain ⟨-, -, hpos, -⟩ := h.retx r hr
    exact hpos
  refine (pullPdu_sent hE h.window h.safe hlen hsdu).post fun res hres => ?_
  obtain heq | hsent := hres
  · rw [heq]
    exact ⟨h, .refl⟩
  · exact ⟨hsent.txInv h, hsent.moves⟩

lemma inFlight_txNextAck (hsafe : s.core.Safe cfg.sizes) {info : RlcTxAmSduInfo}
    (hinfo : s.txWindow.find? s.st.txNextAck = some info) :
    s.core.InFlight cfg.sizes s.st.txNextAck info.sdu ∧ info.sdu ≠ [] := by
  have hv : s.core.window s.st.txNextAck = some ⟨info.sdu, info.nextSo⟩ := core_window.mpr ⟨info, hinfo, rfl⟩
  have hage : s.core.age cfg.sizes s.st.txNextAck = s.core.outstanding cfg.sizes := rfl
  have hmod := cfg.mod_eq
  have hW := cfg.one_lt_amWindowSize
  obtain ⟨-, hsdu, hold⟩ := hsafe.entry _ _ hv
  refine ⟨⟨?_, hage.le, _, hv, rfl⟩, hsdu⟩
  obtain hlag | ⟨hle, -⟩ := hsafe.inFlight
  · -- ahead of `tx_next` there is nothing in the window
    change s.core.outstanding cfg.sizes + 1 = cfg.mod at hlag
    change s.core.outstanding cfg.sizes ≤ cfg.amWindowSize
    obtain hunder | ⟨-, hle⟩ := hold
    · have hzero := (TxCore.age_eq_zero (z := cfg.sizes) hsafe.txNextAck_lt hsafe.txNext_lt).mpr (hsafe.under _ hunder).1
      change s.core.age cfg.sizes s.st.txNextAck = 0 at hzero
      omega
    · change s.core.age cfg.sizes s.st.txNextAck ≤ cfg.amWindowSize at hle
      omega
  · exact hle

lemma onExpiredPollRetransmitTimer_spec (h : TxInv cfg s) :
    Yields (onExpiredPollRetransmitTimer cfg s) (fun s' => TxInv cfg s' ∧ s'.core = s.core) E := by
  unfold onExpiredPollRetransmitTimer
  refine yields_ite (fun _ => ?_) fun _ => ⟨h, rfl⟩
  cases hinfo : s.txWindow.find? s.st.txNextAck with
  | none => exact ⟨h, rfl⟩
  | some info =>
    obtain ⟨hflight, hsdu⟩ := inFlight_txNextAck h.safe hinfo
    dsimp only
    unfold RlcRetxQueue.tryPush
    split_ifs
    · exact ⟨h.updateMacBufferState, (updateMacBufferState_keeps cfg s).1⟩
    · generalize hq : ({ s.retxQueue with
        queue := s.retxQueue.queue ++ [⟨s.st.txNextAck, 0, info.sdu.length⟩]
        st := s.retxQueue.st.add ⟨s.st.txNextAck, 0, info.sdu.length⟩ } : RlcRetxQueue) = q
      have hretx : RetxIn cfg s.core q.queue := by
        intro r hr
        rw [← hq] at hr
        rcases List.mem_append.mp hr with hold | hnew
        · exact h.retx r hold
        · rw [List.mem_singleton.mp hnew]
          exact ⟨info.sdu, hflight, List.length_pos_iff.mpr hsdu, (Nat.zero_add _).le⟩
      have hcounted : Yields (incrementRetxCount cfg { s with retxQueue := q } s.st.txNextAck)
          (Nacked cfg { s with retxQueue := q }) E :=
        incrementRetxCount_nacked h.window hretx ⟨_, core_window.mpr ⟨info, hinfo, rfl⟩⟩
      refine yields_bind hcounted fun s₁ hs₁ => ?_
      have hcore : s₁.core = s.core := hs₁.core
      have hinv : TxInv cfg s₁ := ⟨hs₁.window, hcore.symm ▸ h.safe, hcore.symm ▸ hs₁.retx⟩
      exact ⟨hinv.updateMacBufferState, (updateMacBufferState_keeps cfg s₁).1.trans hcore⟩

lemma pollRetransmitTimerExpires_spec (h : TxInv cfg s) :
    Yields (pollRetransmitTimerExpires cfg s) (fun s' => TxInv cfg s' ∧ s'.core = s.core) E := by
  have hstopped : TxInv cfg { s with pollRetransmitTimerRunning := false } := ⟨h.window, h.safe, h.retx⟩
  unfold pollRetransmitTimerExpires
  exact yields_ite (fun _ => onExpiredPollRetransmitTimer_spec hstopped) fun _ => ⟨h, rfl⟩

lemma onStatusPdu_spec (h : TxInv cfg s) {buf : List UInt8} (hnext : ¬E .snAbsent → ∀ status ∈ decoded cfg buf,
      s.accepts cfg status = true → ∀ nack ∈ status.nacks, NackPresent cfg s nack) :
    Yields (onStatusPdu cfg s buf) (fun s' => TxInv cfg s' ∧
      ReflTransGen (TxCore.AckMove cfg.sizes (∃ status ∈ decoded cfg buf, AcksUnder cfg s status)) s.core s'.core) E := by
  unfold onStatusPdu
  cases hread : decoded cfg buf with
  | none => exact ⟨h, .refl⟩
  | some status =>
    refine (handleStatusPdu_spec h (decoded_sn hread) fun hE => hnext hE status hread).post fun s' hs' => ?_
    refine ⟨hs'.1, ReflTransGen.mono (fun c c' hmove => ?_) _ _ hs'.2⟩
    obtain ⟨v, hv, hunder⟩ := hmove
    exact .ack v hv fun hzero => ⟨status, rfl, hunder hzero⟩

def TakesBytes (cfg : RlcTxAmConfig) (s : RlcTxAmEntity) : TxAmEvent → Prop
  | .pullPdu statusPdu grantLen => ∀ sdu ∈ pulledSdu cfg s statusPdu grantLen, sdu.buf ≠ []
  | _ => True

instance (cfg : RlcTxAmConfig) (s : RlcTxAmEntity) : ∀ e, Decidable (TakesBytes cfg s e)
  | .pullPdu statusPdu grantLen => inferInstanceAs (Decidable (∀ sdu ∈ pulledSdu cfg s statusPdu grantLen, sdu.buf ≠ []))
  | .handleSdu .. | .discardSdu _ | .onStatusPdu _ | .pollRetransmitTimerExpires | .updateMacBufferState => isTrue trivial

def EventAcksUnder (cfg : RlcTxAmConfig) (s : RlcTxAmEntity) : TxAmEvent → Prop
  | .onStatusPdu buf => ∃ status ∈ decoded cfg buf, AcksUnder cfg s status
  | _ => False

def TxMoved (cfg : RlcTxAmConfig) (ahead : Prop) (c c' : TxCore) : Prop :=
  ReflTransGen (TxCore.SendMove cfg.sizes) c c' ∨ ReflTransGen (TxCore.AckMove cfg.sizes ahead) c c'

lemma step_spec (hE : E .headerLength) (h : TxInv cfg s) {e : TxAmEvent} (hbytes : TakesBytes cfg s e)
    (hnext : ¬E .snAbsent → ∀ buf, e = .onStatusPdu buf → ∀ status ∈ decoded cfg buf,
      s.accepts cfg status = true → ∀ nack ∈ status.nacks, NackPresent cfg s nack) :
    Yields (step cfg s e) (fun s' => TxInv cfg s' ∧ TxMoved cfg (EventAcksUnder cfg s e) s.core s'.core) E := by
  cases e with
  | handleSdu sduBuf isRetx => exact ⟨h.of_core rfl h.window fun _ hr => hr, .inl .refl⟩
  | discardSdu pdcpSn => exact ⟨h.of_core rfl h.window fun _ hr => hr, .inl .refl⟩
  | pullPdu statusPdu grantLen =>
    exact yields_bind (pullPdu_spec hE h hbytes) fun res hres => ⟨hres.1, .inl hres.2⟩
  | onStatusPdu buf =>
    exact (onStatusPdu_spec h fun habsent => hnext habsent buf rfl).post fun s' hs' => ⟨hs'.1, .inr hs'.2⟩
  | pollRetransmitTimerExpires =>
    refine (pollRetransmitTimerExpires_spec h).post fun s' hs' => ⟨hs'.1, .inl ?_⟩
    rw [hs'.2]
  | updateMacBufferState =>
    refine ⟨h.updateMacBufferState, .inl ?_⟩
    rw [(updateMacBufferState_keeps cfg s).1]

lemma init_find? (sn : Nat) : (init cfg).txWindow.find? sn = none := CircularMap.new_find? _ cfg.amWindowSize_pos

lemma init_core : (init cfg).core = ⟨0, 0, none, fun _ => none⟩ := by
  refine core_eq rfl rfl rfl fun sn => ?_
  change ((init cfg).txWindow.find? sn).map _ = none
  rw [init_find?]
  rfl

lemma init_exact : (init cfg).core.Exact cfg.sizes := by
  have hzero : snDist cfg.mod 0 0 = 0 := snDist_self mod_pos
  have hle : TxCore.outstanding cfg.sizes ⟨0, 0, none, fun _ => none⟩ ≤ cfg.amWindowSize := hzero.le.trans (Nat.zero_le _)
  rw [init_core]
  refine ⟨⟨mod_pos, mod_pos, (fun _ _ hv => nomatch hv), (fun _ _ _ _ hv => nomatch hv), (fun _ hx => nomatch hx),
    .inr ⟨hle, fun sn hsn hpos hage => ?_⟩⟩, hle, (fun _ _ hv => nomatch hv), (fun _ hx => nomatch hx)⟩
  change snDist cfg.mod sn 0 ≤ snDist cfg.mod 0 0 at hage
  change 1 ≤ snDist cfg.mod sn 0 at hpos
  omega

lemma init_txInv : TxInv cfg (init cfg) :=
  ⟨⟨CircularMap.new_wellFormed _ cfg.amWindowSize_pos, CircularMap.new_counted _ cfg.amWindowSize_pos,
    CircularMap.new_capacity _ cfg.amWindowSize_pos⟩, init_exact.toSafe, fun _ hr => (nomatch hr)⟩

end Steps

/-- The window has exactly the SNs from `tx_next_ack` up to `tx_next`, and `tx_next` itself while it is under
segmentation. -/
structure WindowExact (cfg : RlcTxAmConfig) (s : RlcTxAmEntity) : Prop where
  present : ∀ sn, SduWindow.hasSn s.txWindow sn = true ↔
    sn < cfg.mod ∧ s.txModBase cfg sn < s.txModBase cfg s.st.txNext ∨
      sn = s.st.txNext ∧ s.snUnderSegmentation.isSome = true
  under : ∀ sn ∈ s.snUnderSegmentation, sn = s.st.txNext ∧
    ∃ info, s.txWindow.find? sn = some info ∧ 0 < info.nextSo ∧ info.nextSo < info.sdu.length
  distance : s.txModBase cfg s.st.txNext ≤ cfg.amWindowSize

def KeepsExact (cfg : RlcTxAmConfig) (s : RlcTxAmEntity) (e : TxAmEvent) : Prop :=
  TakesBytes cfg s e ∧ ¬EventAcksUnder cfg s e

instance (cfg : RlcTxAmConfig) (s : RlcTxAmEntity) : ∀ e, Decidable (EventAcksUnder cfg s e)
  | .onStatusPdu buf => by
    unfold EventAcksUnder AcksUnder
    infer_instance
  | .handleSdu .. | .discardSdu _ | .pullPdu .. | .pollRetransmitTimerExpires | .updateMacBufferState => isFalse id

instance (cfg : RlcTxAmConfig) (s : RlcTxAmEntity) (e : TxAmEvent) : Decidable (KeepsExact cfg s e) :=
  inferInstanceAs (Decidable (_ ∧ _))

section Exactness

variable {cfg : RlcTxAmConfig} {s : RlcTxAmEntity}

lemma windowExact_of_exact (h : s.core.Exact cfg.sizes) : WindowExact cfg s := by
  have hout := txModBase_txNext h.toSafe
  have hmod := cfg.mod_eq
  have hW := cfg.one_lt_amWindowSize
  have hle : s.core.outstanding cfg.sizes ≤ cfg.amWindowSize := h.outstanding_le
  refine ⟨fun sn => ?_, fun sn hsn => ?_, hout.trans_le hle⟩
  · rw [SduWindow.hasSn_iff, hout]
    constructor
    · rintro ⟨info, hinfo⟩
      have hv : s.core.window sn = some ⟨info.sdu, info.nextSo⟩ := core_window.mpr ⟨info, hinfo, rfl⟩
      obtain ⟨hlt, -, hold⟩ := h.entry sn _ hv
      by_cases hunder : s.core.under = some sn
      · exact .inr ⟨(h.under sn hunder).1, Option.isSome_iff_exists.mpr ⟨sn, hunder⟩⟩
      · have hpos := (hold.resolve_left hunder).1
        have hage := (h.entry_le sn _ hv).resolve_left hunder
        have htriangle := snDist_triangle (m := cfg.mod) mod_pos s.st.txNextAck sn s.st.txNext
        have hlt' : snDist cfg.mod s.st.txNextAck sn < cfg.mod := snDist_lt mod_pos
        refine .inl ⟨hlt, ?_⟩
        rw [txModBase_eq h.toSafe]
        change snDist cfg.mod s.st.txNextAck sn < snDist cfg.mod s.st.txNextAck s.st.txNext
        change 1 ≤ snDist cfg.mod sn s.st.txNext at hpos
        change snDist cfg.mod sn s.st.txNext ≤ snDist cfg.mod s.st.txNextAck s.st.txNext at hage
        omega
    · rintro (⟨hlt, hbehind⟩ | ⟨rfl, hunder⟩)
      · have hne : sn ≠ s.st.txNext := by
          rintro rfl
          omega
        exact find?_of_le h.toSafe hle hlt hbehind.le fun heq => absurd heq hne
      · obtain ⟨x, hx⟩ := Option.isSome_iff_exists.mp hunder
        obtain ⟨v, hv⟩ := h.under_present x hx
        obtain ⟨info, hinfo, -⟩ := core_window.mp hv
        rw [(h.under x hx).1] at hinfo
        exact ⟨info, hinfo⟩
  · obtain ⟨heq, hso⟩ := h.under sn hsn
    obtain ⟨v, hv⟩ := h.under_present sn hsn
    obtain ⟨info, hinfo, rfl⟩ := core_window.mp hv
    exact ⟨heq, info, hinfo, hso _ hv⟩

lemma TxMoved.exact {c c' : TxCore} (hmoved : TxMoved cfg False c c') (h : c.Exact cfg.sizes) : c'.Exact cfg.sizes := by
  obtain hmoves | hmoves := hmoved
  · induction hmoves with
    | refl => exact h
    | tail _ hmove ih => exact hmove.exact ih
  · induction hmoves with
    | refl => exact h
    | tail _ hmove ih => exact hmove.exact ih

lemma step_exact (h : TxInv cfg s) (hexact : s.core.Exact cfg.sizes) {e : TxAmEvent} (hkeeps : KeepsExact cfg s e) :
    Yields (step cfg s e) (fun s' => TxInv cfg s' ∧ s'.core.Exact cfg.sizes) fun _ => True := by
  obtain ⟨hbytes, hunder⟩ := hkeeps
  refine (step_spec trivial h hbytes fun hE => absurd trivial hE).post fun s' hs' => ?_
  rw [eq_false hunder] at hs'
  exact ⟨hs'.1, hs'.2.exact hexact⟩

end Exactness

/-- As long as no empty SDU is sent and no STATUS PDU acknowledges the SDU under segmentation, the window is exact in
every state. -/
theorem tx_window_exact (cfg : RlcTxAmConfig) (es : List TxAmEvent)
    (h : RunsWithin (step cfg) (KeepsExact cfg) (init cfg) es) :
    HoldsThroughout (step cfg) (WindowExact cfg) (init cfg) es := by
  have hrun := runsWithin_yields (fun s => TxInv cfg s ∧ s.core.Exact cfg.sizes)
    (fun s e hC hs => step_exact hs.1 hs.2 hC) h ⟨init_txInv, init_exact⟩
  exact holdsThroughout_mono (fun s hs => windowExact_of_exact hs.2) hrun.1

lemma queueSize16_pos : 0 < 16 := by decide

def shortSnConfig : RlcTxAmConfig := ⟨.size12bits, .size12bits, false, 45, 4, 4, 25, 16, queueSize16_pos, 4096, 0⟩

def acknowledgedRun : List TxAmEvent :=
  [.handleSdu [0x80, 0, 1] false, .pullPdu none 3, .pullPdu none 20, .onStatusPdu [0, 1, 0]]

theorem tx_window_exact_acknowledged :
    (runEvents (step shortSnConfig) (init shortSnConfig) acknowledgedRun).toOption.isSome = true ∧
      HoldsThroughout (step shortSnConfig) (WindowExact shortSnConfig) (init shortSnConfig) acknowledgedRun :=
  ⟨by decide +kernel, tx_window_exact shortSnConfig acknowledgedRun (by decide +kernel)⟩

def earlyAckRun : List TxAmEvent := [.handleSdu [0x80, 0, 1] false, .pullPdu none 3, .onStatusPdu [0, 1, 0]]

/-- `tx_next_ack` gets ahead of `tx_next`. -/
theorem tx_window_not_exact :
    ¬HoldsThroughout (step shortSnConfig) (WindowExact shortSnConfig) (init shortSnConfig) earlyAckRun := by
  have hrun : ((runEvents (step shortSnConfig) (init shortSnConfig) earlyAckRun).toOption.map fun s =>
      s.txModBase shortSnConfig s.st.txNext) = some 4095 := by decide +kernel
  intro h
  cases hs : runEvents (step shortSnConfig) (init shortSnConfig) earlyAckRun with
  | error a =>
    rw [hs] at hrun
    cases hrun
  | ok s =>
    rw [hs] at hrun
    have hexact := holdsThroughout_iff_prefix.mp h earlyAckRun [] s (List.append_nil _).symm hs
    have hfar : s.txModBase shortSnConfig s.st.txNext = 4095 := Option.some.inj hrun
    have hdistance := hexact.distance
    rw [hfar] at hdistance
    exact absurd hdistance (by decide)

def RetxInside (s : RlcTxAmEntity) : Prop :=
  ∀ retx ∈ s.retxQueue.queue, ∃ info, s.txWindow.find? retx.sn = some info ∧ 0 < retx.length ∧
    retx.so + retx.length ≤ info.sdu.length

/-- No accepted STATUS PDU has a NACK of `tx_next` unless that is in the window. -/
def NacksSent (cfg : RlcTxAmConfig) (s : RlcTxAmEntity) : TxAmEvent → Prop
  | .onStatusPdu buf => ∀ status ∈ decoded cfg buf, s.accepts cfg status = true →
      SduWindow.hasSn s.txWindow s.st.txNext = false →
        ∀ nack ∈ status.nacks, ∀ i < nack.range, (nack.nackSn + i) % cfg.mod ≠ s.st.txNext
  | _ => True

def KeepsSafe (cfg : RlcTxAmConfig) (s : RlcTxAmEntity) (e : TxAmEvent) : Prop := TakesBytes cfg s e ∧ NacksSent cfg s e

instance (cfg : RlcTxAmConfig) (s : RlcTxAmEntity) : ∀ e, Decidable (NacksSent cfg s e)
  | .onStatusPdu buf => by
    unfold NacksSent
    infer_instance
  | .handleSdu .. | .discardSdu _ | .pullPdu .. | .pollRetransmitTimerExpires | .updateMacBufferState => isTrue trivial

instance (cfg : RlcTxAmConfig) (s : RlcTxAmEntity) (e : TxAmEvent) : Decidable (KeepsSafe cfg s e) :=
  inferInstanceAs (Decidable (_ ∧ _))

section Safety

variable {cfg : RlcTxAmConfig} {s : RlcTxAmEntity}

lemma step_safe (h : TxInv cfg s) {e : TxAmEvent} (hkeeps : KeepsSafe cfg s e) :
    Yields (step cfg s e) (TxInv cfg) (· = .headerLength) := by
  obtain ⟨hbytes, hsent⟩ := hkeeps
  refine (step_spec (E := (· = .headerLength)) rfl h hbytes
    fun _ buf heq status hread haccepts nack hnack i hi htxNext => ?_).post fun _ hs' => hs'.1
  rw [heq] at hsent
  cases hhas : SduWindow.hasSn s.txWindow s.st.txNext with
  | false => exact absurd htxNext (hsent status hread haccepts hhas nack hnack i hi)
  | true =>
    obtain ⟨info, hinfo⟩ := SduWindow.hasSn_iff.mp hhas
    exact ⟨_, core_window.mpr ⟨info, hinfo, rfl⟩⟩

lemma TxInv.retxInside (h : TxInv cfg s) : RetxInside s := by
  intro retx hretx
  obtain ⟨sdu, hflight, hpos, hle⟩ := h.retx retx hretx
  obtain ⟨v, hv, rfl⟩ := hflight.present
  obtain ⟨info, hinfo, rfl⟩ := core_window.mp hv
  exact ⟨info, hinfo, hpos, hle⟩

end Safety

/-- As long as no empty SDU is sent and no SN is negatively acknowledged before it is sent, the transmitter looks up only
SNs in the window, and retransmits only bytes of SDUs there. It stops only where the header of a retransmission is not as
long as expected. -/
theorem tx_window_access_safe (cfg : RlcTxAmConfig) (es : List TxAmEvent)
    (h : RunsWithin (step cfg) (KeepsSafe cfg) (init cfg) es) :
    HoldsThroughout (step cfg) RetxInside (init cfg) es ∧
      ∀ a, runEvents (step cfg) (init cfg) es = .error a → a = .headerLength := by
  obtain ⟨hthroughout, hrun⟩ := runsWithin_yields (TxInv cfg) (fun s e hC hs => step_safe hs hC) h init_txInv
  exact ⟨holdsThroughout_mono (fun _ hs => hs.retxInside) hthroughout, fun a ha => hrun.of_error ha⟩

def retransmittedRun : List TxAmEvent :=
  [.handleSdu [0x80, 0, 1] false, .pullPdu none 3, .onStatusPdu [0, 1, 0x80, 0, 0], .pullPdu none 20]

theorem tx_window_access_safe_retransmitted :
    (runEvents (step shortSnConfig) (init shortSnConfig) retransmittedRun).toOption.isSome = true ∧
      HoldsThroughout (step shortSnConfig) RetxInside (init shortSnConfig) retransmittedRun :=
  ⟨by decide +kernel, (tx_window_access_safe shortSnConfig retransmittedRun (by decide +kernel)).1⟩

/-- SN 0 is negatively acknowledged before anything has been sent. -/
theorem tx_window_access_not_safe :
    runEvents (step shortSnConfig) (init shortSnConfig) [.onStatusPdu [0, 1, 0x80, 0, 0]] = .error .snAbsent := by
  have herror : (match runEvents (step shortSnConfig) (init shortSnConfig) [.onStatusPdu [0, 1, 0x80, 0, 0]] with
    | .error a => some a
    | .ok _ => none) = some .snAbsent := by decide +kernel
  split at herror
  case h_1 a hrun => rw [hrun, Option.some.inj herror]
  case h_2 => cases herror

end RlcTxAmEntity

end OwlsRan.Rlc
