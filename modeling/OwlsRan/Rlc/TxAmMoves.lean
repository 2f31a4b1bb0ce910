import OwlsRan.Lib.Outcome
import OwlsRan.Rlc.RlcTxAmEntity
import OwlsRan.Rlc.TxAmCore

/-!
# What the transmitter of RLC AM does with its window

Each function of the transmitter makes moves of the window, and keeps its bookkeeping.
-/

namespace OwlsRan.Rlc
open OwlsRan.Lib OwlsRan.Adt Relation

namespace RlcTxAmConfig

lemma one_lt_amWindowSize (cfg : RlcTxAmConfig) : 1 < cfg.amWindowSize := by
  unfold amWindowSize
  cases cfg.snFieldLength <;> decide

def sizes (cfg : RlcTxAmConfig) : TxSizes := ⟨cfg.mod, cfg.amWindowSize, cfg.mod_eq, cfg.one_lt_amWindowSize⟩

lemma mod_dvd (cfg : RlcTxAmConfig) : cfg.mod ∣ 2 ^ 32 := by
  unfold mod
  cases cfg.snFieldLength <;> decide

lemma mod_lt (cfg : RlcTxAmConfig) : cfg.mod < 2 ^ 32 := by
  unfold mod
  cases cfg.snFieldLength <;> decide

end RlcTxAmConfig

namespace RlcTxAmEntity

def core (s : RlcTxAmEntity) : TxCore where
  txNextAck := s.st.txNextAck
  txNext := s.st.txNext
  under := s.snUnderSegmentation
  window := fun sn => (s.txWindow.find? sn).map fun info => ⟨info.sdu, info.nextSo⟩

structure WindowOk (cfg : RlcTxAmConfig) (w : SduWindow RlcTxAmSduInfo) : Prop where
  wellFormed : w.WellFormed
  counted : w.Counted
  capacity : w.capacity = cfg.amWindowSize

structure RetxPart (r r' : RlcTxAmdRetx) : Prop where
  sn : r'.sn = r.sn
  so_le : r.so ≤ r'.so
  end_le : r'.so + r'.length ≤ r.so + r.length
  length_pos : 0 < r.length → 0 < r'.length

/-- The kind of segment that the bytes from `so` on are, for an SDU of `total` bytes. -/
def segmentSi (so length total : Nat) : RlcSiField :=
  if so = 0 then if length ≥ total then .fullSdu else .firstSegment
  else if so + length ≥ total then .lastSegment else .middleSegment

def Emitted (cfg : RlcTxAmConfig) (c : TxCore) (pdu : List UInt8) : Prop :=
  pdu = [] ∨ ∃ sn v p so length, c.window sn = some v ∧ 0 < length ∧ so + length ≤ v.sdu.length ∧
    pdu = rlcAmWriteDataPduHeader ⟨p, segmentSi so length v.sdu.length, cfg.snFieldLength, sn, .ofNat so⟩ ++
      sduView v.sdu (so % 65536) length

structure Sent (cfg : RlcTxAmConfig) (s : RlcTxAmEntity) (res : RlcTxAmEntity × List UInt8) : Prop where
  moves : ReflTransGen (TxCore.SendMove cfg.sizes) s.core res.1.core
  window : WindowOk cfg res.1.txWindow
  sdus : ∀ sdu ∈ res.1.sduQueue.queue, sdu ∈ s.sduQueue.queue
  retx : ∀ r' ∈ res.1.retxQueue.queue, ∃ r ∈ s.retxQueue.queue, RetxPart r r'
  emitted : Emitted cfg res.1.core res.2

def newSdu (cfg : RlcTxAmConfig) (s : RlcTxAmEntity) (grantLen : Nat) : Option RlcSdu :=
  if grantLen ≤ cfg.headMinSize || s.isTxWindowFull cfg then none else s.sduQueue.read.1

/-- The new SDU that `pull_pdu` sends, if it gets to that. -/
def pulledSdu (cfg : RlcTxAmConfig) (s : RlcTxAmEntity) (statusPdu : Option RlcAmStatusPdu) (grantLen : Nat) :
    Option RlcSdu :=
  if s.maxRetxReached || statusPdu.isSome || !s.retxQueue.empty ||
      (s.snUnderSegmentation.bind s.txWindow.find?).isSome || s.sduQueue.isEmpty then none
  else newSdu cfg s grantLen

lemma RetxPart.refl (r : RlcTxAmdRetx) : RetxPart r r := ⟨rfl, le_rfl, le_rfl, id⟩

section Window

variable {cfg : RlcTxAmConfig} {s : RlcTxAmEntity} {w : SduWindow RlcTxAmSduInfo} {sn : Nat} {info : RlcTxAmSduInfo}
  {f : RlcTxAmSduInfo → RlcTxAmSduInfo} {E : RlcAbort → Prop}

lemma core_window {v : SentSdu} : s.core.window sn = some v ↔
    ∃ info, s.txWindow.find? sn = some info ∧ (⟨info.sdu, info.nextSo⟩ : SentSdu) = v := by
  unfold core
  rw [Option.map_eq_some_iff]

lemma core_window_eq_none : s.core.window sn = none ↔ s.txWindow.find? sn = none := by
  unfold core
  rw [Option.map_eq_none_iff]

lemma yields_addInfo (h : WindowOk cfg w) (hnone : w.find? sn = none) :
    Yields (SduWindow.addSn w sn info) (fun w' => WindowOk cfg w' ∧ ∀ j, w'.find? j =
      if j = sn then some info else if j % cfg.amWindowSize = sn % cfg.amWindowSize then none else w.find? j) E := by
  unfold SduWindow.addSn
  rw [SduWindow.hasSn_eq_false_iff.mpr hnone, if_neg Bool.false_ne_true]
  refine ⟨⟨CircularMap.overwrite_wellFormed h.wellFormed, CircularMap.overwrite_counted h.wellFormed h.counted, ?_⟩,
    fun j => ?_⟩
  · rw [CircularMap.capacity_overwrite]
    exact h.capacity
  · rw [CircularMap.overwrite_find? h.wellFormed, h.capacity]

lemma yields_modifyInfo (h : WindowOk cfg w) (hinfo : w.find? sn = some info) :
    Yields (SduWindow.modifySn w sn f) (fun w' => WindowOk cfg w' ∧
      ∀ j, w'.find? j = if j = sn then some (f info) else w.find? j) E := by
  unfold SduWindow.modifySn
  rw [if_pos (SduWindow.hasSn_iff.mpr ⟨info, hinfo⟩)]
  obtain ⟨hfind, hwf⟩ := CircularMap.modify_spec (f := f) h.wellFormed hinfo
  exact ⟨⟨hwf, CircularMap.modify_counted h.counted, CircularMap.capacity_modify.trans h.capacity⟩, hfind⟩

lemma yields_removeInfo (h : WindowOk cfg w) (hinfo : w.find? sn = some info) :
    Yields (SduWindow.removeSn w sn) (fun w' => WindowOk cfg w' ∧
      ∀ j, w'.find? j = if j = sn then none else w.find? j) E := by
  have hhas : SduWindow.hasSn w sn = true := SduWindow.hasSn_iff.mpr ⟨info, hinfo⟩
  unfold SduWindow.removeSn
  rw [if_pos hhas]
  obtain ⟨hfind, -, hwf⟩ := CircularMap.erase_spec h.wellFormed hhas
  exact ⟨⟨hwf, CircularMap.erase_counted h.counted, CircularMap.capacity_erase.trans h.capacity⟩, hfind⟩

lemma exists_age (cfg : RlcTxAmConfig) (s : RlcTxAmEntity) (i : Nat) : ∃ sn < cfg.mod, 1 ≤ s.core.age cfg.sizes sn ∧
    s.core.age cfg.sizes sn ≤ cfg.amWindowSize ∧ sn % cfg.amWindowSize = i % cfg.amWindowSize := by
  have hmod := cfg.mod_eq
  have hW := cfg.one_lt_amWindowSize
  have hpos : 0 < cfg.mod := by omega
  obtain ⟨e, hle, heW, he⟩ : ∃ e, 1 ≤ e ∧ e ≤ cfg.amWindowSize ∧
      (s.st.txNext + (cfg.mod - e)) % cfg.amWindowSize = i % cfg.amWindowSize := by
    have hr : snDist cfg.amWindowSize i s.st.txNext < cfg.amWindowSize := snDist_lt (by omega)
    have hsum : (i + snDist cfg.amWindowSize i s.st.txNext) % cfg.amWindowSize = s.st.txNext % cfg.amWindowSize :=
      add_snDist (by omega)
    by_cases hzero : snDist cfg.amWindowSize i s.st.txNext = 0
    · refine ⟨cfg.amWindowSize, by omega, le_rfl, ?_⟩
      rw [hzero] at hsum
      rw [show s.st.txNext + (cfg.mod - cfg.amWindowSize) = s.st.txNext + cfg.amWindowSize by omega,
        Nat.add_mod_right, ← hsum, Nat.add_zero]
    · refine ⟨snDist cfg.amWindowSize i s.st.txNext, by omega, hr.le, ?_⟩
      rw [Nat.add_mod, ← hsum, ← Nat.add_mod,
        show i + snDist cfg.amWindowSize i s.st.txNext + (cfg.mod - snDist cfg.amWindowSize i s.st.txNext) =
          i + cfg.amWindowSize * 2 by omega, Nat.add_mul_mod_self_left]
  have hdvd : cfg.amWindowSize ∣ cfg.mod := ⟨2, by omega⟩
  have hage : snDist cfg.mod ((s.st.txNext + (cfg.mod - e)) % cfg.mod) s.st.txNext = e := by
    rw [snDist_mod_left]
    apply snDist_unique hpos (by omega)
    rw [show s.st.txNext + (cfg.mod - e) + e = s.st.txNext + cfg.mod by omega, Nat.add_mod_right]
  refine ⟨(s.st.txNext + (cfg.mod - e)) % cfg.mod, Nat.mod_lt _ hpos, ?_, ?_, ?_⟩
  · exact hle.trans hage.ge
  · exact hage.le.trans heW
  · rw [Nat.mod_mod_of_dvd _ hdvd, he]

lemma room_of_not_full (h : WindowOk cfg s.txWindow) (hfull : ¬s.isTxWindowFull cfg = true) :
    s.core.Room cfg.sizes := by
  by_contra hroom
  apply hfull
  unfold isTxWindowFull
  rw [Bool.or_eq_true]
  left
  apply CircularMap.full_of_entries h.counted
  intro i
  obtain ⟨sn, hsn, hpos, hle, hentry⟩ := exists_age cfg s i
  have hsome : s.core.window sn ≠ none := fun hnone => hroom ⟨sn, hsn, hpos, hle, hnone⟩
  obtain ⟨v, hv⟩ := Option.ne_none_iff_exists'.mp hsome
  obtain ⟨info, hinfo, -⟩ := core_window.mp hv
  have hslot : sn % s.txWindow.data.size = i % s.txWindow.data.size := by
    change sn % s.txWindow.capacity = i % s.txWindow.capacity
    rw [h.capacity]
    exact hentry
  rw [← CircularVector.get_congr hslot, CircularMap.find?_eq_some_iff.mp hinfo]
  rfl

end Window

lemma getPollingBit_spec (cfg : RlcTxAmConfig) (s : RlcTxAmEntity) (sn : Nat) (isRetx : Bool) (payloadSize : Nat) :
    ∃ p st t, getPollingBit cfg s sn isRetx payloadSize = (p, { s with st := st, pollRetransmitTimerRunning := t }) ∧
      st.txNextAck = s.st.txNextAck ∧ st.txNext = s.st.txNext := by
  unfold getPollingBit
  dsimp only
  split_ifs
  · exact ⟨_, _, _, rfl, rfl, rfl⟩
  · exact ⟨_, _, _, rfl, rfl, rfl⟩
  · exact ⟨_, _, _, rfl, rfl, rfl⟩
  · exact ⟨_, _, _, rfl, rfl, rfl⟩

section Sending

variable {cfg : RlcTxAmConfig} {s : RlcTxAmEntity} {grantLen : Nat} {info : RlcTxAmSduInfo} {E : RlcAbort → Prop}

lemma length_sduView {sdu : List UInt8} {so length : Nat} (h : so + length ≤ sdu.length) :
    (sduView sdu (so % 65536) length).length = length := by
  have hle := Nat.mod_le so 65536
  unfold sduView
  rw [List.length_take, List.length_drop]
  omega

lemma toNat_ofNat_so (so : Nat) : (UInt16.ofNat so).toNat = so % 65536 := UInt16.toNat_ofNat'

lemma core_eq {s' : RlcTxAmEntity} {c : TxCore} (hack : s'.st.txNextAck = c.txNextAck) (hnext : s'.st.txNext = c.txNext)
    (hunder : s'.snUnderSegmentation = c.under) (hw : ∀ sn, s'.core.window sn = c.window sn) : s'.core = c := by
  obtain ⟨ack, next, under, w⟩ := c
  have heq : s'.core.window = w := funext hw
  dsimp only at hack hnext hunder
  subst hack hnext hunder heq
  rfl

/-- The state after an SDU has been placed at `tx_next`. -/
structure InfoPlaced (cfg : RlcTxAmConfig) (s : RlcTxAmEntity) (info : RlcTxAmSduInfo) (s₁ : RlcTxAmEntity) : Prop where
  st : s₁.st = s.st
  under : s₁.snUnderSegmentation = s.snUnderSegmentation
  window : WindowOk cfg s₁.txWindow
  find? : ∀ j, s₁.txWindow.find? j = if j = s.st.txNext then some info
    else if j % cfg.amWindowSize = s.st.txNext % cfg.amWindowSize then none else s.txWindow.find? j
  sdus : ∀ sdu ∈ s₁.sduQueue.queue, sdu ∈ s.sduQueue.queue
  retx : s₁.retxQueue = s.retxQueue

variable {s₁ : RlcTxAmEntity}

lemma InfoPlaced.core_window (h : InfoPlaced cfg s info s₁) (j : Nat) :
    s₁.core.window j = s.core.place cfg.sizes ⟨info.sdu, info.nextSo⟩ j := by
  unfold TxCore.place core
  change Option.map _ (s₁.txWindow.find? j) = if j = s.st.txNext then _
    else if j % cfg.amWindowSize = s.st.txNext % cfg.amWindowSize then none else _
  rw [h.find?]
  split_ifs
  · rfl
  · rfl
  · rfl

lemma buildFirstSduSegment_sent (h : InfoPlaced cfg s info s₁)
    (hunder : s.snUnderSegmentation = none) (hroom : s.core.Room cfg.sizes) (hgrant : cfg.headMinSize < grantLen)
    (hlen : grantLen < info.sdu.length + cfg.headMinSize) (hso : info.nextSo = 0) :
    Yields (buildFirstSduSegment cfg s₁ info grantLen) (Sent cfg s) E := by
  have hnextEq : s₁.st.txNext = s.st.txNext := congrArg RlcTxAmState.txNext h.st
  obtain ⟨p, st, t, hpoll, hack, hnext⟩ := getPollingBit_spec cfg
    { s₁ with snUnderSegmentation := some s₁.st.txNext } s₁.st.txNext false (grantLen - cfg.headMinSize)
  unfold buildFirstSduSegment
  rw [if_neg (by omega), if_neg (by omega)]
  dsimp only at hack hnext ⊢
  rw [hpoll]
  dsimp only
  rw [hnextEq]
  have hview : (sduView info.sdu (UInt16.ofNat info.nextSo).toNat (grantLen - cfg.headMinSize)).length =
      grantLen - cfg.headMinSize := by
    rw [toNat_ofNat_so]
    exact length_sduView (by omega)
  rw [if_neg (by omega)]
  have hself : s₁.txWindow.find? s.st.txNext = some info := (h.find? _).trans (if_pos rfl)
  refine yields_bind (yields_modifyInfo h.window hself) ?_
  rintro w ⟨hw, hfind⟩
  have hinfo : InfoPlaced cfg s { info with nextSo := info.nextSo + (grantLen - cfg.headMinSize) }
      { s₁ with txWindow := w } := by
    refine ⟨h.st, h.under, hw, fun j => ?_, h.sdus, h.retx⟩
    change w.find? j = _
    rw [hfind, h.find?]
    split <;> rfl
  have hcore : RlcTxAmEntity.core { s₁ with
      snUnderSegmentation := some s.st.txNext, st := st, pollRetransmitTimerRunning := t, txWindow := w } =
      { s.core with
        under := some s.core.txNext
        window := s.core.place cfg.sizes ⟨info.sdu, info.nextSo + (grantLen - cfg.headMinSize)⟩ } :=
    core_eq (hack.trans (congrArg RlcTxAmState.txNextAck h.st)) (hnext.trans (congrArg RlcTxAmState.txNext h.st)) rfl
      hinfo.core_window
  refine ⟨?_, hw, h.sdus, fun r hr => ⟨r, h.retx ▸ hr, .refl r⟩, ?_⟩
  · rw [hcore, hso, Nat.zero_add]
    exact .single (.first _ _ hunder hroom (by omega) (by omega))
  · right
    refine ⟨s.st.txNext, ⟨info.sdu, info.nextSo + (grantLen - cfg.headMinSize)⟩, p, 0, grantLen - cfg.headMinSize,
      ?_, by omega, by dsimp only; omega, ?_⟩
    · rw [hcore]
      exact if_pos rfl
    · have hsi : segmentSi 0 (grantLen - cfg.headMinSize) info.sdu.length = .firstSegment := by
        unfold segmentSi
        rw [if_pos rfl, if_neg (by omega)]
      rw [hsi, hso]
      rfl

lemma sendFullSdu_sent (h : InfoPlaced cfg s info s₁) (hunder : s.snUnderSegmentation = none)
    (hroom : s.core.Room cfg.sizes) (hsdu : info.sdu ≠ []) (hso : info.nextSo = 0) :
    Sent cfg s (sendFullSdu cfg s₁ info.sdu) := by
  have hlenPos := List.length_pos_iff.mpr hsdu
  have hnextEq : s₁.st.txNext = s.st.txNext := congrArg RlcTxAmState.txNext h.st
  obtain ⟨p, st, t, hpoll, hack, hnext⟩ := getPollingBit_spec cfg s₁ s₁.st.txNext false 0
  unfold sendFullSdu
  rw [hpoll]
  dsimp only
  rw [if_neg (by omega), hnext, hnextEq]
  have hcore : RlcTxAmEntity.core { s₁ with
      st := { st with txNext := (s.st.txNext + 1) % cfg.mod }, pollRetransmitTimerRunning := t } =
      { s.core with
        txNext := s.core.advance cfg.sizes
        window := s.core.place cfg.sizes ⟨info.sdu, info.nextSo⟩ } :=
    core_eq (hack.trans (congrArg RlcTxAmState.txNextAck h.st)) rfl h.under h.core_window
  refine ⟨?_, h.window, h.sdus, fun r hr => ⟨r, h.retx ▸ hr, .refl r⟩, ?_⟩
  · rw [hcore, hso]
    exact .single (.full _ hunder hroom hsdu)
  · right
    refine ⟨s.st.txNext, ⟨info.sdu, info.nextSo⟩, p, 0, info.sdu.length, ?_, hlenPos, by dsimp only; omega, ?_⟩
    · rw [hcore]
      exact if_pos rfl
    · have hsi : segmentSi 0 info.sdu.length info.sdu.length = .fullSdu := by
        unfold segmentSi
        rw [if_pos rfl, if_pos le_rfl]
      have hview : sduView info.sdu (0 % 65536) info.sdu.length = info.sdu := List.take_length
      rw [hsi, hview]
      rfl

lemma sendSdu_sent (hw : WindowOk cfg s.txWindow) (hsafe : s.core.Safe cfg.sizes) (hunder : s.snUnderSegmentation = none)
    (hroom : s.core.Room cfg.sizes) (hgrant : cfg.headMinSize < grantLen) {sdu : RlcSdu} (hsdu : sdu.buf ≠ []) :
    Yields (sendSdu cfg s sdu grantLen) (Sent cfg s) E := by
  have habsent : s.txWindow.find? s.st.txNext = none := by
    apply core_window_eq_none.mp
    by_contra hsome
    obtain ⟨v, hv⟩ := Option.ne_none_iff_exists'.mp hsome
    obtain ⟨-, -, hu | ⟨hpos, -⟩⟩ := hsafe.entry _ v hv
    · change s.snUnderSegmentation = _ at hu
      rw [hunder] at hu
      cases hu
    · have hzero : s.core.age cfg.sizes s.st.txNext = 0 := (TxCore.age_eq_zero hsafe.txNext_lt hsafe.txNext_lt).mpr rfl
      omega
  unfold sendSdu
  refine yields_bind (yields_addInfo hw habsent) ?_
  rintro w ⟨hw', hfind⟩
  have hplaced : InfoPlaced cfg s ⟨sdu.buf, sdu.isRetx, sdu.pdcpSn, 0, retxCountNotStarted⟩
      (notify { s with txWindow := w } (transferNotice sdu)) := ⟨rfl, rfl, hw', hfind, fun _ h => h, rfl⟩
  refine yields_ite (fun hlen => ?_) fun hlen => ?_
  · exact buildFirstSduSegment_sent hplaced hunder hroom hgrant hlen rfl
  · exact sendFullSdu_sent hplaced hunder hroom hsdu rfl

lemma Sent.refl (hw : WindowOk cfg s.txWindow) : Sent cfg s (s, []) :=
  ⟨.refl, hw, fun _ h => h, fun r hr => ⟨r, hr, .refl r⟩, .inl rfl⟩

lemma Sent.after {res : RlcTxAmEntity × List UInt8} (h : Sent cfg s₁ res)
    (hmoves : ReflTransGen (TxCore.SendMove cfg.sizes) s.core s₁.core)
    (hsdus : ∀ sdu ∈ s₁.sduQueue.queue, sdu ∈ s.sduQueue.queue)
    (hretx : ∀ r ∈ s₁.retxQueue.queue, r ∈ s.retxQueue.queue) : Sent cfg s res := by
  refine ⟨hmoves.trans h.moves, h.window, fun sdu hsdu => hsdus sdu (h.sdus sdu hsdu), fun r' hr' => ?_, h.emitted⟩
  obtain ⟨r, hr, hpart⟩ := h.retx r' hr'
  exact ⟨r, hretx r hr, hpart⟩

lemma buildNewPdu_sent (hw : WindowOk cfg s.txWindow) (hsafe : s.core.Safe cfg.sizes)
    (hunder : s.snUnderSegmentation = none) (hsdu : ∀ sdu, newSdu cfg s grantLen = some sdu → sdu.buf ≠ []) :
    Yields (buildNewPdu cfg s grantLen) (Sent cfg s) E := by
  unfold buildNewPdu
  refine yields_ite (fun _ => .refl hw) fun hgrant => ?_
  refine yields_ite (fun _ => .refl hw) fun hfull => ?_
  obtain ⟨hread, hleft⟩ := RlcSduQueue.read_mem (q := s.sduQueue)
  rcases hqueue : s.sduQueue.read with ⟨_ | sdu, q⟩
  · rw [hqueue] at hleft
    exact ⟨.refl, hw, hleft, fun r hr => ⟨r, hr, .refl r⟩, .inl rfl⟩
  · rw [hqueue] at hread hleft
    have hroom := room_of_not_full hw hfull
    have hnew : newSdu cfg s grantLen = some sdu := by
      unfold newSdu
      rw [if_neg (by simp [hgrant, hfull]), hqueue]
    have hsent := sendSdu_sent (E := E) (s := { s with sduQueue := q }) hw hsafe hunder hroom (Nat.not_le.mp hgrant)
      (hsdu sdu hnew)
    exact hsent.post fun res hres => hres.after .refl hleft fun _ hr => hr

lemma core_update {w : SduWindow RlcTxAmSduInfo} {sn : Nat} {info' : RlcTxAmSduInfo} {v : SentSdu}
    (hfind : ∀ j, w.find? j = if j = sn then some info' else s.txWindow.find? j)
    (hv : (⟨info'.sdu, info'.nextSo⟩ : SentSdu) = v) (j : Nat) :
    (w.find? j).map (fun info => (⟨info.sdu, info.nextSo⟩ : SentSdu)) = s.core.update sn v j := by
  rw [hfind]
  unfold TxCore.update
  split
  · exact congrArg some hv
  · rfl

lemma buildContinuedSduSegment_sent (hw : WindowOk cfg s.txWindow) (hsafe : s.core.Safe cfg.sizes) {sn : Nat}
    (hunder : s.snUnderSegmentation = some sn) (hinfo : s.txWindow.find? sn = some info) :
    Yields (buildContinuedSduSegment cfg s sn info grantLen) (Sent cfg s) E := by
  have hv : s.core.window sn = some ⟨info.sdu, info.nextSo⟩ := core_window.mpr ⟨info, hinfo, rfl⟩
  obtain ⟨hsn, hso⟩ := hsafe.under sn hunder
  obtain ⟨hpos, hlt⟩ := hso _ hv
  dsimp only at hpos hlt
  have hhead : 0 < cfg.headMaxSize := by
    unfold RlcTxAmConfig.headMaxSize rlcAmPduHeaderMaxSize rlcAmPduHeaderSoSize
    omega
  unfold buildContinuedSduSegment
  rw [if_neg (by omega), if_neg (by omega)]
  refine yields_ite (fun _ => .refl hw) fun hgrant => ?_
  dsimp only
  by_cases hlast : info.sdu.length - info.nextSo + cfg.headMaxSize ≤ grantLen
  · obtain ⟨p, st, t, hpoll, hack, hnext⟩ := getPollingBit_spec cfg { s with snUnderSegmentation := none } s.st.txNext
      false (info.sdu.length - info.nextSo)
    simp only [hlast, decide_true, if_true]
    rw [hpoll]
    dsimp only at hack hnext ⊢
    have hview : (sduView info.sdu (info.nextSo % 65536) (info.sdu.length - info.nextSo)).length =
        info.sdu.length - info.nextSo := length_sduView (by omega)
    rw [toNat_ofNat_so, if_neg (by omega)]
    refine yields_bind (yields_modifyInfo hw hinfo) ?_
    rintro w ⟨hw', hfind⟩
    have hcore : RlcTxAmEntity.core { s with
        snUnderSegmentation := none, st := { st with txNext := (st.txNext + 1) % cfg.mod }
        pollRetransmitTimerRunning := t, txWindow := w } =
        { s.core with
          under := none
          txNext := s.core.advance cfg.sizes
          window := s.core.update sn ⟨info.sdu, info.sdu.length⟩ } := by
      refine core_eq hack (congrArg (fun n => (n + 1) % cfg.mod) hnext) rfl fun j => ?_
      refine core_update hfind ?_ j
      dsimp only
      rw [Nat.add_sub_cancel' hlt.le]
    refine ⟨?_, hw', fun _ h => h, fun r hr => ⟨r, hr, .refl r⟩, .inr ?_⟩
    · rw [hcore]
      exact .single (.last sn ⟨info.sdu, info.nextSo⟩ hunder hv hlt)
    · refine ⟨sn, ⟨info.sdu, info.sdu.length⟩, p, info.nextSo, info.sdu.length - info.nextSo, ?_, by omega,
        by dsimp only; omega, ?_⟩
      · rw [hcore]
        exact if_pos rfl
      · have hsi : segmentSi info.nextSo (info.sdu.length - info.nextSo) info.sdu.length = .lastSegment := by
          unfold segmentSi
          rw [if_neg (by omega), if_pos (by omega)]
        rw [hsi, hnext]
        change _ = rlcAmWriteDataPduHeader ⟨p, _, _, sn, _⟩ ++ _
        rw [hsn]
        rfl
  · obtain ⟨p, st, t, hpoll, hack, hnext⟩ := getPollingBit_spec cfg s s.st.txNext false (grantLen - cfg.headMaxSize)
    simp only [hlast, decide_false, Bool.false_eq_true, if_false]
    rw [hpoll]
    dsimp only at hack hnext ⊢
    have hview : (sduView info.sdu (info.nextSo % 65536) (grantLen - cfg.headMaxSize)).length =
        grantLen - cfg.headMaxSize := length_sduView (by omega)
    rw [toNat_ofNat_so, if_neg (by omega)]
    refine yields_bind (yields_modifyInfo hw hinfo) ?_
    rintro w ⟨hw', hfind⟩
    have hcore : RlcTxAmEntity.core { s with
        st := { st with txNext := st.txNext }, pollRetransmitTimerRunning := t, txWindow := w } =
        { s.core with window := s.core.update sn ⟨info.sdu, info.nextSo + (grantLen - cfg.headMaxSize)⟩ } :=
      core_eq hack hnext rfl (core_update hfind rfl)
    refine ⟨?_, hw', fun _ h => h, fun r hr => ⟨r, hr, .refl r⟩, .inr ?_⟩
    · rw [hcore]
      exact .single (.middle sn ⟨info.sdu, info.nextSo⟩ _ hunder hv hpos (by dsimp only; omega))
    · refine ⟨sn, ⟨info.sdu, info.nextSo + (grantLen - cfg.headMaxSize)⟩, p, info.nextSo, grantLen - cfg.headMaxSize,
        ?_, by omega, by dsimp only; omega, ?_⟩
      · rw [hcore]
        exact if_pos rfl
      · have hsi : segmentSi info.nextSo (grantLen - cfg.headMaxSize) info.sdu.length = .middleSegment := by
          unfold segmentSi
          rw [if_neg (by omega), if_neg (by omega)]
        rw [hsi, hnext, hsn]
        rfl

lemma dropAbsentRetx_spec {w : SduWindow RlcTxAmSduInfo} {l : List RlcTxAmdRetx} {q : RlcRetxQueue} (hl : q.queue = l) :
    (∀ r ∈ (dropAbsentRetx w l q).queue, r ∈ l) ∧
      ∀ r, (dropAbsentRetx w l q).front = some r → SduWindow.hasSn w r.sn = true := by
  induction l generalizing q with
  | nil =>
    unfold dropAbsentRetx
    rw [RlcRetxQueue.front, hl]
    exact ⟨fun _ h => hl ▸ h, fun _ h => (nomatch h)⟩
  | cons retx rest ih =>
    unfold dropAbsentRetx
    split
    case isTrue hhas =>
      rw [RlcRetxQueue.front, hl]
      exact ⟨fun _ h => h, fun r hr => Option.some.inj hr ▸ hhas⟩
    case isFalse =>
      have hpop : q.pop.queue = rest := by
        unfold RlcRetxQueue.pop
        rw [hl]
      obtain ⟨hmem, hfront⟩ := ih hpop
      exact ⟨fun r hr => List.mem_cons_of_mem retx (hmem r hr), hfront⟩

lemma retxQueue_pop_mem {q : RlcRetxQueue} : ∀ r ∈ q.pop.queue, r ∈ q.queue := by
  intro r hr
  unfold RlcRetxQueue.pop at hr
  split at hr
  · exact hr
  case h_2 elem rest heq =>
    rw [heq]
    exact List.mem_cons_of_mem elem hr

lemma Sent.of_core {s' : RlcTxAmEntity} {pdu : List UInt8} (hcore : s'.core = s.core)
    (hw : WindowOk cfg s'.txWindow) (hsdus : s'.sduQueue = s.sduQueue)
    (hretx : ∀ r' ∈ s'.retxQueue.queue, ∃ r ∈ s.retxQueue.queue, RetxPart r r') (hpdu : Emitted cfg s.core pdu) :
    Sent cfg s (s', pdu) :=
  ⟨hcore ▸ .refl, hw, fun _ h => hsdus ▸ h, hretx, hcore ▸ hpdu⟩

lemma consumeRetx_spec (cfg : RlcTxAmConfig) (info : RlcTxAmSduInfo) {retx : RlcTxAmdRetx}
    (hfront : s.retxQueue.front = some retx) {length : Nat} (hle : length ≤ retx.length) :
    (consumeRetx cfg s retx info length).core = s.core ∧
      (consumeRetx cfg s retx info length).txWindow = s.txWindow ∧
      (consumeRetx cfg s retx info length).sduQueue = s.sduQueue ∧
      ∀ r' ∈ (consumeRetx cfg s retx info length).retxQueue.queue, ∃ r ∈ s.retxQueue.queue, RetxPart r r' := by
  unfold consumeRetx
  split
  · exact ⟨rfl, rfl, rfl, fun r hr => ⟨r, retxQueue_pop_mem r hr, .refl r⟩⟩
  case isFalse hne =>
    refine ⟨rfl, rfl, rfl, fun r' hr' => ?_⟩
    dsimp only at hr'
    unfold RlcRetxQueue.replaceFront at hr'
    unfold RlcRetxQueue.front at hfront
    split at hr'
    case h_1 hnil => exact ⟨r', hr', .refl r'⟩
    case h_2 elem rest heq =>
      rw [heq] at hfront ⊢
      obtain rfl := Option.some.inj hfront
      rcases List.mem_cons.mp hr' with rfl | hrest
      · refine ⟨elem, List.mem_cons_self, rfl, Nat.le_add_right _ _, ?_, fun _ => ?_⟩
        · dsimp only
          omega
        · dsimp only
          omega
      · exact ⟨r', List.mem_cons_of_mem elem hrest, .refl r'⟩

lemma retxSi_eq (retx : RlcTxAmdRetx) (length total : Nat) (hlen : retx.so = 0 → retx.so + length = length) :
    retxSi retx (retx.so + length ≥ total) = segmentSi retx.so length total := by
  unfold retxSi segmentSi
  by_cases hso : retx.so = 0
  · rw [if_pos hso, if_pos hso, hlen hso]
    simp
  · rw [if_neg hso, if_neg hso]
    simp

lemma sendRetx_sent (hE : E .headerLength) (hw : WindowOk cfg s.txWindow) {retx : RlcTxAmdRetx}
    (hfront : s.retxQueue.front = some retx) (hinfo : s.txWindow.find? retx.sn = some info) (hlen : 0 < retx.length) :
    Yields (sendRetx cfg s retx info grantLen) (Sent cfg s) E := by
  have hv : s.core.window retx.sn = some ⟨info.sdu, info.nextSo⟩ := core_window.mpr ⟨info, hinfo, rfl⟩
  have hrefl : ∀ r ∈ s.retxQueue.queue, ∃ r₀ ∈ s.retxQueue.queue, RetxPart r₀ r := fun r hr => ⟨r, hr, .refl r⟩
  unfold sendRetx
  refine yields_ite (fun _ => ?_) fun hbound => yields_ite (fun _ => ?_) fun hgrant => ?_
  · exact .of_core rfl hw rfl (fun r hr => ⟨r, retxQueue_pop_mem r hr, .refl r⟩) (.inl rfl)
  · exact .of_core rfl hw rfl hrefl (.inl rfl)
  · obtain ⟨hcore, hwindow, hsdus, hparts⟩ := consumeRetx_spec cfg info (s := { s with retxSn := some retx.sn })
      hfront (Nat.min_le_left retx.length (grantLen - getRetxExpectedHdrLen cfg retx))
    obtain ⟨p, st, t, hpoll, hack, hnext⟩ := getPollingBit_spec cfg
      (consumeRetx cfg { s with retxSn := some retx.sn } retx info
        (min retx.length (grantLen - getRetxExpectedHdrLen cfg retx))) retx.sn true 0
    dsimp only
    rw [hpoll]
    generalize hs₁ : consumeRetx cfg { s with retxSn := some retx.sn } retx info
      (min retx.length (grantLen - getRetxExpectedHdrLen cfg retx)) = s₁ at *
    dsimp only
    refine yields_ite (fun _ => hE) fun _ => yields_ite (fun hview => ?_) fun _ => ?_
    · rw [toNat_ofNat_so, length_sduView (by omega)] at hview
      omega
    · have hcore' : RlcTxAmEntity.core { s₁ with st := st, pollRetransmitTimerRunning := t } = s.core := by
        refine Eq.trans ?_ hcore
        exact core_eq hack hnext rfl fun _ => rfl
      refine .of_core hcore' (hwindow ▸ hw) hsdus hparts (.inr ?_)
      refine ⟨retx.sn, _, p, retx.so, min retx.length (grantLen - getRetxExpectedHdrLen cfg retx), hv, by omega,
        by dsimp only; omega, ?_⟩
      rw [retxSi_eq _ _ _ (fun hso => by omega), toNat_ofNat_so]

lemma dropRetx_mem : ∀ r ∈ s.dropRetx.retxQueue.queue, r ∈ s.retxQueue.queue := (dropAbsentRetx_spec rfl).1

lemma buildRetxPdu_sent (hE : E .headerLength) (hw : WindowOk cfg s.txWindow)
    (hlen : ∀ r ∈ s.retxQueue.queue, 0 < r.length) : Yields (buildRetxPdu cfg s grantLen) (Sent cfg s) E := by
  obtain ⟨hmem, hhas⟩ := dropAbsentRetx_spec (w := s.txWindow) (q := s.retxQueue) rfl
  unfold buildRetxPdu
  dsimp only
  cases hfront : s.dropRetx.retxQueue.front with
  | none => exact .of_core rfl hw rfl (fun r hr => ⟨r, hmem r hr, .refl r⟩) (.inl rfl)
  | some retx =>
    obtain ⟨info, hinfo⟩ := SduWindow.hasSn_iff.mp (hhas retx hfront)
    refine yields_bind (SduWindow.yields_atSn hinfo) ?_
    rintro info rfl
    have hretx : retx ∈ s.retxQueue.queue := hmem retx (List.mem_of_head? hfront)
    exact (sendRetx_sent (s := s.dropRetx) hE hw hfront hinfo (hlen retx hretx)).post fun res hres =>
      hres.after .refl (fun _ h => h) hmem

lemma pullNewData_sent (hw : WindowOk cfg s.txWindow) (hsafe : s.core.Safe cfg.sizes) (hretx : s.retxQueue.empty = true)
    (hreached : s.maxRetxReached = false) (hsdu : ∀ sdu, pulledSdu cfg s none grantLen = some sdu → sdu.buf ≠ []) :
    Yields (pullDataPdu cfg s grantLen) (Sent cfg s) E := by
  unfold pullDataPdu
  rw [hretx]
  refine yields_ite (fun hne => nomatch hne) fun _ => ?_
  cases hunder : s.snUnderSegmentation with
  | none =>
    refine yields_ite (fun _ => .refl hw) fun hempty => buildNewPdu_sent hw hsafe hunder fun sdu hnew => hsdu sdu ?_
    unfold pulledSdu
    rw [if_neg (by simp_all), hnew]
  | some sn =>
    dsimp only
    cases hinfo : s.txWindow.find? sn with
    | some info => exact buildContinuedSduSegment_sent hw hsafe hunder hinfo
    | none =>
      have hforget : TxCore.SendMove cfg.sizes s.core (RlcTxAmEntity.core { s with snUnderSegmentation := none }) :=
        .forget sn hunder (core_window_eq_none.mpr hinfo)
      have hafter : ∀ res, Sent cfg { s with snUnderSegmentation := none } res → Sent cfg s res := fun res hres =>
        hres.after (.single hforget) (fun _ h => h) fun _ h => h
      refine yields_ite (fun _ => hafter _ (.refl hw)) fun hempty => ?_
      refine (buildNewPdu_sent (s := { s with snUnderSegmentation := none }) hw (hforget.safe hsafe) rfl
        fun sdu hnew => hsdu sdu ?_).post hafter
      unfold pulledSdu
      rw [if_neg (by simp_all)]
      exact hnew

lemma pullPdu_sent (hE : E .headerLength) (hw : WindowOk cfg s.txWindow) (hsafe : s.core.Safe cfg.sizes)
    (hlen : ∀ r ∈ s.retxQueue.queue, 0 < r.length) {statusPdu : Option RlcAmStatusPdu}
    (hsdu : ∀ sdu, pulledSdu cfg s statusPdu grantLen = some sdu → sdu.buf ≠ []) :
    Yields (pullPdu cfg s statusPdu grantLen) (fun res => res.1 = s ∨ Sent cfg s res) E := by
  unfold pullPdu
  refine yields_ite (fun _ => .inl rfl) fun hreached => ?_
  cases statusPdu with
  | some statusPdu => exact .inl rfl
  | none =>
    refine Yields.post (Q := Sent cfg s) ?_ fun _ hres => .inr hres
    cases hretx : s.retxQueue.empty with
    | true => exact pullNewData_sent hw hsafe hretx (Bool.eq_false_iff.mpr hreached) hsdu
    | false =>
      unfold pullDataPdu
      rw [hretx]
      exact buildRetxPdu_sent hE hw hlen

end Sending

end RlcTxAmEntity

end OwlsRan.Rlc
