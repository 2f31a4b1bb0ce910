import OwlsRan.Rlc.RetxRequests
import OwlsRan.Rlc.TxAmRun

/-!
# The PDUs with new data

What a call of `pull_pdu` sends of an SDU that has not been sent completely, and which state it leaves.
-/

namespace OwlsRan.Rlc
open OwlsRan.Lib OwlsRan.Adt

structure Piece where
  poll : Bool
  sn : Nat
  so : Nat
  length : Nat
  sdu : List UInt8

namespace Piece

def stop (piece : Piece) : Nat := piece.so + piece.length

def whole (piece : Piece) : Prop := piece.so = 0 ∧ piece.length = piece.sdu.length

instance (piece : Piece) : Decidable piece.whole := inferInstanceAs (Decidable (_ ∧ _))

def pdu (snSize : RlcAmSnSize) (piece : Piece) : List UInt8 :=
  rlcAmWriteDataPduHeader ⟨piece.poll, RlcTxAmEntity.segmentSi piece.so piece.length piece.sdu.length, snSize, piece.sn,
    .ofNat piece.so⟩ ++ RlcTxAmEntity.sduView piece.sdu (piece.so % 65536) piece.length

end Piece

lemma length_rlcAmWriteDataPduHeader (h : RlcAmPduHeader) : (rlcAmWriteDataPduHeader h).length =
    rlcAmPduHeaderMinSize h.snSize + if h.so = 0 then 0 else rlcAmPduHeaderSoSize := by
  have hso : (writeSo h.so).length = if h.so = 0 then 0 else rlcAmPduHeaderSoSize := by
    unfold writeSo
    by_cases hzero : h.so = 0
    · rw [if_neg (not_not.mpr hzero), if_pos hzero]
      rfl
    · rw [if_pos hzero, if_neg hzero]
      rfl
  unfold rlcAmWriteDataPduHeader
  rw [List.length_append, ← hso]
  congr 1
  cases h.snSize <;> rfl

namespace RlcTxAmEntity

/-- The SDU under segmentation is the one of `tx_next`. If it is in the window, some of it has been sent, and some has
not. -/
structure SegmentInv (cfg : RlcTxAmConfig) (s : RlcTxAmEntity) : Prop where
  window : WindowOk cfg s.txWindow
  under : ∀ sn, s.core.under = some sn → sn = s.core.txNext ∧
    ∀ v, s.core.window sn = some v → 0 < v.nextSo ∧ v.nextSo < v.sdu.length
  capacity : s.retxQueue.capacity = cfg.amWindowSize

structure PolledIn (cfg : RlcTxAmConfig) (s s' : RlcTxAmEntity) (piece : Piece) (t : RlcTxAmEntity) : Prop where
  bit : (getPollingBit cfg t piece.sn false (if piece.whole then 0 else piece.length)).1 = piece.poll
  after : s'.st = { (getPollingBit cfg t piece.sn false (if piece.whole then 0 else piece.length)).2.st with
    txNext := s'.st.txNext }
  st : t.st = s.st
  sduQueue : t.sduQueue = s'.sduQueue
  retxQueue : t.retxQueue = s'.retxQueue
  under : t.snUnderSegmentation = s'.snUnderSegmentation
  full : t.txWindow.full = s'.txWindow.full

def TxAmEvent.silent : TxAmEvent → Bool
  | .handleSdu .. | .pullPdu .. => false
  | .discardSdu _ | .onStatusPdu _ | .pollRetransmitTimerExpires | .updateMacBufferState => true

/-- A piece of an SDU is sent, in a state and up to another one. -/
structure NewPiece (cfg : RlcTxAmConfig) (s : RlcTxAmEntity) (grantLen : Nat) (s' : RlcTxAmEntity) (piece : Piece) :
    Prop where
  sn : piece.sn = s.st.txNext
  length_pos : 0 < piece.length
  stop_le : piece.stop ≤ piece.sdu.length
  fits : (piece.pdu cfg.snFieldLength).length ≤ grantLen
  /-- It begins where the piece before ended, or with an SDU from the queue. -/
  begins : piece.so = 0 ∧ (∃ sdu, s.sduQueue.read = (some sdu, s'.sduQueue) ∧ sdu.buf = piece.sdu) ∧
      (∀ x, s.core.under = some x → s.core.window x = none) ∧ s.isTxWindowFull cfg = false ∨
    0 < piece.so ∧ s'.sduQueue = s.sduQueue ∧ s.core.under = some piece.sn ∧
      s.core.window piece.sn = some ⟨piece.sdu, piece.so⟩
  completed : piece.stop = piece.sdu.length →
    s'.st.txNext = (s.st.txNext + 1) % cfg.mod ∧ s'.snUnderSegmentation = none
  continued : piece.stop < piece.sdu.length → s'.st.txNext = s.st.txNext ∧ s'.snUnderSegmentation = some piece.sn ∧
    s'.core.window piece.sn = some ⟨piece.sdu, piece.stop⟩
  /-- Nothing but the SDU of the piece is added to the window. -/
  others : ∀ sn v, s'.core.window sn = some v → sn = piece.sn ∧ v.sdu = piece.sdu ∨ s.core.window sn = some v
  window : WindowOk cfg s'.txWindow
  retxQueue : s'.retxQueue = s.retxQueue
  polled : ∃ t, PolledIn cfg s s' piece t

/-- What a call does that finds no retransmission to send. -/
inductive Pulled (cfg : RlcTxAmConfig) (s : RlcTxAmEntity) (grantLen : Nat) : RlcTxAmEntity × List UInt8 → Prop
  /-- Nothing is sent. An SDU that is gone is no longer under segmentation. -/
  | silent {s' : RlcTxAmEntity} (hst : s'.st = s.st) (hwindow : s'.txWindow = s.txWindow)
      (hunder : s'.snUnderSegmentation = s.snUnderSegmentation ∨
        s'.snUnderSegmentation = none ∧ ∀ x, s.core.under = some x → s.core.window x = none)
      (hsdus : s'.sduQueue = s.sduQueue ∨ s.sduQueue.read = (none, s'.sduQueue))
      (hretx : s'.retxQueue = s.retxQueue) (hnone : pulledSdu cfg s none grantLen = none) : Pulled cfg s grantLen (s', [])
  /-- An empty SDU is placed at `tx_next`, and stays there. -/
  | empty {s' : RlcTxAmEntity} (sdu : RlcSdu) (hread : s.sduQueue.read = (some sdu, s'.sduQueue)) (hnil : sdu.buf = [])
      (hwindow : WindowOk cfg s'.txWindow) (hnext : s'.st.txNext = s.st.txNext)
      (hunder : s'.snUnderSegmentation = none) (hretx : s'.retxQueue = s.retxQueue) : Pulled cfg s grantLen (s', [])
  | piece {s' : RlcTxAmEntity} (piece : Piece) (hpiece : NewPiece cfg s grantLen s' piece) :
      Pulled cfg s grantLen (s', piece.pdu cfg.snFieldLength)

section Builders

variable {cfg : RlcTxAmConfig} {s : RlcTxAmEntity} {grantLen : Nat} {info : RlcTxAmSduInfo}

lemma pulledSdu_eq_none (h : newSdu cfg s grantLen = none) : pulledSdu cfg s none grantLen = none := by
  unfold pulledSdu
  rw [h, ite_self]

lemma pulledSdu_of_isEmpty (h : s.sduQueue.isEmpty = true) : pulledSdu cfg s none grantLen = none := by
  unfold pulledSdu
  rw [h, Bool.or_true, if_pos rfl]

lemma headMaxSize_eq (cfg : RlcTxAmConfig) : cfg.headMaxSize = cfg.headMinSize + rlcAmPduHeaderSoSize := rfl

lemma Piece.length_pdu_le (piece : Piece) {total : Nat} (hstop : piece.stop ≤ piece.sdu.length)
    (hlen : piece.length + (if piece.so = 0 then cfg.headMinSize else cfg.headMaxSize) ≤ total) :
    (piece.pdu cfg.snFieldLength).length ≤ total := by
  unfold Piece.stop at hstop
  unfold Piece.pdu
  rw [List.length_append, length_rlcAmWriteDataPduHeader, length_sduView hstop]
  have hheader : (if UInt16.ofNat piece.so = 0 then 0 else rlcAmPduHeaderSoSize) ≤
      if piece.so = 0 then 0 else rlcAmPduHeaderSoSize := by
    by_cases hso : piece.so = 0
    · rw [hso]
      rfl
    · rw [if_neg hso]
      split
      · exact Nat.zero_le _
      · exact le_rfl
  have hbound : (if piece.so = 0 then cfg.headMinSize else cfg.headMaxSize) =
      rlcAmPduHeaderMinSize cfg.snFieldLength + if piece.so = 0 then 0 else rlcAmPduHeaderSoSize := by
    split
    · rfl
    · rfl
  dsimp only
  omega

lemma full_modify {w : SduWindow RlcTxAmSduInfo} {sn : Nat} {f : RlcTxAmSduInfo → RlcTxAmSduInfo} :
    (w.modify sn f).full = w.full := by
  unfold CircularMap.full
  rw [CircularMap.capacity_modify]
  rfl

lemma modifySn_eq (hw : WindowOk cfg s.txWindow) {sn : Nat} (hinfo : s.txWindow.find? sn = some info)
    (f : RlcTxAmSduInfo → RlcTxAmSduInfo) :
    SduWindow.modifySn s.txWindow sn f = .ok (s.txWindow.modify sn f) ∧ WindowOk cfg (s.txWindow.modify sn f) ∧
      ∀ j, (s.txWindow.modify sn f).find? j = if j = sn then some (f info) else s.txWindow.find? j := by
  have hok : SduWindow.modifySn s.txWindow sn f = .ok (s.txWindow.modify sn f) :=
    if_pos (SduWindow.hasSn_iff.mpr ⟨info, hinfo⟩)
  obtain ⟨hw', hfind⟩ := (yields_modifyInfo (f := f) (E := fun _ => True) hw hinfo).of_ok hok
  exact ⟨hok, hw', hfind⟩

lemma core_modified {s' : RlcTxAmEntity} {sn : Nat} {info' : RlcTxAmSduInfo}
    (hfind : ∀ j, s'.txWindow.find? j = if j = sn then some info' else s.txWindow.find? j)
    (hsdu : info'.sdu = info.sdu) :
    ∀ j v, s'.core.window j = some v → j = sn ∧ v.sdu = info.sdu ∨ s.core.window j = some v := by
  intro j v hv
  obtain ⟨found, hfound, rfl⟩ := core_window.mp hv
  rw [hfind] at hfound
  split at hfound
  case isTrue hj =>
    obtain rfl := Option.some.inj hfound
    exact .inl ⟨hj, hsdu⟩
  case isFalse => exact .inr (core_window.mpr ⟨found, hfound, rfl⟩)

/-- A new SDU has been taken from the queue and placed at `tx_next`. -/
structure Taken (cfg : RlcTxAmConfig) (s : RlcTxAmEntity) (sdu : RlcSdu) (s₁ : RlcTxAmEntity) : Prop where
  st : s₁.st = s.st
  absent : ∀ x, s.core.under = some x → s.core.window x = none
  room : s.isTxWindowFull cfg = false
  under : s₁.snUnderSegmentation = none
  window : WindowOk cfg s₁.txWindow
  info : s₁.txWindow.find? s₁.st.txNext = some ⟨sdu.buf, sdu.isRetx, sdu.pdcpSn, 0, retxCountNotStarted⟩
  others : ∀ sn v, s₁.core.window sn = some v → sn = s₁.st.txNext ∧ v.sdu = sdu.buf ∨ s.core.window sn = some v
  read : s.sduQueue.read = (some sdu, s₁.sduQueue)
  retxQueue : s₁.retxQueue = s.retxQueue

section New

variable {sdu : RlcSdu} {s₁ : RlcTxAmEntity} {E : RlcAbort → Prop}

lemma buildFirstSduSegment_pulled (h : Taken cfg s sdu s₁) (hgrant : cfg.headMinSize < grantLen)
    (hlen : grantLen < sdu.buf.length + cfg.headMinSize) :
    Yields (buildFirstSduSegment cfg s₁ ⟨sdu.buf, sdu.isRetx, sdu.pdcpSn, 0, retxCountNotStarted⟩ grantLen)
      (Pulled cfg s grantLen) E := by
  have hnextEq : s₁.st.txNext = s.st.txNext := congrArg RlcTxAmState.txNext h.st
  obtain ⟨p, st, t, hpoll, hack, hnext⟩ := getPollingBit_spec cfg
    { s₁ with snUnderSegmentation := some s₁.st.txNext } s₁.st.txNext false (grantLen - cfg.headMinSize)
  obtain ⟨hmodify, hw, hfind⟩ := modifySn_eq h.window h.info fun info =>
    { info with nextSo := info.nextSo + (grantLen - cfg.headMinSize) }
  have hself := (hfind s₁.st.txNext).trans (if_pos rfl)
  have hview : (sduView sdu.buf (UInt16.ofNat 0).toNat (grantLen - cfg.headMinSize)).length =
      grantLen - cfg.headMinSize := by
    rw [toNat_ofNat_so]
    exact length_sduView (by omega)
  unfold buildFirstSduSegment
  dsimp only at hnext ⊢
  rw [if_neg (by omega), if_neg (by omega), hpoll]
  dsimp only
  rw [if_neg (by omega), hmodify]
  -- the first piece of the SDU
  have hsi : segmentSi 0 (grantLen - cfg.headMinSize) sdu.buf.length = .firstSegment := by
    unfold segmentSi
    rw [if_pos rfl, if_neg (by omega)]
  have hpart : ¬(⟨p, s₁.st.txNext, 0, grantLen - cfg.headMinSize, sdu.buf⟩ : Piece).whole := by
    rintro ⟨-, hwhole⟩
    dsimp only at hwhole
    omega
  have hpiece : NewPiece cfg s grantLen
      { s₁ with
        snUnderSegmentation := some s₁.st.txNext, st := st, pollRetransmitTimerRunning := t
        txWindow := s₁.txWindow.modify s₁.st.txNext fun info =>
          { info with nextSo := info.nextSo + (grantLen - cfg.headMinSize) } }
      ⟨p, s₁.st.txNext, 0, grantLen - cfg.headMinSize, sdu.buf⟩ := by
    refine ⟨hnextEq, ?_, ?_, ?_, .inl ⟨rfl, ⟨sdu, h.read, rfl⟩, h.absent, h.room⟩, fun hall => ?_, fun _ => ?_,
      fun j v hv => ?_, hw, h.retxQueue, ?_⟩
    · dsimp only
      omega
    · unfold Piece.stop
      dsimp only
      omega
    · apply Piece.length_pdu_le
      · unfold Piece.stop
        dsimp only
        omega
      · dsimp only
        rw [if_pos rfl]
        omega
    · unfold Piece.stop at hall
      dsimp only at hall
      omega
    · exact ⟨hnext.trans hnextEq, rfl, core_window.mpr ⟨_, hself, rfl⟩⟩
    · obtain hnew | hold := core_modified (s := s₁) hfind rfl j v hv
      · exact .inl hnew
      · exact h.others j v hold
    · refine ⟨{ s₁ with snUnderSegmentation := some s₁.st.txNext }, ?_, ?_, h.st, rfl, rfl, rfl, full_modify.symm⟩
      · rw [if_neg hpart, hpoll]
      · rw [if_neg hpart, hpoll]
  have hpdu := Pulled.piece _ hpiece
  unfold Piece.pdu at hpdu
  rw [hsi] at hpdu
  exact hpdu

lemma sendFullSdu_pulled (h : Taken cfg s sdu s₁) (hfits : sdu.buf.length + cfg.headMinSize ≤ grantLen) :
    Pulled cfg s grantLen (sendFullSdu cfg s₁ sdu.buf) := by
  have hnextEq : s₁.st.txNext = s.st.txNext := congrArg RlcTxAmState.txNext h.st
  obtain ⟨p, st, t, hpoll, hack, hnext⟩ := getPollingBit_spec cfg s₁ s₁.st.txNext false 0
  unfold sendFullSdu
  rw [hpoll]
  dsimp only
  split
  case isTrue hzero =>
    exact .empty sdu h.read (List.length_eq_zero_iff.mp hzero) h.window (hnext.trans hnextEq) h.under h.retxQueue
  case isFalse hzero =>
    have hwhole : (⟨p, s₁.st.txNext, 0, sdu.buf.length, sdu.buf⟩ : Piece).whole := ⟨rfl, rfl⟩
    have hpiece : NewPiece cfg s grantLen
        { s₁ with st := { st with txNext := (st.txNext + 1) % cfg.mod }, pollRetransmitTimerRunning := t }
        ⟨p, s₁.st.txNext, 0, sdu.buf.length, sdu.buf⟩ := by
      refine ⟨hnextEq, Nat.pos_of_ne_zero hzero, ?_, ?_, .inl ⟨rfl, ⟨sdu, h.read, rfl⟩, h.absent, h.room⟩, fun _ => ?_,
        fun hpart => ?_, h.others, h.window, h.retxQueue, ?_⟩
      · exact (Nat.zero_add _).le
      · apply Piece.length_pdu_le
        · exact (Nat.zero_add _).le
        · dsimp only
          rw [if_pos rfl]
          exact hfits
      · dsimp only
        rw [hnext, hnextEq]
        exact ⟨rfl, h.under⟩
      · unfold Piece.stop at hpart
        dsimp only at hpart
        omega
      · refine ⟨s₁, ?_, ?_, h.st, rfl, rfl, rfl, rfl⟩
        · rw [if_pos hwhole, hpoll]
        · rw [if_pos hwhole, hpoll]
    have hsi : segmentSi 0 sdu.buf.length sdu.buf.length = .fullSdu := by
      unfold segmentSi
      rw [if_pos rfl, if_pos le_rfl]
    have hview : sduView sdu.buf (0 % 65536) sdu.buf.length = sdu.buf := List.take_length
    have hpdu := Pulled.piece _ hpiece
    unfold Piece.pdu at hpdu
    dsimp only at hpdu
    rw [hsi, hview] at hpdu
    rw [hnext] at hpdu ⊢
    exact hpdu

lemma sendSdu_pulled (hw : WindowOk cfg s.txWindow) (hgrant : cfg.headMinSize < grantLen)
    (habsent : ∀ x, s.core.under = some x → s.core.window x = none) (hroom : s.isTxWindowFull cfg = false)
    {q : RlcSduQueue} (hread : s.sduQueue.read = (some sdu, q)) :
    Yields (sendSdu cfg { s with sduQueue := q, snUnderSegmentation := none } sdu grantLen) (Pulled cfg s grantLen)
      fun _ => True := by
  unfold sendSdu
  dsimp only
  cases hfree : s.txWindow.find? s.st.txNext with
  | some info =>
    have hpresent : SduWindow.addSn s.txWindow s.st.txNext
        (⟨sdu.buf, sdu.isRetx, sdu.pdcpSn, 0, retxCountNotStarted⟩ : RlcTxAmSduInfo) = .error .snPresent :=
      if_pos (SduWindow.hasSn_iff.mpr ⟨info, hfree⟩)
    rw [hpresent]
    trivial
  | none =>
    refine yields_bind (yields_addInfo hw hfree) ?_
    rintro w ⟨hw', hfind⟩
    have hothers : ∀ j v, (RlcTxAmEntity.core (notify
        { s with sduQueue := q, snUnderSegmentation := none, txWindow := w } (transferNotice sdu))).window j = some v →
          j = s.st.txNext ∧ v.sdu = sdu.buf ∨ s.core.window j = some v := by
      intro j v hv
      obtain ⟨info, hinfo, rfl⟩ := core_window.mp hv
      change w.find? j = some info at hinfo
      rw [hfind] at hinfo
      split_ifs at hinfo with hj
      · obtain rfl := Option.some.inj hinfo
        exact .inl ⟨hj, rfl⟩
      · exact .inr (core_window.mpr ⟨info, hinfo, rfl⟩)
    have htaken : Taken cfg s sdu
        (notify { s with sduQueue := q, snUnderSegmentation := none, txWindow := w } (transferNotice sdu)) :=
      ⟨rfl, habsent, hroom, rfl, hw', (hfind _).trans (if_pos rfl), hothers, hread, rfl⟩
    refine yields_ite (fun hlen => ?_) fun hlen => ?_
    · exact buildFirstSduSegment_pulled htaken hgrant hlen
    · exact sendFullSdu_pulled htaken (Nat.not_lt.mp hlen)

variable (grantLen) in
lemma buildNewPdu_pulled (hw : WindowOk cfg s.txWindow)
    (habsent : ∀ x, s.core.under = some x → s.core.window x = none) :
    Yields (buildNewPdu cfg { s with snUnderSegmentation := none } grantLen) (Pulled cfg s grantLen)
      fun _ => True := by
  have hquiet : (grantLen ≤ cfg.headMinSize || s.isTxWindowFull cfg) = true →
      Pulled cfg s grantLen ({ s with snUnderSegmentation := none }, []) := fun hnone =>
    .silent rfl rfl (.inr ⟨rfl, habsent⟩) (.inl rfl) rfl (pulledSdu_eq_none (if_pos hnone))
  unfold buildNewPdu
  refine yields_ite (fun hsmall => hquiet (by simp [hsmall])) fun hgrant =>
    yields_ite (fun hfull => hquiet (by simp [show s.isTxWindowFull cfg = true from hfull])) fun hfull => ?_
  dsimp only
  rcases hread : s.sduQueue.read with ⟨_ | sdu, q⟩
  · refine .silent rfl rfl (.inr ⟨rfl, habsent⟩) (.inr hread) rfl (pulledSdu_eq_none ?_)
    unfold newSdu
    rw [hread, ite_self]
  · exact sendSdu_pulled hw (Nat.not_le.mp hgrant) habsent (Bool.eq_false_iff.mpr hfull) hread

end New

section Continued

variable {sn : Nat}

lemma buildContinuedSduSegment_pulled (h : SegmentInv cfg s) (hunder : s.snUnderSegmentation = some sn)
    (hinfo : s.txWindow.find? sn = some info) :
    Yields (buildContinuedSduSegment cfg s sn info grantLen) (Pulled cfg s grantLen) fun _ => True := by
  have hv : s.core.window sn = some ⟨info.sdu, info.nextSo⟩ := core_window.mpr ⟨info, hinfo, rfl⟩
  obtain ⟨hsn, hso⟩ := h.under sn hunder
  obtain ⟨hpos, hlt⟩ := hso _ hv
  have hnextEq : sn = s.st.txNext := hsn
  dsimp only at hpos hlt
  have hhead : 0 < cfg.headMaxSize := by
    rw [headMaxSize_eq]
    unfold rlcAmPduHeaderSoSize
    omega
  have hnone : pulledSdu cfg s none grantLen = none := by
    unfold pulledSdu
    rw [hunder, Option.bind_some, hinfo, Option.isSome_some, Bool.or_true, Bool.true_or, if_pos rfl]
  have hquiet : Pulled cfg s grantLen (s, []) := .silent rfl rfl (.inl rfl) (.inl rfl) rfl hnone
  unfold buildContinuedSduSegment
  rw [if_neg (by omega), if_neg (by omega)]
  refine yields_ite (fun _ => hquiet) fun hgrant => ?_
  dsimp only
  generalize hlast : decide (info.sdu.length - info.nextSo + cfg.headMaxSize ≤ grantLen) = isLast
  generalize hk : (if isLast = true then info.sdu.length - info.nextSo else grantLen - cfg.headMaxSize) = k
  -- the last piece has all that is left, the others have less
  have hlength : 0 < k ∧ k + cfg.headMaxSize ≤ grantLen ∧
      (isLast = true ∧ info.nextSo + k = info.sdu.length ∨ isLast = false ∧ info.nextSo + k < info.sdu.length) := by
    cases isLast with
    | true =>
      have hfits := of_decide_eq_true hlast
      rw [if_pos rfl] at hk
      exact ⟨by omega, by omega, .inl ⟨rfl, by omega⟩⟩
    | false =>
      have hlong := of_decide_eq_false hlast
      rw [if_neg Bool.false_ne_true] at hk
      exact ⟨by omega, by omega, .inr ⟨rfl, by omega⟩⟩
  obtain ⟨hkpos, hfits, hstop⟩ := hlength
  generalize hs₁ : (if isLast = true then { s with snUnderSegmentation := none } else s) = s₁
  have hfields : s₁.st = s.st ∧ s₁.txWindow = s.txWindow ∧ s₁.retxQueue = s.retxQueue ∧ s₁.sduQueue = s.sduQueue ∧
      s₁.snUnderSegmentation = if isLast = true then none else some sn := by
    rw [← hs₁]
    cases isLast with
    | true => exact ⟨rfl, rfl, rfl, rfl, rfl⟩
    | false => exact ⟨rfl, rfl, rfl, rfl, hunder⟩
  obtain ⟨hst₁, hwindow₁, hretx₁, hsdus₁, hunder₁⟩ := hfields
  obtain ⟨p, st, t, hpoll, hack, hnext⟩ := getPollingBit_spec cfg s₁ s₁.st.txNext false k
  obtain ⟨hmodify, hw, hfind⟩ := modifySn_eq h.window hinfo fun info => { info with nextSo := info.nextSo + k }
  have hself := (hfind sn).trans (if_pos rfl)
  rw [hpoll]
  dsimp only
  have hview : (sduView info.sdu (info.nextSo % 65536) k).length = k := length_sduView (by omega)
  rw [toNat_ofNat_so, if_neg (by omega), hwindow₁, hmodify]
  have hnextEq₁ : s₁.st.txNext = s.st.txNext := congrArg RlcTxAmState.txNext hst₁
  have hpart : ¬(⟨p, sn, info.nextSo, k, info.sdu⟩ : Piece).whole := by
    rintro ⟨hzero, -⟩
    dsimp only at hzero
    omega
  have hsi : (if isLast = true then RlcSiField.lastSegment else .middleSegment) =
      segmentSi info.nextSo k info.sdu.length := by
    unfold segmentSi
    obtain ⟨rfl, hend⟩ | ⟨rfl, hend⟩ := hstop
    · rw [if_pos rfl, if_neg (by omega), if_pos (by omega)]
    · rw [if_neg Bool.false_ne_true, if_neg (by omega), if_neg (by omega)]
  have hpiece : NewPiece cfg s grantLen
      { s₁ with
        st := { st with txNext := if isLast = true then (st.txNext + 1) % cfg.mod else st.txNext }
        pollRetransmitTimerRunning := t
        txWindow := s.txWindow.modify sn fun info => { info with nextSo := info.nextSo + k } }
      ⟨p, sn, info.nextSo, k, info.sdu⟩ := by
    refine ⟨hnextEq, hkpos, ?_, ?_, .inr ⟨hpos, hsdus₁, hunder, hv⟩, fun hall => ?_, fun hmore => ?_,
      core_modified hfind rfl, hw, hretx₁, ?_⟩
    · unfold Piece.stop
      dsimp only
      omega
    · apply Piece.length_pdu_le
      · unfold Piece.stop
        dsimp only
        omega
      · dsimp only
        rw [if_neg (by omega)]
        exact hfits
    · unfold Piece.stop at hall
      dsimp only at hall
      obtain ⟨rfl, -⟩ | ⟨-, hend⟩ := hstop
      · dsimp only
        rw [if_pos rfl, hnext, hnextEq₁]
        exact ⟨rfl, hunder₁⟩
      · omega
    · unfold Piece.stop at hmore
      dsimp only at hmore
      obtain ⟨-, hend⟩ | ⟨rfl, -⟩ := hstop
      · omega
      · dsimp only
        rw [if_neg Bool.false_ne_true, hnext, hnextEq₁]
        exact ⟨rfl, hunder₁, core_window.mpr ⟨_, hself, rfl⟩⟩
    · have hpollSn : getPollingBit cfg s₁ sn false k =
          (p, { s₁ with st := st, pollRetransmitTimerRunning := t }) := by
        rw [hnextEq, ← hnextEq₁]
        exact hpoll
      refine ⟨s₁, ?_, ?_, hst₁, rfl, rfl, rfl, (congrArg CircularMap.full hwindow₁).trans full_modify.symm⟩
      · rw [if_neg hpart, hpollSn]
      · rw [if_neg hpart, hpollSn]
  have hpdu := Pulled.piece _ hpiece
  unfold Piece.pdu at hpdu
  dsimp only at hpdu
  rw [hsi, hnext, hnextEq₁, ← hnextEq]
  rw [hnext, hnextEq₁, ← hnextEq] at hpdu
  exact hpdu

end Continued

lemma pullDataPdu_pulled (h : SegmentInv cfg s) (hretx : s.retxQueue.empty = true) :
    Yields (pullDataPdu cfg s grantLen) (Pulled cfg s grantLen) fun _ => True := by
  unfold pullDataPdu
  rw [hretx]
  refine yields_ite (fun hne => nomatch hne) fun _ => ?_
  cases hunder : s.snUnderSegmentation with
  | none =>
    have habsent : ∀ x, s.core.under = some x → s.core.window x = none := by
      intro x hx
      change s.snUnderSegmentation = some x at hx
      rw [hunder] at hx
      cases hx
    have hsame : ({ s with snUnderSegmentation := none } : RlcTxAmEntity) = s := by rw [← hunder]
    have hnew := buildNewPdu_pulled grantLen h.window habsent
    rw [hsame] at hnew
    exact yields_ite (fun hempty => .silent rfl rfl (.inl rfl) (.inl rfl) rfl (pulledSdu_of_isEmpty hempty)) fun _ => hnew
  | some sn =>
    dsimp only
    cases hinfo : s.txWindow.find? sn with
    | some info => exact buildContinuedSduSegment_pulled h hunder hinfo
    | none =>
      have habsent : ∀ x, s.core.under = some x → s.core.window x = none := by
        intro x hx
        change s.snUnderSegmentation = some x at hx
        rw [hunder] at hx
        rw [← Option.some.inj hx]
        exact core_window_eq_none.mpr hinfo
      exact yields_ite (fun hempty => .silent rfl rfl (.inr ⟨rfl, habsent⟩) (.inl rfl) rfl (pulledSdu_of_isEmpty hempty))
        fun _ => buildNewPdu_pulled grantLen h.window habsent

lemma NewPiece.pulledSdu {s' : RlcTxAmEntity} {piece : Piece} (h : NewPiece cfg s grantLen s' piece)
    (hreached : s.maxRetxReached = false) (hretx : s.retxQueue.empty = true) (hso : piece.so = 0) :
    ∃ sdu, pulledSdu cfg s none grantLen = some sdu ∧ sdu.buf = piece.sdu ∧
      s.sduQueue.read = (some sdu, s'.sduQueue) := by
  obtain ⟨-, ⟨sdu, hread, hsdu⟩, habsent, hroom⟩ | ⟨hpos, -⟩ := h.begins
  · refine ⟨sdu, ?_, hsdu, hread⟩
    have hmem := RlcSduQueue.read_mem.1 sdu (congrArg Prod.fst hread)
    have hsome : s.sduQueue.isEmpty = false := List.isEmpty_eq_false_iff.mpr (List.ne_nil_of_mem hmem)
    have hnone : s.snUnderSegmentation.bind s.txWindow.find? = none := by
      cases hunder : s.snUnderSegmentation with
      | none => rfl
      | some x => exact core_window_eq_none.mp (habsent x hunder)
    have hgrant : cfg.headMinSize < grantLen := by
      have hfits := h.fits
      have hpos := h.length_pos
      unfold Piece.pdu at hfits
      rw [List.length_append, length_rlcAmWriteDataPduHeader, length_sduView h.stop_le] at hfits
      unfold RlcTxAmConfig.headMinSize
      dsimp only at hfits
      omega
    unfold RlcTxAmEntity.pulledSdu newSdu
    rw [hreached, hretx, hnone, hsome, hroom, hread, if_neg (by simp), if_neg (by simp; omega)]
  · omega

lemma NewPiece.pulledSdu_eq_none {s' : RlcTxAmEntity} {piece : Piece} (h : NewPiece cfg s grantLen s' piece)
    (hso : 0 < piece.so) : RlcTxAmEntity.pulledSdu cfg s none grantLen = none := by
  obtain ⟨hzero, -⟩ | ⟨-, -, hunder, hwindow⟩ := h.begins
  · omega
  · obtain ⟨info, hinfo, -⟩ := core_window.mp hwindow
    unfold RlcTxAmEntity.pulledSdu
    rw [show s.snUnderSegmentation = some piece.sn from hunder, Option.bind_some, hinfo, Option.isSome_some, Bool.or_true,
      Bool.true_or, if_pos rfl]

lemma sendRetx_dropped (hw : WindowOk cfg s.txWindow) (retx : RlcTxAmdRetx) (info : RlcTxAmSduInfo) :
    Yields (sendRetx cfg s retx info grantLen) (fun res => Dropped cfg s res.1) fun _ => True := by
  unfold sendRetx
  refine yields_ite (fun _ => .of_core rfl hw RlcRetxQueue.pop_capacity fun _ hsdu => hsdu) fun _ =>
    yields_ite (fun _ => .of_core rfl hw rfl fun _ hsdu => hsdu) fun _ => ?_
  have hconsumed : Dropped cfg s (consumeRetx cfg { s with retxSn := some retx.sn } retx info
      (min retx.length (grantLen - getRetxExpectedHdrLen cfg retx))) := by
    unfold consumeRetx
    split
    · exact .of_core rfl hw RlcRetxQueue.pop_capacity fun _ hsdu => hsdu
    · exact .of_core rfl hw (RlcRetxQueue.replaceFront_capacity _) fun _ hsdu => hsdu
  dsimp only
  generalize consumeRetx cfg { s with retxSn := some retx.sn } retx info
    (min retx.length (grantLen - getRetxExpectedHdrLen cfg retx)) = s₁ at hconsumed ⊢
  obtain ⟨p, st, t, hpoll, hack, hnext⟩ := getPollingBit_spec cfg s₁ retx.sn true 0
  rw [hpoll]
  have hpolled : Dropped cfg s { s₁ with st := st, pollRetransmitTimerRunning := t } :=
    hconsumed.trans (.of_core (core_eq hack hnext rfl fun _ => rfl) hconsumed.window rfl fun _ hsdu => hsdu)
  exact yields_ite (fun _ => trivial) fun _ => yields_ite (fun _ => hpolled) fun _ => hpolled

lemma buildRetxPdu_dropped (hw : WindowOk cfg s.txWindow) :
    Yields (buildRetxPdu cfg s grantLen) (fun res => Dropped cfg s res.1) fun _ => True := by
  have hdropped : Dropped cfg s s.dropRetx := .of_core rfl hw (dropAbsentRetx_capacity _ _ _) fun _ hsdu => hsdu
  unfold buildRetxPdu
  dsimp only
  cases s.dropRetx.retxQueue.front with
  | none => exact hdropped
  | some retx =>
    refine yields_bind (yields_true _) fun info _ => ?_
    exact (sendRetx_dropped (s := s.dropRetx) hw retx info).post fun res hres => hdropped.trans hres

end Builders

section Runs

variable {cfg : RlcTxAmConfig} {s s' : RlcTxAmEntity} {grantLen : Nat}

lemma SegmentInv.dropped (h : SegmentInv cfg s) (hdropped : Dropped cfg s s') : SegmentInv cfg s' := by
  refine ⟨hdropped.window, fun sn hsn => ?_, hdropped.capacity.trans h.capacity⟩
  have hunder : s.core.under = some sn := hdropped.under.symm.trans hsn
  obtain ⟨hnext, hso⟩ := h.under sn hunder
  exact ⟨hnext.trans hdropped.txNext.symm, fun v hv => hso v (hdropped.infos sn v hv)⟩

lemma Pulled.segmentInv {res : RlcTxAmEntity × List UInt8} (hpulled : Pulled cfg s grantLen res)
    (h : SegmentInv cfg s) : SegmentInv cfg res.1 := by
  cases hpulled with
  | silent hst hwindow hunder hsdus hretx =>
    refine ⟨hwindow ▸ h.window, fun sn hsn => ?_, (congrArg _ hretx).trans h.capacity⟩
    obtain hsame | ⟨hnone, -⟩ := hunder
    · obtain ⟨hnext, hso⟩ := h.under sn (hsame.symm.trans hsn)
      refine ⟨hnext.trans (congrArg RlcTxAmState.txNext hst).symm, fun v hv => hso v ?_⟩
      obtain ⟨info, hinfo, hv'⟩ := core_window.mp hv
      exact core_window.mpr ⟨info, hwindow ▸ hinfo, hv'⟩
    · cases hnone.symm.trans hsn
  | empty sdu hread hnil hwindow hnext hunder hretx =>
    exact ⟨hwindow, fun sn hsn => (by cases hunder.symm.trans hsn), (congrArg _ hretx).trans h.capacity⟩
  | piece piece hpiece =>
    refine ⟨hpiece.window, fun sn hsn => ?_, (congrArg _ hpiece.retxQueue).trans h.capacity⟩
    obtain hall | hpart := Nat.eq_or_lt_of_le hpiece.stop_le
    · cases (hpiece.completed hall).2.symm.trans hsn
    · obtain ⟨hnext, hunder, hwindow⟩ := hpiece.continued hpart
      obtain rfl := Option.some.inj (hunder.symm.trans hsn)
      refine ⟨hpiece.sn.trans hnext.symm, fun v hv => ?_⟩
      obtain rfl := Option.some.inj (hwindow.symm.trans hv)
      exact ⟨Nat.add_pos_right _ hpiece.length_pos, hpart⟩

lemma pullPdu_segmentInv (h : SegmentInv cfg s) (statusPdu : Option RlcAmStatusPdu) :
    Yields (pullPdu cfg s statusPdu grantLen) (fun res => SegmentInv cfg res.1) fun _ => True := by
  unfold pullPdu
  refine yields_ite (fun _ => h) fun _ => ?_
  cases statusPdu with
  | some statusPdu => exact h
  | none =>
    cases hretx : s.retxQueue.empty with
    | true => exact (pullDataPdu_pulled h hretx).post fun res hres => hres.segmentInv h
    | false =>
      unfold pullDataPdu
      rw [hretx]
      exact (buildRetxPdu_dropped h.window).post fun res hres => h.dropped hres

lemma step_dropped (hw : WindowOk cfg s.txWindow) {e : TxAmEvent} (hsilent : e.silent = true) :
    Yields (step cfg s e) (Dropped cfg s) fun _ => True := by
  cases e with
  | handleSdu sduBuf isRetx => cases hsilent
  | discardSdu pdcpSn => exact Dropped.of_core rfl hw rfl fun _ hsdu => RlcSduQueue.tryDiscard_queue ▸ hsdu
  | pullPdu statusPdu grantLen => cases hsilent
  | onStatusPdu buf =>
    change Yields (onStatusPdu cfg s buf) _ _
    unfold onStatusPdu
    cases hread : decoded cfg buf with
    | none => exact Dropped.refl hw
    | some status => exact handleStatusPdu_dropped hw (decoded_sn hread)
  | pollRetransmitTimerExpires =>
    have hstopped : Dropped cfg s { s with pollRetransmitTimerRunning := false } := .of_core rfl hw rfl fun _ hsdu => hsdu
    exact yields_ite (fun _ => (onExpiredPollRetransmitTimer_dropped hstopped.window).post fun s' hs' =>
      hstopped.trans hs') fun _ => .refl hw
  | updateMacBufferState => exact updateMacBufferState_dropped hw

lemma step_segmentInv (h : SegmentInv cfg s) (e : TxAmEvent) :
    Yields (step cfg s e) (SegmentInv cfg) fun _ => True := by
  cases hsilent : e.silent with
  | true => exact (step_dropped h.window hsilent).post fun s' hs' => h.dropped hs'
  | false =>
    cases e with
    | handleSdu sduBuf isRetx => exact ⟨h.window, h.under, h.capacity⟩
    | pullPdu statusPdu grantLen => exact yields_bind (pullPdu_segmentInv h statusPdu) fun _ hres => hres
    | discardSdu pdcpSn => cases hsilent
    | onStatusPdu buf => cases hsilent
    | pollRetransmitTimerExpires => cases hsilent
    | updateMacBufferState => cases hsilent

lemma run_segmentInv {es : List TxAmEvent} (hrun : runEvents (step cfg) (init cfg) es = .ok s) : SegmentInv cfg s := by
  have hinit : SegmentInv cfg (init cfg) := ⟨init_txInv.window, fun _ hsn => (nomatch hsn), rfl⟩
  have hall : Yields (runEvents (step cfg) (init cfg) es) (SegmentInv cfg) fun _ => True :=
    runEvents_yields (C := fun _ => True) (SegmentInv cfg) (fun s e _ hs => step_segmentInv hs e)
      (fun _ _ => trivial) hinit
  exact hall.of_ok hrun

end Runs

end RlcTxAmEntity

end OwlsRan.Rlc
