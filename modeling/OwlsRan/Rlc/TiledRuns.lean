import OwlsRan.Rlc.SegmentTiling

/-!
# Runs of the transmitter with the log of its PDUs

Each step keeps the tiling of the SDUs by the PDUs with new data.
-/

namespace OwlsRan.Rlc
open OwlsRan.Lib OwlsRan.Adt

namespace RlcTxAmEntity

section NewData

variable {cfg : RlcTxAmConfig} {s s' : RlcTxAmEntity} {log log' : SentLog} {grantLen : Nat}
  {sent : List (List UInt8 × List (List UInt8))} {current : List (List UInt8)}

lemma underSdu_of_window {sn : Nat} {v : SentSdu} (hunder : s.core.under = some sn) (hv : s.core.window sn = some v) :
    underSdu s = [v.sdu] := by
  obtain ⟨info, hinfo, rfl⟩ := core_window.mp hv
  unfold underSdu
  rw [show s.snUnderSegmentation = some sn from hunder, Option.bind_some, hinfo]
  rfl

lemma underSdu_of_none (hunder : s.snUnderSegmentation = none) : underSdu s = [] := by
  unfold underSdu
  rw [hunder]
  rfl

/-- What is not sent leaves the tiling as it is, if the SDU under segmentation stays in the window. -/
lemma Tiling.dropped (h : Tiling cfg (s, log) sent current) (hdropped : Dropped cfg s s')
    (hexact : s'.core.Exact cfg.sizes) (hnewData : log'.newData = log.newData) (hsdus : log'.sdus = log.sdus) :
    Tiling cfg (s', log') sent current := by
  have hunderSdu : underSdu s' = underSdu s := by
    cases hunder : s'.snUnderSegmentation with
    | none => rw [underSdu_of_none hunder, underSdu_of_none (hdropped.under ▸ hunder)]
    | some sn =>
      obtain ⟨v, hv⟩ := hexact.under_present sn hunder
      have hunder' : s.core.under = some sn := hdropped.under.symm.trans hunder
      rw [underSdu_of_window hunder hv, underSdu_of_window hunder' (hdropped.infos sn v hv)]
  refine ⟨hnewData.trans h.newData, ?_, hdropped.txNext.trans h.txNext, h.covered, fun hnone => ?_, fun sn hsn => ?_,
    fun sn v hv => ?_⟩
  · dsimp only
    rw [hsdus, hunderSdu]
    exact h.sdus
  · exact h.idle (hdropped.under.symm.trans hnone)
  · obtain ⟨v, hv⟩ := hexact.under_present sn hsn
    obtain ⟨info, hinfo, hcovers⟩ := h.segmented sn (hdropped.under.symm.trans hsn)
    obtain ⟨info', hinfo', rfl⟩ := core_window.mp hv
    obtain ⟨info'', hinfo'', hsame⟩ := core_window.mp (hdropped.infos sn _ hv)
    obtain rfl := Option.some.inj (hinfo.symm.trans hinfo'')
    obtain ⟨hsdu, hso⟩ := SentSdu.mk.inj hsame
    refine ⟨info', hinfo', ?_⟩
    rw [← hsdu, ← hso]
    exact hcovers
  · obtain ⟨i, hi, hsdu⟩ := h.window sn v (hdropped.infos sn v hv)
    refine ⟨i, hi, ?_⟩
    dsimp only
    rw [hsdus]
    exact hsdu

/-- The SDU of a piece has been taken from the queue before, or is now. Its pieces so far cover what is before the piece. -/
lemma Tiling.before (h : Tiling cfg (s, log) sent current) (hinv : TileInv cfg s) (hreached : s.maxRetxReached = false)
    (hretx : s.retxQueue.queue = []) {piece : Piece} (hpiece : NewPiece cfg s grantLen s' piece) :
    (log.addSdu (pulledSdu cfg s none grantLen)).sdus = sent.map Prod.fst ++ [piece.sdu] ∧
      Covers cfg.snFieldLength (sent.length % cfg.mod) piece.sdu 0 current piece.so := by
  obtain ⟨hso, -, habsent, -⟩ | ⟨hso, -, hunder, hwindow⟩ := hpiece.begins
  · obtain ⟨sdu, hpulled, hsdu, -⟩ := hpiece.pulledSdu hreached (List.isEmpty_iff.mpr hretx) hso
    have hnone : s.snUnderSegmentation = none := by
      cases hunder : s.snUnderSegmentation with
      | none => rfl
      | some x =>
        obtain ⟨v, hv⟩ := hinv.exact.under_present x hunder
        cases (habsent x hunder).symm.trans hv
    constructor
    · have hsdus := h.sdus
      rw [underSdu_of_none hnone, List.append_nil] at hsdus
      unfold SentLog.addSdu
      rw [hpulled]
      dsimp only at hsdus ⊢
      rw [hsdus, ← hsdu]
      rfl
    · rw [h.idle hnone, hso]
      exact .nil ..
  · constructor
    · have hsdus := h.sdus
      rw [underSdu_of_window hunder hwindow] at hsdus
      unfold SentLog.addSdu
      rw [hpiece.pulledSdu_eq_none hso]
      exact (List.append_nil _).trans hsdus
    · obtain ⟨info, hinfo, hcovers⟩ := h.segmented _ hunder
      obtain ⟨info', hinfo', hsame⟩ := core_window.mp hwindow
      obtain rfl := Option.some.inj (hinfo.symm.trans hinfo')
      obtain ⟨hsdu, hnextSo⟩ := SentSdu.mk.inj hsame
      rw [hsdu, hnextSo] at hcovers
      exact hcovers

lemma Tiling.piece (h : Tiling cfg (s, log) sent current) (hinv : TileInv cfg s) (hreached : s.maxRetxReached = false)
    (hretx : s.retxQueue.queue = []) {piece : Piece} (hpiece : NewPiece cfg s grantLen s' piece) :
    NewDataTiled cfg (s', (log.addSdu (pulledSdu cfg s none grantLen)).add false (piece.pdu cfg.snFieldLength)) := by
  obtain ⟨hsdus, hcovers⟩ := h.before hinv hreached hretx hpiece
  have hsn : piece.sn = sent.length % cfg.mod := hpiece.sn.trans h.txNext
  have hstop := hpiece.stop_le
  have hpos := hpiece.length_pos
  have hsize := hinv.sdu_le hpiece
  have hcarries : CarriesBytes cfg.snFieldLength (sent.length % cfg.mod) piece.sdu (piece.so, piece.length)
      (piece.pdu cfg.snFieldLength) := by
    rw [← hsn]
    refine Piece.carries piece (hsn ▸ Nat.mod_lt _ mod_pos) hpos hstop ?_
    unfold Piece.stop at hstop
    omega
  have hmore := hcovers.concat hpos hcarries
  -- the log has one more PDU
  have hlog : (log.addSdu (pulledSdu cfg s none grantLen)).add false (piece.pdu cfg.snFieldLength) =
      { log.addSdu (pulledSdu cfg s none grantLen) with newData := log.newData ++ [piece.pdu cfg.snFieldLength] } := by
    unfold SentLog.add
    rw [if_neg hcarries.ne_nil, if_neg Bool.false_ne_true]
    rfl
  have hnewData : log.newData ++ [piece.pdu cfg.snFieldLength] =
      (sent.map Prod.snd).flatten ++ (current ++ [piece.pdu cfg.snFieldLength]) := by
    rw [h.newData, List.append_assoc]
  have hwindow : ∀ sn v, s'.core.window sn = some v → ∃ i, i % cfg.mod = sn ∧
      (log.addSdu (pulledSdu cfg s none grantLen)).sdus[i]? = some v.sdu := by
    intro sn v hv
    obtain ⟨rfl, hsdu⟩ | hold := hpiece.others sn v hv
    · refine ⟨sent.length, hsn.symm, ?_⟩
      rw [hsdus, hsdu, List.getElem?_append_right (by rw [List.length_map]), List.length_map, Nat.sub_self]
      rfl
    · obtain ⟨i, hi, hsdu⟩ := h.window sn v hold
      exact ⟨i, hi, (List.getElem?_append_left (List.getElem?_eq_some_iff.mp hsdu).1).trans hsdu⟩
  rw [hlog]
  obtain hall | hpart := Nat.eq_or_lt_of_le hstop
  · -- the SDU has been sent
    obtain ⟨hnext, hunder⟩ := hpiece.completed hall
    have hend : piece.so + piece.length = piece.sdu.length := hall
    rw [hend] at hmore
    refine ⟨sent ++ [(piece.sdu, current ++ [piece.pdu cfg.snFieldLength])], [], ?_, ?_, ?_, fun i sdu hi => ?_,
      fun _ => rfl, (fun sn hsome => by cases hunder.symm.trans hsome), hwindow⟩
    · rw [List.map_append, List.flatten_append, List.append_nil]
      simpa using hnewData
    · rw [underSdu_of_none hunder, List.append_nil, List.map_append]
      exact hsdus
    · rw [hnext, h.txNext, List.length_append, List.length_singleton, Nat.mod_add_mod]
    · rw [List.getElem?_append] at hi
      split at hi
      · exact h.covered i sdu hi
      case isFalse hge =>
        obtain ⟨hi, hsdu⟩ := List.getElem?_eq_some_iff.mp hi
        rw [List.length_singleton] at hi
        obtain rfl : i = sent.length := by omega
        rw [List.getElem_singleton] at hsdu
        subst hsdu
        exact hmore
  · -- some of the SDU is left
    obtain ⟨hnext, hunder, hv⟩ := hpiece.continued hpart
    refine ⟨sent, current ++ [piece.pdu cfg.snFieldLength], hnewData, ?_, hnext.trans h.txNext, h.covered,
      (fun hnone => by cases hnone.symm.trans hunder), fun sn hsome => ?_, hwindow⟩
    · rw [underSdu_of_window hunder hv]
      exact hsdus
    · obtain rfl := Option.some.inj (hunder.symm.trans hsome)
      obtain ⟨info, hinfo, hsame⟩ := core_window.mp hv
      obtain ⟨hsdu, hso⟩ := SentSdu.mk.inj hsame
      refine ⟨info, hinfo, ?_⟩
      rw [hsdu, hso]
      exact hmore

lemma Tiling.pulled (h : Tiling cfg (s, log) sent current) (hinv : TileInv cfg s) (hreached : s.maxRetxReached = false)
    (hretx : s.retxQueue.queue = []) {res : RlcTxAmEntity × List UInt8} (hpulled : Pulled cfg s grantLen res)
    (hexact : res.1.core.Exact cfg.sizes) :
    NewDataTiled cfg (res.1, (log.addSdu (pulledSdu cfg s none grantLen)).add false res.2) := by
  obtain ⟨hqueued, -⟩ := hinv.pulled_sizes hpulled
  have hsegment := hpulled.segmentInv hinv.segment
  cases hpulled with
  | @silent s' hst hwindow hunder hsdus hretx hnone =>
    have hsame : s'.snUnderSegmentation = s.snUnderSegmentation := by
      obtain hsame | ⟨hnone, habsent⟩ := hunder
      · exact hsame
      · cases hunder : s.snUnderSegmentation with
        | none => exact hnone
        | some x =>
          obtain ⟨v, hv⟩ := hinv.exact.under_present x hunder
          cases (habsent x hunder).symm.trans hv
    have hinfos : ∀ sn v, s'.core.window sn = some v → s.core.window sn = some v := by
      intro sn v hv
      obtain ⟨info, hinfo, hv'⟩ := core_window.mp hv
      exact core_window.mpr ⟨info, hwindow ▸ hinfo, hv'⟩
    have hleft : ∀ sdu ∈ s'.sduQueue.queue, sdu ∈ s.sduQueue.queue := by
      intro sdu hsdu
      obtain hsame | hread := hsdus
      · exact hsame ▸ hsdu
      · apply RlcSduQueue.read_mem.2
        rw [hread]
        exact hsdu
    have hdropped : Dropped cfg s s' :=
      ⟨hsegment.window, congrArg RlcTxAmState.txNext hst, hsame, hinfos, congrArg _ hretx, hleft⟩
    rw [hnone]
    exact ⟨sent, current, h.dropped hdropped hexact rfl (List.append_nil _)⟩
  | empty sdu hread hnil =>
    have hpos := (hinv.queued sdu (RlcSduQueue.read_mem.1 sdu (congrArg Prod.fst hread))).1
    rw [hnil] at hpos
    exact absurd hpos (Nat.lt_irrefl 0)
  | piece piece hpiece => exact h.piece hinv hreached hretx hpiece

end NewData

section Steps

variable {cfg : RlcTxAmConfig} {s s' : RlcTxAmEntity} {x y : RlcTxAmEntity × SentLog} {e : TxAmEvent} {grantLen : Nat}
  {retx : RlcTxAmdRetx} {rest : List RlcTxAmdRetx} {info : RlcTxAmSduInfo}

lemma step_tileInv (h : TileInv cfg s) (hsilent : e.silent = true) (hunder : ¬EventAcksUnder cfg s e) :
    Yields (step cfg s e) (fun s' => TileInv cfg s' ∧ Dropped cfg s s') fun _ => True := by
  refine ((step_exact h.inv h.exact ⟨h.takesBytes e, hunder⟩).and (step_dropped h.segment.window hsilent)).post
    fun s' hs' => ?_
  obtain ⟨⟨hinv, hexact⟩, hdropped⟩ := hs'
  exact ⟨h.dropped hdropped hinv hexact, hdropped⟩

lemma TileInv.handleSdu (h : TileInv cfg s) {sduBuf : List UInt8} (isRetx : Bool)
    (hlen : 0 < sduBuf.length ∧ sduBuf.length ≤ 65536) : TileInv cfg (s.handleSdu cfg sduBuf isRetx) := by
  refine ⟨h.inv.of_core rfl h.inv.window fun _ hr => hr, h.exact,
    ⟨h.segment.window, h.segment.under, h.segment.capacity⟩, fun sdu hsdu => ?_, h.sizes⟩
  obtain hold | rfl := RlcSduQueue.write_mem sdu hsdu
  · exact h.queued sdu hold
  · exact hlen

lemma sentStep_silent (hsilent : e.silent = true) {Q : RlcTxAmEntity → Prop} (h : Yields (step cfg x.1 e) Q fun _ => True) :
    Yields (sentStep cfg x e) (fun y => Q y.1 ∧ y.2 = x.2) fun _ => True := by
  cases e with
  | handleSdu sduBuf isRetx => cases hsilent
  | pullPdu statusPdu grantLen => cases hsilent
  | discardSdu pdcpSn => exact yields_bind h fun s' hs' => ⟨hs', rfl⟩
  | onStatusPdu buf => exact yields_bind h fun s' hs' => ⟨hs', rfl⟩
  | pollRetransmitTimerExpires => exact yields_bind h fun s' hs' => ⟨hs', rfl⟩
  | updateMacBufferState => exact yields_bind h fun s' hs' => ⟨hs', rfl⟩

lemma SentLog.add_nil (log : SentLog) (isRetx : Bool) : log.add isRetx [] = log := if_pos rfl

lemma Tiling.retransmitted {sent : List (List UInt8 × List (List UInt8))} {current : List (List UInt8)} {log : SentLog}
    (h : Tiling cfg (s, log) sent current) (hdropped : Dropped cfg s s') (hexact : s'.core.Exact cfg.sizes)
    (hretx : s.retxQueue.queue = retx :: rest) (pdu : List UInt8) :
    Tiling cfg (s', (log.addSdu (pulledSdu cfg s none grantLen)).add (!s.retxQueue.empty) pdu) sent current := by
  have hsome : s.retxQueue.empty = false := by
    unfold RlcRetxQueue.empty
    rw [hretx]
    rfl
  have hnone : pulledSdu cfg s none grantLen = none := by
    unfold pulledSdu
    rw [hsome, if_pos (by simp)]
  have hsame : (log.addSdu none).sdus = log.sdus := List.append_nil _
  rw [hnone, hsome]
  unfold SentLog.add
  split
  · exact h.dropped hdropped hexact rfl hsame
  · exact h.dropped hdropped hexact rfl hsame

lemma pulledSdu_of_reached (hreached : s.maxRetxReached = true) : pulledSdu cfg s none grantLen = none := by
  unfold pulledSdu
  rw [hreached, if_pos (by simp)]

lemma pullPdu_status (s : RlcTxAmEntity) (statusPdu : RlcAmStatusPdu) (grantLen : Nat) :
    Yields (step cfg s (.pullPdu (some statusPdu) grantLen)) (fun s' => s' = s) fun _ => True := by
  have hsame : Yields (s.pullPdu cfg (some statusPdu) grantLen) (fun res => res.1 = s) fun _ => True := by
    unfold pullPdu
    exact yields_ite (fun _ => rfl) fun _ => rfl
  exact yields_bind hsame fun res hres => hres

lemma sentStep_yields (h : TileInv cfg x.1) (hsegmentable : Segmentable cfg x e) :
    Yields (sentStep cfg x e) (fun y => TileInv cfg y.1 ∧ (NewDataTiled cfg x → NewDataTiled cfg y)) fun _ => True := by
  obtain ⟨s, log⟩ := x
  have hquiet : e.silent = true → ¬EventAcksUnder cfg s e → Yields (sentStep cfg (s, log) e)
      (fun y => TileInv cfg y.1 ∧ (NewDataTiled cfg (s, log) → NewDataTiled cfg y)) fun _ => True := by
    intro hsilent hunder
    refine (sentStep_silent (x := (s, log)) hsilent (step_tileInv h hsilent hunder)).post fun y hy => ?_
    obtain ⟨s', log'⟩ := y
    obtain ⟨⟨hinv, hdropped⟩, rfl⟩ := hy
    refine ⟨hinv, ?_⟩
    rintro ⟨sent, current, htiling⟩
    exact ⟨sent, current, htiling.dropped hdropped hinv.exact rfl rfl⟩
  cases e with
  | handleSdu sduBuf isRetx =>
    refine ⟨h.handleSdu isRetx hsegmentable, ?_⟩
    rintro ⟨sent, current, htiling⟩
    exact ⟨sent, current, htiling.newData, htiling.sdus, htiling.txNext, htiling.covered, htiling.idle,
      htiling.segmented, htiling.window⟩
  | discardSdu pdcpSn => exact hquiet rfl id
  | onStatusPdu buf => exact hquiet rfl hsegmentable
  | pollRetransmitTimerExpires => exact hquiet rfl id
  | updateMacBufferState => exact hquiet rfl id
  | pullPdu statusPdu grantLen =>
    cases statusPdu with
    | some statusPdu =>
      refine yields_bind (pullPdu_status s statusPdu grantLen) fun s' hs' => ?_
      rw [hs']
      exact ⟨h, id⟩
    | none =>
      refine yields_bind h.pullPdu ?_
      rintro ⟨s', pdu⟩ ⟨hinv, hsent⟩
      refine ⟨hinv, ?_⟩
      rintro ⟨sent, current, htiling⟩
      obtain ⟨hreached, hres⟩ | ⟨hreached, hdata⟩ := hsent
      · obtain ⟨rfl, rfl⟩ := Prod.mk.inj hres
        dsimp only
        rw [SentLog.add_nil, pulledSdu_of_reached hreached]
        exact ⟨sent, current, htiling.dropped (.refl h.segment.window) h.exact rfl (List.append_nil _)⟩
      · cases hdata with
        | new hretx hpulled =>
          have hnone : s.retxQueue.empty = true := List.isEmpty_iff.mpr hretx
          dsimp only
          rw [hnone]
          exact htiling.pulled h hreached hretx hpulled hinv.exact
        | retx hqueue hinfo hdropped hsent =>
          exact ⟨sent, current, htiling.retransmitted hdropped hinv.exact hqueue pdu⟩

lemma TileInv.present (h : TileInv cfg s) : ∀ r ∈ s.retxQueue.queue, SduWindow.hasSn s.txWindow r.sn = true := by
  intro r hr
  obtain ⟨info, hinfo, -⟩ := h.front hr
  exact SduWindow.hasSn_iff.mpr ⟨info, hinfo⟩

lemma onExpiredPollRetransmitTimer_queue (hw : WindowOk cfg s.txWindow)
    (hpresent : ∀ r ∈ s.retxQueue.queue, SduWindow.hasSn s.txWindow r.sn = true) :
    Yields (onExpiredPollRetransmitTimer cfg s) (fun s' => s.retxQueue.queue <+: s'.retxQueue.queue) fun _ => True := by
  unfold onExpiredPollRetransmitTimer
  refine yields_ite (fun _ => ?_) fun _ => List.prefix_refl _
  cases hinfo : s.txWindow.find? s.st.txNextAck with
  | none => exact List.prefix_refl _
  | some info =>
    dsimp only
    split
    case h_1 q hq =>
      obtain rfl := (congrArg Prod.snd hq).symm
      have hqueue := RlcRetxQueue.pushAll_queue (q := s.retxQueue) [⟨s.st.txNextAck, 0, info.sdu.length⟩]
      refine yields_bind (incrementRetxCount_requested (by exact hw) s.st.txNextAck) fun s₁ hs₁ => ?_
      have hsame : s₁.retxQueue.queue = (s.retxQueue.pushAll [⟨s.st.txNextAck, 0, info.sdu.length⟩]).queue :=
        congrArg RlcRetxQueue.queue hs₁.retxQueue
      have hkept : (s₁.updateMacBufferState cfg).retxQueue = s₁.retxQueue := by
        apply updateMacBufferState_retxQueue
        intro r hr
        rw [hasSn_congr hs₁.core]
        rw [hsame, hqueue] at hr
        rcases List.mem_append.mp hr with hold | hnew
        · exact hpresent r hold
        · rw [List.mem_singleton.mp (List.mem_of_mem_take hnew)]
          exact SduWindow.hasSn_iff.mpr ⟨info, hinfo⟩
      change s.retxQueue.queue <+: (s₁.updateMacBufferState cfg).retxQueue.queue
      rw [hkept, hsame, hqueue]
      exact List.prefix_append _ _
    case h_2 =>
      change s.retxQueue.queue <+: (s.updateMacBufferState cfg).retxQueue.queue
      rw [updateMacBufferState_retxQueue hpresent]

inductive RetxStep (cfg : RlcTxAmConfig) (retx : RlcTxAmdRetx) (sdu : List UInt8) (x y : RlcTxAmEntity × SentLog) : Prop
  | kept (rest : List RlcTxAmdRetx) (hqueue : y.1.retxQueue.queue = retx :: rest) (hlog : y.2.retx = x.2.retx)
  | sent (length : Nat) (rest : List RlcTxAmdRetx) (pdu : List UInt8) (hpos : 0 < length) (hle : length ≤ retx.length)
      (hqueue : y.1.retxQueue.queue = retxLeft retx length ++ rest)
      (hcarries : CarriesBytes cfg.snFieldLength retx.sn sdu (retx.so, length) pdu) (hlog : y.2.retx = x.2.retx ++ [pdu])

lemma RetxStep.of_isPrefix {sdu : List UInt8} (hqueue : x.1.retxQueue.queue = retx :: rest)
    (hstart : x.1.retxQueue.queue <+: y.1.retxQueue.queue) (hlog : y.2.retx = x.2.retx) : RetxStep cfg retx sdu x y := by
  obtain ⟨more, hmore⟩ := hstart
  rw [hqueue] at hmore
  exact .kept (rest ++ more) hmore.symm hlog

lemma sentStep_retx (h : TileInv cfg x.1) (hqueue : x.1.retxQueue.queue = retx :: rest)
    (hinfo : x.1.txWindow.find? retx.sn = some info) (hstatus : ∀ buf, e ≠ .onStatusPdu buf) :
    Yields (sentStep cfg x e) (RetxStep cfg retx info.sdu x) fun _ => True := by
  obtain ⟨s, log⟩ := x
  cases e with
  | handleSdu sduBuf isRetx => exact .kept rest hqueue rfl
  | discardSdu pdcpSn => exact .kept rest hqueue rfl
  | onStatusPdu buf => exact absurd rfl (hstatus buf)
  | pollRetransmitTimerExpires =>
    have hexpired : Yields (pollRetransmitTimerExpires cfg s) (fun s' => s.retxQueue.queue <+: s'.retxQueue.queue)
        fun _ => True :=
      yields_ite (fun _ => onExpiredPollRetransmitTimer_queue (s := { s with pollRetransmitTimerRunning := false })
        h.segment.window h.present) fun _ => List.prefix_refl _
    exact yields_bind hexpired fun s' hs' => .of_isPrefix hqueue hs' rfl
  | updateMacBufferState =>
    refine .kept rest ?_ rfl
    change (s.updateMacBufferState cfg).retxQueue.queue = _
    rw [updateMacBufferState_retxQueue h.present]
    exact hqueue
  | pullPdu statusPdu grantLen =>
    cases statusPdu with
    | some statusPdu =>
      refine yields_bind (pullPdu_status s statusPdu grantLen) fun s' hs' => ?_
      rw [hs']
      exact .kept rest hqueue rfl
    | none =>
      have hsome : s.retxQueue.empty = false := by
        unfold RlcRetxQueue.empty
        rw [hqueue]
        rfl
      refine yields_bind h.pullPdu ?_
      rintro ⟨s', pdu⟩ ⟨hinv, ⟨hreached, hres⟩ | ⟨hreached, hdata⟩⟩
      · obtain ⟨rfl, rfl⟩ := Prod.mk.inj hres
        dsimp only
        rw [SentLog.add_nil]
        exact .kept rest hqueue rfl
      · cases hdata with
        | new hretx hpulled => cases hqueue.symm.trans hretx
        | retx hqueue' hinfo' hdropped hsent =>
          obtain ⟨rfl, rfl⟩ := List.cons.inj (hqueue.symm.trans hqueue')
          obtain rfl := Option.some.inj (hinfo.symm.trans hinfo')
          dsimp only
          rw [hsome]
          obtain ⟨hnil, hkept⟩ | ⟨length, hpos, hle, hleft, hcarries⟩ := hsent.part
          · dsimp only at hnil
            rw [hnil, SentLog.add_nil]
            exact .kept _ hkept rfl
          · refine .sent length _ pdu hpos hle hleft hcarries ?_
            unfold SentLog.add
            rw [if_neg hcarries.ne_nil]
            rfl

lemma sentStep_log (hstep : sentStep cfg x e = .ok y) : ∃ more, y.2.retx = x.2.retx ++ more := by
  have hgrows : ∀ (log : SentLog) isRetx pdu, ∃ more, (log.add isRetx pdu).retx = log.retx ++ more := by
    intro log isRetx pdu
    unfold SentLog.add
    split_ifs
    · exact ⟨[], (List.append_nil _).symm⟩
    · exact ⟨[pdu], rfl⟩
    · exact ⟨[], (List.append_nil _).symm⟩
  have hsame : ∀ {s' : RlcTxAmEntity}, (Except.ok (s', x.2) : Except RlcAbort _) = .ok y →
      ∃ more, y.2.retx = x.2.retx ++ more := by
    intro s' hy
    obtain rfl := Except.ok.inj hy
    exact ⟨[], (List.append_nil _).symm⟩
  unfold sentStep at hstep
  split at hstep
  · obtain ⟨⟨s', pdu⟩, -, hy⟩ := bind_eq_ok.mp hstep
    obtain rfl := Except.ok.inj hy
    exact hgrows _ _ _
  · obtain ⟨s', -, hy⟩ := bind_eq_ok.mp hstep
    exact hsame hy

lemma run_log {es : List TxAmEvent} (hrun : runEvents (sentStep cfg) x es = .ok y) :
    ∃ more, y.2.retx = x.2.retx ++ more := by
  induction es generalizing x with
  | nil =>
    obtain rfl := Except.ok.inj hrun
    exact ⟨[], (List.append_nil _).symm⟩
  | cons e es ih =>
    obtain ⟨x', hstep, hrest⟩ := runEvents_cons_ok.mp hrun
    obtain ⟨first, hfirst⟩ := sentStep_log hstep
    obtain ⟨more, hmore⟩ := ih hrest
    exact ⟨first ++ more, by rw [hmore, hfirst, List.append_assoc]⟩

lemma sentStep_sdu (h : TileInv cfg x.1) (hqueue : x.1.retxQueue.queue = retx :: rest) (hinfo : x.1.txWindow.find? retx.sn = some info) :
    Yields (sentStep cfg x e) (fun y => ∀ info', y.1.txWindow.find? retx.sn = some info' → info'.sdu = info.sdu)
      fun _ => True := by
  obtain ⟨s, log⟩ := x
  have hsame : ∀ s' : RlcTxAmEntity, Dropped cfg s s' →
      ∀ info', s'.txWindow.find? retx.sn = some info' → info'.sdu = info.sdu := by
    intro s' hdropped info' hinfo'
    have hv := hdropped.infos retx.sn ⟨info'.sdu, info'.nextSo⟩ (core_window.mpr ⟨info', hinfo', rfl⟩)
    obtain ⟨info₀, hinfo₀, hv'⟩ := core_window.mp hv
    obtain rfl := Option.some.inj (hinfo.symm.trans hinfo₀)
    exact (SentSdu.mk.inj hv').1.symm
  have hkept : ∀ info', s.txWindow.find? retx.sn = some info' → info'.sdu = info.sdu :=
    hsame s (.refl h.segment.window)
  cases hsilent : e.silent with
  | true =>
    exact (sentStep_silent (x := (s, log)) hsilent (step_dropped h.segment.window hsilent)).post
      fun y hy => hsame y.1 hy.1
  | false =>
    cases e with
    | handleSdu sduBuf isRetx => exact hkept
    | pullPdu statusPdu grantLen =>
      cases statusPdu with
      | some statusPdu =>
        exact yields_bind (pullPdu_status s statusPdu grantLen) fun s' hs' => hs' ▸ hkept
      | none =>
        refine yields_bind h.pullPdu ?_
        rintro ⟨s', pdu⟩ ⟨-, ⟨-, hres⟩ | ⟨-, hdata⟩⟩
        · obtain ⟨rfl, -⟩ := Prod.mk.inj hres
          exact hkept
        · cases hdata with
          | new hretx hpulled => cases hqueue.symm.trans hretx
          | retx hqueue' hinfo' hdropped hsent => exact hsame s' hdropped
    | discardSdu pdcpSn => cases hsilent
    | onStatusPdu buf => cases hsilent
    | pollRetransmitTimerExpires => cases hsilent
    | updateMacBufferState => cases hsilent

/-- As long as no STATUS PDU arrives, the first retransmission of the queue is tiled. The induction is on the events, for
what is left of the retransmission. -/
lemma run_elementTiled {es : List TxAmEvent} (h : TileInv cfg x.1)
    (hqueue : x.1.retxQueue.queue = retx :: rest) (hinfo : x.1.txWindow.find? retx.sn = some info)
    (hstatus : ∀ buf, .onStatusPdu buf ∉ es) (hwithin : RunsWithin (sentStep cfg) (Segmentable cfg) x es)
    (hrun : runEvents (sentStep cfg) x es = .ok y) : ElementTiled cfg retx info.sdu x.2.retx y := by
  induction es generalizing x retx rest info with
  | nil =>
    obtain rfl := Except.ok.inj hrun
    refine ⟨0, Nat.zero_le _, [], [], ?_, .nil .., .inr ⟨rfl, rest, hqueue⟩⟩
    rw [List.append_nil, List.append_nil]
  | cons e es ih =>
    obtain ⟨x', hstep, hrest⟩ := runEvents_cons_ok.mp hrun
    have hne : ∀ buf, e ≠ .onStatusPdu buf := fun buf heq => hstatus buf (heq ▸ List.mem_cons_self)
    obtain ⟨hinv, -⟩ := (sentStep_yields h hwithin.1).of_ok hstep
    have hsdu := (sentStep_sdu h hqueue hinfo).of_ok hstep
    have hstatus' : ∀ buf, .onStatusPdu buf ∉ es := fun buf hbuf => hstatus buf (List.mem_cons_of_mem _ hbuf)
    cases (sentStep_retx h hqueue hinfo hne).of_ok hstep with
    | kept rest' hqueue' hlog =>
      obtain ⟨info', hinfo', -⟩ := hinv.front (hqueue' ▸ List.mem_cons_self)
      have htail := ih hinv hqueue' hinfo' hstatus' (hwithin.2 x' hstep) hrest
      rw [hsdu info' hinfo', hlog] at htail
      exact htail
    | sent length rest' pdu hpos hle hqueue' hcarries hlog =>
      have hone : Covers cfg.snFieldLength retx.sn info.sdu retx.so [pdu] (retx.so + length) :=
        .cons hpos hcarries (.nil ..)
      obtain rfl | hlt := Nat.eq_or_lt_of_le hle
      · -- all of it has been sent
        obtain ⟨more, hmore⟩ := run_log hrest
        exact ⟨retx.length, le_rfl, [pdu], more, by rw [hmore, hlog], hone, .inl rfl⟩
      · -- the rest of it is at the front of the queue
        unfold retxLeft at hqueue'
        rw [if_neg hlt.ne] at hqueue'
        have hrest' : ⟨retx.sn, retx.so + length, retx.length - length⟩ ∈ x'.1.retxQueue.queue :=
          hqueue' ▸ List.mem_cons_self
        obtain ⟨info', hinfo', -⟩ := hinv.front hrest'
        obtain ⟨n, hn, pdus, others, hpdus, hcovers, hleft⟩ :=
          ih hinv hqueue' hinfo' hstatus' (hwithin.2 x' hstep) hrest
        rw [hsdu info' hinfo'] at hcovers
        dsimp only at hn hcovers hleft
        have hend : retx.so + length + n = retx.so + (length + n) := Nat.add_assoc _ _ _
        refine ⟨length + n, by omega, pdu :: pdus, others, ?_, .cons hpos hcarries (hend ▸ hcovers), ?_⟩
        · rw [hpdus, hlog]
          simp
        · obtain hall | ⟨hnil, rest'', hqueue''⟩ := hleft
          · exact .inl (by omega)
          · refine .inr ⟨hnil, rest'', ?_⟩
            rw [hqueue'', hend, Nat.sub_sub]

lemma init_window (cfg : RlcTxAmConfig) {sn : Nat} {v : SentSdu} : (init cfg).core.window sn ≠ some v := by
  rw [init_core]
  exact Option.some_ne_none v ∘ Eq.symm

lemma init_tileInv (cfg : RlcTxAmConfig) : TileInv cfg (init cfg) :=
  ⟨init_txInv, init_exact, ⟨init_txInv.window, fun _ hsn => (nomatch hsn), rfl⟩, fun _ hsdu => (nomatch hsdu),
    fun _ _ hv => absurd hv (init_window cfg)⟩

lemma init_tiling (cfg : RlcTxAmConfig) : Tiling cfg (init cfg, .empty) [] [] where
  newData := rfl
  sdus := (underSdu_of_none (s := init cfg) rfl).symm
  txNext := (Nat.zero_mod _).symm
  covered := fun _ _ hi => nomatch hi
  idle := fun _ => rfl
  segmented := fun _ hsn => nomatch hsn
  window := fun _ _ hv => absurd hv (init_window cfg)

lemma TileInv.retxTiled (h : TileInv cfg s) : RetxTiled cfg s := by
  intro retx rest hqueue
  obtain ⟨info, hinfo, -⟩ := h.front (show retx ∈ s.retxQueue.queue from hqueue ▸ List.mem_cons_self)
  exact ⟨info, hinfo, fun es x hstatus hwithin hrun => run_elementTiled (x := (s, .empty)) h hqueue hinfo hstatus hwithin hrun⟩

end Steps

/-- In every run with SDUs of at most 65536 bytes in which no STATUS PDU acknowledges the SDU under segmentation, the PDUs
with new data tile the SDUs, and those for a retransmission tile its bytes. Each PDU fits the grant. -/
theorem segments_tile (cfg : RlcTxAmConfig) (es : List TxAmEvent)
    (h : RunsWithin (sentStep cfg) (Segmentable cfg) (init cfg, .empty) es) :
    HoldsThroughout (sentStep cfg) (fun x => NewDataTiled cfg x ∧ RetxTiled cfg x.1) (init cfg, .empty) es ∧
      RunsWithin (sentStep cfg) (FitsGrant cfg) (init cfg, .empty) es := by
  have hstart : TileInv cfg (init cfg) ∧ NewDataTiled cfg (init cfg, .empty) :=
    ⟨init_tileInv cfg, [], [], init_tiling cfg⟩
  refine runsWithin_establishes (fun x => TileInv cfg x.1 ∧ NewDataTiled cfg x) (fun x hx => ⟨hx.2, hx.1.retxTiled⟩)
    (fun x e y hx hC hy => ?_) (fun x e hx hC => hx.1.fitsGrant hC) hstart h
  obtain ⟨hinv, htiled⟩ := (sentStep_yields hx.1 hC).of_ok hy
  exact ⟨hinv, htiled hx.2⟩

instance (cfg : RlcTxAmConfig) (x : RlcTxAmEntity × SentLog) : ∀ e, Decidable (Segmentable cfg x e)
  | .handleSdu _ _ => inferInstanceAs (Decidable (_ ∧ _))
  | .onStatusPdu buf => inferInstanceAs (Decidable (¬EventAcksUnder cfg x.1 (.onStatusPdu buf)))
  | .pullPdu (some statusPdu) _ =>
    inferInstanceAs (Decidable (statusPdu.packedSize = RlcAmStatusPdu.sizeWith statusPdu.snSize statusPdu.nacks))
  | .pullPdu none _ | .discardSdu _ | .pollRetransmitTimerExpires | .updateMacBufferState => isTrue trivial

def resegmentedRun : List TxAmEvent :=
  [.handleSdu [0x80, 0, 1] false, .pullPdu none 3, .pullPdu none 6, .onStatusPdu [0, 1, 0x80, 0, 0], .pullPdu none 4,
    .pullPdu none 5]

theorem segments_tile_resegmented :
    (runEvents (sentStep shortSnConfig) (init shortSnConfig, .empty) resegmentedRun).toOption.map (fun x => x.2.retx) =
        some [[0x90, 0, 0x80, 0], [0xe0, 0, 0, 2, 1]] ∧
      RunsWithin (sentStep shortSnConfig) (FitsGrant shortSnConfig) (init shortSnConfig, .empty) resegmentedRun :=
  ⟨by decide +kernel, (segments_tile shortSnConfig resegmentedRun (by decide +kernel)).2⟩

def renumberedRun : List TxAmEvent :=
  [.handleSdu [0x80, 0, 1] false, .handleSdu [0x80, 1, 1] false, .pullPdu none 3, .onStatusPdu [0, 1, 0], .pullPdu none 20]

def longQueueConfig : RlcTxAmConfig := ⟨.size12bits, .size12bits, false, 45, 4, 4, 25, 16, shortSnConfig.queueSize_pos, 100000, 0⟩

def farSegmentRun : List TxAmEvent :=
  [.handleSdu (0x80 :: 0 :: List.replicate 65536 0) false, .pullPdu none 65539, .pullPdu none 20]

lemma not_covers_far {cfg : RlcTxAmConfig} {sn stop : Nat} {sdu p₁ p₂ : List UInt8} (hfar : 65539 ≤ p₁.length) : ¬Covers cfg.snFieldLength sn sdu 0 [p₁, p₂] stop := by
  rintro ⟨parts, htiles, hparts⟩
  obtain ⟨a, rest, h₁, hrest, rfl⟩ := List.forall₂_cons_right_iff.mp hparts
  obtain ⟨b, rest', h₂, hnil, rfl⟩ := List.forall₂_cons_right_iff.mp hrest
  cases htiles with
  | @cons _ n _ _ hn htiles =>
    cases htiles with
    | @cons _ m _ _ hm htiles =>
      obtain ⟨hdr₁, hread₁, -, -, hso₁, -, hbytes₁⟩ := h₁.read
      obtain ⟨hdr₂, hread₂, -, -, -, hso₂, -⟩ := h₂.read
      have hlt := hdr₂.so.toNat_lt
      have hpacked : hdr₁.getPackedSize ≤ 3 := by
        unfold RlcAmPduHeader.getPackedSize
        rw [if_neg fun hso => hso₁.mp hso rfl]
        cases hdr₁.snSize <;> decide
      have hlen := congrArg List.length hbytes₁
      rw [List.length_drop, List.length_take] at hlen
      dsimp only at hlen hso₂
      omega

/-- An SN is used for two SDUs, or an offset has more than 16 bits. -/
theorem segments_not_tiled :
    (∃ x, runEvents (sentStep shortSnConfig) (init shortSnConfig, .empty) renumberedRun = .ok x ∧
      ¬NewDataTiled shortSnConfig x) ∧
    ∃ x, runEvents (sentStep longQueueConfig) (init longQueueConfig, .empty) farSegmentRun = .ok x ∧
      ¬NewDataTiled longQueueConfig x := by
  have hrenumbered : ∃ x, runEvents (sentStep shortSnConfig) (init shortSnConfig, .empty) renumberedRun = .ok x ∧
      x.1.snUnderSegmentation = none ∧ x.1.st.txNext = 1 ∧ x.2.sdus.length = 2 := by
    decide +kernel
  have hfar : ∃ x, runEvents (sentStep longQueueConfig) (init longQueueConfig, .empty) farSegmentRun = .ok x ∧
      x.1.snUnderSegmentation = none ∧ x.2.sdus.length = 1 ∧ x.2.newData.map List.length = [65539, 5] := by
    decide +kernel
  constructor
  · obtain ⟨x, hx, hunder, hnext, hsdus⟩ := hrenumbered
    refine ⟨x, hx, ?_⟩
    rintro ⟨sent, current, h⟩
    have hlen := congrArg List.length h.sdus
    rw [underSdu_of_none hunder, List.append_nil, List.length_map, hsdus] at hlen
    have htwo := h.txNext
    rw [hnext, ← hlen] at htwo
    exact absurd htwo (by decide)
  · obtain ⟨x, hx, hunder, hsdus, hlengths⟩ := hfar
    refine ⟨x, hx, ?_⟩
    rintro ⟨sent, current, h⟩
    have hlen := congrArg List.length h.sdus
    rw [underSdu_of_none hunder, List.append_nil, List.length_map, hsdus] at hlen
    obtain ⟨⟨sdu, pdus⟩, rfl⟩ := List.length_eq_one_iff.mp hlen.symm
    have hnewData := h.newData
    rw [h.idle hunder, List.append_nil] at hnewData
    have hpdus : x.2.newData = pdus := by simpa using hnewData
    rw [hpdus] at hlengths
    obtain ⟨p₁, rest, rfl, hp₁, hrest⟩ := List.map_eq_cons_iff.mp hlengths
    obtain ⟨p₂, rest', rfl, -, hnil⟩ := List.map_eq_cons_iff.mp hrest
    obtain rfl := List.map_eq_nil_iff.mp hnil
    exact not_covers_far hp₁.ge (h.covered 0 _ rfl)

end RlcTxAmEntity

end OwlsRan.Rlc
