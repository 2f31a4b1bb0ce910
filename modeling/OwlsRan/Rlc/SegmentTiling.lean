import Mathlib.Data.List.Forall2
import OwlsRan.Lib.IntervalTiling
import OwlsRan.Rlc.PollingThresholds
import OwlsRan.Rlc.StatusTrim

/-!
# The bytes of an SDU in its PDUs

The PDUs with new data of one SDU tile the SDU, and the PDUs for one element of the queue of retransmissions tile the
bytes of the element.
-/

namespace OwlsRan.Rlc
open OwlsRan.Lib OwlsRan.Adt

namespace RlcTxAmEntity

/-- The PDU has the bytes of an SDU from an offset on. The header says so: it has the kind of the segment, and the offset
if that is not 0. -/
structure CarriesBytes (snSize : RlcAmSnSize) (sn : Nat) (sdu : List UInt8) (part : Nat × Nat) (pdu : List UInt8) :
    Prop where
  read : ∃ hdr, rlcAmReadDataPduHeader pdu snSize = .ok hdr ∧ hdr.sn = sn ∧
    hdr.si = segmentSi part.1 part.2 sdu.length ∧ (hdr.si.hasSo = true ↔ part.1 ≠ 0) ∧ hdr.so.toNat = part.1 ∧
    pdu.drop hdr.getPackedSize = (sdu.drop part.1).take part.2
  inside : part.1 + part.2 ≤ sdu.length

/-- The PDUs have the bytes of an SDU from one offset up to another one, each byte once and in order. -/
def Covers (snSize : RlcAmSnSize) (sn : Nat) (sdu : List UInt8) (first : Nat) (pdus : List (List UInt8)) (stop : Nat) :
    Prop :=
  ∃ parts, Tiles first parts stop ∧ List.Forall₂ (CarriesBytes snSize sn sdu) parts pdus

section Covering

variable {cfg : RlcTxAmConfig} {snSize : RlcAmSnSize} {sn first stop length : Nat} {sdu pdu : List UInt8}
  {pdus : List (List UInt8)}

lemma Covers.nil (snSize : RlcAmSnSize) (sn : Nat) (sdu : List UInt8) (first : Nat) :
    Covers snSize sn sdu first [] first := ⟨[], .nil _, .nil⟩

lemma Covers.concat (h : Covers snSize sn sdu first pdus stop) (hlen : 0 < length)
    (hpdu : CarriesBytes snSize sn sdu (stop, length) pdu) : Covers snSize sn sdu first (pdus ++ [pdu]) (stop + length) := by
  obtain ⟨parts, htiles, hparts⟩ := h
  exact ⟨parts ++ [(stop, length)], tiles_concat htiles hlen, List.rel_append hparts (.cons hpdu .nil)⟩

lemma Covers.cons (hlen : 0 < length) (hpdu : CarriesBytes snSize sn sdu (first, length) pdu)
    (h : Covers snSize sn sdu (first + length) pdus stop) : Covers snSize sn sdu first (pdu :: pdus) stop := by
  obtain ⟨parts, htiles, hparts⟩ := h
  exact ⟨(first, length) :: parts, .cons hlen htiles, .cons hpdu hparts⟩

lemma Piece.carries (piece : Piece) (hsn : piece.sn < cfg.mod) (hpos : 0 < piece.length)
    (hstop : piece.stop ≤ piece.sdu.length) (hso : piece.so < 65536) :
    CarriesBytes cfg.snFieldLength piece.sn piece.sdu (piece.so, piece.length) (piece.pdu cfg.snFieldLength) := by
  obtain ⟨hread, hlen⟩ := Piece.read hsn hpos hstop hso
  have hview : (sduView piece.sdu (piece.so % 65536) piece.length).length = piece.length := length_sduView hstop
  refine ⟨⟨_, hread, rfl, rfl, segmentSi_hasSo, ?_, ?_⟩, hstop⟩
  · rw [toNat_ofNat_so, Nat.mod_eq_of_lt hso]
  · unfold Piece.pdu at hlen ⊢
    rw [List.length_append, hview] at hlen
    rw [List.drop_left' (Nat.add_right_cancel hlen), Nat.mod_eq_of_lt hso]
    rfl

end Covering

/-- The data PDUs that have been sent, and the SDUs that have been taken from the queue. -/
structure SentLog where
  sdus : List (List UInt8)
  newData : List (List UInt8)
  retx : List (List UInt8)

namespace SentLog

def empty : SentLog := ⟨[], [], []⟩

def addSdu (log : SentLog) (sdu : Option RlcSdu) : SentLog := { log with sdus := log.sdus ++ (sdu.map RlcSdu.buf).toList }

def add (log : SentLog) (isRetx : Bool) (pdu : List UInt8) : SentLog :=
  if pdu = [] then log
  else if isRetx then { log with retx := log.retx ++ [pdu] }
  else { log with newData := log.newData ++ [pdu] }

end SentLog

def sentStep (cfg : RlcTxAmConfig) (x : RlcTxAmEntity × SentLog) : TxAmEvent → Except RlcAbort (RlcTxAmEntity × SentLog)
  | .pullPdu none grantLen => do
    let (s, pdu) ← x.1.pullPdu cfg none grantLen
    .ok (s, (x.2.addSdu (pulledSdu cfg x.1 none grantLen)).add (!x.1.retxQueue.empty) pdu)
  | e => do
    let s ← step cfg x.1 e
    .ok (s, x.2)

def underSdu (s : RlcTxAmEntity) : List (List UInt8) :=
  ((s.snUnderSegmentation.bind s.txWindow.find?).map RlcTxAmSduInfo.sdu).toList

/-- The SDUs that have been sent, and the part of the SDU under segmentation, tiled by their PDUs. These are the SDUs that
have been taken from the queue, with consecutive SNs. -/
structure Tiling (cfg : RlcTxAmConfig) (x : RlcTxAmEntity × SentLog) (sent : List (List UInt8 × List (List UInt8)))
    (current : List (List UInt8)) : Prop where
  newData : x.2.newData = (sent.map Prod.snd).flatten ++ current
  sdus : x.2.sdus = sent.map Prod.fst ++ underSdu x.1
  txNext : x.1.st.txNext = sent.length % cfg.mod
  covered : ∀ i sdu, sent[i]? = some sdu → Covers cfg.snFieldLength (i % cfg.mod) sdu.1 0 sdu.2 sdu.1.length
  idle : x.1.snUnderSegmentation = none → current = []
  segmented : ∀ sn, x.1.snUnderSegmentation = some sn → ∃ info, x.1.txWindow.find? sn = some info ∧
    Covers cfg.snFieldLength (sent.length % cfg.mod) info.sdu 0 current info.nextSo
  window : ∀ sn v, x.1.core.window sn = some v → ∃ i, i % cfg.mod = sn ∧ x.2.sdus[i]? = some v.sdu

def NewDataTiled (cfg : RlcTxAmConfig) (x : RlcTxAmEntity × SentLog) : Prop := ∃ sent current, Tiling cfg x sent current

/-- The PDUs for an element of the queue of retransmissions tile the bytes of the element, or what is left of it is still
at the front of the queue. The PDUs come after those that were sent before. -/
def ElementTiled (cfg : RlcTxAmConfig) (retx : RlcTxAmdRetx) (sdu : List UInt8) (before : List (List UInt8))
    (x : RlcTxAmEntity × SentLog) : Prop :=
  ∃ n ≤ retx.length, ∃ pdus others, x.2.retx = before ++ pdus ++ others ∧
    Covers cfg.snFieldLength retx.sn sdu retx.so pdus (retx.so + n) ∧
    (n = retx.length ∨ others = [] ∧ ∃ rest, x.1.retxQueue.queue = ⟨retx.sn, retx.so + n, retx.length - n⟩ :: rest)

/-- An SDU that arrives has a byte, and offsets of 16 bits. No STATUS PDU acknowledges the SDU under segmentation, and the
one to send is as long as it says. -/
def Segmentable (cfg : RlcTxAmConfig) (x : RlcTxAmEntity × SentLog) : TxAmEvent → Prop
  | .handleSdu sduBuf _ => 0 < sduBuf.length ∧ sduBuf.length ≤ 65536
  | .onStatusPdu buf => ¬EventAcksUnder cfg x.1 (.onStatusPdu buf)
  | .pullPdu (some statusPdu) _ => statusPdu.packedSize = RlcAmStatusPdu.sizeWith statusPdu.snSize statusPdu.nacks
  | _ => True

/-- As long as no STATUS PDU arrives, the first element of the queue of retransmissions is tiled. -/
def RetxTiled (cfg : RlcTxAmConfig) (s : RlcTxAmEntity) : Prop :=
  ∀ retx rest, s.retxQueue.queue = retx :: rest → ∃ info, s.txWindow.find? retx.sn = some info ∧
    ∀ es x, (∀ buf, .onStatusPdu buf ∉ es) → RunsWithin (sentStep cfg) (Segmentable cfg) (s, .empty) es →
      runEvents (sentStep cfg) (s, .empty) es = .ok x → ElementTiled cfg retx info.sdu [] x

def FitsGrant (cfg : RlcTxAmConfig) (x : RlcTxAmEntity × SentLog) : TxAmEvent → Prop
  | .pullPdu statusPdu grantLen => ∃ res, x.1.pullPdu cfg statusPdu grantLen = .ok res ∧ res.2.length ≤ grantLen
  | _ => True

/-- What holds in every state: the SDUs in the queue and in the window have offsets of 16 bits. -/
structure TileInv (cfg : RlcTxAmConfig) (s : RlcTxAmEntity) : Prop where
  inv : TxInv cfg s
  exact : s.core.Exact cfg.sizes
  segment : SegmentInv cfg s
  queued : ∀ sdu ∈ s.sduQueue.queue, 0 < sdu.buf.length ∧ sdu.buf.length ≤ 65536
  sizes : ∀ sn v, s.core.window sn = some v → v.sdu.length ≤ 65536

section States

variable {cfg : RlcTxAmConfig} {s s' : RlcTxAmEntity} {log : SentLog} {grantLen : Nat} {retx : RlcTxAmdRetx}
  {rest : List RlcTxAmdRetx} {info : RlcTxAmSduInfo}

lemma pulledSdu_mem {statusPdu : Option RlcAmStatusPdu} {sdu : RlcSdu}
    (h : pulledSdu cfg s statusPdu grantLen = some sdu) : sdu ∈ s.sduQueue.queue := by
  unfold pulledSdu newSdu at h
  split_ifs at h
  exact RlcSduQueue.read_mem.1 sdu h

lemma TileInv.takesBytes (h : TileInv cfg s) (e : TxAmEvent) : TakesBytes cfg s e := by
  cases e with
  | pullPdu statusPdu grantLen =>
    intro sdu hsdu
    exact List.ne_nil_of_length_pos (h.queued sdu (pulledSdu_mem hsdu)).1
  | handleSdu sduBuf isRetx => trivial
  | discardSdu pdcpSn => trivial
  | onStatusPdu buf => trivial
  | pollRetransmitTimerExpires => trivial
  | updateMacBufferState => trivial

lemma TileInv.sdu_le (h : TileInv cfg s) {piece : Piece} (hpiece : NewPiece cfg s grantLen s' piece) :
    piece.sdu.length ≤ 65536 := by
  obtain ⟨-, ⟨sdu, hread, hsdu⟩, -, -⟩ | ⟨-, -, -, hwindow⟩ := hpiece.begins
  · have hmem := RlcSduQueue.read_mem.1 sdu (congrArg Prod.fst hread)
    rw [← hsdu]
    exact (h.queued sdu hmem).2
  · exact h.sizes _ _ hwindow

lemma TileInv.pulled_sizes (h : TileInv cfg s) {res : RlcTxAmEntity × List UInt8} (hpulled : Pulled cfg s grantLen res) :
    (∀ sdu ∈ res.1.sduQueue.queue, 0 < sdu.buf.length ∧ sdu.buf.length ≤ 65536) ∧
      ∀ sn v, res.1.core.window sn = some v → v.sdu.length ≤ 65536 := by
  have hread : ∀ {sdu : Option RlcSdu} {q : RlcSduQueue}, s.sduQueue.read = (sdu, q) →
      ∀ sdu ∈ q.queue, 0 < sdu.buf.length ∧ sdu.buf.length ≤ 65536 := by
    intro sdu q hq x hx
    apply h.queued
    apply RlcSduQueue.read_mem.2
    rw [hq]
    exact hx
  cases hpulled with
  | silent hst hwindow hunder hsdus hretx =>
    refine ⟨fun sdu hsdu => ?_, fun sn v hv => ?_⟩
    · obtain hsame | hnone := hsdus
      · exact h.queued sdu (hsame ▸ hsdu)
      · exact hread hnone sdu hsdu
    · obtain ⟨info, hinfo, hv'⟩ := core_window.mp hv
      exact h.sizes sn v (core_window.mpr ⟨info, hwindow ▸ hinfo, hv'⟩)
  | empty sdu hsdu hnil =>
    have hpos := (h.queued sdu (RlcSduQueue.read_mem.1 sdu (congrArg Prod.fst hsdu))).1
    rw [hnil] at hpos
    exact absurd hpos (Nat.lt_irrefl 0)
  | piece piece hpiece =>
    refine ⟨fun sdu hsdu => ?_, fun sn v hv => ?_⟩
    · obtain ⟨-, ⟨taken, htaken, -⟩, -⟩ | ⟨-, hsame, -⟩ := hpiece.begins
      · exact hread htaken sdu hsdu
      · exact h.queued sdu (hsame ▸ hsdu)
    · obtain ⟨-, hsdu⟩ | hold := hpiece.others sn v hv
      · exact hsdu ▸ h.sdu_le hpiece
      · exact h.sizes sn v hold

lemma TileInv.front (h : TileInv cfg s) (hretx : retx ∈ s.retxQueue.queue) :
    ∃ info, s.txWindow.find? retx.sn = some info ∧ 0 < retx.length ∧ retx.so + retx.length ≤ info.sdu.length ∧
      info.sdu.length ≤ 65536 ∧ retx.sn < cfg.mod := by
  obtain ⟨info, hinfo, hpos, hle⟩ := h.inv.retxInside retx hretx
  have hv : s.core.window retx.sn = some ⟨info.sdu, info.nextSo⟩ := core_window.mpr ⟨info, hinfo, rfl⟩
  exact ⟨info, hinfo, hpos, hle, h.sizes _ _ hv, (h.inv.safe.entry _ _ hv).1⟩

def retxLeft (retx : RlcTxAmdRetx) (length : Nat) : List RlcTxAmdRetx :=
  if length = retx.length then [] else [⟨retx.sn, retx.so + length, retx.length - length⟩]

structure RetxSent (cfg : RlcTxAmConfig) (retx : RlcTxAmdRetx) (rest : List RlcTxAmdRetx) (sdu : List UInt8)
    (grantLen : Nat) (res : RlcTxAmEntity × List UInt8) : Prop where
  fits : res.2.length ≤ grantLen
  part : res.2 = [] ∧ res.1.retxQueue.queue = retx :: rest ∨
    ∃ length, 0 < length ∧ length ≤ retx.length ∧ res.1.retxQueue.queue = retxLeft retx length ++ rest ∧
      CarriesBytes cfg.snFieldLength retx.sn sdu (retx.so, length) res.2

lemma consumeRetx_queue {t : RlcTxAmEntity} (hqueue : t.retxQueue.queue = retx :: rest) (length : Nat) :
    (consumeRetx cfg t retx info length).retxQueue.queue = retxLeft retx length ++ rest := by
  unfold consumeRetx retxLeft
  split
  · dsimp only
    unfold RlcRetxQueue.pop
    rw [hqueue]
    rfl
  · dsimp only
    unfold RlcRetxQueue.replaceFront
    rw [hqueue]
    rfl

lemma CarriesBytes.ne_nil {snSize : RlcAmSnSize} {sn : Nat} {sdu pdu : List UInt8} {part : Nat × Nat}
    (h : CarriesBytes snSize sn sdu part pdu) : pdu ≠ [] := by
  rintro rfl
  obtain ⟨hdr, hread, -⟩ := h.read
  cases hread

lemma sendRetx_tiled (hqueue : s.retxQueue.queue = retx :: rest) (hsn : retx.sn < cfg.mod) (hpos : 0 < retx.length)
    (hle : retx.so + retx.length ≤ info.sdu.length) (hsize : info.sdu.length ≤ 65536) :
    Yields (sendRetx cfg s retx info grantLen) (RetxSent cfg retx rest info.sdu grantLen) fun _ => False := by
  unfold sendRetx
  refine yields_ite (fun hout => absurd hle (Nat.not_le.mpr hout)) fun _ => yields_ite (fun _ => ?_) fun hgrant => ?_
  · exact ⟨Nat.zero_le _, .inl ⟨rfl, hqueue⟩⟩
  dsimp only
  generalize hk : min retx.length (grantLen - getRetxExpectedHdrLen cfg retx) = k
  have hqueue' := @consumeRetx_queue cfg _ _ info { s with retxSn := some retx.sn } hqueue k
  generalize consumeRetx cfg { s with retxSn := some retx.sn } retx info k = s₁ at hqueue'
  obtain ⟨p, st, t, hpoll, -, -⟩ := getPollingBit_spec cfg s₁ retx.sn true 0
  rw [hpoll]
  dsimp only
  have hkpos : 0 < k := by omega
  have hkle : k ≤ retx.length := by omega
  -- the PDU is that of a piece
  have hstop : (⟨p, retx.sn, retx.so, k, info.sdu⟩ : Piece).stop ≤ info.sdu.length := by
    unfold Piece.stop
    dsimp only
    omega
  have hcarries := Piece.carries ⟨p, retx.sn, retx.so, k, info.sdu⟩ hsn hkpos hstop
    (show retx.so < 65536 by omega)
  have hfits := Piece.length_pdu_le ⟨p, retx.sn, retx.so, k, info.sdu⟩ hstop
    (show k + getRetxExpectedHdrLen cfg retx ≤ grantLen by omega)
  unfold Piece.pdu at hcarries hfits
  dsimp only at hcarries hfits
  rw [retxSi_eq _ _ _ (fun hso => by omega), toNat_ofNat_so]
  refine yields_ite (fun hheader => ?_) fun _ => yields_ite (fun hview => ?_) fun _ => ?_
  · apply hheader
    rw [length_rlcAmWriteDataPduHeader]
    unfold getRetxExpectedHdrLen
    by_cases hso : retx.so = 0
    · rw [if_pos hso, hso]
      rfl
    · rw [if_neg hso, if_neg ((ofNat_so_ne_zero (by omega)).mpr hso)]
      rfl
  · rw [length_sduView (by omega)] at hview
    omega
  · exact ⟨hfits, .inr ⟨k, hkpos, hkle, hqueue', hcarries⟩⟩

variable (grantLen) in
lemma TileInv.buildRetxPdu (h : TileInv cfg s) (hqueue : s.retxQueue.queue = retx :: rest)
    (hinfo : s.txWindow.find? retx.sn = some info) :
    Yields (buildRetxPdu cfg s grantLen) (RetxSent cfg retx rest info.sdu grantLen) fun _ => False := by
  obtain ⟨info', hinfo', hpos, hle, hsize, hsn⟩ := h.front (show retx ∈ s.retxQueue.queue from hqueue ▸ List.mem_cons_self)
  obtain rfl := Option.some.inj (hinfo.symm.trans hinfo')
  have hsame : s.dropRetx.retxQueue = s.retxQueue := dropRetx_of_present fun r hr => by
    obtain ⟨info, hinfo, -⟩ := h.inv.retxInside r hr
    exact SduWindow.hasSn_iff.mpr ⟨info, hinfo⟩
  have hfront : s.dropRetx.retxQueue.front = some retx := by
    rw [hsame]
    unfold RlcRetxQueue.front
    rw [hqueue]
    rfl
  unfold RlcTxAmEntity.buildRetxPdu
  dsimp only
  rw [hfront]
  refine yields_bind (SduWindow.yields_atSn hinfo) ?_
  rintro found rfl
  exact sendRetx_tiled (s := s.dropRetx) (hsame ▸ hqueue) hsn hpos hle hsize

inductive DataSent (cfg : RlcTxAmConfig) (s : RlcTxAmEntity) (grantLen : Nat) (res : RlcTxAmEntity × List UInt8) : Prop
  | new (hretx : s.retxQueue.queue = []) (hpulled : Pulled cfg s grantLen res)
  | retx {retx : RlcTxAmdRetx} {rest : List RlcTxAmdRetx} {info : RlcTxAmSduInfo}
      (hqueue : s.retxQueue.queue = retx :: rest) (hinfo : s.txWindow.find? retx.sn = some info)
      (hdropped : Dropped cfg s res.1) (hsent : RetxSent cfg retx rest info.sdu grantLen res)

lemma DataSent.fits {res : RlcTxAmEntity × List UInt8} (h : DataSent cfg s grantLen res) : res.2.length ≤ grantLen := by
  cases h with
  | new hretx hpulled =>
    cases hpulled with
    | silent => exact Nat.zero_le _
    | empty => exact Nat.zero_le _
    | piece piece hpiece => exact hpiece.fits
  | retx hqueue hinfo hdropped hsent => exact hsent.fits

variable (grantLen) in
lemma TileInv.pullDataPdu (h : TileInv cfg s) (hreached : s.maxRetxReached = false) :
    Yields (pullDataPdu cfg s grantLen) (DataSent cfg s grantLen) fun _ => False := by
  cases hqueue : s.retxQueue.queue with
  | nil =>
    have hretx : s.retxQueue.empty = true := List.isEmpty_iff.mpr hqueue
    have hsent : Yields (RlcTxAmEntity.pullDataPdu cfg s grantLen) (Sent cfg s) fun _ => False :=
      pullNewData_sent h.segment.window h.inv.safe hretx hreached (h.takesBytes (.pullPdu none grantLen))
    exact ((pullDataPdu_pulled h.segment hretx).aborts hsent).post fun res hres => .new hqueue hres
  | cons retx rest =>
    have hretx : s.retxQueue.empty = false := by
      unfold RlcRetxQueue.empty
      rw [hqueue]
      rfl
    obtain ⟨info, hinfo, -⟩ := h.front (show retx ∈ s.retxQueue.queue from hqueue ▸ List.mem_cons_self)
    unfold RlcTxAmEntity.pullDataPdu
    rw [hretx]
    have hbuilt := h.buildRetxPdu grantLen hqueue hinfo
    exact (((buildRetxPdu_dropped h.segment.window).aborts hbuilt).and hbuilt).post fun res hres => .retx hqueue hinfo hres.1 hres.2

lemma length_packStatusPdu {pdu : RlcAmStatusPdu} (hsync : pdu.packedSize = RlcAmStatusPdu.sizeWith pdu.snSize pdu.nacks)
    (hgrant : sizeofHeaderAckSn ≤ grantLen) : (packStatusPdu pdu grantLen).length ≤ grantLen := by
  unfold packStatusPdu
  split
  case isFalse hfit =>
    rw [RlcAmStatusPdu.length_pack hsync]
    exact Nat.not_lt.mp hfit
  case isTrue hlarge =>
    obtain ⟨kept, same, x, rest, -, -, -, -, -, hkept, htrim⟩ := RlcAmStatusPdu.trim_spec hsync hgrant hlarge
    rw [htrim]
    dsimp only
    rw [RlcAmStatusPdu.length_pack rfl]
    exact hkept

lemma TileInv.fitsGrant {x : RlcTxAmEntity × SentLog} {e : TxAmEvent} (h : TileInv cfg x.1)
    (hsegmentable : Segmentable cfg x e) : FitsGrant cfg x e := by
  obtain ⟨s, log⟩ := x
  cases e with
  | pullPdu statusPdu grantLen =>
    change ∃ res, s.pullPdu cfg statusPdu grantLen = .ok res ∧ res.2.length ≤ grantLen
    cases hreached : s.maxRetxReached with
    | true =>
      unfold pullPdu
      rw [hreached, if_pos rfl]
      exact ⟨_, rfl, Nat.zero_le _⟩
    | false =>
      unfold pullPdu
      rw [hreached, if_neg Bool.false_ne_true]
      cases statusPdu with
      | some statusPdu =>
        refine ⟨_, rfl, ?_⟩
        dsimp only
        split
        · exact Nat.zero_le _
        case isFalse hgrant => exact length_packStatusPdu hsegmentable (Nat.not_lt.mp hgrant)
      | none =>
        have hsent := h.pullDataPdu grantLen hreached
        cases hres : RlcTxAmEntity.pullDataPdu cfg s grantLen with
        | error a => exact (hsent.of_error hres).elim
        | ok res => exact ⟨res, rfl, (hsent.of_ok hres).fits⟩
  | handleSdu sduBuf isRetx => trivial
  | discardSdu pdcpSn => trivial
  | onStatusPdu buf => trivial
  | pollRetransmitTimerExpires => trivial
  | updateMacBufferState => trivial

lemma pullPdu_of_step {statusPdu : Option RlcAmStatusPdu} {Q : RlcTxAmEntity → Prop} {E : RlcAbort → Prop}
    (h : Yields (step cfg s (.pullPdu statusPdu grantLen)) Q E) :
    Yields (s.pullPdu cfg statusPdu grantLen) (fun res => Q res.1) E := by
  change Yields (Prod.fst <$> s.pullPdu cfg statusPdu grantLen) Q E at h
  cases hres : s.pullPdu cfg statusPdu grantLen with
  | error a =>
    rw [hres] at h
    exact h
  | ok res =>
    rw [hres] at h
    exact h

lemma TileInv.dropped (h : TileInv cfg s) (hdropped : Dropped cfg s s') (hinv : TxInv cfg s')
    (hexact : s'.core.Exact cfg.sizes) : TileInv cfg s' :=
  ⟨hinv, hexact, h.segment.dropped hdropped, fun sdu hsdu => h.queued sdu (hdropped.sdus sdu hsdu),
    fun sn v hv => h.sizes sn v (hdropped.infos sn v hv)⟩

lemma TileInv.pullPdu (h : TileInv cfg s) :
    Yields (s.pullPdu cfg none grantLen) (fun res => TileInv cfg res.1 ∧ (s.maxRetxReached = true ∧ res = (s, []) ∨
      s.maxRetxReached = false ∧ DataSent cfg s grantLen res)) fun _ => True := by
  have hexact := pullPdu_of_step (step_exact h.inv h.exact (e := .pullPdu none grantLen) ⟨h.takesBytes _, id⟩)
  have hsegment := pullPdu_of_step (step_segmentInv h.segment (.pullPdu none grantLen))
  have hsent : Yields (s.pullPdu cfg none grantLen) (fun res =>
      s.maxRetxReached = true ∧ res = (s, []) ∨ s.maxRetxReached = false ∧ DataSent cfg s grantLen res) fun _ => True := by
    unfold RlcTxAmEntity.pullPdu
    refine yields_ite (fun hreached => .inl ⟨hreached, rfl⟩) fun hreached => ?_
    have hfalse : s.maxRetxReached = false := Bool.eq_false_iff.mpr hreached
    exact (h.pullDataPdu _ hfalse).mono (fun res hres => .inr ⟨hfalse, hres⟩) fun _ _ => trivial
  refine ((hexact.and hsegment).and hsent).post fun res hres => ?_
  obtain ⟨⟨⟨hinv, hexact⟩, hsegment⟩, hsent⟩ := hres
  refine ⟨?_, hsent⟩
  obtain ⟨-, rfl⟩ | ⟨-, hdata⟩ := hsent
  · exact h
  · cases hdata with
    | new hretx hpulled =>
      obtain ⟨hqueued, hsizes⟩ := h.pulled_sizes hpulled
      exact ⟨hinv, hexact, hsegment, hqueued, hsizes⟩
    | retx hqueue hinfo hdropped hsent => exact h.dropped hdropped hinv hexact

end States

end RlcTxAmEntity

end OwlsRan.Rlc
