import OwlsRan.Lib.MarkedLog
import OwlsRan.Rlc.NewDataPdus

/-!
# The polls of PDUs with new data

The transmitter counts the PDUs and the bytes that it has sent since it polled.
-/

namespace OwlsRan.Rlc
open OwlsRan.Lib OwlsRan.Adt

/-- A PDU with new data that has been sent. It is stalled if nothing is left to send after it, or the window is full. -/
structure SentPdu where
  poll : Bool
  payload : Nat
  stalled : Bool
deriving DecidableEq

inductive PollEvent where
  | handleSdu (sduBuf : List UInt8) (isRetx : Bool)
  | pullPdu (statusPdu : Option RlcAmStatusPdu) (grantLen : Nat)

namespace RlcTxAmEntity

def readBack (cfg : RlcTxAmConfig) (s : RlcTxAmEntity) (pdu : List UInt8) : Option SentPdu :=
  (rlcAmReadDataPduHeader pdu cfg.snFieldLength).toOption.map fun hdr =>
    ⟨hdr.p, pdu.length - hdr.getPackedSize, s.pollNeeded cfg⟩

def pollStep (cfg : RlcTxAmConfig) (x : RlcTxAmEntity × List SentPdu) :
    PollEvent → Except RlcAbort (RlcTxAmEntity × List SentPdu)
  | .handleSdu sduBuf isRetx => .ok (x.1.handleSdu cfg sduBuf isRetx, x.2)
  | .pullPdu statusPdu grantLen => do
    let (s, pdu) ← x.1.pullPdu cfg statusPdu grantLen
    .ok (s, x.2 ++ if statusPdu.isSome then [] else (readBack cfg s pdu).toList)

structure BelowLimits (cfg : RlcTxAmConfig) (block : List SentPdu) : Prop where
  pdus : 0 < cfg.pollPdu → (block.length : Int) < cfg.pollPdu
  bytes : 0 < cfg.pollByte → ((block.map SentPdu.payload).sum : Int) < cfg.pollByte

structure PollsInTime (cfg : RlcTxAmConfig) (x : RlcTxAmEntity × List SentPdu) : Prop where
  blocks : Blocks SentPdu.poll (BelowLimits cfg) x.2
  stalled : ∀ pdu ∈ x.2, pdu.stalled = true → pdu.poll = true

def CompletesSdu (cfg : RlcTxAmConfig) (s : RlcTxAmEntity) (grantLen : Nat) : Prop :=
  match s.snUnderSegmentation.bind s.txWindow.find? with
  | some info => info.sdu.length - info.nextSo + cfg.headMaxSize ≤ grantLen
  | none => ∃ sdu ∈ pulledSdu cfg s none grantLen, sdu.buf.length + cfg.headMinSize ≤ grantLen

def SendsFullSdu (cfg : RlcTxAmConfig) (s : RlcTxAmEntity) (grantLen : Nat) : Prop :=
  ∃ sdu ∈ pulledSdu cfg s none grantLen, sdu.buf.length + cfg.headMinSize ≤ grantLen

/-- Each SDU has a byte, and offsets of 16 bits. While the bytes are limited no PDU has all of an SDU, and no PDU completes
an SDU whose SN is the last one before the maximum window. -/
def CountsBytes (cfg : RlcTxAmConfig) (x : RlcTxAmEntity × List SentPdu) : PollEvent → Prop
  | .handleSdu sduBuf _ => 0 < sduBuf.length ∧ sduBuf.length < 65536
  | .pullPdu _ grantLen => (0 < cfg.pollByte → ¬SendsFullSdu cfg x.1 grantLen) ∧
      (cfg.maxWindow ≠ 0 → x.1.txModBase cfg x.1.st.txNext = cfg.maxWindow → ¬CompletesSdu cfg x.1 grantLen)

/-- What holds in every state of a transmitter that gets no STATUS PDUs, and of its log. -/
structure PollInv (cfg : RlcTxAmConfig) (x : RlcTxAmEntity × List SentPdu) : Prop where
  segment : SegmentInv cfg x.1
  retx : x.1.retxQueue.queue = []
  txNextAck : x.1.st.txNextAck = 0
  txNext : x.1.st.txNext < cfg.mod
  sdus : ∀ sdu ∈ x.1.sduQueue.queue, 0 < sdu.buf.length ∧ sdu.buf.length < 65536
  under : ∀ sn v, x.1.core.under = some sn → x.1.core.window sn = some v → v.sdu.length < 65536
  pdus : 0 < cfg.pollPdu → x.1.st.pduWithoutPoll.toNat = (sinceMark SentPdu.poll x.2).length
  bytes : 0 < cfg.pollByte → x.1.st.byteWithoutPoll.toNat = ((sinceMark SentPdu.poll x.2).map SentPdu.payload).sum
  limits : BelowLimits cfg (sinceMark SentPdu.poll x.2)
  polls : PollsInTime cfg x

section Polls

variable {cfg : RlcTxAmConfig} {s s' : RlcTxAmEntity} {log : List SentPdu} {grantLen : Nat} {piece : Piece}

lemma BelowLimits.suffix {b c : List SentPdu} (hsuffix : b <:+ c) (h : BelowLimits cfg c) : BelowLimits cfg b := by
  obtain ⟨front, rfl⟩ := hsuffix
  have hlen : (front ++ b).length = front.length + b.length := List.length_append
  have hsum : ((front ++ b).map SentPdu.payload).sum = (front.map SentPdu.payload).sum + (b.map SentPdu.payload).sum := by
    rw [List.map_append, List.sum_append]
  refine ⟨fun hpos => ?_, fun hpos => ?_⟩
  · have := h.pdus hpos
    omega
  · have := h.bytes hpos
    omega

lemma getPollingBit_new (cfg : RlcTxAmConfig) (t : RlcTxAmEntity) (sn payloadSize : Nat) :
    let res := getPollingBit cfg t sn false payloadSize
    res.2.st.txNextAck = t.st.txNextAck ∧
    (res.1 = true ∧ res.2.st.pduWithoutPoll = 0 ∧ res.2.st.byteWithoutPoll = 0 ∨
      res.1 = false ∧ res.2.st.pduWithoutPoll = t.st.pduWithoutPoll + 1 ∧
        res.2.st.byteWithoutPoll = t.st.byteWithoutPoll + .ofNat payloadSize ∧
        (0 < cfg.pollPdu → ((t.st.pduWithoutPoll + 1).toNat : Int) < cfg.pollPdu) ∧
        (0 < cfg.pollByte → ((t.st.byteWithoutPoll + .ofNat payloadSize).toNat : Int) < cfg.pollByte) ∧
        t.pollNeeded cfg = false) := by
  intro res
  by_cases hpoll : ((!false && cfg.pollPdu > 0 && (t.st.pduWithoutPoll + 1).toNat ≥ cfg.pollPdu) ||
      (!false && cfg.pollByte > 0 && (t.st.byteWithoutPoll + .ofNat payloadSize).toNat ≥ cfg.pollByte) ||
      t.pollNeeded cfg) = true
  · have hres : res = _ := if_pos hpoll
    rw [hres]
    exact ⟨rfl, .inl ⟨rfl, rfl, rfl⟩⟩
  · have hres : res = _ := if_neg hpoll
    rw [hres]
    simp only [Bool.not_false, Bool.true_and, Bool.or_eq_true, Bool.and_eq_true, decide_eq_true_eq, not_or, not_and,
      Bool.not_eq_true] at hpoll
    obtain ⟨⟨hpdus, hbytes⟩, hneeded⟩ := hpoll
    exact ⟨rfl, .inr ⟨rfl, rfl, rfl, fun hpos => Int.not_le.mp (hpdus hpos), fun hpos => Int.not_le.mp (hbytes hpos),
      hneeded⟩⟩

lemma segmentSi_hasSo {so length total : Nat} : (segmentSi so length total).hasSo = true ↔ so ≠ 0 := by
  unfold segmentSi
  split_ifs with hso hall hall
  · simp [RlcSiField.hasSo, hso]
  · simp [RlcSiField.hasSo, hso]
  · simp [RlcSiField.hasSo, hso]
  · simp [RlcSiField.hasSo, hso]

lemma ofNat_so_ne_zero {so : Nat} (hlt : so < 65536) : UInt16.ofNat so ≠ 0 ↔ so ≠ 0 := by
  rw [ne_eq, ← UInt16.toNat_inj, toNat_ofNat_so, Nat.mod_eq_of_lt hlt]
  rfl

lemma Piece.read (hsn : piece.sn < cfg.mod) (hpos : 0 < piece.length) (hstop : piece.stop ≤ piece.sdu.length)
    (hso : piece.so < 65536) :
    rlcAmReadDataPduHeader (piece.pdu cfg.snFieldLength) cfg.snFieldLength = .ok ⟨piece.poll,
        segmentSi piece.so piece.length piece.sdu.length, cfg.snFieldLength, piece.sn, .ofNat piece.so⟩ ∧
      (piece.pdu cfg.snFieldLength).length = (RlcAmPduHeader.mk piece.poll
        (segmentSi piece.so piece.length piece.sdu.length) cfg.snFieldLength piece.sn (.ofNat piece.so)).getPackedSize +
          piece.length := by
  have hview : (sduView piece.sdu (piece.so % 65536) piece.length).length = piece.length := length_sduView hstop
  have hhas : (segmentSi piece.so piece.length piece.sdu.length).hasSo = true ↔ UInt16.ofNat piece.so ≠ 0 :=
    segmentSi_hasSo.trans (ofNat_so_ne_zero hso).symm
  have hpayload : sduView piece.sdu (piece.so % 65536) piece.length ≠ [] := by
    apply List.ne_nil_of_length_pos
    rw [hview]
    exact hpos
  refine ⟨rlcAmReadDataPduHeader_write (h := ⟨piece.poll, _, _, piece.sn, _⟩) hsn hhas hpayload, ?_⟩
  unfold Piece.pdu RlcAmPduHeader.getPackedSize
  rw [List.length_append, length_rlcAmWriteDataPduHeader, hview]
  dsimp only
  by_cases hzero : UInt16.ofNat piece.so = 0
  · rw [if_pos hzero, if_neg (fun h => hhas.mp h hzero), Nat.add_zero]
  · rw [if_neg hzero, if_pos (hhas.mpr hzero)]
    rfl

lemma readBack_nil : readBack cfg s [] = none := rfl

lemma txModBase_of_start (hack : s.st.txNextAck = 0) {sn : Nat} (hsn : sn < cfg.mod) : s.txModBase cfg sn = sn := by
  have hmod := cfg.mod_lt
  unfold txModBase modBase
  rw [hack, Nat.sub_zero, Nat.add_mod_right, Nat.mod_eq_of_lt (hsn.trans hmod), Nat.mod_eq_of_lt hsn]

lemma PollInv.sdu_lt (h : PollInv cfg (s, log)) (hpiece : NewPiece cfg s grantLen s' piece) :
    piece.sdu.length < 65536 := by
  obtain ⟨-, ⟨sdu, hread, hsdu⟩, -, -⟩ | ⟨-, -, hunder, hwindow⟩ := hpiece.begins
  · have hmem := RlcSduQueue.read_mem.1 sdu (congrArg Prod.fst hread)
    rw [← hsdu]
    exact (h.sdus sdu hmem).2
  · exact h.under _ _ hunder hwindow

lemma Piece.headerSize_eq : (RlcAmPduHeader.mk piece.poll
    (segmentSi piece.so piece.length piece.sdu.length) cfg.snFieldLength piece.sn (.ofNat piece.so)).getPackedSize =
      if piece.so = 0 then cfg.headMinSize else cfg.headMaxSize := by
  unfold RlcAmPduHeader.getPackedSize
  by_cases hzero : piece.so = 0
  · rw [if_neg (fun h => segmentSi_hasSo.mp h hzero), if_pos hzero]
    rfl
  · rw [if_pos (segmentSi_hasSo.mpr hzero), if_neg hzero]
    rfl

lemma PollInv.size_le (h : PollInv cfg (s, log)) (hpiece : NewPiece cfg s grantLen s' piece) :
    piece.length + (if piece.so = 0 then cfg.headMinSize else cfg.headMaxSize) ≤ grantLen := by
  have hlt := h.sdu_lt hpiece
  have hstop := hpiece.stop_le
  have hpos := hpiece.length_pos
  have hso : piece.so < 65536 := by
    unfold Piece.stop at hstop
    omega
  have hsn : piece.sn < cfg.mod := hpiece.sn ▸ h.txNext
  have hfits := hpiece.fits
  rw [(Piece.read hsn hpos hstop hso).2, Piece.headerSize_eq] at hfits
  omega

lemma PollInv.sendsFullSdu (h : PollInv cfg (s, log)) (hpiece : NewPiece cfg s grantLen s' piece)
    (hreached : s.maxRetxReached = false) (hwhole : piece.whole) : SendsFullSdu cfg s grantLen := by
  obtain ⟨hzero, hall⟩ := hwhole
  have hsize := h.size_le hpiece
  rw [if_pos hzero] at hsize
  obtain ⟨sdu, hpulled, hsdu, -⟩ := hpiece.pulledSdu hreached (List.isEmpty_iff.mpr h.retx) hzero
  refine ⟨sdu, hpulled, ?_⟩
  rw [hsdu]
  omega

lemma PollInv.completesSdu (h : PollInv cfg (s, log)) (hpiece : NewPiece cfg s grantLen s' piece)
    (hreached : s.maxRetxReached = false) (hall : piece.stop = piece.sdu.length) : CompletesSdu cfg s grantLen := by
  unfold CompletesSdu
  obtain ⟨hzero, -, habsent, -⟩ | ⟨hso, -, hunder, hwindow⟩ := hpiece.begins
  · have hnone : s.snUnderSegmentation.bind s.txWindow.find? = none := by
      cases hunder : s.snUnderSegmentation with
      | none => rfl
      | some x => exact core_window_eq_none.mp (habsent x hunder)
    rw [hnone]
    unfold Piece.stop at hall
    exact h.sendsFullSdu hpiece hreached ⟨hzero, by omega⟩
  · obtain ⟨info, hinfo, hsame⟩ := core_window.mp hwindow
    obtain ⟨hsdu, hnextSo⟩ := SentSdu.mk.inj hsame
    have hsome : s.snUnderSegmentation.bind s.txWindow.find? = some info := by
      rw [show s.snUnderSegmentation = some piece.sn from hunder]
      exact hinfo
    have hsize := h.size_le hpiece
    rw [if_neg (by omega)] at hsize
    unfold Piece.stop at hall
    rw [hsome]
    dsimp only
    rw [hsdu, hnextSo]
    omega

lemma PollInv.polls_stalled (h : PollInv cfg (s, log)) (hpiece : NewPiece cfg s grantLen s' piece)
    (hwindow : cfg.maxWindow ≠ 0 → s.txModBase cfg s.st.txNext = cfg.maxWindow → piece.stop ≠ piece.sdu.length)
    (hack : s'.st.txNextAck = 0) (hnext : s'.st.txNext < cfg.mod) {t : RlcTxAmEntity} (hpolled : PolledIn cfg s s' piece t)
    (ht : t.pollNeeded cfg = false) : s'.pollNeeded cfg = false := by
  have hackT : t.st.txNextAck = 0 := by
    rw [hpolled.st]
    exact h.txNextAck
  unfold pollNeeded isTxWindowFull at ht ⊢
  rw [hpolled.sduQueue, hpolled.retxQueue, hpolled.under, hpolled.full, hpolled.st,
    txModBase_of_start hackT h.txNext] at ht
  rw [txModBase_of_start hack hnext]
  have hbase : s.txModBase cfg s.st.txNext = s.st.txNext := txModBase_of_start h.txNextAck h.txNext
  simp only [Bool.or_eq_false_iff, Bool.and_eq_false_iff, decide_eq_false_iff_not] at ht ⊢
  obtain ⟨hqueues, hfull, hmax⟩ := ht
  refine ⟨hqueues, hfull, ?_⟩
  by_cases hzero : cfg.maxWindow = 0
  · exact .inl (not_not.mpr hzero)
  · have hbelow := hmax.resolve_left (not_not.mpr hzero)
    right
    obtain hall | hpart := Nat.eq_or_lt_of_le hpiece.stop_le
    · have hne : s.st.txNext ≠ cfg.maxWindow := fun heq => hwindow hzero (hbase.trans heq) hall
      have hle := Nat.mod_le (s.st.txNext + 1) cfg.mod
      rw [(hpiece.completed hall).1]
      omega
    · rw [(hpiece.continued hpart).1]
      exact hbelow

lemma PollInv.readBack_piece (h : PollInv cfg (s, log)) (hpiece : NewPiece cfg s grantLen s' piece) :
    readBack cfg s' (piece.pdu cfg.snFieldLength) = some ⟨piece.poll, piece.length, s'.pollNeeded cfg⟩ := by
  have hlt := h.sdu_lt hpiece
  have hstop := hpiece.stop_le
  have hpos := hpiece.length_pos
  have hso : piece.so < 65536 := by
    unfold Piece.stop at hstop
    omega
  obtain ⟨hread, hlen⟩ := Piece.read (hpiece.sn ▸ h.txNext : piece.sn < cfg.mod) hpos hstop hso
  unfold readBack
  rw [hread, hlen]
  change some (SentPdu.mk piece.poll (_ + piece.length - _) _) = _
  rw [Nat.add_sub_cancel_left]

lemma PollInv.sent (hpdu : cfg.pollPdu < 2 ^ 31) (hbyte : cfg.pollByte < 2 ^ 31) (h : PollInv cfg (s, log))
    (hpiece : NewPiece cfg s grantLen s' piece) (hreached : s.maxRetxReached = false)
    (hcounts : (0 < cfg.pollByte → ¬SendsFullSdu cfg s grantLen) ∧
      (cfg.maxWindow ≠ 0 → s.txModBase cfg s.st.txNext = cfg.maxWindow → ¬CompletesSdu cfg s grantLen))
    (hinv : SegmentInv cfg s') : PollInv cfg (s', log ++ [SentPdu.mk piece.poll piece.length (s'.pollNeeded cfg)]) := by
  obtain ⟨t, hpolled⟩ := hpiece.polled
  have hbit := hpolled.bit
  have hafter := hpolled.after
  obtain ⟨hack, hcases⟩ := getPollingBit_new cfg t piece.sn (if piece.whole then 0 else piece.length)
  rw [hbit] at hcases
  generalize (getPollingBit cfg t piece.sn false (if piece.whole then 0 else piece.length)).2 = u at hafter hack hcases
  have hackS : s'.st.txNextAck = 0 := by
    rw [hafter]
    change u.st.txNextAck = 0
    rw [hack, hpolled.st]
    exact h.txNextAck
  have hpduS : s'.st.pduWithoutPoll = u.st.pduWithoutPoll := by rw [hafter]
  have hbyteS : s'.st.byteWithoutPoll = u.st.byteWithoutPoll := by rw [hafter]
  have hnextS : s'.st.txNext < cfg.mod := by
    obtain hall | hpart := Nat.eq_or_lt_of_le hpiece.stop_le
    · rw [(hpiece.completed hall).1]
      exact Nat.mod_lt _ mod_pos
    · rw [(hpiece.continued hpart).1]
      exact h.txNext
  have hlt := h.sdu_lt hpiece
  have hstop := hpiece.stop_le
  have hsdus : ∀ sdu ∈ s'.sduQueue.queue, 0 < sdu.buf.length ∧ sdu.buf.length < 65536 := by
    intro sdu hsdu
    obtain ⟨-, ⟨taken, hread, -⟩, -⟩ | ⟨-, hsame, -⟩ := hpiece.begins
    · apply h.sdus
      apply RlcSduQueue.read_mem.2
      rw [hread]
      exact hsdu
    · rw [hsame] at hsdu
      exact h.sdus sdu hsdu
  have hunder : ∀ sn v, s'.core.under = some sn → s'.core.window sn = some v → v.sdu.length < 65536 := by
    intro sn v hsn hv
    obtain hall | hpart := Nat.eq_or_lt_of_le hstop
    · cases (hpiece.completed hall).2.symm.trans hsn
    · obtain ⟨-, hunder, hwindow⟩ := hpiece.continued hpart
      obtain rfl := Option.some.inj (hunder.symm.trans hsn)
      obtain rfl := Option.some.inj (hwindow.symm.trans hv)
      exact hlt
  have hretx : s'.retxQueue.queue = [] := (congrArg RlcRetxQueue.queue hpiece.retxQueue).trans h.retx
  obtain ⟨hpoll, hpduZero, hbyteZero⟩ | ⟨hpoll, hpduNext, hbyteNext, hpdus, hbytes, hneeded⟩ := hcases
  · -- the counters and the block are reset
    have hsince : sinceMark SentPdu.poll (log ++ [SentPdu.mk piece.poll piece.length (s'.pollNeeded cfg)]) = [] :=
      sinceMark_concat_of_marked hpoll
    have hlimits : BelowLimits cfg [] := ⟨fun hpos => hpos, fun hpos => hpos⟩
    rw [← hsince] at hlimits
    refine ⟨hinv, hretx, hackS, hnextS, hsdus, hunder, fun _ => ?_, fun _ => ?_, hlimits, ?_, ?_⟩
    · rw [hsince, hpduS, hpduZero]
      rfl
    · rw [hsince, hbyteS, hbyteZero]
      rfl
    · exact h.polls.blocks.concat (fun _ _ hs hc => hc.suffix hs) hlimits
    · intro pdu hmem hstalled
      rcases List.mem_append.mp hmem with hold | hnew
      · exact h.polls.stalled pdu hold hstalled
      · rw [List.mem_singleton.mp hnew]
        exact hpoll
  · -- the PDU is counted, and the counters stay below the limits
    have hsince : sinceMark SentPdu.poll (log ++ [SentPdu.mk piece.poll piece.length (s'.pollNeeded cfg)]) =
        sinceMark SentPdu.poll log ++ [SentPdu.mk piece.poll piece.length (s'.pollNeeded cfg)] :=
      sinceMark_concat_of_unmarked hpoll
    rw [hpolled.st] at hpduNext hbyteNext hpdus hbytes
    have hpduCount : 0 < cfg.pollPdu → s'.st.pduWithoutPoll.toNat =
        (sinceMark SentPdu.poll log ++ [SentPdu.mk piece.poll piece.length (s'.pollNeeded cfg)]).length := by
      intro hpos
      have hold := h.pdus hpos
      have hbelow := h.limits.pdus hpos
      dsimp only at hold hbelow
      rw [hpduS, hpduNext, UInt32.toNat_add, hold, List.length_append, List.length_singleton]
      simp only [UInt32.toNat_one, Nat.reducePow]
      omega
    have hbyteCount : 0 < cfg.pollByte → s'.st.byteWithoutPoll.toNat = ((sinceMark SentPdu.poll log ++
        [SentPdu.mk piece.poll piece.length (s'.pollNeeded cfg)]).map SentPdu.payload).sum := by
      intro hpos
      have hold := h.bytes hpos
      have hbelow := h.limits.bytes hpos
      have hpart : ¬piece.whole := fun hwhole => hcounts.1 hpos (h.sendsFullSdu hpiece hreached hwhole)
      have hlen : piece.length < 65536 := by
        unfold Piece.stop at hstop
        omega
      dsimp only at hold hbelow
      rw [hbyteS, hbyteNext, if_neg hpart, UInt32.toNat_add, hold, UInt32.toNat_ofNat', List.map_append, List.sum_append]
      simp only [List.map_cons, List.map_nil, List.sum_cons, List.sum_nil, Nat.add_zero, Nat.reducePow]
      omega
    have hlimits : BelowLimits cfg (sinceMark SentPdu.poll log ++
        [SentPdu.mk piece.poll piece.length (s'.pollNeeded cfg)]) := by
      refine ⟨fun hpos => ?_, fun hpos => ?_⟩
      · rw [← hpduCount hpos, hpduS, hpduNext]
        exact hpdus hpos
      · rw [← hbyteCount hpos, hbyteS, hbyteNext]
        exact hbytes hpos
    rw [← hsince] at hlimits
    refine ⟨hinv, hretx, hackS, hnextS, hsdus, hunder, fun hpos => ?_, fun hpos => ?_, hlimits, ?_, ?_⟩
    · rw [hsince]
      exact hpduCount hpos
    · rw [hsince]
      exact hbyteCount hpos
    · exact h.polls.blocks.concat (fun _ _ hs hc => hc.suffix hs) hlimits
    · intro pdu hmem hstalled
      rcases List.mem_append.mp hmem with hold | hnew
      · exact h.polls.stalled pdu hold hstalled
      · have hnone := h.polls_stalled hpiece (fun hmax hat hall => hcounts.2 hmax hat
          (h.completesSdu hpiece hreached hall)) hackS hnextS hpolled hneeded
        rw [List.mem_singleton.mp hnew] at hstalled
        cases hnone.symm.trans hstalled

lemma PollInv.unpolled (h : PollInv cfg (s, log)) (hinv : SegmentInv cfg s') (hretx : s'.retxQueue = s.retxQueue)
    (hst : s'.st = s.st) (hsdus : ∀ sdu ∈ s'.sduQueue.queue, 0 < sdu.buf.length ∧ sdu.buf.length < 65536)
    (hunder : ∀ sn v, s'.core.under = some sn → s'.core.window sn = some v → v.sdu.length < 65536) :
    PollInv cfg (s', log) := by
  refine ⟨hinv, ?_, ?_, ?_, hsdus, hunder, fun hpos => ?_, fun hpos => ?_, h.limits, h.polls.blocks, h.polls.stalled⟩
  · rw [hretx]
    exact h.retx
  · rw [hst]
    exact h.txNextAck
  · rw [hst]
    exact h.txNext
  · rw [hst]
    exact h.pdus hpos
  · rw [hst]
    exact h.bytes hpos

lemma PollInv.handleSdu (h : PollInv cfg (s, log)) {sduBuf : List UInt8} (isRetx : Bool)
    (hlen : 0 < sduBuf.length ∧ sduBuf.length < 65536) : PollInv cfg (s.handleSdu cfg sduBuf isRetx, log) := by
  refine h.unpolled ⟨h.segment.window, h.segment.under, h.segment.capacity⟩ rfl rfl (fun sdu hsdu => ?_) h.under
  obtain hold | rfl := RlcSduQueue.write_mem sdu hsdu
  · exact h.sdus sdu hold
  · exact hlen

lemma PollInv.pulled (hpdu : cfg.pollPdu < 2 ^ 31) (hbyte : cfg.pollByte < 2 ^ 31) (h : PollInv cfg (s, log))
    {res : RlcTxAmEntity × List UInt8} (hpulled : Pulled cfg s grantLen res) (hreached : s.maxRetxReached = false)
    (hcounts : (0 < cfg.pollByte → ¬SendsFullSdu cfg s grantLen) ∧
      (cfg.maxWindow ≠ 0 → s.txModBase cfg s.st.txNext = cfg.maxWindow → ¬CompletesSdu cfg s grantLen)) :
    PollInv cfg (res.1, log ++ (readBack cfg res.1 res.2).toList) := by
  have hinv := hpulled.segmentInv h.segment
  cases hpulled with
  | silent hst hwindow hunder hsdus hretx =>
    rw [readBack_nil, Option.toList_none, List.append_nil]
    refine h.unpolled hinv hretx hst (fun sdu hsdu => h.sdus sdu ?_) fun sn v hsn hv => ?_
    · obtain hsame | hread := hsdus
      · exact hsame ▸ hsdu
      · apply RlcSduQueue.read_mem.2
        rw [hread]
        exact hsdu
    · obtain hsame | ⟨hnone, -⟩ := hunder
      · obtain ⟨info, hinfo, hv'⟩ := core_window.mp hv
        exact h.under sn v (hsame.symm.trans hsn) (core_window.mpr ⟨info, hwindow ▸ hinfo, hv'⟩)
      · cases hnone.symm.trans hsn
  | empty sdu hread hnil =>
    have hpos := (h.sdus sdu (RlcSduQueue.read_mem.1 sdu (congrArg Prod.fst hread))).1
    rw [hnil] at hpos
    exact absurd hpos (Nat.lt_irrefl 0)
  | piece piece hpiece =>
    rw [h.readBack_piece hpiece]
    exact h.sent hpdu hbyte hpiece hreached hcounts hinv

lemma pollStep_yields (hpdu : cfg.pollPdu < 2 ^ 31) (hbyte : cfg.pollByte < 2 ^ 31)
    {x : RlcTxAmEntity × List SentPdu} (h : PollInv cfg x) {e : PollEvent} (hcounts : CountsBytes cfg x e) :
    Yields (pollStep cfg x e) (PollInv cfg) fun _ => True := by
  obtain ⟨s, log⟩ := x
  cases e with
  | handleSdu sduBuf isRetx => exact h.handleSdu isRetx hcounts
  | pullPdu statusPdu grantLen =>
    have hpull : Yields (s.pullPdu cfg statusPdu grantLen) (fun res => PollInv cfg
        (res.1, log ++ if statusPdu.isSome then [] else (readBack cfg res.1 res.2).toList)) fun _ => True := by
      have hquiet : PollInv cfg (s, log ++ if statusPdu.isSome then [] else (readBack cfg s []).toList) := by
        rw [readBack_nil, Option.toList_none, ite_self, List.append_nil]
        exact h
      unfold pullPdu
      refine yields_ite (fun _ => hquiet) fun hreached => ?_
      cases statusPdu with
      | some statusPdu =>
        change PollInv cfg (s, log ++ [])
        rw [List.append_nil]
        exact h
      | none =>
        exact (pullDataPdu_pulled h.segment (List.isEmpty_iff.mpr h.retx)).post fun res hres =>
          h.pulled hpdu hbyte hres (Bool.eq_false_iff.mpr hreached) hcounts
    exact yields_bind hpull fun res hres => hres

end Polls

lemma init_pollInv (cfg : RlcTxAmConfig) : PollInv cfg (init cfg, []) := by
  have hlimits : BelowLimits cfg [] := ⟨fun hpos => hpos, fun hpos => hpos⟩
  have hblocks : Blocks SentPdu.poll (BelowLimits cfg) [] := by
    intro block hinfix _
    rw [List.infix_nil.mp hinfix]
    exact hlimits
  exact ⟨⟨init_txInv.window, fun _ hsn => (nomatch hsn), rfl⟩, rfl, rfl, mod_pos, (fun _ hsdu => nomatch hsdu),
    (fun _ _ hsn => nomatch hsn), fun _ => rfl, fun _ => rfl, hlimits, hblocks, fun _ hmem => nomatch hmem⟩

instance (cfg : RlcTxAmConfig) (s : RlcTxAmEntity) (grantLen : Nat) : Decidable (SendsFullSdu cfg s grantLen) :=
  inferInstanceAs (Decidable (∃ sdu ∈ pulledSdu cfg s none grantLen, _))

instance (cfg : RlcTxAmConfig) (s : RlcTxAmEntity) (grantLen : Nat) : Decidable (CompletesSdu cfg s grantLen) := by
  unfold CompletesSdu
  split
  · infer_instance
  · infer_instance

instance (cfg : RlcTxAmConfig) (x : RlcTxAmEntity × List SentPdu) : ∀ e, Decidable (CountsBytes cfg x e)
  | .handleSdu _ _ => inferInstanceAs (Decidable (_ ∧ _))
  | .pullPdu _ _ => inferInstanceAs (Decidable (_ ∧ _))

/-- The transmitter polls in time as long as each SDU has a byte and offsets of 16 bits, no PDU has all of an SDU while
the bytes are limited, and none completes the SDU whose SN is the last one before the maximum window. -/
theorem polls_in_time (cfg : RlcTxAmConfig) (es : List PollEvent) (hpdu : cfg.pollPdu < 2 ^ 31)
    (hbyte : cfg.pollByte < 2 ^ 31) (h : RunsWithin (pollStep cfg) (CountsBytes cfg) (init cfg, []) es) :
    HoldsThroughout (pollStep cfg) (PollsInTime cfg) (init cfg, []) es := by
  have hrun := runsWithin_yields (PollInv cfg) (fun x e hC hx => pollStep_yields hpdu hbyte hx hC) h (init_pollInv cfg)
  exact holdsThroughout_mono (fun x hx => hx.polls) hrun.1

def segmentsRun : List PollEvent :=
  [.handleSdu [0x80, 0, 1] false, .handleSdu [0x80, 1, 1] false, .pullPdu none 3, .pullPdu none 6, .pullPdu none 4]

theorem polls_in_time_segments :
    (runEvents (pollStep shortSnConfig) (init shortSnConfig, []) segmentsRun).toOption.map Prod.snd =
        some [⟨false, 1, false⟩, ⟨false, 2, false⟩, ⟨false, 2, false⟩] ∧
      HoldsThroughout (pollStep shortSnConfig) (PollsInTime shortSnConfig) (init shortSnConfig, []) segmentsRun :=
  ⟨by decide +kernel, polls_in_time shortSnConfig segmentsRun (by decide) (by decide) (by decide +kernel)⟩

def fullSdusRun : List PollEvent :=
  [.handleSdu ([0x80, 0] ++ List.replicate 11 0) false, .handleSdu ([0x80, 1] ++ List.replicate 11 0) false,
    .handleSdu [0x80, 2, 1] false, .pullPdu none 20, .pullPdu none 20]

/-- The bytes of whole SDUs are not counted. -/
theorem polls_not_in_time :
    ∃ x, runEvents (pollStep shortSnConfig) (init shortSnConfig, []) fullSdusRun = .ok x ∧
      x.2 = [⟨false, 13, false⟩, ⟨false, 13, false⟩] ∧ ¬PollsInTime shortSnConfig x := by
  have hrun : ∃ x, runEvents (pollStep shortSnConfig) (init shortSnConfig, []) fullSdusRun = .ok x ∧
      x.2 = [⟨false, 13, false⟩, ⟨false, 13, false⟩] := by decide +kernel
  obtain ⟨x, hx, hlog⟩ := hrun
  refine ⟨x, hx, hlog, fun hpolls => ?_⟩
  have hbelow := (hpolls.blocks x.2 List.infix_rfl (by rw [hlog]; decide)).bytes (by decide)
  rw [hlog] at hbelow
  exact absurd hbelow (by decide)

end RlcTxAmEntity

end OwlsRan.Rlc
