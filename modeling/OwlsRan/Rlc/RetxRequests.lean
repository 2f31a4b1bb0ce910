import OwlsRan.Rlc.NackMerging
import OwlsRan.Rlc.TxAmStatus

/-!
# The retransmissions that a STATUS PDU queues

`handle_status_pdu` clears the queue of retransmissions and fills it again, in the order of the NACKs, until it is full.
-/

namespace OwlsRan.Rlc
open OwlsRan.Lib OwlsRan.Adt

namespace RlcRetxQueue

def pushAll (q : RlcRetxQueue) (retxs : List RlcTxAmdRetx) : RlcRetxQueue :=
  retxs.foldl (fun q retx => (q.tryPush retx).2) q

variable {q : RlcRetxQueue}

lemma pushAll_capacity (retxs : List RlcTxAmdRetx) : (q.pushAll retxs).capacity = q.capacity := by
  induction retxs generalizing q with
  | nil => rfl
  | cons retx retxs ih =>
    have hone : (q.tryPush retx).2.capacity = q.capacity := by
      unfold tryPush
      split <;> rfl
    exact ih.trans hone

lemma pushAll_queue (retxs : List RlcTxAmdRetx) :
    (q.pushAll retxs).queue = q.queue ++ retxs.take (q.capacity - q.queue.length) := by
  induction retxs generalizing q with
  | nil =>
    rw [List.take_nil, List.append_nil]
    rfl
  | cons retx retxs ih =>
    unfold pushAll at ih ⊢
    rw [List.foldl_cons, ih]
    unfold tryPush
    split
    case isTrue hfull =>
      dsimp only
      rw [Nat.sub_eq_zero_of_le hfull, List.take_zero, List.take_zero]
    case isFalse hroom =>
      dsimp only
      rw [List.length_append, List.length_singleton, List.append_assoc]
      congr 1
      rw [show q.capacity - q.queue.length = q.capacity - (q.queue.length + 1) + 1 by omega, List.take_succ_cons]
      rfl

lemma pushAll_append (l₁ l₂ : List RlcTxAmdRetx) : q.pushAll (l₁ ++ l₂) = (q.pushAll l₁).pushAll l₂ :=
  List.foldl_append ..

lemma pop_capacity : q.pop.capacity = q.capacity := by
  unfold pop
  split <;> rfl

lemma replaceFront_capacity (retx : RlcTxAmdRetx) : (q.replaceFront retx).capacity = q.capacity := by
  unfold replaceFront
  split <;> rfl

end RlcRetxQueue

namespace RlcTxAmEntity

/-- An SN from `tx_next_ack` up to `tx_next`. -/
def NackInRange (cfg : RlcTxAmConfig) (s : RlcTxAmEntity) (sn : Nat) : Prop :=
  s.txModBase cfg s.st.txNextAck ≤ s.txModBase cfg sn ∧ s.txModBase cfg sn ≤ s.txModBase cfg s.st.txNext

instance (cfg : RlcTxAmConfig) (s : RlcTxAmEntity) (sn : Nat) : Decidable (NackInRange cfg s sn) :=
  inferInstanceAs (Decidable (_ ∧ _))

def CheckedNack.retx (sn : Nat) (checked : CheckedNack) : RlcTxAmdRetx :=
  ⟨sn, checked.soStart.toNat, checked.soEnd.toNat + 1 - checked.soStart.toNat⟩

def retxOf (nack : RlcAmStatusNack) (soEnd : UInt16) (sduLength : Nat) : RlcTxAmdRetx :=
  (sanitizeNack (if nack.hasSo then nack.soStart else 0) soEnd sduLength).retx nack.nackSn

def requested (cfg : RlcTxAmConfig) (s : RlcTxAmEntity) (nack : RlcAmStatusNack) : Option RlcTxAmdRetx :=
  if nack.hasNackRange then none
  else if ¬NackInRange cfg s nack.nackSn then none
  else
    (s.txWindow.find? nack.nackSn).bind fun sduInfo =>
      (s.nackEnd nack sduInfo).map fun soEnd => retxOf nack soEnd sduInfo.sdu.length

section Requests

variable {cfg : RlcTxAmConfig} {s s' s'' : RlcTxAmEntity} {nack : RlcAmStatusNack} {sn : Nat}

lemma nackEnd_congr {info info' : RlcTxAmSduInfo} (hunder : s'.snUnderSegmentation = s.snUnderSegmentation)
    (hsdu : info'.sdu = info.sdu) (hso : info'.nextSo = info.nextSo) : s'.nackEnd nack info' = s.nackEnd nack info := by
  unfold nackEnd
  rw [hunder, hsdu, hso]

lemma requested_congr (hcore : s'.core = s.core) : requested cfg s' = requested cfg s := by
  have hack : s'.st.txNextAck = s.st.txNextAck := congrArg TxCore.txNextAck hcore
  have hnext : s'.st.txNext = s.st.txNext := congrArg TxCore.txNext hcore
  have hunder : s'.snUnderSegmentation = s.snUnderSegmentation := congrArg TxCore.under hcore
  funext nack
  have hrange : NackInRange cfg s' nack.nackSn ↔ NackInRange cfg s nack.nackSn := by
    unfold NackInRange txModBase
    rw [hack, hnext]
  have hwindow : s'.core.window nack.nackSn = s.core.window nack.nackSn := by rw [hcore]
  unfold core at hwindow
  dsimp only at hwindow
  have hlookup : ((s'.txWindow.find? nack.nackSn).bind fun sduInfo =>
      (s'.nackEnd nack sduInfo).map fun soEnd => retxOf nack soEnd sduInfo.sdu.length) =
      (s.txWindow.find? nack.nackSn).bind fun sduInfo =>
        (s.nackEnd nack sduInfo).map fun soEnd => retxOf nack soEnd sduInfo.sdu.length := by
    cases hinfo : s.txWindow.find? nack.nackSn with
    | none =>
      rw [hinfo] at hwindow
      rw [Option.map_eq_none_iff.mp hwindow]
      rfl
    | some info =>
      rw [hinfo] at hwindow
      obtain ⟨info', hinfo', hsame⟩ := Option.map_eq_some_iff.mp hwindow
      obtain ⟨hsdu, hso⟩ := SentSdu.mk.inj hsame
      rw [hinfo', Option.bind_some, Option.bind_some, nackEnd_congr hunder hsdu hso, hsdu]
  unfold requested
  rw [hlookup]
  simp only [hrange]

lemma requested_present {retx : RlcTxAmdRetx} (h : requested cfg s nack = some retx) :
    retx.sn = nack.nackSn ∧ SduWindow.hasSn s.txWindow retx.sn = true := by
  unfold requested at h
  split_ifs at h
  obtain ⟨info, hinfo, hend⟩ := Option.bind_eq_some_iff.mp h
  obtain ⟨soEnd, -, rfl⟩ := Option.map_eq_some_iff.mp hend
  exact ⟨rfl, SduWindow.hasSn_iff.mpr ⟨info, hinfo⟩⟩

/-- What the handling of NACKs changes: the retransmissions are queued that are asked for. -/
structure Requested (cfg : RlcTxAmConfig) (nacks : List RlcAmStatusNack) (s s' : RlcTxAmEntity) : Prop where
  core : s'.core = s.core
  window : WindowOk cfg s'.txWindow
  retxQueue : s'.retxQueue = s.retxQueue.pushAll (nacks.filterMap (requested cfg s))
  sduQueue : s'.sduQueue = s.sduQueue
  present : ∀ nack ∈ nacks, nack.hasNackRange = false → NackInRange cfg s nack.nackSn →
    SduWindow.hasSn s.txWindow nack.nackSn = true

lemma Requested.nil (hw : WindowOk cfg s.txWindow) : Requested cfg [] s s :=
  ⟨rfl, hw, rfl, rfl, fun _ hn => nomatch hn⟩

lemma hasSn_congr (hcore : s'.core = s.core) (sn : Nat) :
    SduWindow.hasSn s'.txWindow sn = SduWindow.hasSn s.txWindow sn := by
  have hiff : SduWindow.hasSn s'.txWindow sn = true ↔ SduWindow.hasSn s.txWindow sn = true := by
    rw [SduWindow.hasSn_iff, SduWindow.hasSn_iff]
    have hwindow : s'.core.window sn = s.core.window sn := by rw [hcore]
    unfold RlcTxAmEntity.core at hwindow
    dsimp only at hwindow
    constructor
    · rintro ⟨info', hinfo'⟩
      rw [hinfo'] at hwindow
      obtain ⟨info, hinfo, -⟩ := Option.map_eq_some_iff.mp hwindow.symm
      exact ⟨info, hinfo⟩
    · rintro ⟨info, hinfo⟩
      rw [hinfo] at hwindow
      obtain ⟨info', hinfo', -⟩ := Option.map_eq_some_iff.mp hwindow
      exact ⟨info', hinfo'⟩
  exact Bool.eq_iff_iff.mpr hiff

lemma Requested.append {l₁ l₂ : List RlcAmStatusNack} (h : Requested cfg l₁ s s') (h' : Requested cfg l₂ s' s'') :
    Requested cfg (l₁ ++ l₂) s s'' := by
  refine ⟨h'.core.trans h.core, h'.window, ?_, h'.sduQueue.trans h.sduQueue, fun nack hnack hplain hrange => ?_⟩
  · rw [h'.retxQueue, h.retxQueue, List.filterMap_append, RlcRetxQueue.pushAll_append, requested_congr h.core]
  · rcases List.mem_append.mp hnack with hmem | hmem
    · exact h.present nack hmem hplain hrange
    · rw [← hasSn_congr h.core]
      apply h'.present nack hmem hplain
      unfold NackInRange txModBase
      rw [show s'.st.txNextAck = s.st.txNextAck from congrArg TxCore.txNextAck h.core,
        show s'.st.txNext = s.st.txNext from congrArg TxCore.txNext h.core]
      exact hrange

lemma enqueueRetx_requested (s : RlcTxAmEntity) (sn : Nat) (checked : CheckedNack) :
    (s.enqueueRetx sn checked).2.core = s.core ∧ (s.enqueueRetx sn checked).2.txWindow = s.txWindow ∧
      (s.enqueueRetx sn checked).2.sduQueue = s.sduQueue ∧
      (s.enqueueRetx sn checked).2.retxQueue = (s.retxQueue.tryPush (checked.retx sn)).2 := by
  unfold enqueueRetx RlcRetxQueue.tryPush CheckedNack.retx notify
  dsimp only
  split_ifs
  · exact ⟨rfl, rfl, rfl, rfl⟩
  · exact ⟨rfl, rfl, rfl, rfl⟩

lemma handleNack_requested (hw : WindowOk cfg s.txWindow) (nack : RlcAmStatusNack) :
    Yields (handleNack cfg s nack) (fun res => Requested cfg [nack] s res.2) fun _ => True := by
  unfold handleNack
  refine yields_ite (fun hranged => ?_) fun hplain => ?_
  · refine ⟨rfl, hw, ?_, rfl, fun n hn hplain => ?_⟩
    · unfold requested
      simp only [List.filterMap_cons, List.filterMap_nil, if_pos hranged]
      rfl
    · rw [List.mem_singleton.mp hn] at hplain
      rw [hplain] at hranged
      cases hranged
  · refine yields_ite (fun hout => ?_) fun hin => ?_
    · have hout' : ¬NackInRange cfg s nack.nackSn := hout
      refine ⟨rfl, hw, ?_, rfl, fun n hn _ hrange => ?_⟩
      · unfold requested
        simp only [List.filterMap_cons, List.filterMap_nil, if_neg hplain, if_pos hout']
        rfl
      · rw [List.mem_singleton.mp hn] at hrange
        exact absurd hrange hout
    · have hin' : NackInRange cfg s nack.nackSn := not_not.mp hin
      cases hinfo : s.txWindow.find? nack.nackSn with
      | none =>
        have habsent : SduWindow.atSn s.txWindow nack.nackSn = .error .snAbsent := by
          unfold SduWindow.atSn
          rw [hinfo]
        rw [habsent]
        trivial
      | some info =>
        refine yields_bind (SduWindow.yields_atSn hinfo) ?_
        rintro info' hinfo'
        obtain rfl : info' = info := hinfo'
        have hpresent : ∀ n ∈ [nack], n.hasNackRange = false → NackInRange cfg s n.nackSn →
            SduWindow.hasSn s.txWindow n.nackSn = true := by
          intro n hn _ _
          rw [List.mem_singleton.mp hn]
          exact SduWindow.hasSn_iff.mpr ⟨info', hinfo⟩
        have hrequested : requested cfg s nack =
            (s.nackEnd nack info').map fun soEnd => retxOf nack soEnd info'.sdu.length := by
          unfold requested
          rw [if_neg hplain, if_neg (not_not.mpr hin'), hinfo]
          rfl
        cases hend : s.nackEnd nack info' with
        | none =>
          refine ⟨rfl, hw, ?_, rfl, hpresent⟩
          rw [hend] at hrequested
          simp only [List.filterMap_cons, List.filterMap_nil, hrequested]
          rfl
        | some soEnd =>
          rw [hend] at hrequested
          obtain ⟨hcore, hwindow, hsdus, hqueue⟩ := enqueueRetx_requested s nack.nackSn
            (sanitizeNack (if nack.hasSo then nack.soStart else 0) soEnd info'.sdu.length)
          refine ⟨hcore, hwindow ▸ hw, hqueue.trans ?_, hsdus, hpresent⟩
          simp only [List.filterMap_cons, List.filterMap_nil, hrequested]
          rfl

lemma incrementRetxCount_requested (hw : WindowOk cfg s.txWindow) (sn : Nat) :
    Yields (incrementRetxCount cfg s sn) (Requested cfg [] s) fun _ => True := by
  unfold incrementRetxCount
  cases hinfo : s.txWindow.find? sn with
  | none =>
    have habsent : SduWindow.modifySn s.txWindow sn countRetx = .error .snAbsent := by
      unfold SduWindow.modifySn
      rw [SduWindow.hasSn_eq_false_iff.mpr hinfo]
      rfl
    rw [habsent]
    trivial
  | some info =>
    refine yields_bind (yields_modifyInfo hw hinfo) ?_
    rintro w ⟨hw', hfind⟩
    refine yields_bind (SduWindow.yields_atSn ((hfind sn).trans (if_pos rfl))) fun _ _ => ?_
    have hcore : RlcTxAmEntity.core { s with txWindow := w } = s.core :=
      core_modify (f := countRetx) hinfo (fun _ => ⟨rfl, rfl⟩) hfind
    exact ⟨hcore, hw', rfl, rfl, fun _ hn => nomatch hn⟩

lemma processItem_requested (hw : WindowOk cfg s.txWindow) (prevRetxSn : Option Nat) (nack : RlcAmStatusNack) :
    Yields (processItem cfg (s, prevRetxSn) nack) (fun res => Requested cfg [nack] s res.1) fun _ => True := by
  unfold processItem processNack
  refine yields_bind (handleNack_requested hw nack) ?_
  rintro ⟨enqueued, s₁⟩ hs₁
  refine yields_ite (fun _ => ?_) fun _ => hs₁
  exact yields_bind (incrementRetxCount_requested hs₁.window nack.nackSn) fun s₂ hs₂ => hs₁.append hs₂

lemma processItems_requested (items : List RlcAmStatusNack) (hw : WindowOk cfg s.txWindow) (prevRetxSn : Option Nat) :
    Yields (items.foldlM (processItem cfg) (s, prevRetxSn)) (fun res => Requested cfg items s res.1) fun _ => True := by
  induction items generalizing s prevRetxSn with
  | nil => exact .nil hw
  | cons item items ih =>
    rw [List.foldlM_cons]
    refine yields_bind (processItem_requested hw prevRetxSn item) ?_
    rintro ⟨s₁, prevRetxSn₁⟩ hs₁
    exact (ih hs₁.window prevRetxSn₁).post fun res hres => hs₁.append hres

end Requests

structure Dropped (cfg : RlcTxAmConfig) (s s' : RlcTxAmEntity) : Prop where
  window : WindowOk cfg s'.txWindow
  txNext : s'.st.txNext = s.st.txNext
  under : s'.snUnderSegmentation = s.snUnderSegmentation
  infos : ∀ sn v, s'.core.window sn = some v → s.core.window sn = some v
  capacity : s'.retxQueue.capacity = s.retxQueue.capacity
  sdus : ∀ sdu ∈ s'.sduQueue.queue, sdu ∈ s.sduQueue.queue

section Status

variable {cfg : RlcTxAmConfig} {s s' s'' : RlcTxAmEntity} {status : RlcAmStatusPdu}

lemma Dropped.refl (hw : WindowOk cfg s.txWindow) : Dropped cfg s s :=
  ⟨hw, rfl, rfl, fun _ _ hv => hv, rfl, fun _ hsdu => hsdu⟩

lemma Dropped.trans (h : Dropped cfg s s') (h' : Dropped cfg s' s'') : Dropped cfg s s'' :=
  ⟨h'.window, h'.txNext.trans h.txNext, h'.under.trans h.under, fun sn v hv => h.infos sn v (h'.infos sn v hv),
    h'.capacity.trans h.capacity, fun sdu hsdu => h.sdus sdu (h'.sdus sdu hsdu)⟩

lemma Dropped.of_core (hcore : s'.core = s.core) (hw : WindowOk cfg s'.txWindow)
    (hcapacity : s'.retxQueue.capacity = s.retxQueue.capacity)
    (hsdus : ∀ sdu ∈ s'.sduQueue.queue, sdu ∈ s.sduQueue.queue) : Dropped cfg s s' :=
  ⟨hw, congrArg TxCore.txNext hcore, congrArg TxCore.under hcore, fun sn v hv => by rwa [hcore] at hv, hcapacity, hsdus⟩

lemma dropAbsentRetx_capacity (w : SduWindow RlcTxAmSduInfo) (l : List RlcTxAmdRetx) (q : RlcRetxQueue) :
    (dropAbsentRetx w l q).capacity = q.capacity := by
  induction l generalizing q with
  | nil => rfl
  | cons retx rest ih =>
    unfold dropAbsentRetx
    split
    · rfl
    · exact (ih q.pop).trans RlcRetxQueue.pop_capacity

lemma updateMacBufferState_dropped (hw : WindowOk cfg s.txWindow) : Dropped cfg s (s.updateMacBufferState cfg) := by
  obtain ⟨hcore, hwindow, hsdus, -⟩ := updateMacBufferState_keeps cfg s
  refine .of_core hcore (hwindow ▸ hw) ?_ hsdus
  unfold updateMacBufferState getBufferState
  dsimp only
  split
  · exact dropAbsentRetx_capacity _ _ _
  · exact dropAbsentRetx_capacity _ _ _

lemma processAcks_dropped (hw : WindowOk cfg s.txWindow) (stopSn fuel : Nat) (delivered : DeliveredSns) (sn : Nat) :
    Yields (processAcks cfg stopSn fuel s delivered sn) (fun res => Dropped cfg s res.1) fun _ => True := by
  induction fuel generalizing s delivered sn with
  | zero => trivial
  | succ fuel ih =>
    unfold processAcks
    refine yields_ite (fun _ => ?_) fun _ => .refl hw
    cases hinfo : s.txWindow.find? sn with
    | none => exact Dropped.refl hw
    | some info =>
      refine yields_bind (yields_removeInfo hw hinfo) ?_
      rintro w ⟨hw', hfind⟩
      have hone : Dropped cfg s { s with
          txWindow := w, st := { s.st with txNextAck := (sn + 1) % cfg.mod } } := by
        refine ⟨hw', rfl, rfl, fun j v hv => ?_, rfl, fun _ hsdu => hsdu⟩
        obtain ⟨info', hinfo', hv'⟩ := core_window.mp hv
        rw [show w.find? j = _ from hfind j] at hinfo'
        split at hinfo'
        · cases hinfo'
        · exact core_window.mpr ⟨info', hinfo', hv'⟩
      exact (ih hw' _ _).post fun res hres => hone.trans hres

lemma clearRetxQueue_queue {l : List RlcTxAmdRetx} (hl : s.retxQueue.queue = l) :
    (clearRetxQueue l s).retxQueue.queue = [] ∧
      (clearRetxQueue l s).retxQueue.capacity = s.retxQueue.capacity := by
  induction l generalizing s with
  | nil => exact ⟨hl, rfl⟩
  | cons retx rest ih =>
    have hpop : s.retxQueue.pop.queue = rest := by
      unfold RlcRetxQueue.pop
      rw [hl]
    have hqueue : ∀ t : RlcTxAmEntity, t.retxQueue = s.retxQueue →
        (clearRetxQueue rest { t with retxQueue := t.retxQueue.pop }).retxQueue.queue = [] ∧
          (clearRetxQueue rest { t with retxQueue := t.retxQueue.pop }).retxQueue.capacity = s.retxQueue.capacity := by
      intro t ht
      obtain ⟨hempty, hcapacity⟩ := ih (s := { t with retxQueue := t.retxQueue.pop }) (by rw [ht]; exact hpop)
      exact ⟨hempty, hcapacity.trans (RlcRetxQueue.pop_capacity.trans (congrArg _ ht))⟩
    unfold clearRetxQueue
    dsimp only
    split_ifs
    · exact hqueue s rfl
    · exact hqueue { s with txWindow := _, retxSn := some retx.sn } rfl
    · exact hqueue { s with txWindow := _, retxSn := some retx.sn } rfl

lemma dropRetx_of_present (h : ∀ retx ∈ s.retxQueue.queue, SduWindow.hasSn s.txWindow retx.sn = true) :
    s.dropRetx.retxQueue = s.retxQueue := by
  unfold dropRetx dropAbsentRetx
  split
  case h_1 => rfl
  case h_2 retx rest hqueue =>
    rw [if_pos (h retx (hqueue ▸ List.mem_cons_self))]

lemma updateMacBufferState_retxQueue (h : ∀ retx ∈ s.retxQueue.queue, SduWindow.hasSn s.txWindow retx.sn = true) :
    (s.updateMacBufferState cfg).retxQueue = s.retxQueue := by
  unfold updateMacBufferState getBufferState
  dsimp only
  split
  · exact dropRetx_of_present (s := { s with sduQueue := s.sduQueue.front.2 }) h
  · exact dropRetx_of_present h

def nackItems (cfg : RlcTxAmConfig) (status : RlcAmStatusPdu) : List RlcAmStatusNack :=
  status.nacks.flatMap (expand cfg status.ackSn)

/-- The queue after a STATUS PDU that passes the checks: what its NACKs ask for once the SNs before the first of them
have been acknowledged. -/
lemma applyStatusPdu_requested (hw : WindowOk cfg s.txWindow) (hsn : ∀ nack ∈ status.nacks, nack.nackSn < cfg.mod) :
    Yields (applyStatusPdu cfg s status) (fun s' => ∃ t, Dropped cfg s t ∧ Dropped cfg t s' ∧
      s'.retxQueue.queue = ((nackItems cfg status).filterMap (requested cfg t)).take s.retxQueue.capacity ∧
      ∀ item ∈ nackItems cfg status, item.hasNackRange = false → NackInRange cfg t item.nackSn →
        SduWindow.hasSn t.txWindow item.nackSn = true) fun _ => True := by
  have hstopped : Dropped cfg s (s.stopPollTimer cfg status.ackSn) := by
    unfold stopPollTimer
    split
    · exact .of_core rfl hw rfl fun _ hsdu => hsdu
    · exact .refl hw
  unfold applyStatusPdu
  dsimp only
  refine yields_bind (processAcks_dropped hstopped.window _ _ _ _) ?_
  rintro ⟨s₁, delivered⟩ hs₁
  dsimp only at hs₁ ⊢
  obtain ⟨hempty, hcapacity⟩ := clearRetxQueue_queue (s := s₁.notify delivered.notices) rfl
  have hcleared := clearRetxQueue_nacked (s := s₁.notify delivered.notices) rfl hs₁.window
  generalize clearRetxQueue (s₁.notify delivered.notices).retxQueue.queue (s₁.notify delivered.notices) = t at *
  have hdropped : Dropped cfg s t :=
    (hstopped.trans hs₁).trans (.of_core hcleared.core hcleared.window hcapacity fun _ hsdu =>
      hcleared.sduQueue ▸ hsdu)
  have hnacks : Yields (processNacks cfg status.ackSn status.nacks t none) (Requested cfg (nackItems cfg status) t)
      fun _ => True := by
    rw [processNacks_eq hsn]
    have hitems := processItems_requested (nackItems cfg status) hdropped.window none
    unfold nackItems at hitems ⊢
    cases hfold : (status.nacks.flatMap (expand cfg status.ackSn)).foldlM (processItem cfg) (t, none) with
    | error a => trivial
    | ok res =>
      rw [hfold] at hitems
      exact hitems
  refine yields_bind hnacks fun s₂ hs₂ => ?_
  have hrequested : Dropped cfg t s₂ := .of_core hs₂.core hs₂.window
    ((congrArg _ hs₂.retxQueue).trans (RlcRetxQueue.pushAll_capacity _)) fun _ hsdu => hs₂.sduQueue ▸ hsdu
  have hqueue : s₂.retxQueue.queue = ((nackItems cfg status).filterMap (requested cfg t)).take s.retxQueue.capacity := by
    rw [hs₂.retxQueue, RlcRetxQueue.pushAll_queue, hempty, hdropped.capacity]
    rfl
  have hpresent : ∀ retx ∈ s₂.retxQueue.queue, SduWindow.hasSn s₂.txWindow retx.sn = true := by
    intro retx hretx
    rw [hqueue] at hretx
    obtain ⟨item, -, hitem⟩ := List.mem_filterMap.mp (List.mem_of_mem_take hretx)
    rw [hasSn_congr hs₂.core]
    exact (requested_present hitem).2
  have hsame : (s₂.updateMacBufferState cfg).retxQueue = s₂.retxQueue := updateMacBufferState_retxQueue hpresent
  exact ⟨t, hdropped, hrequested.trans (updateMacBufferState_dropped hs₂.window), hsame ▸ hqueue, hs₂.present⟩

lemma applyStatusPdu_dropped (hw : WindowOk cfg s.txWindow) (hsn : ∀ nack ∈ status.nacks, nack.nackSn < cfg.mod) :
    Yields (applyStatusPdu cfg s status) (Dropped cfg s) fun _ => True := by
  refine (applyStatusPdu_requested hw hsn).post fun s' hs' => ?_
  obtain ⟨t, hdropped, hrequested, -⟩ := hs'
  exact hdropped.trans hrequested

lemma handleStatusPdu_dropped (hw : WindowOk cfg s.txWindow) (hsn : ∀ nack ∈ status.nacks, nack.nackSn < cfg.mod) :
    Yields (handleStatusPdu cfg s status) (Dropped cfg s) fun _ => True := by
  have hignored : ∀ notices, Dropped cfg s (s.notify notices) := fun _ => .of_core rfl hw rfl fun _ hsdu => hsdu
  unfold handleStatusPdu
  refine yields_ite (fun _ => .refl hw) fun _ => yields_ite (fun _ => hignored _) fun _ => ?_
  split
  · exact hignored _
  · exact applyStatusPdu_dropped hw hsn

lemma onExpiredPollRetransmitTimer_dropped (hw : WindowOk cfg s.txWindow) :
    Yields (onExpiredPollRetransmitTimer cfg s) (Dropped cfg s) fun _ => True := by
  unfold onExpiredPollRetransmitTimer
  refine yields_ite (fun _ => ?_) fun _ => .refl hw
  cases s.txWindow.find? s.st.txNextAck with
  | none => exact Dropped.refl hw
  | some info =>
    dsimp only
    have hcapacity := RlcRetxQueue.pushAll_capacity (q := s.retxQueue) [⟨s.st.txNextAck, 0, info.sdu.length⟩]
    change (s.retxQueue.tryPush _).2.capacity = _ at hcapacity
    split
    case h_1 q hq =>
      rw [hq] at hcapacity
      have hpushed : Dropped cfg s { s with retxQueue := q } := .of_core rfl hw hcapacity fun _ hsdu => hsdu
      refine yields_bind (incrementRetxCount_requested hpushed.window s.st.txNextAck) fun s₁ hs₁ => ?_
      have hcounted : Dropped cfg s s₁ := hpushed.trans
        (.of_core hs₁.core hs₁.window (congrArg _ hs₁.retxQueue) fun _ hsdu => hs₁.sduQueue ▸ hsdu)
      exact hcounted.trans (updateMacBufferState_dropped hcounted.window)
    case h_2 => exact updateMacBufferState_dropped hw

end Status

end RlcTxAmEntity

end OwlsRan.Rlc
