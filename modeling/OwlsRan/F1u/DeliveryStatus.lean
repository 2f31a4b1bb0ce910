import OwlsRan.F1u.F1uBearer
import OwlsRan.Lib.EventRun
import OwlsRan.Lib.SampledRegister

/-!
# UL SDUs and delivery statuses on their way from the DU to the CU-UP

A status leaves with an SDU, which may have to wait in the UL buffer, or in a frame of its own, which never waits.
-/

namespace OwlsRan.F1u
open OwlsRan.Lib

def writesTo (k : RlcVariable) (ws : List RlcStore) : List UInt32 :=
  ws.filterMap fun w => if w.target = k then some w.value else none

lemma writesTo_append (k : RlcVariable) (ws ws' : List RlcStore) :
    writesTo k (ws ++ ws') = writesTo k ws ++ writesTo k ws' := List.filterMap_append

namespace StatusStores

variable (w : StatusStores)

def before : RlcVariable → List RlcStore
  | .desiredBufferSizeForDataRadioBearer => w.desiredBufferSize
  | .highestTransmittedPdcpSn => w.desiredBufferSize ++ w.transmitted
  | .highestDeliveredPdcpSn => w.desiredBufferSize ++ w.transmitted ++ w.delivered
  | .highestRetransmittedPdcpSn => w.desiredBufferSize ++ w.transmitted ++ w.delivered ++ w.retransmitted
  | .highestDeliveredRetransmittedPdcpSn =>
    w.desiredBufferSize ++ w.transmitted ++ w.delivered ++ w.retransmitted ++ w.deliveredRetransmitted

def all : List RlcStore := w.before .highestDeliveredRetransmittedPdcpSn

def after : RlcVariable → List RlcStore
  | .desiredBufferSizeForDataRadioBearer =>
    w.transmitted ++ w.delivered ++ w.retransmitted ++ w.deliveredRetransmitted
  | .highestTransmittedPdcpSn => w.delivered ++ w.retransmitted ++ w.deliveredRetransmitted
  | .highestDeliveredPdcpSn => w.retransmitted ++ w.deliveredRetransmitted
  | .highestRetransmittedPdcpSn => w.deliveredRetransmitted
  | .highestDeliveredRetransmittedPdcpSn => []

lemma all_eq (k : RlcVariable) : w.all = w.before k ++ w.after k := by
  cases k <;> simp [all, before, after]

end StatusStores

namespace ReportedValue

def filled (v : ReportedValue) : RlcVariable → ReportedValue
  | .desiredBufferSizeForDataRadioBearer => v.report
  | .highestTransmittedPdcpSn | .highestDeliveredPdcpSn => v.fillLatest.2.2
  | .highestRetransmittedPdcpSn | .highestDeliveredRetransmittedPdcpSn => v.fillChanged.2.2

variable (v : ReportedValue)

@[simp] lemma fillChanged_fresh : v.fillChanged.2.1 = v.fresh := by
  unfold fillChanged
  split <;> simp_all

@[simp] lemma fillChanged_stored : v.fillChanged.2.2.stored = v.stored := by
  unfold fillChanged
  split <;> rfl

@[simp] lemma fillLatest_stored : v.fillLatest.2.2.stored = v.stored := by
  unfold fillLatest
  split <;> rfl

@[simp] lemma report_stored : v.report.stored = v.stored := rfl

end ReportedValue

namespace DuF1uBearer

variable (b : DuF1uBearer)

def valueAt (w : StatusStores) (k : RlcVariable) : ReportedValue :=
  { b.values k with stored := lastOr (b.values k).stored (writesTo k (w.before k)) }

def hasFreshValues (w : StatusStores) : Bool :=
  (b.valueAt w .desiredBufferSizeForDataRadioBearer).fresh ||
    (b.valueAt w .highestTransmittedPdcpSn).fillLatest.2.1 || (b.valueAt w .highestDeliveredPdcpSn).fillLatest.2.1 ||
    (b.valueAt w .highestRetransmittedPdcpSn).fresh || (b.valueAt w .highestDeliveredRetransmittedPdcpSn).fresh

lemma storeAll_spec (ws : List RlcStore) :
    b.storeAll ws = { b with values := fun k =>
      { b.values k with stored := lastOr (b.values k).stored (writesTo k ws) } } := by
  unfold storeAll
  induction ws generalizing b with
  | nil => rfl
  | cons w ws ih =>
    rw [List.foldl_cons, ih]
    simp only [store, setValue, DuF1uBearer.mk.injEq, true_and]
    funext k
    by_cases hk : w.target = k
    · subst hk
      simp [writesTo, lastOr_cons]
    · simp [writesTo, hk, Function.update_of_ne (Ne.symm hk)]

lemma fillLatest_eq (k : RlcVariable) : b.fillLatest k =
    ((b.values k).fillLatest.1, (b.values k).fillLatest.2.1, b.setValue k (b.values k).fillLatest.2.2) := rfl

lemma fillChanged_eq (k : RlcVariable) : b.fillChanged k =
    ((b.values k).fillChanged.1, (b.values k).fillChanged.2.1, b.setValue k (b.values k).fillChanged.2.2) := rfl

lemma fillDataDeliveryStatus_spec (w : StatusStores) :
    b.fillDataDeliveryStatus w =
      (⟨(b.valueAt w .desiredBufferSizeForDataRadioBearer).stored,
        (b.valueAt w .highestTransmittedPdcpSn).fillLatest.1, (b.valueAt w .highestDeliveredPdcpSn).fillLatest.1,
        (b.valueAt w .highestRetransmittedPdcpSn).fillChanged.1,
        (b.valueAt w .highestDeliveredRetransmittedPdcpSn).fillChanged.1⟩, b.hasFreshValues w,
        { b with values := fun k => { (b.valueAt w k).filled k with
            stored := lastOr (b.values k).stored (writesTo k w.all) } }) := by
  simp only [fillDataDeliveryStatus, fillDesiredBufferSizeOfDataRadioBearer, fillHighestTransmittedPdcpSn,
    fillHighestDeliveredPdcpSn, fillHighestRetransmittedPdcpSn, fillHighestDeliveredRetransmittedPdcpSn, fillLatest_eq,
    fillChanged_eq, storeAll_spec, setValue]
  simp only [Prod.mk.injEq, NruDlDataDeliveryStatus.mk.injEq, DuF1uBearer.mk.injEq, true_and]
  refine ⟨?_, ?_, ?_⟩
  · simp [valueAt, StatusStores.before, writesTo_append, lastOr_append]
  · simp [hasFreshValues, valueAt, StatusStores.before, writesTo_append, lastOr_append]
  · funext k
    cases k <;> ext <;>
      simp [valueAt, StatusStores.all, StatusStores.before, writesTo_append, lastOr_append, ReportedValue.filled]

end DuF1uBearer

/-- The two values that the CU-UP compares with the last ones before it passes them on. -/
inductive LatestValue where
  | transmitted
  | delivered
deriving DecidableEq

namespace LatestValue

def rlcVariable : LatestValue → RlcVariable
  | transmitted => .highestTransmittedPdcpSn
  | delivered => .highestDeliveredPdcpSn

def inStatus : LatestValue → NruDlDataDeliveryStatus → Option UInt32
  | transmitted, status => status.highestTransmittedPdcpSn
  | delivered, status => status.highestDeliveredPdcpSn

def notif : LatestValue → CuUpF1uBearer → UInt32
  | transmitted, b => b.notifHighestTransmittedPdcpSn
  | delivered, b => b.notifHighestDeliveredPdcpSn

def passed : LatestValue → CuUpNotification → Option UInt32
  | transmitted => fun
    | .onTransmitNotification pdcpSn => some pdcpSn
    | _ => none
  | delivered => fun
    | .onDeliveryNotification pdcpSn => some pdcpSn
    | _ => none

end LatestValue

namespace NruUlMessage

def retransmitted (msg : NruUlMessage) : Option UInt32 := msg.dataDeliveryStatus.bind (·.highestRetransmittedPdcpSn)

def latest (k : LatestValue) (msg : NruUlMessage) : Option UInt32 := msg.dataDeliveryStatus.bind k.inStatus

end NruUlMessage

namespace CuUpNotification

def newSdu : CuUpNotification → Option (List UInt8)
  | onNewSdu sdu => some sdu
  | _ => none

def retransmitted : CuUpNotification → Option UInt32
  | onRetransmitNotification pdcpSn => some pdcpSn
  | _ => none

end CuUpNotification

/-- The bearers of a DRB at the DU and at the CU-UP, the frames between them, what the CU-UP passed to the upper layers,
and histories: the stores of the RLC, the SDUs that were not dropped, the statuses that were put into a message, and the
messages that were delivered. -/
structure UplinkPath where
  du : DuF1uBearer
  nru : List NruUlMessage
  cuUp : CuUpF1uBearer
  notified : List CuUpNotification
  stores : List RlcStore
  accepted : List UlSdu
  reported : List NruDlDataDeliveryStatus
  received : List NruUlMessage

inductive UplinkPathEvent where
  | handleSdu (sdu : UlSdu) (w : StatusStores)
  | rlcStore (store : RlcStore)
  | handlePdu (msg : NruDlMessage) (w : StatusStores)
  | ulNotifTimerExpired (w : StatusStores)
  | flushUlBuffer
  /-- The transport delivers the oldest message to the CU-UP. -/
  | deliver
deriving DecidableEq

namespace UplinkPath

def init (cfg : DuF1uConfig) : UplinkPath where
  du := .init cfg
  nru := []
  cuUp := {}
  notified := []
  stores := []
  accepted := []
  reported := []
  received := []

variable (s : UplinkPath)

def drops : Bool := s.du.buffering && s.du.ulBufferFull

def deliver : UplinkPath :=
  match s.nru with
  | [] => s
  | msg :: nru =>
    let (cuUp, notified) := s.cuUp.handlePduImpl msg
    { s with nru := nru, cuUp := cuUp, notified := s.notified ++ notified, received := s.received ++ [msg] }

def sendStatus (r : DuF1uBearer × List NruUlMessage) (w : StatusStores) : UplinkPath :=
  { s with
    du := r.1
    nru := s.nru ++ r.2
    stores := s.stores ++ w.all
    reported := s.reported ++ r.2.filterMap (·.dataDeliveryStatus) }

def next : UplinkPathEvent → UplinkPath
  | .handleSdu sdu w =>
    let (du, sent) := s.du.handleSdu sdu w
    { s with
      du := du
      nru := s.nru ++ sent
      stores := s.stores ++ w.all
      accepted := if s.drops then s.accepted else s.accepted ++ [sdu]
      reported := s.reported ++ [(s.du.fillDataDeliveryStatus w).1] }
  | .rlcStore store => { s with du := s.du.store store, stores := s.stores ++ [store] }
  | .handlePdu msg w =>
    let (du, _, sent) := s.du.handlePduImpl msg w
    if msg.dlUserData.reportPolling then s.sendStatus (du, sent) w else { s with du := du, nru := s.nru ++ sent }
  | .ulNotifTimerExpired w => s.sendStatus (s.du.onExpiredUlNotifTimer w) w
  | .flushUlBuffer =>
    let (du, sent) := s.du.flushUlBuffer
    { s with du := du, nru := s.nru ++ sent }
  | .deliver => s.deliver

def step (e : UplinkPathEvent) : Except Empty UplinkPath := .ok (s.next e)

def Settled : Prop := s.du.buffering = false ∧ s.nru = []

structure InOrder : Prop where
  sdus : s.notified.filterMap (·.newSdu) <+: s.accepted.map (·.val)
  latest : ∀ k, (s.notified.filterMap (LatestValue.passed k)).Sublist (writesTo k.rlcVariable s.stores)

structure Complete : Prop where
  sdus : s.notified.filterMap (·.newSdu) = s.accepted.map (·.val)
  retransmitted : (s.notified.filterMap (·.retransmitted)).Perm (s.reported.filterMap (·.highestRetransmittedPdcpSn))

def StatusInOrder (w : StatusStores) (k : LatestValue) : Prop :=
  ∀ v ∈ (s.du.valueAt w k.rlcVariable).fillLatest.1, ∀ x ∈ s.du.ulBuffer.filterMap (·.latest k), x = v

/-- A status that is sent directly overtakes no message with other values, and a message that is dropped holds no
retransmitted SN. -/
def Undisturbed : UplinkPathEvent → Prop
  | .handleSdu _ w => s.drops → (s.du.valueAt w .highestRetransmittedPdcpSn).fresh = false
  | .handlePdu msg w => msg.dlUserData.reportPolling → s.StatusInOrder w .transmitted ∧ s.StatusInOrder w .delivered
  | .ulNotifTimerExpired w => s.du.hasFreshValues w → s.StatusInOrder w .transmitted ∧ s.StatusInOrder w .delivered
  | _ => True

section Bearers

lemma filterMap_singleton {α β : Type*} (f : α → Option β) (a : α) : [a].filterMap f = (f a).toList := by
  cases h : f a <;> simp [h]

lemma fill_spec (b : DuF1uBearer) (w : StatusStores) :
    (∀ k : LatestValue, k.inStatus (b.fillDataDeliveryStatus w).1 = (b.valueAt w k.rlcVariable).fillLatest.1) ∧
      (b.fillDataDeliveryStatus w).1.highestRetransmittedPdcpSn =
        (b.valueAt w .highestRetransmittedPdcpSn).fillChanged.1 ∧
      (b.fillDataDeliveryStatus w).2.1 = b.hasFreshValues w ∧
      (∀ k, ((b.fillDataDeliveryStatus w).2.2.values k).stored =
        lastOr (b.values k).stored (writesTo k w.all)) ∧
      (b.fillDataDeliveryStatus w).2.2.cfg = b.cfg ∧ (b.fillDataDeliveryStatus w).2.2.buffering = b.buffering ∧
      (b.fillDataDeliveryStatus w).2.2.ulBuffer = b.ulBuffer := by
  rw [b.fillDataDeliveryStatus_spec w]
  refine ⟨fun k => ?_, rfl, rfl, fun k => rfl, rfl, rfl, rfl⟩
  cases k <;> rfl

lemma notifyChange_eq (notif : UInt32) (call : UInt32 → CuUpNotification) (sn : Option UInt32) :
    CuUpF1uBearer.notifyChange notif call sn = (lastOr notif sn.toList, (changes notif sn.toList).map call) := by
  cases sn with
  | none => rfl
  | some v =>
    by_cases h : v = notif
    · simp [CuUpF1uBearer.notifyChange, changes, lastOr, h]
    · simp [CuUpF1uBearer.notifyChange, changes, lastOr, h]

lemma notifyAlways_eq (call : UInt32 → CuUpNotification) (sn : Option UInt32) :
    CuUpF1uBearer.notifyAlways call sn = sn.toList.map call := by
  cases sn <;> rfl

lemma handleDataDeliveryStatus_spec (b : CuUpF1uBearer) (status : NruDlDataDeliveryStatus) :
    (b.handleDataDeliveryStatus status).2.filterMap (·.newSdu) = [] ∧
      (∀ k, (b.handleDataDeliveryStatus status).2.filterMap (LatestValue.passed k) =
        changes (k.notif b) (k.inStatus status).toList) ∧
      (∀ k : LatestValue, k.notif (b.handleDataDeliveryStatus status).1 =
        lastOr (k.notif b) (k.inStatus status).toList) ∧
      (b.handleDataDeliveryStatus status).2.filterMap (·.retransmitted) =
        status.highestRetransmittedPdcpSn.toList := by
  unfold CuUpF1uBearer.handleDataDeliveryStatus
  simp only [notifyChange_eq, notifyAlways_eq]
  refine ⟨?_, fun k => ?_, fun k => ?_, ?_⟩
  · simp [List.filterMap_append, List.filterMap_map, CuUpNotification.newSdu]
  · cases k <;> simp [List.filterMap_append, List.filterMap_map, LatestValue.passed, LatestValue.notif,
      LatestValue.inStatus]
  · cases k <;> rfl
  · simp [List.filterMap_append, List.filterMap_map, CuUpNotification.retransmitted]

lemma deliverTPdu_spec (tPdu : Option (List UInt8)) :
    ((∀ sdu ∈ tPdu, sdu ≠ []) → (CuUpF1uBearer.deliverTPdu tPdu).filterMap (·.newSdu) = tPdu.toList) ∧
      (∀ k, (CuUpF1uBearer.deliverTPdu tPdu).filterMap (LatestValue.passed k) = []) ∧
      (CuUpF1uBearer.deliverTPdu tPdu).filterMap (·.retransmitted) = [] := by
  cases tPdu with
  | none => exact ⟨fun _ => rfl, fun _ => rfl, rfl⟩
  | some sdu =>
    unfold CuUpF1uBearer.deliverTPdu
    by_cases h : sdu = []
    · simp [h]
    · simp only [h, if_false]
      refine ⟨fun _ => rfl, fun k => ?_, rfl⟩
      cases k <;> rfl

lemma handlePduImpl_spec (b : CuUpF1uBearer) (msg : NruUlMessage) :
    ((∀ sdu ∈ msg.tPdu, sdu ≠ []) → (b.handlePduImpl msg).2.filterMap (·.newSdu) = msg.tPdu.toList) ∧
      (∀ k, (b.handlePduImpl msg).2.filterMap (LatestValue.passed k) = changes (k.notif b) (msg.latest k).toList) ∧
      (∀ k : LatestValue, k.notif (b.handlePduImpl msg).1 = lastOr (k.notif b) (msg.latest k).toList) ∧
      (b.handlePduImpl msg).2.filterMap (·.retransmitted) = msg.retransmitted.toList := by
  obtain ⟨tPdu, status⟩ := msg
  obtain ⟨hsdu, hpassed, hretx⟩ := deliverTPdu_spec tPdu
  cases status with
  | none =>
    refine ⟨hsdu, fun k => hpassed k, fun k => rfl, ?_⟩
    exact hretx
  | some status =>
    obtain ⟨hsdu', hpassed', hnotif, hretx'⟩ := handleDataDeliveryStatus_spec b status
    simp only [CuUpF1uBearer.handlePduImpl, List.filterMap_append, hpassed, hpassed', hretx, hretx', hsdu',
      List.append_nil, List.nil_append]
    exact ⟨hsdu, fun k => rfl, hnotif, rfl⟩

end Bearers

section Invariant

/-- The messages in the order in which the CU-UP gets them when no further one is sent directly. -/
def msgs (s : UplinkPath) : List NruUlMessage := s.received ++ s.nru ++ s.du.ulBuffer

structure CuUpTracked (s : UplinkPath) : Prop where
  sdus : s.notified.filterMap (·.newSdu) = s.received.filterMap (·.tPdu)
  passed : ∀ k, s.notified.filterMap (LatestValue.passed k) = changes unsetPdcpSn (s.received.filterMap (·.latest k))
  notif : ∀ k : LatestValue, k.notif s.cuUp = lastOr unsetPdcpSn (s.received.filterMap (·.latest k))
  retransmitted : s.notified.filterMap (·.retransmitted) = s.received.filterMap (·.retransmitted)

/-- The messages carry the accepted SDUs, and the variables of the DU hold the last stores. -/
structure DuTracked (s : UplinkPath) : Prop where
  direct : s.du.buffering = false → s.du.ulBuffer = []
  sdus : s.msgs.filterMap (·.tPdu) = s.accepted.map (·.val)
  stored : ∀ k : LatestValue,
    (s.du.values k.rlcVariable).stored = lastOr unsetPdcpSn (writesTo k.rlcVariable s.stores)

/-- The values of the messages are samples of what was stored, and no retransmitted SN is missing. -/
structure Ordered (s : UplinkPath) : Prop where
  latest : ∀ k, (changes unsetPdcpSn (s.msgs.filterMap (·.latest k))).Sublist (writesTo k.rlcVariable s.stores)
  retransmitted :
    (s.msgs.filterMap (·.retransmitted)).Perm (s.reported.filterMap (·.highestRetransmittedPdcpSn))

variable {s s' : UplinkPath} {w : StatusStores}

lemma cuUpTracked_init (cfg : DuF1uConfig) : (init cfg).CuUpTracked :=
  ⟨rfl, fun k => by cases k <;> rfl, fun k => by cases k <;> rfl, rfl⟩

lemma duTracked_init (cfg : DuF1uConfig) : (init cfg).DuTracked :=
  ⟨fun _ => rfl, rfl, fun k => by cases k <;> rfl⟩

lemma ordered_init (cfg : DuF1uConfig) : (init cfg).Ordered :=
  ⟨fun _ => List.nil_sublist _, List.Perm.refl _⟩

lemma cuUpTracked_congr (h : s.CuUpTracked) (hcu : s'.cuUp = s.cuUp) (hnotified : s'.notified = s.notified)
    (hreceived : s'.received = s.received) : s'.CuUpTracked := by
  obtain ⟨hsdus, hpassed, hnotif, hretx⟩ := h
  constructor
  · rw [hnotified, hreceived, hsdus]
  · intro k
    rw [hnotified, hreceived, hpassed]
  · intro k
    rw [hcu, hreceived, hnotif]
  · rw [hnotified, hreceived, hretx]

lemma sample_sublist (k : LatestValue) {values : List UInt32}
    (hstored : (s.du.values k.rlcVariable).stored = lastOr unsetPdcpSn (writesTo k.rlcVariable s.stores))
    (h : (changes unsetPdcpSn values).Sublist (writesTo k.rlcVariable s.stores)) (w : StatusStores) :
    (changes unsetPdcpSn (values ++ (s.du.valueAt w k.rlcVariable).fillLatest.1.toList)).Sublist
      (writesTo k.rlcVariable (s.stores ++ w.all)) := by
  have hbefore : (s.du.valueAt w k.rlcVariable).stored =
      lastOr unsetPdcpSn (writesTo k.rlcVariable (s.stores ++ w.before k.rlcVariable)) := by
    simp only [DuF1uBearer.valueAt, hstored, writesTo_append, lastOr_append]
  have hsub : (changes unsetPdcpSn values).Sublist
      (writesTo k.rlcVariable (s.stores ++ w.before k.rlcVariable)) := by
    rw [writesTo_append]
    exact h.trans (List.sublist_append_left _ _)
  rw [w.all_eq k.rlcVariable, ← List.append_assoc, writesTo_append]
  refine List.Sublist.trans ?_ (List.sublist_append_left _ _)
  unfold ReportedValue.fillLatest
  split
  · simpa using hsub
  case isFalse hset =>
    rw [hbefore] at hset ⊢
    exact changes_concat_sublist hsub hset

lemma stored_after (k : LatestValue)
    (hstored : (s.du.values k.rlcVariable).stored = lastOr unsetPdcpSn (writesTo k.rlcVariable s.stores))
    (ws : List RlcStore) :
    lastOr (s.du.values k.rlcVariable).stored (writesTo k.rlcVariable ws) =
      lastOr unsetPdcpSn (writesTo k.rlcVariable (s.stores ++ ws)) := by
  rw [hstored, writesTo_append, lastOr_append]

lemma filterMap_between {α β : Type*} (f : α → Option β) (l₁ l₂ : List α) (a : α)
    (h : ∀ v ∈ f a, ∀ x ∈ l₂.filterMap f, x = v) :
    (l₁ ++ [a] ++ l₂).filterMap f = (l₁ ++ l₂).filterMap f ++ (f a).toList := by
  rw [List.filterMap_append, List.filterMap_append, List.filterMap_append, filterMap_singleton, List.append_assoc,
    List.append_assoc]
  congr 1
  cases hv : f a with
  | none => simp
  | some v =>
    have hall : l₂.filterMap f = List.replicate (l₂.filterMap f).length v :=
      List.eq_replicate_of_mem fun x hx => h v hv x hx
    rw [hall, Option.toList_some, List.singleton_append, ← List.replicate_succ, List.replicate_succ']

structure StatusBuilt (s s' : UplinkPath) (w : StatusStores) : Prop where
  cuUp : s'.cuUp = s.cuUp
  notified : s'.notified = s.notified
  received : s'.received = s.received
  stores : s'.stores = s.stores ++ w.all
  stored : ∀ k, (s'.du.values k).stored = lastOr (s.du.values k).stored (writesTo k w.all)
  direct : (s.du.buffering = false → s.du.ulBuffer = []) → s'.du.buffering = false → s'.du.ulBuffer = []

lemma StatusBuilt.cuUpTracked (h : StatusBuilt s s' w) (hs : s.CuUpTracked) : s'.CuUpTracked :=
  cuUpTracked_congr hs h.cuUp h.notified h.received

lemma StatusBuilt.duTracked (h : StatusBuilt s s' w) (hs : s.DuTracked)
    (hsdus : s'.msgs.filterMap (·.tPdu) = s'.accepted.map (·.val)) : s'.DuTracked := by
  refine ⟨h.direct hs.direct, hsdus, fun k => ?_⟩
  rw [h.stored, h.stores]
  exact stored_after k (hs.stored k) w.all

lemma StatusBuilt.latest (h : StatusBuilt s s' w) (hs : s.DuTracked) (ho : s.Ordered)
    (k : LatestValue) (hmsgs : s'.msgs.filterMap (·.latest k) = s.msgs.filterMap (·.latest k) ∨
      s'.msgs.filterMap (·.latest k) =
        s.msgs.filterMap (·.latest k) ++ (s.du.valueAt w k.rlcVariable).fillLatest.1.toList) :
    (changes unsetPdcpSn (s'.msgs.filterMap (·.latest k))).Sublist (writesTo k.rlcVariable s'.stores) := by
  rw [h.stores]
  rcases hmsgs with hmsgs | hmsgs
  · rw [hmsgs, writesTo_append]
    exact (ho.latest k).trans (List.sublist_append_left _ _)
  · rw [hmsgs]
    exact sample_sublist k (hs.stored k) (ho.latest k) w

lemma statusBuilt_handleSdu (s : UplinkPath) (sdu : UlSdu) (w : StatusStores) :
    StatusBuilt s (s.next (.handleSdu sdu w)) w ∧
      (s.DuTracked → (s.next (.handleSdu sdu w)).msgs =
        if s.drops then s.msgs else s.msgs ++ [⟨some sdu.val, some (s.du.fillDataDeliveryStatus w).1⟩]) := by
  obtain ⟨-, -, -, hstored, hcfg, hbuf, hul⟩ := fill_spec s.du w
  have hfull : (s.du.fillDataDeliveryStatus w).2.2.ulBufferFull = s.du.ulBufferFull := by
    simp only [DuF1uBearer.ulBufferFull, hcfg, hul]
  simp only [next, DuF1uBearer.handleSdu, hbuf, hfull, drops]
  by_cases hb : s.du.buffering
  · by_cases hf : s.du.ulBufferFull
    · simp only [hb, hf, if_true, Bool.and_self]
      refine ⟨⟨rfl, rfl, rfl, rfl, hstored, fun _ hb' => ?_⟩, fun _ => ?_⟩
      · rw [hbuf, hb] at hb'
        exact absurd hb' (by decide)
      · simp [msgs, hul]
    · simp only [hb, hf, if_true, Bool.and_false, Bool.false_eq_true, if_false]
      refine ⟨⟨rfl, rfl, rfl, rfl, hstored, fun _ hb' => ?_⟩, fun _ => ?_⟩
      · cases hb'
      · simp [msgs, hul]
  · simp only [hb, Bool.false_eq_true, if_false, Bool.false_and]
    refine ⟨⟨rfl, rfl, rfl, rfl, hstored, fun h _ => ?_⟩, fun h => ?_⟩
    · rw [hul]
      exact h (by simpa using hb)
    · simp [msgs, hul, h.direct (by simpa using hb)]

lemma statusBuilt_sendStatus (s : UplinkPath) (force : Bool) (w : StatusStores) :
    StatusBuilt s (s.sendStatus (s.du.sendDataDeliveryStatus force w) w) w ∧
      (s.sendStatus (s.du.sendDataDeliveryStatus force w) w).accepted = s.accepted ∧
      (s.du.hasFreshValues w = false → force = false →
        (s.sendStatus (s.du.sendDataDeliveryStatus force w) w).msgs = s.msgs ∧
          (s.sendStatus (s.du.sendDataDeliveryStatus force w) w).reported = s.reported) ∧
      (s.du.hasFreshValues w = true ∨ force = true →
        (s.sendStatus (s.du.sendDataDeliveryStatus force w) w).msgs =
            s.received ++ s.nru ++ [⟨none, some (s.du.fillDataDeliveryStatus w).1⟩] ++ s.du.ulBuffer ∧
          (s.sendStatus (s.du.sendDataDeliveryStatus force w) w).reported =
            s.reported ++ [(s.du.fillDataDeliveryStatus w).1]) := by
  obtain ⟨-, -, hfresh, hstored, hcfg, hbuf, hul⟩ := fill_spec s.du w
  simp only [sendStatus, DuF1uBearer.sendDataDeliveryStatus, hfresh]
  by_cases hsend : s.du.hasFreshValues w = true ∨ force = true
  · have hcond : (!s.du.hasFreshValues w && !force) = false := by
      rcases hsend with h | h <;> simp [h]
    simp only [hcond, Bool.false_eq_true, if_false]
    refine ⟨⟨rfl, rfl, rfl, rfl, hstored, fun h hb => ?_⟩, trivial, fun h₁ h₂ => ?_, fun _ => ⟨?_, rfl⟩⟩
    · rw [hul]
      exact h (by rwa [hbuf] at hb)
    · simp [h₁, h₂] at hsend
    · simp [msgs, hul]
  · have hcond : (!s.du.hasFreshValues w && !force) = true := by
      simpa using hsend
    simp only [hcond, if_true]
    refine ⟨⟨rfl, rfl, rfl, rfl, hstored, fun h hb => ?_⟩, trivial, fun _ _ => ⟨?_, List.append_nil _⟩,
      fun h => absurd h hsend⟩
    · rw [hul]
      exact h (by rwa [hbuf] at hb)
    · simp [msgs, hul]

end Invariant

section Steps

variable {s : UplinkPath}

lemma tracked_deliver (hcu : s.CuUpTracked) (hdu : s.DuTracked) :
    s.deliver.CuUpTracked ∧ s.deliver.du = s.du ∧ s.deliver.msgs = s.msgs ∧ s.deliver.stores = s.stores ∧
      s.deliver.accepted = s.accepted ∧ s.deliver.reported = s.reported := by
  cases hnru : s.nru with
  | nil =>
    have hsame : s.deliver = s := by
      unfold deliver
      rw [hnru]
    rw [hsame]
    exact ⟨hcu, rfl, rfl, rfl, rfl, rfl⟩
  | cons msg nru =>
    have hsdu : ∀ sdu ∈ msg.tPdu, sdu ≠ [] := by
      intro sdu hsdu
      have hmem : sdu ∈ s.msgs.filterMap (·.tPdu) :=
        List.mem_filterMap.mpr ⟨msg, by simp [msgs, hnru], hsdu⟩
      rw [hdu.sdus] at hmem
      obtain ⟨u, -, rfl⟩ := List.mem_map.mp hmem
      exact u.property
    obtain ⟨hnew, hpassed, hnotif, hretx⟩ := handlePduImpl_spec s.cuUp msg
    have hdeliver : s.deliver = { s with
        nru := nru, cuUp := (s.cuUp.handlePduImpl msg).1, notified := s.notified ++ (s.cuUp.handlePduImpl msg).2,
        received := s.received ++ [msg] } := by
      unfold deliver
      rw [hnru]
    rw [hdeliver]
    refine ⟨⟨?_, fun k => ?_, fun k => ?_, ?_⟩, rfl, by simp [msgs, hnru], rfl, rfl, rfl⟩
    · simp only [List.filterMap_append, hcu.sdus, hnew hsdu, filterMap_singleton]
    · simp only [List.filterMap_append, hcu.passed, hpassed, filterMap_singleton, changes_append, hcu.notif]
    · simp only [List.filterMap_append, hnotif, filterMap_singleton, lastOr_append, hcu.notif]
    · simp only [List.filterMap_append, hcu.retransmitted, hretx, filterMap_singleton]

lemma fillChanged_of_not_fresh {v : ReportedValue} (h : v.fresh = false) : v.fillChanged.1 = none := by
  simp [ReportedValue.fillChanged, h]

lemma latest_message (s : UplinkPath) (tPdu : Option (List UInt8)) (w : StatusStores) (k : LatestValue) :
    NruUlMessage.latest k ⟨tPdu, some (s.du.fillDataDeliveryStatus w).1⟩ =
      (s.du.valueAt w k.rlcVariable).fillLatest.1 := (fill_spec s.du w).1 k

lemma tracked_handleSdu (hdu : s.DuTracked) (sdu : UlSdu) (w : StatusStores) :
    (s.next (.handleSdu sdu w)).DuTracked := by
  obtain ⟨hbuilt, hmsgs⟩ := statusBuilt_handleSdu s sdu w
  refine hbuilt.duTracked hdu ?_
  rw [hmsgs hdu]
  change _ = (if s.drops then s.accepted else s.accepted ++ [sdu]).map (·.val)
  split
  · exact hdu.sdus
  · rw [List.filterMap_append, hdu.sdus, List.map_append]
    rfl

lemma ordered_handleSdu (hdu : s.DuTracked) (ho : s.Ordered) {sdu : UlSdu} {w : StatusStores}
    (h : s.Undisturbed (.handleSdu sdu w)) : (s.next (.handleSdu sdu w)).Ordered := by
  obtain ⟨hbuilt, hmsgs⟩ := statusBuilt_handleSdu s sdu w
  have hmsgs := hmsgs hdu
  have hreported : (s.next (.handleSdu sdu w)).reported = s.reported ++ [(s.du.fillDataDeliveryStatus w).1] := rfl
  have hretx := (fill_spec s.du w).2.1
  constructor
  · intro k
    refine hbuilt.latest hdu ho k ?_
    rw [hmsgs]
    split
    · exact Or.inl rfl
    · refine Or.inr ?_
      rw [List.filterMap_append, filterMap_singleton, latest_message]
  · rw [hmsgs, hreported, List.filterMap_append, filterMap_singleton]
    split
    case isTrue hdrop =>
      rw [hretx, fillChanged_of_not_fresh (h hdrop), Option.toList_none, List.append_nil]
      exact ho.retransmitted
    case isFalse =>
      rw [List.filterMap_append, filterMap_singleton]
      exact ho.retransmitted.append_right _

lemma tracked_sendStatus (hdu : s.DuTracked) (force : Bool) (w : StatusStores) :
    (s.sendStatus (s.du.sendDataDeliveryStatus force w) w).DuTracked := by
  obtain ⟨hbuilt, haccepted, hsilent, hsent⟩ := statusBuilt_sendStatus s force w
  refine hbuilt.duTracked hdu ?_
  rw [haccepted, ← hdu.sdus]
  by_cases h : s.du.hasFreshValues w = true ∨ force = true
  · rw [(hsent h).1]
    simp [msgs]
  · simp only [not_or, Bool.not_eq_true] at h
    rw [(hsilent h.1 h.2).1]

lemma ordered_sendStatus (hdu : s.DuTracked) (ho : s.Ordered) {force : Bool} {w : StatusStores}
    (h : s.du.hasFreshValues w = true ∨ force = true → ∀ k, s.StatusInOrder w k) :
    (s.sendStatus (s.du.sendDataDeliveryStatus force w) w).Ordered := by
  obtain ⟨hbuilt, -, hsilent, hsent⟩ := statusBuilt_sendStatus s force w
  by_cases hsend : s.du.hasFreshValues w = true ∨ force = true
  · obtain ⟨hmsgs, hreported⟩ := hsent hsend
    constructor
    · intro k
      refine hbuilt.latest hdu ho k (Or.inr ?_)
      rw [hmsgs, filterMap_between _ _ _ _ (by rw [latest_message]; exact h hsend k), latest_message]
      rfl
    · let msg : NruUlMessage := ⟨none, some (s.du.fillDataDeliveryStatus w).1⟩
      have hlast : (s.received ++ s.nru ++ [msg] ++ s.du.ulBuffer).Perm (s.msgs ++ [msg]) := by
        rw [msgs, List.append_assoc _ [msg], List.append_assoc _ s.du.ulBuffer]
        exact List.perm_append_comm.append_left _
      rw [hmsgs, hreported]
      refine (hlast.filterMap _).trans ?_
      rw [List.filterMap_append, List.filterMap_append, filterMap_singleton, filterMap_singleton]
      exact ho.retransmitted.append_right _
  · simp only [not_or, Bool.not_eq_true] at hsend
    obtain ⟨hmsgs, hreported⟩ := hsilent hsend.1 hsend.2
    constructor
    · intro k
      refine hbuilt.latest hdu ho k (Or.inl ?_)
      rw [hmsgs]
    · rw [hmsgs, hreported]
      exact ho.retransmitted

/-- Every event keeps what is known of both bearers. -/
theorem tracked_next (hcu : s.CuUpTracked) (hdu : s.DuTracked) (e : UplinkPathEvent) :
    (s.next e).CuUpTracked ∧ (s.next e).DuTracked := by
  cases e with
  | handleSdu sdu w =>
    exact ⟨(statusBuilt_handleSdu s sdu w).1.cuUpTracked hcu, tracked_handleSdu hdu sdu w⟩
  | rlcStore store =>
    refine ⟨cuUpTracked_congr hcu rfl rfl rfl, hdu.direct, hdu.sdus, fun k => ?_⟩
    have hstore : s.du.store store = s.du.storeAll [store] := rfl
    simp only [next, hstore, DuF1uBearer.storeAll_spec]
    exact stored_after k (hdu.stored k) [store]
  | handlePdu msg w =>
    by_cases hpoll : msg.dlUserData.reportPolling
    · simp only [next, DuF1uBearer.handlePduImpl, hpoll, if_true]
      exact ⟨(statusBuilt_sendStatus s true w).1.cuUpTracked hcu, tracked_sendStatus hdu true w⟩
    · simp only [next, DuF1uBearer.handlePduImpl, hpoll, if_false, List.append_nil, Bool.false_eq_true]
      exact ⟨hcu, hdu⟩
  | ulNotifTimerExpired w =>
    exact ⟨(statusBuilt_sendStatus s false w).1.cuUpTracked hcu, tracked_sendStatus hdu false w⟩
  | flushUlBuffer =>
    by_cases hb : s.du.buffering
    · simp only [next, DuF1uBearer.flushUlBuffer, hb, if_true]
      refine ⟨cuUpTracked_congr hcu rfl rfl rfl, fun _ => rfl, ?_, hdu.stored⟩
      rw [← hdu.sdus]
      simp [msgs]
    · simp only [next, DuF1uBearer.flushUlBuffer, hb, if_false, List.append_nil, Bool.false_eq_true]
      exact ⟨hcu, hdu⟩
  | deliver =>
    obtain ⟨hcu', hdu', hmsgs, hstores, haccepted, -⟩ := tracked_deliver hcu hdu
    refine ⟨hcu', ?_, ?_, fun k => ?_⟩
    · simpa only [next, hdu'] using hdu.direct
    · simpa only [next, hmsgs, haccepted] using hdu.sdus
    · simpa only [next, hdu', hstores] using hdu.stored k

theorem ordered_next (hcu : s.CuUpTracked) (hdu : s.DuTracked) (ho : s.Ordered) {e : UplinkPathEvent}
    (h : s.Undisturbed e) : (s.next e).Ordered := by
  cases e with
  | handleSdu sdu w => exact ordered_handleSdu hdu ho h
  | rlcStore store =>
    refine ⟨fun k => ?_, ho.retransmitted⟩
    simp only [next, writesTo_append]
    exact (ho.latest k).trans (List.sublist_append_left _ _)
  | handlePdu msg w =>
    by_cases hpoll : msg.dlUserData.reportPolling
    · simp only [next, DuF1uBearer.handlePduImpl, hpoll, if_true]
      refine ordered_sendStatus hdu ho fun _ k => ?_
      cases k with
      | transmitted => exact (h hpoll).1
      | delivered => exact (h hpoll).2
    · simp only [next, DuF1uBearer.handlePduImpl, hpoll, if_false, List.append_nil, Bool.false_eq_true]
      exact ho
  | ulNotifTimerExpired w =>
    refine ordered_sendStatus hdu ho fun hsend k => ?_
    have hfresh : s.du.hasFreshValues w := by simpa using hsend
    cases k with
    | transmitted => exact (h hfresh).1
    | delivered => exact (h hfresh).2
  | flushUlBuffer =>
    by_cases hb : s.du.buffering
    · have hmsgs : (s.next .flushUlBuffer).msgs = s.msgs := by
        simp [next, DuF1uBearer.flushUlBuffer, hb, msgs]
      refine ⟨fun k => ?_, ?_⟩
      · rw [hmsgs]
        exact ho.latest k
      · rw [hmsgs]
        exact ho.retransmitted
    · simp only [next, DuF1uBearer.flushUlBuffer, hb, if_false, List.append_nil, Bool.false_eq_true]
      exact ho
  | deliver =>
    obtain ⟨-, -, hmsgs, hstores, -, hreported⟩ := tracked_deliver hcu hdu
    refine ⟨fun k => ?_, ?_⟩
    · simpa only [next, hmsgs, hstores] using ho.latest k
    · simpa only [next, hmsgs, hreported] using ho.retransmitted

lemma inOrder_of_tracked (hcu : s.CuUpTracked) (hdu : s.DuTracked) (ho : s.Ordered) :
    s.InOrder ∧ (s.Settled → s.Complete) := by
  have hreceived : s.received <+: s.msgs := by
    rw [msgs, List.append_assoc]
    exact List.prefix_append _ _
  refine ⟨⟨?_, fun k => ?_⟩, fun ⟨hb, hnru⟩ => ?_⟩
  · rw [hcu.sdus, ← hdu.sdus]
    exact hreceived.filterMap _
  · rw [hcu.passed]
    exact (changes_initial (hreceived.filterMap _)).sublist.trans (ho.latest k)
  · have hall : s.received = s.msgs := by simp [msgs, hnru, hdu.direct hb]
    constructor
    · rw [hcu.sdus, hall, hdu.sdus]
    · rw [hcu.retransmitted, hall]
      exact ho.retransmitted

end Steps

instance (s : UplinkPath) (w : StatusStores) (k : LatestValue) : Decidable (s.StatusInOrder w k) :=
  @Option.decidableForallMem _ _ (fun v => List.decidableBAll (fun x => x = v) _) _

instance (s : UplinkPath) (e : UplinkPathEvent) : Decidable (s.Undisturbed e) :=
  match e with
  | .handleSdu _ _ | .handlePdu _ _ | .ulNotifTimerExpired _ => inferInstanceAs (Decidable (_ → _))
  | .rlcStore _ | .flushUlBuffer | .deliver => isTrue trivial

/-- As long as no status overtakes a message with other values and no message with a retransmitted SN is dropped, the
SDUs reach the upper layers once and in order, the values come in the order in which they were stored, and after the
flush no SDU and no reported retransmitted SN is missing. -/
theorem uplink_in_order (cfg : DuF1uConfig) (es : List UplinkPathEvent)
    (h : RunsWithin step Undisturbed (init cfg) es) :
    HoldsThroughout step (fun s => s.InOrder ∧ (s.Settled → s.Complete)) (init cfg) es := by
  refine (runsWithin_establishes (fun s => s.CuUpTracked ∧ s.DuTracked ∧ s.Ordered)
    (fun s hs => inOrder_of_tracked hs.1 hs.2.1 hs.2.2) ?_ (fun _ _ _ hc => hc)
    ⟨cuUpTracked_init cfg, duTracked_init cfg, ordered_init cfg⟩ h).1
  rintro s e s' ⟨hcu, hdu, ho⟩ hc hs'
  obtain rfl := Except.ok.inj hs'
  exact ⟨(tracked_next hcu hdu e).1, (tracked_next hcu hdu e).2, ordered_next hcu hdu ho hc⟩

/-- An SDU waits for the flush while a poll is answered directly. -/
theorem uplink_in_order_polled :
    HoldsThroughout step (fun s => s.InOrder ∧ (s.Settled → s.Complete)) (init ⟨1000, true, 8⟩)
      [.rlcStore ⟨.highestTransmittedPdcpSn, 5⟩, .handleSdu ⟨[1], by decide⟩ {},
        .handlePdu { dlUserData := { reportPolling := true } } {}, .flushUlBuffer, .deliver, .deliver] :=
  uplink_in_order _ _ (by decide +kernel)

lemma runEvents_step (s : UplinkPath) (es : List UplinkPathEvent) : runEvents step s es = .ok (es.foldl next s) := by
  induction es generalizing s with
  | nil => rfl
  | cons e es ih => exact runEvents_cons_ok.mpr ⟨s.next e, rfl, ih (s.next e)⟩

lemma at_end {P : UplinkPath → Prop} {s : UplinkPath} {es : List UplinkPathEvent}
    (h : HoldsThroughout step P s es) : P (es.foldl next s) :=
  holdsThroughout_iff_prefix.mp h es [] _ (List.append_nil _).symm (runEvents_step s es)

/-- The answer to a poll overtakes the status of a waiting SDU, and a full buffer takes a retransmitted SN with it. -/
theorem status_overtaken_and_lost :
    (¬∀ (cfg : DuF1uConfig) (es : List UplinkPathEvent), HoldsThroughout step InOrder (init cfg) es) ∧
      ¬∀ (cfg : DuF1uConfig) (es : List UplinkPathEvent),
        HoldsThroughout step (fun s => s.Settled → s.Complete) (init cfg) es := by
  constructor
  · intro h
    have hend := at_end (h ⟨1000, true, 8⟩
      ((DuF1uBearer.handleTransmitNotification 5 900).map .rlcStore ++ [.handleSdu ⟨[1], by decide⟩ {}] ++
        (DuF1uBearer.handleTransmitNotification 7 800).map .rlcStore ++
        [.handlePdu { dlUserData := { reportPolling := true } } {}, .flushUlBuffer, .deliver, .deliver]))
    exact absurd (hend.latest .transmitted) (by decide +kernel)
  · intro h
    have hend := at_end (h ⟨1000, true, 1⟩
      ([.handleSdu ⟨[1], by decide⟩ {}] ++ (DuF1uBearer.handleRetransmitNotification 3).map .rlcStore ++
        [.handleSdu ⟨[2], by decide⟩ {}, .flushUlBuffer, .deliver]))
    exact absurd (hend ⟨by decide +kernel, by decide +kernel⟩).retransmitted (by decide +kernel)

end UplinkPath

end OwlsRan.F1u
