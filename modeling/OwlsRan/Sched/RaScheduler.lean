import OwlsRan.Sched.HarqEffects

/-!
# The random access scheduler

`ra_scheduler` keeps a RAR for the preambles of a PRACH occasion until it is sent, and for each TC-RNTI an entry with
a HARQ of Msg3. What the resource grid has room for is an input of `run_slot`.
-/

namespace OwlsRan.Sched

open OwlsRan.Lib OwlsRan.Ran

def MAX_NOF_MSG3 : Nat := 1024

def MAX_PREAMBLES_PER_PRACH_OCCASION : Nat := 64

def MAX_PENDING_RARS : Nat := 90

def RACH_IND_QUEUE_SIZE : Nat := 2

def CRC_IND_QUEUE_SIZE : Nat := 256

def MAX_GRANTS_PER_RAR : Nat := 16

def MAX_PUSCH_PDUS_PER_SLOT : Nat := 16

def maxDlSlotsAheadSched : Nat := 8

structure Preamble where
  preambleId : Nat
  tcRnti : Nat
  tcRnti_pos : 0 < tcRnti

structure PrachOccasion where
  startSymbol : Nat
  frequencyIndex : Nat
  preambles : List Preamble

structure RachIndication where
  slotRx : SlotPoint
  occasions : List PrachOccasion

structure UlCrcPdu where
  rnti : Nat
  harqId : Nat
  tbCrcSuccess : Bool

structure RaConfig where
  harqRetxTimeout : Nat
  ntnCsKoffset : Nat
  maxNofMsg3HarqRetxs : Nat
  raWinNofSlots : Nat
  prachFormatIsLong : Bool
  nofSlotsPerTddPeriod : Option Nat
  isDlEnabled : SlotPoint → Bool

def RaConfig.harq (cfg : RaConfig) : HarqConfig where
  maxUes := MAX_NOF_MSG3
  maxAckWaitTimeout := 256
  harqRetxTimeout := cfg.harqRetxTimeout
  maxHarqsPerUe := 1
  ntnCsKoffset := cfg.ntnCsKoffset

/-- `slot_interval`, closed on the left. -/
structure SlotInterval where
  start : SlotPoint
  stop : SlotPoint

def SlotInterval.contains (w : SlotInterval) (sl : SlotPoint) : Bool :=
  (w.start == sl || w.start.lt sl) && sl.lt w.stop

structure PendingRar where
  raRnti : Nat
  prachSlotRx : SlotPoint
  lastSchedTrySlot : SlotPoint
  rarWindow : SlotInterval
  tcRntis : List Nat

/-- The RNTI of the last preamble of an entry, and whether the entry has its HARQ entity. -/
structure PendingMsg3 where
  tcRnti : Nat
  busy : Bool

/-- A PUSCH resource for Msg3s: its slot, whether the slot has the UL symbols, and how many Msg3s have free RBs. -/
structure PuschResource where
  slot : SlotPoint
  isUlEnabled : Bool
  maxAllocsOnFreeRbs : Nat

/-- What the resource grid has for one attempt at a RAR: the preambles for which the RAR has RBs, the PUSCHs that slots
have already, the PUSCH resources, and a PDCCH. -/
structure RarAttempt where
  maxNofAllocs : Nat
  nofPuschs : SlotPoint → Nat
  puschResources : List PuschResource
  pdcch : Bool

/-- What the resource grid has in one `run_slot`: the slots that can be used for RARs, the attempts at RARs in their
order, and the PUSCH slot for the retransmission of a Msg3. -/
structure RaGrid where
  isCandidate : SlotPoint → Bool
  attempts : List RarAttempt
  msg3Retx : Nat → Option SlotPoint

inductive RaAbort where
  | harq (a : HarqAbort)
  | tcRntisFull
  | invalidConfiguration
  | msg3NotBusy
  | msg3HarqNotAvailable
deriving DecidableEq

/-- The HARQs and the entries of Msg3s. `nofGrants` counts the grants in RARs since the entry was last reserved. -/
structure Msg3Table where
  harqs : CellHarqRepository Unit
  entries : Nat → PendingMsg3
  nofGrants : Nat → Nat

namespace Msg3Table

def init : Msg3Table := ⟨.init Unit, fun _ => ⟨0, false⟩, fun _ => 0⟩

def msg3Idx (tcRnti : Nat) : Nat := tcRnti % MAX_NOF_MSG3

def setEntry (c : Msg3Table) (i : Nat) (entry : PendingMsg3) : Msg3Table :=
  { c with entries := fun j => if j = i then entry else c.entries j }

def setNofGrants (c : Msg3Table) (i n : Nat) : Msg3Table :=
  { c with nofGrants := fun j => if j = i then n else c.nofGrants j }

/-- `msg3_harq_ent.reset()` -/
def reset (cfg : RaConfig) (c : Msg3Table) (i : Nat) : Except RaAbort Msg3Table :=
  if (c.entries i).busy then do
    let harqs ← (c.harqs.destroyUe cfg.harq i).mapError .harq
    return { c with harqs := harqs }.setEntry i { c.entries i with busy := false }
  else .ok c

def reserve (cfg : RaConfig) (c : Msg3Table) (tcRnti : Nat) : Except RaAbort Msg3Table := do
  let harqs ← (c.harqs.reserveUeHarqs cfg.harq (msg3Idx tcRnti) tcRnti 1).mapError .harq
  return ({ c with harqs := harqs }.setEntry (msg3Idx tcRnti) ⟨tcRnti, true⟩).setNofGrants (msg3Idx tcRnti) 0

/-- The HARQs that a slot indication has deleted. The notifier is called for each one after it is deleted, and resets
an entity that no other HARQ is part of. -/
def timedOut (old new : CellHarqRepository Unit) : List HarqRef :=
  (new.trace.drop old.trace.length).filterMap HarqTrace.deleted

def onHarqTimeout (cfg : RaConfig) (c : Msg3Table) (h : HarqRef) : Except RaAbort Msg3Table :=
  if (c.entries h.ueIdx).busy then c.reset cfg h.ueIdx else .error .msg3NotBusy

def slotIndication (cfg : RaConfig) (c : Msg3Table) (slTx : SlotPoint) : Except RaAbort Msg3Table := do
  let harqs ← (c.harqs.slotIndication cfg.harq slTx).mapError .harq
  (timedOut c.harqs harqs).foldlM (onHarqTimeout cfg) { c with harqs := harqs }

/-- One CRC of `handle_pending_crc_indications_impl`. -/
def handleCrc (cfg : RaConfig) (c : Msg3Table) (crc : UlCrcPdu) : Except RaAbort Msg3Table :=
  let i := msg3Idx crc.rnti
  let h : HarqRef := ⟨i, 0⟩
  if (c.entries i).tcRnti ≠ crc.rnti ∨ (c.entries i).busy = false then .ok c
  else if ¬c.harqs.hasHarq h ∨ (c.harqs.harq h).status = .empty ∨ crc.harqId ≠ 0 then .ok c
  else do
    let (harqs, _) ← (c.harqs.ulCrcInfo cfg.harq h crc.tbCrcSuccess).mapError .harq
    let c := { c with harqs := harqs }
    if (c.harqs.harq h).status = .empty then c.reset cfg i else return c

def scheduleMsg3Retx (cfg : RaConfig) (grid : RaGrid) (c : Msg3Table) (h : HarqRef) : Except RaAbort Msg3Table :=
  match grid.msg3Retx h.ueIdx with
  | none => .ok c
  | some slot => do
    let (harqs, _) ← (c.harqs.handleNewRetx cfg.harq h slot slot).mapError .harq
    return { c with harqs := harqs }

def bump (nofPuschs : SlotPoint → Nat) (slot : SlotPoint) : SlotPoint → Nat :=
  fun sl => if sl = slot then nofPuschs sl + 1 else nofPuschs sl

/-- The Msg3s of `fill_rar_grant`. The HARQ of a Msg3 is allocated before the lists of grants are checked for room. -/
def fillRarGrant (cfg : RaConfig) : Msg3Table → (SlotPoint → Nat) → Nat → List Nat → List SlotPoint →
    Except RaAbort Msg3Table
  | c, nofPuschs, nofRarGrants, tcRnti :: tcRntis, slot :: slots =>
    let i := msg3Idx tcRnti
    if (c.entries i).busy then do
      match ← (c.harqs.allocHarq cfg.harq i slot slot cfg.maxNofMsg3HarqRetxs).mapError .harq with
      | (_, none) => .error .msg3HarqNotAvailable
      | (harqs, some _) =>
        let c := { c with harqs := harqs }
        if MAX_GRANTS_PER_RAR ≤ nofRarGrants ∨ MAX_PUSCH_PDUS_PER_SLOT ≤ nofPuschs slot then return c
        else
          fillRarGrant cfg (c.setNofGrants i (c.nofGrants i + 1)) (bump nofPuschs slot) (nofRarGrants + 1) tcRntis slots
    else .error .msg3NotBusy
  | c, _, _, _, _ => .ok c

end Msg3Table

namespace RarAttempt

/-- The candidates for Msg3s, each with its slot. A resource sees the PUSCHs that its slot had before the attempt. -/
def msg3Candidates (g : RarAttempt) (maxNofAllocs : Nat) : List SlotPoint :=
  g.puschResources.foldl (fun candidates res =>
    let listSpace := MAX_PUSCH_PDUS_PER_SLOT - g.nofPuschs res.slot
    let maxAllocs := min (min (MAX_GRANTS_PER_RAR - candidates.length) (maxNofAllocs - candidates.length)) listSpace
    if res.isUlEnabled then candidates ++ List.replicate (min maxAllocs res.maxAllocsOnFreeRbs) res.slot else candidates)
    []

/-- `schedule_rar`: the number of Msg3 candidates, if the RAR was sent. -/
def scheduleRar (g : RarAttempt) (cfg : RaConfig) (c : Msg3Table) (rar : PendingRar) :
    Except RaAbort (Msg3Table × Nat) :=
  let candidates := g.msg3Candidates (min g.maxNofAllocs rar.tcRntis.length)
  if candidates = [] ∨ g.pdcch = false then .ok (c, 0)
  else do
    let c ← c.fillRarGrant cfg g.nofPuschs 0 rar.tcRntis candidates
    return (c, candidates.length)

def none : RarAttempt := ⟨0, fun _ => 0, [], false⟩

end RarAttempt

/-- `update_pending_rars`: RARs are in the order of their slots. -/
def updatePendingRars (cfg : RaConfig) (pdcchSlot : SlotPoint) :
    Msg3Table → List PendingRar → Except RaAbort (Msg3Table × List PendingRar)
  | c, [] => .ok (c, [])
  | c, rar :: rars =>
    if rar.rarWindow.contains pdcchSlot then do
      let (c, rars) ← updatePendingRars cfg pdcchSlot c rars
      return (c, rar :: rars)
    else if pdcchSlot.ge rar.rarWindow.stop then do
      let c ← rar.tcRntis.foldlM (fun c tcRnti => c.reset cfg (Msg3Table.msg3Idx tcRnti)) c
      updatePendingRars cfg pdcchSlot c rars
    else .ok (c, rar :: rars)

/-- The loop of `schedule_pending_rars`. -/
def visitPendingRars (cfg : RaConfig) (pdcchSlot : SlotPoint) :
    Msg3Table → List RarAttempt → List PendingRar → Except RaAbort (Msg3Table × List RarAttempt × List PendingRar)
  | c, attempts, [] => .ok (c, attempts, [])
  | c, attempts, rar :: rars =>
    if rar.rarWindow.contains pdcchSlot then
      if rar.tcRntis = [] then visitPendingRars cfg pdcchSlot c attempts rars
      else do
        let (c, nofAllocs) ← (attempts.headD .none).scheduleRar cfg c rar
        if nofAllocs = 0 then do
          let (c, attempts, rars) ← visitPendingRars cfg pdcchSlot c attempts.tail rars
          return (c, attempts, rar :: rars)
        else if rar.tcRntis.length ≤ nofAllocs then visitPendingRars cfg pdcchSlot c attempts.tail rars
        else return (c, attempts.tail, { rar with tcRntis := rar.tcRntis.drop nofAllocs } :: rars)
    else .ok (c, attempts, rar :: rars)

def schedulePendingRars (cfg : RaConfig) (isCandidate : SlotPoint → Bool) (pdcchSlot : SlotPoint) (c : Msg3Table)
    (attempts : List RarAttempt) (rars : List PendingRar) :
    Except RaAbort (Msg3Table × List RarAttempt × List PendingRar) := do
  let (c, rars) ← updatePendingRars cfg pdcchSlot c rars
  match rars with
  | [] => return (c, attempts, [])
  | rar :: _ =>
    if rar.rarWindow.contains pdcchSlot && isCandidate pdcchSlot then visitPendingRars cfg pdcchSlot c attempts rars
    else return (c, attempts, rars)

structure RaScheduler where
  msg3s : Msg3Table
  pendingRachs : List RachIndication
  pendingCrcs : List (List UlCrcPdu)
  pendingRars : List PendingRar

inductive RaEvent where
  | rachIndication (msg : RachIndication)
  | crcIndication (crcs : List UlCrcPdu)
  | runSlot (slTx : SlotPoint) (grid : RaGrid)

namespace RaScheduler

def init : RaScheduler := ⟨.init, [], [], []⟩

/-- `get_ra_rnti`, for the normal UL carrier. -/
def raRnti (cfg : RaConfig) (slotRx : SlotPoint) (occ : PrachOccasion) : Nat :=
  let slotIdx :=
    if cfg.prachFormatIsLong then slotRx.count / slotRx.nofSlotsPerSubframe % NOF_SUBFRAMES_PER_FRAME
    else slotRx.count % slotRx.nofSlotsPerFrame
  (1 + occ.startSymbol + 14 * slotIdx + 14 * 80 * occ.frequencyIndex) % 65536

def rarWindow (cfg : RaConfig) (prachSlotRx : SlotPoint) : Option SlotInterval :=
  match cfg.nofSlotsPerTddPeriod with
  | some period =>
    ((List.range period).find? fun slIdx => cfg.isDlEnabled (prachSlotRx.add (1 + slIdx))).map fun slIdx =>
      ⟨prachSlotRx.add (1 + slIdx), (prachSlotRx.add (1 + slIdx)).add cfg.raWinNofSlots⟩
  | none => some ⟨prachSlotRx.add 1, prachSlotRx.add (1 + cfg.raWinNofSlots)⟩

/-- One preamble of `handle_rach_indication_impl`, for the RAR at `rarIdx`. -/
def handlePreamble (cfg : RaConfig) (rarIdx : Nat) (s : RaScheduler) (p : Preamble) : Except RaAbort RaScheduler :=
  if (s.msg3s.entries (Msg3Table.msg3Idx p.tcRnti)).busy then .ok s
  else if (s.pendingRars[rarIdx]?).any fun rar => rar.tcRntis.length < MAX_PREAMBLES_PER_PRACH_OCCASION then do
    let msg3s ← s.msg3s.reserve cfg p.tcRnti
    return { s with
      msg3s := msg3s
      pendingRars := s.pendingRars.modify rarIdx fun rar => { rar with tcRntis := rar.tcRntis ++ [p.tcRnti] } }
  else .error .tcRntisFull

def handleOccasion (cfg : RaConfig) (slotRx : SlotPoint) (s : RaScheduler) (occ : PrachOccasion) :
    Except RaAbort RaScheduler :=
  if occ.preambles = [] then .ok s
  else
    let ra := raRnti cfg slotRx occ
    let found := s.pendingRars.findIdx? fun rar => rar.raRnti == ra && rar.prachSlotRx == slotRx
    if found = none ∧ MAX_PENDING_RARS ≤ s.pendingRars.length then .ok s
    else
      match rarWindow cfg slotRx with
      | none => .error .invalidConfiguration
      | some w =>
        match found with
        | some rarIdx =>
          let s := { s with pendingRars := s.pendingRars.modify rarIdx fun rar => { rar with rarWindow := w } }
          occ.preambles.foldlM (handlePreamble cfg rarIdx) s
        | none =>
          let s' := { s with pendingRars := s.pendingRars ++ [⟨ra, slotRx, .invalid, w, []⟩] }
          occ.preambles.foldlM (handlePreamble cfg s.pendingRars.length) s'

def handleRach (cfg : RaConfig) (s : RaScheduler) (msg : RachIndication) : Except RaAbort RaScheduler :=
  msg.occasions.foldlM (handleOccasion cfg msg.slotRx) s

def schedStartDelay (rar : PendingRar) (slTx : SlotPoint) : Nat :=
  if rar.lastSchedTrySlot.valid then
    let next := rar.lastSchedTrySlot.add 1
    if next.ge slTx then (next.count + slTx.nofSlotsPerHyperSystemFrame - slTx.count) % slTx.nofSlotsPerHyperSystemFrame
    else 4294967296
  else 0

/-- The part of `run_slot` that schedules RARs. -/
def scheduleRars (cfg : RaConfig) (slTx : SlotPoint) (grid : RaGrid) (s : RaScheduler) : Except RaAbort RaScheduler :=
  match s.pendingRars with
  | [] => .ok s
  | rar :: _ => do
    let start := schedStartDelay rar slTx
    let (c, _, rars) ← (List.range' start (maxDlSlotsAheadSched + 1 - start)).foldlM
      (fun (c, attempts, rars) n => schedulePendingRars cfg grid.isCandidate (slTx.add n) c attempts rars)
      (s.msg3s, grid.attempts, s.pendingRars)
    return { s with
      msg3s := c
      pendingRars := rars.map fun rar => { rar with lastSchedTrySlot := slTx.add maxDlSlotsAheadSched } }

def runSlot (cfg : RaConfig) (s : RaScheduler) (slTx : SlotPoint) (grid : RaGrid) : Except RaAbort RaScheduler := do
  let c ← s.msg3s.slotIndication cfg slTx
  let c ← s.pendingCrcs.flatten.foldlM (Msg3Table.handleCrc cfg) c
  let c ← c.harqs.harqPendingRetxList.foldlM (Msg3Table.scheduleMsg3Retx cfg grid) c
  let s ← s.pendingRachs.foldlM (handleRach cfg) { s with msg3s := c, pendingCrcs := [], pendingRachs := [] }
  scheduleRars cfg slTx grid s

/-- Indications are kept for the next `run_slot`, or lost when their queue is full. -/
def step (cfg : RaConfig) (s : RaScheduler) : RaEvent → Except RaAbort RaScheduler
  | .rachIndication msg =>
    .ok (if s.pendingRachs.length < RACH_IND_QUEUE_SIZE then { s with pendingRachs := s.pendingRachs ++ [msg] } else s)
  | .crcIndication crcs =>
    .ok (if s.pendingCrcs.length < CRC_IND_QUEUE_SIZE then { s with pendingCrcs := s.pendingCrcs ++ [crcs] } else s)
  | .runSlot slTx grid => s.runSlot cfg slTx grid

end RaScheduler

end OwlsRan.Sched
