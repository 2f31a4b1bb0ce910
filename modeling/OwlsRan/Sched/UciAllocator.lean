import OwlsRan.Sched.PucchAllocator
import OwlsRan.Sched.ResourceGridUtil

/-!
# The UCI allocator

`uci_allocator_impl` chooses the slot of a HARQ-ACK and counts, in a ring of its own, the HARQ-ACKs that a UE has in each
slot. The PUCCH allocator keeps the grants that carry them. Slots are counted without wrap-around: the rings fit in a
hyper frame.
-/

namespace OwlsRan.Sched

open OwlsRan.Lib

/-- A cell with its offset for non-terrestrial networks. The rings hold every slot that a call can reach. -/
structure UciAllocatorCell where
  pucch : PucchCellConfiguration
  ntnCsKoffset : Nat
  ring_gt : getMaxSlotUlAllocDelay ntnCsKoffset < pucch.ringAllocatorSize

structure UciOccasion where
  period : Nat
  offset : Nat
deriving DecidableEq

def UciOccasion.isOccasion (o : UciOccasion) (slot : Nat) : Bool := slot % o.period == o.offset

/-- What the allocator reads of a UE. `csiMeasCfg` is the occasion of the CSI report and its size on PUCCH. -/
structure UciUeCellConfiguration (c : UciAllocatorCell) where
  pucch : UePucchConfig c.pucch
  set1Format : PucchFormat
  srResList : List UciOccasion
  csiMeasCfg : Option (UciOccasion × Nat)
  isUlEnabled : Nat → Bool

structure UeUci where
  rnti : Nat
  scheduledDlPdcchCounter : Nat
deriving DecidableEq

structure UciAllocation where
  k1 : Nat
  harqBitIdx : Nat
  pucchResIndicator : Nat
deriving DecidableEq

structure UciPusch where
  rnti : Nat
  grant : GrantInfo
  harqAckNofBits : Nat
deriving DecidableEq

/-- The arguments of `alloc_harq_ack`; the delays are within the limits of the scheduler. -/
structure HarqAckRequest where
  rnti : Nat
  k0 : Nat
  k1List : List Nat
  k0_le : k0 ≤ SCHEDULER_MAX_K0
  k1_le : ∀ k1 ∈ k1List, k1 ≤ SCHEDULER_MAX_K1
  k1List_ne : k1List ≠ []

namespace HarqAckRequest

def minK1 (req : HarqAckRequest) : Nat := req.k1List.min?.getD 0

def maxK1 (req : HarqAckRequest) : Nat := req.k1List.max?.getD 0

end HarqAckRequest

inductive UciAllocatorAbort where
  | pucch (a : PucchAbort)
  /-- A slot delay beyond the limit of the resource grid. -/
  | slotDelay
deriving DecidableEq

structure UciAllocator where
  slotTx : Nat
  pucch : PucchRing
  uciAllocGrid : Nat → List UeUci
  puschs : Nat → List UciPusch

namespace UciAllocator

def start (slotTx : Nat) : UciAllocator := ⟨slotTx, .start, fun _ => [], fun _ => []⟩

variable {c : UciAllocatorCell} (s : UciAllocator)

def entry (c : UciAllocatorCell) (slot : Nat) : Nat := slot % c.pucch.ringAllocatorSize

def getUciAlloc (c : UciAllocatorCell) (uciSlot rnti : Nat) : Option UeUci :=
  (s.uciAllocGrid (entry c uciSlot)).find? fun uci => uci.rnti == rnti

def getScheduledPdschCounterInUeUci (c : UciAllocatorCell) (uciSlot rnti : Nat) : Nat :=
  (s.getUciAlloc c uciSlot rnti).elim 0 fun uci => uci.scheduledDlPdcchCounter

/-- The search for the last slot in which the UE has UCI goes from the largest k1 to the smallest. -/
def getMinPdschToAckSlotDistance (c : UciAllocatorCell) (pdschSlot rnti minK1 maxK1 : Nat) : Nat :=
  ((List.range' minK1 (maxK1 + 1 - minK1)).reverse.find? fun slInc =>
    (s.getUciAlloc c (pdschSlot + slInc) rnti).isSome).getD minK1

def ulContext (slot : Nat) (ul : UlSlotContext) : UlSlotContext :=
  { ul with puschs := (s.puschs slot).map (fun pusch => (pusch.rnti, pusch.grant)) ++ ul.puschs }

def withPucchSlot (c : UciAllocatorCell) (slot : Nat) (p : PucchSlot) : UciAllocator :=
  { s with pucch := Function.update s.pucch (entry c slot) p }

def countHarqAck (rnti : Nat) : List UeUci → List UeUci
  | [] => [⟨rnti, 1⟩]
  | uci :: ucis =>
    if uci.rnti = rnti then { uci with scheduledDlPdcchCounter := uci.scheduledDlPdcchCounter + 1 } :: ucis
    else uci :: countHarqAck rnti ucis

def maxHarqBitsPerUci : Nat := 2

/-- The difference of two `unsigned`. -/
def unsignedSub (a b : Nat) : Nat := (a + 2 ^ 32 - b) % 2 ^ 32

def nofAvailableHarqBits (ue : UciUeCellConfiguration c) (uciSlot : Nat) : Nat :=
  let maxPayload := ue.pucch.formatMaxPayload ue.set1Format
  let isSrOpportunity := (ue.srResList.any fun sr => sr.isOccasion uciSlot).toNat
  match ue.csiMeasCfg with
  | some (occasion, csiReportSize) =>
    if occasion.isOccasion uciSlot then
      min (unsignedSub (unsignedSub maxPayload csiReportSize) isSrOpportunity) maxHarqBitsPerUci
    else unsignedSub maxPayload isSrOpportunity
  | none => unsignedSub maxPayload isSrOpportunity

def withUcis (c : UciAllocatorCell) (slot : Nat) (ucis : List UeUci) : UciAllocator :=
  { s with uciAllocGrid := Function.update s.uciAllocGrid (entry c slot) ucis }

section HarqAck

variable (ue : UciUeCellConfiguration c) (req : HarqAckRequest) (ul : Nat → UlSlotContext) (minDistance : Nat)

def pdschSlot : Nat := s.slotTx + req.k0

def uciSlot (c : UciAllocatorCell) (k1 : Nat) : Nat := s.pdschSlot req + k1 + c.ntnCsKoffset

def isCandidate (k1 : Nat) : Bool :=
  let slot := s.uciSlot req c k1
  decide (minDistance ≤ k1) && (s.ulContext slot (ul slot)).puschs.isEmpty && (ul slot).isFullyUlEnabled &&
    ue.isUlEnabled slot && decide ((s.uciAllocGrid (entry c slot)).length < MAX_PUCCH_PDUS_PER_SLOT) &&
    decide (s.getScheduledPdschCounterInUeUci c slot req.rnti < nofAvailableHarqBits ue slot)

def register (c : UciAllocatorCell) (slot k1 pucchResIndicator : Nat) : UciAllocation × UciAllocator :=
  (⟨k1, s.getScheduledPdschCounterInUeUci c slot req.rnti % 2 ^ 8, pucchResIndicator⟩,
    s.withUcis c slot (countHarqAck req.rnti (s.uciAllocGrid (entry c slot))))

/-- The loop of `alloc_harq_ack` over the candidates. -/
def allocHarqAckLoop (s : UciAllocator) : List Nat → Except PucchAbort (Option UciAllocation × UciAllocator)
  | [] => .ok (none, s)
  | k1 :: rest =>
    if s.isCandidate ue req ul minDistance k1 = false then allocHarqAckLoop s rest
    else do
      let slot := s.uciSlot req c k1
      let out ← PucchSlot.allocDedHarqAck (s.ulContext slot (ul slot)) (s.pucch (entry c slot)) ue.pucch req.rnti
      match out.1 with
      | none => allocHarqAckLoop (s.withPucchSlot c slot out.2) rest
      | some pucchResIndicator =>
        let res := (s.withPucchSlot c slot out.2).register req c slot k1 pucchResIndicator
        pure (some res.1, res.2)

def allocHarqAck : Except PucchAbort (Option UciAllocation × UciAllocator) :=
  let minPdschToAckSlotDistance := s.getMinPdschToAckSlotDistance c (s.pdschSlot req) req.rnti req.minK1 req.maxK1
  s.allocHarqAckLoop ue req ul minPdschToAckSlotDistance req.k1List

end HarqAck

/-- `multiplex_uci_on_pusch`: the bits that are removed from the PUCCH, HARQ-ACK among them, go to the PUSCH. -/
def multiplexUciOnPusch (ue : UciUeCellConfiguration c) (slot rnti : Nat) (grant : GrantInfo) : UciAllocator :=
  let out := PucchSlot.removeUeUciFromPucch (s.pucch (entry c slot)) ue.pucch rnti
  { s.withPucchSlot c slot out.2 with
    puschs := Function.update s.puschs slot (s.puschs slot ++ [⟨rnti, grant, out.1.harqAckNofBits⟩]) }

def slotIndication (c : UciAllocatorCell) : UciAllocator :=
  { (s.withPucchSlot c s.slotTx .empty).withUcis c s.slotTx [] with slotTx := s.slotTx + 1 }

end UciAllocator

/-- The other calls for PUCCH grants of a UE. SR and CSI opportunities come from `alloc_sr_opportunity` and
`alloc_csi_opportunity`, the other two from the fallback scheduler. -/
inductive PucchGrantCall where
  | srOpportunity
  | csiOpportunity (csiPart1Bits : Nat)
  | commonHarqAck (dci : PucchDciContext)
  | commonAndDedHarqAck (dci : PucchDciContext)
deriving DecidableEq

inductive UciAllocatorEvent where
  | slotIndication
  | allocHarqAck (req : HarqAckRequest) (ul : Nat → UlSlotContext)
  | allocPucch (call : PucchGrantCall) (slotDelay rnti : Nat) (ul : UlSlotContext)
  | multiplexUciOnPusch (slotDelay rnti : Nat) (grant : GrantInfo)
  /-- The fallback scheduler puts a PUSCH in the place of a PUCCH that carries nothing but an SR. -/
  | removeSrPucch (slotDelay rnti : Nat)

structure HarqAckRecord where
  rnti : Nat
  pdschSlot : Nat
  uciSlot : Nat
  harqBitIdx : Nat
deriving DecidableEq

structure UciAllocatorRun where
  alloc : UciAllocator
  acks : List HarqAckRecord

def PucchGrantCall.apply {c : UciAllocatorCell} (ue : UciUeCellConfiguration c) (rnti : Nat) (ul : UlSlotContext) (s : PucchSlot) :
    PucchGrantCall → Except PucchAbort PucchSlot
  -- A UE with a PUSCH in the slot gets no PUCCH grant for SR or CSI.
  | .srOpportunity =>
    if ul.puschs.any fun pusch => pusch.1 == rnti then .ok s else PucchSlot.allocSrOpportunity ul s ue.pucch rnti
  | .csiOpportunity csiPart1Bits =>
    if ul.puschs.any fun pusch => pusch.1 == rnti then .ok s
    else PucchSlot.allocCsiOpportunity ul s ue.pucch rnti csiPart1Bits
  | .commonHarqAck dci => (PucchSlot.allocCommonHarqAck c.pucch ul s dci rnti).map Prod.snd
  | .commonAndDedHarqAck dci => (PucchSlot.allocCommonAndDedHarqAck ul s ue.pucch rnti dci).map Prod.snd

namespace UciAllocatorRun

def start (slotTx : Nat) : UciAllocatorRun := ⟨.start slotTx, []⟩

variable {c : UciAllocatorCell} (ues : Nat → UciUeCellConfiguration c) (r : UciAllocatorRun)

def gridSlot (c : UciAllocatorCell) (slotDelay : Nat) : Except UciAllocatorAbort Nat :=
  if getMaxSlotUlAllocDelay c.ntnCsKoffset < slotDelay then .error .slotDelay else .ok (r.alloc.slotTx + slotDelay)

def withAlloc (alloc : UciAllocator) : UciAllocatorRun := { r with alloc }

def recordOf (c : UciAllocatorCell) (req : HarqAckRequest) (res : UciAllocation) : HarqAckRecord :=
  ⟨req.rnti, r.alloc.pdschSlot req, r.alloc.uciSlot req c res.k1, res.harqBitIdx⟩

def step : UciAllocatorEvent → Except UciAllocatorAbort UciAllocatorRun
  | .slotIndication => .ok (r.withAlloc (r.alloc.slotIndication c))
  | .allocHarqAck req ul =>
    match r.alloc.allocHarqAck (ues req.rnti) req ul with
    | .error a => .error (.pucch a)
    | .ok (none, alloc) => .ok (r.withAlloc alloc)
    | .ok (some res, alloc) => .ok ⟨alloc, r.acks ++ [r.recordOf c req res]⟩
  | .allocPucch call slotDelay rnti ul => do
    let slot ← r.gridSlot c slotDelay
    match call.apply (ues rnti) rnti (r.alloc.ulContext slot ul) (r.alloc.pucch (UciAllocator.entry c slot)) with
    | .error a => .error (.pucch a)
    | .ok p => .ok (r.withAlloc (r.alloc.withPucchSlot c slot p))
  | .multiplexUciOnPusch slotDelay rnti grant => do
    let slot ← r.gridSlot c slotDelay
    pure (r.withAlloc (r.alloc.multiplexUciOnPusch (ues rnti) slot rnti grant))
  | .removeSrPucch slotDelay rnti => do
    let slot ← r.gridSlot c slotDelay
    let pucchSlot := r.alloc.pucch (UciAllocator.entry c slot)
    let out := PucchSlot.removeUeUciFromPucch pucchSlot (ues rnti).pucch rnti
    pure (if out.1.harqAckNofBits = 0 then r.withAlloc (r.alloc.withPucchSlot c slot out.2) else r)

end UciAllocatorRun

end OwlsRan.Sched
