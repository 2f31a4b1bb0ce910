import OwlsRan.Sched.PucchPdus

/-!
# The PUCCH allocator

`pucch_allocator_impl` keeps, for each slot of a ring, the grants of the UEs beside the PUCCH PDUs of the slot and the
resources in use.
-/

namespace OwlsRan.Sched

open OwlsRan.Lib

/-- The HARQ-ACK and SR grants with a new number of HARQ-ACK bits. Only a Format 1 SR grant carries them. -/
def PucchGrantList.setHarqBits (grants : PucchGrantList) (h : PucchGrant) (srUpdated : Bool) (nofBits : Nat) :
    PucchGrantList :=
  { grants with
    harqResource := some (h.setBits { h.bits with harqAckNofBits := nofBits })
    srResource :=
      if srUpdated then grants.srResource.map fun r => r.setBits { r.bits with harqAckNofBits := nofBits }
      else grants.srResource }

structure UeGrants where
  rnti : Nat
  hasCommonPucch : Bool
  pucchGrants : PucchGrantList
deriving DecidableEq

/-- A slot: its PUCCH PDUs, and its entries in the rings of the allocator and of the two managers. -/
structure PucchSlot where
  pucchs : List PucchInfo
  ueGrantsList : List UeGrants
  resources : PucchSlotResources

structure PucchDciContext where
  nofCoresetCces : Nat
  startCceIdx : Nat
deriving DecidableEq

def dPris : List Nat := [0, 1, 2, 3, 4, 5, 6, 7]

namespace PucchSlot

def empty : PucchSlot := ⟨[], [], .empty⟩

def findUeGrants (s : PucchSlot) (rnti : Nat) : Option UeGrants := s.ueGrantsList.find? fun e => e.rnti == rnti

def modifyUeGrants (rnti : Nat) (f : UeGrants → UeGrants) : List UeGrants → List UeGrants
  | [] => []
  | e :: l => if e.rnti = rnti then f e :: l else e :: modifyUeGrants rnti f l

def updateUeGrants (s : PucchSlot) (rnti : Nat) (f : UeGrants → UeGrants) : PucchSlot :=
  { s with ueGrantsList := modifyUeGrants rnti f s.ueGrantsList }

def setGrants (s : PucchSlot) (rnti : Nat) (grants : PucchGrantList) : PucchSlot :=
  s.updateUeGrants rnti fun e => { e with pucchGrants := grants }

/-- `has_common_pucch` of the UE is set. -/
def setCommon (s : PucchSlot) (rnti : Nat) : PucchSlot := s.updateUeGrants rnti fun e => { e with hasCommonPucch := true }

def emplaceUeGrants (s : PucchSlot) (e : UeGrants) : PucchSlot := { s with ueGrantsList := s.ueGrantsList ++ [e] }

def emplacePdu (s : PucchSlot) (p : PucchInfo) : Except PucchAbort PucchSlot :=
  if s.pucchs.length < MAX_PUCCH_PDUS_PER_SLOT then .ok { s with pucchs := s.pucchs ++ [p] } else .error .pucchListFull

variable (cell : PucchCellConfiguration) (ul : UlSlotContext) (s : PucchSlot)

/-- The limits of `is_there_space_for_new_pucch_grants`. -/
def maxNofPucchGrants : Int :=
  min (min MAX_PUCCH_PDUS_PER_SLOT cell.maxPucchGrantsPerSlot : Int) (cell.maxUlGrantsPerSlot - ul.puschs.length)

def isThereSpaceForNewPucchGrants (nofGrantsToAllocate : Nat) : Bool :=
  decide ((s.pucchs.length + nofGrantsToAllocate : Int) ≤ maxNofPucchGrants cell ul)

def canAllocatePucch (rnti : Nat) : Bool :=
  ul.isFullyUlEnabled &&
    !((s.findUeGrants rnti).isNone && decide (MAX_PUCCH_PDUS_PER_SLOT ≤ s.ueGrantsList.length))

def canAllocateFallbackPucch (rnti : Nat) : Except PucchAbort Bool :=
  if ul.puschs.any fun pusch => pusch.1 == rnti then .ok false
  else
    match s.findUeGrants rnti with
    | none => .ok true
    | some e =>
      if e.hasCommonPucch ∨ e.pucchGrants.harqResource.isSome then .ok false
      else if e.pucchGrants.srResource.isSome ∧ e.pucchGrants.csiResource.isSome then .error .srAndCsiGrants
      else .ok true

section Common

variable (dci : PucchDciContext)

/-- `get_pucch_default_resource_index`, of the DCI. -/
def rPucchOf (dPri : Nat) : Nat := getPucchDefaultResourceIndex dci.startCceIdx dci.nofCoresetCces dPri

/-- The loop of `alloc_pucch_common_res_harq`. -/
def findCommonResHarq : List Nat → Except PucchAbort (Option Nat)
  | [] => .ok none
  | dPri :: rest =>
    if NOF_COMMON_RES ≤ rPucchOf dci dPri then .error .rPucchOutOfRange
    else if s.resources.isHarqCommonResourceAvailable cell (rPucchOf dci dPri) ∧
        checkUlCollisions ul (cell.commonGrants (rPucchOf dci dPri)).toList true = false then .ok (some dPri)
    else findCommonResHarq rest

def allocCommonHarqAck (rnti : Nat) : Except PucchAbort (Option Nat × PucchSlot) := do
  if canAllocatePucch ul s rnti = false then pure (none, s)
  else
    let fallback ← canAllocateFallbackPucch ul s rnti
    if fallback = false ∨ isThereSpaceForNewPucchGrants cell ul s 1 = false then pure (none, s)
    else
      match ← findCommonResHarq cell ul s dci dPris with
      | none => pure (none, s)
      | some dPri =>
        let s' ← { s with resources := s.resources.reserveHarqCommonResource cell (rPucchOf dci dPri) }.emplacePdu
          (.fillCommonPdu cell (rPucchOf dci dPri) rnti)
        pure (some dPri,
          if (s.findUeGrants rnti).isSome then s'.setCommon rnti else s'.emplaceUeGrants ⟨rnti, true, .empty⟩)

end Common

section Dedicated

variable {cell} (ue : UePucchConfig cell) (rnti : Nat)

def removeUnusedPucchRes (g : UeReservationGuard) (existing grantsToTx : PucchGrantList) : UeReservationGuard :=
  let g1 :=
    match existing.csiResource, grantsToTx.csiResource, ue.csiRes with
    | some _, none, some r => g.releaseCsiResource rnti r
    | _, _, _ => g
  let g2 := if existing.srResource.isSome ∧ grantsToTx.srResource.isNone then g1.releaseSrResource ue rnti else g1
  match existing.harqResource with
  | some h =>
    if grantsToTx.harqResource.all fun h' => h.format != h'.format then
      g2.releaseHarqResource ue rnti h.harqId.pucchSetIdx
    else g2
  | none => g2

def resIndicatorOf (grants : PucchGrantList) : Nat := grants.harqResource.elim 0 fun h => h.harqId.pucchResInd

def nofExtraGrants (grantsToTx : PucchGrantList) : Nat :=
  grantsToTx.getNofGrants - s.pucchs.countP (PucchInfo.isDedicatedOf rnti)

/-- `allocate_grants`. The ids of the PDUs of the UE are rewritten before the check for space. -/
def allocateGrants (g : UeReservationGuard) (grantsToTx : PucchGrantList) :
    Except PucchAbort (Option Nat × PucchSlot) := do
  match s.findUeGrants rnti with
  | none => .error .ueGrantsNotFound
  | some e =>
    let existingPdus ← PucchExistingPdus.create ue rnti s.pucchs
    let pucchs := PucchExistingPdus.resetIds rnti s.pucchs
    if isThereSpaceForNewPucchGrants cell ul s (nofExtraGrants s rnti grantsToTx) = false then
      pure (none, { s with pucchs, resources := g.rollback })
    else
      let pdus ← allocatePdus ue rnti pucchs existingPdus e.pucchGrants grantsToTx
      pure (some (resIndicatorOf grantsToTx),
        { s with
          pucchs := pdus
          resources := (removeUnusedPucchRes ue rnti g e.pucchGrants grantsToTx).commit }.setGrants rnti grantsToTx)

def multiplexAndAllocatePucch (bits : PucchUciBits) (preserveResIndicator : Option Nat)
    (commonGrants : Option PucchGrants) : Except PucchAbort (Option Nat × PucchSlot) := do
  match s.findUeGrants rnti with
  | none => .error .ueGrantsNotFound
  | some e =>
    let grants ← multiplexGrants ue rnti preserveResIndicator (.create s.resources) ul e.pucchGrants bits commonGrants
    match grants.1 with
    | none => pure (none, { s with resources := grants.2.rollback })
    | some grantsToTx => allocateGrants ul s ue rnti grants.2 grantsToTx

def allocateHarqGrant : Except PucchAbort (Option Nat × PucchSlot) := do
  if isThereSpaceForNewPucchGrants cell ul s 1 = false then pure (none, s)
  else
    match (UeReservationGuard.create s.resources).reserveNextHarqResAvailable ue rnti .set0 with
    | (none, g) => pure (none, { s with resources := g.rollback })
    | (some a, g) =>
      let pdu ← PucchInfo.fresh.fillDedPdu ue a.resource ⟨1, .noSr, 0⟩ rnti false
      let s' ← s.emplacePdu pdu
      pure (some a.pucchResIndicator,
        { s' with resources := g.commit }.emplaceUeGrants ⟨rnti, false,
          ⟨some ⟨.harqAck, ⟨.set0, a.pucchResIndicator⟩, ⟨1, .noSr, 0⟩, a.resource⟩, none, none⟩⟩)

def allocateCsiGrant (csiPart1Bits : Nat) : Except PucchAbort PucchSlot := do
  if csiPart1Bits = 0 then .error .noCsiBits
  else if isThereSpaceForNewPucchGrants cell ul s 1 = false then pure s
  else
    match ue.csiRes with
    | none => .error .csiResourceNotFound
    | some r =>
      match (UeReservationGuard.create s.resources).reserveCsiResource cell rnti r with
      | (none, g) => pure { s with resources := g.rollback }
      | (some r, g) =>
        if ue.formatMaxPayload r.format < csiPart1Bits then .error .csiPayloadExceeded
        else
          let pdu ← PucchInfo.fresh.fillDedPdu ue r ⟨0, .noSr, csiPart1Bits⟩ rnti false
          let s' ← s.emplacePdu pdu
          pure ({ s' with resources := g.commit }.emplaceUeGrants ⟨rnti, false,
            ⟨none, none, some (.onResource .csi ⟨0, .noSr, csiPart1Bits⟩ r)⟩⟩)

def allocSrOpportunity : Except PucchAbort PucchSlot := do
  if canAllocatePucch ul s rnti = false ∨ isThereSpaceForNewPucchGrants cell ul s 1 = false ∨
      (s.findUeGrants rnti).isSome then pure s
  else
    match (UeReservationGuard.create s.resources).reserveSrResource ue rnti with
    | (none, g) => pure { s with resources := g.rollback }
    | (some r, g) =>
      let pdu ← PucchInfo.fresh.fillDedPdu ue r ⟨0, .one, 0⟩ rnti false
      let s' ← s.emplacePdu pdu
      pure ({ s' with resources := g.commit }.emplaceUeGrants ⟨rnti, false,
        ⟨none, some (.onResource .sr ⟨0, .one, 0⟩ r), none⟩⟩)

def allocCsiOpportunity (csiPart1Bits : Nat) : Except PucchAbort PucchSlot := do
  if canAllocatePucch ul s rnti = false then pure s
  else
    match s.findUeGrants rnti with
    | none => allocateCsiGrant ul s ue rnti csiPart1Bits
    | some e =>
      if e.hasCommonPucch then pure s
      else if e.pucchGrants.getUciBits.csiPart1NofBits ≠ 0 then .error .csiAlreadyAllocated
      else
        let out ← multiplexAndAllocatePucch ul s ue rnti
          { e.pucchGrants.getUciBits with csiPart1NofBits := csiPart1Bits } none none
        pure out.2

def harqPduBits (format : PucchFormat) (h : PucchGrant) (nofBits : Nat) : PucchUciBits :=
  match format with
  | .format0 => ⟨nofBits, h.bits.srBits, 0⟩
  | .format1 => ⟨nofBits, .noSr, 0⟩
  | _ => ⟨nofBits, h.bits.srBits, h.bits.csiPart1NofBits⟩

/-- The PDUs of `allocate_without_multiplexing`: the HARQ-ACK PDU at place `i` on its resource `r`, and the Format 1 SR
PDU. -/
def updatePdusWithoutMultiplexing (existingPdus : PucchExistingPdus) (pucchs : List PucchInfo) (format : PucchFormat)
    (i : Nat) (h : PucchGrant) (r : PucchResource) (srBits : SrNofBits) (nofBits : Nat) : List PucchInfo :=
  let updated := existingPdus.updateHarqPduBits pucchs ue i (harqPduBits format h nofBits) r
  if format = .format1 then (updated.2.updateSrPduBits updated.1 srBits nofBits).1 else updated.1

/-- `allocate_without_multiplexing`. The HARQ-ACK PDU keeps its resource; its format says in which set that is. -/
def allocateWithoutMultiplexing (nofBits : Nat) (e : UeGrants) : Except PucchAbort (Option Nat × PucchSlot) := do
  let existingPdus ← PucchExistingPdus.create ue rnti s.pucchs
  let pucchs := PucchExistingPdus.resetIds rnti s.pucchs
  match existingPdus.harqPdu, e.pucchGrants.harqResource with
  | some i, some h =>
    match pucchs[i]? with
    | none => .error .nullResource
    | some pdu =>
      if pdu.format.isFormat0Or1 = false ∧
          ue.formatMaxPayload pdu.format ≤ e.pucchGrants.getUciBits.getTotalBits then
        pure (none, { s with pucchs })
      else
        match (UeReservationGuard.create s.resources).reserveHarqResourceByResIndicator ue rnti
            h.harqId.pucchResInd (if pdu.format.isFormat0Or1 then .set0 else .set1) with
        | (none, _) => .error .harqResourceNotAvailable
        | (some r, g) =>
          if pdu.format = .format1 ∧ existingPdus.srPdu.isSome ∧ e.pucchGrants.srResource.isNone then
            .error .missingGrant
          else
            pure (some h.harqId.pucchResInd,
              { s with
                pucchs := updatePdusWithoutMultiplexing ue existingPdus pucchs pdu.format i h r
                  e.pucchGrants.getUciBits.srBits nofBits
                resources := g.commit }.setGrants rnti
                (e.pucchGrants.setHarqBits h (decide (pdu.format = PucchFormat.format1) && existingPdus.srPdu.isSome) nofBits))
  | _, _ => .error .harqGrantNotFound

def isMultiplexingNeeded (current : Nat) : Bool := !(current == 1 || current == 3)

def allocDedHarqAck : Except PucchAbort (Option Nat × PucchSlot) :=
  if canAllocatePucch ul s rnti = false then .ok (none, s)
  else
    match s.findUeGrants rnti with
    | none => allocateHarqGrant ul s ue rnti
    | some e =>
      if e.hasCommonPucch then .ok (none, s)
      else if isMultiplexingNeeded e.pucchGrants.getUciBits.harqAckNofBits then
        multiplexAndAllocatePucch ul s ue rnti
          { e.pucchGrants.getUciBits with harqAckNofBits := e.pucchGrants.getUciBits.harqAckNofBits + 1 } none none
      else
        allocateWithoutMultiplexing s ue rnti (e.pucchGrants.getUciBits.harqAckNofBits + 1) e

section CommonAndDedicated

variable (dci : PucchDciContext)

def commonAndDedBits (grants : PucchGrantList) : PucchUciBits :=
  ⟨1, grants.srResource.elim .noSr fun r => r.bits.srBits, grants.csiResource.elim 0 fun r => r.bits.csiPart1NofBits⟩

def withResources (g : UeReservationGuard) (resources : PucchSlotResources) : UeReservationGuard :=
  ⟨resources, g.reservations⟩

/-- One turn of the loop of `find_common_and_ded_harq_res_available`. -/
def attemptCommonAndDed (s : PucchSlot) (dPri : Nat) : Except PucchAbort (Option Nat × PucchSlot) := do
  if NOF_COMMON_RES ≤ rPucchOf dci dPri then .error .rPucchOutOfRange
  else if s.resources.isHarqCommonResourceAvailable cell (rPucchOf dci dPri) = false then pure (none, s)
  else
    match (UeReservationGuard.create s.resources).reserveHarqResourceByResIndicator ue rnti dPri .set0 with
    | (none, g) => pure (none, { s with resources := g.rollback })
    | (some _, g) =>
      match s.findUeGrants rnti with
      | none => .error .ueGrantsNotFound
      | some e =>
        let out ← multiplexAndAllocatePucch ul { s with resources := g.mgr } ue rnti (commonAndDedBits e.pucchGrants)
          (some dPri) (some (cell.commonGrants (rPucchOf dci dPri)))
        match out.1 with
        | none => pure (none, { out.2 with resources := (withResources g out.2.resources).rollback })
        | some ind =>
          if ind = dPri then
            let resources := out.2.resources.reserveHarqCommonResource cell (rPucchOf dci dPri)
            pure (some dPri, { out.2 with resources := (withResources g resources).commit })
          else if cell.isPucchF0AndF2 then
            pure (none, { out.2 with resources := (withResources g out.2.resources).rollback })
          else .error .resIndicatorMismatch

def findCommonAndDedHarqResAvailable : PucchSlot → List Nat → Except PucchAbort (Option Nat × PucchSlot)
  | s, [] => .ok (none, s)
  | s, dPri :: rest => do
    let attempt ← attemptCommonAndDed ul ue rnti dci s dPri
    match attempt.1 with
    | some dPri => pure (some dPri, attempt.2)
    | none => findCommonAndDedHarqResAvailable attempt.2 rest

def withUeGrants (s : PucchSlot) (rnti : Nat) : PucchSlot :=
  if (s.findUeGrants rnti).isSome then s else s.emplaceUeGrants ⟨rnti, false, .empty⟩

def computePucchCommonParamsAndAlloc (cell : PucchCellConfiguration) (s : PucchSlot) (rnti rPucch : Nat) :
    Except PucchAbort PucchSlot := do
  let s' ← s.emplacePdu (.fillCommonPdu cell rPucch rnti)
  if (s'.findUeGrants rnti).isNone then .error .ueGrantsNotFound else pure (s'.setCommon rnti)

def allocCommonAndDedHarqAck : Except PucchAbort (Option Nat × PucchSlot) := do
  if canAllocatePucch ul s rnti = false then pure (none, s)
  else
    let fallback ← canAllocateFallbackPucch ul s rnti
    if fallback = false then pure (none, s)
    else
      let found ← findCommonAndDedHarqResAvailable ul ue rnti dci (s.withUeGrants rnti) dPris
      match found.1 with
      | some dPri =>
        let s' ← computePucchCommonParamsAndAlloc cell found.2 rnti (rPucchOf dci dPri)
        pure (some dPri, s')
      | none =>
        pure (none,
          if (s.findUeGrants rnti).isSome then found.2
          else { found.2 with ueGrantsList := found.2.ueGrantsList.dropLast })

end CommonAndDedicated

def releaseGrants (g : UeReservationGuard) (grants : PucchGrantList) : UeReservationGuard :=
  let g1 := grants.harqResource.elim g fun h => g.releaseHarqResource ue rnti h.harqId.pucchSetIdx
  let g2 := if grants.srResource.isSome then g1.releaseSrResource ue rnti else g1
  match grants.csiResource, ue.csiRes with
  | some _, some r => g2.releaseCsiResource rnti r
  | _, _ => g2

/-- `remove_ue_uci_from_pucch`: the UCI bits removed, and the slot. -/
def removeUeUciFromPucch : PucchUciBits × PucchSlot :=
  let pucchs := s.pucchs.filter fun p => p.crnti != rnti
  match s.findUeGrants rnti with
  | none => (⟨0, .noSr, 0⟩, { s with pucchs })
  | some e =>
    (e.pucchGrants.getUciBits,
      { pucchs
        ueGrantsList := s.ueGrantsList.eraseP fun e => e.rnti == rnti
        resources := (releaseGrants ue rnti (.create s.resources) e.pucchGrants).commit })

end Dedicated

end PucchSlot

section Events

inductive PucchEvent where
  | allocSrOpportunity (slot : Nat) (ul : UlSlotContext) (rnti : Nat)
  | allocCsiOpportunity (slot : Nat) (ul : UlSlotContext) (rnti csiPart1Bits : Nat)
  | allocDedHarqAck (slot : Nat) (ul : UlSlotContext) (rnti : Nat)
  | allocCommonHarqAck (slot : Nat) (ul : UlSlotContext) (rnti : Nat) (dci : PucchDciContext)
  | allocCommonAndDedHarqAck (slot : Nat) (ul : UlSlotContext) (rnti : Nat) (dci : PucchDciContext)
  | removeUeUciFromPucch (slot rnti : Nat)
  | slotIndication (slTx : Nat)
deriving DecidableEq

variable {cell : PucchCellConfiguration} (ues : Nat → UePucchConfig cell)

namespace PucchEvent

/-- The entry of the ring that a call works on. A slot indication clears the entry of the slot before. -/
def entry (ringAllocatorSize : Nat) : PucchEvent → Nat
  | .allocSrOpportunity slot _ _ => slot % ringAllocatorSize
  | .allocCsiOpportunity slot _ _ _ => slot % ringAllocatorSize
  | .allocDedHarqAck slot _ _ => slot % ringAllocatorSize
  | .allocCommonHarqAck slot _ _ _ => slot % ringAllocatorSize
  | .allocCommonAndDedHarqAck slot _ _ _ => slot % ringAllocatorSize
  | .removeUeUciFromPucch slot _ => slot % ringAllocatorSize
  | .slotIndication slTx => (slTx + ringAllocatorSize - 1) % ringAllocatorSize

/-- The call on its slot: the indicator that an allocation for HARQ-ACK returns, and the slot after it. -/
def apply (s : PucchSlot) : PucchEvent → Except PucchAbort (Option Nat × PucchSlot)
  | .allocSrOpportunity _ ul rnti => (PucchSlot.allocSrOpportunity ul s (ues rnti) rnti).map fun s => (none, s)
  | .allocCsiOpportunity _ ul rnti csiPart1Bits =>
    (PucchSlot.allocCsiOpportunity ul s (ues rnti) rnti csiPart1Bits).map fun s => (none, s)
  | .allocDedHarqAck _ ul rnti => PucchSlot.allocDedHarqAck ul s (ues rnti) rnti
  | .allocCommonHarqAck _ ul rnti dci => PucchSlot.allocCommonHarqAck cell ul s dci rnti
  | .allocCommonAndDedHarqAck _ ul rnti dci => PucchSlot.allocCommonAndDedHarqAck ul s (ues rnti) rnti dci
  | .removeUeUciFromPucch _ rnti => .ok (none, (PucchSlot.removeUeUciFromPucch s (ues rnti) rnti).2)
  | .slotIndication _ => .ok (none, .empty)

end PucchEvent

/-- `pucch_allocator_impl`, with the PUCCH PDUs of the slots of the ring. -/
abbrev PucchRing := Nat → PucchSlot

def PucchRing.start : PucchRing := fun _ => .empty

def PucchRing.step (ring : PucchRing) (e : PucchEvent) : Except PucchAbort PucchRing := do
  let out ← e.apply ues (ring (e.entry cell.ringAllocatorSize))
  pure (Function.update ring (e.entry cell.ringAllocatorSize) out.2)

variable {ues}

lemma PucchRing.step_eq_ok {ring ring' : PucchRing} {e : PucchEvent} (h : ring.step ues e = .ok ring') :
    ∃ out, e.apply ues (ring (e.entry cell.ringAllocatorSize)) = .ok out ∧
      ring' = Function.update ring (e.entry cell.ringAllocatorSize) out.2 := by
  obtain ⟨out, hout, h⟩ := bind_eq_ok.mp h
  exact ⟨out, hout, (Except.ok.inj h).symm⟩

end Events

/-! A cell with Formats 1 and 2 and a UE of it, for the examples of runs. -/

namespace PucchExample

def format1Res (cellResId startingPrb : Nat) : PucchResource := ⟨cellResId, startingPrb, none, 14, 0, .format1 0 0⟩

def format2Res (cellResId startingPrb startingSymIdx : Nat) : PucchResource :=
  ⟨cellResId, startingPrb, none, 2, startingSymIdx, .format2 1⟩

def cell (maxPucchGrantsPerSlot : Nat) : PucchCellConfiguration where
  pucchResourceCommon := ⟨11, by decide⟩
  initUlBwp := ⟨0, ⟨0, 106⟩⟩
  dedPucchResources := [format1Res 0 10, format1Res 1 11, format1Res 2 12, format2Res 3 20 0, format2Res 4 21 0,
    format2Res 5 22 12]
  maxPucchGrantsPerSlot := maxPucchGrantsPerSlot
  maxUlGrantsPerSlot := 16
  ringAllocatorSize := 80

def ue (maxPucchGrantsPerSlot : Nat) : UePucchConfig (cell maxPucchGrantsPerSlot) where
  pucchResSet0 := [format1Res 0 10, format1Res 1 11]
  pucchResSet1 := [format2Res 3 20 0, format2Res 4 21 0]
  srRes := format1Res 2 12
  csiRes := some (format2Res 5 22 12)
  formatMaxPayload := fun f => if f.isFormat0Or1 then 2 else 16
  harqNofPrbs := fun r _ => r.formatParams.nofPrbs
  mem_cell := by
    simp [cell, PucchCellConfiguration.eligibleResources, PucchCellConfiguration.isPucchF0AndF2, PucchResource.format,
      PucchFormatCfg.format, format1Res, format2Res]
  nodup := by
    simp [cell, PucchCellConfiguration.eligibleResources, PucchCellConfiguration.isPucchF0AndF2, PucchResource.format,
      PucchFormatCfg.format, format1Res, format2Res]
  sr_format := by decide
  set0_format := by decide
  set1_format := by decide
  csi_format := by decide
  csi_nofPrbs := by decide
  harqNofPrbs_le := fun _ _ => Nat.le_refl _
  harqNofPrbs_pos := by simp [format2Res, PucchFormatCfg.nofPrbs]

def ul : UlSlotContext := ⟨true, [], [], false⟩

def dci : PucchDciContext := ⟨16, 0⟩

end PucchExample

end OwlsRan.Sched
