import OwlsRan.Lib.EventRun
import OwlsRan.Sched.PucchResourceManager
import Mathlib.Data.List.Sort

/-!
# Multiplexing of UCI on PUCCH

The UCI of a UE in a slot is first spread over one grant for each of its types; grants that overlap in symbols are
then merged until none do.
-/

namespace OwlsRan.Sched

open OwlsRan.Lib

inductive SrNofBits where
  | noSr
  | one
  | two
  | three
  | four
deriving DecidableEq

def SrNofBits.toNat : SrNofBits → Nat
  | .noSr => 0
  | .one => 1
  | .two => 2
  | .three => 3
  | .four => 4

structure PucchUciBits where
  harqAckNofBits : Nat
  srBits : SrNofBits
  csiPart1NofBits : Nat
deriving DecidableEq

def PucchUciBits.getTotalBits (b : PucchUciBits) : Nat := b.harqAckNofBits + b.srBits.toNat + b.csiPart1NofBits

inductive PucchGrantType where
  | harqAck
  | sr
  | csi
deriving DecidableEq

structure HarqResId where
  pucchSetIdx : PucchResSetIdx
  pucchResInd : Nat
deriving DecidableEq

/-- `pucch_grant`; `harqId` is only relevant for HARQ-ACK grants. -/
structure PucchGrant where
  type : PucchGrantType
  harqId : HarqResId
  bits : PucchUciBits
  pucchResCfg : PucchResource
deriving DecidableEq

namespace PucchGrant

def format (r : PucchGrant) : PucchFormat := r.pucchResCfg.format

def symbols (r : PucchGrant) : Interval := r.pucchResCfg.symbols

def setSrBits (r : PucchGrant) (srBits : SrNofBits) : PucchGrant := { r with bits := { r.bits with srBits } }

def setBits (r : PucchGrant) (bits : PucchUciBits) : PucchGrant := { r with bits }

def onResource (type : PucchGrantType) (bits : PucchUciBits) (r : PucchResource) : PucchGrant :=
  ⟨type, ⟨.set0, 0⟩, bits, r⟩

end PucchGrant

structure PucchGrantList where
  harqResource : Option PucchGrant
  srResource : Option PucchGrant
  csiResource : Option PucchGrant
deriving DecidableEq

namespace PucchGrantList

def empty : PucchGrantList := ⟨none, none, none⟩

def toList (l : PucchGrantList) : List PucchGrant :=
  l.harqResource.toList ++ l.srResource.toList ++ l.csiResource.toList

def isEmpty (l : PucchGrantList) : Bool :=
  l.srResource.isNone && l.harqResource.isNone && l.csiResource.isNone

def getNofGrants (l : PucchGrantList) : Nat := l.toList.length

def getSrBits (l : PucchGrantList) : SrNofBits :=
  match l.srResource with
  | some s => s.bits.srBits
  | none =>
    let srBits := l.harqResource.elim .noSr fun h => h.bits.srBits
    if srBits = .noSr then l.csiResource.elim .noSr fun c => c.bits.srBits else srBits

def getCsiPart1NofBits (l : PucchGrantList) : Nat :=
  match l.csiResource with
  | some c => c.bits.csiPart1NofBits
  | none => l.harqResource.elim 0 fun h => h.bits.csiPart1NofBits

def getHarqAckNofBits (l : PucchGrantList) : Nat :=
  match l.harqResource with
  | some h => h.bits.harqAckNofBits
  | none =>
    let harqAckNofBits := l.srResource.elim 0 fun s => s.bits.harqAckNofBits
    if harqAckNofBits = 0 then l.csiResource.elim 0 fun c => c.bits.harqAckNofBits else harqAckNofBits

def getUciBits (l : PucchGrantList) : PucchUciBits :=
  ⟨l.getHarqAckNofBits, l.getSrBits, l.getCsiPart1NofBits⟩

end PucchGrantList

/-- The assertions that the state of the slot can violate, and the uses of a null pointer. -/
inductive PucchAbort where
  | csiResourceNotFound
  | harqResourceNotAvailable
  | differentFormats
  | nullResource
  | srFormat0WithCsi
  | missingGrant
  | srResourceNotAvailable
  | invalidUciBits
  | invalidFormat
  | pucchListFull
  | rPucchOutOfRange
  | csiAlreadyAllocated
  | noCsiBits
  | csiPayloadExceeded
  | harqGrantNotFound
  | resIndicatorMismatch
  | srAndCsiGrants
  | ueGrantsNotFound
  | ueGrantsListFull
deriving DecidableEq

section Candidates

variable {cell : PucchCellConfiguration} (ue : UePucchConfig cell) (rnti : Nat)

/-- `get_pucch_resource_ind_f0_sr_csi`: the last resource of the set is for the SR, the one before it for the CSI. -/
def getPucchResourceIndF0SrCsi (bits : PucchUciBits) : Nat :=
  if bits.harqAckNofBits ≤ 2 then
    if bits.srBits ≠ .noSr then ue.pucchResSet0.length - 1 else ue.pucchResSet0.length - 2
  else
    if bits.srBits ≠ .noSr then ue.pucchResSet1.length - 1 else ue.pucchResSet1.length - 2

def harqResSetIdx (bits : PucchUciBits) : PucchResSetIdx := if bits.harqAckNofBits ≤ 2 then .set0 else .set1

def ueWithF0SrAndF2CsiAlloc (cell : PucchCellConfiguration) (bits : PucchUciBits) : Bool :=
  cell.isPucchF0AndF2 && (bits.srBits != .noSr || bits.csiPart1NofBits != 0)

def determinedHarqResInd (current : PucchGrantList) (bits : PucchUciBits) : Option Nat :=
  if ueWithF0SrAndF2CsiAlloc cell bits then some (getPucchResourceIndF0SrCsi ue bits)
  else (current.harqResource.filter fun h => h.harqId.pucchSetIdx = harqResSetIdx bits).map fun h =>
    h.harqId.pucchResInd

/-- The HARQ-ACK grant before multiplexing. -/
def harqCandidate (g : UeReservationGuard) (current : PucchGrantList) (bits : PucchUciBits) :
    Except PucchAbort (Option PucchGrant × UeReservationGuard) :=
  match determinedHarqResInd ue current bits with
  | some ind =>
    match g.reserveHarqResourceByResIndicator ue rnti ind (harqResSetIdx bits) with
    | (some r, g') =>
      .ok (some ⟨.harqAck, ⟨harqResSetIdx bits, ind⟩, ⟨bits.harqAckNofBits, .noSr, 0⟩, r⟩, g')
    | (none, _) => .error .harqResourceNotAvailable
  | none =>
    match g.reserveNextHarqResAvailable ue rnti (harqResSetIdx bits) with
    | (some a, g') =>
      .ok (some ⟨.harqAck, ⟨harqResSetIdx bits, a.pucchResIndicator⟩, ⟨bits.harqAckNofBits, .noSr, 0⟩, a.resource⟩,
        g')
    | (none, g') => .ok (none, g')

/-- `get_pucch_res_pre_multiplexing`. The SR and CSI resources are only peeked at. -/
def getPucchResPreMultiplexing (g : UeReservationGuard) (current : PucchGrantList) (bits : PucchUciBits) :
    Except PucchAbort (Option PucchGrantList × UeReservationGuard) := do
  let sr := if bits.srBits ≠ .noSr then some (.onResource .sr ⟨0, bits.srBits, 0⟩ ue.srRes) else none
  let csi ← if bits.csiPart1NofBits ≠ 0 then
      match ue.csiRes with
      | some r => pure (some (.onResource .csi ⟨0, .noSr, bits.csiPart1NofBits⟩ r))
      | none => .error .csiResourceNotFound
    else pure none
  if 0 < bits.harqAckNofBits then
    let harq ← harqCandidate ue rnti g current bits
    pure (harq.1.map fun h => ⟨some h, sr, csi⟩, harq.2)
  else pure (some ⟨none, sr, csi⟩, g)

end Candidates

section Merging

variable {cell : PucchCellConfiguration} (ue : UePucchConfig cell) (rnti : Nat) (preserveResIndicator : Option Nat)

def withinMaxPayload (r : PucchGrant) : Option PucchGrant :=
  if ue.formatMaxPayload r.format < r.bits.getTotalBits then none else some r

def moveToSet1 (g : UeReservationGuard) (dPri : Nat) (rHarq : PucchGrant) (bits : PucchUciBits) :
    Option PucchGrant × UeReservationGuard :=
  match g.reserveHarqResourceByResIndicator ue rnti dPri .set1 with
  | (some r, g') => (withinMaxPayload ue ⟨.harqAck, ⟨.set1, rHarq.harqId.pucchResInd⟩, bits, r⟩, g')
  | (none, g') => (none, g')

/-- SR and HARQ only. -/
def mergeSrHarq (g : UeReservationGuard) (rSr rHarq : PucchGrant) :
    Except PucchAbort (Option PucchGrant × UeReservationGuard) :=
  if rHarq.format.isFormat0Or1 then
    if rSr.format = rHarq.format then .ok (some (rHarq.setSrBits rSr.bits.srBits), g) else .error .differentFormats
  else if rSr.format.isFormat0Or1 = false then .error .differentFormats
  else if rHarq.harqId.pucchSetIdx = .set1 then
    .ok (withinMaxPayload ue (rHarq.setBits ⟨rHarq.bits.harqAckNofBits, rSr.bits.srBits, rHarq.bits.csiPart1NofBits⟩), g)
  else
    -- A resource that could be reserved ends the merge, and one that could not is used.
    match preserveResIndicator with
    | some dPri =>
      match g.reserveHarqResourceByResIndicator ue rnti dPri .set1 with
      | (some _, g') => .ok (none, g')
      | (none, _) => .error .nullResource
    | none =>
      match g.reserveNextHarqResAvailable ue rnti .set1 with
      | (some _, g') => .ok (none, g')
      | (none, _) => .error .nullResource

def mergeSrCsi (g : UeReservationGuard) (rSr rCsi : PucchGrant) :
    Except PucchAbort (Option PucchGrant × UeReservationGuard) :=
  if rSr.format = .format0 then .error .srFormat0WithCsi
  else .ok (withinMaxPayload ue (rCsi.setSrBits rSr.bits.srBits), g)

def harqCsiBits (rHarq rCsi : PucchGrant) : PucchUciBits :=
  ⟨rHarq.bits.harqAckNofBits, if rHarq.bits.srBits ≠ .noSr then rHarq.bits.srBits else rCsi.bits.srBits,
    rCsi.bits.csiPart1NofBits⟩

def mergeHarqCsi (g : UeReservationGuard) (rHarq rCsi : PucchGrant) : Option PucchGrant × UeReservationGuard :=
  if rHarq.harqId.pucchSetIdx = .set1 then (withinMaxPayload ue (rHarq.setBits (harqCsiBits rHarq rCsi)), g)
  else moveToSet1 ue rnti g (preserveResIndicator.getD rHarq.harqId.pucchResInd) rHarq (harqCsiBits rHarq rCsi)

def harqSrCsiBits (rHarq rSr rCsi : PucchGrant) : PucchUciBits :=
  ⟨rHarq.bits.harqAckNofBits, rSr.bits.srBits, rCsi.bits.csiPart1NofBits⟩

def mergeHarqSrCsi (g : UeReservationGuard) (rHarq rSr rCsi : PucchGrant) :
    Except PucchAbort (Option PucchGrant × UeReservationGuard) :=
  if rSr.format = .format0 then .error .srFormat0WithCsi
  else if rHarq.format.isFormat0Or1 = false then
    .ok (withinMaxPayload ue (rHarq.setBits (harqSrCsiBits rHarq rSr rCsi)), g)
  else .ok (moveToSet1 ue rnti g rHarq.harqId.pucchResInd rHarq (harqSrCsiBits rHarq rSr rCsi))

def grantOfType (type : PucchGrantType) (q : List PucchGrant) : Option PucchGrant :=
  q.reverse.find? fun r => r.type == type

def mergePucchResources (g : UeReservationGuard) (resourcesToMerge : List PucchGrant) :
    Except PucchAbort (Option PucchGrant × UeReservationGuard) :=
  match resourcesToMerge with
  | [r0, r1] =>
    match r0.type, r1.type with
    | .sr, .harqAck => mergeSrHarq ue rnti preserveResIndicator g r0 r1
    | .harqAck, .sr => mergeSrHarq ue rnti preserveResIndicator g r1 r0
    | .sr, .csi => mergeSrCsi ue g r0 r1
    | .csi, .sr => mergeSrCsi ue g r1 r0
    | .harqAck, .csi => .ok (mergeHarqCsi ue rnti preserveResIndicator g r0 r1)
    | .csi, .harqAck => .ok (mergeHarqCsi ue rnti preserveResIndicator g r1 r0)
    | _, _ => .ok (none, g)
  | [r0, r1, r2] =>
    match grantOfType .harqAck [r0, r1, r2], grantOfType .sr [r0, r1, r2], grantOfType .csi [r0, r1, r2] with
    | some rHarq, some rSr, some rCsi => mergeHarqSrCsi ue rnti g rHarq rSr rCsi
    | _, _, _ => .error .missingGrant
  | _ => .ok (none, g)

end Merging

section Loop

def symbolsBefore (a b : PucchGrant) : Prop :=
  a.symbols.start < b.symbols.start ∨ a.symbols.start = b.symbols.start ∧ b.symbols.length < a.symbols.length

instance (a b : PucchGrant) : Decidable (symbolsBefore a b) := inferInstanceAs (Decidable (_ ∨ _ ∧ _))

def sortResSetQ (q : List PucchGrant) : List PucchGrant := q.insertionSort fun a b => ¬symbolsBefore b a

/-- The first resources of Q to be merged: one resource and those right after it that overlap it. -/
def firstOverlap : List PucchGrant → Option (List PucchGrant × List PucchGrant × List PucchGrant)
  | [] => none
  | r :: q =>
    match q.span fun r' => r.symbols.overlaps r'.symbols with
    | ([], _) => (firstOverlap q).map fun p => (r :: p.1, p.2)
    | (r' :: group, rest) => some ([], r :: r' :: group, rest)

variable {cell : PucchCellConfiguration} (ue : UePucchConfig cell) (rnti : Nat) (preserveResIndicator : Option Nat)

/-- The loop over the counters `j` and `o`, which starts anew after each merge. Each merge makes Q smaller. -/
def multiplexLoop : Nat → UeReservationGuard → List PucchGrant →
    Except PucchAbort (Option (List PucchGrant) × UeReservationGuard)
  | 0, g, q => .ok (some q, g)
  | fuel + 1, g, q =>
    match firstOverlap q with
    | none => .ok (some q, g)
    | some (pre, group, rest) => do
      let merged ← mergePucchResources ue rnti preserveResIndicator g group
      match merged.1 with
      | none => .ok (none, merged.2)
      | some r => multiplexLoop fuel merged.2 (sortResSetQ (pre ++ rest ++ [r]))

/-- A single Format 1 grant with HARQ-ACK and SR bits stands for positive SR; the SR resource is added for it. -/
def addSrGrantF1 (g : UeReservationGuard) (q : List PucchGrant) :
    Except PucchAbort (List PucchGrant × UeReservationGuard) :=
  match q with
  | [r] =>
    if r.format = .format1 ∧ r.bits.harqAckNofBits ≠ 0 ∧ r.bits.srBits ≠ .noSr then
      match g.reserveSrResource ue rnti with
      | (some srRes, g') =>
        .ok ([r.setSrBits .noSr, .onResource .sr ⟨r.bits.harqAckNofBits, r.bits.srBits, 0⟩ srRes], g')
      | (none, _) => .error .srResourceNotAvailable
    else .ok (q, g)
  | _ => .ok (q, g)

def toGrantList (q : List PucchGrant) : PucchGrantList :=
  ⟨grantOfType .harqAck q, grantOfType .sr q, grantOfType .csi q⟩

def multiplexResources (g : UeReservationGuard) (candidates : PucchGrantList) :
    Except PucchAbort (PucchGrantList × UeReservationGuard) := do
  let looped ← multiplexLoop ue rnti preserveResIndicator candidates.toList.length g (sortResSetQ candidates.toList)
  match looped.1 with
  | none => pure (.empty, looped.2)
  | some q =>
    let p ← addSrGrantF1 ue rnti looped.2 q
    pure (toGrantList p.1, p.2)

end Loop

structure UlSlotContext where
  isFullyUlEnabled : Bool
  puschs : List (Nat × GrantInfo)
  prachs : List GrantInfo
  hasSrs : Bool
deriving DecidableEq

def checkUlCollisions (ul : UlSlotContext) (grants : List GrantInfo) (isCommon : Bool) : Bool :=
  (isCommon && ul.hasSrs) || (ul.puschs.any fun pusch => grants.any fun grant => pusch.2.overlaps grant) ||
    ul.prachs.any fun prach => grants.any fun grant => prach.overlaps grant

section Reservation

variable {cell : PucchCellConfiguration} (ue : UePucchConfig cell) (rnti : Nat) (preserveResIndicator : Option Nat)

def reserveSrOfGrants (g : UeReservationGuard) (grants : PucchGrantList) : Bool × UeReservationGuard :=
  if grants.srResource.isSome then
    ((g.reserveSrResource ue rnti).1.isSome, (g.reserveSrResource ue rnti).2)
  else (true, g)

def reserveCsiOfGrants (g : UeReservationGuard) (grants : PucchGrantList) :
    Except PucchAbort (Bool × UeReservationGuard) :=
  if grants.csiResource.isSome then
    match ue.csiRes with
    | some r => .ok ((g.reserveCsiResource cell rnti r).1.isSome, (g.reserveCsiResource cell rnti r).2)
    | none => .error .csiResourceNotFound
  else .ok (true, g)

def collidesWithCommon (ul : UlSlotContext) (grants : PucchGrantList) (commonGrants : PucchGrants) : Bool :=
  let rgGrants := grants.toList.flatMap fun r => (r.pucchResCfg.toGrantInfo cell.initUlBwp).toList
  (rgGrants.any fun rgGrant => commonGrants.toList.any fun common => common.overlaps rgGrant) ||
    checkUlCollisions ul rgGrants false

/-- `multiplex_and_allocate_pucch`, up to the allocation: the grants to transmit, reserved in the guard. -/
def multiplexGrants (g : UeReservationGuard) (ul : UlSlotContext) (current : PucchGrantList) (bits : PucchUciBits)
    (commonGrants : Option PucchGrants) : Except PucchAbort (Option PucchGrantList × UeReservationGuard) := do
  let candidates ← getPucchResPreMultiplexing ue rnti g current bits
  match candidates.1 with
  | none => pure (none, candidates.2)
  | some c =>
    let multiplexed ← multiplexResources ue rnti preserveResIndicator candidates.2 c
    if multiplexed.1.isEmpty then pure (none, multiplexed.2)
    else
      let sr := reserveSrOfGrants ue rnti multiplexed.2 multiplexed.1
      if sr.1 = false then pure (none, sr.2)
      else
        let csi ← reserveCsiOfGrants ue rnti sr.2 multiplexed.1
        if csi.1 = false then pure (none, csi.2)
        else if commonGrants.any fun common => @collidesWithCommon cell ul multiplexed.1 common then pure (none, csi.2)
        else pure (some multiplexed.1, csi.2)

end Reservation

end OwlsRan.Sched
