import OwlsRan.Lib.EventRun
import OwlsRan.Sched.RbHelper

/-!
# New transmissions of a slice

`schedule_dl_newtx_candidates` and `schedule_ul_newtx_candidates`. Stage 1 reserves the control channels of the UEs with
the highest priorities, and stage 2 shares out the RBs among their grants. What the allocator of the cell answers to a
candidate is part of the candidate here.
-/

namespace OwlsRan.Sched
open OwlsRan.Adt OwlsRan.Lib

/-- `transform_precoding::get_valid_nof_prbs`, as the list of the valid numbers. -/
def validNofPrbs : List Nat :=
  [1, 2, 3, 4, 5, 6, 8, 9, 10, 12, 15, 16, 18, 20, 24, 25, 27, 30, 32, 36, 40, 45, 48, 50, 54, 60, 64, 72, 75, 80, 81, 90,
    96, 100, 108, 120, 125, 128, 135, 144, 150, 160, 162, 180, 192, 200, 216, 225, 240, 243, 250, 256, 270]

/-- `get_nof_prbs_lower_bound`: the largest valid number of PRBs that is not greater than the given one. -/
def getNofPrbsLowerBound (nofPrb : Nat) : Option Nat :=
  if 276 < nofPrb then none else (List.range (nofPrb + 1)).reverse.find? fun n => decide (n ∈ validNofPrbs)

/-- `dl_sched_context`, with the TBS that the MCS of the grant gives for a set of VRBs. -/
structure DlSchedContext where
  expectedNofRbs : Nat
  tbSizeBytes : UnsignedInterval → Nat

structure UlSchedContext where
  vrbLims : UnsignedInterval
  nofRbLims : UnsignedInterval
  expectedNofRbs : Nat
  useTransformPrecoder : Bool

inductive AllocAnswer (Ctx : Type) where
  | granted (ctx : Ctx)
  | skipSlot
  | uciAllocFailed
  | failed

/-- A candidate of `newtx_candidates`. The flag says whether the UE has a PUCCH or a PUSCH in a later slot. -/
structure SliceCandidate (Ctx : Type) where
  ueIndex : Nat
  hasLaterUciSlot : Bool
  answer : AllocAnswer Ctx

/-- A grant builder of `pending_dl_newtxs` or `pending_ul_newtxs`. -/
structure GrantBuilder (Ctx : Type) where
  ueIndex : Nat
  context : Ctx

inductive NewtxAbort where
  | invalidGrantSize
  | invalidPuschVrbs
  | search (reason : RbSearchAbort)
  | bitset (reason : BitsetAbort)
deriving DecidableEq

structure NewtxSearchSpace where
  nofCces : Nat
  bwpCrbs : Nat

def MAX_UE_GRANT_PER_SLOT : Nat := 8

def MIN_RB_PER_GRANT : Nat := 4

variable {N : Nat} {Ctx : Type}

/-- `get_max_grants_and_rb_grant_size`: the RBs to allocate, and the recommended number of RBs per grant. -/
def getMaxGrantsAndRbGrantSize (nofCandidates : Nat) (ssInfo : Option NewtxSearchSpace) (pdcchsInGrid remainingRbs : Nat)
    (usedVrbs : BoundedBitset N) (maxUeGrantsToAlloc : Nat) : Nat × Nat :=
  match ssInfo with
  | none => (0, 0)
  | some ss =>
    let uesToAlloc := min (min maxUeGrantsToAlloc (max (nofCandidates / 4) 1)) MAX_UE_GRANT_PER_SLOT
    -- half of the CCEs, at aggregation level 2
    let maxNofCandidates := ss.nofCces / 2 / 2
    let maxNofCandidates := maxNofCandidates - min pdcchsInGrid maxNofCandidates
    let uesToAlloc := min maxNofCandidates uesToAlloc
    if uesToAlloc = 0 then (0, 0)
    else
      let maxNofRbs := min (min ss.bwpCrbs remainingRbs) usedVrbs.complement.count
      if maxNofRbs = 0 then (0, 0) else (maxNofRbs, max (maxNofRbs / uesToAlloc) MIN_RB_PER_GRANT)

structure Preselection (Ctx : Type) where
  rbCount : Nat
  pucchGrantLimitExceeded : Bool
  attemptsCount : Nat
  pending : List (GrantBuilder Ctx)

structure PreselectionLimits where
  rbsToAlloc : Nat
  maxRbsPerGrant : Nat
  maxUeGrantsToAlloc : Nat
  maxPdcchAllocAttemptsPerSlot : Nat

/-- The loop of stage 1. Only a DL candidate can fail for want of a PUCCH. -/
def preselect (expectedNofRbs : Ctx → Nat) (lims : PreselectionLimits) :
    Preselection Ctx → List (SliceCandidate Ctx) → Preselection Ctx
  | st, [] => st
  | st, c :: cs =>
    let next (st : Preselection Ctx) : Preselection Ctx :=
      let st := { st with attemptsCount := st.attemptsCount + 1 }
      if lims.maxPdcchAllocAttemptsPerSlot ≤ st.attemptsCount then st else preselect expectedNofRbs lims st cs
    if st.pucchGrantLimitExceeded && !c.hasLaterUciSlot then preselect expectedNofRbs lims st cs
    else
      match c.answer with
      | .granted ctx =>
        let st := { st with
          rbCount := st.rbCount + min (expectedNofRbs ctx) lims.maxRbsPerGrant
          pending := st.pending ++ [⟨c.ueIndex, ctx⟩] }
        if lims.rbsToAlloc ≤ st.rbCount then st
        else if lims.maxUeGrantsToAlloc ≤ st.pending.length then st
        else next st
      | .skipSlot => st
      | .uciAllocFailed => next { st with pucchGrantLimitExceeded := true }
      | .failed => next st

/-- Stage 1 begins without pending grants. The attempts are counted over all calls of a slot. -/
def Preselection.start (attemptsCount : Nat) : Preselection Ctx := ⟨0, false, attemptsCount, []⟩

/-- `pending_dl_newtxs` behind stage 1. -/
def pendingDlNewtxs (lims : PreselectionLimits) (attemptsCount : Nat) (candidates : List (SliceCandidate DlSchedContext)) :
    List (GrantBuilder DlSchedContext) :=
  (preselect DlSchedContext.expectedNofRbs lims (.start attemptsCount) candidates).pending

/-- `pending_ul_newtxs` behind stage 1. -/
def pendingUlNewtxs (lims : PreselectionLimits) (attemptsCount : Nat) (candidates : List (SliceCandidate UlSchedContext)) :
    List (GrantBuilder UlSchedContext) :=
  (preselect UlSchedContext.expectedNofRbs lims (.start attemptsCount) candidates).pending

/-- `find_available_vrbs` for a DL grant, which searches the whole bitmap. -/
def findAvailableDlVrbs (ctx : DlSchedContext) (usedVrbs : BoundedBitset N) (maxRbs : Nat) :
    Except NewtxAbort UnsignedInterval :=
  (findEmptyIntervalOfLength usedVrbs (min ctx.expectedNofRbs maxRbs) (.ofStartAndLen 0 N)).mapError .search

/-- `find_available_vrbs` for a UL grant. -/
def findAvailableUlVrbs (ctx : UlSchedContext) (usedVrbs : BoundedBitset N) (maxRbs : Nat) :
    Except NewtxAbort UnsignedInterval := do
  let nofRbs := ctx.nofRbLims.clamp (min ctx.expectedNofRbs maxRbs)
  let vrbs ← (findEmptyIntervalOfLength usedVrbs nofRbs ctx.vrbLims).mapError .search
  if vrbs.empty then return .default
  if ctx.useTransformPrecoder then
    match getNofPrbsLowerBound vrbs.length with
    | none => return .default
    | some validNofRbs => return vrbs.resize validNofRbs
  return vrbs

/-- What stage 2 keeps while it goes through the pending grants. A cancelled grant has no VRBs. -/
structure RbDistribution (N : Nat) where
  usedVrbs : BoundedBitset N
  allocCount : Nat
  rbCount : Nat
  rbsMissing : Int
  allocVrbs : List (Option UnsignedInterval)

def RbDistribution.start (usedVrbs : BoundedBitset N) : RbDistribution N := ⟨usedVrbs, 0, 0, 0, []⟩

/-- `max_grant_size` of the next grant. The last grant gets what is left. -/
def RbDistribution.maxGrantSize (rbsToAlloc nofGrants : Nat) (d : RbDistribution N) : Int :=
  if d.allocCount = nofGrants - 1 then (rbsToAlloc : Int) - d.rbCount
  else ((rbsToAlloc / nofGrants : Nat) : Int) + d.rbsMissing

/-- One turn of the loop of stage 2. `onEmpty` is what the allocator does with a grant without VRBs. -/
def RbDistribution.step (search : Ctx → BoundedBitset N → Nat → Except NewtxAbort UnsignedInterval)
    (onEmpty : Except NewtxAbort Unit) (rbsToAlloc nofGrants : Nat) (d : RbDistribution N) (builder : GrantBuilder Ctx) :
    Except NewtxAbort (RbDistribution N) := do
  let maxGrantSize := d.maxGrantSize rbsToAlloc nofGrants
  if maxGrantSize ≤ 0 then throw .invalidGrantSize
  let vrbs ← search builder.context d.usedVrbs maxGrantSize.toNat
  if vrbs.empty then
    onEmpty
    return { d with allocCount := d.allocCount + 1, allocVrbs := d.allocVrbs ++ [none] }
  let usedVrbs ← (d.usedVrbs.fill vrbs.start vrbs.stop true).mapError .bitset
  return {
    usedVrbs := usedVrbs
    allocCount := d.allocCount + 1
    rbCount := d.rbCount + vrbs.length
    rbsMissing := maxGrantSize - vrbs.length
    allocVrbs := d.allocVrbs ++ [some vrbs] }

/-- `ue_cell_grid_allocator::set_pdsch_params` cancels a grant that has no VRBs. -/
def onEmptyPdschVrbs : Except NewtxAbort Unit := .ok ()

/-- `ue_cell_grid_allocator::set_pusch_params` begins with an assertion that there are VRBs. The branch that cancels the
grant comes behind it. -/
def onEmptyPuschVrbs : Except NewtxAbort Unit := .error .invalidPuschVrbs

def dlStage2Step (rbsToAlloc nofGrants : Nat) :
    RbDistribution N → GrantBuilder DlSchedContext → Except NewtxAbort (RbDistribution N) :=
  RbDistribution.step findAvailableDlVrbs onEmptyPdschVrbs rbsToAlloc nofGrants

def ulStage2Step (rbsToAlloc nofGrants : Nat) :
    RbDistribution N → GrantBuilder UlSchedContext → Except NewtxAbort (RbDistribution N) :=
  RbDistribution.step findAvailableUlVrbs onEmptyPuschVrbs rbsToAlloc nofGrants

def distributeDlRbs (rbsToAlloc : Nat) (usedDlVrbs : BoundedBitset N) (pending : List (GrantBuilder DlSchedContext)) :
    Except NewtxAbort (RbDistribution N) :=
  runEvents (dlStage2Step rbsToAlloc pending.length) (.start usedDlVrbs) pending

def distributeUlRbs (rbsToAlloc : Nat) (usedUlVrbs : BoundedBitset N) (pending : List (GrantBuilder UlSchedContext)) :
    Except NewtxAbort (RbDistribution N) :=
  runEvents (ulStage2Step rbsToAlloc pending.length) (.start usedUlVrbs) pending

end OwlsRan.Sched
