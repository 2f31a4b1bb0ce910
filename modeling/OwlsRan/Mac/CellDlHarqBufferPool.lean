import Mathlib.Algebra.GroupWithZero.Nat
import OwlsRan.Lib.Custody
import OwlsRan.Lib.EventRun

/-!
# The DL HARQ buffers of a cell

Buffers are taken from a pool, given to UEs, and kept in a cache when their UE is gone. Tasks in the background take
further buffers into the cache, unless they were cancelled. A buffer is known by its index in the pool.
-/

namespace OwlsRan.Mac
open OwlsRan.Lib

def MAX_NOF_UES : Nat := 1024

def MAX_NOF_HARQS : Nat := 32

def POOL_SIZE : Nat := MAX_NOF_UES * MAX_NOF_HARQS

def DL_HARQ_ALLOC_BATCH : Nat := MAX_NOF_HARQS * 2

def DL_HARQ_ALLOC_MINIBATCH : Nat := 2

abbrev DuUeIndex := Fin MAX_NOF_UES

instance : NeZero MAX_NOF_UES := ⟨by decide⟩

inductive HarqPoolAbort where
  | invalidNofHarqs
  | invalidHarqId
deriving DecidableEq

abbrev SharedFlag := Option Nat

structure CellDlHarqBufferPool where
  cellBuffers : DuUeIndex → List Nat
  bufferCache : List Nat
  poolElemIndex : Nat
  refCnt : Nat → Nat
  poolGrowthCancelled : SharedFlag
  flags : List Nat
  /-- The copies of the flag that the deferred tasks hold, oldest task first. -/
  deferred : List SharedFlag

inductive HarqPoolEvent where
  | allocateUeBuffers (ueIndex : DuUeIndex) (nofHarqs : Nat)
  | deallocateUeBuffers (ueIndex : DuUeIndex)
  | clear
  | allocateDlHarqBuffer (ueIndex : DuUeIndex) (hId : Nat)
  /-- The view that a handle was turned into is copied. -/
  | shareBuffer (buffer : Nat)
  | releaseBuffer (buffer : Nat)
  /-- The control executor runs the oldest deferred task. -/
  | runTask
deriving DecidableEq

namespace CellDlHarqBufferPool

variable (s : CellDlHarqBufferPool)

section Pool

def isPoolDepleted : Bool := s.poolElemIndex = 0

def allocateFromPool : Option (Nat × CellDlHarqBufferPool) :=
  if s.isPoolDepleted then none else some (s.poolElemIndex - 1, { s with poolElemIndex := s.poolElemIndex - 1 })

def allocateFromCache : Option (Nat × CellDlHarqBufferPool) :=
  match s.bufferCache.reverse.find? fun b => s.refCnt b = 0 with
  | none => none
  | some b => some (b, { s with bufferCache := (s.bufferCache.reverse.erase b).reverse })

def cache (b : Nat) : CellDlHarqBufferPool := { s with bufferCache := s.bufferCache ++ [b] }

def give (ueIndex : DuUeIndex) (b : Nat) : CellDlHarqBufferPool :=
  { s with cellBuffers := Function.update s.cellBuffers ueIndex (s.cellBuffers ueIndex ++ [b]) }

end Pool

section Growth

def growCacheInBackground : CellDlHarqBufferPool :=
  if s.isPoolDepleted then s
  else if s.bufferCache.length ≥ DL_HARQ_ALLOC_BATCH then s
  else { s with deferred := s.deferred ++ [s.poolGrowthCancelled] }

/-- Takes buffers from the pool into the cache, and says whether the pool had enough of them. -/
def growCache (s : CellDlHarqBufferPool) : Nat → Bool × CellDlHarqBufferPool
  | 0 => (true, s)
  | n + 1 =>
    match s.allocateFromPool with
    | none => (false, s)
    | some (b, s) => growCache (s.cache b) n

/-- The body of a deferred task. It tests the shared pointer, not the flag that the pointer refers to. -/
def growthTask (cancelFlagCpy : SharedFlag) : CellDlHarqBufferPool :=
  if cancelFlagCpy.isSome then s
  else
    let (done, s) := s.growCache DL_HARQ_ALLOC_MINIBATCH
    if done then s.growCacheInBackground else s

def runTask : CellDlHarqBufferPool :=
  match s.deferred with
  | [] => s
  | cancelFlagCpy :: deferred => { s with deferred := deferred }.growthTask cancelFlagCpy

end Growth

section Ues

/-- The loop that gives the UE the buffers that it still lacks, and whether it got to its end. -/
def giveBuffers (s : CellDlHarqBufferPool) (ueIndex : DuUeIndex) : Nat → Bool × CellDlHarqBufferPool
  | 0 => (true, s)
  | n + 1 =>
    match if s.bufferCache = [] then s.allocateFromPool else s.allocateFromCache with
    | none => (false, s)
    | some (b, s) => giveBuffers (s.give ueIndex b) ueIndex n

def allocateUeBuffers (ueIndex : DuUeIndex) (nofHarqs : Nat) : Except HarqPoolAbort CellDlHarqBufferPool :=
  if nofHarqs > MAX_NOF_HARQS then .error .invalidNofHarqs
  else if s.cellBuffers ueIndex ≠ [] then .ok s
  else
    let (done, s) := s.giveBuffers ueIndex nofHarqs
    .ok (if done then s.growCacheInBackground else s)

def deallocateUeBuffers (ueIndex : DuUeIndex) : CellDlHarqBufferPool :=
  { s with
    bufferCache := s.bufferCache ++ s.cellBuffers ueIndex
    cellBuffers := Function.update s.cellBuffers ueIndex [] }

def clear : CellDlHarqBufferPool :=
  let flags := s.poolGrowthCancelled.toList ++ s.flags
  let s := { s with flags := flags, poolGrowthCancelled := some flags.length }
  (List.finRange MAX_NOF_UES).foldl deallocateUeBuffers s

end Ues

section Handles

def allocateDlHarqBuffer (ueIndex : DuUeIndex) (hId : Nat) : Except HarqPoolAbort CellDlHarqBufferPool :=
  match (s.cellBuffers ueIndex)[hId]? with
  | none => .error .invalidHarqId
  | some b => .ok (if s.refCnt b ≠ 0 then s else { s with refCnt := Function.update s.refCnt b 1 })

def shareBuffer (b : Nat) : CellDlHarqBufferPool :=
  if s.refCnt b = 0 then s else { s with refCnt := Function.update s.refCnt b (s.refCnt b + 1) }

def releaseBuffer (b : Nat) : CellDlHarqBufferPool :=
  if s.refCnt b = 0 then s else { s with refCnt := Function.update s.refCnt b (s.refCnt b - 1) }

end Handles

def init : CellDlHarqBufferPool :=
  let s : CellDlHarqBufferPool :=
    { cellBuffers := fun _ => []
      bufferCache := []
      poolElemIndex := POOL_SIZE
      refCnt := fun _ => 0
      poolGrowthCancelled := some 0
      flags := []
      deferred := [] }
  (s.growCache DL_HARQ_ALLOC_BATCH).2

def step (s : CellDlHarqBufferPool) : HarqPoolEvent → Except HarqPoolAbort CellDlHarqBufferPool
  | .allocateUeBuffers ueIndex nofHarqs => s.allocateUeBuffers ueIndex nofHarqs
  | .deallocateUeBuffers ueIndex => .ok (s.deallocateUeBuffers ueIndex)
  | .clear => .ok s.clear
  | .allocateDlHarqBuffer ueIndex hId => s.allocateDlHarqBuffer ueIndex hId
  | .shareBuffer b => .ok (s.shareBuffer b)
  | .releaseBuffer b => .ok (s.releaseBuffer b)
  | .runTask => .ok s.runTask

section Properties

def holders : Option DuUeIndex → List Nat
  | none => s.bufferCache
  | some ueIndex => s.cellBuffers ueIndex

def Taken (b : Nat) : Prop := s.poolElemIndex ≤ b ∧ b < POOL_SIZE

/-- Every buffer that was taken from the pool is in the cache or with one UE, and in one place only. -/
def Conserved : Prop := Custody s.holders s.Taken

def isCancelled (cancelFlagCpy : SharedFlag) : Bool := cancelFlagCpy.any (· ∈ s.flags)

/-- When no task is left that was not cancelled, the cache is filled or the pool is depleted. -/
def Replenished : Prop :=
  (∀ f ∈ s.deferred, s.isCancelled f) → DL_HARQ_ALLOC_BATCH ≤ s.bufferCache.length ∨ s.poolElemIndex = 0

/-- A step gives no UE a buffer that is in use, and gives a new UE all its buffers as long as the pool lasts. -/
def Gives (e : HarqPoolEvent) : Prop :=
  ∀ s', s.step e = .ok s' → (∀ ue, ∀ b ∈ s'.cellBuffers ue, b ∈ s.cellBuffers ue ∨ s.refCnt b = 0) ∧
    ∀ ue nofHarqs, e = .allocateUeBuffers ue nofHarqs → s.cellBuffers ue = [] → s'.poolElemIndex ≠ 0 →
      (s'.cellBuffers ue).length = nofHarqs

def freeInCache : Nat := s.bufferCache.countP fun b => s.refCnt b = 0

/-- A new UE finds enough free buffers in the cache, or no buffer of the cache is in use; and no task that was not
cancelled runs while the cache has to grow. -/
def Sustained : HarqPoolEvent → Prop
  | .allocateUeBuffers ueIndex nofHarqs =>
    s.cellBuffers ueIndex = [] →
      s.poolElemIndex = 0 ∨ nofHarqs ≤ s.freeInCache ∨ s.freeInCache = s.bufferCache.length
  | .runTask =>
    ∀ f ∈ s.deferred.head?, s.isCancelled f = false →
      DL_HARQ_ALLOC_BATCH ≤ s.bufferCache.length ∨ s.poolElemIndex = 0
  | _ => True

end Properties

end CellDlHarqBufferPool

end OwlsRan.Mac
