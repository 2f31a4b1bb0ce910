import OwlsRan.Lib.EventRun
import OwlsRan.Adt.CircularMap
import OwlsRan.Sched.ResourceGridUtil
import Mathlib.Data.Finset.Basic

/-!
# The resource grid of a cell

`cell_resource_allocator` keeps what has been scheduled in a ring with one entry for each slot. Grants are of any type
`γ`, and a grid is the set of the RBs that it has filled.
-/

namespace OwlsRan.Sched
open OwlsRan.Lib OwlsRan.Adt OwlsRan.Ran

def RING_MAX_HISTORY_SIZE : Nat := 16

structure DlSchedResult (γ : Type) where
  nofDlSymbols : Nat
  dlPdcchs : List γ
  ulPdcchs : List γ
  ssbInfo : List γ
  sibs : List γ
  rarGrants : List γ
  pagingGrants : List γ
  ueGrants : List γ
  csiRs : List γ
deriving DecidableEq

structure UlSchedResult (γ : Type) where
  nofUlSymbols : Nat
  puschs : List γ
  prachs : List γ
  pucchs : List γ
  srss : List γ
deriving DecidableEq

structure FailedAllocAttempts where
  pdcch : Nat
  uci : Nat
deriving DecidableEq

structure SchedResult (γ : Type) where
  success : Bool
  dl : DlSchedResult γ
  ul : UlSchedResult γ
  failedAttempts : FailedAllocAttempts
deriving DecidableEq

structure ResourceElement where
  numerology : Nat
  symbol : Nat
  crb : Nat
deriving DecidableEq

structure SlotResources (γ : Type) where
  result : SchedResult γ
  dlResGrid : Finset ResourceElement
  ulResGrid : Finset ResourceElement
deriving DecidableEq

structure CellSlotResourceAllocator (γ : Type) where
  slot : SlotPoint
  resources : SlotResources γ
deriving DecidableEq

namespace SlotResources

variable {γ : Type}

def init : SlotResources γ := ⟨⟨false, ⟨0, [], [], [], [], [], [], [], []⟩, ⟨0, [], [], [], []⟩, ⟨0, 0⟩⟩, ∅, ∅⟩

def clear (r : SlotResources γ) : SlotResources γ where
  result := {
    success := false
    dl := { r.result.dl with
      dlPdcchs := [], ulPdcchs := [], ssbInfo := [], sibs := [], rarGrants := [], pagingGrants := [], ueGrants := []
      csiRs := [] }
    ul := { r.result.ul with puschs := [], prachs := [], pucchs := [], srss := [] }
    failedAttempts := ⟨0, 0⟩ }
  dlResGrid := ∅
  ulResGrid := ∅

def fresh (cfg : CellConfiguration) (slot : SlotPoint) : SlotResources γ where
  result := {
    success := true
    dl := ⟨cfg.getNofDlSymbolPerSlot slot, [], [], [], [], [], [], [], []⟩
    ul := ⟨cfg.getNofUlSymbolPerSlot slot, [], [], [], []⟩
    failedAttempts := ⟨0, 0⟩ }
  dlResGrid := ∅
  ulResGrid := ∅

end SlotResources

def CellSlotResourceAllocator.slotIndication {γ : Type} (cfg : CellConfiguration) (newSlot : SlotPoint)
    (e : CellSlotResourceAllocator γ) : CellSlotResourceAllocator γ :=
  let cleared := e.resources.clear
  { slot := newSlot
    resources := { cleared with
      result.success := true
      result.dl.nofDlSymbols := cfg.getNofDlSymbolPerSlot newSlot
      result.ul.nofUlSymbols := cfg.getNofUlSymbolPerSlot newSlot } }

inductive GridAbort where
  | slotIndicationSkipped
  | invalidNumerology
  | poolTooSmall
  | uninitializedGrid
deriving DecidableEq

structure CellResourceAllocator (γ : Type) where
  lastSlotInd : SlotPoint
  slots : CircularVector (CellSlotResourceAllocator γ)

/-- `RING_MAX_HISTORY_SIZE` slots and those that can be allocated: the slots that the ring has to hold at a time. -/
def CellConfiguration.windowSize (cfg : CellConfiguration) : Nat :=
  RING_MAX_HISTORY_SIZE + getMaxSlotUlAllocDelay cfg.ntnCsKoffset

def CellConfiguration.ringSize (cfg : CellConfiguration) : Nat := getAllocatorRingSizeGtMin cfg.windowSize 0

def CellConfiguration.maxUlSlotAllocDelay (cfg : CellConfiguration) : Nat := getMaxSlotUlAllocDelay cfg.ntnCsKoffset

structure SlotReset where
  index : SlotPoint
  newSlot : SlotPoint
deriving DecidableEq

namespace CellResourceAllocator

variable {γ : Type}

def init (cfg : CellConfiguration) : CellResourceAllocator γ where
  lastSlotInd := .invalid
  slots := .ofFn cfg.ringSize (ringSize_pos _ _) fun _ => ⟨.invalid, .init⟩

def resets (c : CellResourceAllocator γ) (slTx : SlotPoint) : List SlotReset :=
  if ¬c.lastSlotInd.valid then (List.range c.slots.size).map fun i => ⟨slTx.add i, slTx.add i⟩
  else
    let slotToReset := slTx.sub RING_MAX_HISTORY_SIZE
    [⟨slotToReset, slotToReset.add c.slots.size⟩]

def resetSlot (cfg : CellConfiguration) (slots : CircularVector (CellSlotResourceAllocator γ)) (r : SlotReset) :
    CircularVector (CellSlotResourceAllocator γ) :=
  slots.modify r.index.count fun e => e.slotIndication cfg r.newSlot

def slotIndication (cfg : CellConfiguration) (c : CellResourceAllocator γ) (slTx : SlotPoint) :
    Except GridAbort (CellResourceAllocator γ) :=
  if c.lastSlotInd.valid ∧ c.lastSlotInd.add 1 ≠ slTx then .error .slotIndicationSkipped
  else if slTx.numerology ≠ cfg.numerology.val then .error .invalidNumerology
  else .ok ⟨slTx, (c.resets slTx).foldl (resetSlot cfg) c.slots⟩

/-- The entry of the slot `slotDelay` after the last one indicated, which the caller then writes to. -/
def allocate (cfg : CellConfiguration) (c : CellResourceAllocator γ) (slotDelay : Nat)
    (write : SlotResources γ → SlotResources γ) : Except GridAbort (CellResourceAllocator γ) :=
  if cfg.maxUlSlotAllocDelay < slotDelay then .error .poolTooSmall
  else
    let slTx := c.lastSlotInd.add slotDelay
    if (c.slots.get slTx.count).slot ≠ slTx then .error .uninitializedGrid
    else .ok { c with slots := c.slots.modify slTx.count fun e => { e with resources := write e.resources } }

end CellResourceAllocator

inductive GridEvent (γ : Type) where
  | slotIndication (slTx : SlotPoint)
  | allocate (slotDelay : Nat) (write : SlotResources γ → SlotResources γ)

namespace CellResourceAllocator

variable {γ : Type}

def step (cfg : CellConfiguration) (c : CellResourceAllocator γ) :
    GridEvent γ → Except GridAbort (CellResourceAllocator γ)
  | .slotIndication slTx => c.slotIndication cfg slTx
  | .allocate slotDelay write => c.allocate cfg slotDelay write

def run (cfg : CellConfiguration) (es : List (GridEvent γ)) : Except GridAbort (CellResourceAllocator γ) :=
  runEvents (step cfg) (init cfg) es

end CellResourceAllocator

end OwlsRan.Sched
