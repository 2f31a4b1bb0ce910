import OwlsRan.Lib.EventRun
import OwlsRan.Sched.ResourceGrid
import Mathlib.Data.Finset.Prod
import Mathlib.Data.Finset.Union

/-!
# The PDCCH allocator of a slot

`pdcch_slot_allocator` gives a CCE position to each PDCCH of a slot. When no position of a new PDCCH is free, it moves
the earlier ones in a depth first search over their candidates.
-/

namespace OwlsRan.Sched

open OwlsRan.Lib

def MAX_DL_PDCCH_PDUS_PER_SLOT : Nat := 2 + 16 + 16 + 1

def MAX_UL_PDCCH_PDUS_PER_SLOT : Nat := 16

/-- What is asked for: the numerology of the BWP, the duration of the CORESET, and the CCE and the CRBs of each
candidate. -/
structure PdcchRequest where
  numerology : Nat
  duration : Nat
  pdcchCandidates : List Nat
  pdcchCandidateCrbs : List (List Nat)
  duration_pos : 0 < duration
  length_crbs : pdcchCandidateCrbs.length = pdcchCandidates.length

instance : DecidableEq PdcchRequest := fun a b =>
  decidable_of_iff
    ((a.numerology, a.duration, a.pdcchCandidates, a.pdcchCandidateCrbs) =
      (b.numerology, b.duration, b.pdcchCandidates, b.pdcchCandidateCrbs))
    (by cases a; cases b; simp)

inductive PdcchCtx where
  | dl (index : Nat)
  | ul (index : Nat)
deriving DecidableEq

structure AllocRecord where
  pdcchCtx : PdcchCtx
  request : PdcchRequest
deriving DecidableEq

structure TreeNode where
  dciIterIndex : Nat
  ncce : Nat
  recordIndex : Nat
deriving DecidableEq

namespace AllocRecord

def crbs (r : AllocRecord) (dciIterIndex : Nat) : List Nat := r.request.pdcchCandidateCrbs.getD dciIterIndex []

def elements (r : AllocRecord) (dciIterIndex : Nat) : Finset ResourceElement :=
  (Finset.range r.request.duration ×ˢ (r.crbs dciIterIndex).toFinset).image fun p => ⟨r.request.numerology, p.1, p.2⟩

def nofCandidates (r : AllocRecord) : Nat := r.request.pdcchCandidates.length

end AllocRecord

structure DfsState where
  dlResGrid : Finset ResourceElement
  dfsTree : List TreeNode
deriving DecidableEq

namespace DfsState

def allocateCce (d : DfsState) (r : AllocRecord) (dciIterIndex : Nat) : Option (Finset ResourceElement) :=
  if Disjoint (r.elements dciIterIndex) d.dlResGrid then some (d.dlResGrid ∪ r.elements dciIterIndex) else none

/-- `alloc_dfs_node`: the candidates are tried from `dciIterIndex` on. -/
def allocDfsNode (d : DfsState) (r : AllocRecord) (dciIterIndex : Nat) : Option DfsState :=
  (List.range' dciIterIndex (r.nofCandidates - dciIterIndex)).findSome? fun k =>
    (d.allocateCce r k).map fun grid =>
      ⟨grid, d.dfsTree ++ [⟨k, r.request.pdcchCandidates.getD k 0, d.dfsTree.length⟩]⟩

/-- The inner loop of `get_next_dfs`: nodes for the records that have none, until there is no free candidate. -/
def descend (d : DfsState) (startChildIdx : Nat) : List AllocRecord → DfsState
  | [] => d
  | r :: rs =>
    match d.allocDfsNode r startChildIdx with
    | none => d
    | some d' => d'.descend 0 rs

/-- `get_next_dfs`. The node that is taken off the tree stays in the grid. -/
def getNextDfs (records : List AllocRecord) : Nat → DfsState → Bool × DfsState
  | 0, d => (false, d)
  | fuel + 1, d =>
    match d.dfsTree.getLast? with
    | none => (false, d)
    | some last =>
      let popped := { d with dfsTree := d.dfsTree.dropLast }
      let next := popped.descend (last.dciIterIndex + 1) (records.drop popped.dfsTree.length)
      if next.dfsTree.length < records.length then next.getNextDfs records fuel else (true, next)

/-- The loop of `alloc_pdcch`: whether the new record has a node, whether earlier nodes were moved, and the state. -/
def allocLoop (records : List AllocRecord) (r : AllocRecord) : Nat → Bool → DfsState → Bool × Bool × DfsState
  | 0, moved, d => (false, moved, d)
  | fuel + 1, moved, d =>
    match d.allocDfsNode r 0 with
    | some d' => (true, moved, d')
    | none =>
      match d.getNextDfs records fuel with
      | (true, d') => d'.allocLoop records r fuel true
      | (false, d') => (false, true, d')

end DfsState

def dfsBound (records : List AllocRecord) : Nat := (records.map fun r => r.nofCandidates + 1).prod

/-- The slot: the CCE index of each of its PDCCHs, the grid, and the members of the allocator. -/
structure PdcchSlot where
  dlPdcchs : List Nat
  ulPdcchs : List Nat
  dlResGrid : Finset ResourceElement
  records : List AllocRecord
  dfsTree : List TreeNode
deriving DecidableEq

inductive PdcchAbort where
  | pdcchListFull
deriving DecidableEq

namespace PdcchSlot

def start (dlResGrid : Finset ResourceElement) : PdcchSlot := ⟨[], [], dlResGrid, [], []⟩

def ncce (s : PdcchSlot) : PdcchCtx → Option Nat
  | .dl i => s.dlPdcchs[i]?
  | .ul i => s.ulPdcchs[i]?

def setNcce (s : PdcchSlot) (ctx : PdcchCtx) (ncce : Nat) : PdcchSlot :=
  match ctx with
  | .dl i => { s with dlPdcchs := s.dlPdcchs.set i ncce }
  | .ul i => { s with ulPdcchs := s.ulPdcchs.set i ncce }

def publishNcce (s : PdcchSlot) (node : TreeNode) : PdcchSlot :=
  match s.records[node.recordIndex]? with
  | some r => s.setNcce r.pdcchCtx node.ncce
  | none => s

def allocPdcch (s : PdcchSlot) (ctx : PdcchCtx) (request : PdcchRequest) : Bool × PdcchSlot :=
  let record : AllocRecord := ⟨ctx, request⟩
  match DfsState.allocLoop s.records record (dfsBound s.records + 1) false ⟨s.dlResGrid, s.dfsTree⟩ with
  | (true, moved, d) =>
    let s := { s with dlResGrid := d.dlResGrid, dfsTree := d.dfsTree }
    let s := (d.dfsTree.getLast?).elim s fun node => s.setNcce ctx node.ncce
    let s := { s with records := s.records ++ [record] }
    (true, if moved then d.dfsTree.dropLast.foldl publishNcce s else s)
  | (false, _, d) => (false, { s with dlResGrid := d.dlResGrid })

/-- `alloc_dl_pdcch_helper`, when the search space is monitored in the slot. -/
def allocDlPdcchHelper (s : PdcchSlot) (request : PdcchRequest) : Except PdcchAbort (Bool × PdcchSlot) :=
  if s.dlPdcchs.length < MAX_DL_PDCCH_PDUS_PER_SLOT then
    match { s with dlPdcchs := s.dlPdcchs ++ [0] }.allocPdcch (.dl s.dlPdcchs.length) request with
    | (true, s) => .ok (true, s)
    | (false, s) => .ok (false, { s with dlPdcchs := s.dlPdcchs.dropLast })
  else .error .pdcchListFull

/-- `alloc_ul_pdcch_helper`, when the search space is monitored in the slot. -/
def allocUlPdcchHelper (s : PdcchSlot) (request : PdcchRequest) : Except PdcchAbort (Bool × PdcchSlot) :=
  if s.ulPdcchs.length < MAX_UL_PDCCH_PDUS_PER_SLOT then
    match { s with ulPdcchs := s.ulPdcchs ++ [0] }.allocPdcch (.ul s.ulPdcchs.length) request with
    | (true, s) => .ok (true, s)
    | (false, s) => .ok (false, { s with ulPdcchs := s.ulPdcchs.dropLast })
  else .error .pdcchListFull

def cancelLastPdcch (s : PdcchSlot) : Bool × PdcchSlot :=
  match s.records.getLast?, s.dfsTree.getLast? with
  | some r, some node =>
    let cleared := { s with
      dlResGrid := s.dlResGrid \ r.elements node.dciIterIndex, records := s.records.dropLast
      dfsTree := s.dfsTree.dropLast }
    match r.pdcchCtx with
    | .dl i => if i + 1 = s.dlPdcchs.length then (true, { cleared with dlPdcchs := s.dlPdcchs.dropLast }) else (false, s)
    | .ul i => if i + 1 = s.ulPdcchs.length then (true, { cleared with ulPdcchs := s.ulPdcchs.dropLast }) else (false, s)
  | _, _ => (false, s)

end PdcchSlot

inductive PdcchEvent where
  | allocDlPdcch (request : PdcchRequest)
  | allocUlPdcch (request : PdcchRequest)
  | cancelLastPdcch
deriving DecidableEq

namespace PdcchSlot

def call (s : PdcchSlot) : PdcchEvent → Except PdcchAbort (Bool × PdcchSlot)
  | .allocDlPdcch request => s.allocDlPdcchHelper request
  | .allocUlPdcch request => s.allocUlPdcchHelper request
  | .cancelLastPdcch => .ok s.cancelLastPdcch

def step (s : PdcchSlot) (e : PdcchEvent) : Except PdcchAbort PdcchSlot := do
  let (_, s) ← s.call e
  return s

end PdcchSlot

end OwlsRan.Sched
