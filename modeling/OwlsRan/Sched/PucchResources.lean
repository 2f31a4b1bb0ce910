import Mathlib.Data.List.Basic
import Mathlib.Logic.Function.Basic

/-!
# PUCCH resources and their collisions

The common resources of a cell follow from a table; the dedicated ones are configured. Two resources collide when
they overlap in time and frequency and are not multiplexed on the same grants.
-/

namespace OwlsRan.Sched

inductive PucchFormat where
  | format0
  | format1
  | format2
  | format3
  | format4
deriving DecidableEq

def PucchFormat.isFormat0Or1 : PucchFormat → Bool
  | .format0 => true
  | .format1 => true
  | _ => false

/-- `interval`, open on the right. -/
structure Interval where
  start : Nat
  stop : Nat
deriving DecidableEq

namespace Interval

def startAndLen (start len : Nat) : Interval := ⟨start, start + len⟩

def length (i : Interval) : Nat := i.stop - i.start

def isEmpty (i : Interval) : Bool := i.start == i.stop

def overlaps (i other : Interval) : Bool := decide (i.start < other.stop) && decide (other.start < i.stop)

/-- PRBs of a bandwidth part that starts at `n`, as CRBs. -/
def shift (i : Interval) (n : Nat) : Interval := ⟨n + i.start, n + i.stop⟩

def unshift (i : Interval) (n : Nat) : Interval := ⟨i.start - n, i.stop - n⟩

end Interval

structure GrantInfo where
  scs : Nat
  symbols : Interval
  crbs : Interval
deriving DecidableEq

def GrantInfo.overlaps (g other : GrantInfo) : Bool :=
  g.scs == other.scs && g.symbols.overlaps other.symbols && g.crbs.overlaps other.crbs

/-- The time-frequency grants of a resource, the second one when it hops within the slot. -/
structure PucchGrants where
  firstHop : GrantInfo
  secondHop : Option GrantInfo
deriving DecidableEq

namespace PucchGrants

def toList (g : PucchGrants) : List GrantInfo := g.firstHop :: g.secondHop.toList

def overlaps (g other : PucchGrants) : Bool := g.toList.any fun a => other.toList.any fun b => a.overlaps b

end PucchGrants

structure ResourceInfo where
  format : PucchFormat
  multiplexingIndex : Nat
  grants : PucchGrants
deriving DecidableEq

def doResourcesCollide (res1 res2 : ResourceInfo) : Bool :=
  if !res1.grants.overlaps res2.grants then false
  else if res1.format ≠ res2.format then true
  else if res1.grants ≠ res2.grants then true
  else res1.multiplexingIndex == res2.multiplexingIndex

/-- `format_params` of a resource; the format is the case taken. -/
inductive PucchFormatCfg where
  | format0 (initialCyclicShift : Nat)
  | format1 (initialCyclicShift timeDomainOcc : Nat)
  | format2 (nofPrbs : Nat)
  | format3 (nofPrbs : Nat)
  | format4 (occLength occIndex : Nat)
deriving DecidableEq

namespace PucchFormatCfg

def format : PucchFormatCfg → PucchFormat
  | .format0 _ => .format0
  | .format1 _ _ => .format1
  | .format2 _ => .format2
  | .format3 _ => .format3
  | .format4 _ _ => .format4

def nofPrbs : PucchFormatCfg → Nat
  | .format2 n => n
  | .format3 n => n
  | _ => 1

def format1InitialCyclicShiftRange : Interval := ⟨0, 12⟩

def multiplexingIndex : PucchFormatCfg → Nat
  | .format0 cs => cs
  | .format1 cs occ => cs + occ * format1InitialCyclicShiftRange.length
  | .format4 _ occIndex => occIndex
  | _ => 0

end PucchFormatCfg

/-- `pucch_resource`. `cellResId` is its index in the list of the cell. -/
structure PucchResource where
  cellResId : Nat
  startingPrb : Nat
  secondHopPrb : Option Nat
  nofSymbols : Nat
  startingSymIdx : Nat
  formatParams : PucchFormatCfg
deriving DecidableEq

structure BwpConfiguration where
  scs : Nat
  crbs : Interval
deriving DecidableEq

namespace BwpConfiguration

def prbToCrb (bwp : BwpConfiguration) (prbs : Interval) : Interval := prbs.shift bwp.crbs.start

def crbToPrb (bwp : BwpConfiguration) (crbs : Interval) : Interval := crbs.unshift bwp.crbs.start

/-- The grants of a transmission on `symbols`. A hop takes the first half of the symbols, the other the rest. -/
def pucchGrants (bwp : BwpConfiguration) (symbols prbs : Interval) (secondHopPrbs : Option Interval) : PucchGrants :=
  match secondHopPrbs with
  | some prbs2 =>
    ⟨⟨bwp.scs, ⟨symbols.start, symbols.start + symbols.length / 2⟩, bwp.prbToCrb prbs⟩,
      some ⟨bwp.scs, ⟨symbols.start + symbols.length / 2, symbols.stop⟩, bwp.prbToCrb prbs2⟩⟩
  | none => ⟨⟨bwp.scs, symbols, bwp.prbToCrb prbs⟩, none⟩

end BwpConfiguration

namespace PucchResource

def format (r : PucchResource) : PucchFormat := r.formatParams.format

def symbols (r : PucchResource) : Interval := .startAndLen r.startingSymIdx r.nofSymbols

def prbs (r : PucchResource) (nofPrbs : Nat) : Interval := .startAndLen r.startingPrb nofPrbs

def secondHopPrbs (r : PucchResource) (nofPrbs : Nat) : Option Interval :=
  r.secondHopPrb.map fun prb => .startAndLen prb nofPrbs

def toGrantInfo (bwp : BwpConfiguration) (r : PucchResource) : PucchGrants :=
  bwp.pucchGrants r.symbols (r.prbs r.formatParams.nofPrbs) (r.secondHopPrbs r.formatParams.nofPrbs)

def resourceInfo (bwp : BwpConfiguration) (r : PucchResource) : ResourceInfo where
  format := r.format
  multiplexingIndex := r.formatParams.multiplexingIndex
  grants := r.toGrantInfo bwp

end PucchResource

structure PucchDefaultResource where
  format : PucchFormat
  firstSymbolIndex : Nat
  nofSymbols : Nat
  rbBwpOffset : Nat
  csIndexes : List Nat
deriving DecidableEq

def pucchDefaultResourceTable : List PucchDefaultResource :=
  [⟨.format0, 12, 2, 0, [0, 3]⟩, ⟨.format0, 12, 2, 0, [0, 4, 8]⟩, ⟨.format0, 12, 2, 3, [0, 4, 8]⟩,
    ⟨.format1, 10, 4, 0, [0, 6]⟩, ⟨.format1, 10, 4, 0, [0, 3, 6, 9]⟩, ⟨.format1, 10, 4, 2, [0, 3, 6, 9]⟩,
    ⟨.format1, 10, 4, 4, [0, 3, 6, 9]⟩, ⟨.format1, 4, 10, 0, [0, 6]⟩, ⟨.format1, 4, 10, 0, [0, 3, 6, 9]⟩,
    ⟨.format1, 4, 10, 2, [0, 3, 6, 9]⟩, ⟨.format1, 4, 10, 4, [0, 3, 6, 9]⟩, ⟨.format1, 0, 14, 0, [0, 6]⟩,
    ⟨.format1, 0, 14, 0, [0, 3, 6, 9]⟩, ⟨.format1, 0, 14, 2, [0, 3, 6, 9]⟩, ⟨.format1, 0, 14, 4, [0, 3, 6, 9]⟩,
    ⟨.format1, 0, 14, 0, [0, 3, 6, 9]⟩]

def getPucchDefaultResource (index : Fin pucchDefaultResourceTable.length) (nBwpSize : Nat) : PucchDefaultResource :=
  let result := pucchDefaultResourceTable.get index
  if index.val = 15 then { result with rbBwpOffset := nBwpSize / 4 } else result

def getPucchDefaultResourceIndex (nCce nofCce deltaPri : Nat) : Nat := 2 * nCce / nofCce + 2 * deltaPri

def getPucchDefaultPrbIndex (rPucch rbBwpOffset nofCs nBwpSize : Nat) : Nat × Nat :=
  if rPucch / 8 = 1 then
    let second := rbBwpOffset + (rPucch - 8) / nofCs
    (nBwpSize - 1 - second, second)
  else
    let first := rbBwpOffset + rPucch / nofCs
    (first, nBwpSize - 1 - first)

def getPucchDefaultCyclicShift (rPucch nofCs : Nat) : Nat :=
  if rPucch > 8 then (rPucch - 8) % nofCs else rPucch % nofCs

/-- `MAX_NOF_CELL_COMMON_PUCCH_RESOURCES` -/
def NOF_COMMON_RES : Nat := 16

structure PucchCellConfiguration where
  pucchResourceCommon : Fin pucchDefaultResourceTable.length
  initUlBwp : BwpConfiguration
  dedPucchResources : List PucchResource
  maxPucchGrantsPerSlot : Nat
  maxUlGrantsPerSlot : Nat
  ringAllocatorSize : Nat

namespace PucchCellConfiguration

variable (cell : PucchCellConfiguration)

def sizeUlBwp : Nat := cell.initUlBwp.crbs.length

def defaultResource : PucchDefaultResource := getPucchDefaultResource cell.pucchResourceCommon cell.sizeUlBwp

def isPucchF0AndF2 : Bool :=
  cell.dedPucchResources.head?.any (fun r => r.format == .format0) &&
    cell.dedPucchResources.getLast?.any fun r => r.format == .format2

def commonSymbols : Interval :=
  .startAndLen cell.defaultResource.firstSymbolIndex cell.defaultResource.nofSymbols

def commonPrbs (rPucch : Nat) : Interval × Interval :=
  let prbs := getPucchDefaultPrbIndex rPucch cell.defaultResource.rbBwpOffset cell.defaultResource.csIndexes.length
    cell.sizeUlBwp
  (.startAndLen prbs.1 1, .startAndLen prbs.2 1)

/-- `get_common_pucch_grants` -/
def commonGrants (rPucch : Nat) : PucchGrants :=
  cell.initUlBwp.pucchGrants cell.commonSymbols (cell.commonPrbs rPucch).1 (some (cell.commonPrbs rPucch).2)

def commonCyclicShift (rPucch : Nat) : Nat :=
  cell.defaultResource.csIndexes.getD
    (getPucchDefaultCyclicShift rPucch cell.defaultResource.csIndexes.length) 0

def commonResourceInfo (rPucch : Nat) : ResourceInfo where
  format := cell.defaultResource.format
  multiplexingIndex := cell.commonCyclicShift rPucch
  grants := cell.commonGrants rPucch

def resources : List ResourceInfo :=
  (List.range NOF_COMMON_RES).map cell.commonResourceInfo ++
    cell.dedPucchResources.map fun r => r.resourceInfo cell.initUlBwp

def resourcesCollide (i j : Nat) : Bool :=
  match cell.resources[i]?, cell.resources[j]? with
  | some res1, some res2 => doResourcesCollide res1 res2
  | _, _ => false

/-- `compute_collisions`: each pair is computed once, and a resource collides with itself. -/
def collisionMatrix (i j : Nat) : Bool :=
  if i = j then true else if i < j then cell.resourcesCollide i j else cell.resourcesCollide j i

lemma collisionMatrix_self (i : Nat) : cell.collisionMatrix i i = true := by
  simp [collisionMatrix]

lemma length_resources : cell.resources.length = NOF_COMMON_RES + cell.dedPucchResources.length := by
  simp [resources]

end PucchCellConfiguration

end OwlsRan.Sched
