import Mathlib.Data.List.FinRange
import OwlsRan.Lib.EventRun
import OwlsRan.Ofh.UplaneDownlinkData

/-!
# Uplink context repository

Grids to receive are registered for the symbols of a slot and stand in a ring that is indexed by the slot. The writer of
received messages, the notifier of complete symbols and the handler of closed windows work on it, each call of the
repository being atomic. What was registered, written and notified is recorded.
-/

namespace OwlsRan.Ofh

open Lib

def SFN_MAX_VALUE : ℕ := 256

abbrev MAX_NSYMB_PER_SLOT : ℕ := 14

abbrev Symbol := Fin MAX_NSYMB_PER_SLOT

structure UplinkRepositoryConfig where
  nofSlotsPerSubframe : ℕ
  size : ℕ
  ulEaxc : List ℕ

/-- The slot with the frame number that the repositories keep of it. Slots are counted without wrapping around. -/
def UplinkRepositoryConfig.entrySlot (cfg : UplinkRepositoryConfig) (slot : ℕ) : ℕ :=
  slot % (SFN_MAX_VALUE * cfg.nofSlotsPerSubframe * 10)

def calculateRepositoryIndex (cfg : UplinkRepositoryConfig) (slot : ℕ) : ℕ := cfg.entrySlot slot % cfg.size

structure ResourceGridContext where
  slot : ℕ
  sector : ℕ
deriving DecidableEq

structure SharedResourceGrid where
  nofPorts : ℕ
  nofSubc : ℕ
deriving DecidableEq

/-- One symbol of a call of `add`. The number counts the calls, which tells them apart. -/
structure Registration where
  number : ℕ
  symbol : Symbol
  context : ResourceGridContext
  grid : SharedResourceGrid
deriving DecidableEq

inductive RepositoryAbort where
  | invalidResourceGrid | invalidPort | subspanOutOfRange
deriving DecidableEq

/-- `uplink_context` of a valid grid, with the REs that were written for each port. -/
structure UplinkContext where
  registration : Registration
  reWritten : ℕ → ℕ → Bool

namespace UplinkContext

def init (registration : Registration) : UplinkContext := ⟨registration, fun _ _ => false⟩

def getGridNofPrbs (c : UplinkContext) : ℕ := c.registration.grid.nofSubc / NOF_SUBCARRIERS_PER_RB

def writeGrid (c : UplinkContext) (port startRe nofRe : ℕ) : Except RepositoryAbort UplinkContext :=
  if c.registration.grid.nofPorts ≤ port then .ok c
  else if c.registration.grid.nofSubc < startRe + nofRe then .error .subspanOutOfRange
  else .ok { c with
    reWritten := fun p re => (decide (p = port ∧ startRe ≤ re ∧ re < startRe + nofRe)) || c.reWritten p re }

def haveAllPrbsBeenWritten (c : UplinkContext) : Bool :=
  decide (∀ port < c.registration.grid.nofPorts, ∀ re < c.registration.grid.nofSubc, c.reWritten port re = true)

end UplinkContext

structure SlotSymbolRange extends OfdmSymbolRange where
  stop_le : stop ≤ MAX_NSYMB_PER_SLOT

def SlotSymbolRange.symbols (range : SlotSymbolRange) : List Symbol :=
  (List.finRange MAX_NSYMB_PER_SLOT).filter fun symbol => range.start ≤ symbol.val ∧ symbol.val < range.stop

structure AddTask where
  number : ℕ
  context : ResourceGridContext
  grid : SharedResourceGrid
  symbolRange : SlotSymbolRange

namespace AddTask

def registration (task : AddTask) (symbol : Symbol) : Registration :=
  ⟨task.number, symbol, task.context, task.grid⟩

def registrations (task : AddTask) : List Registration := task.symbolRange.symbols.map task.registration

end AddTask

structure UplaneSection where
  startPrb : ℕ
  nofPrbs : ℕ
deriving DecidableEq

structure ReceivedMessage (cfg : UplinkRepositoryConfig) where
  eaxc : ℕ
  eaxc_mem : eaxc ∈ cfg.ulEaxc
  slot : ℕ
  symbol : Symbol
  sections : List UplaneSection

/-- `write_to_resource_grid` between two calls of the repository. -/
structure WriteJob where
  slot : ℕ
  symbol : Symbol
  port : ℕ
  duNofPrbs : ℕ
  sections : List UplaneSection

structure GridWrite where
  slot : ℕ
  symbol : Symbol
  registration : Registration
  port : ℕ
  startRe : ℕ
  nofRe : ℕ
deriving DecidableEq

structure UplinkSymbolNotification where
  registration : Registration
  symbol : Symbol
  complete : Bool
deriving DecidableEq

structure UplinkReception where
  entries : ℕ → Symbol → Option UplinkContext
  pendingContextToAdd : List AddTask
  jobs : List WriteJob
  nofAdds : ℕ
  registered : List Registration
  written : List GridWrite
  notified : List UplinkSymbolNotification
  closed : List (ℕ × Symbol)

inductive UplinkReceptionEvent (cfg : UplinkRepositoryConfig) where
  | add (context : ResourceGridContext) (grid : SharedResourceGrid) (symbolRange : SlotSymbolRange)
  | processPendingContext
  | receive (message : ReceivedMessage cfg)
  | writeSection (job : ℕ)
  | notifyReceivedSymbol (slot : ℕ) (symbol : Symbol)
  | handleUplinkContext (slot : ℕ) (symbol : Symbol)

namespace UplinkReception

def init : UplinkReception := ⟨fun _ _ => none, [], [], 0, [], [], [], []⟩

variable (cfg : UplinkRepositoryConfig)

def setEntry (entries : ℕ → Symbol → Option UplinkContext) (index : ℕ) (symbol : Symbol)
    (context : Option UplinkContext) : ℕ → Symbol → Option UplinkContext :=
  fun i y => if i = index ∧ y = symbol then context else entries i y

def entry (s : UplinkReception) (slot : ℕ) (symbol : Symbol) : Option UplinkContext :=
  s.entries (calculateRepositoryIndex cfg slot) symbol

def add (s : UplinkReception) (context : ResourceGridContext) (grid : SharedResourceGrid)
    (symbolRange : SlotSymbolRange) : UplinkReception :=
  if s.pendingContextToAdd.length < cfg.size then
    let task : AddTask := ⟨s.nofAdds, context, grid, symbolRange⟩
    { s with
      pendingContextToAdd := s.pendingContextToAdd ++ [task]
      nofAdds := s.nofAdds + 1
      registered := s.registered ++ task.registrations }
  else s

def runTask (entries : ℕ → Symbol → Option UplinkContext) (task : AddTask) :
    ℕ → Symbol → Option UplinkContext :=
  task.symbolRange.symbols.foldl (fun entries symbol =>
    setEntry entries (calculateRepositoryIndex cfg task.context.slot) symbol
      (some (UplinkContext.init (task.registration symbol)))) entries

/-- One round of the loop of `process_pending_contexts`. -/
def processPendingContext (s : UplinkReception) : UplinkReception :=
  match s.pendingContextToAdd with
  | [] => s
  | task :: rest => { s with pendingContextToAdd := rest, entries := runTask cfg s.entries task }

/-- `write_to_resource_grid` up to the loop over the sections. -/
def receive (s : UplinkReception) (message : ReceivedMessage cfg) : Except RepositoryAbort UplinkReception :=
  match s.entry cfg message.slot message.symbol with
  | none => .ok s
  | some context =>
    let rgPort := cfg.ulEaxc.idxOf message.eaxc
    if cfg.ulEaxc.length ≤ rgPort then .error .invalidPort
    else .ok { s with
      jobs := s.jobs ++ [⟨message.slot, message.symbol, rgPort, context.getGridNofPrbs, message.sections⟩] }

def nofPrbsToWrite (duNofPrbs : ℕ) (section_ : UplaneSection) : ℕ :=
  if section_.startPrb + section_.nofPrbs < duNofPrbs then section_.nofPrbs else duNofPrbs - section_.startPrb

/-- `write_grid` of the repository for one section of a message. -/
def writeGrid (s : UplinkReception) (job : WriteJob) (section_ : UplaneSection) :
    Except RepositoryAbort UplinkReception :=
  let startRe := section_.startPrb * NOF_SUBCARRIERS_PER_RB
  let nofRe := nofPrbsToWrite job.duNofPrbs section_ * NOF_SUBCARRIERS_PER_RB
  match s.entry cfg job.slot job.symbol with
  | none => .error .invalidResourceGrid
  | some context =>
    match context.writeGrid job.port startRe nofRe with
    | .error e => .error e
    | .ok context' => .ok { s with
        entries := setEntry s.entries (calculateRepositoryIndex cfg job.slot) job.symbol (some context')
        written := if job.port < context.registration.grid.nofPorts then
            s.written ++ [⟨job.slot, job.symbol, context.registration, job.port, startRe, nofRe⟩]
          else s.written }

def writeSection (s : UplinkReception) (i : ℕ) : Except RepositoryAbort UplinkReception :=
  match s.jobs[i]? with
  | none => .ok s
  | some job =>
    match job.sections with
    | [] => .ok s
    | section_ :: sections =>
      let s' := { s with jobs := s.jobs.set i { job with sections } }
      if job.duNofPrbs ≤ section_.startPrb then .ok s' else s'.writeGrid cfg job section_

def notify (s : UplinkReception) (slot : ℕ) (symbol : Symbol) (context : UplinkContext) (complete : Bool) :
    UplinkReception :=
  { s with
    entries := setEntry s.entries (calculateRepositoryIndex cfg slot) symbol none
    notified := s.notified ++ [⟨context.registration, symbol, complete⟩] }

def notifyReceivedSymbol (s : UplinkReception) (slot : ℕ) (symbol : Symbol) : UplinkReception :=
  match s.entry cfg slot symbol with
  | none => s
  | some context => if context.haveAllPrbsBeenWritten then s.notify cfg slot symbol context true else s

def handleUplinkContext (s : UplinkReception) (slot : ℕ) (symbol : Symbol) : UplinkReception :=
  let s' := { s with closed := (slot, symbol) :: s.closed }
  match s.entry cfg slot symbol with
  | none => s'
  | some context => s'.notify cfg slot symbol context false

def step (s : UplinkReception) : UplinkReceptionEvent cfg → Except RepositoryAbort UplinkReception
  | .add context grid symbolRange => .ok (s.add cfg context grid symbolRange)
  | .processPendingContext => .ok (s.processPendingContext cfg)
  | .receive message => s.receive cfg message
  | .writeSection i => s.writeSection cfg i
  | .notifyReceivedSymbol slot symbol => .ok (s.notifyReceivedSymbol cfg slot symbol)
  | .handleUplinkContext slot symbol => .ok (s.handleUplinkContext cfg slot symbol)

def notifiedTimes (s : UplinkReception) (r : Registration) : ℕ :=
  (s.notified.map UplinkSymbolNotification.registration).count r

end UplinkReception

end OwlsRan.Ofh
