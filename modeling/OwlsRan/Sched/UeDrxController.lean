import OwlsRan.Ran.SlotPoint

/-!
# The DRX controller of a UE

The controller keeps one slot at which the active time ends. Slot points come from a clock that counts all slots; the
time since the first hyper system frame is its reading.
-/

namespace OwlsRan.Sched
open OwlsRan.Ran

/-- `drx_config`, with values as its comments list them. -/
structure DrxConfig where
  longCycle : Nat
  longStartOffset : Nat
  onDurationTimer : Nat
  inactivityTimer : Nat
  retxTimerDl : Nat
  retxTimerUl : Nat
  longStartOffset_lt : longStartOffset < longCycle
  onDurationTimer_le : onDurationTimer ≤ longCycle
  longCycle_le : longCycle ≤ 10240
  onDurationTimer_le_max : onDurationTimer ≤ 1600
  inactivityTimer_le_max : inactivityTimer ≤ 2560
  retxTimerDl_le_max : retxTimerDl ≤ 320
  retxTimerUl_le_max : retxTimerUl ≤ 320

instance : DecidableEq DrxConfig := fun a b =>
  decidable_of_iff
    ((a.longCycle, a.longStartOffset, a.onDurationTimer, a.inactivityTimer, a.retxTimerDl, a.retxTimerUl) =
      (b.longCycle, b.longStartOffset, b.onDurationTimer, b.inactivityTimer, b.retxTimerDl, b.retxTimerUl))
    (by cases a; cases b; simp)

/-- An invalid slot point is `none`. -/
structure UeDrxController where
  /-- The numerology of `scs_common`. -/
  scsCommon : Nat
  conresTimer : Nat
  ulCcchSlotRx : Option SlotPoint
  drxCfg : Option DrxConfig
  activeWindowPeriod : Nat
  activeWindowStart : Nat
  activeWindowStop : Nat
  inactivityDur : Nat
  activeTimeEnd : Option SlotPoint

namespace UeDrxController

variable (c : UeDrxController) (hasPendingSr : Bool)

def nofSlotsPerSf : Nat := 2 ^ c.scsCommon

def reconfigure (newDrxCfg : Option DrxConfig) : UeDrxController :=
  if c.drxCfg = newDrxCfg then c
  else
    match newDrxCfg with
    | none => { c with drxCfg := none }
    | some cfg =>
      let winStart := cfg.longStartOffset * c.nofSlotsPerSf
      { c with
        drxCfg := some cfg
        activeWindowPeriod := cfg.longCycle * c.nofSlotsPerSf
        activeWindowStart := winStart
        activeWindowStop := winStart + cfg.onDurationTimer * c.nofSlotsPerSf
        inactivityDur := cfg.inactivityTimer * c.nofSlotsPerSf }

def create (scsCommon conresTimer : Nat) (drxCfg : Option DrxConfig) (ulCcchSlotRx : Option SlotPoint) :
    UeDrxController :=
  reconfigure ⟨scsCommon, conresTimer, ulCcchSlotRx, none, 0, 0, 0, 0, none⟩ drxCfg

def isSlotInOnDurationTimerWindow (slotMod : Nat) : Bool :=
  if c.activeWindowStart ≤ slotMod ∧ slotMod < c.activeWindowStop then true
  else if c.activeWindowPeriod ≤ c.activeWindowStop then
    decide (slotMod < c.activeWindowStop % c.activeWindowPeriod)
  else false

def runningEnd (dlSlot : SlotPoint) : Option SlotPoint := c.activeTimeEnd.filter fun e => !dlSlot.ge e

def slotIndication (dlSlot : SlotPoint) : UeDrxController :=
  if c.drxCfg = none then c
  else
    match c.runningEnd dlSlot with
    | some e => { c with activeTimeEnd := some e }
    | none =>
      let slotMod := dlSlot.count % c.activeWindowPeriod
      { c with
        activeTimeEnd :=
          if c.isSlotInOnDurationTimerWindow slotMod then some (dlSlot.add (c.activeWindowStop - slotMod)) else none }

def isActiveTime : Bool := c.activeTimeEnd.isSome || hasPendingSr

def isPdcchEnabled : Bool := c.drxCfg.isNone || c.isActiveTime hasPendingSr

def extend (newEnd : SlotPoint) : UeDrxController :=
  match c.activeTimeEnd with
  | none => { c with activeTimeEnd := some newEnd }
  | some e => if e.lt newEnd then { c with activeTimeEnd := some newEnd } else c

def updateInactivityTimer (pdcchSlot : SlotPoint) : UeDrxController :=
  if c.inactivityDur ≠ 0 then c.extend (pdcchSlot.add c.inactivityDur) else c

def onNewDlPdcchAlloc (pdcchSlot : SlotPoint) : UeDrxController :=
  if c.drxCfg = none then c
  else if c.isActiveTime hasPendingSr = false then c
  else c.updateInactivityTimer pdcchSlot

def onNewUlPdcchAlloc (pdcchSlot puschSlot : SlotPoint) : UeDrxController :=
  match c.drxCfg with
  | none => c
  | some cfg =>
    if c.isActiveTime hasPendingSr = false then c
    else
      let c := c.updateInactivityTimer pdcchSlot
      if cfg.retxTimerUl ≠ 0 then c.extend (puschSlot.add cfg.retxTimerUl) else c

def onDlHarqNack (uciSlot : SlotPoint) : UeDrxController :=
  match c.drxCfg with
  | none => c
  | some cfg => if cfg.retxTimerDl ≠ 0 then c.extend (uciSlot.add cfg.retxTimerDl) else c

def onConResStart : UeDrxController :=
  if c.drxCfg = none then c
  else
    match c.ulCcchSlotRx with
    | none => c
    | some slotRx => c.extend (slotRx.add (c.conresTimer * c.nofSlotsPerSf))

end UeDrxController

/-- A call at the controller, or a change of the pending SRs. Slots are readings of the clock. -/
inductive DrxEvent where
  | slotIndication
  | reconfigure (cfg : Option DrxConfig)
  | onNewDlPdcchAlloc (pdcchSlot : Nat)
  | onNewUlPdcchAlloc (pdcchSlot puschSlot : Nat)
  | onDlHarqNack (uciSlot : Nat)
  | onConResStart
  | setPendingSr (pending : Bool)
deriving DecidableEq

/-- The controller with the slot of the last indication and the ends of the timers that were started so far. -/
structure DrxRun where
  ctrl : UeDrxController
  now : Nat
  ulCcchSlotRx : Option Nat
  hasPendingSr : Bool
  timerEnds : List Nat

namespace DrxRun

variable (r : DrxRun)

def slotAt (n : Nat) : SlotPoint := SlotPoint.add ⟨r.ctrl.scsCommon, 0⟩ n

/-- The ends of the timers that a call starts. -/
def startedTimers (e : DrxEvent) : List Nat :=
  match r.ctrl.drxCfg with
  | none => []
  | some cfg =>
    match e with
    | .onNewDlPdcchAlloc pdcchSlot =>
      if r.ctrl.isActiveTime r.hasPendingSr ∧ r.ctrl.inactivityDur ≠ 0 then [pdcchSlot + r.ctrl.inactivityDur] else []
    | .onNewUlPdcchAlloc pdcchSlot puschSlot =>
      if r.ctrl.isActiveTime r.hasPendingSr then
        (if r.ctrl.inactivityDur ≠ 0 then [pdcchSlot + r.ctrl.inactivityDur] else []) ++
          if cfg.retxTimerUl ≠ 0 then [puschSlot + cfg.retxTimerUl] else []
      else []
    | .onDlHarqNack uciSlot => if cfg.retxTimerDl ≠ 0 then [uciSlot + cfg.retxTimerDl] else []
    | .onConResStart =>
      (r.ulCcchSlotRx.map fun slotRx => slotRx + r.ctrl.conresTimer * r.ctrl.nofSlotsPerSf).toList
    | _ => []

def ctrlStep : DrxEvent → UeDrxController
  | .slotIndication => r.ctrl.slotIndication (r.slotAt (r.now + 1))
  | .reconfigure cfg => r.ctrl.reconfigure cfg
  | .onNewDlPdcchAlloc pdcchSlot => r.ctrl.onNewDlPdcchAlloc r.hasPendingSr (r.slotAt pdcchSlot)
  | .onNewUlPdcchAlloc pdcchSlot puschSlot =>
    r.ctrl.onNewUlPdcchAlloc r.hasPendingSr (r.slotAt pdcchSlot) (r.slotAt puschSlot)
  | .onDlHarqNack uciSlot => r.ctrl.onDlHarqNack (r.slotAt uciSlot)
  | .onConResStart => r.ctrl.onConResStart
  | .setPendingSr _ => r.ctrl

def step (e : DrxEvent) : DrxRun where
  ctrl := r.ctrlStep e
  now := if e = .slotIndication then r.now + 1 else r.now
  ulCcchSlotRx := r.ulCcchSlotRx
  hasPendingSr :=
    match e with
    | .setPendingSr pending => pending
    | _ => r.hasPendingSr
  timerEnds := r.startedTimers e ++ r.timerEnds

def create (scsCommon conresTimer : Nat) (drxCfg : Option DrxConfig) (ulCcchSlotRx : Option Nat) (now : Nat) :
    DrxRun where
  ctrl := .create scsCommon conresTimer drxCfg (ulCcchSlotRx.map (SlotPoint.add ⟨scsCommon, 0⟩))
  now := now
  ulCcchSlotRx := ulCcchSlotRx
  hasPendingSr := false
  timerEnds := []

end DrxRun

end OwlsRan.Sched
