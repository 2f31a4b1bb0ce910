import Mathlib.Tactic.SplitIfs
import OwlsRan.Adt.CircularMap

/-!
# `rlc_sdu_queue_lockfree`

A queue of SDUs, with a slot for each PDCP SN modulo the capacity. A discarded SDU stays in the queue until it is popped.
-/

namespace OwlsRan.Rlc
open OwlsRan.Adt

structure RlcSdu where
  buf : List UInt8
  isRetx : Bool
  pdcpSn : Option Nat
deriving DecidableEq

inductive SduState where
  | free
  | discarded
  | holds (pdcpSn : Nat)
deriving DecidableEq

structure SduSlot where
  sduState : SduState
  sduSize : Nat
deriving DecidableEq

structure RlcSduQueue where
  byteLimit : Nat
  queue : List RlcSdu
  slots : CircularVector SduSlot
  nSdus : Nat
  nBytes : Nat

namespace RlcSduQueue

def new (capacity : Nat) (hcapacity : 0 < capacity) (byteLimit : Nat) : RlcSduQueue where
  byteLimit := byteLimit
  queue := []
  slots := .ofFn capacity hcapacity fun _ => ⟨.free, 0⟩
  nSdus := 0
  nBytes := 0

variable (q : RlcSduQueue)

def capacity : Nat := q.slots.size

def isEmpty : Bool := q.queue.isEmpty

def stateAdd (sduSize : Nat) : RlcSduQueue := { q with nSdus := q.nSdus + 1, nBytes := q.nBytes + sduSize }

def stateSub (sduSize : Nat) : RlcSduQueue := { q with nSdus := q.nSdus - 1, nBytes := q.nBytes - sduSize }

def setState (pdcpSn : Nat) (state : SduState) : RlcSduQueue :=
  { q with slots := q.slots.modify pdcpSn fun slot => { slot with sduState := state } }

def slotAvailable (sdu : RlcSdu) : Bool :=
  match sdu.pdcpSn with
  | some pdcpSn => (q.slots.get pdcpSn).sduState = .free
  | none => true

def allocateSlot (sdu : RlcSdu) : RlcSduQueue :=
  match sdu.pdcpSn with
  | some pdcpSn => { q with slots := q.slots.modify pdcpSn fun _ => ⟨.holds pdcpSn, sdu.buf.length⟩ }
  | none => q

def releaseSlot (sdu : RlcSdu) : RlcSduQueue :=
  match sdu.pdcpSn with
  | some pdcpSn => q.setState pdcpSn .free
  | none => q

def write (sdu : RlcSdu) : Bool × RlcSduQueue :=
  if sdu.buf.length + q.nBytes ≥ q.byteLimit then (false, q)
  else if !q.slotAvailable sdu then (false, q)
  else
    let q := q.allocateSlot sdu
    if q.queue.length ≥ q.capacity then (false, q.releaseSlot sdu)
    else (true, { q with queue := q.queue ++ [sdu] }.stateAdd sdu.buf.length)

def tryDiscard (pdcpSn : Nat) : Bool × RlcSduQueue :=
  if (q.slots.get pdcpSn).sduState = .holds pdcpSn then
    (true, (q.setState pdcpSn .discarded).stateSub (q.slots.get pdcpSn).sduSize)
  else (false, q)

def check (pdcpSn : Nat) : Bool := (q.slots.get pdcpSn).sduState = .holds pdcpSn

def checkAndRelease (pdcpSn : Nat) : Bool × RlcSduQueue :=
  let slot := q.slots.get pdcpSn
  let q := q.setState pdcpSn .free
  if slot.sduState = .discarded then (false, q)
  else (slot.sduState = .holds pdcpSn, q.stateSub slot.sduSize)

/-- What happens to an SDU that is popped: its slot is released, and it is returned unless it was discarded. -/
def release (sdu : RlcSdu) : Bool × RlcSduQueue :=
  match sdu.pdcpSn with
  | some pdcpSn => q.checkAndRelease pdcpSn
  | none => (true, q.stateSub sdu.buf.length)

/-- The loop of `read` over the SDUs in the queue. -/
def readFrom : List RlcSdu → RlcSduQueue → Option RlcSdu × RlcSduQueue
  | [], q => (none, { q with queue := [] })
  | sdu :: rest, q =>
    match q.release sdu with
    | (true, q) => (some sdu, { q with queue := rest })
    | (false, q) => readFrom rest q

def read : Option RlcSdu × RlcSduQueue := readFrom q.queue q

/-- The loop of `front`: SDUs that were discarded are popped. -/
def frontFrom : List RlcSdu → RlcSduQueue → Option RlcSdu × RlcSduQueue
  | [], q => (none, { q with queue := [] })
  | sdu :: rest, q =>
    match sdu.pdcpSn with
    | none => (some sdu, { q with queue := sdu :: rest })
    | some pdcpSn =>
      if q.check pdcpSn then (some sdu, { q with queue := sdu :: rest })
      else
        match q.checkAndRelease pdcpSn with
        | (true, q) => (none, { q with queue := rest })
        | (false, q) => frontFrom rest q

def front : Option RlcSdu × RlcSduQueue := frontFrom q.queue q

section Contents

variable {q : RlcSduQueue} {l : List RlcSdu}

lemma readFrom_mem : (∀ sdu, (readFrom l q).1 = some sdu → sdu ∈ l) ∧ ∀ sdu ∈ (readFrom l q).2.queue, sdu ∈ l := by
  induction l generalizing q with
  | nil => exact ⟨fun _ h => (nomatch h), fun _ h => h⟩
  | cons sdu rest ih =>
    unfold readFrom
    rcases q.release sdu with ⟨valid, q'⟩
    cases valid with
    | true => exact ⟨fun _ h => Option.some.inj h ▸ List.mem_cons_self, fun _ h => List.mem_cons_of_mem sdu h⟩
    | false =>
      obtain ⟨hread, hleft⟩ := ih (q := q')
      exact ⟨fun x h => List.mem_cons_of_mem sdu (hread x h), fun x h => List.mem_cons_of_mem sdu (hleft x h)⟩

lemma read_mem : (∀ sdu, q.read.1 = some sdu → sdu ∈ q.queue) ∧ ∀ sdu ∈ q.read.2.queue, sdu ∈ q.queue := readFrom_mem

lemma frontFrom_mem : ∀ sdu ∈ (frontFrom l q).2.queue, sdu ∈ l := by
  induction l generalizing q with
  | nil => exact fun _ h => h
  | cons sdu rest ih =>
    unfold frontFrom
    cases sdu.pdcpSn with
    | none => exact fun _ h => h
    | some pdcpSn =>
      dsimp only
      split
      · exact fun _ h => h
      · rcases q.checkAndRelease pdcpSn with ⟨valid, q'⟩
        cases valid with
        | true => exact fun _ h => List.mem_cons_of_mem sdu h
        | false => exact fun x h => List.mem_cons_of_mem sdu (ih x h)

lemma front_mem : ∀ sdu ∈ q.front.2.queue, sdu ∈ q.queue := frontFrom_mem

lemma tryDiscard_queue {pdcpSn : Nat} : (q.tryDiscard pdcpSn).2.queue = q.queue := by
  unfold tryDiscard
  split <;> rfl

lemma write_mem {sdu : RlcSdu} : ∀ x ∈ (q.write sdu).2.queue, x ∈ q.queue ∨ x = sdu := by
  have hallocate : (q.allocateSlot sdu).queue = q.queue := by
    unfold allocateSlot
    split <;> rfl
  have hrelease : ((q.allocateSlot sdu).releaseSlot sdu).queue = q.queue := by
    unfold releaseSlot
    split
    · exact hallocate
    · exact hallocate
  intro x hx
  unfold write at hx
  dsimp only at hx
  split_ifs at hx
  · exact .inl hx
  · exact .inl hx
  · exact .inl (hrelease ▸ hx)
  · change x ∈ (q.allocateSlot sdu).queue ++ [sdu] at hx
    rw [hallocate, List.mem_append, List.mem_singleton] at hx
    exact hx

end Contents

end RlcSduQueue

end OwlsRan.Rlc
