import Mathlib.Algebra.GroupWithZero.Nat
import Mathlib.Data.List.Basic
import Mathlib.Data.List.Pairwise
import Mathlib.Data.List.TakeWhile
import Mathlib.Tactic.Lemma
import OwlsRan.Rlc.RlcSduQueue

/-!
# The contents of the SDU queue

Sequences of `write`, `try_discard`, `read` and `front`.
-/

namespace OwlsRan.Rlc
open OwlsRan.Adt

inductive SduFate where
  | queued
  | discarded
  | read
deriving DecidableEq

structure LedgerEntry where
  sdu : RlcSdu
  fate : SduFate
deriving DecidableEq

inductive SduQueueCall where
  | write (sdu : RlcSdu)
  | tryDiscard (pdcpSn : Nat)
  | read
  | front

inductive SduQueueAnswer where
  | written (done : Bool)
  | discarded (done : Bool)
  | read (sdu : Option RlcSdu)
  | front (sdu : Option RlcSdu)
deriving DecidableEq

namespace LedgerEntry

def isQueued (e : LedgerEntry) : Bool := e.fate = .queued

def slot (e : LedgerEntry) (pdcpSn : Nat) : SduSlot :=
  ⟨if e.isQueued then .holds pdcpSn else .discarded, e.sdu.buf.length⟩

def mark (pdcpSn : Nat) (e : LedgerEntry) : LedgerEntry :=
  if e.sdu.pdcpSn = some pdcpSn then { e with fate := .discarded } else e

def Avoids (capacity pdcpSn : Nat) (e : LedgerEntry) : Prop := ∀ p ∈ e.sdu.pdcpSn, p % capacity ≠ pdcpSn % capacity

instance (capacity pdcpSn : Nat) (e : LedgerEntry) : Decidable (e.Avoids capacity pdcpSn) :=
  match h : e.sdu.pdcpSn with
  | none => isTrue fun _ hp => nomatch h.symm.trans hp
  | some p =>
    decidable_of_iff (p % capacity ≠ pdcpSn % capacity)
      ⟨fun hne _ hp => Option.some.inj (h.symm.trans hp) ▸ hne, fun havoids => havoids _ h⟩

end LedgerEntry

def queuedBytes (l : List LedgerEntry) : Nat := ((l.filter LedgerEntry.isQueued).map fun e => e.sdu.buf.length).sum

/-- What `write` asks of the queue. -/
def Accepts (capacity byteLimit : Nat) (left : List LedgerEntry) (sdu : RlcSdu) : Prop :=
  sdu.buf.length + queuedBytes left < byteLimit ∧ (∀ p ∈ sdu.pdcpSn, ∀ e ∈ left, e.Avoids capacity p) ∧
    left.length < capacity

instance (capacity byteLimit : Nat) (left : List LedgerEntry) (sdu : RlcSdu) :
    Decidable (Accepts capacity byteLimit left sdu) := by
  unfold Accepts
  infer_instance

/-- The answer to a call, and what is in the queue after it. -/
def backlogCall (capacity byteLimit : Nat) (left : List LedgerEntry) :
    SduQueueCall → SduQueueAnswer × List LedgerEntry
  | .write sdu =>
    if Accepts capacity byteLimit left sdu then (.written true, left ++ [⟨sdu, .queued⟩]) else (.written false, left)
  | .tryDiscard pdcpSn =>
    if ∃ e ∈ left, e.isQueued ∧ e.sdu.pdcpSn = some pdcpSn then (.discarded true, left.map (LedgerEntry.mark pdcpSn))
    else (.discarded false, left)
  | .read =>
    let valid := left.dropWhile fun e => !e.isQueued
    (.read (valid.head?.map LedgerEntry.sdu), valid.tail)
  | .front =>
    let valid := left.dropWhile fun e => !e.isQueued
    (.front (valid.head?.map LedgerEntry.sdu), valid)

namespace RlcSduQueue

def call (q : RlcSduQueue) : SduQueueCall → SduQueueAnswer × RlcSduQueue
  | .write sdu => ((.written (q.write sdu).1), (q.write sdu).2)
  | .tryDiscard pdcpSn => ((.discarded (q.tryDiscard pdcpSn).1), (q.tryDiscard pdcpSn).2)
  | .read => ((.read q.read.1), q.read.2)
  | .front => ((.front q.front.1), q.front.2)

def answers : RlcSduQueue → List SduQueueCall → List SduQueueAnswer
  | _, [] => []
  | q, c :: cs => (q.call c).1 :: answers (q.call c).2 cs

structure SlotsFor (slots : CircularVector SduSlot) (left : List LedgerEntry) : Prop where
  holds : ∀ e ∈ left, ∀ p ∈ e.sdu.pdcpSn, slots.get p = e.slot p
  apart : left.Pairwise fun e e' => ∀ p ∈ e'.sdu.pdcpSn, e.Avoids slots.size p
  free : ∀ i, (∀ e ∈ left, e.Avoids slots.size i) → (slots.get i).sduState = .free

structure Keeps (q : RlcSduQueue) (left : List LedgerEntry) : Prop where
  slots : SlotsFor q.slots left
  unread : ∀ e ∈ left, e.fate ≠ .read
  kept : ∀ e ∈ left, e.sdu.pdcpSn = none → e.isQueued = true
  nSdus : q.nSdus = left.countP LedgerEntry.isQueued
  nBytes : q.nBytes = queuedBytes left
  room : left.length ≤ q.capacity
  below : q.nBytes = 0 ∨ q.nBytes < q.byteLimit

structure Holds (cap limit : Nat) (q : RlcSduQueue) (left : List LedgerEntry) : Prop where
  queue : q.queue = left.map LedgerEntry.sdu
  keeps : Keeps q left
  capacity : q.capacity = cap
  byteLimit : q.byteLimit = limit

section Backlog

variable {l l' : List LedgerEntry} {e : LedgerEntry} {pdcpSn : Nat}

lemma queuedBytes_cons : queuedBytes (e :: l) = (if e.isQueued then e.sdu.buf.length else 0) + queuedBytes l := by
  unfold queuedBytes
  rw [List.filter_cons]
  split
  · rw [List.map_cons, List.sum_cons]
  · rw [Nat.zero_add]

lemma queuedBytes_append : queuedBytes (l ++ l') = queuedBytes l + queuedBytes l' := by
  unfold queuedBytes
  rw [List.filter_append, List.map_append, List.sum_append]

lemma map_mark_eq {before after : List LedgerEntry} (hsn : e.sdu.pdcpSn = some pdcpSn)
    (hothers : ∀ e' ∈ before ++ after, e'.sdu.pdcpSn ≠ some pdcpSn) :
    (before ++ e :: after).map (LedgerEntry.mark pdcpSn) = before ++ ⟨e.sdu, .discarded⟩ :: after := by
  have hsame : ∀ l : List LedgerEntry, (∀ e' ∈ l, e'.sdu.pdcpSn ≠ some pdcpSn) →
      l.map (LedgerEntry.mark pdcpSn) = l := by
    intro l hl
    calc
      l.map (LedgerEntry.mark pdcpSn) = l.map id := List.map_congr_left fun e' he' => if_neg (hl e' he')
      _ = l := List.map_id l
  rw [List.map_append, List.map_cons, hsame before fun e' he' => hothers e' (List.mem_append_left _ he'),
    hsame after fun e' he' => hothers e' (List.mem_append_right _ he')]
  unfold LedgerEntry.mark
  rw [if_pos hsn]

lemma exists_valid (l : List LedgerEntry) : ∃ popped valid, l = popped ++ valid ∧
    l.dropWhile (fun e => !e.isQueued) = valid ∧ (∀ e ∈ popped, e.isQueued = false) ∧
      ∀ e ∈ valid.head?, e.isQueued = true := by
  refine ⟨l.takeWhile fun e => !e.isQueued, _, List.takeWhile_append_dropWhile.symm, rfl, fun e he => ?_,
    fun e he => ?_⟩
  · simpa using List.mem_takeWhile_imp he
  · have hhead := List.head?_dropWhile_not (fun e : LedgerEntry => !e.isQueued) l
    rw [Option.mem_def.mp he] at hhead
    simpa using hhead

end Backlog

section Slots

variable {slots : CircularVector SduSlot} {left : List LedgerEntry} {e : LedgerEntry} {pdcpSn : Nat}

lemma get_modify_of_avoids (f : SduSlot → SduSlot) {p : Nat} (h : e.Avoids slots.size pdcpSn) (hp : p ∈ e.sdu.pdcpSn) :
    (slots.modify pdcpSn f).get p = slots.get p := by
  rw [CircularVector.get_modify, if_neg (h p hp)]

lemma SlotsFor.free_iff (h : SlotsFor slots left) :
    (slots.get pdcpSn).sduState = .free ↔ ∀ e ∈ left, e.Avoids slots.size pdcpSn := by
  constructor
  · intro hfree e he p hp heq
    rw [← CircularVector.get_congr heq, h.holds e he p hp] at hfree
    unfold LedgerEntry.slot at hfree
    dsimp only at hfree
    split at hfree <;> cases hfree
  · exact h.free pdcpSn

lemma SlotsFor.holds_iff (h : SlotsFor slots left) :
    (slots.get pdcpSn).sduState = .holds pdcpSn ↔ ∃ e ∈ left, e.isQueued ∧ e.sdu.pdcpSn = some pdcpSn := by
  constructor
  · intro hholds
    have hnotFree : (slots.get pdcpSn).sduState ≠ .free := by
      rw [hholds]
      exact SduState.noConfusion
    rw [Ne, h.free_iff] at hnotFree
    unfold LedgerEntry.Avoids at hnotFree
    push Not at hnotFree
    obtain ⟨e, he, p, hp, heq⟩ := hnotFree
    rw [← CircularVector.get_congr heq, h.holds e he p hp] at hholds
    unfold LedgerEntry.slot at hholds
    dsimp only at hholds
    split at hholds
    case isTrue hqueued => exact ⟨e, he, hqueued, SduState.holds.inj hholds ▸ hp⟩
    case isFalse => cases hholds
  · rintro ⟨e, he, hqueued, hsn⟩
    rw [h.holds e he pdcpSn hsn]
    unfold LedgerEntry.slot
    rw [if_pos hqueued]

lemma SlotsFor.tail_none (h : SlotsFor slots (e :: left)) (hsn : e.sdu.pdcpSn = none) : SlotsFor slots left := by
  refine ⟨fun e' he' => h.holds e' (List.mem_cons_of_mem e he'), (List.pairwise_cons.mp h.apart).2, fun i hi => ?_⟩
  apply h.free
  intro e' he'
  rcases List.mem_cons.mp he' with rfl | he'
  · intro p hp
    rw [hsn] at hp
    cases hp
  · exact hi e' he'

lemma SlotsFor.tail_some (h : SlotsFor slots (e :: left)) (hsn : e.sdu.pdcpSn = some pdcpSn) :
    SlotsFor (slots.modify pdcpSn fun slot => { slot with sduState := .free }) left := by
  obtain ⟨hfirst, hrest⟩ := List.pairwise_cons.mp h.apart
  have havoids : ∀ e' ∈ left, e'.Avoids slots.size pdcpSn := fun e' he' p hp =>
    (hfirst e' he' p hp pdcpSn hsn).symm
  refine ⟨fun e' he' p hp => ?_, ?_, fun i hi => ?_⟩
  · rw [get_modify_of_avoids _ (havoids e' he') hp]
    exact h.holds e' (List.mem_cons_of_mem e he') p hp
  · rw [CircularVector.size_modify]
    exact hrest
  · rw [CircularVector.size_modify] at hi
    rw [CircularVector.get_modify]
    split
    case isTrue => rfl
    case isFalse hne =>
      apply h.free
      intro e' he'
      rcases List.mem_cons.mp he' with rfl | he'
      · intro p hp
        rw [Option.mem_def, hsn] at hp
        exact Option.some.inj hp ▸ Ne.symm hne
      · exact hi e' he'

lemma SlotsFor.restore (h : SlotsFor slots left) (hfree : ∀ e ∈ left, e.Avoids slots.size pdcpSn)
    (slot : SduSlot) :
    SlotsFor ((slots.modify pdcpSn fun _ => slot).modify pdcpSn fun slot => { slot with sduState := .free }) left := by
  refine ⟨fun e he p hp => ?_, ?_, fun i hi => ?_⟩
  · rw [get_modify_of_avoids (e := e) _ (by rw [CircularVector.size_modify]; exact hfree e he) hp,
      get_modify_of_avoids _ (hfree e he) hp]
    exact h.holds e he p hp
  · rw [CircularVector.size_modify, CircularVector.size_modify]
    exact h.apart
  · rw [CircularVector.size_modify, CircularVector.size_modify] at hi
    rw [CircularVector.get_modify, CircularVector.size_modify]
    split
    case isTrue => rfl
    case isFalse hne =>
      rw [CircularVector.get_modify, if_neg hne]
      exact h.free i hi

lemma SlotsFor.concat (h : SlotsFor slots left) {sdu : RlcSdu} (hsn : sdu.pdcpSn = some pdcpSn)
    (hfree : ∀ e ∈ left, e.Avoids slots.size pdcpSn) :
    SlotsFor (slots.modify pdcpSn fun _ => ⟨.holds pdcpSn, sdu.buf.length⟩) (left ++ [⟨sdu, .queued⟩]) := by
  refine ⟨fun e he p hp => ?_, ?_, fun i hi => ?_⟩
  · rcases List.mem_append.mp he with he | he
    · rw [get_modify_of_avoids _ (hfree e he) hp]
      exact h.holds e he p hp
    · cases List.mem_singleton.mp he
      cases hsn.symm.trans hp
      rw [CircularVector.get_modify, if_pos rfl]
      rfl
  · rw [CircularVector.size_modify, List.pairwise_append]
    refine ⟨h.apart, List.pairwise_singleton _ _, fun e he e' he' p hp => ?_⟩
    cases List.mem_singleton.mp he'
    cases hsn.symm.trans hp
    exact hfree e he
  · rw [CircularVector.size_modify] at hi
    rw [CircularVector.get_modify, if_neg]
    · exact h.free i fun e he => hi e (List.mem_append_left _ he)
    · exact (hi ⟨sdu, .queued⟩ (List.mem_append_right left (List.mem_singleton_self _)) pdcpSn hsn).symm

lemma SlotsFor.concat_none (h : SlotsFor slots left) {sdu : RlcSdu} (hsn : sdu.pdcpSn = none) :
    SlotsFor slots (left ++ [⟨sdu, .queued⟩]) := by
  have hnone : ∀ e ∈ [(⟨sdu, .queued⟩ : LedgerEntry)], ∀ p, p ∉ e.sdu.pdcpSn := by
    intro e he p hp
    cases List.mem_singleton.mp he
    cases hsn.symm.trans hp
  refine ⟨fun e he p hp => ?_, ?_, fun i hi => ?_⟩
  · rcases List.mem_append.mp he with he | he
    · exact h.holds e he p hp
    · exact absurd hp (hnone e he p)
  · rw [List.pairwise_append]
    exact ⟨h.apart, List.pairwise_singleton _ _, fun _ _ e' he' p hp => absurd hp (hnone e' he' p)⟩
  · exact h.free i fun e he => hi e (List.mem_append_left _ he)

variable {before after : List LedgerEntry}

lemma SlotsFor.others (h : SlotsFor slots (before ++ e :: after))
    (hsn : e.sdu.pdcpSn = some pdcpSn) : ∀ e' ∈ before ++ after, e'.Avoids slots.size pdcpSn := by
  have hapart := h.apart
  rw [List.pairwise_append, List.pairwise_cons] at hapart
  obtain ⟨-, ⟨hafter, -⟩, hbefore⟩ := hapart
  intro e' he'
  rcases List.mem_append.mp he' with he' | he'
  · exact hbefore e' he' e List.mem_cons_self pdcpSn hsn
  · exact fun p hp => (hafter e' he' p hp pdcpSn hsn).symm

lemma SlotsFor.mark_eq (h : SlotsFor slots (before ++ e :: after)) (hsn : e.sdu.pdcpSn = some pdcpSn) :
    (before ++ e :: after).map (LedgerEntry.mark pdcpSn) = before ++ ⟨e.sdu, .discarded⟩ :: after :=
  map_mark_eq hsn fun e' he' hsn' => h.others hsn e' he' pdcpSn hsn' rfl

lemma SlotsFor.discard {sdu : RlcSdu}
    (h : SlotsFor slots (before ++ ⟨sdu, .queued⟩ :: after)) (hsn : sdu.pdcpSn = some pdcpSn) :
    SlotsFor (slots.modify pdcpSn fun slot => { slot with sduState := .discarded })
      (before ++ ⟨sdu, .discarded⟩ :: after) := by
  have hothers := h.others hsn
  have hmem : ∀ e : LedgerEntry, e ∈ before ++ after → e ∈ before ++ ⟨sdu, .queued⟩ :: after := by
    intro e he
    rw [List.mem_append, List.mem_cons]
    rcases List.mem_append.mp he with he | he
    · exact Or.inl he
    · exact Or.inr (Or.inr he)
  have hsplit : ∀ e : LedgerEntry, e ∈ before ++ ⟨sdu, .discarded⟩ :: after →
      e = ⟨sdu, .discarded⟩ ∨ e ∈ before ++ after := by
    intro e he
    rw [List.mem_append, List.mem_cons] at he
    rw [List.mem_append]
    tauto
  refine ⟨fun e he p hp => ?_, ?_, fun i hi => ?_⟩
  · rcases hsplit e he with rfl | he
    · cases hsn.symm.trans hp
      rw [CircularVector.get_modify, if_pos rfl, h.holds ⟨sdu, .queued⟩ (by simp) pdcpSn hsn]
      rfl
    · rw [get_modify_of_avoids _ (hothers e he) hp]
      exact h.holds e (hmem e he) p hp
  · have hapart := h.apart
    rw [CircularVector.size_modify]
    rw [List.pairwise_append, List.pairwise_cons] at hapart ⊢
    obtain ⟨hbefore, hafter, hacross⟩ := hapart
    refine ⟨hbefore, hafter, fun e he e' he' => ?_⟩
    rcases List.mem_cons.mp he' with rfl | he'
    · exact hacross e he ⟨sdu, .queued⟩ List.mem_cons_self
    · exact hacross e he e' (List.mem_cons_of_mem _ he')
  · rw [CircularVector.size_modify] at hi
    have hself := hi ⟨sdu, .discarded⟩ (by simp) pdcpSn hsn
    rw [CircularVector.get_modify, if_neg hself.symm]
    apply h.free
    intro e he
    rw [List.mem_append, List.mem_cons] at he
    rcases he with he | rfl | he
    · exact hi e (List.mem_append_left _ he)
    · exact hi ⟨sdu, .discarded⟩ (by simp)
    · exact hi e (List.mem_append_right _ (List.mem_cons_of_mem _ he))

end Slots

section Calls

variable {q : RlcSduQueue} {left : List LedgerEntry} {e : LedgerEntry} {pdcpSn cap limit : Nat}

lemma Keeps.withQueue (h : Keeps q left) (queue : List RlcSdu) : Keeps { q with queue := queue } left :=
  ⟨h.slots, h.unread, h.kept, h.nSdus, h.nBytes, h.room, h.below⟩

lemma holds_new (capacity : Nat) (hcapacity : 0 < capacity) (byteLimit : Nat) :
    Holds capacity byteLimit (new capacity hcapacity byteLimit) [] := by
  have hslots : SlotsFor (new capacity hcapacity byteLimit).slots [] := by
    refine ⟨fun _ he => (nomatch he), List.Pairwise.nil, fun i _ => ?_⟩
    unfold new
    rw [CircularVector.get_ofFn]
  have hkeeps : Keeps (new capacity hcapacity byteLimit) [] :=
    ⟨hslots, fun _ he => (nomatch he), fun _ he => (nomatch he), rfl, rfl, Nat.zero_le _, Or.inl rfl⟩
  exact ⟨rfl, hkeeps, CircularVector.size_ofFn _ hcapacity _, rfl⟩

lemma Keeps.popped {q' : RlcSduQueue} (h : Keeps q (e :: left)) (hslots : SlotsFor q'.slots left)
    (hcapacity : q'.capacity = q.capacity) (hlimit : q'.byteLimit = q.byteLimit)
    (hsdus : q'.nSdus = q.nSdus - if e.isQueued then 1 else 0)
    (hbytes : q'.nBytes = q.nBytes - if e.isQueued then e.sdu.buf.length else 0) : Keeps q' left := by
  have hcount := h.nSdus
  have hsum := h.nBytes
  have hroom := h.room
  have hbelow := h.below
  rw [List.countP_cons] at hcount
  rw [queuedBytes_cons] at hsum
  rw [List.length_cons] at hroom
  refine ⟨hslots, fun e' he' => h.unread e' (List.mem_cons_of_mem e he'),
    fun e' he' => h.kept e' (List.mem_cons_of_mem e he'), ?_, ?_, ?_, ?_⟩
  · omega
  · omega
  · omega
  · omega

lemma checkAndRelease_of_slot (hslot : q.slots.get pdcpSn = e.slot pdcpSn) :
    q.checkAndRelease pdcpSn = (e.isQueued,
      if e.isQueued then (q.setState pdcpSn .free).stateSub e.sdu.buf.length else q.setState pdcpSn .free) := by
  unfold checkAndRelease
  rw [hslot]
  unfold LedgerEntry.slot
  cases e.isQueued <;> simp

lemma Keeps.release (h : Keeps q (e :: left)) :
    (q.release e.sdu).1 = e.isQueued ∧ Keeps (q.release e.sdu).2 left ∧
      (q.release e.sdu).2.capacity = q.capacity ∧ (q.release e.sdu).2.byteLimit = q.byteLimit := by
  unfold RlcSduQueue.release
  cases hsn : e.sdu.pdcpSn with
  | none =>
    have hqueued := h.kept e List.mem_cons_self hsn
    refine ⟨hqueued.symm, h.popped (h.slots.tail_none hsn) rfl rfl ?_ ?_, rfl, rfl⟩
    · rw [if_pos hqueued]
      rfl
    · rw [if_pos hqueued]
      rfl
  | some p =>
    have hslots := h.slots.tail_some hsn
    have hcapacity : (q.setState p .free).capacity = q.capacity := CircularVector.size_modify
    dsimp only
    rw [checkAndRelease_of_slot (h.slots.holds e List.mem_cons_self p hsn)]
    cases hqueued : e.isQueued with
    | true =>
      refine ⟨rfl, h.popped hslots hcapacity rfl ?_ ?_, hcapacity, rfl⟩
      · rw [hqueued]
        rfl
      · rw [hqueued]
        rfl
    | false =>
      refine ⟨rfl, h.popped hslots hcapacity rfl ?_ ?_, hcapacity, rfl⟩
      · rw [hqueued]
        rfl
      · rw [hqueued]
        rfl

lemma Keeps.readFrom (h : Keeps q left) :
    (RlcSduQueue.readFrom (left.map LedgerEntry.sdu) q).1 =
        (left.dropWhile fun e => !e.isQueued).head?.map LedgerEntry.sdu ∧
      (RlcSduQueue.readFrom (left.map LedgerEntry.sdu) q).2.queue =
        (left.dropWhile fun e => !e.isQueued).tail.map LedgerEntry.sdu ∧
      Keeps (RlcSduQueue.readFrom (left.map LedgerEntry.sdu) q).2 (left.dropWhile fun e => !e.isQueued).tail ∧
      (RlcSduQueue.readFrom (left.map LedgerEntry.sdu) q).2.capacity = q.capacity ∧
      (RlcSduQueue.readFrom (left.map LedgerEntry.sdu) q).2.byteLimit = q.byteLimit := by
  induction left generalizing q with
  | nil => exact ⟨rfl, rfl, h.withQueue [], rfl, rfl⟩
  | cons e left ih =>
    obtain ⟨hvalid, hkeeps, hcapacity, hlimit⟩ := h.release
    rw [List.map_cons]
    unfold RlcSduQueue.readFrom
    rcases hrelease : q.release e.sdu with ⟨valid, q'⟩
    rw [hrelease] at hvalid hkeeps hcapacity hlimit
    dsimp only at hvalid hkeeps hcapacity hlimit
    cases hqueued : e.isQueued with
    | true =>
      rw [hqueued] at hvalid
      rw [hvalid, List.dropWhile_cons_of_neg (by simp [hqueued])]
      exact ⟨rfl, rfl, hkeeps.withQueue _, hcapacity, hlimit⟩
    | false =>
      rw [hqueued] at hvalid
      rw [hvalid, List.dropWhile_cons_of_pos (by simp [hqueued]), ← hcapacity, ← hlimit]
      exact ih hkeeps

lemma Keeps.frontFrom (h : Keeps q left) :
    (RlcSduQueue.frontFrom (left.map LedgerEntry.sdu) q).1 =
        (left.dropWhile fun e => !e.isQueued).head?.map LedgerEntry.sdu ∧
      (RlcSduQueue.frontFrom (left.map LedgerEntry.sdu) q).2.queue =
        (left.dropWhile fun e => !e.isQueued).map LedgerEntry.sdu ∧
      Keeps (RlcSduQueue.frontFrom (left.map LedgerEntry.sdu) q).2 (left.dropWhile fun e => !e.isQueued) ∧
      (RlcSduQueue.frontFrom (left.map LedgerEntry.sdu) q).2.capacity = q.capacity ∧
      (RlcSduQueue.frontFrom (left.map LedgerEntry.sdu) q).2.byteLimit = q.byteLimit := by
  induction left generalizing q with
  | nil => exact ⟨rfl, rfl, h.withQueue [], rfl, rfl⟩
  | cons e left ih =>
    obtain ⟨hvalid, hkeeps, hcapacity, hlimit⟩ := h.release
    have hstay : ∀ _ : e.isQueued = true, (e :: left).dropWhile (fun e => !e.isQueued) = e :: left := by
      intro hqueued
      rw [List.dropWhile_cons_of_neg (by simp [hqueued])]
    rw [List.map_cons]
    unfold RlcSduQueue.frontFrom
    unfold RlcSduQueue.release at hvalid hkeeps hcapacity hlimit
    cases hsn : e.sdu.pdcpSn with
    | none =>
      rw [hstay (h.kept e List.mem_cons_self hsn)]
      exact ⟨rfl, rfl, h.withQueue _, rfl, rfl⟩
    | some p =>
      rw [hsn] at hvalid hkeeps hcapacity hlimit
      have hcheck : q.check p = e.isQueued := by
        unfold check
        rw [h.slots.holds e List.mem_cons_self p hsn]
        unfold LedgerEntry.slot
        cases e.isQueued <;> simp
      dsimp only at hvalid hkeeps hcapacity hlimit ⊢
      rw [hcheck]
      cases hqueued : e.isQueued with
      | true =>
        rw [hstay hqueued]
        exact ⟨rfl, rfl, h.withQueue _, rfl, rfl⟩
      | false =>
        rcases hrelease : q.checkAndRelease p with ⟨valid, q'⟩
        rw [hrelease] at hvalid hkeeps hcapacity hlimit
        rw [hqueued] at hvalid
        dsimp only at hvalid hkeeps hcapacity hlimit
        rw [hvalid, if_neg Bool.false_ne_true, List.dropWhile_cons_of_pos (by simp [hqueued]), ← hcapacity, ← hlimit]
        exact ih hkeeps

lemma allocateSlot_spec (sdu : RlcSdu) :
    (q.allocateSlot sdu).queue = q.queue ∧ (q.allocateSlot sdu).capacity = q.capacity ∧
      (q.allocateSlot sdu).byteLimit = q.byteLimit ∧ (q.allocateSlot sdu).nSdus = q.nSdus ∧
      (q.allocateSlot sdu).nBytes = q.nBytes := by
  unfold allocateSlot
  cases sdu.pdcpSn with
  | none => exact ⟨rfl, rfl, rfl, rfl, rfl⟩
  | some p => exact ⟨rfl, CircularVector.size_modify, rfl, rfl, rfl⟩

lemma Keeps.slotAvailable_iff (h : Keeps q left) (sdu : RlcSdu) :
    q.slotAvailable sdu = true ↔ ∀ p ∈ sdu.pdcpSn, ∀ e ∈ left, e.Avoids q.capacity p := by
  unfold slotAvailable
  cases hsn : sdu.pdcpSn with
  | none => simp
  | some p =>
    rw [decide_eq_true_iff, h.slots.free_iff]
    simp only [Option.mem_def, Option.some.injEq, forall_eq']
    rfl

lemma Keeps.giveBack (h : Keeps q left) {sdu : RlcSdu} (hfree : ∀ p ∈ sdu.pdcpSn, ∀ e ∈ left, e.Avoids q.capacity p) :
    Keeps ((q.allocateSlot sdu).releaseSlot sdu) left ∧ ((q.allocateSlot sdu).releaseSlot sdu).queue = q.queue ∧
      ((q.allocateSlot sdu).releaseSlot sdu).capacity = q.capacity ∧
      ((q.allocateSlot sdu).releaseSlot sdu).byteLimit = q.byteLimit := by
  unfold releaseSlot allocateSlot
  cases hsn : sdu.pdcpSn with
  | none => exact ⟨h, rfl, rfl, rfl⟩
  | some p =>
    have hslots := h.slots.restore (hfree p hsn) ⟨.holds p, sdu.buf.length⟩
    have hcapacity : (((q.slots.modify p fun _ => ⟨.holds p, sdu.buf.length⟩).modify p fun slot =>
        { slot with sduState := .free }).size) = q.capacity := by
      rw [CircularVector.size_modify, CircularVector.size_modify]
      rfl
    exact ⟨⟨hslots, h.unread, h.kept, h.nSdus, h.nBytes, Nat.le_trans h.room (Nat.le_of_eq hcapacity.symm), h.below⟩,
      rfl, hcapacity, rfl⟩

lemma Keeps.push (h : Keeps q left) {sdu : RlcSdu} (haccepts : Accepts q.capacity q.byteLimit left sdu)
    (queue : List RlcSdu) :
    Keeps ({ q.allocateSlot sdu with queue := queue }.stateAdd sdu.buf.length) (left ++ [⟨sdu, .queued⟩]) := by
  obtain ⟨hbytes, hfree, hroom⟩ := haccepts
  obtain ⟨-, hcapacity, hlimit, hsdus, hsum⟩ := allocateSlot_spec (q := q) sdu
  have hslots : SlotsFor (q.allocateSlot sdu).slots (left ++ [⟨sdu, .queued⟩]) := by
    unfold allocateSlot
    cases hsn : sdu.pdcpSn with
    | none => exact h.slots.concat_none hsn
    | some p => exact h.slots.concat hsn (hfree p hsn)
  have hnew : queuedBytes [(⟨sdu, .queued⟩ : LedgerEntry)] = sdu.buf.length := by
    unfold queuedBytes
    exact Nat.add_zero _
  have hlast : ∀ {P : LedgerEntry → Prop}, (∀ e ∈ left, P e) → P ⟨sdu, .queued⟩ →
      ∀ e ∈ left ++ [⟨sdu, .queued⟩], P e := by
    intro P hleft hsdu e he
    rcases List.mem_append.mp he with he | he
    · exact hleft e he
    · exact List.mem_singleton.mp he ▸ hsdu
  refine ⟨hslots, hlast h.unread (fun hread => nomatch hread), hlast h.kept fun _ => rfl, ?_, ?_, ?_, Or.inr ?_⟩
  · rw [List.countP_append, ← h.nSdus, ← hsdus]
    rfl
  · rw [queuedBytes_append, hnew, ← h.nBytes, ← hsum]
    rfl
  · rw [List.length_append]
    exact hcapacity.symm ▸ hroom
  · have hnow := h.nBytes
    unfold stateAdd
    dsimp only
    rw [hsum, hlimit]
    omega

lemma Holds.write (h : Holds cap limit q left) (sdu : RlcSdu) :
    (q.write sdu).1 = decide (Accepts cap limit left sdu) ∧
      Holds cap limit (q.write sdu).2 (backlogCall cap limit left (.write sdu)).2 := by
  obtain ⟨hqueue, hkeeps, rfl, rfl⟩ := h
  have havailable := hkeeps.slotAvailable_iff sdu
  have hbytes := hkeeps.nBytes
  obtain ⟨hsame, hcapacity, hlimit, -, -⟩ := allocateSlot_spec (q := q) sdu
  have hlength : (q.allocateSlot sdu).queue.length = left.length := by rw [hsame, hqueue, List.length_map]
  dsimp only [RlcSduQueue.write, backlogCall]
  by_cases haccepts : Accepts q.capacity q.byteLimit left sdu
  · obtain ⟨hroom, hfree, hlarge⟩ := haccepts
    rw [if_neg (by omega), if_neg (by rw [havailable.mpr hfree]; simp), if_neg (by omega),
      if_pos ⟨hroom, hfree, hlarge⟩]
    refine ⟨(decide_eq_true ⟨hroom, hfree, hlarge⟩).symm, ?_, hkeeps.push ⟨hroom, hfree, hlarge⟩ _, hcapacity, hlimit⟩
    rw [List.map_append, ← hqueue, ← hsame]
    rfl
  · rw [if_neg haccepts, decide_eq_false haccepts]
    by_cases hroom : sdu.buf.length + q.nBytes ≥ q.byteLimit
    · rw [if_pos hroom]
      exact ⟨rfl, hqueue, hkeeps, rfl, rfl⟩
    by_cases hfree : q.slotAvailable sdu = true
    · rw [if_neg hroom, if_neg (by rw [hfree]; simp)]
      rw [havailable] at hfree
      have hfull : (q.allocateSlot sdu).queue.length ≥ (q.allocateSlot sdu).capacity := by
        by_contra hnot
        exact haccepts ⟨by omega, hfree, by omega⟩
      rw [if_pos hfull]
      obtain ⟨hback, hbackQueue, hbackCapacity, hbackLimit⟩ := hkeeps.giveBack hfree
      exact ⟨rfl, hbackQueue.trans hqueue, hback, hbackCapacity, hbackLimit⟩
    · rw [if_neg hroom, if_pos (by rw [Bool.eq_false_iff.mpr hfree]; rfl)]
      exact ⟨rfl, hqueue, hkeeps, rfl, rfl⟩

lemma Holds.tryDiscard (h : Holds cap limit q left) (pdcpSn : Nat) :
    (q.tryDiscard pdcpSn).1 = decide (∃ e ∈ left, e.isQueued ∧ e.sdu.pdcpSn = some pdcpSn) ∧
      Holds cap limit (q.tryDiscard pdcpSn).2 (backlogCall cap limit left (.tryDiscard pdcpSn)).2 := by
  obtain ⟨hqueue, hkeeps, rfl, rfl⟩ := h
  dsimp only [RlcSduQueue.tryDiscard, backlogCall]
  by_cases hholds : ∃ e ∈ left, e.isQueued ∧ e.sdu.pdcpSn = some pdcpSn
  case neg =>
    rw [if_neg (by rwa [hkeeps.slots.holds_iff]), if_neg hholds, decide_eq_false hholds]
    exact ⟨rfl, hqueue, hkeeps, rfl, rfl⟩
  case pos =>
    rw [if_pos (by rwa [hkeeps.slots.holds_iff]), if_pos hholds, decide_eq_true hholds]
    obtain ⟨⟨sdu, fate⟩, he, hqueued, hsn⟩ := hholds
    obtain rfl : fate = .queued := of_decide_eq_true hqueued
    obtain ⟨before, after, rfl⟩ := List.append_of_mem he
    have hslot := hkeeps.slots.holds _ he pdcpSn hsn
    have hsize : (q.slots.get pdcpSn).sduSize = sdu.buf.length := by
      rw [hslot]
      rfl
    have hcount := hkeeps.nSdus
    have hsum := hkeeps.nBytes
    have hroom := hkeeps.room
    have hbelow := hkeeps.below
    have hcapacity : (q.setState pdcpSn .discarded).capacity = q.capacity := CircularVector.size_modify
    rw [List.countP_append, List.countP_cons_of_pos hqueued] at hcount
    rw [queuedBytes_append, queuedBytes_cons, if_pos hqueued] at hsum
    have hrest : ∀ e ∈ before ++ ⟨sdu, .discarded⟩ :: after,
        e = ⟨sdu, .discarded⟩ ∨ e ∈ before ++ ⟨sdu, .queued⟩ :: after := by
      intro e he
      rw [List.mem_append, List.mem_cons] at he ⊢
      tauto
    rw [hkeeps.slots.mark_eq hsn, hsize]
    refine ⟨rfl, ?_, ⟨hkeeps.slots.discard hsn, fun e he => ?_, fun e he hnone => ?_, ?_, ?_, ?_, ?_⟩, hcapacity, rfl⟩
    · change q.queue = _
      rw [hqueue, List.map_append, List.map_append]
      rfl
    · rcases hrest e he with rfl | he
      · exact fun hread => nomatch hread
      · exact hkeeps.unread e he
    · rcases hrest e he with rfl | he
      · cases hsn.symm.trans hnone
      · exact hkeeps.kept e he hnone
    · rw [List.countP_append, List.countP_cons_of_neg (by simp [LedgerEntry.isQueued])]
      exact congrArg (· - 1) hcount
    · rw [queuedBytes_append, queuedBytes_cons, if_neg (by simp [LedgerEntry.isQueued])]
      change q.nBytes - sdu.buf.length = _
      dsimp only at hsum
      omega
    · rw [List.length_append, List.length_cons] at hroom ⊢
      exact Nat.le_trans hroom (Nat.le_of_eq hcapacity.symm)
    · change q.nBytes - sdu.buf.length = 0 ∨ q.nBytes - sdu.buf.length < q.byteLimit
      omega

lemma Holds.call (h : Holds cap limit q left) (c : SduQueueCall) :
    (q.call c).1 = (backlogCall cap limit left c).1 ∧ Holds cap limit (q.call c).2 (backlogCall cap limit left c).2 := by
  cases c with
  | write sdu =>
    obtain ⟨hanswer, hholds⟩ := h.write sdu
    refine ⟨?_, hholds⟩
    dsimp only [RlcSduQueue.call, backlogCall]
    rw [hanswer]
    by_cases haccepts : Accepts cap limit left sdu
    · rw [if_pos haccepts, decide_eq_true haccepts]
    · rw [if_neg haccepts, decide_eq_false haccepts]
  | tryDiscard pdcpSn =>
    obtain ⟨hanswer, hholds⟩ := h.tryDiscard pdcpSn
    refine ⟨?_, hholds⟩
    dsimp only [RlcSduQueue.call, backlogCall]
    rw [hanswer]
    by_cases hqueued : ∃ e ∈ left, e.isQueued ∧ e.sdu.pdcpSn = some pdcpSn
    · rw [if_pos hqueued, decide_eq_true hqueued]
    · rw [if_neg hqueued, decide_eq_false hqueued]
  | read =>
    obtain ⟨hanswer, hqueue, hkeeps, hcapacity, hlimit⟩ := h.keeps.readFrom
    rw [← h.queue] at hanswer hqueue hkeeps hcapacity hlimit
    exact ⟨congrArg SduQueueAnswer.read hanswer, hqueue, hkeeps, hcapacity.trans h.capacity,
      hlimit.trans h.byteLimit⟩
  | front =>
    obtain ⟨hanswer, hqueue, hkeeps, hcapacity, hlimit⟩ := h.keeps.frontFrom
    rw [← h.queue] at hanswer hqueue hkeeps hcapacity hlimit
    exact ⟨congrArg SduQueueAnswer.front hanswer, hqueue, hkeeps, hcapacity.trans h.capacity,
      hlimit.trans h.byteLimit⟩

lemma Holds.answers_eq {q' : RlcSduQueue} (h : Holds cap limit q left) (h' : Holds cap limit q' left)
    (calls : List SduQueueCall) : q.answers calls = q'.answers calls := by
  induction calls generalizing q q' left with
  | nil => rfl
  | cons c calls ih =>
    obtain ⟨hanswer, hnext⟩ := h.call c
    obtain ⟨hanswer', hnext'⟩ := h'.call c
    unfold answers
    rw [hanswer, hanswer', ih hnext hnext']

end Calls

end RlcSduQueue

end OwlsRan.Rlc
