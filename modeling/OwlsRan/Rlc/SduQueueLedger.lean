import Mathlib.Data.List.DropRight
import OwlsRan.Rlc.SduBacklog

/-!
# The books of the SDU queue

The ledger lists the SDUs that were written, in order, each with what became of it.
-/

namespace OwlsRan.Rlc

/-- A `write` or a `try_discard` that returned false. -/
def SduQueueAnswer.Failed (answer : SduQueueAnswer) : Prop := answer = .written false ∨ answer = .discarded false

/-- What a call means for the SDUs that were written. -/
inductive LedgerStep : SduQueueCall → SduQueueAnswer → List LedgerEntry → List LedgerEntry → Prop
  | write (sdu : RlcSdu) (l : List LedgerEntry) : LedgerStep (.write sdu) (.written true) l (l ++ [⟨sdu, .queued⟩])
  | writeFails (sdu : RlcSdu) (l : List LedgerEntry) : LedgerStep (.write sdu) (.written false) l l
  | discard {sdu : RlcSdu} {pdcpSn : Nat} (before after : List LedgerEntry) (hsn : sdu.pdcpSn = some pdcpSn) :
    LedgerStep (.tryDiscard pdcpSn) (.discarded true) (before ++ ⟨sdu, .queued⟩ :: after)
      (before ++ ⟨sdu, .discarded⟩ :: after)
  | discardFails {pdcpSn : Nat} {l : List LedgerEntry}
    (hnone : ∀ e ∈ l, e.fate = .queued → e.sdu.pdcpSn ≠ some pdcpSn) :
    LedgerStep (.tryDiscard pdcpSn) (.discarded false) l l
  | read {before : List LedgerEntry} (sdu : RlcSdu) (after : List LedgerEntry)
    (hfirst : ∀ e ∈ before, e.fate ≠ .queued) :
    LedgerStep .read (.read (some sdu)) (before ++ ⟨sdu, .queued⟩ :: after) (before ++ ⟨sdu, .read⟩ :: after)
  | readEmpty {l : List LedgerEntry} (hnone : ∀ e ∈ l, e.fate ≠ .queued) : LedgerStep .read (.read none) l l
  | front {before : List LedgerEntry} (sdu : RlcSdu) (after : List LedgerEntry)
    (hfirst : ∀ e ∈ before, e.fate ≠ .queued) :
    LedgerStep .front (.front (some sdu)) (before ++ ⟨sdu, .queued⟩ :: after) (before ++ ⟨sdu, .queued⟩ :: after)
  | frontEmpty {l : List LedgerEntry} (hnone : ∀ e ∈ l, e.fate ≠ .queued) : LedgerStep .front (.front none) l l

def acceptedSdus (c : SduQueueCall) (answer : SduQueueAnswer) : List RlcSdu :=
  match c, answer with
  | .write sdu, .written true => [sdu]
  | _, _ => []

def discardedSns (c : SduQueueCall) (answer : SduQueueAnswer) : List Nat :=
  match c, answer with
  | .tryDiscard pdcpSn, .discarded true => [pdcpSn]
  | _, _ => []

/-- The SDUs that `read` returns. -/
def readSdus (_ : SduQueueCall) (answer : SduQueueAnswer) : List RlcSdu :=
  match answer with
  | .read (some sdu) => [sdu]
  | _ => []

def sdusOf (fate : SduFate) (l : List LedgerEntry) : List RlcSdu :=
  (l.filter fun e => e.fate = fate).map LedgerEntry.sdu

def InTurn (l : List LedgerEntry) : Prop := l.Pairwise fun e e' => e.fate = .queued → e'.fate ≠ .read

section Ledger

variable {l l' : List LedgerEntry} {c : SduQueueCall} {answer : SduQueueAnswer}

lemma sdusOf_append (fate : SduFate) (l l' : List LedgerEntry) :
    sdusOf fate (l ++ l') = sdusOf fate l ++ sdusOf fate l' := by
  unfold sdusOf
  rw [List.filter_append, List.map_append]

lemma sdusOf_cons (fate : SduFate) (e : LedgerEntry) (l : List LedgerEntry) :
    sdusOf fate (e :: l) = (if e.fate = fate then [e.sdu] else []) ++ sdusOf fate l := by
  unfold sdusOf
  by_cases h : e.fate = fate
  · rw [List.filter_cons_of_pos (by simpa using h), if_pos h]
    rfl
  · rw [List.filter_cons_of_neg (by simpa using h), if_neg h]
    rfl

lemma sdusOf_eq_nil {fate : SduFate} (h : ∀ e ∈ l, e.fate ≠ fate) : sdusOf fate l = [] := by
  unfold sdusOf
  rw [List.filter_eq_nil_iff.mpr fun e he => by simpa using h e he]
  rfl

lemma sdusOf_settle (sdu : RlcSdu) (fate : SduFate) (hfate : fate ≠ .queued) (before after : List LedgerEntry) :
    sdusOf fate (before ++ ⟨sdu, fate⟩ :: after) = sdusOf fate before ++ sdu :: sdusOf fate after ∧
      sdusOf fate (before ++ ⟨sdu, .queued⟩ :: after) = sdusOf fate before ++ sdusOf fate after := by
  rw [sdusOf_append, sdusOf_append, sdusOf_cons, sdusOf_cons, if_pos rfl, if_neg hfate.symm]
  exact ⟨rfl, rfl⟩

lemma sdusOf_other (sdu : RlcSdu) {fate other : SduFate} (hfate : fate ≠ .queued) (hother : fate ≠ other)
    (before after : List LedgerEntry) :
    sdusOf fate (before ++ ⟨sdu, other⟩ :: after) = sdusOf fate (before ++ ⟨sdu, .queued⟩ :: after) := by
  rw [sdusOf_append, sdusOf_append, sdusOf_cons, sdusOf_cons, if_neg hother.symm, if_neg hfate.symm]

lemma InTurn.settle {sdu : RlcSdu} {fate : SduFate} {before after : List LedgerEntry}
    (h : InTurn (before ++ ⟨sdu, .queued⟩ :: after)) (hfate : fate ≠ .queued)
    (hfirst : fate = .read → ∀ e ∈ before, e.fate ≠ .queued) : InTurn (before ++ ⟨sdu, fate⟩ :: after) := by
  unfold InTurn at h ⊢
  rw [List.pairwise_append, List.pairwise_cons] at h ⊢
  obtain ⟨hbefore, ⟨-, hafter⟩, hacross⟩ := h
  refine ⟨hbefore, ⟨fun _ _ hqueued => absurd hqueued hfate, hafter⟩, fun e he e' he' hqueued => ?_⟩
  rcases List.mem_cons.mp he' with rfl | he'
  · exact fun hread => hfirst hread e he hqueued
  · exact hacross e he e' (List.mem_cons_of_mem _ he') hqueued

/-- A call adds the SDU that it writes, returns the SDU that it marks as read, and discards the SDU that it marks as
discarded. -/
lemma LedgerStep.effect (h : LedgerStep c answer l l') (hturn : InTurn l) :
    InTurn l' ∧ l'.map LedgerEntry.sdu = l.map LedgerEntry.sdu ++ acceptedSdus c answer ∧
      sdusOf .read l' = sdusOf .read l ++ readSdus c answer ∧
      ((sdusOf .discarded l').filterMap RlcSdu.pdcpSn).Perm
        ((sdusOf .discarded l).filterMap RlcSdu.pdcpSn ++ discardedSns c answer) := by
  have hnothing : ∀ {α : Type} (l : List α), l = l ++ [] := fun l => (List.append_nil l).symm
  cases h with
  | write sdu =>
    refine ⟨List.pairwise_append.mpr ⟨hturn, List.pairwise_singleton _ _, fun e _ e' he' _ => ?_⟩, ?_, ?_, ?_⟩
    · rw [List.mem_singleton.mp he']
      exact SduFate.noConfusion
    · exact List.map_append
    · exact sdusOf_append _ _ _
    · have hsame : sdusOf .discarded (l ++ [⟨sdu, .queued⟩]) = sdusOf .discarded l := by
        rw [sdusOf_append]
        exact List.append_nil _
      rw [hsame]
      exact List.Perm.of_eq (hnothing _)
  | writeFails sdu => exact ⟨hturn, hnothing _, hnothing _, List.Perm.of_eq (hnothing _)⟩
  | @discard sdu pdcpSn before after hsn =>
    refine ⟨hturn.settle SduFate.noConfusion SduFate.noConfusion, ?_, ?_, ?_⟩
    · rw [List.map_append, List.map_append]
      exact hnothing _
    · rw [sdusOf_other sdu SduFate.noConfusion SduFate.noConfusion]
      exact hnothing _
    · obtain ⟨hnew, hold⟩ := sdusOf_settle sdu .discarded SduFate.noConfusion before after
      rw [hnew, hold, List.filterMap_append, List.filterMap_cons_some hsn, List.filterMap_append]
      exact List.perm_middle.trans (List.perm_append_singleton _ _).symm
  | discardFails hnone => exact ⟨hturn, hnothing _, hnothing _, List.Perm.of_eq (hnothing _)⟩
  | @read before sdu after hfirst =>
    refine ⟨hturn.settle SduFate.noConfusion fun _ => hfirst, ?_, ?_, ?_⟩
    · rw [List.map_append, List.map_append]
      exact hnothing _
    · obtain ⟨hnew, hold⟩ := sdusOf_settle sdu .read SduFate.noConfusion before after
      -- nothing behind the SDU was read before it
      have hlast : sdusOf .read after = [] := by
        apply sdusOf_eq_nil
        intro e he
        unfold InTurn at hturn
        rw [List.pairwise_append, List.pairwise_cons] at hturn
        exact hturn.2.1.1 e he rfl
      rw [hnew, hold, hlast, List.append_nil]
      rfl
    · rw [sdusOf_other sdu SduFate.noConfusion SduFate.noConfusion]
      exact List.Perm.of_eq (hnothing _)
  | readEmpty hnone => exact ⟨hturn, hnothing _, hnothing _, List.Perm.of_eq (hnothing _)⟩
  | front sdu after hfirst => exact ⟨hturn, hnothing _, hnothing _, List.Perm.of_eq (hnothing _)⟩
  | frontEmpty hnone => exact ⟨hturn, hnothing _, hnothing _, List.Perm.of_eq (hnothing _)⟩

lemma LedgerStep.eq_of_failed  (h : LedgerStep c answer l l') (hfailed : answer.Failed) : l' = l := by
  cases h with
  | writeFails | discardFails | readEmpty | front | frontEmpty => rfl
  | write | discard | read => rcases hfailed with h | h <;> cases h

end Ledger

namespace RlcSduQueue

/-- The counters are those of the SDUs that are queued, and fit into the two halves of the word that stores them. -/
structure Books (q : RlcSduQueue) (l : List LedgerEntry) : Prop where
  nSdus : q.nSdus = (sdusOf .queued l).length
  nBytes : q.nBytes = ((sdusOf .queued l).map fun sdu => sdu.buf.length).sum
  nSdus_le : q.nSdus ≤ q.capacity
  nBytes_lt : q.nBytes = 0 ∨ q.nBytes < q.byteLimit

/-- What a call owes to the ledger `l` before it and the ledger `l'` after it. -/
structure Accounted (q : RlcSduQueue) (l : List LedgerEntry) (c : SduQueueCall) (l' : List LedgerEntry) : Prop where
  ledger : LedgerStep c (q.call c).1 l l'
  books : Books (q.call c).2 l'
  /-- `front` returns what `read` would return, before it and after it. -/
  next : c = .front → q.front.1 = q.read.1 ∧ q.front.1 = q.front.2.read.1
  /-- `front` pops SDUs that were discarded, no others. -/
  popped : c = .front → ∃ gone popped left, l = gone ++ popped ++ left ∧
    q.queue = (popped ++ left).map LedgerEntry.sdu ∧ q.front.2.queue = left.map LedgerEntry.sdu ∧
    ∀ e ∈ popped, e.fate = .discarded
  /-- What fails changes nothing: the counters and the SDUs are those before it, and so are all answers after it. -/
  failed : (q.call c).1.Failed → l' = l ∧ (q.call c).2.queue = q.queue ∧ (q.call c).2.nSdus = q.nSdus ∧
    (q.call c).2.nBytes = q.nBytes ∧ ∀ later, (q.call c).2.answers later = q.answers later

def Accounts : RlcSduQueue → List LedgerEntry → List SduQueueCall → Prop
  | q, l, [] => Books q l
  | q, l, c :: cs => Books q l ∧ ∃ l', Accounted q l c l' ∧ Accounts (q.call c).2 l' cs

def collect {α : Type} (f : SduQueueCall → SduQueueAnswer → List α) : RlcSduQueue → List SduQueueCall → List α
  | _, [] => []
  | q, c :: cs => f c (q.call c).1 ++ collect f (q.call c).2 cs

def after : RlcSduQueue → List SduQueueCall → RlcSduQueue
  | q, [] => q
  | q, c :: cs => after (q.call c).2 cs

def Represents (cap limit : Nat) (q : RlcSduQueue) (l : List LedgerEntry) : Prop :=
  ∃ gone left, l = gone ++ left ∧ (∀ e ∈ gone, e.fate ≠ .queued) ∧ Holds cap limit q left

section Calls

variable {q : RlcSduQueue} {l : List LedgerEntry} {cap limit : Nat}

lemma Represents.books (h : Represents cap limit q l) : Books q l := by
  obtain ⟨gone, left, rfl, hgone, hholds⟩ := h
  have hqueued : sdusOf .queued (gone ++ left) = sdusOf .queued left := by
    rw [sdusOf_append, sdusOf_eq_nil hgone, List.nil_append]
  have hlength : (sdusOf .queued left).length = left.countP LedgerEntry.isQueued := by
    unfold sdusOf
    rw [List.length_map, List.countP_eq_length_filter]
    rfl
  have hcount := hholds.keeps.nSdus
  refine ⟨?_, ?_, ?_, hholds.keeps.below⟩
  · rw [hqueued, hlength, hcount]
  · rw [hqueued, hholds.keeps.nBytes]
    unfold queuedBytes sdusOf
    rw [List.map_map]
    rfl
  · rw [hcount]
    exact List.countP_le_length.trans hholds.keeps.room

lemma fate_ne_of_isQueued {e : LedgerEntry} (h : e.isQueued = false) : e.fate ≠ .queued := of_decide_eq_false h

lemma unqueued_append {gone popped : List LedgerEntry} (hgone : ∀ e ∈ gone, e.fate ≠ .queued)
    (hpopped : ∀ e ∈ popped, e.isQueued = false) : ∀ e ∈ gone ++ popped, e.fate ≠ .queued := by
  intro e he
  rcases List.mem_append.mp he with he | he
  · exact hgone e he
  · exact fate_ne_of_isQueued (hpopped e he)

lemma Represents.ledger (h : Represents cap limit q l) (c : SduQueueCall) :
    ∃ l', LedgerStep c (q.call c).1 l l' ∧ Represents cap limit (q.call c).2 l' := by
  obtain ⟨gone, left, rfl, hgone, hholds⟩ := h
  obtain ⟨hanswer, hnext⟩ := hholds.call c
  rw [hanswer]
  cases c with
  | write sdu =>
    dsimp only [backlogCall] at hnext ⊢
    by_cases haccepts : Accepts cap limit left sdu
    · rw [if_pos haccepts] at hnext ⊢
      exact ⟨_, .write sdu _, gone, _, (List.append_assoc _ _ _), hgone, hnext⟩
    · rw [if_neg haccepts] at hnext ⊢
      exact ⟨_, .writeFails sdu _, gone, left, rfl, hgone, hnext⟩
  | tryDiscard pdcpSn =>
    dsimp only [backlogCall] at hnext ⊢
    by_cases hqueued : ∃ e ∈ left, e.isQueued ∧ e.sdu.pdcpSn = some pdcpSn
    · rw [if_pos hqueued] at hnext ⊢
      obtain ⟨⟨sdu, fate⟩, he, hfate, hsn⟩ := hqueued
      obtain rfl : fate = .queued := of_decide_eq_true hfate
      obtain ⟨before, behind, rfl⟩ := List.append_of_mem he
      rw [hholds.keeps.slots.mark_eq hsn] at hnext
      rw [← List.append_assoc]
      exact ⟨_, .discard (gone ++ before) behind hsn, gone, _, (List.append_assoc _ _ _), hgone, hnext⟩
    · rw [if_neg hqueued] at hnext ⊢
      refine ⟨_, .discardFails fun e he hfate hsn => ?_, gone, left, rfl, hgone, hnext⟩
      rcases List.mem_append.mp he with he | he
      · exact hgone e he hfate
      · exact hqueued ⟨e, he, decide_eq_true hfate, hsn⟩
  | read =>
    obtain ⟨popped, valid, rfl, hdrop, hpopped, hvalid⟩ := exists_valid left
    have hbefore := unqueued_append hgone hpopped
    dsimp only [backlogCall] at hnext ⊢
    rw [hdrop] at hnext ⊢
    rw [← List.append_assoc]
    cases valid with
    | nil => exact ⟨_, .readEmpty (by rwa [List.append_nil]), _, [], rfl, hbefore, hnext⟩
    | cons e rest =>
      obtain ⟨sdu, fate⟩ := e
      obtain rfl : fate = .queued := of_decide_eq_true (hvalid _ rfl)
      refine ⟨_, .read sdu rest hbefore, gone ++ popped ++ [⟨sdu, .read⟩], rest, ?_, ?_, hnext⟩
      · rw [List.append_assoc _ [_], List.singleton_append]
      · intro e he
        rcases List.mem_append.mp he with he | he
        · exact hbefore e he
        · rw [List.mem_singleton.mp he]
          exact SduFate.noConfusion
  | front =>
    obtain ⟨popped, valid, rfl, hdrop, hpopped, hvalid⟩ := exists_valid left
    have hbefore := unqueued_append hgone hpopped
    dsimp only [backlogCall] at hnext ⊢
    rw [hdrop] at hnext ⊢
    rw [← List.append_assoc]
    cases valid with
    | nil => exact ⟨_, .frontEmpty (by rwa [List.append_nil]), _, [], rfl, hbefore, hnext⟩
    | cons e rest =>
      obtain ⟨sdu, fate⟩ := e
      obtain rfl : fate = .queued := of_decide_eq_true (hvalid _ rfl)
      exact ⟨_, .front sdu rest hbefore, gone ++ popped, _, rfl, hbefore, hnext⟩

lemma backlogCall_failed {left : List LedgerEntry} {c : SduQueueCall} (h : (backlogCall cap limit left c).1.Failed) :
    (backlogCall cap limit left c).2 = left := by
  cases c with
  | write sdu =>
    dsimp only [backlogCall] at h ⊢
    split at h
    · rcases h with h | h <;> cases h
    · rw [if_neg ‹_›]
  | tryDiscard pdcpSn =>
    dsimp only [backlogCall] at h ⊢
    split at h
    · rcases h with h | h <;> cases h
    · rw [if_neg ‹_›]
  | read => rcases h with h | h <;> cases h
  | front => rcases h with h | h <;> cases h

lemma Represents.accounted (h : Represents cap limit q l) (c : SduQueueCall) :
    ∃ l', Accounted q l c l' ∧ Represents cap limit (q.call c).2 l' := by
  obtain ⟨l', hstep, hnext⟩ := h.ledger c
  refine ⟨l', ⟨hstep, hnext.books, ?_, ?_, ?_⟩, hnext⟩
  · obtain ⟨gone, left, rfl, hgone, hholds⟩ := h
    rintro rfl
    obtain ⟨hfront, hleft⟩ := hholds.call .front
    have hread := (hholds.call .read).1
    have hthen := (hleft.call .read).1
    dsimp only [RlcSduQueue.call, backlogCall] at hfront hread hthen
    rw [List.dropWhile_idempotent] at hthen
    rw [SduQueueAnswer.front.inj hfront, SduQueueAnswer.read.inj hread, SduQueueAnswer.read.inj hthen]
    exact ⟨rfl, rfl⟩
  · obtain ⟨gone, left, rfl, hgone, hholds⟩ := h
    rintro rfl
    obtain ⟨popped, valid, rfl, hdrop, hpopped, -⟩ := exists_valid left
    have hleft := (hholds.call .front).2.queue
    dsimp only [RlcSduQueue.call, backlogCall] at hleft
    rw [hdrop] at hleft
    refine ⟨gone, popped, valid, (List.append_assoc _ _ _).symm, hholds.queue, hleft, fun e he => ?_⟩
    · have hunread := hholds.keeps.unread e (List.mem_append_left _ he)
      have hfate := fate_ne_of_isQueued (hpopped e he)
      cases hcase : e.fate with
      | queued => exact absurd hcase hfate
      | discarded => rfl
      | read => exact absurd hcase hunread
  · intro hfailed
    obtain ⟨gone, left, rfl, hgone, hholds⟩ := h
    obtain ⟨hanswer, hleft⟩ := hholds.call c
    rw [backlogCall_failed (hanswer ▸ hfailed)] at hleft
    refine ⟨hstep.eq_of_failed hfailed, hleft.queue.trans hholds.queue.symm, ?_, ?_,
      fun later => hleft.answers_eq hholds later⟩
    · exact hleft.keeps.nSdus.trans hholds.keeps.nSdus.symm
    · exact hleft.keeps.nBytes.trans hholds.keeps.nBytes.symm

lemma Represents.accounts (h : Represents cap limit q l) (calls : List SduQueueCall) : Accounts q l calls := by
  induction calls generalizing q l with
  | nil => exact h.books
  | cons c calls ih =>
    obtain ⟨l', haccounted, hnext⟩ := h.accounted c
    exact ⟨h.books, l', haccounted, ih hnext⟩

lemma Represents.history (h : Represents cap limit q l) (hturn : InTurn l) (calls : List SduQueueCall) :
    ∃ l', Books (q.after calls) l' ∧
      l'.map LedgerEntry.sdu = l.map LedgerEntry.sdu ++ collect acceptedSdus q calls ∧
      sdusOf .read l' = sdusOf .read l ++ collect readSdus q calls ∧
      ((sdusOf .discarded l').filterMap RlcSdu.pdcpSn).Perm
        ((sdusOf .discarded l).filterMap RlcSdu.pdcpSn ++ collect discardedSns q calls) := by
  induction calls generalizing q l with
  | nil =>
    unfold collect
    simp only [List.append_nil]
    exact ⟨l, h.books, rfl, rfl, List.Perm.refl _⟩
  | cons c calls ih =>
    obtain ⟨l₁, hstep, hnext⟩ := h.ledger c
    obtain ⟨hturn₁, hwritten, hread, hdiscarded⟩ := hstep.effect hturn
    obtain ⟨l', hbooks, hwritten', hread', hdiscarded'⟩ := ih hnext hturn₁
    refine ⟨l', hbooks, ?_, ?_, ?_⟩
    · rw [hwritten', hwritten, List.append_assoc]
      rfl
    · rw [hread', hread, List.append_assoc]
      rfl
    · have hboth := hdiscarded.append_right (collect discardedSns (q.call c).2 calls)
      rw [List.append_assoc] at hboth
      exact hdiscarded'.trans hboth

end Calls

/-- Every call of every sequence is accounted for, and the ledger at its end lists the SDUs that were written, in order,
those that `read` returned among them, in order, and those that were discarded. -/
theorem sdu_queue_accounts (capacity : Nat) (hcapacity : 0 < capacity) (byteLimit : Nat) (calls : List SduQueueCall) :
    Accounts (new capacity hcapacity byteLimit) [] calls ∧
      ∃ l, Books ((new capacity hcapacity byteLimit).after calls) l ∧
        l.map LedgerEntry.sdu = collect acceptedSdus (new capacity hcapacity byteLimit) calls ∧
        sdusOf .read l = collect readSdus (new capacity hcapacity byteLimit) calls ∧
        ((sdusOf .discarded l).filterMap RlcSdu.pdcpSn).Perm
          (collect discardedSns (new capacity hcapacity byteLimit) calls) := by
  have hstart : Represents capacity byteLimit (new capacity hcapacity byteLimit) [] :=
    ⟨[], [], rfl, fun _ he => (nomatch he), holds_new capacity hcapacity byteLimit⟩
  exact ⟨hstart.accounts calls, hstart.history List.Pairwise.nil calls⟩

/-- Two SDUs are written, the first one is discarded, and the PDCP SN of its slot is written again once it is popped. -/
def discardAtFront : List SduQueueCall :=
  let sdu (byte : UInt8) (pdcpSn : Nat) : RlcSdu := ⟨[byte, byte], false, some pdcpSn⟩
  [.write (sdu 1 4), .write (sdu 2 5), .tryDiscard 4, .tryDiscard 4, .write (sdu 3 6), .front, .write (sdu 3 6), .read,
    .read]

theorem sdu_queue_accounts_discard :
    Accounts (new 2 (by decide) 100) [] discardAtFront ∧
      ∃ l, Books ((new 2 (by decide) 100).after discardAtFront) l ∧
        l.map LedgerEntry.sdu = collect acceptedSdus (new 2 (by decide) 100) discardAtFront ∧
        sdusOf .read l = collect readSdus (new 2 (by decide) 100) discardAtFront ∧
        ((sdusOf .discarded l).filterMap RlcSdu.pdcpSn).Perm
          (collect discardedSns (new 2 (by decide) 100) discardAtFront) :=
  sdu_queue_accounts 2 (by decide) 100 discardAtFront

end RlcSduQueue

end OwlsRan.Rlc
