import Mathlib.Data.List.Nodup
import Mathlib.Data.List.Count
import OwlsRan.Lib.Outcome
import OwlsRan.Ofh.UplinkContextRepository

/-!
# Notification of uplink symbols

A registration is queued, then it stands in the ring, then it is notified.
-/

namespace OwlsRan.Ofh

open Lib

namespace GridWrite

def OfItsSymbol (cfg : UplinkRepositoryConfig) (w : GridWrite) : Prop :=
  cfg.entrySlot w.slot = cfg.entrySlot w.registration.context.slot ∧ w.symbol = w.registration.symbol

def Covers (w : GridWrite) (port re : ℕ) : Prop := w.port = port ∧ w.startRe ≤ re ∧ re < w.startRe + w.nofRe

end GridWrite

namespace AddTask

lemma nodup_registrations (task : AddTask) : task.registrations.Nodup := by
  apply List.Nodup.map
  · intro x y hxy
    exact congrArg Registration.symbol hxy
  · exact (List.nodup_finRange _).filter _

lemma mem_registrations {task : AddTask} {r : Registration} :
    r ∈ task.registrations ↔ r.symbol ∈ task.symbolRange.symbols ∧ task.registration r.symbol = r := by
  constructor
  · intro h
    obtain ⟨symbol, hsymbol, rfl⟩ := List.mem_map.mp h
    exact ⟨hsymbol, rfl⟩
  · rintro ⟨hsymbol, hr⟩
    exact List.mem_map.mpr ⟨r.symbol, hsymbol, hr⟩

end AddTask

namespace UplinkReception

variable (cfg : UplinkRepositoryConfig)

def queued (s : UplinkReception) : List Registration := s.pendingContextToAdd.flatMap AddTask.registrations

def Stands (s : UplinkReception) (r : Registration) : Prop :=
  (s.entry cfg r.context.slot r.symbol).map UplinkContext.registration = some r

instance (s : UplinkReception) (r : Registration) : Decidable (s.Stands cfg r) :=
  inferInstanceAs (Decidable (_ = _))

structure NotifiedExactly (s : UplinkReception) : Prop where
  atMostOnce : ∀ r, s.notifiedTimes r ≤ if r ∈ s.registered then 1 else 0
  waiting : ∀ r ∈ s.registered, s.notifiedTimes r = 0 ↔ (r ∈ s.queued ∨ s.Stands cfg r)
  closed : ∀ r ∈ s.registered, (r.context.slot, r.symbol) ∈ s.closed → s.notifiedTimes r = 1
  symbol : ∀ n ∈ s.notified, n.symbol = n.registration.symbol
  complete : ∀ n ∈ s.notified, n.complete = true →
    ∀ port < n.registration.grid.nofPorts, ∀ re < n.registration.grid.nofSubc,
      ∃ w ∈ s.written, w.registration = n.registration ∧ w.OfItsSymbol cfg ∧ w.Covers port re
  written : ∀ w ∈ s.written, w.OfItsSymbol cfg

/-- The write of a section meets an entry of the slot of its message, in whose grid the section fits. -/
def WriteMeetsItsSlot (s : UplinkReception) (job : WriteJob) (section_ : UplaneSection) : Prop :=
  ∃ context ∈ s.entry cfg job.slot job.symbol, job.port < context.registration.grid.nofPorts →
    cfg.entrySlot job.slot = cfg.entrySlot context.registration.context.slot ∧
    (section_.startPrb + nofPrbsToWrite job.duNofPrbs section_) * NOF_SUBCARRIERS_PER_RB ≤
      context.registration.grid.nofSubc

/-- A context is added before the closing pass of its symbols and enters free entries before that pass, and the writes
meet entries of the slots of their messages. -/
def Timely (s : UplinkReception) : UplinkReceptionEvent cfg → Prop
  | .add context _ symbolRange => s.pendingContextToAdd.length < cfg.size →
      ∀ symbol ∈ symbolRange.symbols, (context.slot, symbol) ∉ s.closed
  | .processPendingContext => ∀ task ∈ s.pendingContextToAdd.head?, ∀ symbol ∈ task.symbolRange.symbols,
      (s.entry cfg task.context.slot symbol).isNone = true
  | .receive _ => True
  | .writeSection i => ∀ job ∈ s.jobs[i]?, ∀ section_ ∈ job.sections.head?, section_.startPrb < job.duNofPrbs →
      s.WriteMeetsItsSlot cfg job section_
  | .notifyReceivedSymbol _ _ => True
  | .handleUplinkContext slot symbol => ∀ task ∈ s.pendingContextToAdd, task.context.slot = slot →
      symbol ∉ task.symbolRange.symbols

instance (s : UplinkReception) (job : WriteJob) (section_ : UplaneSection) :
    Decidable (s.WriteMeetsItsSlot cfg job section_) :=
  match h : s.entry cfg job.slot job.symbol with
  | none => isFalse fun ⟨_, hc, _⟩ => nomatch h.symm.trans hc
  | some context => decidable_of_iff (job.port < context.registration.grid.nofPorts →
      cfg.entrySlot job.slot = cfg.entrySlot context.registration.context.slot ∧
      (section_.startPrb + nofPrbsToWrite job.duNofPrbs section_) * NOF_SUBCARRIERS_PER_RB ≤
        context.registration.grid.nofSubc)
      ⟨fun hc => ⟨context, h, hc⟩, fun ⟨_, hc, hi⟩ => Option.some.inj (h.symm.trans hc) ▸ hi⟩

instance (s : UplinkReception) : ∀ e, Decidable (s.Timely cfg e)
  | .add _ _ _ => inferInstanceAs (Decidable (_ → ∀ symbol ∈ _, _))
  | .processPendingContext => inferInstanceAs (Decidable (∀ task ∈ _, ∀ symbol ∈ _, _))
  | .receive _ => inferInstanceAs (Decidable True)
  | .writeSection _ => inferInstanceAs (Decidable (∀ job ∈ _, ∀ section_ ∈ _, _ → _))
  | .notifyReceivedSymbol _ _ => inferInstanceAs (Decidable True)
  | .handleUplinkContext _ _ => inferInstanceAs (Decidable (∀ task ∈ _, _ → _))

def standing (s : UplinkReception) (r : Registration) : ℕ := if s.Stands cfg r then 1 else 0

structure Consistent (s : UplinkReception) : Prop where
  balance : ∀ r, s.registered.count r = s.queued.count r + s.standing cfg r + s.notifiedTimes r
  nodup : s.registered.Nodup
  numbers : ∀ r ∈ s.registered, r.number < s.nofAdds
  placed : ∀ i y c, s.entries i y = some c →
    i = calculateRepositoryIndex cfg c.registration.context.slot ∧ y = c.registration.symbol
  passed : ∀ r, (r.context.slot, r.symbol) ∈ s.closed → r ∉ s.queued ∧ ¬s.Stands cfg r
  rewritten : ∀ i y c, s.entries i y = some c → ∀ port re, c.reWritten port re = true →
    ∃ w ∈ s.written, w.registration = c.registration ∧ w.Covers port re
  symbol : ∀ n ∈ s.notified, n.symbol = n.registration.symbol
  complete : ∀ n ∈ s.notified, n.complete = true →
    ∀ port < n.registration.grid.nofPorts, ∀ re < n.registration.grid.nofSubc,
      ∃ w ∈ s.written, w.registration = n.registration ∧ w.Covers port re
  written : ∀ w ∈ s.written, w.OfItsSymbol cfg

variable {cfg}

lemma init_consistent : Consistent cfg init where
  balance r := by simp [init, queued, standing, Stands, entry, notifiedTimes]
  nodup := List.nodup_nil
  numbers := by simp [init]
  placed := by simp [init]
  passed := by simp [init]
  rewritten := by simp [init]
  symbol := by simp [init]
  complete := by simp [init]
  written := by simp [init]

variable {s : UplinkReception}

lemma Consistent.notifiedExactly (h : Consistent cfg s) : NotifiedExactly cfg s := by
  have hcount : ∀ r, s.registered.count r = if r ∈ s.registered then 1 else 0 := fun r => h.nodup.count
  have hstanding : ∀ r, s.standing cfg r = 0 ↔ ¬s.Stands cfg r := by
    intro r
    by_cases hr : s.Stands cfg r
    · simp [standing, hr]
    · simp [standing, hr]
  refine ⟨fun r => ?_, fun r hr => ?_, fun r hr hclosed => ?_, h.symbol, ?_, h.written⟩
  · rw [← hcount, h.balance]
    omega
  · have hb := h.balance r
    rw [hcount, if_pos hr] at hb
    constructor
    · intro hzero
      by_contra hno
      obtain ⟨hq, hst⟩ := not_or.mp hno
      rw [(hstanding r).mpr hst, List.count_eq_zero_of_not_mem hq, hzero] at hb
      omega
    · rintro (hq | hst)
      · have := List.count_pos_iff.mpr hq
        omega
      · rw [standing, if_pos hst] at hb
        omega
  · obtain ⟨hq, hst⟩ := h.passed r hclosed
    have hb := h.balance r
    rw [hcount, if_pos hr, (hstanding r).mpr hst, List.count_eq_zero_of_not_mem hq] at hb
    omega
  · intro n hn hcomplete port hport re hre
    obtain ⟨w, hw, hreg, hcovers⟩ := h.complete n hn hcomplete port hport re hre
    exact ⟨w, hw, hreg, h.written w hw, hcovers⟩

/-! ### One step -/

lemma entry_eq (s : UplinkReception) (slot : ℕ) (symbol : Symbol) :
    s.entry cfg slot symbol = s.entries (calculateRepositoryIndex cfg slot) symbol := rfl

lemma add_consistent (h : Consistent cfg s) {context : ResourceGridContext} {grid : SharedResourceGrid}
    {symbolRange : SlotSymbolRange} (hC : s.Timely cfg (.add context grid symbolRange)) :
    Consistent cfg (s.add cfg context grid symbolRange) := by
  unfold add
  split
  case isFalse => exact h
  case isTrue hroom =>
    set task : AddTask := ⟨s.nofAdds, context, grid, symbolRange⟩ with htask
    have hnumber : ∀ r ∈ task.registrations, r.number = s.nofAdds := by
      intro r hr
      rw [← (AddTask.mem_registrations.mp hr).2]
      rfl
    have hqueued : ∀ t : UplinkReception, t.pendingContextToAdd = s.pendingContextToAdd ++ [task] →
        t.queued = s.queued ++ task.registrations := by
      intro t ht
      rw [queued, queued, ht, List.flatMap_append]
      simp
    refine { h with balance := fun r => ?_, nodup := ?_, numbers := fun r hr => ?_, passed := fun r hr => ?_ }
    · have hb := h.balance r
      rw [hqueued _ rfl, List.count_append, List.count_append]
      change s.registered.count r + _ = s.queued.count r + _ + s.standing cfg r + s.notifiedTimes r
      omega
    · refine h.nodup.append task.nodup_registrations fun r hr hr' => ?_
      have := h.numbers r hr
      rw [hnumber r hr'] at this
      omega
    · rcases List.mem_append.mp hr with hr | hr
      · have := h.numbers r hr
        exact Nat.lt_succ_of_lt this
      · rw [hnumber r hr]
        exact Nat.lt_succ_self _
    · obtain ⟨hq, hst⟩ := h.passed r hr
      refine ⟨?_, hst⟩
      rw [hqueued _ rfl, List.mem_append, not_or]
      refine ⟨hq, fun hmem => ?_⟩
      obtain ⟨hsymbol, hreg⟩ := AddTask.mem_registrations.mp hmem
      rw [← hreg] at hr
      exact hC hroom r.symbol hsymbol hr

lemma runTask_apply (entries : ℕ → Symbol → Option UplinkContext) (task : AddTask) (i : ℕ) (y : Symbol) :
    runTask cfg entries task i y =
      if i = calculateRepositoryIndex cfg task.context.slot ∧ y ∈ task.symbolRange.symbols then
        some (UplinkContext.init (task.registration y))
      else entries i y := by
  unfold runTask
  induction task.symbolRange.symbols generalizing entries with
  | nil => simp
  | cons symbol symbols ih =>
    rw [List.foldl_cons, ih]
    by_cases hi : i = calculateRepositoryIndex cfg task.context.slot
    · by_cases hy : y = symbol
      · subst hy
        simp [setEntry, hi]
      · simp [setEntry, hi, hy]
    · simp [setEntry, hi]

lemma processPendingContext_consistent (h : Consistent cfg s) (hC : s.Timely cfg .processPendingContext) :
    Consistent cfg (s.processPendingContext cfg) := by
  unfold processPendingContext
  split
  case h_1 => exact h
  case h_2 task rest hpending =>
    have hfree : ∀ symbol ∈ task.symbolRange.symbols, s.entry cfg task.context.slot symbol = none := by
      intro symbol hsymbol
      refine Option.isNone_iff_eq_none.mp (hC task ?_ symbol hsymbol)
      rw [hpending]
      rfl
    set t : UplinkReception := { s with pendingContextToAdd := rest, entries := runTask cfg s.entries task } with ht
    have hqueued : s.queued = task.registrations ++ t.queued := by
      rw [queued, hpending, List.flatMap_cons]
      rfl
    have hmem : ∀ r, r ∈ s.queued ↔ r ∈ task.registrations ∨ r ∈ t.queued := fun r => by
      rw [hqueued, List.mem_append]
    have hentry : ∀ slot symbol, t.entry cfg slot symbol = runTask cfg s.entries task
        (calculateRepositoryIndex cfg slot) symbol := fun _ _ => rfl
    -- the registrations of the task take the free entries that they are written into
    have hstands : ∀ r, t.Stands cfg r ↔ r ∈ task.registrations ∨ s.Stands cfg r := by
      intro r
      rw [Stands, hentry, runTask_apply, AddTask.mem_registrations]
      split
      case isTrue hr =>
        have hnone : ¬s.Stands cfg r := by
          rw [Stands, entry_eq, hr.1, ← entry_eq, hfree r.symbol hr.2]
          simp
        simp [UplinkContext.init, hr.2, hnone]
      case isFalse hr =>
        rw [← entry_eq, ← Stands]
        constructor
        · exact Or.inr
        · rintro (⟨hsymbol, hreg⟩ | hst)
          · refine absurd ⟨?_, hsymbol⟩ hr
            rw [← hreg]
            rfl
          · exact hst
    have hdisjoint : ∀ r ∈ task.registrations, ¬s.Stands cfg r := by
      intro r hr
      obtain ⟨hsymbol, hreg⟩ := AddTask.mem_registrations.mp hr
      have hslot : r.context.slot = task.context.slot := by
        rw [← hreg]
        rfl
      rw [Stands, hslot, hfree r.symbol hsymbol]
      simp
    refine { h with balance := fun r => ?_, placed := ?_, passed := fun r hr => ?_, rewritten := ?_ }
    · have hb := h.balance r
      rw [hqueued, List.count_append] at hb
      have hstanding : t.standing cfg r = task.registrations.count r + s.standing cfg r := by
        rw [task.nodup_registrations.count, standing, standing]
        by_cases hr : r ∈ task.registrations
        · simp [hstands, hr, hdisjoint r hr]
        · simp [hstands, hr]
      change s.registered.count r = t.queued.count r + t.standing cfg r + s.notifiedTimes r
      omega
    · intro i y c hc
      change runTask cfg s.entries task i y = some c at hc
      rw [runTask_apply] at hc
      split at hc
      case isTrue hr =>
        cases hc
        exact ⟨hr.1, rfl⟩
      case isFalse => exact h.placed i y c hc
    · obtain ⟨hq, hst⟩ := h.passed r hr
      rw [hmem, not_or] at hq
      exact ⟨hq.2, fun hst' => ((hstands r).mp hst').elim hq.1 hst⟩
    · intro i y c hc port re hre
      change runTask cfg s.entries task i y = some c at hc
      rw [runTask_apply] at hc
      split at hc
      case isTrue =>
        cases hc
        simp [UplinkContext.init] at hre
      case isFalse => exact h.rewritten i y c hc port re hre

lemma receive_consistent (h : Consistent cfg s) (message : ReceivedMessage cfg) :
    Yields (s.receive cfg message) (Consistent cfg) fun _ => False := by
  unfold receive
  split
  case h_1 => exact h
  case h_2 context hentry =>
    have hport : ¬cfg.ulEaxc.length ≤ cfg.ulEaxc.idxOf message.eaxc :=
      Nat.not_le.mpr (List.idxOf_lt_length_of_mem message.eaxc_mem)
    simp only [hport, if_false, yields_ok]
    exact { h with }

lemma writeGrid_consistent (h : Consistent cfg s) {job : WriteJob} {section_ : UplaneSection}
    (hC : s.WriteMeetsItsSlot cfg job section_) :
    Yields (s.writeGrid cfg job section_) (Consistent cfg) fun _ => False := by
  obtain ⟨context, hentry, hmeets⟩ := hC
  set startRe := section_.startPrb * NOF_SUBCARRIERS_PER_RB with hstart
  set nofRe := nofPrbsToWrite job.duNofPrbs section_ * NOF_SUBCARRIERS_PER_RB with hnof
  have hplaced := h.placed _ _ _ hentry
  by_cases hport : job.port < context.registration.grid.nofPorts
  case neg =>
    have hsame : setEntry s.entries (calculateRepositoryIndex cfg job.slot) job.symbol (some context) = s.entries := by
      funext i y
      unfold setEntry
      split
      case isTrue hi =>
        rw [hi.1, hi.2]
        exact (Option.mem_def.mp hentry).symm
      case isFalse => rfl
    have hwrite : s.writeGrid cfg job section_ = .ok s := by
      simp only [writeGrid, Option.mem_def.mp hentry, UplinkContext.writeGrid, Nat.not_lt.mp hport, if_true, hport,
        if_false, hsame]
    rw [hwrite]
    exact h
  case pos =>
    obtain ⟨hslot, hfits⟩ := hmeets hport
    have hroom : ¬context.registration.grid.nofSubc < startRe + nofRe := by
      rw [Nat.add_mul] at hfits
      omega
    set context' : UplinkContext := { context with
      reWritten := fun p re => (decide (p = job.port ∧ startRe ≤ re ∧ re < startRe + nofRe)) ||
        context.reWritten p re } with hcontext'
    set w : GridWrite := ⟨job.slot, job.symbol, context.registration, job.port, startRe, nofRe⟩ with hw
    set t : UplinkReception := { s with
      entries := setEntry s.entries (calculateRepositoryIndex cfg job.slot) job.symbol (some context')
      written := s.written ++ [w] } with ht
    have hwrite : s.writeGrid cfg job section_ = .ok t := by
      simp only [writeGrid, Option.mem_def.mp hentry, UplinkContext.writeGrid, Nat.not_le.mpr hport, if_false,
        ← hstart, ← hnof, hroom, hport, if_true]
      rfl
    rw [hwrite]
    have hstands : ∀ r, t.Stands cfg r ↔ s.Stands cfg r := by
      intro r
      rw [Stands, Stands, entry_eq, entry_eq]
      change (setEntry _ _ _ _ _ _).map _ = _ ↔ _
      unfold setEntry
      split
      case isTrue hi =>
        rw [hi.1, hi.2, ← entry_eq, Option.mem_def.mp hentry]
        rfl
      case isFalse => rfl
    have hitsSymbol : w.OfItsSymbol cfg := ⟨hslot, hplaced.2⟩
    have hkept : ∀ {r : Registration} {port re : ℕ},
        (∃ v ∈ s.written, v.registration = r ∧ v.Covers port re) →
        ∃ v ∈ t.written, v.registration = r ∧ v.Covers port re := by
      rintro r port re ⟨v, hv, hr, hcovers⟩
      exact ⟨v, List.mem_append_left _ hv, hr, hcovers⟩
    refine { h with
      balance := fun r => ?_
      placed := fun i y c hc => ?_
      passed := fun r hr => ?_
      rewritten := fun i y c hc port re hre => ?_
      complete := fun n hn hcomplete port hport re hre => hkept (h.complete n hn hcomplete port hport re hre)
      written := fun v hv => ?_ }
    · have hb := h.balance r
      rw [standing] at hb ⊢
      simp only [hstands]
      exact hb
    · simp only [ht, setEntry] at hc
      split at hc
      case isTrue hi =>
        cases hc
        rw [hi.1, hi.2]
        exact hplaced
      case isFalse => exact h.placed i y c hc
    · obtain ⟨hq, hst⟩ := h.passed r hr
      exact ⟨hq, fun hst' => hst ((hstands r).mp hst')⟩
    · simp only [ht, setEntry] at hc
      split at hc
      case isTrue hi =>
        cases hc
        rcases (Bool.or_eq_true _ _).mp hre with hnew | hold
        · obtain ⟨rfl, hcovers⟩ := of_decide_eq_true hnew
          exact ⟨w, List.mem_append_right _ List.mem_cons_self, rfl, rfl, hcovers⟩
        · exact hkept (h.rewritten _ _ _ hentry port re hold)
      case isFalse => exact hkept (h.rewritten i y c hc port re hre)
    · rcases List.mem_append.mp hv with hv | hv
      · exact h.written v hv
      · rw [List.mem_singleton.mp hv]
        exact hitsSymbol

lemma writeSection_consistent (h : Consistent cfg s) {i : ℕ} (hC : s.Timely cfg (.writeSection i)) :
    Yields (s.writeSection cfg i) (Consistent cfg) fun _ => False := by
  unfold writeSection
  split
  case h_1 => exact h
  case h_2 job hjob =>
    split
    case h_1 => exact h
    case h_2 section_ sections hsections =>
      split
      case isTrue => exact { h with }
      case isFalse hinside =>
        have hmeets := hC job hjob section_ (by rw [hsections]; rfl) (Nat.not_le.mp hinside)
        exact writeGrid_consistent (s := { s with jobs := s.jobs.set i { job with sections } }) { h with } hmeets

lemma notify_consistent (h : Consistent cfg s) {slot : ℕ} {symbol : Symbol} {context : UplinkContext}
    (hentry : s.entry cfg slot symbol = some context) {complete : Bool}
    (hcomplete : complete = true → context.haveAllPrbsBeenWritten = true) :
    Consistent cfg (s.notify cfg slot symbol context complete) := by
  obtain ⟨hindex, hsymbol⟩ := h.placed _ _ _ hentry
  set t := s.notify cfg slot symbol context complete with ht
  have hstands : ∀ r, s.Stands cfg r ↔ r = context.registration ∨ t.Stands cfg r := by
    intro r
    rw [Stands, Stands, entry_eq, entry_eq]
    simp only [ht, notify, setEntry]
    split
    case isTrue hi =>
      rw [hi.1, hi.2, ← entry_eq, hentry]
      simp [eq_comm]
    case isFalse hi =>
      constructor
      · exact Or.inr
      · rintro (rfl | hst)
        · exact absurd ⟨hindex.symm, hsymbol.symm⟩ hi
        · exact hst
  have hgone : ¬t.Stands cfg context.registration := by
    rw [Stands, entry_eq, ← hindex, ← hsymbol]
    simp [ht, notify, setEntry]
  have hentries : ∀ i y c, t.entries i y = some c → s.entries i y = some c := by
    intro i y c hc
    simp only [ht, notify, setEntry] at hc
    split at hc
    case isTrue => cases hc
    case isFalse => exact hc
  refine { h with
    balance := fun r => ?_
    placed := fun i y c hc => h.placed i y c (hentries i y c hc)
    passed := fun r hr => ?_
    rewritten := fun i y c hc => h.rewritten i y c (hentries i y c hc)
    symbol := fun n hn => ?_
    complete := fun n hn hn' port hport re hre => ?_ }
  · have hb := h.balance r
    have hnotified : t.notifiedTimes r = s.notifiedTimes r + if context.registration = r then 1 else 0 := by
      rw [notifiedTimes, ht, notify, List.map_append, List.count_append]
      simp [notifiedTimes, List.count_singleton]
    have hstanding : s.standing cfg r = t.standing cfg r + if context.registration = r then 1 else 0 := by
      rw [standing, standing]
      by_cases hr : context.registration = r
      · subst hr
        simp [hstands, hgone]
      · simp [hstands, hr, Ne.symm hr]
    change s.registered.count r = s.queued.count r + t.standing cfg r + t.notifiedTimes r
    omega
  · obtain ⟨hq, hst⟩ := h.passed r hr
    exact ⟨hq, fun hst' => hst ((hstands r).mpr (Or.inr hst'))⟩
  · rcases List.mem_append.mp hn with hn | hn
    · exact h.symbol n hn
    · rw [List.mem_singleton.mp hn]
      exact hsymbol
  · rcases List.mem_append.mp hn with hn | hn
    · exact h.complete n hn hn' port hport re hre
    · rw [List.mem_singleton.mp hn] at hn' hport hre ⊢
      have hall := of_decide_eq_true (hcomplete hn')
      exact h.rewritten _ _ _ hentry port re (hall port hport re hre)

lemma notifyReceivedSymbol_consistent (h : Consistent cfg s) (slot : ℕ) (symbol : Symbol) :
    Consistent cfg (s.notifyReceivedSymbol cfg slot symbol) := by
  unfold notifyReceivedSymbol
  split
  case h_1 => exact h
  case h_2 context hentry =>
    split
    case isTrue hall => exact notify_consistent h hentry fun _ => hall
    case isFalse => exact h

/-- After the pass nothing of the symbol is left in the ring, and before it nothing was left in the queue. -/
lemma handleUplinkContext_consistent (h : Consistent cfg s) {slot : ℕ} {symbol : Symbol}
    (hC : s.Timely cfg (.handleUplinkContext slot symbol)) :
    Consistent cfg (s.handleUplinkContext cfg slot symbol) := by
  have hqueue : ∀ r, r.context.slot = slot → r.symbol = symbol → r ∉ s.queued := by
    intro r hslot hsymbol hr
    obtain ⟨task, htask, hr⟩ := List.mem_flatMap.mp hr
    obtain ⟨hmem, hreg⟩ := AddTask.mem_registrations.mp hr
    refine hC task htask ?_ (hsymbol ▸ hmem)
    rw [← hslot, ← hreg]
    rfl
  have hpass : ∀ t : UplinkReception, Consistent cfg t → t.queued = s.queued → t.entry cfg slot symbol = none →
      Consistent cfg { t with closed := (slot, symbol) :: t.closed } := by
    intro t ht htq hnone
    refine { ht with passed := fun r hr => ?_ }
    rcases List.mem_cons.mp hr with hr | hr
    · obtain ⟨hslot, hsymbol⟩ := Prod.mk.inj hr
      have hq := hqueue r hslot hsymbol
      rw [← htq] at hq
      refine ⟨hq, fun hst => ?_⟩
      change (t.entry cfg r.context.slot r.symbol).map _ = _ at hst
      rw [hslot, hsymbol, hnone] at hst
      cases hst
    · exact ht.passed r hr
  unfold handleUplinkContext
  split
  case h_1 hnone => exact hpass s h rfl hnone
  case h_2 context hentry =>
    refine hpass (s.notify cfg slot symbol context false) ?_ rfl ?_
    · exact notify_consistent h hentry fun hfalse => nomatch hfalse
    · simp [entry, notify, setEntry]

lemma step_consistent (h : Consistent cfg s) {e : UplinkReceptionEvent cfg} (hC : s.Timely cfg e) :
    Yields (step cfg s e) (Consistent cfg) fun _ => False := by
  cases e with
  | add context grid symbolRange => exact add_consistent h hC
  | processPendingContext => exact processPendingContext_consistent h hC
  | receive message => exact receive_consistent h message
  | writeSection i => exact writeSection_consistent h hC
  | notifyReceivedSymbol slot symbol => exact notifyReceivedSymbol_consistent h slot symbol
  | handleUplinkContext slot symbol => exact handleUplinkContext_consistent h hC

end UplinkReception

section Runs

open UplinkReception

/-- In a timely run no write meets an empty entry, each registration is notified once, with the complete flag only when
messages of its symbol have written all its grid, and no data gets into the grid of another slot. -/
theorem timely_run_notifies_exactly (cfg : UplinkRepositoryConfig) (es : List (UplinkReceptionEvent cfg))
    (h : RunsWithin (step cfg) (Timely cfg) init es) :
    (∃ t, runEvents (step cfg) init es = .ok t) ∧
    HoldsThroughout (step cfg) (NotifiedExactly cfg) init es := by
  obtain ⟨hthroughout, hrun⟩ :=
    runsWithin_yields (Consistent cfg) (fun _ _ hC hs => step_consistent hs hC) h init_consistent
  refine ⟨?_, holdsThroughout_mono (fun _ => Consistent.notifiedExactly) hthroughout⟩
  cases hres : runEvents (step cfg) init es with
  | error a => exact (hrun.of_error hres).elim
  | ok t => exact ⟨t, rfl⟩

def twoSlots : UplinkRepositoryConfig := ⟨1, 2, [7]⟩

def firstSymbol : SlotSymbolRange := ⟨⟨0, 1, by decide⟩, by decide⟩

def oneRb : SharedResourceGrid := ⟨1, 12⟩

def messageOf (slot : ℕ) : ReceivedMessage twoSlots := ⟨7, List.mem_singleton_self 7, slot, 0, [⟨0, 1⟩]⟩

theorem timely_run_notifies_exactly_both :
    let es : List (UplinkReceptionEvent twoSlots) :=
      [.add ⟨0, 0⟩ oneRb firstSymbol, .processPendingContext, .receive (messageOf 0), .writeSection 0,
        .notifyReceivedSymbol 0 0, .handleUplinkContext 0 0, .add ⟨1, 0⟩ oneRb firstSymbol, .processPendingContext,
        .handleUplinkContext 1 0]
    (∃ t, runEvents (step twoSlots) init es = .ok t) ∧
    HoldsThroughout (step twoSlots) (NotifiedExactly twoSlots) init es :=
  timely_run_notifies_exactly twoSlots _ (by decide +kernel)

/-- The window closes between the lookup of a message and its write, which then meets an empty entry; a late message for
slot 0 completes the grid of slot 2, which is notified as complete. -/
theorem uplink_symbols_confused :
    runEvents (step twoSlots) init
      [.add ⟨0, 0⟩ oneRb firstSymbol, .processPendingContext, .receive (messageOf 0), .handleUplinkContext 0 0,
        .writeSection 0] = .error .invalidResourceGrid ∧
    ∃ t, runEvents (step twoSlots) init
      [.add ⟨0, 0⟩ oneRb firstSymbol, .processPendingContext, .handleUplinkContext 0 0,
        .add ⟨2, 0⟩ oneRb firstSymbol, .processPendingContext, .receive (messageOf 0), .writeSection 0,
        .notifyReceivedSymbol 0 0] = .ok t ∧
      ⟨⟨1, 0, ⟨2, 0⟩, oneRb⟩, 0, true⟩ ∈ t.notified ∧ ¬NotifiedExactly twoSlots t := by
  refine ⟨rfl, _, rfl, by decide +kernel, fun h => ?_⟩
  have hwritten := h.written ⟨0, 0, ⟨1, 0, ⟨2, 0⟩, oneRb⟩, 0, 0, 12⟩ (by decide +kernel)
  exact absurd hwritten.1 (by decide)

end Runs

end OwlsRan.Ofh
