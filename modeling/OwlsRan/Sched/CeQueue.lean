import OwlsRan.Sched.LcFrames
import OwlsRan.Adt.LinkedRows
import Mathlib.Logic.Function.Basic

/-!
# The queues of pending CEs

The CEs of a UE are a list threaded through a table that all UEs share.
-/

namespace OwlsRan.Sched
open OwlsRan.Lib OwlsRan.Adt OwlsRan.Ran

def isTaCmd (ce : MacCeInfo) : Bool := ce.ceLcid == LcidDlSch.TA_CMD

def overwriteTaCmd (ce c : MacCeInfo) : MacCeInfo := if isTaCmd c then { c with cePayload := ce.cePayload } else c

@[simp] lemma overwriteTaCmd_ceLcid (ce c : MacCeInfo) : (overwriteTaCmd ce c).ceLcid = c.ceLcid := by
  unfold overwriteTaCmd
  split <;> rfl

@[simp] lemma isTaCmd_overwriteTaCmd (ce c : MacCeInfo) : isTaCmd (overwriteTaCmd ce c) = isTaCmd c := by
  unfold isTaCmd
  rw [overwriteTaCmd_ceLcid]

/-- Arrival at a queue that holds one TA_CMD at most: a second one replaces the payload of the first. -/
def enqueueCe (queue : List MacCeInfo) (ce : MacCeInfo) : List MacCeInfo :=
  if isTaCmd ce && queue.any isTaCmd then queue.map (overwriteTaCmd ce) else queue ++ [ce]

/-- The CEs that have arrived for a UE since its list was last cleared, and those that have been emitted. -/
structure CeLog where
  arrived : List MacCeInfo
  emitted : List MacCeInfo

namespace CeLog

def empty : CeLog := ⟨[], []⟩

def arrive (log : CeLog) (ce : MacCeInfo) : CeLog :=
  { log with arrived := log.emitted ++ enqueueCe (log.arrived.drop log.emitted.length) ce }

def emit (log : CeLog) (ce : MacCeInfo) : CeLog := { log with emitted := log.emitted ++ [ce] }

end CeLog

def ceRows (st : LogicalChannelSystem) (u : UeRow) : List Nat :=
  followRows MacCeContext.nextUeCe st.pendingCes st.pendingCes.size u.pendingCes

def ceInfos (t : SoaTable MacCeContext) (l : List Nat) : List MacCeInfo := (t.rowsOf l).map MacCeContext.info

def queuedCes (st : LogicalChannelSystem) (u : UeRow) : List MacCeInfo := ceInfos st.pendingCes (ceRows st u)

def overwritesTaCmd (st : LogicalChannelSystem) (u : UeRow) (ce : MacCeInfo) : Bool :=
  isTaCmd ce && (queuedCes st u).any isTaCmd

def ceBytes (queue : List MacCeInfo) : Nat := (queue.map fun c => ceRequiredBytes c.ceLcid).sum

lemma ceRequiredBytes_pos (lcid : LcidDlSch) : 0 < ceRequiredBytes lcid := by
  unfold ceRequiredBytes LcidDlSch.isVarLenCe FIXED_SIZED_MAC_CE_SUBHEADER_SIZE
  rw [if_neg Bool.false_ne_true]
  omega

/-- `l` is the list of the CEs of `u`, and what the UE and its bit say about it is right. -/
structure CeQueue (t : SoaTable MacCeContext) (bit : Bool) (u : UeRow) (l : List Nat) (log : CeLog) : Prop where
  linked : Linked MacCeContext.nextUeCe t u.pendingCes l
  nodup : l.Nodup
  bytes : u.pendingCeBytes = ceBytes (ceInfos t l)
  small : u.pendingCeBytes < 4294967296
  taCmd : (ceInfos t l).countP isTaCmd ≤ 1
  fifo : log.arrived = log.emitted ++ ceInfos t l
  noConRes : ∀ c ∈ ceInfos t l, c.ceLcid ≠ LcidDlSch.UE_CON_RES_ID
  bit : bit = (!l.isEmpty && !u.fallbackState)

section Queue

variable {t t' : SoaTable MacCeContext} {bit : Bool} {u : UeRow} {l : List Nat} {log : CeLog}

@[simp] lemma ceInfos_nil : ceInfos t [] = [] := rfl

variable {ctx : MacCeContext}

lemma ceInfos_cons {rid : Nat} (h : t.row? rid = some ctx) : ceInfos t (rid :: l) = ctx.info :: ceInfos t l := by
  unfold ceInfos
  rw [SoaTable.rowsOf_cons h, List.map_cons]

lemma mem_ceInfos {ce : MacCeInfo} : ce ∈ ceInfos t l ↔ ∃ r ∈ l, ∃ ctx, t.row? r = some ctx ∧ ctx.info = ce := by
  unfold ceInfos
  rw [List.mem_map]
  constructor
  · rintro ⟨ctx, hctx, rfl⟩
    obtain ⟨r, hr, hrow⟩ := SoaTable.mem_rowsOf.mp hctx
    exact ⟨r, hr, ctx, hrow, rfl⟩
  · rintro ⟨r, hr, ctx, hrow, rfl⟩
    exact ⟨ctx, SoaTable.mem_rowsOf.mpr ⟨r, hr, hrow⟩, rfl⟩

lemma ceInfos_congr (h : ∀ r ∈ l, t'.row? r = t.row? r) : ceInfos t' l = ceInfos t l := by
  unfold ceInfos
  rw [SoaTable.rowsOf_congr h]

lemma ceInfos_map {g : MacCeInfo → MacCeInfo}
    (h : ∀ r ∈ l, (t'.row? r).map MacCeContext.info = (t.row? r).map fun ctx => g ctx.info) :
    ceInfos t' l = (ceInfos t l).map g := by
  induction l with
  | nil => rfl
  | cons r rs ih =>
    have hr := h r List.mem_cons_self
    have hrs := ih fun r' hr' => h r' (List.mem_cons_of_mem _ hr')
    cases hrow : t.row? r with
    | none =>
      rw [hrow] at hr
      have hrow' : t'.row? r = none := Option.map_eq_none_iff.mp hr
      unfold ceInfos SoaTable.rowsOf at hrs ⊢
      rw [List.filterMap_cons_none hrow, List.filterMap_cons_none hrow']
      exact hrs
    | some ctx =>
      rw [hrow] at hr
      obtain ⟨ctx', hrow', hinfo⟩ := Option.map_eq_some_iff.mp hr
      rw [ceInfos_cons hrow, ceInfos_cons hrow', List.map_cons, hrs, hinfo]

lemma ceInfos_concat {rid : Nat} (h : t.row? rid = some ctx) :
    ceInfos t (l ++ [rid]) = ceInfos t l ++ [ctx.info] := by
  unfold ceInfos
  rw [SoaTable.rowsOf_append, List.map_append, SoaTable.rowsOf_cons h]
  rfl

lemma taCmd_unique (hcount : (ceInfos t l).countP isTaCmd ≤ 1) {r r' : Nat} {ctx' : MacCeContext}
    (hr : r ∈ l) (hr' : r' ∈ l) (hrow : t.row? r = some ctx) (hrow' : t.row? r' = some ctx')
    (hta : isTaCmd ctx.info = true) (hta' : isTaCmd ctx'.info = true) : r = r' := by
  induction l with
  | nil => exact absurd hr List.not_mem_nil
  | cons x xs ih =>
    have hpos : ∀ {y c}, y ∈ xs → t.row? y = some c → isTaCmd c.info = true → 0 < (ceInfos t xs).countP isTaCmd :=
      fun hy hc hta => List.countP_pos_iff.mpr ⟨_, mem_ceInfos.mpr ⟨_, hy, _, hc, rfl⟩, hta⟩
    cases hx : t.row? x with
    | none =>
      have hne : ∀ {y c}, y ∈ x :: xs → t.row? y = some c → y ∈ xs := by
        intro y c hy hc
        rcases List.mem_cons.mp hy with rfl | hy
        · rw [hx] at hc
          cases hc
        · exact hy
      unfold ceInfos SoaTable.rowsOf at hcount
      rw [List.filterMap_cons_none hx] at hcount
      exact ih hcount (hne hr hrow) (hne hr' hrow')
    | some c =>
      rw [ceInfos_cons hx, List.countP_cons] at hcount
      rcases List.mem_cons.mp hr with rfl | hin <;> rcases List.mem_cons.mp hr' with rfl | hin'
      · rfl
      · obtain rfl := Option.some.inj (hrow.symm.trans hx)
        have := hpos hin' hrow' hta'
        rw [if_pos hta] at hcount
        omega
      · obtain rfl := Option.some.inj (hrow'.symm.trans hx)
        have := hpos hin hrow hta
        rw [if_pos hta'] at hcount
        omega
      · exact ih (by omega) hin hin'

lemma CeQueue.length_le (h : CeQueue t bit u l log) : l.length ≤ t.size := SoaTable.length_le_size h.nodup h.linked.row

lemma CeQueue.congr (h : CeQueue t bit u l log) (hrows : ∀ r ∈ l, t'.row? r = t.row? r) {u' : UeRow}
    (hces : u'.pendingCes = u.pendingCes) (hbytes : u'.pendingCeBytes = u.pendingCeBytes)
    (hfallback : u'.fallbackState = u.fallbackState) : CeQueue t' bit u' l log := by
  have hinfos := ceInfos_congr hrows
  constructor
  · rw [hces]
    exact h.linked.congr hrows
  · exact h.nodup
  · rw [hbytes, hinfos]
    exact h.bytes
  · rw [hbytes]
    exact h.small
  · rw [hinfos]
    exact h.taCmd
  · rw [hinfos]
    exact h.fifo
  · rw [hinfos]
    exact h.noConRes
  · rw [hfallback]
    exact h.bit

lemma findCeSlot_spec (ceLcid : LcidDlSch) {it : Option Nat} {fuel : Nat} (h : Linked MacCeContext.nextUeCe t it l)
    (hfuel : l.length ≤ fuel) (prev : Option Nat) :
    (findCeSlot t ceLcid fuel prev it = .ok (.append (l.getLast?.or prev)) ∧
        ¬(ceLcid = LcidDlSch.TA_CMD ∧ (ceInfos t l).any isTaCmd = true)) ∨
      ∃ r ctx, findCeSlot t ceLcid fuel prev it = .ok (.overwrite r) ∧ r ∈ l ∧ t.row? r = some ctx ∧
        isTaCmd ctx.info = true ∧ ceLcid = LcidDlSch.TA_CMD := by
  induction l generalizing it fuel prev with
  | nil =>
    obtain rfl : it = none := h
    refine Or.inl ⟨?_, by simp⟩
    cases fuel <;> rfl
  | cons r rs ih =>
    obtain ⟨rfl, ctx, hctx, hrest⟩ := h
    cases fuel with
    | zero => exact absurd hfuel (Nat.not_succ_le_zero _)
    | succ fuel =>
      have hrow : rowAt t r = .ok ctx := by
        unfold rowAt
        rw [hctx]
      have hstep : findCeSlot t ceLcid (fuel + 1) prev (some r) =
          if ceLcid = LcidDlSch.TA_CMD ∧ ctx.info.ceLcid = LcidDlSch.TA_CMD then .ok (.overwrite r)
          else findCeSlot t ceLcid fuel (some r) ctx.nextUeCe := by
        conv_lhs => unfold findCeSlot
        rw [hrow]
        rfl
      rw [hstep]
      by_cases hta : ceLcid = LcidDlSch.TA_CMD ∧ ctx.info.ceLcid = LcidDlSch.TA_CMD
      · rw [if_pos hta]
        exact Or.inr ⟨r, ctx, rfl, List.mem_cons_self, hctx, by simpa [isTaCmd] using hta.2, hta.1⟩
      · rw [if_neg hta]
        rcases ih hrest (Nat.le_of_succ_le_succ hfuel) (some r) with ⟨hok, hnone⟩ | ⟨r', ctx', hok, hr', hrow', hta', hlc⟩
        · refine Or.inl ⟨?_, ?_⟩
          · rw [hok]
            cases rs with
            | nil => rfl
            | cons r' rs' =>
              rw [List.getLast?_cons_cons]
              cases hlast : (r' :: rs').getLast? with
              | none => simp at hlast
              | some x => rfl
          · rintro ⟨hlc, hany⟩
            rw [ceInfos_cons hctx, List.any_cons, Bool.or_eq_true] at hany
            rcases hany with hhere | hany
            · exact hta ⟨hlc, by simpa [isTaCmd] using hhere⟩
            · exact hnone ⟨hlc, hany⟩
        · exact Or.inr ⟨r', ctx', hok, List.mem_cons_of_mem _ hr', hrow', hta', hlc⟩

lemma eraseCes_spec {it : Option Nat} {fuel : Nat} (h : Linked MacCeContext.nextUeCe t it l) (hnodup : l.Nodup)
    (hfuel : l.length ≤ fuel) :
    ∃ t', eraseCes fuel t it = .ok t' ∧ ∀ r, t'.row? r = if r ∈ l then none else t.row? r := by
  induction l generalizing t it fuel with
  | nil =>
    obtain rfl : it = none := h
    refine ⟨t, ?_, fun r => by simp⟩
    cases fuel <;> rfl
  | cons rid rids ih =>
    obtain ⟨rfl, ctx, hctx, hrest⟩ := h
    rw [List.nodup_cons] at hnodup
    cases fuel with
    | zero => exact absurd hfuel (Nat.not_succ_le_zero _)
    | succ fuel =>
      obtain ⟨t₁, ht₁⟩ := SoaTable.erase_of_row? hctx
      have hrows := SoaTable.row?_erase ht₁
      have hlinked : Linked MacCeContext.nextUeCe t₁ ctx.nextUeCe rids := hrest.congr fun r hr => by
        rw [hrows, if_neg]
        rintro rfl
        exact hnodup.1 hr
      obtain ⟨t', hok, ht'⟩ := ih hlinked hnodup.2 (Nat.le_of_succ_le_succ hfuel)
      refine ⟨t', ?_, fun r => ?_⟩
      · unfold eraseCes rowAt
        rw [hctx]
        simp only [bind_eq_ok]
        exact ⟨ctx, rfl, (t₁, true), mapError_eq_ok.mpr ht₁, hok⟩
      · rw [ht', hrows]
        by_cases hr : r = rid <;> by_cases hr' : r ∈ rids <;> simp [hr, hr']

end Queue

end OwlsRan.Sched
