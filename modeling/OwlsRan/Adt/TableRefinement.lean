import Mathlib.Logic.Function.Basic
import OwlsRan.Adt.SoaTable
import OwlsRan.Lib.EventRun

/-!
# `soa::table` as a finite map

Sequences of `insert`, `erase` and `clear`.
-/

namespace OwlsRan.Adt

open OwlsRan.Lib

namespace TableData

variable {α : Type}

def rowAt (t : TableData α) (rid : Nat) : Except TableAbort α :=
  if t.hasRowId rid then
    match t.indexMap[rid]?.bind fun offset => t.columns[offset]? with
    | some row => .ok row
    | none => .error .invalidRowId
  else .error .invalidRowId

def size (t : TableData α) : Nat := t.indexReverseMap.length

/-- The ids and rows that an iterator from `begin` to `end` visits. -/
def rows (t : TableData α) : List (Nat × α) := t.indexReverseMap.zip t.columns

def clear (t : TableData α) : TableData α :=
  { t with columns := [], indexMap := [], indexReverseMap := [], freeListHead := 0 }

/-- `erase` in a build with or without sanity checks. -/
def eraseIn (sanityChecks : Bool) (t : TableData α) (rid : Nat) : Except TableAbort (TableData α × Bool) :=
  match t.indexMap[rid]? with
  | none => .ok (t, false)
  | some offset =>
    if t.indexReverseMap.length ≤ offset then .ok (t, false)
    else if sanityChecks ∧ t.indexReverseMap[offset]? ≠ some rid then .error .invalidRowId
    else
      let moved := match t.indexReverseMap.getLast? with
        | some last => t.indexMap.set last offset
        | none => t.indexMap
      .ok ({ columns := moveLastTo t.columns offset
             indexMap := moved.set rid t.freeListHead
             indexReverseMap := moveLastTo t.indexReverseMap offset
             freeListHead := rid }, true)

end TableData

inductive TableCall (α : Type) where
  | insert (row : α)
  | erase (rid : Nat)
  | clear

inductive TableAnswer where
  | inserted (rid : Nat)
  | erased (found : Bool)
  | cleared
deriving DecidableEq

namespace TableCall

variable {α : Type}

def call (sanityChecks : Bool) (t : TableData α) : TableCall α → Except TableAbort (TableData α × TableAnswer)
  | .insert row => .ok (t.insert row, .inserted t.freeListHead)
  | .erase rid => (t.eraseIn sanityChecks rid).map fun (t', found) => (t', .erased found)
  | .clear => .ok (t.clear, .cleared)

def step (sanityChecks : Bool) (t : TableData α) (c : TableCall α) : Except TableAbort (TableData α) :=
  (c.call sanityChecks t).map Prod.fst

/-- What the calls mean for a map from ids to rows. The id of an inserted row is any id that is not present. -/
inductive Means (m : Nat → Option α) : TableCall α → TableAnswer → (Nat → Option α) → Prop
  | insert (row : α) (rid : Nat) (hfresh : m rid = none) :
      Means m (.insert row) (.inserted rid) (Function.update m rid (some row))
  | erase (rid : Nat) : Means m (.erase rid) (.erased (m rid).isSome) (Function.update m rid none)
  | clear : Means m .clear .cleared fun _ => none

structure Shows (t : TableData α) (m : Nat → Option α) : Prop where
  rowAt : ∀ rid row, t.rowAt rid = .ok row ↔ m rid = some row
  hasRowId : ∀ rid, t.hasRowId rid = (m rid).isSome
  rows : ∀ rid row, (rid, row) ∈ t.rows ↔ m rid = some row
  once : (t.rows.map Prod.fst).Nodup
  size : t.size = t.rows.length

def Refines (sanityChecks : Bool) : TableData α → (Nat → Option α) → List (TableCall α) → Prop
  | t, m, [] => Shows t m
  | t, m, c :: cs => Shows t m ∧
    ∃ t' answer m', c.call sanityChecks t = .ok (t', answer) ∧ Means m c answer m' ∧ Refines sanityChecks t' m' cs

/-- The id to erase is present, was never issued, or is linked to an id that is no offset of a row. -/
def LinkHarmless (t : TableData α) : TableCall α → Prop
  | .erase rid => t.hasRowId rid = true ∨ ∀ link ∈ t.indexMap[rid]?, t.size ≤ link
  | _ => True

instance (t : TableData α) : ∀ c : TableCall α, Decidable (LinkHarmless t c)
  | .insert _ => isTrue trivial
  | .erase rid => inferInstanceAs (Decidable (t.hasRowId rid = true ∨ ∀ link ∈ t.indexMap[rid]?, t.size ≤ link))
  | .clear => isTrue trivial

end TableCall

section Reading

variable {α : Type} {t : TableData α} {rid : Nat}

namespace TableData

lemma hasRowId_iff : t.hasRowId rid = true ↔
    ∃ offset, t.indexMap[rid]? = some offset ∧ t.indexReverseMap[offset]? = some rid := by
  unfold hasRowId
  cases t.indexMap[rid]? with
  | none => simp
  | some offset => simp

lemma WellFormed.hasRowId_iff_mem (h : t.WellFormed) : t.hasRowId rid = true ↔ rid ∈ t.indexReverseMap := by
  rw [hasRowId_iff]
  constructor
  · rintro ⟨offset, -, hrev⟩
    exact List.mem_of_getElem? hrev
  · intro hmem
    obtain ⟨offset, hrev⟩ := List.mem_iff_getElem?.mp hmem
    exact ⟨offset, h.offset offset rid hrev, hrev⟩

lemma WellFormed.isSome_row? (h : t.WellFormed) : (t.row? rid).isSome = t.hasRowId rid := by
  rw [Bool.eq_iff_iff, h.hasRowId_iff_mem, Option.isSome_iff_ne_none, ne_eq, h.row?_eq_none_iff, not_not]

lemma rowAt_eq_ok_iff {row : α} : t.rowAt rid = .ok row ↔ t.row? rid = some row := by
  unfold rowAt row?
  cases hidx : t.indexMap[rid]? with
  | none => simp [hasRowId, hidx]
  | some offset =>
    by_cases hrev : t.indexReverseMap[offset]? = some rid
    · rw [if_pos (hasRowId_iff.mpr ⟨offset, hidx, hrev⟩)]
      dsimp only [Option.bind_some]
      rw [if_pos hrev]
      cases t.columns[offset]? <;> simp
    · have hnot : ¬ t.hasRowId rid = true := by
        rw [hasRowId_iff]
        rintro ⟨offset', hidx', hrev'⟩
        obtain rfl := Option.some.inj (hidx.symm.trans hidx')
        exact hrev hrev'
      rw [if_neg hnot]
      dsimp only
      rw [if_neg hrev]
      simp

lemma WellFormed.mem_rows_iff (h : t.WellFormed) {row : α} : (rid, row) ∈ t.rows ↔ t.row? rid = some row := by
  rw [h.row?_eq_some_iff, List.mem_iff_getElem?]
  apply exists_congr
  intro offset
  unfold rows
  rw [List.getElem?_zip_eq_some]

lemma WellFormed.nodup_reverse (h : t.WellFormed) : t.indexReverseMap.Nodup := by
  rw [List.nodup_iff_getElem?_ne_getElem?]
  intro i j hij hj heq
  have hrev : t.indexReverseMap[j]? = some t.indexReverseMap[j] := List.getElem?_eq_getElem hj
  have := h.offset_inj (heq.trans hrev) hrev
  omega

lemma WellFormed.shows (h : t.WellFormed) : TableCall.Shows t t.row? where
  rowAt _ _ := rowAt_eq_ok_iff
  hasRowId _ := h.isSome_row?.symm
  rows _ _ := h.mem_rows_iff
  once := by
    unfold rows
    rw [List.map_fst_zip (Nat.le_of_eq h.columns.symm)]
    exact h.nodup_reverse
  size := by
    unfold rows size
    rw [List.length_zip, h.columns, Nat.min_self]

lemma eraseIn_true : t.eraseIn true rid = t.erase rid := by
  unfold eraseIn erase
  cases t.indexMap[rid]? with
  | none => rfl
  | some offset =>
    have hchecked : (true = true ∧ t.indexReverseMap[offset]? ≠ some rid) ↔ t.indexReverseMap[offset]? ≠ some rid :=
      and_iff_right rfl
    exact if_congr Iff.rfl rfl (if_congr hchecked rfl rfl)

lemma eraseIn_eq (h : TableCall.LinkHarmless t (.erase rid)) (sanityChecks : Bool) :
    t.eraseIn sanityChecks rid = t.erase rid := by
  rw [← eraseIn_true]
  unfold eraseIn
  cases hidx : t.indexMap[rid]? with
  | none => rfl
  | some offset =>
    dsimp only
    by_cases hge : t.indexReverseMap.length ≤ offset
    · rw [if_pos hge, if_pos hge]
    · have hlive : t.hasRowId rid = true := by
        rcases h with hlive | hlink
        · exact hlive
        · exact absurd (hlink offset hidx) hge
      obtain ⟨offset', hidx', hrev⟩ := hasRowId_iff.mp hlive
      obtain rfl := Option.some.inj (hidx.symm.trans hidx')
      simp [hrev]

end TableData

end Reading

namespace TableCall

open TableData

variable {α : Type} {t : TableData α} {m : Nat → Option α}

lemma Shows.row? (hwf : t.WellFormed) (h : Shows t m) : m = t.row? := by
  funext rid
  apply Option.ext
  intro row
  rw [← h.rows rid row, hwf.mem_rows_iff]

lemma call_means (hwf : t.WellFormed) {c : TableCall α} (h : LinkHarmless t c) (sanityChecks : Bool) :
    ∃ t' answer, c.call sanityChecks t = .ok (t', answer) ∧ t'.WellFormed ∧ Means t.row? c answer t'.row? := by
  cases c with
  | insert row =>
    refine ⟨_, _, rfl, insert_wellFormed hwf row, ?_⟩
    have hrow : (t.insert row).row? = Function.update t.row? t.freeListHead (some row) := by
      funext rid
      rw [row?_insert hwf, Function.update_apply]
    rw [hrow]
    exact .insert row t.freeListHead hwf.head_fresh
  | erase rid =>
    have hanswer : ∃ t', t.erase rid = .ok (t', t.hasRowId rid) := by
      cases hlive : t.hasRowId rid with
      | true =>
        rw [← hwf.isSome_row?, Option.isSome_iff_exists] at hlive
        obtain ⟨row, hrow⟩ := hlive
        exact erase_of_row? hwf hrow
      | false =>
        have hlink : ∀ link ∈ t.indexMap[rid]?, t.size ≤ link := by
          rcases h with hlive' | hlink
          · rw [hlive] at hlive'
            cases hlive'
          · exact hlink
        refine ⟨t, ?_⟩
        unfold TableData.erase
        cases hidx : t.indexMap[rid]? with
        | none => rfl
        | some offset => exact if_pos (hlink offset hidx)
    obtain ⟨t', ht'⟩ := hanswer
    have hwf' := erase_wellFormed hwf ht'
    have hrow : t'.row? = Function.update t.row? rid none := by
      funext r
      rw [row?_erase hwf ht', Function.update_apply]
    refine ⟨t', .erased (t.hasRowId rid), ?_, hwf', ?_⟩
    · dsimp only [call]
      rw [eraseIn_eq h, ht']
      rfl
    · rw [hrow, ← hwf.isSome_row?]
      exact .erase rid
  | clear =>
    have hrow : t.clear.row? = fun _ => none := by
      funext rid
      simp [TableData.row?, TableData.clear]
    refine ⟨_, _, rfl, empty_wellFormed, ?_⟩
    rw [hrow]
    exact .clear

lemma Means.erase_answer {rid : Nat} {answer : TableAnswer} {m' : Nat → Option α}
    (h : Means m (.erase rid) answer m') : answer = .erased (m rid).isSome := by
  cases h
  rfl

/-- A call that is not harmless goes wrong: it stops, or it answers that an absent id was erased. -/
lemma call_not_means (hwf : t.WellFormed) {c : TableCall α} (h : ¬ LinkHarmless t c) {sanityChecks : Bool}
    {t' : TableData α} {answer : TableAnswer} (hcall : c.call sanityChecks t = .ok (t', answer))
    {m' : Nat → Option α} : ¬ Means t.row? c answer m' := by
  cases c with
  | insert row => exact absurd trivial h
  | clear => exact absurd trivial h
  | erase rid =>
    have hdead : ¬ t.hasRowId rid = true := fun hlive => h (Or.inl hlive)
    have hlink : ∃ link ∈ t.indexMap[rid]?, ¬ t.size ≤ link := by
      by_contra hnone
      apply h
      right
      intro link hlink
      by_contra hlt
      exact hnone ⟨link, hlink, hlt⟩
    obtain ⟨link, hidx, hlt⟩ := hlink
    dsimp only [call, eraseIn] at hcall
    rw [Option.mem_def.mp hidx] at hcall
    dsimp only at hcall
    rw [if_neg (show ¬ t.indexReverseMap.length ≤ link from hlt)] at hcall
    have hanswer : answer = .erased true := by
      split at hcall
      · cases hcall
      · cases hcall
        rfl
    intro hmeans
    have hfound := hmeans.erase_answer
    rw [hanswer, hwf.isSome_row?] at hfound
    injection hfound with hfound
    exact hdead hfound.symm

lemma refines_iff (hwf : t.WellFormed) (sanityChecks : Bool) (calls : List (TableCall α)) :
    Refines sanityChecks t t.row? calls ↔ RunsWithin (step sanityChecks) LinkHarmless t calls := by
  induction calls generalizing t with
  | nil => exact iff_of_true hwf.shows trivial
  | cons c cs ih =>
    unfold Refines RunsWithin
    by_cases h : LinkHarmless t c
    · obtain ⟨t₁, answer₁, hcall₁, hwf₁, hmeans₁⟩ := call_means hwf h sanityChecks
      have hstep : step sanityChecks t c = .ok t₁ := by
        unfold step
        rw [hcall₁]
        rfl
      constructor
      · rintro ⟨-, t', answer, m', hcall, hmeans, hrest⟩
        refine ⟨h, fun t'' ht'' => ?_⟩
        rw [hstep] at ht''
        rw [hcall₁] at hcall
        obtain rfl := Except.ok.inj ht''
        obtain ⟨rfl, rfl⟩ := Prod.mk.inj (Except.ok.inj hcall)
        rw [← ih hwf₁]
        have hshows : Shows t₁ m' := by
          cases cs with
          | nil => exact hrest
          | cons => exact hrest.1
        rw [← hshows.row? hwf₁]
        exact hrest
      · rintro ⟨-, hrest⟩
        exact ⟨hwf.shows, t₁, answer₁, t₁.row?, hcall₁, hmeans₁, (ih hwf₁).mpr (hrest t₁ hstep)⟩
    · apply iff_of_false
      · rintro ⟨-, t', answer, m', hcall, hmeans, -⟩
        exact call_not_means hwf h hcall hmeans
      · exact fun hrun => h hrun.1

lemma row?_empty : (TableData.empty : TableData α).row? = fun _ => none := by
  funext rid
  simp [TableData.row?, TableData.empty]

/-- The table refines the map in exactly the sequences of calls in which no freed id is erased whose link is the offset
of a row, with and without sanity checks. -/
theorem table_refines_map_iff (sanityChecks : Bool) (calls : List (TableCall α)) :
    Refines sanityChecks (TableData.empty : TableData α) (fun _ => none) calls ↔
      RunsWithin (step sanityChecks) LinkHarmless (TableData.empty : TableData α) calls := by
  rw [← row?_empty]
  exact refines_iff empty_wellFormed sanityChecks calls

def erasedTwice : List (TableCall Nat) := [.insert 10, .insert 11, .insert 12, .erase 0, .erase 2, .erase 2]

/-- The link of the freed id is the offset of the row that is left: the last call stops, or it erases that row. -/
theorem table_not_refines_map :
    ¬ Refines true (TableData.empty : TableData Nat) (fun _ => none) erasedTwice ∧
      ¬ Refines false (TableData.empty : TableData Nat) (fun _ => none) erasedTwice ∧
      (runEvents (step true) TableData.empty erasedTwice).isOk = false ∧
      (runEvents (step false) TableData.empty (erasedTwice.take 5)).map (TableData.rowAt · 1) = .ok (.ok 11) ∧
      (runEvents (step false) TableData.empty erasedTwice).map TableData.rows = .ok [] := by
  have hharmful : ∀ sanityChecks, ¬ RunsWithin (step sanityChecks) LinkHarmless TableData.empty erasedTwice := by
    decide
  rw [← row?_empty, refines_iff empty_wellFormed, refines_iff empty_wellFormed]
  exact ⟨hharmful true, hharmful false, rfl, rfl, rfl⟩

end TableCall

end OwlsRan.Adt
