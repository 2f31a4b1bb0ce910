import OwlsRan.Lib.Outcome
import Mathlib.Data.List.Basic
import Mathlib.Data.List.Nodup

/-!
# `soa::table`

Rows are stored densely; a row id is looked up through `indexMap`, whose unused entries link the free ids.
-/

namespace OwlsRan.Adt

inductive TableAbort where
  | invalidRowId
deriving DecidableEq

/-- The members of `soa::table`, with the columns zipped into one list of rows. -/
structure TableData (α : Type) where
  columns : List α
  indexMap : List Nat
  indexReverseMap : List Nat
  freeListHead : Nat

namespace TableData

variable {α : Type}

def empty : TableData α := ⟨[], [], [], 0⟩

def hasRowId (t : TableData α) (rid : Nat) : Bool :=
  match t.indexMap[rid]? with
  | none => false
  | some offset => t.indexReverseMap[offset]? == some rid

def row? (t : TableData α) (rid : Nat) : Option α :=
  match t.indexMap[rid]? with
  | none => none
  | some offset => if t.indexReverseMap[offset]? = some rid then t.columns[offset]? else none

def insert (t : TableData α) (row : α) : TableData α :=
  let offset := t.indexReverseMap.length
  let rid := t.freeListHead
  match t.indexMap[rid]? with
  | some next =>
    { columns := t.columns ++ [row]
      indexMap := t.indexMap.set rid offset
      indexReverseMap := t.indexReverseMap ++ [rid]
      freeListHead := next }
  | none =>
    { columns := t.columns ++ [row]
      indexMap := t.indexMap ++ [offset]
      indexReverseMap := t.indexReverseMap ++ [rid]
      freeListHead := rid + 1 }

/-- `l[offset] = l.back(); l.pop_back()`. The source leaves the assignment out when `offset` is the last one. -/
def moveLastTo {β : Type} (l : List β) (offset : Nat) : List β :=
  match l.getLast? with
  | none => l
  | some x => (l.set offset x).dropLast

def erase (t : TableData α) (rid : Nat) : Except TableAbort (TableData α × Bool) :=
  match t.indexMap[rid]? with
  | none => .ok (t, false)
  | some offset =>
    if t.indexReverseMap.length ≤ offset then .ok (t, false)
    else if t.indexReverseMap[offset]? ≠ some rid then .error .invalidRowId
    else
      let moved := match t.indexReverseMap.getLast? with
        | some last => t.indexMap.set last offset
        | none => t.indexMap
      .ok ({ columns := moveLastTo t.columns offset
             indexMap := moved.set rid t.freeListHead
             indexReverseMap := moveLastTo t.indexReverseMap offset
             freeListHead := rid }, true)

/-- Writing through `row(rid).at<..>()`. -/
def modify (t : TableData α) (rid : Nat) (f : α → α) : TableData α :=
  match t.indexMap[rid]? with
  | none => t
  | some offset =>
    if t.indexReverseMap[offset]? = some rid then { t with columns := t.columns.modify offset f } else t

def mapRows {ε : Type} (t : TableData α) (f : α → Except ε α) : Except ε (TableData α) := do
  let columns ← t.columns.mapM f
  .ok { t with columns := columns }

/-- The free ids, linked from `head` through the index map. -/
def FreeChain (indexMap : List Nat) : Nat → List Nat → Prop
  | head, [] => head = indexMap.length
  | head, rid :: rids => head = rid ∧ ∃ next, indexMap[rid]? = some next ∧ FreeChain indexMap next rids

structure WellFormed (t : TableData α) : Prop where
  columns : t.columns.length = t.indexReverseMap.length
  offset : ∀ off rid : Nat, t.indexReverseMap[off]? = some rid → t.indexMap[rid]? = some off
  free : ∃ l : List Nat, FreeChain t.indexMap t.freeListHead l ∧ l.Nodup ∧
    ∀ rid : Nat, rid ∈ l ↔ rid < t.indexMap.length ∧ rid ∉ t.indexReverseMap

section Lemmas

variable {t : TableData α} {rid : Nat}

lemma freeChain_congr {m m' : List Nat} {head : Nat} {l : List Nat} (hlen : m'.length = m.length)
    (hsame : ∀ r ∈ l, m'[r]? = m[r]?) (h : FreeChain m head l) : FreeChain m' head l := by
  induction l generalizing head with
  | nil => exact h.trans hlen.symm
  | cons r rs ih =>
    obtain ⟨hr, next, hnext, hrest⟩ := h
    exact ⟨hr, next, (hsame r List.mem_cons_self).trans hnext,
      ih (fun r' hr' => hsame r' (List.mem_cons_of_mem r hr')) hrest⟩

lemma empty_wellFormed : (empty : TableData α).WellFormed :=
  ⟨rfl, fun _ _ h => by simp [empty] at h, [], rfl, List.nodup_nil, fun _ => by simp [empty]⟩

lemma WellFormed.offset_inj (h : t.WellFormed) {i j : Nat} (hi : t.indexReverseMap[i]? = some rid)
    (hj : t.indexReverseMap[j]? = some rid) : i = j :=
  Option.some.inj ((h.offset i rid hi).symm.trans (h.offset j rid hj))

lemma WellFormed.row?_eq_some_iff (h : t.WellFormed) {a : α} :
    t.row? rid = some a ↔ ∃ off : Nat, t.indexReverseMap[off]? = some rid ∧ t.columns[off]? = some a := by
  unfold row?
  constructor
  · intro hrow
    split at hrow
    case h_1 => cases hrow
    case h_2 off hoff =>
      split at hrow
      case isTrue hrev => exact ⟨off, hrev, hrow⟩
      case isFalse => cases hrow
  · rintro ⟨off, hrev, hcol⟩
    rw [h.offset off rid hrev]
    dsimp only
    rw [if_pos hrev]
    exact hcol

lemma WellFormed.row?_eq_none_iff (h : t.WellFormed) : t.row? rid = none ↔ rid ∉ t.indexReverseMap := by
  constructor
  · intro hrow hmem
    obtain ⟨off, hlt, hoff⟩ := List.mem_iff_getElem.mp hmem
    have hcol : off < t.columns.length := by
      rw [h.columns]
      exact hlt
    have hsome : t.row? rid = some t.columns[off] :=
      h.row?_eq_some_iff.mpr ⟨off, by simp [hlt, hoff], by simp [hcol]⟩
    rw [hrow] at hsome
    cases hsome
  · intro hmem
    cases hrow : t.row? rid with
    | none => rfl
    | some a =>
      obtain ⟨off, hrev, -⟩ := h.row?_eq_some_iff.mp hrow
      exact absurd (List.mem_of_getElem? hrev) hmem

lemma WellFormed.head_fresh (h : t.WellFormed) : t.row? t.freeListHead = none := by
  rw [h.row?_eq_none_iff]
  obtain ⟨l, hchain, -, hmem⟩ := h.free
  cases l with
  | nil =>
    intro hin
    obtain ⟨off, hlt, hoff⟩ := List.mem_iff_getElem.mp hin
    have hidx := h.offset off t.freeListHead (by simp [hlt, hoff])
    have := (List.getElem?_eq_some_iff.mp hidx).1
    have hhead : t.freeListHead = t.indexMap.length := hchain
    omega
  | cons r rs =>
    have hhead : t.freeListHead = r := hchain.1
    rw [hhead]
    exact ((hmem r).mp List.mem_cons_self).2

lemma WellFormed.chain_cases (h : t.WellFormed) :
    (t.freeListHead = t.indexMap.length ∧ ∀ r < t.indexMap.length, r ∈ t.indexReverseMap) ∨
      ∃ next rs, t.indexMap[t.freeListHead]? = some next ∧ FreeChain t.indexMap next rs ∧
        t.freeListHead ∉ rs ∧ rs.Nodup ∧
        ∀ r : Nat, (r = t.freeListHead ∨ r ∈ rs) ↔ r < t.indexMap.length ∧ r ∉ t.indexReverseMap := by
  obtain ⟨l, hchain, hnodup, hmem⟩ := h.free
  cases l with
  | nil =>
    refine Or.inl ⟨hchain, fun r hr => ?_⟩
    by_contra hnot
    exact List.not_mem_nil ((hmem r).mpr ⟨hr, hnot⟩)
  | cons r rs =>
    obtain ⟨hhead, next, hnext, hrest⟩ := hchain
    rw [List.nodup_cons] at hnodup
    rw [← hhead] at hnext hnodup
    refine Or.inr ⟨next, rs, hnext, hrest, hnodup.1, hnodup.2, fun r' => ?_⟩
    rw [← hmem r', List.mem_cons, hhead]

lemma insert_wellFormed (h : t.WellFormed) (a : α) : (t.insert a).WellFormed := by
  have hfresh := h.row?_eq_none_iff.mp h.head_fresh
  have hlast : ∀ off rid : Nat, (t.indexReverseMap ++ [t.freeListHead])[off]? = some rid →
      (t.indexReverseMap[off]? = some rid ∧ rid ≠ t.freeListHead) ∨
        (off = t.indexReverseMap.length ∧ rid = t.freeListHead) := by
    intro off rid hoff
    rw [List.getElem?_append] at hoff
    split at hoff
    case isTrue =>
      refine Or.inl ⟨hoff, ?_⟩
      rintro rfl
      exact hfresh (List.mem_of_getElem? hoff)
    case isFalse hge =>
      rw [List.getElem?_singleton] at hoff
      split at hoff
      case isTrue heq => exact Or.inr ⟨by omega, (Option.some.inj hoff).symm⟩
      case isFalse => cases hoff
  unfold insert
  dsimp only
  rcases h.chain_cases with ⟨hhead, hall⟩ | ⟨next, rs, hnext, hchain, hnot, hnodup, hmem⟩
  · have hnone : t.indexMap[t.freeListHead]? = none := by simp [hhead]
    rw [hnone]
    refine ⟨by simp [h.columns], fun off rid hoff => ?_, [], ?_, List.nodup_nil, fun rid => ?_⟩
    · dsimp only at hoff ⊢
      rw [List.getElem?_append]
      rcases hlast off rid hoff with ⟨hold, -⟩ | ⟨rfl, rfl⟩
      · have hidx := h.offset off rid hold
        rw [if_pos (List.getElem?_eq_some_iff.mp hidx).1]
        exact hidx
      · rw [if_neg (by omega), hhead, Nat.sub_self]
        rfl
    · simp [FreeChain, hhead]
    · dsimp only
      simp only [List.not_mem_nil, List.length_append, List.length_singleton, List.mem_append, List.mem_singleton,
        false_iff, not_and, not_not]
      intro hlt
      by_cases hr : rid < t.indexMap.length
      · exact Or.inl (hall rid hr)
      · exact Or.inr (by omega)
  · have hlt := (List.getElem?_eq_some_iff.mp hnext).1
    rw [hnext]
    refine ⟨by simp [h.columns], fun off rid hoff => ?_, rs, ?_, hnodup, fun rid => ?_⟩
    · dsimp only at hoff ⊢
      rcases hlast off rid hoff with ⟨hold, hne⟩ | ⟨rfl, rfl⟩
      · rw [List.getElem?_set_ne (Ne.symm hne)]
        exact h.offset off rid hold
      · rw [List.getElem?_set_self hlt]
    · refine freeChain_congr (by simp) (fun r hr => ?_) hchain
      rw [List.getElem?_set_ne]
      rintro rfl
      exact hnot hr
    · dsimp only
      have := hmem rid
      rw [List.length_set, List.mem_append, List.mem_singleton]
      constructor
      · intro hr
        have hold := this.mp (Or.inr hr)
        refine ⟨hold.1, ?_⟩
        rintro (hin | rfl)
        · exact hold.2 hin
        · exact hnot hr
      · rintro ⟨hr, hout⟩
        rcases this.mpr ⟨hr, fun hin => hout (Or.inl hin)⟩ with rfl | hin
        · exact absurd (Or.inr rfl) hout
        · exact hin

lemma row?_insert (h : t.WellFormed) (a : α) :
    (t.insert a).row? rid = if rid = t.freeListHead then some a else t.row? rid := by
  have hwf := insert_wellFormed h a
  have hrev : (t.insert a).indexReverseMap = t.indexReverseMap ++ [t.freeListHead] := by
    unfold insert
    dsimp only
    split <;> rfl
  have hcols : (t.insert a).columns = t.columns ++ [a] := by
    unfold insert
    dsimp only
    split <;> rfl
  apply Option.ext
  intro b
  rw [hwf.row?_eq_some_iff, hrev, hcols]
  have hlen := h.columns
  split
  case isTrue heq =>
    subst heq
    constructor
    · rintro ⟨off, hoff, hcol⟩
      have : off = t.indexReverseMap.length := by
        have hidx := hwf.offset off t.freeListHead (by rw [hrev]; exact hoff)
        have hidx' := hwf.offset t.indexReverseMap.length t.freeListHead (by rw [hrev]; simp)
        exact Option.some.inj (hidx.symm.trans hidx')
      subst this
      rw [← hlen] at hcol
      simpa using hcol
    · intro hb
      obtain rfl := Option.some.inj hb
      exact ⟨t.indexReverseMap.length, by simp, by rw [← hlen]; simp⟩
  case isFalse hne =>
    rw [h.row?_eq_some_iff]
    constructor
    · rintro ⟨off, hoff, hcol⟩
      by_cases hlt : off < t.indexReverseMap.length
      · rw [List.getElem?_append_left hlt] at hoff
        rw [List.getElem?_append_left (by omega)] at hcol
        exact ⟨off, hoff, hcol⟩
      · rw [List.getElem?_append_right (by omega), List.getElem?_singleton] at hoff
        split at hoff
        case isTrue => exact absurd (Option.some.inj hoff).symm hne
        case isFalse => cases hoff
    · rintro ⟨off, hoff, hcol⟩
      have hlt := (List.getElem?_eq_some_iff.mp hoff).1
      refine ⟨off, ?_, ?_⟩
      · rw [List.getElem?_append_left hlt]
        exact hoff
      · rw [List.getElem?_append_left (by omega)]
        exact hcol

variable {β ε : Type}

lemma length_moveLastTo (l : List β) (offset : Nat) : (moveLastTo l offset).length = l.length - 1 := by
  unfold moveLastTo
  split
  case h_1 hlast => simp [List.getLast?_eq_none_iff.mp hlast]
  case h_2 => simp

lemma getElem?_moveLastTo {l : List β} {offset : Nat} (h : offset < l.length) (i : Nat) :
    (moveLastTo l offset)[i]? =
      if i + 1 < l.length then (if i = offset then l[l.length - 1]? else l[i]?) else none := by
  have hlast : l.length - 1 < l.length := by omega
  unfold moveLastTo
  rw [List.getLast?_eq_getElem?, List.getElem?_eq_getElem hlast]
  dsimp only
  rw [List.getElem?_dropLast, List.length_set]
  by_cases hi : i + 1 < l.length
  · rw [if_pos (by omega), if_pos hi]
    by_cases hio : i = offset
    · rw [if_pos hio, hio, List.getElem?_set_self h]
    · rw [if_neg hio, List.getElem?_set_ne (Ne.symm hio)]
  · rw [if_neg (by omega), if_neg hi]

/-- Moving the last place onto `offset` drops exactly the id at `offset`, in the reverse map and in any column. -/
lemma exists_moveLastTo_iff {rev : List Nat} (cols : List β) (hlen : cols.length = rev.length)
    (hinj : ∀ i j r : Nat, rev[i]? = some r → rev[j]? = some r → i = j) {offset : Nat}
    (hoff : rev[offset]? = some rid) {r : Nat} {b : β} :
    (∃ i : Nat, (moveLastTo rev offset)[i]? = some r ∧ (moveLastTo cols offset)[i]? = some b) ↔
      r ≠ rid ∧ ∃ i : Nat, rev[i]? = some r ∧ cols[i]? = some b := by
  have hlt := (List.getElem?_eq_some_iff.mp hoff).1
  have hlt' : offset < cols.length := by omega
  simp only [getElem?_moveLastTo hlt, getElem?_moveLastTo hlt', hlen]
  constructor
  · rintro ⟨i, hr, hb⟩
    by_cases hi : i + 1 < rev.length
    · rw [if_pos hi] at hr hb
      by_cases hio : i = offset
      · rw [if_pos hio] at hr hb
        refine ⟨?_, rev.length - 1, hr, hb⟩
        rintro rfl
        have := hinj _ _ r hr hoff
        omega
      · rw [if_neg hio] at hr hb
        refine ⟨?_, i, hr, hb⟩
        rintro rfl
        exact hio (hinj _ _ r hr hoff)
    · rw [if_neg hi] at hr
      cases hr
  · rintro ⟨hne, i, hr, hb⟩
    have hi := (List.getElem?_eq_some_iff.mp hr).1
    have hio : i ≠ offset := by
      rintro rfl
      exact hne (Option.some.inj (hr.symm.trans hoff))
    by_cases hlast : i = rev.length - 1
    · refine ⟨offset, ?_, ?_⟩ <;> rw [if_pos (by omega), if_pos rfl, ← hlast] <;> assumption
    · refine ⟨i, ?_, ?_⟩ <;> rw [if_pos (by omega), if_neg hio] <;> assumption

/-- What `erase` does when it returns: nothing on an id that is not in the table, else it moves the last row into
the place of the erased one. -/
lemma erase_cases {t' : TableData α} {b : Bool} (h : t.erase rid = .ok (t', b)) :
    (t' = t ∧ b = false ∧ t.row? rid = none) ∨
      ∃ offset last, t.indexMap[rid]? = some offset ∧ t.indexReverseMap[offset]? = some rid ∧
        t.indexReverseMap.getLast? = some last ∧ b = true ∧
        t' = { columns := moveLastTo t.columns offset
               indexMap := (t.indexMap.set last offset).set rid t.freeListHead
               indexReverseMap := moveLastTo t.indexReverseMap offset
               freeListHead := rid } := by
  unfold erase at h
  split at h
  case h_1 hnone =>
    cases h
    exact Or.inl ⟨rfl, rfl, by unfold row?; rw [hnone]⟩
  case h_2 offset hoffset =>
    split at h
    case isTrue hge =>
      cases h
      refine Or.inl ⟨rfl, rfl, ?_⟩
      unfold row?
      rw [hoffset]
      dsimp only
      rw [if_neg (by simp [hge])]
    case isFalse hlt =>
      split at h
      case isTrue => cases h
      case isFalse hrev =>
        rw [not_not] at hrev
        have hne : t.indexReverseMap ≠ [] := List.ne_nil_of_length_pos (by omega)
        have hlast := List.getLast?_eq_some_getLast hne
        rw [hlast] at h
        injection h with h
        injection h with ht hb
        exact Or.inr ⟨offset, _, hoffset, hrev, hlast, hb.symm, ht.symm⟩

lemma erase_wellFormed (h : t.WellFormed) {t' : TableData α} {b : Bool} (he : t.erase rid = .ok (t', b)) :
    t'.WellFormed := by
  rcases erase_cases he with ⟨rfl, -, -⟩ | ⟨offset, last, hidx, hrev, hlast, -, rfl⟩
  · exact h
  have hinj : ∀ i j r : Nat, t.indexReverseMap[i]? = some r → t.indexReverseMap[j]? = some r → i = j :=
    fun i j r => h.offset_inj
  have hlt := (List.getElem?_eq_some_iff.mp hrev).1
  have hrid := (List.getElem?_eq_some_iff.mp hidx).1
  rw [List.getLast?_eq_getElem?] at hlast
  have hmem : ∀ r : Nat, r ∈ moveLastTo t.indexReverseMap offset ↔ r ≠ rid ∧ r ∈ t.indexReverseMap := by
    intro r
    have := exists_moveLastTo_iff t.indexReverseMap rfl hinj hrev (r := r) (b := r)
    simpa only [and_self, ← List.mem_iff_getElem?] using this
  refine ⟨?_, fun off r hoff => ?_, ?_⟩
  · dsimp only
    rw [length_moveLastTo, length_moveLastTo, h.columns]
  · dsimp only at hoff ⊢
    have hr := (hmem r).mp (List.mem_of_getElem? hoff)
    rw [List.getElem?_set_ne (Ne.symm hr.1)]
    rw [getElem?_moveLastTo hlt] at hoff
    split at hoff
    case isFalse => cases hoff
    case isTrue hoff' =>
      by_cases ho : off = offset
      · rw [if_pos ho, hlast] at hoff
        obtain rfl := Option.some.inj hoff
        rw [List.getElem?_set_self (List.getElem?_eq_some_iff.mp (h.offset _ _ hlast)).1, ho]
      · rw [if_neg ho] at hoff
        have hne : last ≠ r := by
          rintro rfl
          have := hinj _ _ _ hoff hlast
          omega
        rw [List.getElem?_set_ne hne]
        exact h.offset off r hoff
  · obtain ⟨l, hchain, hnodup, hfree⟩ := h.free
    have hout : ∀ r ∈ l, r ≠ rid ∧ r ≠ last := by
      intro r hr
      have hnot := ((hfree r).mp hr).2
      refine ⟨?_, ?_⟩
      · rintro rfl
        exact hnot (List.mem_of_getElem? hrev)
      · rintro rfl
        exact hnot (List.mem_of_getElem? hlast)
    refine ⟨rid :: l, ⟨rfl, t.freeListHead, ?_, ?_⟩, ?_, fun r => ?_⟩
    · exact List.getElem?_set_self (by simpa using hrid)
    · refine freeChain_congr (by simp) (fun r hr => ?_) hchain
      rw [List.getElem?_set_ne (Ne.symm (hout r hr).1), List.getElem?_set_ne (Ne.symm (hout r hr).2)]
    · exact List.nodup_cons.mpr ⟨fun hin => (hout rid hin).1 rfl, hnodup⟩
    · dsimp only
      rw [List.mem_cons, hmem r, hfree r, List.length_set, List.length_set]
      by_cases hr : r = rid
      · simp [hr, hrid]
      · simp [hr]

lemma row?_erase (h : t.WellFormed) {t' : TableData α} {b : Bool} (he : t.erase rid = .ok (t', b)) (r : Nat) :
    t'.row? r = if r = rid then none else t.row? r := by
  have hwf := erase_wellFormed h he
  rcases erase_cases he with ⟨rfl, -, hnone⟩ | ⟨offset, last, -, hrev, -, -, rfl⟩
  · split
    case isTrue hr => rw [hr, hnone]
    case isFalse => rfl
  apply Option.ext
  intro a
  have hiff := exists_moveLastTo_iff _ h.columns (fun i j r => h.offset_inj) hrev (r := r) (b := a)
  rw [hwf.row?_eq_some_iff]
  dsimp only
  rw [hiff, ← h.row?_eq_some_iff]
  by_cases hr : r = rid <;> simp [hr]

lemma erase_of_row? (h : t.WellFormed) {a : α} (hrow : t.row? rid = some a) : ∃ t', t.erase rid = .ok (t', true) := by
  obtain ⟨offset, hrev, -⟩ := h.row?_eq_some_iff.mp hrow
  have hlt := (List.getElem?_eq_some_iff.mp hrev).1
  unfold erase
  rw [h.offset offset rid hrev]
  dsimp only
  rw [if_neg (by omega), if_neg (by simp [hrev])]
  exact ⟨_, rfl⟩

lemma modify_wellFormed (h : t.WellFormed) (rid : Nat) (f : α → α) : (t.modify rid f).WellFormed := by
  unfold modify
  split
  · exact h
  · split
    · exact ⟨by simp [h.columns], h.offset, h.free⟩
    · exact h

lemma row?_modify (h : t.WellFormed) (rid : Nat) (f : α → α) (r : Nat) :
    (t.modify rid f).row? r = if r = rid then (t.row? r).map f else t.row? r := by
  have hrow : t.row? rid = none → (if r = rid then (t.row? r).map f else t.row? r) = t.row? r := by
    intro hnone
    by_cases hr : r = rid
    · rw [if_pos hr, hr, hnone]
      rfl
    · rw [if_neg hr]
  unfold modify
  split
  case h_1 hnone => exact (hrow (by unfold row?; rw [hnone])).symm
  case h_2 offset hoffset =>
    split
    case isFalse hrev =>
      refine (hrow ?_).symm
      unfold row?
      rw [hoffset]
      exact if_neg hrev
    case isTrue hrev =>
      unfold row?
      dsimp only
      cases hidx : t.indexMap[r]? with
      | none => simp
      | some off =>
        dsimp only
        by_cases hoff : t.indexReverseMap[off]? = some r
        · rw [if_pos hoff, List.getElem?_modify]
          by_cases hr : r = rid
          · subst hr
            have : off = offset := h.offset_inj hoff hrev
            simp [this, hrev]
          · have : offset ≠ off := by
              rintro rfl
              exact hr (Option.some.inj (hoff.symm.trans hrev))
            simp [hr, this, hoff]
        · simp [hoff]

lemma mapRows_cases {f : α → Except ε α} {t' : TableData α} (h : t.mapRows f = .ok t') :
    ∃ columns, t.columns.mapM f = .ok columns ∧ t' = { t with columns := columns } := by
  unfold mapRows at h
  obtain ⟨columns, hcols, h⟩ := Lib.bind_eq_ok.mp h
  exact ⟨columns, hcols, (Except.ok.inj h).symm⟩

lemma getElem?_mapM {f : α → Except ε α} {l l' : List α} (h : l.mapM f = .ok l') :
    l'.length = l.length ∧ ∀ i : Nat, ∀ a, l[i]? = some a → ∃ b, f a = .ok b ∧ l'[i]? = some b := by
  induction l generalizing l' with
  | nil =>
    rw [List.mapM_nil] at h
    obtain rfl := Except.ok.inj h
    simp
  | cons x xs ih =>
    rw [List.mapM_cons] at h
    obtain ⟨y, hy, h⟩ := Lib.bind_eq_ok.mp h
    obtain ⟨ys, hys, h⟩ := Lib.bind_eq_ok.mp h
    obtain rfl := Except.ok.inj h
    obtain ⟨hlen, hget⟩ := ih hys
    refine ⟨by simp [hlen], fun i a hi => ?_⟩
    cases i with
    | zero =>
      obtain rfl := Option.some.inj hi
      exact ⟨y, hy, rfl⟩
    | succ i => exact hget i a hi

lemma mapRows_wellFormed {f : α → Except ε α} {t' : TableData α} (h : t.WellFormed)
    (hm : t.mapRows f = .ok t') : t'.WellFormed := by
  obtain ⟨columns, hcols, rfl⟩ := mapRows_cases hm
  exact ⟨(getElem?_mapM hcols).1.trans h.columns, h.offset, h.free⟩

lemma row?_mapRows {f : α → Except ε α} {t' : TableData α} (h : t.WellFormed) (hm : t.mapRows f = .ok t') (r : Nat) :
    (t.row? r = none ∧ t'.row? r = none) ∨ ∃ a b, t.row? r = some a ∧ f a = .ok b ∧ t'.row? r = some b := by
  have hwf := mapRows_wellFormed h hm
  obtain ⟨columns, hcols, rfl⟩ := mapRows_cases hm
  cases hrow : t.row? r with
  | none => exact Or.inl ⟨rfl, hwf.row?_eq_none_iff.mpr (h.row?_eq_none_iff.mp hrow)⟩
  | some a =>
    obtain ⟨off, hrev, hcol⟩ := h.row?_eq_some_iff.mp hrow
    obtain ⟨b, hb, hget⟩ := (getElem?_mapM hcols).2 off a hcol
    exact Or.inr ⟨a, b, rfl, hb, hwf.row?_eq_some_iff.mpr ⟨off, hrev, hget⟩⟩

end Lemmas

end TableData

structure SoaTable (α : Type) where
  data : TableData α
  wf : data.WellFormed

namespace SoaTable

variable {α : Type}

def empty : SoaTable α := ⟨TableData.empty, TableData.empty_wellFormed⟩

def size (t : SoaTable α) : Nat := t.data.indexReverseMap.length

def row? (t : SoaTable α) (rid : Nat) : Option α := t.data.row? rid

def nextRowId (t : SoaTable α) : Nat := t.data.freeListHead

def insert (t : SoaTable α) (row : α) : SoaTable α × Nat :=
  (⟨t.data.insert row, TableData.insert_wellFormed t.wf row⟩, t.nextRowId)

def erase (t : SoaTable α) (rid : Nat) : Except TableAbort (SoaTable α × Bool) :=
  match h : t.data.erase rid with
  | .error e => .error e
  | .ok (data, erased) => .ok (⟨data, TableData.erase_wellFormed t.wf h⟩, erased)

def modify (t : SoaTable α) (rid : Nat) (f : α → α) : SoaTable α :=
  ⟨t.data.modify rid f, TableData.modify_wellFormed t.wf rid f⟩

def mapRows {ε : Type} (t : SoaTable α) (f : α → Except ε α) : Except ε (SoaTable α) :=
  match h : t.data.mapRows f with
  | .error e => .error e
  | .ok data => .ok ⟨data, TableData.mapRows_wellFormed t.wf h⟩

variable {t t' : SoaTable α} {rid : Nat}

@[simp] lemma row?_empty : (empty : SoaTable α).row? rid = none := by
  simp [row?, empty, TableData.row?, TableData.empty]

lemma row?_nextRowId : t.row? t.nextRowId = none := t.wf.head_fresh

lemma row?_insert (a : α) (r : Nat) :
    (t.insert a).1.row? r = if r = t.nextRowId then some a else t.row? r :=
  TableData.row?_insert t.wf a

lemma erase_data {b : Bool} (h : t.erase rid = .ok (t', b)) : t.data.erase rid = .ok (t'.data, b) := by
  unfold erase at h
  split at h
  case h_1 => cases h
  case h_2 hdata =>
    cases h
    exact hdata

lemma row?_erase {b : Bool} (h : t.erase rid = .ok (t', b)) (r : Nat) :
    t'.row? r = if r = rid then none else t.row? r :=
  TableData.row?_erase t.wf (erase_data h) r

lemma erase_of_row? {a : α} (h : t.row? rid = some a) : ∃ t', t.erase rid = .ok (t', true) := by
  obtain ⟨data, hdata⟩ := TableData.erase_of_row? t.wf h
  unfold erase
  split
  case h_1 he =>
    rw [hdata] at he
    cases he
  case h_2 he =>
    rw [hdata] at he
    cases he
    exact ⟨_, rfl⟩

lemma row?_modify (f : α → α) (r : Nat) :
    (t.modify rid f).row? r = if r = rid then (t.row? r).map f else t.row? r :=
  TableData.row?_modify t.wf rid f r

lemma modify_eq_self {f : α → α} (h : ∀ a, t.row? rid = some a → f a = a) : t.modify rid f = t := by
  have hdata : t.data.modify rid f = t.data := by
    unfold TableData.modify
    split
    case h_1 => rfl
    case h_2 offset hoff =>
      split
      case isFalse => rfl
      case isTrue hrev =>
        have hrow : t.row? rid = t.data.columns[offset]? := by
          unfold row? TableData.row?
          simp only [hoff, if_pos hrev]
        have hcolumns : t.data.columns.modify offset f = t.data.columns := by
          apply List.ext_getElem?
          intro i
          rw [List.getElem?_modify]
          by_cases hi : offset = i
          · subst hi
            cases hcol : t.data.columns[offset]? with
            | none => rfl
            | some a => simp [h a (hrow.trans hcol)]
          · simp [hi]
        rw [hcolumns]
  unfold modify
  congr

lemma row?_mapRows {ε : Type} {f : α → Except ε α} (h : t.mapRows f = .ok t') (r : Nat) :
    (t.row? r = none ∧ t'.row? r = none) ∨ ∃ a b, t.row? r = some a ∧ f a = .ok b ∧ t'.row? r = some b := by
  unfold mapRows at h
  split at h
  case h_1 => cases h
  case h_2 hdata =>
    cases h
    exact TableData.row?_mapRows t.wf hdata r

lemma yields_mapRows {ε : Type} {f : α → Except ε α} {E : ε → Prop}
    (hf : ∀ a, Lib.Yields (f a) (fun _ => True) E) (t : SoaTable α) : Lib.Yields (t.mapRows f) (fun _ => True) E := by
  refine Lib.yields_iff.mpr ⟨fun _ _ => trivial, fun e h => ?_⟩
  have hcols : ∀ l : List α, Lib.Yields (l.mapM f) (fun _ => True) E := by
    intro l
    induction l with
    | nil => trivial
    | cons a l ih =>
      rw [List.mapM_cons]
      exact Lib.yields_bind (hf a) fun _ _ => Lib.yields_bind ih fun _ _ => trivial
  unfold mapRows at h
  split at h
  case h_1 hdata =>
    cases h
    have hmap : Lib.Yields (t.data.mapRows f) (fun _ => True) E :=
      Lib.yields_bind (hcols t.data.columns) fun _ _ => trivial
    exact hmap.of_error hdata
  case h_2 => cases h

end SoaTable

end OwlsRan.Adt
