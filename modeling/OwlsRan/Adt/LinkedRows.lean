import Mathlib.Data.List.Perm.Subperm
import Mathlib.Logic.Function.Basic
import OwlsRan.Adt.SoaTable

/-!
# Lists threaded through a table

Rows of a table that are linked by ids stored in the rows themselves.
-/

namespace OwlsRan.Adt

variable {α : Type} {next : α → Option Nat} {t t' : SoaTable α} {head : Option Nat} {l : List Nat}

/-- Following `next` from `head` visits the rows `l` and ends. -/
def Linked (next : α → Option Nat) (t : SoaTable α) : Option Nat → List Nat → Prop
  | head, [] => head = none
  | head, rid :: rids => head = some rid ∧ ∃ a, t.row? rid = some a ∧ Linked next t (next a) rids

namespace SoaTable

def rowsOf (t : SoaTable α) (l : List Nat) : List α := l.filterMap t.row?

lemma rowsOf_cons {rid : Nat} {a : α} (h : t.row? rid = some a) : t.rowsOf (rid :: l) = a :: t.rowsOf l := by
  unfold rowsOf
  rw [List.filterMap_cons_some h]

lemma rowsOf_append (l l' : List Nat) : t.rowsOf (l ++ l') = t.rowsOf l ++ t.rowsOf l' := List.filterMap_append

lemma rowsOf_congr (h : ∀ r ∈ l, t'.row? r = t.row? r) : t'.rowsOf l = t.rowsOf l := List.filterMap_congr h

lemma mem_rowsOf {a : α} : a ∈ t.rowsOf l ↔ ∃ r ∈ l, t.row? r = some a := List.mem_filterMap

lemma length_le_size (hnodup : l.Nodup) (hrows : ∀ r ∈ l, ∃ a, t.row? r = some a) : l.length ≤ t.size := by
  refine (hnodup.subperm fun r hr => ?_).length_le
  obtain ⟨a, ha⟩ := hrows r hr
  by_contra hnot
  have hnone : t.row? r = none := t.wf.row?_eq_none_iff.mpr hnot
  rw [ha] at hnone
  cases hnone

end SoaTable

lemma Linked.congr (h : Linked next t head l) (hsame : ∀ r ∈ l, t'.row? r = t.row? r) : Linked next t' head l := by
  induction l generalizing head with
  | nil => exact h
  | cons rid rids ih =>
    obtain ⟨hhead, a, ha, hrest⟩ := h
    exact ⟨hhead, a, (hsame rid List.mem_cons_self).trans ha, ih hrest fun r hr => hsame r (List.mem_cons_of_mem _ hr)⟩

lemma Linked.row (h : Linked next t head l) : ∀ r ∈ l, ∃ a, t.row? r = some a := by
  induction l generalizing head with
  | nil => exact fun r hr => absurd hr List.not_mem_nil
  | cons rid rids ih =>
    obtain ⟨-, a, ha, hrest⟩ := h
    intro r hr
    rcases List.mem_cons.mp hr with rfl | hr
    · exact ⟨a, ha⟩
    · exact ih hrest r hr

lemma Linked.head_isNone_iff (h : Linked next t head l) : head = none ↔ l = [] := by
  cases l with
  | nil => exact ⟨fun _ => rfl, fun _ => h⟩
  | cons rid rids =>
    constructor
    · intro hnone
      rw [hnone] at h
      cases h.1
    · exact fun hnil => nomatch hnil

lemma Linked.unique {l' : List Nat} (h : Linked next t head l) (h' : Linked next t head l') : l = l' := by
  induction l generalizing head l' with
  | nil => exact (h'.head_isNone_iff.mp h).symm
  | cons rid rids ih =>
    obtain ⟨rfl, a, ha, hrest⟩ := h
    cases l' with
    | nil => cases h'
    | cons rid' rids' =>
      obtain ⟨hhead, a', ha', hrest'⟩ := h'
      obtain rfl := Option.some.inj hhead
      obtain rfl := Option.some.inj (ha.symm.trans ha')
      rw [ih hrest hrest']

lemma Linked.relabel (h : Linked next t head l)
    (hsame : ∀ r ∈ l, ∀ a, t.row? r = some a → ∃ b, t'.row? r = some b ∧ next b = next a) :
    Linked next t' head l := by
  induction l generalizing head with
  | nil => exact h
  | cons rid rids ih =>
    obtain ⟨hhead, a, ha, hrest⟩ := h
    obtain ⟨b, hb, hnext⟩ := hsame rid List.mem_cons_self a ha
    refine ⟨hhead, b, hb, ?_⟩
    rw [hnext]
    exact ih hrest fun r hr => hsame r (List.mem_cons_of_mem _ hr)

lemma Linked.concat (h : Linked next t head l) (hnodup : l.Nodup) {prev rid : Nat} {a : α}
    (hlast : l.getLast? = some prev) (hrid : t'.row? rid = some a) (hend : next a = none)
    (hother : ∀ r ∈ l, r ≠ prev → t'.row? r = t.row? r)
    (hprev : ∃ b, t'.row? prev = some b ∧ next b = some rid) : Linked next t' head (l ++ [rid]) := by
  induction l generalizing head with
  | nil => cases hlast
  | cons r rids ih =>
    obtain ⟨hhead, c, hc, hrest⟩ := h
    rw [List.nodup_cons] at hnodup
    cases rids with
    | nil =>
      obtain rfl := Option.some.inj hlast
      obtain ⟨b, hb, hnext⟩ := hprev
      exact ⟨hhead, b, hb, hnext, a, hrid, hend⟩
    | cons r' rids' =>
      have hlast' : (r' :: rids').getLast? = some prev := by rwa [List.getLast?_cons_cons] at hlast
      have hne : r ≠ prev := by
        rintro rfl
        exact hnodup.1 (List.mem_of_getLast? hlast')
      refine ⟨hhead, c, (hother r List.mem_cons_self hne).trans hc, ?_⟩
      exact ih hrest hnodup.2 hlast' fun x hx => hother x (List.mem_cons_of_mem _ hx)

/-- The rows that the links lead to from `head`, `fuel` of them at most. -/
def followRows (next : α → Option Nat) (t : SoaTable α) : Nat → Option Nat → List Nat
  | 0, _ => []
  | _ + 1, none => []
  | fuel + 1, some rid =>
    match t.row? rid with
    | none => []
    | some a => rid :: followRows next t fuel (next a)

lemma Linked.followRows_eq {fuel : Nat} (h : Linked next t head l) (hfuel : l.length ≤ fuel) :
    followRows next t fuel head = l := by
  induction l generalizing head fuel with
  | nil =>
    obtain rfl : head = none := h
    cases fuel <;> rfl
  | cons rid rids ih =>
    obtain ⟨rfl, a, ha, hrest⟩ := h
    cases fuel with
    | zero => exact absurd hfuel (Nat.not_succ_le_zero _)
    | succ fuel =>
      unfold followRows
      rw [ha]
      dsimp only
      rw [ih hrest (Nat.le_of_succ_le_succ hfuel)]

/-!
## Owners of the rows of a table

Keys hold ids of rows. When every row is held by exactly one key, one key may let go of its row or take a new one
without any other key noticing.
-/

variable {κ α : Type} {own own' : κ → Option Nat} {t t' : SoaTable α}

/-- Every key that holds an id holds that of a row, and every row is held by exactly one key. -/
structure RowOwners (own : κ → Option Nat) (t : SoaTable α) : Prop where
  row : ∀ k r, own k = some r → ∃ a, t.row? r = some a
  owner : ∀ r a, t.row? r = some a → ∃ k, own k = some r
  unique : ∀ k k' r, own k = some r → own k' = some r → k = k'

namespace RowOwners

lemma empty : RowOwners (fun _ : κ => none) (SoaTable.empty : SoaTable α) :=
  ⟨nofun, fun r a h => by simp at h, nofun⟩

lemma rows (h : RowOwners own t) (hrows : ∀ r, (t'.row? r).isSome = (t.row? r).isSome) : RowOwners own t' := by
  refine ⟨fun k r hk => ?_, fun r a ha => ?_, h.unique⟩
  · obtain ⟨a, ha⟩ := h.row k r hk
    apply Option.isSome_iff_exists.mp
    rw [hrows, ha]
    rfl
  · have hsome : (t.row? r).isSome = true := by
      rw [← hrows, ha]
      rfl
    obtain ⟨b, hb⟩ := Option.isSome_iff_exists.mp hsome
    exact h.owner r b hb

variable [DecidableEq κ]

lemma release (h : RowOwners own t) {k : κ} {r : Nat} (hk : own k = some r)
    (hrows : ∀ r', t'.row? r' = if r' = r then none else t.row? r') : RowOwners (Function.update own k none) t' := by
  refine ⟨fun k' r' hk' => ?_, fun r' a ha => ?_, fun k' k'' r' hk' hk'' => ?_⟩
  · by_cases heq : k' = k
    · rw [heq, Function.update_self] at hk'
      cases hk'
    · rw [Function.update_of_ne heq] at hk'
      have hne : r' ≠ r := by
        rintro rfl
        exact heq (h.unique k' k r' hk' hk)
      rw [hrows, if_neg hne]
      exact h.row k' r' hk'
  · rw [hrows] at ha
    split at ha
    case isTrue => cases ha
    case isFalse hne =>
      obtain ⟨k', hk'⟩ := h.owner r' a ha
      refine ⟨k', ?_⟩
      have heq : k' ≠ k := by
        rintro rfl
        exact hne (Option.some.inj (hk'.symm.trans hk))
      rw [Function.update_of_ne heq]
      exact hk'
  · have hne : ∀ j, Function.update own k none j = some r' → j ≠ k ∧ own j = some r' := by
      intro j hj
      by_cases heq : j = k
      · rw [heq, Function.update_self] at hj
        cases hj
      · rw [Function.update_of_ne heq] at hj
        exact ⟨heq, hj⟩
    exact h.unique k' k'' r' (hne k' hk').2 (hne k'' hk'').2

lemma acquire (h : RowOwners own t) {k : κ} (hk : own k = none) (a : α) :
    RowOwners (Function.update own k (some t.nextRowId)) (t.insert a).1 := by
  have hfresh : ∀ k', own k' ≠ some t.nextRowId := by
    intro k' hk'
    obtain ⟨b, hb⟩ := h.row k' _ hk'
    rw [t.row?_nextRowId] at hb
    cases hb
  refine ⟨fun k' r hk' => ?_, fun r b hb => ?_, fun k' k'' r hk' hk'' => ?_⟩
  · rw [SoaTable.row?_insert]
    by_cases heq : k' = k
    · rw [heq, Function.update_self] at hk'
      rw [if_pos (Option.some.inj hk').symm]
      exact ⟨a, rfl⟩
    · rw [Function.update_of_ne heq] at hk'
      have hne : r ≠ t.nextRowId := fun h => hfresh k' (h ▸ hk')
      rw [if_neg hne]
      exact h.row k' r hk'
  · rw [SoaTable.row?_insert] at hb
    split at hb
    case isTrue hr => exact ⟨k, by rw [Function.update_self, hr]⟩
    case isFalse =>
      obtain ⟨k', hk'⟩ := h.owner r b hb
      refine ⟨k', ?_⟩
      have heq : k' ≠ k := by
        rintro rfl
        rw [hk] at hk'
        cases hk'
      rw [Function.update_of_ne heq]
      exact hk'
  · by_cases heq : k' = k <;> by_cases heq' : k'' = k
    · rw [heq, heq']
    · rw [heq, Function.update_self] at hk'
      rw [Function.update_of_ne heq'] at hk''
      exact absurd (hk''.trans hk'.symm) (hfresh k'')
    · rw [heq', Function.update_self] at hk''
      rw [Function.update_of_ne heq] at hk'
      exact absurd (hk'.trans hk''.symm) (hfresh k')
    · rw [Function.update_of_ne heq] at hk'
      rw [Function.update_of_ne heq'] at hk''
      exact h.unique k' k'' r hk' hk''

end RowOwners

end OwlsRan.Adt
