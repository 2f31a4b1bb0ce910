import Mathlib.Data.List.Basic
import Mathlib.Data.List.GetD

/-!
# `circular_vector`

A vector whose positions are taken modulo its size.
-/

namespace OwlsRan.Adt

structure CircularVector (α : Type) where
  data : List α
  nonempty : 0 < data.length

namespace CircularVector

variable {α : Type}

/-- `n` entries, of which the `i`-th is `f i`. -/
def ofFn (n : Nat) (hn : 0 < n) (f : Nat → α) : CircularVector α := ⟨(List.range n).map f, by simpa using hn⟩

def size (v : CircularVector α) : Nat := v.data.length

def get (v : CircularVector α) (pos : Nat) : α := v.data.get ⟨pos % v.size, Nat.mod_lt pos v.nonempty⟩

def modify (v : CircularVector α) (pos : Nat) (f : α → α) : CircularVector α :=
  ⟨v.data.modify (pos % v.size) f, by simpa using v.nonempty⟩

variable {v : CircularVector α} {pos : Nat} {f : α → α}

@[simp] lemma size_ofFn (n : Nat) (hn : 0 < n) (g : Nat → α) : (ofFn n hn g).size = n := by simp [ofFn, size]

@[simp] lemma get_ofFn (n : Nat) (hn : 0 < n) (g : Nat → α) (pos : Nat) : (ofFn n hn g).get pos = g (pos % n) := by
  simp [ofFn, get, size]

@[simp] lemma size_modify : (v.modify pos f).size = v.size := by simp [modify, size]

lemma get_modify (i : Nat) :
    (v.modify pos f).get i = if i % v.size = pos % v.size then f (v.get i) else v.get i := by
  unfold get modify size
  simp only [List.length_modify, List.get_eq_getElem, List.getElem_modify, eq_comm]

lemma get_congr {i j : Nat} (h : i % v.size = j % v.size) : v.get i = v.get j := by
  unfold get
  congr 1
  exact Fin.ext h

/-- The number of entries that satisfy `p`. -/
def countP (v : CircularVector α) (p : α → Bool) : Nat := v.data.countP p

lemma countP_list_modify {l : List α} {i : Nat} (h : i < l.length) (p : α → Bool) :
    (l.modify i f).countP p + (if p l[i] then 1 else 0) = l.countP p + if p (f l[i]) then 1 else 0 := by
  induction l generalizing i with
  | nil => exact absurd h (Nat.not_lt_zero i)
  | cons a l ih =>
    cases i with
    | zero =>
      simp only [List.modify_zero_cons, List.countP_cons, List.getElem_cons_zero]
      omega
    | succ i =>
      have hl := ih (Nat.lt_of_succ_lt_succ h)
      simp only [List.modify_succ_cons, List.countP_cons, List.getElem_cons_succ]
      omega

lemma countP_modify (p : α → Bool) :
    (v.modify pos f).countP p + (if p (v.get pos) then 1 else 0) =
      v.countP p + if p (f (v.get pos)) then 1 else 0 :=
  countP_list_modify (Nat.mod_lt pos v.nonempty) p

lemma countP_eq_size {p : α → Bool} (h : ∀ i, p (v.get i) = true) : v.countP p = v.size := by
  apply List.countP_eq_length.mpr
  intro a ha
  obtain ⟨i, hi, rfl⟩ := List.mem_iff_getElem.mp ha
  have hget := h i
  unfold get size at hget
  simpa [Nat.mod_eq_of_lt hi] using hget

end CircularVector

/-!
## `circular_map`

A vector of optional entries with their keys, indexed by the key modulo the size of the vector.
-/

structure CircularMap (α : Type) where
  data : CircularVector (Option (Nat × α))
  count : Nat

namespace CircularMap

variable {α : Type}

def new (size : Nat) (hsize : 0 < size) : CircularMap α := ⟨.ofFn size hsize fun _ => none, 0⟩

def capacity (m : CircularMap α) : Nat := m.data.size

def full (m : CircularMap α) : Bool := m.count = m.capacity

def find? (m : CircularMap α) (key : Nat) : Option α :=
  match m.data.get key with
  | some (k, v) => if k = key then some v else none
  | none => none

def contains (m : CircularMap α) (key : Nat) : Bool := (m.find? key).isSome

def insert (m : CircularMap α) (key : Nat) (v : α) : CircularMap α :=
  if (m.data.get key).isSome then m
  else ⟨m.data.modify key fun _ => some (key, v), m.count + 1⟩

def erase (m : CircularMap α) (key : Nat) : CircularMap α :=
  if m.contains key then ⟨m.data.modify key fun _ => none, m.count - 1⟩ else m

def overwrite (m : CircularMap α) (key : Nat) (v : α) : CircularMap α :=
  match m.data.get key with
  | some (k, _) => (m.erase k).insert key v
  | none => m.insert key v

def modify (m : CircularMap α) (key : Nat) (f : α → α) : CircularMap α :=
  ⟨m.data.modify key fun e => e.map fun kv => (kv.1, f kv.2), m.count⟩

def WellFormed (m : CircularMap α) : Prop :=
  ∀ i k v, m.data.get i = some (k, v) → k % m.capacity = i % m.capacity

section Lookup

variable {m : CircularMap α} {key k : Nat} {v : α} {f : α → α}

lemma find?_eq_some_iff : m.find? k = some v ↔ m.data.get k = some (k, v) := by
  unfold find?
  split
  case h_1 k' v' hget =>
    split
    case isTrue heq =>
      rw [hget, heq]
      simp
    case isFalse hne =>
      rw [hget]
      simp [hne]
  case h_2 hget =>
    rw [hget]
    simp

lemma contains_iff : m.contains k = true ↔ ∃ v, m.find? k = some v := Option.isSome_iff_exists

lemma contains_eq_false_iff : m.contains k = false ↔ m.find? k = none := by
  unfold contains
  cases m.find? k <;> simp

@[simp] lemma new_find? (size : Nat) (hsize : 0 < size) : (new size hsize : CircularMap α).find? k = none := by
  unfold find? new
  rw [CircularVector.get_ofFn]

@[simp] lemma new_capacity (size : Nat) (hsize : 0 < size) : (new size hsize : CircularMap α).capacity = size :=
  CircularVector.size_ofFn size hsize _

lemma new_wellFormed (size : Nat) (hsize : 0 < size) : (new size hsize : CircularMap α).WellFormed := by
  intro i k v h
  rw [show (new size hsize : CircularMap α).data.get i = none from CircularVector.get_ofFn size hsize _ i] at h
  cases h

lemma find?_write (g : Option (Nat × α) → Option (Nat × α)) (c : Nat) :
    (⟨m.data.modify key g, c⟩ : CircularMap α).find? k =
      if k % m.capacity = key % m.capacity then
        match g (m.data.get k) with
        | some (k', v) => if k' = k then some v else none
        | none => none
      else m.find? k := by
  unfold find? capacity
  dsimp only
  rw [CircularVector.get_modify]
  by_cases h : k % m.data.size = key % m.data.size
  · rw [if_pos h, if_pos h]
  · rw [if_neg h, if_neg h]

lemma write_wellFormed {g : Option (Nat × α) → Option (Nat × α)} (h : m.WellFormed)
    (hg : ∀ k' v', g (m.data.get key) = some (k', v') → k' % m.capacity = key % m.capacity) (c : Nat) :
    (⟨m.data.modify key g, c⟩ : CircularMap α).WellFormed := by
  intro i k' v' hget
  change k' % (m.data.modify key g).size = i % (m.data.modify key g).size
  rw [CircularVector.size_modify]
  change (m.data.modify key g).get i = _ at hget
  rw [CircularVector.get_modify] at hget
  by_cases hentry : i % m.data.size = key % m.data.size
  · rw [if_pos hentry, CircularVector.get_congr hentry] at hget
    exact (hg k' v' hget).trans hentry.symm
  · rw [if_neg hentry] at hget
    exact h i k' v' hget

@[simp] lemma capacity_insert : (m.insert key v).capacity = m.capacity := by
  unfold insert
  split
  · rfl
  · exact CircularVector.size_modify

@[simp] lemma capacity_erase : (m.erase key).capacity = m.capacity := by
  unfold erase
  split
  · exact CircularVector.size_modify
  · rfl

@[simp] lemma capacity_overwrite : (m.overwrite key v).capacity = m.capacity := by
  unfold overwrite
  split
  · rw [capacity_insert, capacity_erase]
  · exact capacity_insert

@[simp] lemma capacity_modify : (m.modify key f).capacity = m.capacity := CircularVector.size_modify

lemma get_eq_none_of_free (h : m.WellFormed) (hfree : ∀ j v, m.find? j = some v → j % m.capacity ≠ key % m.capacity) :
    m.data.get key = none := by
  cases hget : m.data.get key with
  | none => rfl
  | some kv =>
    have hentry := h key kv.1 kv.2 hget
    refine absurd hentry (hfree kv.1 kv.2 ?_)
    rw [find?_eq_some_iff, CircularVector.get_congr hentry]
    exact hget

lemma overwrite_free (h : m.WellFormed) (hfree : ∀ j v, m.find? j = some v → j % m.capacity ≠ key % m.capacity) :
    (∀ j, (m.overwrite key v).find? j = if j = key then some v else m.find? j) ∧
      (m.overwrite key v).count = m.count + 1 ∧ (m.overwrite key v).WellFormed := by
  have hnone := get_eq_none_of_free h hfree
  have heq : m.overwrite key v = ⟨m.data.modify key fun _ => some (key, v), m.count + 1⟩ := by
    unfold overwrite insert
    rw [hnone]
    rfl
  rw [heq]
  refine ⟨fun j => ?_, rfl, write_wellFormed h (fun k' v' hkv => ?_) _⟩
  · rw [find?_write]
    by_cases hj : j = key
    · rw [hj, if_pos rfl, if_pos rfl]
      exact if_pos rfl
    · rw [if_neg hj]
      split
      case isFalse => rfl
      case isTrue hentry =>
        change (if key = j then some v else none) = m.find? j
        rw [if_neg (Ne.symm hj)]
        unfold find?
        rw [CircularVector.get_congr hentry, hnone]
  · cases hkv
    rfl

lemma erase_find? (j : Nat) : (m.erase key).find? j = if j = key then none else m.find? j := by
  unfold erase
  cases hkey : m.contains key with
  | false =>
    rw [if_neg Bool.false_ne_true]
    split
    case isTrue hj =>
      rw [hj]
      exact contains_eq_false_iff.mp hkey
    case isFalse => rfl
  | true =>
    obtain ⟨w, hw⟩ := contains_iff.mp hkey
    have hget := find?_eq_some_iff.mp hw
    rw [if_pos rfl, find?_write]
    by_cases hj : j = key
    · rw [hj, if_pos rfl, if_pos rfl]
    · rw [if_neg hj]
      split
      case isFalse => rfl
      case isTrue hentry =>
        unfold find?
        rw [CircularVector.get_congr hentry, hget]
        exact (if_neg (Ne.symm hj)).symm

lemma erase_wellFormed (h : m.WellFormed) : (m.erase key).WellFormed := by
  unfold erase
  split
  · exact write_wellFormed h (fun _ _ hkv => by cases hkv) _
  · exact h

lemma erase_spec (h : m.WellFormed) (hkey : m.contains key = true) :
    (∀ j, (m.erase key).find? j = if j = key then none else m.find? j) ∧ (m.erase key).count = m.count - 1 ∧
      (m.erase key).WellFormed := by
  have heq : m.erase key = ⟨m.data.modify key fun _ => none, m.count - 1⟩ := if_pos hkey
  exact ⟨erase_find?, by rw [heq], erase_wellFormed h⟩

lemma modify_spec (h : m.WellFormed) (hkey : m.find? key = some v) :
    (∀ j, (m.modify key f).find? j = if j = key then some (f v) else m.find? j) ∧ (m.modify key f).WellFormed := by
  have hget := find?_eq_some_iff.mp hkey
  unfold modify
  refine ⟨fun j => ?_, write_wellFormed h (fun k' v' hkv => ?_) _⟩
  · rw [find?_write]
    by_cases hj : j = key
    · rw [hj, if_pos rfl, if_pos rfl, hget]
      exact if_pos rfl
    · rw [if_neg hj]
      split
      case isFalse => rfl
      case isTrue hentry =>
        unfold find?
        rw [CircularVector.get_congr hentry, hget]
        change (if key = j then _ else none) = if key = j then _ else none
        rw [if_neg (Ne.symm hj), if_neg (Ne.symm hj)]
  · rw [hget] at hkv
    cases hkv
    rfl

lemma overwrite_eq (h : m.WellFormed) : m.overwrite key v =
    ⟨m.data.modify key fun _ => some (key, v), if (m.data.get key).isSome then m.count - 1 + 1 else m.count + 1⟩ := by
  unfold overwrite insert
  cases hget : m.data.get key with
  | none => simp
  | some kv =>
    have hentry := h key kv.1 kv.2 hget
    have hk : m.contains kv.1 = true := by
      refine contains_iff.mpr ⟨kv.2, find?_eq_some_iff.mpr ?_⟩
      rw [CircularVector.get_congr hentry]
      exact hget
    have hslot : key % m.data.size = kv.1 % m.data.size := hentry.symm
    have hpos : kv.1 % m.data.size = key % m.data.size := hentry
    have herase : m.erase kv.1 = ⟨m.data.modify key fun _ => none, m.count - 1⟩ := by
      unfold erase CircularVector.modify
      rw [if_pos hk]
      congr 3
    dsimp only
    rw [herase]
    have hnone : ((m.data.modify key fun _ => none).get key).isSome = false := by
      rw [CircularVector.get_modify, if_pos rfl]
      rfl
    rw [if_neg (by rw [hnone]; exact Bool.false_ne_true)]
    congr 1
    unfold CircularVector.modify CircularVector.size
    simp [List.modify_modify_eq, Function.comp_def]

lemma overwrite_find? (h : m.WellFormed) (j : Nat) : (m.overwrite key v).find? j =
    if j = key then some v else if j % m.capacity = key % m.capacity then none else m.find? j := by
  rw [overwrite_eq h, find?_write]
  by_cases hj : j = key
  · rw [hj, if_pos rfl, if_pos rfl]
    exact if_pos rfl
  · rw [if_neg hj]
    by_cases hentry : j % m.capacity = key % m.capacity
    · rw [if_pos hentry, if_pos hentry]
      exact if_neg (Ne.symm hj)
    · rw [if_neg hentry, if_neg hentry]

lemma overwrite_wellFormed (h : m.WellFormed) : (m.overwrite key v).WellFormed := by
  rw [overwrite_eq h]
  refine write_wellFormed h (fun k' v' hkv => ?_) _
  cases hkv
  rfl

/-- `count` is the number of entries. -/
def Counted (m : CircularMap α) : Prop := m.count = m.data.countP Option.isSome

lemma new_counted (size : Nat) (hsize : 0 < size) : (new size hsize : CircularMap α).Counted := by
  refine (List.countP_eq_zero.mpr ?_).symm
  simp [new, CircularVector.ofFn]

lemma Counted.write {g : Option (Nat × α) → Option (Nat × α)} (hm : m.Counted) {c : Nat}
    (hc : c + (if (m.data.get key).isSome then 1 else 0) = m.count + if (g (m.data.get key)).isSome then 1 else 0) :
    (⟨m.data.modify key g, c⟩ : CircularMap α).Counted := by
  have hcount : (m.data.modify key g).countP Option.isSome + (if (m.data.get key).isSome then 1 else 0) =
    m.data.countP Option.isSome + if (g (m.data.get key)).isSome then 1 else 0 := CircularVector.countP_modify _
  unfold Counted at *
  dsimp only
  omega

lemma Counted.pos (hm : m.Counted) (h : (m.data.get key).isSome = true) : 0 < m.count := by
  have hcount : (m.data.modify key fun _ => none).countP Option.isSome + (if (m.data.get key).isSome then 1 else 0) =
    m.data.countP Option.isSome + 0 := CircularVector.countP_modify _
  rw [if_pos h] at hcount
  unfold Counted at hm
  omega

lemma overwrite_counted (h : m.WellFormed) (hm : m.Counted) : (m.overwrite key v).Counted := by
  rw [overwrite_eq h]
  apply hm.write
  cases hget : (m.data.get key).isSome with
  | false => simp
  | true =>
    have hpos := hm.pos hget
    simp
    omega

lemma erase_counted (hm : m.Counted) : (m.erase key).Counted := by
  unfold erase
  split
  case isFalse => exact hm
  case isTrue hkey =>
    obtain ⟨w, hw⟩ := contains_iff.mp hkey
    have hget := find?_eq_some_iff.mp hw
    have hentry : (m.data.get key).isSome = true := by rw [hget]; rfl
    have hpos := hm.pos hentry
    apply hm.write
    rw [hget]
    simp
    omega

lemma modify_counted (hm : m.Counted) : (m.modify key f).Counted := by
  apply hm.write
  cases m.data.get key <;> rfl

lemma full_of_entries (hm : m.Counted) (h : ∀ i, (m.data.get i).isSome = true) : m.full = true := by
  have hsize : m.count = m.capacity := hm.trans (CircularVector.countP_eq_size h)
  unfold full
  exact decide_eq_true hsize

end Lookup

end CircularMap

end OwlsRan.Adt
