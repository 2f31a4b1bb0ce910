import Mathlib.Data.List.Nodup
import Mathlib.Logic.Function.Basic
import Mathlib.Tactic.Lemma

/-!
# Lists searched by a key

A list whose elements have different keys is a table: a search by key finds exactly the element with that key.
-/

namespace OwlsRan.Lib

variable {α κ : Type*} [DecidableEq κ]

def findKey (key : α → κ) (l : List α) (k : κ) : Option α := l.find? fun a => decide (key a = k)

section Search

variable {key : α → κ} {l l' : List α} {k : κ} {a : α}

lemma findKey_mem (h : findKey key l k = some a) : a ∈ l ∧ key a = k := by
  refine ⟨List.mem_of_find?_eq_some h, ?_⟩
  simpa using List.find?_some h

lemma findKey_eq_none_iff : findKey key l k = none ↔ ∀ a ∈ l, key a ≠ k := by
  simp [findKey]

lemma findKey_eq_some_iff (hl : (l.map key).Nodup) : findKey key l k = some a ↔ a ∈ l ∧ key a = k := by
  refine ⟨findKey_mem, ?_⟩
  rintro ⟨hmem, rfl⟩
  induction l with
  | nil => cases hmem
  | cons b l ih =>
    obtain ⟨hb, hl⟩ := List.nodup_cons.mp hl
    unfold findKey
    rcases List.mem_cons.mp hmem with rfl | hmem
    · rw [List.find?_cons_of_pos (by simp)]
    · have hne : key b ≠ key a := fun heq => hb (heq ▸ List.mem_map_of_mem hmem)
      rw [List.find?_cons_of_neg (by simpa using hne)]
      exact ih hl hmem

lemma findKey_congr (hl : (l.map key).Nodup) (hl' : (l'.map key).Nodup)
    (h : ∀ a, key a = k → (a ∈ l' ↔ a ∈ l)) : findKey key l' k = findKey key l k := by
  apply Option.ext
  intro a
  rw [findKey_eq_some_iff hl, findKey_eq_some_iff hl']
  exact and_congr_left fun ha => h a ha

lemma nodup_concat_key (hl : (l.map key).Nodup) (ha : findKey key l (key a) = none) :
    ((l ++ [a]).map key).Nodup := by
  rw [List.map_append]
  refine hl.append (List.nodup_singleton _) fun k hk hmem => ?_
  obtain ⟨b, hb, rfl⟩ := List.mem_map.mp hk
  exact findKey_eq_none_iff.mp ha b hb (List.mem_singleton.mp hmem)

lemma mem_eraseP_key (hl : (l.map key).Nodup) :
    a ∈ l.eraseP (fun b => decide (key b = k)) ↔ a ∈ l ∧ key a ≠ k := by
  induction l with
  | nil => simp
  | cons b l ih =>
    obtain ⟨hb, hl⟩ := List.nodup_cons.mp hl
    by_cases hk : key b = k
    · rw [List.eraseP_cons_of_pos (by simpa using hk)]
      constructor
      · intro ha
        exact ⟨List.mem_cons_of_mem b ha, fun heq => hb (hk.trans heq.symm ▸ List.mem_map_of_mem ha)⟩
      · rintro ⟨ha, hne⟩
        rcases List.mem_cons.mp ha with rfl | ha
        · exact absurd hk hne
        · exact ha
    · rw [List.eraseP_cons_of_neg (by simpa using hk), List.mem_cons, ih hl, List.mem_cons]
      constructor
      · rintro (rfl | ⟨ha, hne⟩)
        · exact ⟨Or.inl rfl, hk⟩
        · exact ⟨Or.inr ha, hne⟩
      · rintro ⟨rfl | ha, hne⟩
        · exact Or.inl rfl
        · exact Or.inr ⟨ha, hne⟩

end Search

/-!
## A table and the index of its rows by a key

The index leads from the key of each row to its place in the table, and from nothing else.
-/

variable {ι κ α : Type*}

def Indexes (table : ι → Option α) (key : α → κ) (index : κ → Option ι) : Prop :=
  ∀ k i, index k = some i ↔ ∃ a, table i = some a ∧ key a = k

namespace Indexes

variable {table : ι → Option α} {key : α → κ} {index : κ → Option ι}

lemma index_key (h : Indexes table key index) {i : ι} {a : α} (ha : table i = some a) : index (key a) = some i :=
  (h _ _).mpr ⟨a, ha, rfl⟩

lemma place_unique (h : Indexes table key index) {i j : ι} {a b : α} (ha : table i = some a) (hb : table j = some b)
    (hkey : key a = key b) : i = j := by
  have hi := h.index_key ha
  rw [hkey, h.index_key hb] at hi
  exact (Option.some.inj hi).symm

variable [DecidableEq ι]

lemma replace (h : Indexes table key index) {i : ι} {a b : α} (ha : table i = some a) (hkey : key b = key a) :
    Indexes (Function.update table i (some b)) key index := by
  intro k j
  rw [h]
  by_cases hj : j = i
  · subst hj
    rw [Function.update_self, ha]
    simp [hkey]
  · rw [Function.update_of_ne hj]

variable [DecidableEq κ]

lemma insert (h : Indexes table key index) {i : ι} {a : α} (hi : table i = none) (hk : index (key a) = none) :
    Indexes (Function.update table i (some a)) key (Function.update index (key a) (some i)) := by
  intro k j
  by_cases hkey : k = key a
  · subst hkey
    rw [Function.update_self]
    constructor
    · intro hj
      obtain rfl := Option.some.inj hj
      exact ⟨a, Function.update_self i (some a) table, rfl⟩
    · rintro ⟨b, hb, hkey⟩
      by_cases hj : j = i
      · rw [hj]
      · rw [Function.update_of_ne hj] at hb
        have := h.index_key hb
        rw [hkey, hk] at this
        cases this
  · rw [Function.update_of_ne hkey, h]
    constructor
    · rintro ⟨b, hb, hbk⟩
      have hj : j ≠ i := by
        rintro rfl
        rw [hi] at hb
        cases hb
      exact ⟨b, by rw [Function.update_of_ne hj, hb], hbk⟩
    · rintro ⟨b, hb, hbk⟩
      by_cases hj : j = i
      · subst hj
        rw [Function.update_self] at hb
        obtain rfl := Option.some.inj hb
        exact absurd hbk.symm hkey
      · rw [Function.update_of_ne hj] at hb
        exact ⟨b, hb, hbk⟩

lemma erase (h : Indexes table key index) {i : ι} {a : α} (ha : table i = some a) :
    Indexes (Function.update table i none) key (Function.update index (key a) none) := by
  intro k j
  by_cases hj : j = i
  · subst hj
    rw [Function.update_self]
    by_cases hkey : k = key a
    · subst hkey
      simp
    · rw [Function.update_of_ne hkey, h]
      simp [ha, Ne.symm hkey]
  · rw [Function.update_of_ne hj]
    by_cases hkey : k = key a
    · subst hkey
      rw [Function.update_self]
      constructor
      · intro hk
        cases hk
      · rintro ⟨b, hb, hbk⟩
        exact absurd (h.place_unique hb ha hbk) hj
    · rw [Function.update_of_ne hkey, h]

end Indexes

end OwlsRan.Lib
