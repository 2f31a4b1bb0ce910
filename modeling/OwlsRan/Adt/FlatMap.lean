import OwlsRan.Lib.Outcome
import Mathlib.Data.List.Basic
import Mathlib.Data.List.Forall2
import Mathlib.Algebra.BigOperators.Group.List.Basic
import Mathlib.Algebra.Order.BigOperators.Group.List
import Mathlib.Algebra.Order.Ring.Nat

namespace OwlsRan.Adt

/-- `flat_map`: the entries in increasing order of their keys. -/
structure FlatMap (α : Type) where
  entries : List (Nat × α)
  sorted : entries.Pairwise fun a b => a.1 < b.1

namespace FlatMap

variable {α : Type}

instance [DecidableEq α] : DecidableEq (FlatMap α) := fun a b =>
  decidable_of_iff (a.entries = b.entries) ⟨fun h => by cases a; cases b; cases h; rfl, fun h => h ▸ rfl⟩

def empty : FlatMap α := ⟨[], List.Pairwise.nil⟩

def size (m : FlatMap α) : Nat := m.entries.length

def keys (m : FlatMap α) : List Nat := m.entries.map Prod.fst

def find? (m : FlatMap α) (k : Nat) : Option α := (m.entries.find? fun e => e.1 = k).map Prod.snd

def contains (m : FlatMap α) (k : Nat) : Bool := (m.find? k).isSome

def insertEntry (k : Nat) (v : α) : List (Nat × α) → List (Nat × α)
  | [] => [(k, v)]
  | e :: es => if k < e.1 then (k, v) :: e :: es else e :: insertEntry k v es

lemma insertEntry_perm (k : Nat) (v : α) (es : List (Nat × α)) : (insertEntry k v es).Perm ((k, v) :: es) := by
  induction es with
  | nil => exact List.Perm.refl _
  | cons e es ih =>
    unfold insertEntry
    split
    · exact List.Perm.refl _
    · exact (List.Perm.cons e ih).trans (List.Perm.swap (k, v) e es)

variable {es : List (Nat × α)}

lemma insertEntry_sorted (k : Nat) (v : α) (hs : es.Pairwise fun a b => a.1 < b.1)
    (hk : ∀ e ∈ es, e.1 ≠ k) : (insertEntry k v es).Pairwise fun a b => a.1 < b.1 := by
  induction es with
  | nil => simp [insertEntry]
  | cons e es ih =>
    unfold insertEntry
    rw [List.pairwise_cons] at hs
    split
    case isTrue hlt =>
      refine List.pairwise_cons.mpr ⟨fun a ha => ?_, List.pairwise_cons.mpr hs⟩
      rcases List.mem_cons.mp ha with rfl | ha
      · exact hlt
      · exact lt_trans hlt (hs.1 a ha)
    case isFalse hge =>
      refine List.pairwise_cons.mpr ⟨fun a ha => ?_, ih hs.2 fun a ha => hk a (List.mem_cons_of_mem e ha)⟩
      rcases List.mem_cons.mp ((insertEntry_perm k v es).mem_iff.mp ha) with rfl | ha
      · have := hk e List.mem_cons_self
        dsimp only
        omega
      · exact hs.1 a ha

lemma find?_eq_none_iff {m : FlatMap α} {k : Nat} : m.find? k = none ↔ ∀ e ∈ m.entries, e.1 ≠ k := by
  unfold find?
  simp

lemma find?_eq_some_iff {m : FlatMap α} {k : Nat} {v : α} : m.find? k = some v ↔ (k, v) ∈ m.entries := by
  obtain ⟨es, hs⟩ := m
  unfold find?
  dsimp only
  induction es with
  | nil => simp
  | cons e es ih =>
    rw [List.pairwise_cons] at hs
    by_cases hk : e.1 = k
    · rw [List.find?_cons_of_pos (by simpa using hk)]
      constructor
      · intro h
        obtain rfl := Option.some.inj h
        subst hk
        exact List.mem_cons_self
      · intro h
        rcases List.mem_cons.mp h with rfl | h
        · rfl
        · have := hs.1 _ h
          dsimp only at this
          omega
    · rw [List.find?_cons_of_neg (by simpa using hk), ih hs.2, List.mem_cons]
      constructor
      · exact Or.inr
      · rintro (rfl | h)
        · exact absurd rfl hk
        · exact h

lemma contains_iff {m : FlatMap α} {k : Nat} : m.contains k = true ↔ ∃ v, m.find? k = some v :=
  Option.isSome_iff_exists

lemma contains_eq_false_iff {m : FlatMap α} {k : Nat} : m.contains k = false ↔ m.find? k = none := by
  unfold contains
  exact Option.isSome_eq_false_iff.trans Option.isNone_iff_eq_none

/-- `emplace` leaves the map alone if the key is there already. -/
def emplace (m : FlatMap α) (k : Nat) (v : α) : FlatMap α :=
  if h : m.find? k = none then ⟨insertEntry k v m.entries, insertEntry_sorted k v m.sorted (find?_eq_none_iff.mp h)⟩
  else m

def modify (m : FlatMap α) (k : Nat) (f : α → α) : FlatMap α :=
  ⟨m.entries.map fun e => (e.1, if e.1 = k then f e.2 else e.2), List.pairwise_map.mpr m.sorted⟩

def mapValues (m : FlatMap α) (f : α → α) : FlatMap α :=
  ⟨m.entries.map fun e => (e.1, f e.2), List.pairwise_map.mpr m.sorted⟩

def mapEntries {ε : Type} (f : α → Except ε α) : List (Nat × α) → Except ε (List (Nat × α))
  | [] => .ok []
  | e :: es => do
    let v ← f e.2
    let rest ← mapEntries f es
    .ok ((e.1, v) :: rest)

lemma mapEntries_ok {ε : Type} {f : α → Except ε α} {es' : List (Nat × α)} (h : mapEntries f es = .ok es') :
    List.Forall₂ (fun e e' => e'.1 = e.1 ∧ f e.2 = .ok e'.2) es es' := by
  induction es generalizing es' with
  | nil =>
    cases h
    exact List.Forall₂.nil
  | cons e es ih =>
    obtain ⟨v, hv, h⟩ := Lib.bind_eq_ok.mp h
    obtain ⟨rest, hrest, h⟩ := Lib.bind_eq_ok.mp h
    cases h
    exact List.Forall₂.cons ⟨rfl, hv⟩ (ih hrest)

lemma sorted_of_forall₂ {R : Nat × α → Nat × α → Prop} (hR : ∀ e e', R e e' → e'.1 = e.1) {es' : List (Nat × α)}
    (h : List.Forall₂ R es es') (hs : es.Pairwise fun a b => a.1 < b.1) : es'.Pairwise fun a b => a.1 < b.1 := by
  have hkeys : es'.map Prod.fst = es.map Prod.fst := by
    induction h with
    | nil => rfl
    | cons hr _ ih =>
      rw [List.map_cons, List.map_cons, hR _ _ hr, ih (List.pairwise_cons.mp hs).2]
  have hs' : (es.map Prod.fst).Pairwise (· < ·) := List.pairwise_map.mpr hs
  rw [← hkeys] at hs'
  exact List.pairwise_map.mp hs'

def mapValuesM {ε : Type} (m : FlatMap α) (f : α → Except ε α) : Except ε (FlatMap α) :=
  match h : mapEntries f m.entries with
  | .error e => .error e
  | .ok es => .ok ⟨es, sorted_of_forall₂ (fun _ _ hr => hr.1) (mapEntries_ok h) m.sorted⟩

def erase (m : FlatMap α) (k : Nat) : FlatMap α :=
  ⟨m.entries.filter fun e => e.1 ≠ k, m.sorted.filter _⟩

@[simp] lemma find?_empty (k : Nat) : (empty : FlatMap α).find? k = none := rfl

lemma find?_ext {m m' : FlatMap α} {k k' : Nat}
    (h : ∀ v, (k, v) ∈ m.entries ↔ (k', v) ∈ m'.entries) : m.find? k = m'.find? k' := by
  apply Option.ext
  intro v
  rw [find?_eq_some_iff, find?_eq_some_iff]
  exact h v

lemma find?_emplace {m : FlatMap α} {k : Nat} (hk : m.find? k = none) (v : α) (k' : Nat) :
    (m.emplace k v).find? k' = if k' = k then some v else m.find? k' := by
  unfold emplace
  rw [dif_pos hk]
  split
  case isTrue h =>
    subst h
    rw [find?_eq_some_iff]
    exact (insertEntry_perm k' v m.entries).mem_iff.mpr List.mem_cons_self
  case isFalse h =>
    apply find?_ext
    intro w
    rw [(insertEntry_perm k v m.entries).mem_iff, List.mem_cons]
    constructor
    · rintro (heq | hmem)
      · exact absurd (congrArg Prod.fst heq) h
      · exact hmem
    · exact Or.inr

lemma emplace_of_some {m : FlatMap α} {k : Nat} {w : α} (hk : m.find? k = some w) (v : α) : m.emplace k v = m := by
  unfold emplace
  rw [dif_neg (by simp [hk])]

lemma find?_modify (m : FlatMap α) (k : Nat) (f : α → α) (k' : Nat) :
    (m.modify k f).find? k' = if k' = k then (m.find? k').map f else m.find? k' := by
  unfold modify find?
  dsimp only
  rw [List.find?_map]
  have hcomp : ((fun e : Nat × α => decide (e.1 = k')) ∘ fun e : Nat × α => (e.1, if e.1 = k then f e.2 else e.2)) =
      fun e => decide (e.1 = k') := rfl
  rw [hcomp]
  cases hfind : m.entries.find? fun e => decide (e.1 = k') with
  | none => simp
  | some e =>
    have hek : e.1 = k' := by simpa using List.find?_some hfind
    rw [← hek]
    by_cases h : e.1 = k <;> simp [h]

@[simp] lemma find?_modify_self (m : FlatMap α) (k : Nat) (f : α → α) :
    (m.modify k f).find? k = (m.find? k).map f := by
  rw [find?_modify, if_pos rfl]

lemma modify_eq_self {m : FlatMap α} {k : Nat} {f : α → α} (h : ∀ v, m.find? k = some v → f v = v) :
    m.modify k f = m := by
  obtain ⟨es, hs⟩ := m
  unfold modify
  congr 1
  conv_rhs => rw [← List.map_id es]
  apply List.map_congr_left
  intro e he
  by_cases hk : e.1 = k
  · subst hk
    simp [h e.2 (find?_eq_some_iff.mpr he)]
  · simp [hk]

@[simp] lemma find?_mapValues (m : FlatMap α) (f : α → α) (k : Nat) :
    (m.mapValues f).find? k = (m.find? k).map f := by
  unfold mapValues find?
  dsimp only
  rw [List.find?_map]
  have hcomp : ((fun e : Nat × α => decide (e.1 = k)) ∘ fun e : Nat × α => (e.1, f e.2)) =
      fun e => decide (e.1 = k) := rfl
  rw [hcomp]
  cases m.entries.find? fun e => decide (e.1 = k) <;> rfl

lemma find?_erase (m : FlatMap α) (k k' : Nat) :
    (m.erase k).find? k' = if k' = k then none else m.find? k' := by
  split
  case isTrue h =>
    subst h
    rw [find?_eq_none_iff]
    intro e he
    simpa using (List.mem_filter.mp he).2
  case isFalse h =>
    apply find?_ext
    intro v
    unfold erase
    rw [List.mem_filter]
    exact ⟨fun hmem => hmem.1, fun hmem => ⟨hmem, by simpa using h⟩⟩

lemma find?_mapValuesM {ε : Type} {m m' : FlatMap α} {f : α → Except ε α} (h : m.mapValuesM f = .ok m') (k : Nat) :
    (m.find? k = none ∧ m'.find? k = none) ∨ ∃ a b, m.find? k = some a ∧ f a = .ok b ∧ m'.find? k = some b := by
  unfold mapValuesM at h
  split at h
  case h_1 => cases h
  case h_2 es hes =>
    cases h
    have hrel := mapEntries_ok hes
    unfold find?
    dsimp only
    clear hes
    generalize m.entries = es₀ at hrel
    induction hrel with
    | nil => exact Or.inl ⟨rfl, rfl⟩
    | cons hr _ ih =>
      rename_i e e' _ _ _
      by_cases hk : e.1 = k
      · rw [List.find?_cons_of_pos (by simpa using hk), List.find?_cons_of_pos (by simpa [hr.1] using hk)]
        exact Or.inr ⟨e.2, e'.2, rfl, hr.2, rfl⟩
      · rw [List.find?_cons_of_neg (by simpa using hk), List.find?_cons_of_neg (by simpa [hr.1] using hk)]
        exact ih

lemma yields_mapValuesM {ε : Type} {f : α → Except ε α} {E : ε → Prop}
    (hf : ∀ a, Lib.Yields (f a) (fun _ => True) E) (m : FlatMap α) :
    Lib.Yields (m.mapValuesM f) (fun m' => m.mapValuesM f = .ok m') E := by
  refine Lib.yields_iff.mpr ⟨fun _ h => h, fun a h => ?_⟩
  have hentries : ∀ es : List (Nat × α), Lib.Yields (mapEntries f es) (fun _ => True) E := by
    intro es
    induction es with
    | nil => trivial
    | cons e es ih => exact Lib.yields_bind (hf e.2) fun v _ => Lib.yields_bind ih fun rest _ => trivial
  unfold mapValuesM at h
  split at h
  case h_1 he =>
    cases h
    exact (hentries m.entries).of_error he
  case h_2 => cases h

lemma mem_keys_iff {m : FlatMap α} {k : Nat} : k ∈ m.keys ↔ m.contains k = true := by
  rw [contains_iff]
  unfold keys
  rw [List.mem_map]
  constructor
  · rintro ⟨e, he, rfl⟩
    exact ⟨e.2, find?_eq_some_iff.mpr he⟩
  · rintro ⟨v, hv⟩
    exact ⟨(k, v), find?_eq_some_iff.mp hv, rfl⟩

lemma keys_nodup (m : FlatMap α) : m.keys.Nodup := by
  unfold keys
  rw [List.Nodup, List.pairwise_map]
  exact m.sorted.imp fun h => by omega

@[simp] lemma keys_modify (m : FlatMap α) (k : Nat) (f : α → α) : (m.modify k f).keys = m.keys := by
  unfold keys modify
  simp

@[simp] lemma contains_empty (k : Nat) : (empty : FlatMap α).contains k = false := rfl

@[simp] lemma contains_modify (m : FlatMap α) (k : Nat) (f : α → α) (k' : Nat) :
    (m.modify k f).contains k' = m.contains k' := by
  unfold contains
  rw [find?_modify]
  split
  case isTrue => exact Option.isSome_map
  case isFalse => rfl

@[simp] lemma contains_mapValues (m : FlatMap α) (f : α → α) (k : Nat) :
    (m.mapValues f).contains k = m.contains k := by
  unfold contains
  rw [find?_mapValues]
  exact Option.isSome_map

lemma contains_emplace {m : FlatMap α} {k : Nat} (hk : m.find? k = none) (v : α) (k' : Nat) :
    (m.emplace k v).contains k' = (decide (k' = k) || m.contains k') := by
  unfold contains
  rw [find?_emplace hk]
  by_cases h : k' = k <;> simp [h]

lemma contains_erase (m : FlatMap α) (k k' : Nat) : (m.erase k).contains k' = (decide (k' ≠ k) && m.contains k') := by
  unfold contains
  rw [find?_erase]
  by_cases h : k' = k <;> simp [h]

lemma eq_of_find? {m m' : FlatMap α} (h : ∀ k, m.find? k = m'.find? k) : m = m' := by
  have hmem : ∀ e, e ∈ m.entries ↔ e ∈ m'.entries := fun e => by
    rw [← find?_eq_some_iff (m := m), ← find?_eq_some_iff (m := m'), h]
  have hnodup : ∀ m : FlatMap α, m.entries.Nodup := fun m => m.sorted.imp fun hlt heq => by
    rw [heq] at hlt
    omega
  have hperm : m.entries.Perm m'.entries := (List.perm_ext_iff_of_nodup (hnodup m) (hnodup m')).mpr hmem
  have hentries : m.entries = m'.entries :=
    hperm.eq_of_pairwise (fun a b _ _ hab hba => by omega) m.sorted m'.sorted
  cases m
  cases m'
  cases hentries
  rfl

def weight (m : FlatMap α) (f : Nat → α → Nat) : Nat := (m.entries.map fun e => f e.1 e.2).sum

section Weight

variable {m : FlatMap α} {k : Nat} {v : α} {f g : Nat → α → Nat}

lemma filter_perm_of_mem {es : List (Nat × α)} (hs : es.Pairwise fun a b => a.1 < b.1) (hmem : (k, v) ∈ es) :
    es.Perm ((k, v) :: es.filter fun e => e.1 ≠ k) := by
  induction es with
  | nil => exact absurd hmem List.not_mem_nil
  | cons e es ih =>
    rw [List.pairwise_cons] at hs
    rcases List.mem_cons.mp hmem with rfl | hmem
    · have hrest : es.filter (fun e => e.1 ≠ k) = es := by
        rw [List.filter_eq_self]
        intro a ha
        have := hs.1 a ha
        simpa using fun h : a.1 = k => by dsimp only at this; omega
      rw [List.filter_cons_of_neg (by simp), hrest]
    · have hne : e.1 ≠ k := by
        have := hs.1 _ hmem
        dsimp only at this
        omega
      rw [List.filter_cons_of_pos (by simpa using hne)]
      exact ((ih hs.2 hmem).cons e).trans (List.Perm.swap (k, v) e _)

lemma entries_perm_erase (hk : m.find? k = some v) : m.entries.Perm ((k, v) :: (m.erase k).entries) :=
  filter_perm_of_mem m.sorted (find?_eq_some_iff.mp hk)

lemma entries_erase_modify (m : FlatMap α) (k : Nat) (h : α → α) :
    ((m.modify k h).erase k).entries = (m.erase k).entries := by
  change (m.entries.map fun e => (e.1, if e.1 = k then h e.2 else e.2)).filter (fun e => decide (e.1 ≠ k)) =
    m.entries.filter fun e => decide (e.1 ≠ k)
  rw [List.filter_map]
  change (m.entries.filter fun e => decide (e.1 ≠ k)).map _ = _
  conv_rhs => rw [← List.map_id (m.entries.filter fun e => decide (e.1 ≠ k))]
  apply List.map_congr_left
  intro e he
  have hne : e.1 ≠ k := by simpa using (List.mem_filter.mp he).2
  simp [hne]

lemma weight_perm {es fs : List (Nat × α)} (h : es.Perm fs) :
    (es.map fun e => f e.1 e.2).sum = (fs.map fun e => f e.1 e.2).sum :=
  (h.map _).sum_eq

lemma weight_erase (hk : m.find? k = some v) : (m.erase k).weight f + f k v = m.weight f := by
  unfold weight
  rw [weight_perm (entries_perm_erase hk), List.map_cons, List.sum_cons]
  exact Nat.add_comm _ _

lemma weight_modify (hk : m.find? k = some v) (h : α → α) :
    (m.modify k h).weight f + f k v = m.weight f + f k (h v) := by
  have hnew : (m.modify k h).find? k = some (h v) := by rw [find?_modify_self, hk]; rfl
  have hm := weight_erase (f := f) hk
  have hm' := weight_erase (f := f) hnew
  have heq : ((m.modify k h).erase k).weight f = (m.erase k).weight f := by
    unfold weight
    rw [entries_erase_modify]
  omega

lemma weight_emplace (hk : m.find? k = none) : (m.emplace k v).weight f = m.weight f + f k v := by
  unfold emplace weight
  rw [dif_pos hk, weight_perm (insertEntry_perm k v m.entries), List.map_cons, List.sum_cons]
  exact Nat.add_comm _ _

lemma le_weight (hk : m.find? k = some v) : f k v ≤ m.weight f := by
  rw [← weight_erase hk]
  exact Nat.le_add_left _ _

lemma weight_le {c : Nat} (h : ∀ k v, m.find? k = some v → f k v ≤ c) : m.weight f ≤ m.size * c := by
  unfold weight size
  have hle := List.sum_le_card_nsmul (m.entries.map fun e => f e.1 e.2) c fun x hx => by
    obtain ⟨e, he, rfl⟩ := List.mem_map.mp hx
    exact h e.1 e.2 (find?_eq_some_iff.mpr he)
  simpa using hle

lemma weight_eq_zero (h : ∀ k v, m.find? k = some v → f k v = 0) : m.weight f = 0 := by
  have := weight_le (c := 0) fun k v hk => (h k v hk).le
  omega

@[simp] lemma size_modify (h : α → α) : (m.modify k h).size = m.size := by
  unfold size modify
  simp

@[simp] lemma size_mapValues (h : α → α) : (m.mapValues h).size = m.size := by
  unfold size mapValues
  simp

lemma size_erase_le : (m.erase k).size ≤ m.size := List.length_filter_le _ _

lemma size_erase (hk : m.find? k = some v) : (m.erase k).size + 1 = m.size := by
  unfold size
  rw [(entries_perm_erase hk).length_eq, List.length_cons]

lemma size_emplace (hk : m.find? k = none) : (m.emplace k v).size = m.size + 1 := by
  unfold emplace size
  rw [dif_pos hk, (insertEntry_perm k v m.entries).length_eq, List.length_cons]

end Weight

lemma find?_emplace_eq_update {m : FlatMap α} {k : Nat} (hk : m.find? k = none) (v : α) :
    (m.emplace k v).find? = Function.update m.find? k (some v) := by
  funext k'
  rw [find?_emplace hk, Function.update_apply]

lemma find?_erase_eq_update (m : FlatMap α) (k : Nat) : (m.erase k).find? = Function.update m.find? k none := by
  funext k'
  rw [find?_erase, Function.update_apply]

lemma find?_modify_eq_update {m : FlatMap α} {k : Nat} {v : α} (hk : m.find? k = some v) (f : α → α) :
    (m.modify k f).find? = Function.update m.find? k (some (f v)) := by
  funext k'
  rw [find?_modify, Function.update_apply]
  split
  case isTrue h =>
    subst h
    simp [hk]
  case isFalse => simp

end FlatMap

end OwlsRan.Adt
