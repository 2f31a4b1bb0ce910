import OwlsRan.Adt.AssocRbBalance
import Mathlib.Data.Multiset.ZeroCons

/-!
# `assoc_rb_tree` as an ordered multimap

The iteration over a tree, and the runs of its operations beside those of the multiset of the stored pairs.
-/

namespace OwlsRan.Adt

universe u v

variable {κ : Type u} {ν : Type v}

/-- An iterator: a node with the frames above it, or `dummy` at the end. -/
abbrev AssocIter (κ : Type u) (ν : Type v) := AssocNode κ ν × List (AssocFrame κ ν)

namespace AssocIter

open AssocNode

/-- `minimum` of a tree that may be empty -/
def leftmost : AssocNode κ ν → List (AssocFrame κ ν) → AssocIter κ ν
  | .dummy, fs => (.dummy, fs)
  | .node c l k v r, fs =>
    let y := minimum c k v r l fs
    (.node y.1.1 .dummy y.1.2.1 y.1.2.2.1 y.1.2.2.2, y.2)

/-- The loop of `assoc_rb_tree_next`: up to the first parent that is left through its left child. -/
def climb : AssocNode κ ν → List (AssocFrame κ ν) → AssocIter κ ν
  | _, [] => (.dummy, [])
  | t, f :: fs => match f.side with
    | .left => (f.plug t, fs)
    | .right => climb (f.plug t) fs

/-- `assoc_rb_tree_next`, which the source asserts not to be called at the end. -/
def next : AssocIter κ ν → AssocIter κ ν
  | (.dummy, fs) => (.dummy, fs)
  | (.node c l k v .dummy, fs) => climb (.node c l k v .dummy) fs
  | (.node c l k v r, fs) => leftmost r (⟨.right, c, k, v, l⟩ :: fs)

/-- The pairs from an iterator on, as a loop meets them that stops at `assoc_rb_tree_end` or after `fuel` rounds. -/
def visited : ℕ → AssocIter κ ν → List (κ × ν)
  | 0, _ => []
  | _ + 1, (.dummy, _) => []
  | fuel + 1, (.node c l k v r, fs) => (k, v) :: visited fuel (next (.node c l k v r, fs))

def rest : AssocIter κ ν → List (κ × ν)
  | (.dummy, _) => []
  | (.node _ _ k v r, fs) => (k, v) :: (r.toList ++ after fs)

lemma rest_leftmost (c : AssocColor) (l : AssocNode κ ν) (k : κ) (v : ν) (r : AssocNode κ ν)
    (fs : List (AssocFrame κ ν)) :
    rest (leftmost (.node c l k v r) fs) = (node c l k v r).toList ++ after fs :=
  toList_minimum c k v r l fs

lemma rest_climb (t : AssocNode κ ν) (fs : List (AssocFrame κ ν)) : rest (climb t fs) = after fs := by
  induction fs generalizing t with
  | nil => rfl
  | cons f fs ih =>
    unfold climb
    split
    case h_1 hside =>
      rw [AssocFrame.plug, hside]
      simp [rest, after, AssocFrame.after, hside]
    case h_2 hside =>
      rw [ih]
      simp [after, AssocFrame.after, hside]

lemma rest_next (it : AssocIter κ ν) : rest (next it) = (rest it).tail := by
  unfold next
  split
  case h_1 => rfl
  case h_2 => exact rest_climb _ _
  case h_3 c l k v r fs hr =>
    cases r with
    | dummy => exact absurd rfl hr
    | node c' l' k' v' r' =>
      rw [rest_leftmost]
      simp [rest, after, AssocFrame.after]

lemma visited_eq_rest {fuel : ℕ} {it : AssocIter κ ν} (h : (rest it).length ≤ fuel) : visited fuel it = rest it := by
  induction fuel generalizing it with
  | zero => exact (List.length_eq_zero_iff.mp (Nat.le_zero.mp h)).symm
  | succ fuel ih =>
    obtain ⟨t, fs⟩ := it
    cases t with
    | dummy => rfl
    | node c l k v r =>
      have htail := rest_next (.node c l k v r, fs)
      rw [visited, ih, htail]
      · rfl
      · rw [htail]
        simpa [rest] using h

end AssocIter

namespace AssocRbTree

open AssocNode

variable {comp : κ → κ → Ordering} {t t' : AssocRbTree comp ν} {key k : κ} {value v : ν}

/-- `assoc_rb_tree_front` -/
def frontIter (t : AssocRbTree comp ν) : AssocIter κ ν := .leftmost t.root []

def At (t : AssocRbTree comp ν) (it : AssocIter κ ν) : Prop := zip it.1 it.2 = t.root ∧ it.1 ≠ .dummy

variable {l r : AssocNode κ ν} {fs : List (AssocFrame κ ν)}

lemma toList_of_at {c : AssocColor}
    (h : t.At (.node c l k v r, fs)) : t.toList = before fs ++ (l.toList ++ (k, v) :: r.toList) ++ after fs := by
  rw [toList, ← h.1, toList_zip, toList_node]

lemma ordered_extractNode {c : AssocColor}
    (h : t.At (.node c l k v r, fs)) : (extractNode c l r fs).Ordered comp := by
  have hord : t.toList.Pairwise _ := t.ordered
  rw [toList_of_at h] at hord
  unfold Ordered
  rw [toList_extractNode]
  exact hord.sublist (by simp)

lemma size_extractNode {c : AssocColor}
    (h : t.At (.node c l k v r, fs)) : t.size - 1 = (extractNode c l r fs).toList.length := by
  rw [← length_toList, toList_of_at h, toList_extractNode]
  simp only [List.length_append, List.length_cons]
  omega

/-- `assoc_rb_tree_free_it`, with the pair that is freed. -/
def freeIt (t : AssocRbTree comp ν) (it : AssocIter κ ν) (h : t.At it) : (κ × ν) × AssocRbTree comp ν :=
  match it, h with
  | (.dummy, _), h => (h.2 rfl).elim
  | (.node c l k v r, fs), h => ((k, v), {
      root := extractNode c l r fs
      size := t.size - 1
      ordered := ordered_extractNode h
      size_eq := size_extractNode h })

def pairs (t : AssocRbTree comp ν) : Multiset (κ × ν) := t.toList

/-- The root is black, no red node has a red child, and all paths down pass equally many black nodes. -/
def IsRedBlack (t : AssocRbTree comp ν) : Prop := t.root.color = .black ∧ ∃ n, t.root.RedBlack n

/-- Whichever number of rounds a loop from the front may take, if they suffice it meets the pairs in their order. -/
def IteratesInOrder (t : AssocRbTree comp ν) : Prop := ∀ fuel, t.size ≤ fuel → t.frontIter.visited fuel = t.toList

end AssocRbTree

inductive AssocCall (κ : Type u) (ν : Type v)
  | insert (key : κ) (value : ν)
  | extract (key : κ) (value : ν)
  | freeIt (key : κ) (value : ν)

inductive MultimapStep (comp : κ → κ → Ordering) : AssocCall κ ν → Multiset (κ × ν) → Multiset (κ × ν) → Prop
  | insert (key : κ) (value : ν) (m : Multiset (κ × ν)) : MultimapStep comp (.insert key value) m ((key, value) ::ₘ m)
  | extract {key k : κ} {value : ν} (hk : comp key k = .eq) (m : Multiset (κ × ν)) :
      MultimapStep comp (.extract key value) ((k, value) ::ₘ m) m
  | freeIt (key : κ) (value : ν) (m : Multiset (κ × ν)) : MultimapStep comp (.freeIt key value) ((key, value) ::ₘ m) m

/-- What an operation does to a tree: the key is there, and the iterator is one of the tree. -/
inductive TreeStep {comp : κ → κ → Ordering} [Std.TransCmp comp] :
    AssocCall κ ν → AssocRbTree comp ν → AssocRbTree comp ν → Prop
  | insert (key : κ) (value : ν) (t : AssocRbTree comp ν) : TreeStep (.insert key value) t (t.insert key value)
  | extract {key : κ} {value : ν} {t t' : AssocRbTree comp ν} (h : t.extract key = some (value, t')) :
      TreeStep (.extract key value) t t'
  | freeIt {t : AssocRbTree comp ν} (it : AssocIter κ ν) (h : t.At it) :
      TreeStep (.freeIt (t.freeIt it h).1.1 (t.freeIt it h).1.2) t (t.freeIt it h).2

inductive AssocRun {σ : Type*} (step : AssocCall κ ν → σ → σ → Prop) (s : σ) : List (AssocCall κ ν) → σ → Prop
  | start : AssocRun step s [] s
  | call {calls : List (AssocCall κ ν)} {call : AssocCall κ ν} {s' s'' : σ} (hrun : AssocRun step s calls s')
      (hstep : step call s' s'') : AssocRun step s (calls ++ [call]) s''

namespace AssocRbTree

open AssocNode

variable {comp : κ → κ → Ordering} {t t' : AssocRbTree comp ν} {call : AssocCall κ ν} {key k : κ} {value v : ν}

lemma iteratesInOrder (t : AssocRbTree comp ν) : t.IteratesInOrder := by
  intro fuel hfuel
  have hrest : t.frontIter.rest = t.toList := by
    unfold frontIter toList
    cases t.root with
    | dummy => rfl
    | node c l k v r =>
      rw [AssocIter.rest_leftmost]
      exact List.append_nil _
  rw [AssocIter.visited_eq_rest (by rwa [hrest, length_toList]), hrest]

lemma isRedBlack_init : (init : AssocRbTree comp ν).IsRedBlack := ⟨rfl, 0, .dummy⟩

lemma IsRedBlack.extractNode {c : AssocColor} {l r : AssocNode κ ν} {fs : List (AssocFrame κ ν)}
    (ht : t.IsRedBlack) (h : zip (.node c l k v r) fs = t.root) :
    (extractNode c l r fs).color = .black ∧ ∃ n, (extractNode c l r fs).RedBlack n := by
  obtain ⟨hcolor, n, hn⟩ := ht
  rw [← h] at hcolor hn
  obtain ⟨m, hnode, hfits⟩ := fits_of_zip hn hcolor
  obtain ⟨m', hm, hmc⟩ := redBlack_extractNode hnode hfits
  exact ⟨hmc, m', hm⟩

lemma extract_spec (h : t.extract key = some (value, t')) :
    (∃ k, comp key k = .eq ∧ t.pairs = (k, value) ::ₘ t'.pairs) ∧ (t.IsRedBlack → t'.IsRedBlack) := by
  unfold extract at h
  split at h
  case h_1 => cases h
  case h_2 c l k v r fs hloc =>
    obtain ⟨rfl, rfl⟩ := by simpa using h
    have hzip := zip_locate comp key t.root []
    rw [hloc] at hzip
    refine ⟨⟨k, comp_locate hloc, ?_⟩, fun ht => ht.extractNode hzip⟩
    rw [pairs, pairs, toList_of_locate hloc, toList, toList_extractNode, Multiset.cons_coe, Multiset.coe_eq_coe]
    simp only [List.append_assoc, List.cons_append]
    exact (List.perm_middle.append_left _).trans List.perm_middle |>.trans (by simp)

lemma freeIt_spec {it : AssocIter κ ν} (h : t.At it) :
    t.pairs = (t.freeIt it h).1 ::ₘ (t.freeIt it h).2.pairs ∧ (t.IsRedBlack → (t.freeIt it h).2.IsRedBlack) := by
  obtain ⟨x, fs⟩ := it
  cases x with
  | dummy => exact (h.2 rfl).elim
  | node c l k v r =>
    refine ⟨?_, fun ht => ht.extractNode h.1⟩
    rw [pairs, pairs, toList_of_at h, freeIt, toList, toList_extractNode, Multiset.cons_coe, Multiset.coe_eq_coe]
    simp only [List.append_assoc, List.cons_append]
    exact (List.perm_middle.append_left _).trans List.perm_middle |>.trans (by simp)

lemma treeStep_spec [Std.TransCmp comp] (h : TreeStep call t t') :
    MultimapStep comp call t.pairs t'.pairs ∧ (t.IsRedBlack → t'.IsRedBlack) := by
  cases h with
  | insert key value =>
    have hpairs : (t.insert key value).pairs = (key, value) ::ₘ t.pairs := Multiset.coe_eq_coe.mpr perm_insert
    rw [hpairs]
    exact ⟨.insert key value _, fun ht => ⟨color_setBlack _, redBlack_insert comp key value ht.2.choose_spec ht.1⟩⟩
  | extract hextract =>
    obtain ⟨⟨k, hk, hpairs⟩, hkeep⟩ := extract_spec hextract
    rw [hpairs]
    exact ⟨.extract hk _, hkeep⟩
  | freeIt it hat =>
    obtain ⟨hpairs, hkeep⟩ := freeIt_spec hat
    rw [hpairs]
    exact ⟨.freeIt _ _ _, hkeep⟩

lemma isSome_extract [Std.TransCmp comp] :
    (t.extract key).isSome = true ↔ ∃ a ∈ t.pairs, comp key a.1 = .eq := by
  constructor
  · intro h
    obtain ⟨⟨value, t'⟩, hextract⟩ := Option.isSome_iff_exists.mp h
    obtain ⟨⟨k, hk, hpairs⟩, -⟩ := extract_spec hextract
    exact ⟨(k, value), by simp [hpairs], hk⟩
  · rintro ⟨a, ha, hcomp⟩
    cases hfind : t.find? key with
    | none => exact absurd hcomp (find?_eq_none.mp hfind a ha)
    | some b =>
      obtain ⟨t', hextract, -⟩ := extract_eq_some hfind
      rw [hextract]
      rfl

/-- After any operations the tree is a red-black search tree of the pairs of the multimap, a loop from the front meets
them in the order of their keys, and the keys that can be taken out are those that are there. -/
theorem refines_ordered_multimap [Std.TransCmp comp] {calls : List (AssocCall κ ν)}
    (h : AssocRun TreeStep (init : AssocRbTree comp ν) calls t) :
    AssocRun (MultimapStep comp) 0 calls t.pairs ∧ t.root.Ordered comp ∧ t.IsRedBlack ∧ t.size = t.pairs.card ∧
      t.IteratesInOrder ∧ ∀ key, (t.extract key).isSome = true ↔ ∃ a ∈ t.pairs, comp key a.1 = .eq := by
  have hrun : AssocRun (MultimapStep comp) 0 calls t.pairs ∧ t.IsRedBlack := by
    induction h with
    | start => exact ⟨.start, isRedBlack_init⟩
    | call _ hstep ih =>
      obtain ⟨habs, hkeep⟩ := treeStep_spec hstep
      exact ⟨.call ih.1 habs, hkeep ih.2⟩
  exact ⟨hrun.1, t.ordered, hrun.2, t.size_eq, t.iteratesInOrder, fun key => isSome_extract⟩

/-- Two pairs with one key go in, one comes out, and the front is freed. -/
theorem refines_ordered_multimap_freed :
    ∃ t : AssocRbTree (compare : ℕ → ℕ → Ordering) Bool,
      AssocRun (MultimapStep compare) 0
        [.insert 2 true, .insert 2 false, .insert 1 true, .extract 2 true, .freeIt 1 true] t.pairs ∧ t.size = 1 := by
  let t₃ : AssocRbTree (compare : ℕ → ℕ → Ordering) Bool := ((init.insert 2 true).insert 2 false).insert 1 true
  let t₄ := ((t₃.extract 2).get rfl).2
  have hextract : t₃.extract 2 = some (true, t₄) := rfl
  have hat : t₄.At t₄.frontIter := ⟨rfl, nofun⟩
  have hrun : AssocRun TreeStep (init : AssocRbTree (compare : ℕ → ℕ → Ordering) Bool)
      [.insert 2 true, .insert 2 false, .insert 1 true, .extract 2 true, .freeIt 1 true] (t₄.freeIt _ hat).2 :=
    .call (.call (.call (.call (.call .start (.insert 2 true _)) (.insert 2 false _)) (.insert 1 true _))
      (.extract hextract)) (.freeIt _ hat)
  exact ⟨_, (refines_ordered_multimap hrun).1, rfl⟩

end AssocRbTree

end OwlsRan.Adt
