import Mathlib.Data.List.Induction
import OwlsRan.Adt.AssocRbTree
import OwlsRan.FlexRic.GlobalE2NodeId

/-!
# Listeners of indications at the near-RT RIC

The listeners of a RAN function hang off `pub_sub`, a tree with the ids of the RAN functions as keys.
-/

namespace OwlsRan.FlexRic

open OwlsRan.Adt

/-- `subs_ric_t`: a name and a function that is called with the data of indications. -/
structure SubsRic (φ : Type) where
  name : String
  fp : φ
  deriving DecidableEq

def cmpRanFuncId : ℕ → ℕ → Ordering := compareOn id

instance : Std.TransCmp cmpRanFuncId := inferInstanceAs (Std.TransCmp (compareOn id))

def eqRanFuncId (m0 m1 : ℕ) : Bool := m0 == m1

abbrev PubSub (φ : Type) := AssocRbTree cmpRanFuncId (List (SubsRic φ))

inductive PublishAbort
  /-- `Could not find a RAN function that matches the SM` -/
  | noRanFunction
  deriving DecidableEq

variable {φ δ : Type}

def registerListenersForRanFuncId (pubSub : PubSub φ) (ranFuncId : ℕ) (subs : SubsRic φ) : PubSub φ :=
  match pubSub.findIf (eqRanFuncId · ranFuncId) with
  | none => pubSub.insert ranFuncId [subs]
  | some _ => pubSub.modifyIf (eqRanFuncId · ranFuncId) fun arr => arr ++ [subs]

def publishIndMsg (pubSub : PubSub φ) (ranFuncId : ℕ) (d : δ) : Except PublishAbort (List (φ × δ)) :=
  match pubSub.findIf (eqRanFuncId · ranFuncId) with
  | none => .error .noRanFunction
  | some _ => match pubSub.front with
    | none => .ok []
    -- The list is taken from the front of the tree, not from where the RAN function was found.
    | some (_, arr) => .ok (arr.map fun sub => (sub.fp, d))

def registerAll (calls : List (ℕ × SubsRic φ)) : PubSub φ :=
  calls.foldl (fun pubSub call => registerListenersForRanFuncId pubSub call.1 call.2) .init

def listenersOf (calls : List (ℕ × SubsRic φ)) (ranFuncId : ℕ) : List (SubsRic φ) :=
  (calls.filter fun call => call.1 = ranFuncId).map Prod.snd

section Registration

variable {calls : List (ℕ × SubsRic φ)} {pubSub : PubSub φ} {ranFuncId : ℕ} {subs : SubsRic φ}

lemma listenersOf_append (calls calls' : List (ℕ × SubsRic φ)) (ranFuncId : ℕ) :
    listenersOf (calls ++ calls') ranFuncId = listenersOf calls ranFuncId ++ listenersOf calls' ranFuncId := by
  unfold listenersOf
  rw [List.filter_append, List.map_append]

lemma listenersOf_map_mk (listeners : List (SubsRic φ)) (k ranFuncId : ℕ) :
    listenersOf (listeners.map (Prod.mk k)) ranFuncId = if k = ranFuncId then listeners else [] := by
  unfold listenersOf
  rw [List.filter_map, List.map_map]
  split
  case isTrue h => simp [Function.comp_def, h]
  case isFalse h => simp [Function.comp_def, h]

lemma listenersOf_concat (calls : List (ℕ × SubsRic φ)) (k : ℕ) (subs : SubsRic φ) (ranFuncId : ℕ) :
    listenersOf (calls ++ [(k, subs)]) ranFuncId =
      listenersOf calls ranFuncId ++ if k = ranFuncId then [subs] else [] := by
  rw [listenersOf_append]
  exact congrArg _ (listenersOf_map_mk [subs] k ranFuncId)

/-- Each RAN function with a listener has one entry, and the entry holds its listeners. -/
structure Represents (pubSub : PubSub φ) (calls : List (ℕ × SubsRic φ)) : Prop where
  ascending : (pubSub.toList.map Prod.fst).Pairwise (· < ·)
  keys : ∀ ranFuncId, ranFuncId ∈ pubSub.toList.map Prod.fst ↔ ranFuncId ∈ calls.map Prod.fst
  values : ∀ entry ∈ pubSub.toList, entry.2 = listenersOf calls entry.1

lemma represents_init : Represents (.init : PubSub φ) [] :=
  ⟨List.Pairwise.nil, fun _ => Iff.rfl, fun _ hmem => nomatch hmem⟩

lemma eqRanFuncId_iff {m0 m1 : ℕ} : eqRanFuncId m0 m1 = true ↔ m0 = m1 := beq_iff_eq

lemma isLE_cmpRanFuncId {m0 m1 : ℕ} : (cmpRanFuncId m0 m1).isLE ↔ m0 ≤ m1 := Nat.isLE_compare

lemma cmpRanFuncId_lt {m0 m1 : ℕ} : cmpRanFuncId m0 m1 = .lt ↔ m0 < m1 := Nat.compare_eq_lt

lemma listenersOf_concat_of_ne {k : ℕ} (hne : ranFuncId ≠ k) :
    listenersOf (calls ++ [(ranFuncId, subs)]) k = listenersOf calls k := by
  rw [listenersOf_concat, if_neg hne, List.append_nil]

lemma listenersOf_eq_nil (h : ranFuncId ∉ calls.map Prod.fst) : listenersOf calls ranFuncId = [] := by
  unfold listenersOf
  rw [List.map_eq_nil_iff, List.filter_eq_nil_iff]
  intro call hcall heq
  apply h
  rw [← of_decide_eq_true heq]
  exact List.mem_map_of_mem hcall

lemma Represents.insert (h : Represents pubSub calls) (hnone : pubSub.findIf (eqRanFuncId · ranFuncId) = none)
    (subs : SubsRic φ) : Represents (pubSub.insert ranFuncId [subs]) (calls ++ [(ranFuncId, subs)]) := by
  have hnew : ranFuncId ∉ pubSub.toList.map Prod.fst := by
    intro hmem
    obtain ⟨entry, hentry, heq⟩ := List.mem_map.mp hmem
    have hne := AssocRbTree.findIf_eq_none.mp hnone entry hentry
    rw [eqRanFuncId_iff.mpr heq] at hne
    cases hne
  obtain ⟨l, r, htree, hinsert, hle, hlt⟩ := pubSub.toList_insert_split ranFuncId [subs]
  constructor
  · have hasc := h.ascending
    rw [htree, List.map_append] at hasc hnew
    rw [hinsert, List.map_append, List.map_cons, List.pairwise_append, List.pairwise_cons]
    rw [List.pairwise_append] at hasc
    refine ⟨hasc.1, ⟨fun k hk => ?_, hasc.2.1⟩, fun k hk k' hk' => ?_⟩
    · obtain ⟨entry, hentry, rfl⟩ := List.mem_map.mp hk
      exact cmpRanFuncId_lt.mp (hlt entry hentry)
    · rcases List.mem_cons.mp hk' with heq | hk'
      · obtain ⟨entry, hentry, rfl⟩ := List.mem_map.mp hk
        have hleq := isLE_cmpRanFuncId.mp (hle entry hentry)
        have hne : entry.1 ≠ ranFuncId := fun heq => hnew (List.mem_append_left _ (heq ▸ hk))
        rw [heq]
        exact Nat.lt_of_le_of_ne hleq hne
      · exact hasc.2.2 k hk k' hk'
  · intro k
    rw [(AssocRbTree.perm_insert.map Prod.fst).mem_iff, List.map_cons, List.mem_cons, h.keys k, List.map_append,
      List.mem_append, List.map_singleton, List.mem_singleton, or_comm]
  · intro entry hentry
    rcases AssocRbTree.mem_insert.mp hentry with rfl | hentry
    · have hnil : listenersOf calls ranFuncId = [] := listenersOf_eq_nil fun hmem => hnew ((h.keys ranFuncId).mpr hmem)
      rw [listenersOf_concat, if_pos rfl, hnil, List.nil_append]
    · have hne : ranFuncId ≠ entry.1 := fun heq => hnew (heq ▸ List.mem_map_of_mem hentry)
      rw [listenersOf_concat_of_ne hne, h.values entry hentry]

lemma Represents.modify {entry : ℕ × List (SubsRic φ)} (h : Represents pubSub calls)
    (hsome : pubSub.findIf (eqRanFuncId · ranFuncId) = some entry) (subs : SubsRic φ) :
    Represents (pubSub.modifyIf (eqRanFuncId · ranFuncId) fun arr => arr ++ [subs]) (calls ++ [(ranFuncId, subs)]) := by
  obtain ⟨k, arr⟩ := entry
  obtain ⟨hmem, heq⟩ := AssocRbTree.mem_of_findIf hsome
  obtain rfl := eqRanFuncId_iff.mp heq
  obtain ⟨l, r, htree, hmodify⟩ := AssocRbTree.toList_modifyIf (f := fun arr => arr ++ [subs]) hsome
  have hkeys : (pubSub.modifyIf (eqRanFuncId · k) fun arr => arr ++ [subs]).toList.map Prod.fst =
      pubSub.toList.map Prod.fst := by
    rw [hmodify, htree, List.map_append, List.map_append, List.map_cons, List.map_cons]
  have hasc := h.ascending
  rw [htree, List.map_append, List.map_cons, List.pairwise_append, List.pairwise_cons] at hasc
  constructor
  · rw [hkeys]
    exact h.ascending
  · intro k'
    rw [hkeys, h.keys k', List.map_append, List.mem_append, List.map_singleton, List.mem_singleton]
    exact (or_iff_left_of_imp fun heq' => heq' ▸ (h.keys k).mp (List.mem_map_of_mem hmem)).symm
  · intro entry hentry
    rw [hmodify] at hentry
    rcases List.mem_append.mp hentry with hl | hr
    · have hne : k ≠ entry.1 := Nat.ne_of_gt (hasc.2.2 entry.1 (List.mem_map_of_mem hl) k List.mem_cons_self)
      rw [listenersOf_concat_of_ne hne]
      exact h.values entry (htree ▸ List.mem_append_left _ hl)
    · rcases List.mem_cons.mp hr with rfl | hr
      · rw [listenersOf_concat, if_pos rfl, ← h.values _ hmem]
      · have hne : k ≠ entry.1 := Nat.ne_of_lt (hasc.2.1.1 entry.1 (List.mem_map_of_mem hr))
        rw [listenersOf_concat_of_ne hne]
        exact h.values entry (htree ▸ List.mem_append_right _ (List.mem_cons_of_mem _ hr))

lemma Represents.register (h : Represents pubSub calls) (ranFuncId : ℕ) (subs : SubsRic φ) :
    Represents (registerListenersForRanFuncId pubSub ranFuncId subs) (calls ++ [(ranFuncId, subs)]) := by
  unfold registerListenersForRanFuncId
  cases hfind : pubSub.findIf (eqRanFuncId · ranFuncId) with
  | none => exact h.insert hfind subs
  | some entry => exact h.modify hfind subs

lemma represents_registerAll (calls : List (ℕ × SubsRic φ)) : Represents (registerAll calls) calls := by
  induction calls using List.reverseRecOn with
  | nil => exact represents_init
  | append_singleton calls call ih =>
    unfold registerAll at ih ⊢
    rw [List.foldl_concat]
    exact ih.register call.1 call.2

end Registration

section Publication

variable {calls : List (ℕ × SubsRic φ)} {pubSub : PubSub φ} {ranFuncId : ℕ}

def firstRanFuncId (calls : List (ℕ × SubsRic φ)) : Option ℕ := (calls.map Prod.fst).min?

lemma listeners_called_iff {l l' : List (SubsRic φ)} {d : δ} :
    (l.map fun sub => (sub.fp, d)) = (l'.map fun sub => (sub.fp, d)) ↔ l.map SubsRic.fp = l'.map SubsRic.fp := by
  have hpair : ∀ l : List (SubsRic φ), (l.map fun sub => (sub.fp, d)) = (l.map SubsRic.fp).map fun fp => (fp, d) :=
    fun l => by rw [List.map_map]; rfl
  rw [hpair, hpair]
  exact (List.map_injective_iff.mpr fun _ _ heq => congrArg Prod.fst heq).eq_iff

lemma Represents.publish (h : Represents pubSub calls) {first : ℕ} (hfirst : firstRanFuncId calls = some first)
    (hmem : ranFuncId ∈ calls.map Prod.fst) (d : δ) :
    publishIndMsg pubSub ranFuncId d = .ok ((listenersOf calls first).map fun sub => (sub.fp, d)) := by
  obtain ⟨hfirstMem, hleast⟩ := List.min?_eq_some_iff.mp hfirst
  obtain ⟨entry, hentry, heq⟩ := List.mem_map.mp ((h.keys ranFuncId).mpr hmem)
  have hasc := h.ascending
  have hkeys := h.keys first
  cases htree : pubSub.toList with
  | nil =>
    rw [htree] at hentry
    cases hentry
  | cons head tail =>
    rw [htree, List.map_cons, List.pairwise_cons] at hasc
    rw [htree, List.map_cons, List.mem_cons] at hkeys
    have hhead : head ∈ pubSub.toList := htree ▸ List.mem_cons_self
    have hkey : head.1 = first := by
      have hle := hleast head.1 ((h.keys head.1).mp (List.mem_map_of_mem hhead))
      rcases hkeys.mpr hfirstMem with heq | htail
      · exact heq.symm
      · exact absurd (hasc.1 first htail) (Nat.not_lt.mpr hle)
    have hfind : pubSub.findIf (eqRanFuncId · ranFuncId) ≠ none := by
      intro hnone
      have hne := AssocRbTree.findIf_eq_none.mp hnone entry hentry
      rw [eqRanFuncId_iff.mpr heq] at hne
      cases hne
    have hfront : pubSub.front = some head := by rw [AssocRbTree.front, htree, List.head?_cons]
    unfold publishIndMsg
    cases hsearch : pubSub.findIf (eqRanFuncId · ranFuncId) with
    | none => exact absurd hsearch hfind
    | some entry =>
      rw [hfront]
      change Except.ok (head.2.map _) = _
      rw [h.values head hhead, hkey]

lemma Represents.publish_missing (h : Represents pubSub calls) (hmem : ranFuncId ∉ calls.map Prod.fst) (d : δ) :
    publishIndMsg pubSub ranFuncId d = .error .noRanFunction := by
  have hnone : pubSub.findIf (eqRanFuncId · ranFuncId) = none := by
    apply AssocRbTree.findIf_eq_none.mpr
    intro entry hentry
    rw [Bool.eq_false_iff]
    intro heq
    apply hmem
    rw [← eqRanFuncId_iff.mp heq]
    exact (h.keys entry.1).mp (List.mem_map_of_mem hentry)
  unfold publishIndMsg
  rw [hnone]

/-- The listeners of the RAN function are called, each once and in order, exactly if it has a listener and the smallest
RAN function has the same functions registered. -/
theorem publishIndMsg_correct_iff (calls : List (ℕ × SubsRic φ)) (ranFuncId : ℕ) (d : δ) :
    publishIndMsg (registerAll calls) ranFuncId d = .ok ((listenersOf calls ranFuncId).map fun sub => (sub.fp, d)) ↔
      ranFuncId ∈ calls.map Prod.fst ∧ ∀ first ∈ firstRanFuncId calls,
        (listenersOf calls first).map SubsRic.fp = (listenersOf calls ranFuncId).map SubsRic.fp := by
  have h := represents_registerAll calls
  by_cases hmem : ranFuncId ∈ calls.map Prod.fst
  · obtain ⟨first, hfirst⟩ : ∃ first, firstRanFuncId calls = some first :=
      Option.isSome_iff_exists.mp (List.isSome_min?_of_mem hmem)
    rw [h.publish hfirst hmem d, Except.ok.injEq, hfirst, listeners_called_iff, and_iff_right hmem]
    constructor
    · intro heq g hg
      rw [← Option.mem_some_iff.mp hg]
      exact heq
    · intro heq
      exact heq first rfl
  · rw [h.publish_missing hmem d]
    exact iff_of_false (fun hok => nomatch hok) fun hboth => hmem hboth.1

/-- The listener of RAN function 2 is called for an indication of RAN function 3. -/
theorem publishIndMsg_wrong_listener :
    publishIndMsg (registerAll [(3, ⟨"redis listener", true⟩), (2, ⟨"influx listener", false⟩)]) 3 () =
      .ok [(false, ())] ∧
    listenersOf [(3, ⟨"redis listener", true⟩), (2, ⟨"influx listener", false⟩)] 3 = [⟨"redis listener", true⟩] := by
  decide

end Publication

end OwlsRan.FlexRic
