import Mathlib.Data.List.Basic

/-!
# `assoc_rb_tree`

A red-black tree that maps keys to values and keeps every pair it is given, equal keys included.
-/

namespace OwlsRan.Adt

universe u v

inductive AssocColor
  | black
  | red
  deriving DecidableEq

inductive AssocSide
  | left
  | right
  deriving DecidableEq

inductive AssocNode (κ : Type u) (ν : Type v)
  | dummy
  | node (color : AssocColor) (left : AssocNode κ ν) (key : κ) (value : ν) (right : AssocNode κ ν)

/-- A parent without the subtree at `side`. -/
structure AssocFrame (κ : Type u) (ν : Type v) where
  side : AssocSide
  color : AssocColor
  key : κ
  value : ν
  sibling : AssocNode κ ν

variable {κ : Type u} {ν : Type v}

namespace AssocNode

def color : AssocNode κ ν → AssocColor
  | dummy => .black
  | node c _ _ _ _ => c

def setColor (c : AssocColor) : AssocNode κ ν → AssocNode κ ν
  | dummy => dummy
  | node _ l k v r => node c l k v r

def child (s : AssocSide) : AssocNode κ ν → AssocNode κ ν
  | dummy => dummy
  | node _ l _ _ r => match s with
    | .left => l
    | .right => r

def mapChild (s : AssocSide) (f : AssocNode κ ν → AssocNode κ ν) : AssocNode κ ν → AssocNode κ ν
  | dummy => dummy
  | node c l k v r => match s with
    | .left => node c (f l) k v r
    | .right => node c l k v (f r)

/-- The pairs in the order in which `front` and `next` visit them. -/
def toList : AssocNode κ ν → List (κ × ν)
  | dummy => []
  | node _ l k v r => l.toList ++ (k, v) :: r.toList

def leftRotate : AssocNode κ ν → AssocNode κ ν
  | node cx a kx vx (node cy b ky vy c) => node cy (node cx a kx vx b) ky vy c
  | x => x

def rightRotate : AssocNode κ ν → AssocNode κ ν
  | node cx (node cy a ky vy b) kx vx c => node cy a ky vy (node cx b kx vx c)
  | x => x

/-- `leftRotate` or its mirror image. -/
def rotate : AssocSide → AssocNode κ ν → AssocNode κ ν
  | .left => leftRotate
  | .right => rightRotate

end AssocNode

def AssocSide.other : AssocSide → AssocSide
  | .left => .right
  | .right => .left

namespace AssocFrame

def plug (f : AssocFrame κ ν) (t : AssocNode κ ν) : AssocNode κ ν := match f.side with
  | .left => .node f.color t f.key f.value f.sibling
  | .right => .node f.color f.sibling f.key f.value t

def before (f : AssocFrame κ ν) : List (κ × ν) := match f.side with
  | .left => []
  | .right => f.sibling.toList ++ [(f.key, f.value)]

def after (f : AssocFrame κ ν) : List (κ × ν) := match f.side with
  | .left => (f.key, f.value) :: f.sibling.toList
  | .right => []

end AssocFrame

namespace AssocNode

def zip : AssocNode κ ν → List (AssocFrame κ ν) → AssocNode κ ν
  | t, [] => t
  | t, f :: fs => zip (f.plug t) fs

/-- Cases 2 and 3 of `insert_fixup`, below a black uncle: `z` is turned to the outer side and its parent takes the place
of its grandparent. -/
def insertRotate (z : AssocNode κ ν) (parent grandParent : AssocFrame κ ν) : AssocNode κ ν :=
  let p := if parent.side = grandParent.side then parent.plug z else rotate grandParent.side (parent.plug z)
  rotate grandParent.side.other ({ grandParent with color := .red }.plug (p.setColor .black))

def insertFixup : AssocNode κ ν → List (AssocFrame κ ν) → AssocNode κ ν
  | z, [] => z
  | z, [root] => root.plug z
  | z, parent :: grandParent :: fs =>
    if parent.color = .red then
      if grandParent.sibling.color = .red then
        insertFixup ({ grandParent with color := .red, sibling := grandParent.sibling.setColor .black }.plug
          ({ parent with color := .black }.plug z)) fs
      else zip (insertRotate z parent grandParent) fs
    else zip (parent.plug z) (grandParent :: fs)

def leafPath (comp : κ → κ → Ordering) (key : κ) :
    AssocNode κ ν → List (AssocFrame κ ν) → List (AssocFrame κ ν)
  | dummy, fs => fs
  | node c l k v r, fs =>
    if comp key k = .lt then leafPath comp key l (⟨.left, c, k, v, r⟩ :: fs)
    else leafPath comp key r (⟨.right, c, k, v, l⟩ :: fs)

def insert (comp : κ → κ → Ordering) (t : AssocNode κ ν) (key : κ) (value : ν) : AssocNode κ ν :=
  (insertFixup (node .red dummy key value dummy) (leafPath comp key t [])).setColor .black

/-- `find_rb_tree`: the topmost node with an equal key, or `dummy`, with the frames above it. -/
def locate (comp : κ → κ → Ordering) (key : κ) :
    AssocNode κ ν → List (AssocFrame κ ν) → AssocNode κ ν × List (AssocFrame κ ν)
  | dummy, fs => (dummy, fs)
  | node c l k v r, fs => match comp key k with
    | .lt => locate comp key l (⟨.left, c, k, v, r⟩ :: fs)
    | .gt => locate comp key r (⟨.right, c, k, v, l⟩ :: fs)
    | .eq => (node c l k v r, fs)

/-- Case 3 of `delete_fixup`: the sibling is turned away from `x` when its far child is black. -/
def turnSibling (s : AssocSide) (w : AssocNode κ ν) : AssocNode κ ν :=
  if (w.child s.other).color = .black then
    rotate s.other ((w.mapChild s (setColor .black)).setColor .red)
  else w

/-- Case 4 of `delete_fixup`: the sibling takes the place and the colour of the parent. -/
def raiseSibling (x : AssocNode κ ν) (f : AssocFrame κ ν) (w : AssocNode κ ν) : AssocNode κ ν :=
  rotate f.side ({ f with
    color := .black, sibling := (w.mapChild f.side.other (setColor .black)).setColor f.color }.plug x)

/-- Cases 2, 3 and 4 of `delete_fixup`, beside a black sibling: `true` when the loop ends at the root. -/
def deleteFixupBlackSibling (x : AssocNode κ ν) (f : AssocFrame κ ν) : Bool × AssocNode κ ν :=
  if (f.sibling.child .left).color = .black ∧ (f.sibling.child .right).color = .black then
    (false, { f with sibling := f.sibling.setColor .red }.plug x)
  else (true, raiseSibling x f (turnSibling f.side f.sibling))

/-- Case 1 of `delete_fixup`: the parent of `x` once its red sibling is rotated above it. -/
def loweredParent (f : AssocFrame κ ν) : AssocFrame κ ν :=
  { f with color := .red, sibling := f.sibling.child f.side }

/-- `x` lacks one black node: the loop of `delete_fixup`, with the colouring of the node at which it ends. -/
def deleteFixup : AssocNode κ ν → List (AssocFrame κ ν) → AssocNode κ ν
  | x, [] => x.setColor .black
  | x, f :: fs =>
    if x.color = .red then zip (x.setColor .black) (f :: fs)
    else match f.sibling with
      | node .red _ k v _ =>
        let above : AssocFrame κ ν := ⟨f.side, .black, k, v, f.sibling.child f.side.other⟩
        match deleteFixupBlackSibling x (loweredParent f) with
        | (true, t) => (zip t (above :: fs)).setColor .black
        -- The parent is red after case 1, so the loop ends there.
        | (false, t) => zip (t.setColor .black) (above :: fs)
      | _ => match deleteFixupBlackSibling x f with
        | (true, t) => (zip t fs).setColor .black
        | (false, t) => deleteFixup t fs

/-- The first node, in the order of the keys, whose key satisfies `p`, or `dummy`. -/
def locateIf (p : κ → Bool) :
    AssocNode κ ν → List (AssocFrame κ ν) → AssocNode κ ν × List (AssocFrame κ ν)
  | dummy, fs => (dummy, fs)
  | node c l k v r, fs => match locateIf p l (⟨.left, c, k, v, r⟩ :: fs) with
    | (node c' l' k' v' r', fs') => (node c' l' k' v' r', fs')
    | (dummy, _) => if p k then (node c l k v r, fs) else locateIf p r (⟨.right, c, k, v, l⟩ :: fs)

/-- `minimum`: the frames above the leftmost node, its colour, key, value and right child. -/
def minimum (c : AssocColor) (k : κ) (v : ν) (r : AssocNode κ ν) :
    AssocNode κ ν → List (AssocFrame κ ν) → (AssocColor × κ × ν × AssocNode κ ν) × List (AssocFrame κ ν)
  | dummy, fs => ((c, k, v, r), fs)
  | node c' l' k' v' r', fs => minimum c' k' v' r' l' (⟨.left, c, k, v, r⟩ :: fs)

def afterExtract (original : AssocColor) (x : AssocNode κ ν) (fs : List (AssocFrame κ ν)) : AssocNode κ ν :=
  if original = .black then deleteFixup x fs else zip x fs

/-- `assoc_rb_tree_extract_node` for the node with these children below `fs`. -/
def extractNode (c : AssocColor) (l r : AssocNode κ ν) (fs : List (AssocFrame κ ν)) : AssocNode κ ν :=
  match l, r with
  | dummy, r => afterExtract c r fs
  | l, dummy => afterExtract c l fs
  | l, node cr lr kr vr rr =>
    -- The successor takes the place and the colour of the node.
    let y := minimum cr kr vr rr lr []
    afterExtract y.1.1 y.1.2.2.2 (y.2 ++ ⟨.right, c, y.1.2.1, y.1.2.2.1, l⟩ :: fs)

section Order

def before : List (AssocFrame κ ν) → List (κ × ν)
  | [] => []
  | f :: fs => before fs ++ f.before

def after : List (AssocFrame κ ν) → List (κ × ν)
  | [] => []
  | f :: fs => f.after ++ after fs

@[simp] lemma toList_dummy : (dummy : AssocNode κ ν).toList = [] := rfl

@[simp] lemma toList_node (c : AssocColor) (l : AssocNode κ ν) (k : κ) (v : ν) (r : AssocNode κ ν) :
    (node c l k v r).toList = l.toList ++ (k, v) :: r.toList := rfl

@[simp] lemma toList_setColor (c : AssocColor) (t : AssocNode κ ν) : (t.setColor c).toList = t.toList := by
  cases t <;> rfl

lemma toList_mapChild (s : AssocSide) {f : AssocNode κ ν → AssocNode κ ν} (hf : ∀ t, (f t).toList = t.toList)
    (t : AssocNode κ ν) : (t.mapChild s f).toList = t.toList := by
  cases t with
  | dummy => rfl
  | node => cases s <;> simp [mapChild, hf]

@[simp] lemma toList_leftRotate (t : AssocNode κ ν) : t.leftRotate.toList = t.toList := by
  unfold leftRotate
  split <;> simp

@[simp] lemma toList_rightRotate (t : AssocNode κ ν) : t.rightRotate.toList = t.toList := by
  unfold rightRotate
  split <;> simp

@[simp] lemma toList_rotate (s : AssocSide) (t : AssocNode κ ν) : (rotate s t).toList = t.toList := by
  cases s <;> simp [rotate]

@[simp] lemma toList_plug (f : AssocFrame κ ν) (t : AssocNode κ ν) :
    (f.plug t).toList = f.before ++ t.toList ++ f.after := by
  unfold AssocFrame.plug AssocFrame.before AssocFrame.after
  cases f.side <;> simp

lemma before_congr {f g : AssocFrame κ ν} (hside : g.side = f.side) (hkey : g.key = f.key) (hvalue : g.value = f.value)
    (hsib : g.sibling.toList = f.sibling.toList) : g.before = f.before ∧ g.after = f.after := by
  simp [AssocFrame.before, AssocFrame.after, hside, hkey, hvalue, hsib]

@[simp] lemma toList_zip (t : AssocNode κ ν) (fs : List (AssocFrame κ ν)) :
    (zip t fs).toList = before fs ++ t.toList ++ after fs := by
  induction fs generalizing t with
  | nil => simp [zip, before, after]
  | cons f fs ih =>
    rw [zip, ih, toList_plug]
    simp [before, after]

lemma toList_insertRotate (z : AssocNode κ ν) (p g : AssocFrame κ ν) :
    (insertRotate z p g).toList = g.before ++ (p.plug z).toList ++ g.after := by
  obtain ⟨hbefore, hafter⟩ := before_congr (f := g) (g := { g with color := .red }) rfl rfl rfl rfl
  unfold insertRotate
  split <;> simp [hbefore, hafter]

lemma toList_insertFixup (z : AssocNode κ ν) (fs : List (AssocFrame κ ν)) :
    (insertFixup z fs).toList = (zip z fs).toList := by
  induction z, fs using insertFixup.induct with
  | case1 z => rfl
  | case2 z root => rfl
  | case3 z p g fs hp hg ih =>
    obtain ⟨hpb, hpa⟩ := before_congr (f := p) (g := { p with color := .black }) rfl rfl rfl rfl
    obtain ⟨hgb, hga⟩ := before_congr (f := g)
      (g := { g with color := .red, sibling := g.sibling.setColor .black }) rfl rfl rfl (toList_setColor _ _)
    rw [insertFixup, if_pos hp, if_pos hg, ih]
    simp [before, after, hpb, hpa, hgb, hga]
  | case4 z p g fs hp hg =>
    rw [insertFixup, if_pos hp, if_neg hg, toList_zip, toList_insertRotate]
    simp [before, after]
  | case5 z p g fs hp =>
    rw [insertFixup, if_neg hp]
    rfl

lemma toList_turnSibling (s : AssocSide) (w : AssocNode κ ν) : (turnSibling s w).toList = w.toList := by
  unfold turnSibling
  split
  · rw [toList_rotate, toList_setColor, toList_mapChild s (toList_setColor .black)]
  · rfl

lemma toList_raiseSibling (x : AssocNode κ ν) (f : AssocFrame κ ν) {w : AssocNode κ ν}
    (hw : w.toList = f.sibling.toList) : (raiseSibling x f w).toList = f.before ++ x.toList ++ f.after := by
  have hsib : ((w.mapChild f.side.other (setColor .black)).setColor f.color).toList = f.sibling.toList := by
    rw [toList_setColor, toList_mapChild _ (toList_setColor .black), hw]
  obtain ⟨hb, ha⟩ := before_congr (f := f) (g := { f with
    color := .black, sibling := (w.mapChild f.side.other (setColor .black)).setColor f.color }) rfl rfl rfl hsib
  rw [raiseSibling, toList_rotate, toList_plug, hb, ha]

lemma toList_deleteFixupBlackSibling (x : AssocNode κ ν) (f : AssocFrame κ ν) :
    (deleteFixupBlackSibling x f).2.toList = f.before ++ x.toList ++ f.after := by
  unfold deleteFixupBlackSibling
  split
  · obtain ⟨hb, ha⟩ := before_congr (f := f) (g := { f with sibling := f.sibling.setColor .red }) rfl rfl rfl
      (toList_setColor _ _)
    rw [toList_plug, hb, ha]
  · exact toList_raiseSibling x f (toList_turnSibling f.side f.sibling)

lemma toList_loweredParent (x : AssocNode κ ν) {f : AssocFrame κ ν} {l r : AssocNode κ ν} {k : κ} {v : ν}
    (hsib : f.sibling = node .red l k v r) (fs : List (AssocFrame κ ν)) :
    (zip ((loweredParent f).plug x) (⟨f.side, .black, k, v, f.sibling.child f.side.other⟩ :: fs)).toList =
      (zip x (f :: fs)).toList := by
  cases hs : f.side <;>
    simp [before, after, AssocFrame.before, AssocFrame.after, loweredParent, hs, hsib, child, AssocSide.other]

lemma toList_deleteFixup (x : AssocNode κ ν) (fs : List (AssocFrame κ ν)) :
    (deleteFixup x fs).toList = (zip x fs).toList := by
  induction fs generalizing x with
  | nil => simp [deleteFixup, zip]
  | cons f fs ih =>
    unfold deleteFixup
    split
    · simp
    · split
      case h_1 l k v r hsib =>
        have hcase := toList_deleteFixupBlackSibling x (loweredParent f)
        rw [← toList_loweredParent x hsib fs]
        split
        case h_1 t ht =>
          rw [ht, ← toList_plug] at hcase
          simp [hcase]
        case h_2 t ht =>
          rw [ht, ← toList_plug] at hcase
          simp [hcase]
      case h_2 =>
        have hcase := toList_deleteFixupBlackSibling x f
        split
        case h_1 t ht =>
          rw [ht] at hcase
          simp [hcase, before, after]
        case h_2 t ht =>
          rw [ht] at hcase
          rw [ih]
          simp [hcase, before, after]

lemma before_append (fs gs : List (AssocFrame κ ν)) : before (fs ++ gs) = before gs ++ before fs := by
  induction fs with
  | nil => simp [before]
  | cons f fs ih => simp [before, ih]

lemma after_append (fs gs : List (AssocFrame κ ν)) : after (fs ++ gs) = after fs ++ after gs := by
  induction fs with
  | nil => simp [after]
  | cons f fs ih => simp [after, ih]

lemma before_minimum (c : AssocColor) (k : κ) (v : ν) (r t : AssocNode κ ν) (fs : List (AssocFrame κ ν)) :
    before (minimum c k v r t fs).2 = before fs := by
  induction t generalizing c k v r fs with
  | dummy => rfl
  | node c' l' k' v' r' ih _ =>
    rw [minimum, ih]
    simp [before, AssocFrame.before]

lemma toList_minimum (c : AssocColor) (k : κ) (v : ν) (r t : AssocNode κ ν) (fs : List (AssocFrame κ ν)) :
    ((minimum c k v r t fs).1.2.1, (minimum c k v r t fs).1.2.2.1) ::
        ((minimum c k v r t fs).1.2.2.2.toList ++ after (minimum c k v r t fs).2) =
      (node c t k v r).toList ++ after fs := by
  induction t generalizing c k v r fs with
  | dummy => simp [minimum]
  | node c' l' k' v' r' ih _ =>
    rw [minimum, ih]
    simp [after, AssocFrame.after]

lemma toList_afterExtract (original : AssocColor) (x : AssocNode κ ν) (fs : List (AssocFrame κ ν)) :
    (afterExtract original x fs).toList = before fs ++ x.toList ++ after fs := by
  unfold afterExtract
  split
  · rw [toList_deleteFixup, toList_zip]
  · rw [toList_zip]

lemma toList_extractNode (c : AssocColor) (l r : AssocNode κ ν) (fs : List (AssocFrame κ ν)) :
    (extractNode c l r fs).toList = before fs ++ (l.toList ++ r.toList) ++ after fs := by
  unfold extractNode
  split
  case h_1 => rw [toList_afterExtract, toList_dummy, List.nil_append]
  case h_2 => rw [toList_afterExtract, toList_dummy, List.append_nil]
  case h_3 cr lr kr vr rr _ =>
    have hbefore := before_minimum cr kr vr rr lr []
    have hmin := toList_minimum cr kr vr rr lr []
    have hnil : before ([] : List (AssocFrame κ ν)) = [] := rfl
    have hnil' : after ([] : List (AssocFrame κ ν)) = [] := rfl
    rw [hnil', List.append_nil] at hmin
    rw [toList_afterExtract, before_append, after_append, hbefore, hnil, ← hmin]
    simp [before, after, AssocFrame.before, AssocFrame.after]

section Comparison

variable {comp : κ → κ → Ordering} {key : κ}

def Ordered (comp : κ → κ → Ordering) (t : AssocNode κ ν) : Prop :=
  t.toList.Pairwise fun a b => (comp a.1 b.1).isLE

lemma ordered_iff_keys {t : AssocNode κ ν} :
    t.Ordered comp ↔ (t.toList.map Prod.fst).Pairwise fun a b => (comp a b).isLE := by
  rw [Ordered, List.pairwise_map]

lemma Ordered.node_iff {c : AssocColor} {l : AssocNode κ ν} {k : κ} {v : ν} {r : AssocNode κ ν} :
    (node c l k v r).Ordered comp ↔ l.Ordered comp ∧ r.Ordered comp ∧ (∀ a ∈ l.toList, (comp a.1 k).isLE) ∧
      (∀ a ∈ r.toList, (comp k a.1).isLE) ∧ ∀ a ∈ l.toList, ∀ b ∈ r.toList, (comp a.1 b.1).isLE := by
  simp only [Ordered, toList_node, List.pairwise_append, List.pairwise_cons, List.mem_cons]
  constructor
  · rintro ⟨hl, ⟨hkr, hr⟩, hlr⟩
    exact ⟨hl, hr, fun a ha => hlr a ha _ (.inl rfl), hkr, fun a ha b hb => hlr a ha b (.inr hb)⟩
  · rintro ⟨hl, hr, hlk, hkr, hlr⟩
    refine ⟨hl, ⟨hkr, hr⟩, fun a ha b hb => ?_⟩
    obtain rfl | hb := hb
    · exact hlk a ha
    · exact hlr a ha b hb

lemma leafPath_split [Std.TransCmp comp] {t : AssocNode κ ν} (ht : t.Ordered comp) (key : κ) (fs : List (AssocFrame κ ν)) :
    ∃ l r, t.toList = l ++ r ∧ before (leafPath comp key t fs) = before fs ++ l ∧
      after (leafPath comp key t fs) = r ++ after fs ∧ (∀ a ∈ l, (comp a.1 key).isLE) ∧
      ∀ a ∈ r, comp key a.1 = .lt := by
  induction t generalizing fs with
  | dummy => exact ⟨[], [], rfl, by simp [leafPath], by simp [leafPath], by simp, by simp⟩
  | node c tl k v tr ihl ihr =>
    obtain ⟨hl, hr, hlk, hkr, -⟩ := Ordered.node_iff.mp ht
    unfold leafPath
    split
    case isTrue hlt =>
      obtain ⟨l, r, heq, hb, ha, hle, hgt⟩ := ihl hl (⟨.left, c, k, v, tr⟩ :: fs)
      refine ⟨l, r ++ (k, v) :: tr.toList, ?_, ?_, ?_, hle, fun a hmem => ?_⟩
      · simp [heq]
      · simp [hb, before, AssocFrame.before]
      · simp [ha, after, AssocFrame.after]
      · obtain hmem | rfl | hmem := by simpa using hmem
        · exact hgt a hmem
        · exact hlt
        · exact Std.TransCmp.lt_of_lt_of_isLE hlt (hkr a hmem)
    case isFalse hge =>
      have hle' : (comp k key).isLE := by
        cases hc : comp k key with
        | lt => rfl
        | eq => rfl
        | gt => exact absurd (Std.OrientedCmp.gt_iff_lt.mp hc) hge
      obtain ⟨l, r, heq, hb, ha, hle, hgt⟩ := ihr hr (⟨.right, c, k, v, tl⟩ :: fs)
      refine ⟨tl.toList ++ (k, v) :: l, r, ?_, ?_, ?_, fun a hmem => ?_, hgt⟩
      · simp [heq]
      · simp [hb, before, AssocFrame.before]
      · simp [ha, after, AssocFrame.after]
      · obtain hmem | rfl | hmem := by simpa using hmem
        · exact Std.TransCmp.isLE_trans (hlk a hmem) hle'
        · exact hle'
        · exact hle a hmem

lemma toList_insert [Std.TransCmp comp] {t : AssocNode κ ν} (ht : t.Ordered comp) (key : κ) (value : ν) :
    ∃ l r, t.toList = l ++ r ∧ (insert comp t key value).toList = l ++ (key, value) :: r ∧
      (∀ a ∈ l, (comp a.1 key).isLE) ∧ ∀ a ∈ r, comp key a.1 = .lt := by
  obtain ⟨l, r, heq, hb, ha, hle, hgt⟩ := leafPath_split ht key []
  refine ⟨l, r, heq, ?_, hle, hgt⟩
  rw [insert, toList_setColor, toList_insertFixup, toList_zip, hb, ha]
  simp [before, after]

lemma Ordered.insert [Std.TransCmp comp] {t : AssocNode κ ν} (ht : t.Ordered comp) (key : κ) (value : ν) :
    (t.insert comp key value).Ordered comp := by
  obtain ⟨l, r, heq, hins, hle, hgt⟩ := toList_insert ht key value
  unfold Ordered at ht ⊢
  rw [heq, List.pairwise_append] at ht
  rw [hins, List.pairwise_append, List.pairwise_cons]
  refine ⟨ht.1, ⟨fun a ha => ?_, ht.2.1⟩, fun a ha b hb => ?_⟩
  · simp [hgt a ha]
  · obtain rfl | hb := List.mem_cons.mp hb
    · exact hle a ha
    · exact ht.2.2 a ha b hb

lemma zip_locate (comp : κ → κ → Ordering) (key : κ) (t : AssocNode κ ν) (fs : List (AssocFrame κ ν)) :
    zip (locate comp key t fs).1 (locate comp key t fs).2 = zip t fs := by
  induction t generalizing fs with
  | dummy => rfl
  | node c l k v r ihl ihr =>
    unfold locate
    split
    · rw [ihl]
      rfl
    · rw [ihr]
      rfl
    · rfl

lemma comp_locate {t l r : AssocNode κ ν} {fs gs : List (AssocFrame κ ν)} {c : AssocColor} {k : κ} {v : ν}
    (h : locate comp key t fs = (node c l k v r, gs)) : comp key k = .eq := by
  induction t generalizing fs with
  | dummy => simp [locate] at h
  | node c' l' k' v' r' ihl ihr =>
    unfold locate at h
    split at h
    · exact ihl h
    · exact ihr h
    case h_3 heq =>
      obtain ⟨⟨rfl, rfl, rfl, rfl, rfl⟩, rfl⟩ := by simpa using h
      exact heq

lemma locate_isDummy [Std.TransCmp comp] {t : AssocNode κ ν} (ht : t.Ordered comp) (fs : List (AssocFrame κ ν)) :
    (locate comp key t fs).1 = dummy ↔ ∀ a ∈ t.toList, comp key a.1 ≠ .eq := by
  induction t generalizing fs with
  | dummy => simp [locate]
  | node c l k v r ihl ihr =>
    obtain ⟨hl, hr, hlk, hkr, -⟩ := Ordered.node_iff.mp ht
    unfold locate
    split
    case h_1 hlt =>
      rw [ihl hl]
      refine ⟨fun h a ha => ?_, fun h a ha => h a (by simp [ha])⟩
      obtain ha | rfl | ha := by simpa using ha
      · exact h a ha
      · simp [hlt]
      · simp [Std.TransCmp.lt_of_lt_of_isLE hlt (hkr a ha)]
    case h_2 hgt =>
      rw [ihr hr]
      refine ⟨fun h a ha => ?_, fun h a ha => h a (by simp [ha])⟩
      obtain ha | rfl | ha := by simpa using ha
      · have hlt := Std.TransCmp.lt_of_isLE_of_lt (hlk a ha) (Std.OrientedCmp.gt_iff_lt.mp hgt)
        simp [Std.OrientedCmp.gt_iff_lt.mpr hlt]
      · simp [hgt]
      · exact h a ha
    case h_3 heq => simpa using ⟨k, ⟨v, .inr (.inl ⟨rfl, rfl⟩)⟩, heq⟩

end Comparison

lemma locateIf_spec (p : κ → Bool) (t : AssocNode κ ν) (fs : List (AssocFrame κ ν)) :
    (∀ a ∈ t.toList, p a.1 = false) ∧ (locateIf p t fs).1 = dummy ∨
      ∃ c l k v r gs, locateIf p t fs = (node c l k v r, gs) ∧ p k = true ∧
        zip (node c l k v r) gs = zip t fs ∧ t.toList.find? (fun a => p a.1) = some (k, v) := by
  induction t generalizing fs with
  | dummy => exact .inl ⟨by simp, rfl⟩
  | node c l k v r ihl ihr =>
    rcases ihl (⟨.left, c, k, v, r⟩ :: fs) with ⟨hl, hdummy⟩ | ⟨c', l', k', v', r', gs, hloc, hp, hzip, hfind⟩
    · have hnone : l.toList.find? (fun a => p a.1) = none := by simpa using hl
      have hloc : locateIf p (node c l k v r) fs =
          if p k then (node c l k v r, fs) else locateIf p r (⟨.right, c, k, v, l⟩ :: fs) := by
        rw [locateIf]
        split
        case h_1 heq =>
          rw [heq] at hdummy
          cases hdummy
        case h_2 => rfl
      rw [hloc, toList_node, List.find?_append, hnone, Option.none_or]
      by_cases hk : p k = true
      · exact .inr ⟨c, l, k, v, r, fs, by simp [hk], hk, rfl, by simp [hk]⟩
      · have hk' : p k = false := by simpa using hk
        rw [if_neg hk, List.find?_cons_of_neg (by simpa using hk)]
        rcases ihr (⟨.right, c, k, v, l⟩ :: fs) with ⟨hr, hdummy'⟩ | ⟨c', l', k', v', r', gs, hloc', hp, hzip, hfind⟩
        · refine .inl ⟨fun a ha => ?_, hdummy'⟩
          obtain ha | rfl | ha := by simpa using ha
          · exact hl a ha
          · exact hk'
          · exact hr a ha
        · exact .inr ⟨c', l', k', v', r', gs, hloc', hp, hzip, hfind⟩
    · refine .inr ⟨c', l', k', v', r', gs, ?_, hp, hzip, ?_⟩
      · rw [locateIf, hloc]
      · rw [toList_node, List.find?_append, hfind, Option.some_or]

end Order

end AssocNode

structure AssocRbTree {κ : Type u} (comp : κ → κ → Ordering) (ν : Type v) where
  root : AssocNode κ ν
  size : ℕ
  ordered : root.Ordered comp
  size_eq : size = root.toList.length

namespace AssocRbTree

open AssocNode

variable {comp : κ → κ → Ordering} {t t' : AssocRbTree comp ν} {key k : κ} {value v : ν}

def init : AssocRbTree comp ν := ⟨.dummy, 0, .nil, rfl⟩

def toList (t : AssocRbTree comp ν) : List (κ × ν) := t.root.toList

def insert [Std.TransCmp comp] (t : AssocRbTree comp ν) (key : κ) (value : ν) : AssocRbTree comp ν where
  root := t.root.insert comp key value
  size := t.size + 1
  ordered := t.ordered.insert key value
  size_eq := by
    obtain ⟨l, r, heq, hins, -⟩ := toList_insert t.ordered key value
    rw [t.size_eq, heq, hins]
    simp [Nat.add_assoc]

def find? (t : AssocRbTree comp ν) (key : κ) : Option (κ × ν) :=
  match (locate comp key t.root []).1 with
  | .dummy => none
  | .node _ _ k v _ => some (k, v)

/-- `find_if`: the first pair, in the order of the keys, whose key satisfies `p`. -/
def findIf (t : AssocRbTree comp ν) (p : κ → Bool) : Option (κ × ν) := t.toList.find? fun a => p a.1

lemma toList_of_locate {l r : AssocNode κ ν} {c : AssocColor} {fs : List (AssocFrame κ ν)}
    (h : locate comp key t.root [] = (.node c l k v r, fs)) :
    t.toList = before fs ++ (l.toList ++ (k, v) :: r.toList) ++ after fs := by
  have hzip := zip_locate comp key t.root []
  rw [h] at hzip
  rw [toList, ← show _ = t.root from hzip, toList_zip, toList_node]

variable {p : κ → Bool}

lemma toList_of_locateIf {l r : AssocNode κ ν} {c : AssocColor} {fs : List (AssocFrame κ ν)}
    (h : locateIf p t.root [] = (.node c l k v r, fs)) :
    t.root.toList = before fs ++ (l.toList ++ (k, v) :: r.toList) ++ after fs := by
  rcases locateIf_spec p t.root [] with ⟨-, hdummy⟩ | ⟨c', l', k', v', r', gs, hloc, -, hzip, -⟩
  · rw [h] at hdummy
    cases hdummy
  · obtain ⟨⟨rfl, rfl, rfl, rfl, rfl⟩, rfl⟩ := by simpa using hloc.symm.trans h
    rw [← show _ = t.root from hzip, toList_zip, toList_node]

/-- `assoc_rb_tree_extract`: the value of the pair that is taken out, which the source asserts to be there. -/
def extract (t : AssocRbTree comp ν) (key : κ) : Option (ν × AssocRbTree comp ν) :=
  match h : locate comp key t.root [] with
  | (.dummy, _) => none
  | (.node c l k v r, fs) => some (v, {
      root := extractNode c l r fs
      size := t.size - 1
      ordered := by
        have hord := t.ordered
        unfold Ordered at hord ⊢
        rw [show t.root.toList = _ from toList_of_locate h] at hord
        rw [toList_extractNode]
        exact hord.sublist (by simp)
      size_eq := by
        rw [t.size_eq, show t.root.toList = _ from toList_of_locate h, toList_extractNode]
        simp only [List.length_append, List.length_cons]
        omega })

/-- `find_if` and `assoc_rb_tree_free_it` of what it finds. -/
def removeIf (t : AssocRbTree comp ν) (p : κ → Bool) : Option (AssocRbTree comp ν) :=
  match h : locateIf p t.root [] with
  | (.dummy, _) => none
  | (.node c l k v r, fs) => some {
      root := extractNode c l r fs
      size := t.size - 1
      ordered := by
        have hord := t.ordered
        unfold Ordered at hord ⊢
        rw [toList_of_locateIf h] at hord
        rw [toList_extractNode]
        exact hord.sublist (by simp)
      size_eq := by
        rw [t.size_eq, toList_of_locateIf h, toList_extractNode]
        simp only [List.length_append, List.length_cons]
        omega }

def front (t : AssocRbTree comp ν) : Option (κ × ν) := t.toList.head?

/-- The tree after the value at the first pair that satisfies `p`, in the order of the keys, was changed in place. -/
def modifyIf (t : AssocRbTree comp ν) (p : κ → Bool) (f : ν → ν) : AssocRbTree comp ν :=
  match h : locateIf p t.root [] with
  | (.dummy, _) => t
  | (.node c l k v r, fs) => {
      root := zip (.node c l k (f v) r) fs
      size := t.size
      ordered := by
        have hord := t.ordered
        rw [ordered_iff_keys] at hord ⊢
        rw [toList_of_locateIf h] at hord
        rw [toList_zip, toList_node]
        simp only [List.map_append, List.map_cons] at hord ⊢
        exact hord
      size_eq := by
        rw [t.size_eq, toList_of_locateIf h, toList_zip, toList_node]
        simp only [List.length_append, List.length_cons] }

lemma length_toList (t : AssocRbTree comp ν) : t.toList.length = t.size := t.size_eq.symm

lemma perm_insert [Std.TransCmp comp] : ((t.insert key value).toList).Perm ((key, value) :: t.toList) := by
  obtain ⟨l, r, heq, hins, -⟩ := toList_insert t.ordered key value
  rw [toList, toList, insert, heq, hins]
  exact List.perm_middle

lemma mem_insert [Std.TransCmp comp] {a : κ × ν} :
    a ∈ (t.insert key value).toList ↔ a = (key, value) ∨ a ∈ t.toList := by
  rw [perm_insert.mem_iff, List.mem_cons]

lemma find?_eq_none [Std.TransCmp comp] : t.find? key = none ↔ ∀ a ∈ t.toList, comp key a.1 ≠ .eq := by
  rw [← show _ ↔ ∀ a ∈ t.toList, _ from locate_isDummy t.ordered [], find?]
  split
  case h_1 h => simp [h]
  case h_2 h => simp [h]

lemma mem_of_find? (h : t.find? key = some (k, v)) : (k, v) ∈ t.toList ∧ comp key k = .eq := by
  unfold find? at h
  split at h
  case h_1 => cases h
  case h_2 c l k' v' r hloc =>
    obtain ⟨rfl, rfl⟩ := by simpa using h
    have hpair : locate comp key t.root [] = (.node c l k' v' r, (locate comp key t.root []).2) := by rw [← hloc]
    refine ⟨?_, comp_locate hpair⟩
    rw [toList_of_locate hpair]
    simp

lemma mem_of_findIf (h : t.findIf p = some (k, v)) : (k, v) ∈ t.toList ∧ p k = true :=
  ⟨List.mem_of_find?_eq_some h, List.find?_some (p := fun a : κ × ν => p a.1) h⟩

lemma findIf_eq_none : t.findIf p = none ↔ ∀ a ∈ t.toList, p a.1 = false := by
  rw [findIf, List.find?_eq_none]
  simp

lemma find?_eq_some_of_unique [Std.TransCmp comp] (hmem : (k, v) ∈ t.toList) (heq : comp key k = .eq)
    (hunique : ∀ a ∈ t.toList, comp key a.1 = .eq → a = (k, v)) : t.find? key = some (k, v) := by
  cases hfind : t.find? key with
  | none => exact absurd heq (find?_eq_none.mp hfind (k, v) hmem)
  | some a =>
    obtain ⟨ha, hcomp⟩ := mem_of_find? hfind
    exact congrArg some (hunique a ha hcomp)

lemma extract_eq_some (h : t.find? key = some (k, v)) :
    ∃ t', t.extract key = some (v, t') ∧ t.toList.Perm ((k, v) :: t'.toList) := by
  unfold find? at h
  unfold extract
  split
  case h_1 fs hloc =>
    rw [hloc] at h
    cases h
  case h_2 c l k' v' r fs hloc =>
    rw [hloc] at h
    obtain ⟨rfl, rfl⟩ := by simpa using h
    refine ⟨_, rfl, ?_⟩
    rw [toList_of_locate hloc, toList, toList_extractNode]
    simp only [List.append_assoc, List.cons_append]
    exact (List.perm_middle.append_left _).trans List.perm_middle |>.trans (by simp)

lemma toList_modifyIf {f : ν → ν} (h : t.findIf p = some (k, v)) :
    ∃ l r, t.toList = l ++ (k, v) :: r ∧ (t.modifyIf p f).toList = l ++ (k, f v) :: r := by
  rcases locateIf_spec p t.root [] with ⟨hnone, -⟩ | ⟨c, l, k', v', r, fs, hloc, -, -, hfind⟩
  · obtain ⟨hmem, hp⟩ := mem_of_findIf h
    rw [hnone (k, v) hmem] at hp
    cases hp
  · obtain ⟨rfl, rfl⟩ := by simpa using hfind.symm.trans h
    unfold modifyIf
    split
    case h_1 hdummy =>
      rw [hloc] at hdummy
      cases hdummy
    case h_2 c' l' k'' v'' r' fs' hloc' =>
      obtain ⟨⟨rfl, rfl, rfl, rfl, rfl⟩, rfl⟩ := by simpa using hloc.symm.trans hloc'
      refine ⟨before fs ++ l.toList, r.toList ++ after fs, ?_, ?_⟩
      · rw [toList, toList_of_locateIf hloc]
        simp only [List.append_assoc, List.cons_append]
      · rw [toList, toList_zip, toList_node]
        simp only [List.append_assoc, List.cons_append]

lemma toList_insert_split [Std.TransCmp comp] (t : AssocRbTree comp ν) (key : κ) (value : ν) :
    ∃ l r, t.toList = l ++ r ∧ (t.insert key value).toList = l ++ (key, value) :: r ∧
      (∀ a ∈ l, (comp a.1 key).isLE) ∧ ∀ a ∈ r, comp key a.1 = .lt := toList_insert t.ordered key value

lemma removeIf_eq_some (h : t.findIf p = some (k, v)) :
    ∃ t', t.removeIf p = some t' ∧ t.toList.Perm ((k, v) :: t'.toList) := by
  rcases locateIf_spec p t.root [] with ⟨hnone, -⟩ | ⟨c, l, k', v', r, fs, hloc, -, -, hfind⟩
  · obtain ⟨hmem, hp⟩ := mem_of_findIf h
    rw [hnone (k, v) hmem] at hp
    cases hp
  · obtain ⟨rfl, rfl⟩ := by simpa using hfind.symm.trans h
    unfold removeIf
    split
    case h_1 hdummy =>
      rw [hloc] at hdummy
      cases hdummy
    case h_2 c' l' k'' v'' r' fs' hloc' =>
      obtain ⟨⟨rfl, rfl, rfl, rfl, rfl⟩, rfl⟩ := by simpa using hloc.symm.trans hloc'
      refine ⟨_, rfl, ?_⟩
      rw [toList, toList_of_locateIf hloc, toList, toList_extractNode]
      simp only [List.append_assoc, List.cons_append]
      exact (List.perm_middle.append_left _).trans List.perm_middle |>.trans (by simp)

end AssocRbTree

end OwlsRan.Adt
