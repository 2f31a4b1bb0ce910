import OwlsRan.Adt.AssocRbTree

/-!
# The red-black properties of `assoc_rb_tree`

A subtree keeps the properties on its own, and the frames above it say which subtrees they would take.
-/

namespace OwlsRan.Adt

universe u v

variable {κ : Type u} {ν : Type v}

namespace AssocNode

/-- No red node has a red child, and every path down to a leaf passes `n` black nodes. -/
inductive RedBlack : AssocNode κ ν → ℕ → Prop
  | dummy : RedBlack dummy 0
  | black {l r : AssocNode κ ν} {k : κ} {v : ν} {n : ℕ} (hl : RedBlack l n) (hr : RedBlack r n) :
      RedBlack (node .black l k v r) (n + 1)
  | red {l r : AssocNode κ ν} {k : κ} {v : ν} {n : ℕ} (hl : RedBlack l n) (hr : RedBlack r n)
      (hlc : l.color = .black) (hrc : r.color = .black) : RedBlack (node .red l k v r) n

/-- The black height below the frame above a subtree of black height `n`. -/
def frameHeight (f : AssocFrame κ ν) (n : ℕ) : ℕ := if f.color = .black then n + 1 else n

/-- Below the frames, a subtree of this colour and black height completes a red-black tree with a black root. -/
def Fits : List (AssocFrame κ ν) → AssocColor → ℕ → Prop
  | [], c, _ => c = .black
  | f :: fs, c, n => f.sibling.RedBlack n ∧ (f.color = .red → c = .black ∧ f.sibling.color = .black) ∧
      Fits fs f.color (frameHeight f n)

/-- The subtree has a black node less than one of black height `n + 1`, unless its red root is coloured. -/
def Lacks (x : AssocNode κ ν) (n : ℕ) : Prop :=
  x.color = .red ∧ (x.setColor .black).RedBlack (n + 1) ∨ x.color = .black ∧ x.RedBlack n

variable {t x w : AssocNode κ ν} {f : AssocFrame κ ν} {fs : List (AssocFrame κ ν)} {c : AssocColor} {n m : ℕ}

lemma color_of_ne_red (h : c ≠ .red) : c = .black := by
  cases c with
  | black => rfl
  | red => exact absurd rfl h

lemma color_of_ne_black (h : c ≠ .black) : c = .red := by
  cases c with
  | black => exact absurd rfl h
  | red => rfl

lemma frameHeight_of_red (h : f.color = .red) : frameHeight f n = n := by
  rw [frameHeight, h]
  rfl

lemma frameHeight_of_black (h : f.color = .black) : frameHeight f n = n + 1 := by
  rw [frameHeight, h]
  rfl

@[simp] lemma color_plug (f : AssocFrame κ ν) (t : AssocNode κ ν) : (f.plug t).color = f.color := by
  unfold AssocFrame.plug
  cases f.side <;> rfl

@[simp] lemma color_setBlack (t : AssocNode κ ν) : (t.setColor .black).color = .black := by
  cases t <;> rfl

lemma setBlack_of_black (h : t.color = .black) : t.setColor .black = t := by
  cases t with
  | dummy => rfl
  | node c l k v r =>
    change c = .black at h
    rw [h]
    rfl

lemma redBlack_plug_iff : (f.plug t).RedBlack m ↔ ∃ n, m = frameHeight f n ∧ t.RedBlack n ∧ f.sibling.RedBlack n ∧
    (f.color = .red → t.color = .black ∧ f.sibling.color = .black) := by
  obtain ⟨side, color, key, value, sibling⟩ := f
  constructor
  · intro h
    cases side <;> cases color <;> cases h <;> exact ⟨_, rfl, by assumption, by assumption, by simp_all⟩
  · rintro ⟨n, rfl, ht, hs, hred⟩
    cases color with
    | black => cases side <;> exact .black (by assumption) (by assumption)
    | red =>
      obtain ⟨htc, hsc⟩ := hred rfl
      cases side <;> exact .red (by assumption) (by assumption) (by assumption) (by assumption)

lemma Fits.black (h : Fits fs c n) : Fits fs .black n := by
  cases fs with
  | nil => rfl
  | cons f fs => exact ⟨h.1, fun hred => ⟨rfl, (h.2.1 hred).2⟩, h.2.2⟩

lemma Fits.plug (ht : t.RedBlack n) (hf : Fits (f :: fs) t.color n) :
    (f.plug t).RedBlack (frameHeight f n) ∧ Fits fs (f.plug t).color (frameHeight f n) := by
  rw [color_plug]
  exact ⟨redBlack_plug_iff.mpr ⟨n, rfl, ht, hf.1, hf.2.1⟩, hf.2.2⟩

lemma Fits.zip (ht : t.RedBlack n) (hf : Fits fs t.color n) :
    ∃ m, (zip t fs).RedBlack m ∧ (zip t fs).color = .black := by
  induction fs generalizing t n with
  | nil => exact ⟨n, ht, hf⟩
  | cons f fs ih => exact ih (hf.plug ht).1 (hf.plug ht).2

lemma fits_of_zip (h : (zip t fs).RedBlack m) (hc : (zip t fs).color = .black) :
    ∃ n, t.RedBlack n ∧ Fits fs t.color n := by
  induction fs generalizing t with
  | nil => exact ⟨m, h, hc⟩
  | cons f fs ih =>
    obtain ⟨n', hplug, hfits⟩ := ih h hc
    obtain ⟨n, rfl, ht, hs, hred⟩ := redBlack_plug_iff.mp hplug
    rw [color_plug] at hfits
    exact ⟨n, ht, hs, hred, hfits⟩

lemma RedBlack.setBlack (h : t.RedBlack n) : ∃ m, (t.setColor .black).RedBlack m := by
  cases h with
  | dummy => exact ⟨0, .dummy⟩
  | black hl hr => exact ⟨_, .black hl hr⟩
  | red hl hr => exact ⟨_, .black hl hr⟩

lemma RedBlack.setBlack_of_red (h : t.RedBlack n) (hc : t.color = .red) : (t.setColor .black).RedBlack (n + 1) := by
  cases h with
  | dummy => cases hc
  | black => cases hc
  | red hl hr => exact .black hl hr

section Insert

variable {z : AssocNode κ ν} {p g : AssocFrame κ ν}

lemma redBlack_insertRotate (hz : z.RedBlack n) (hzc : z.color = .red) (hp : p.sibling.RedBlack n)
    (hpc : p.sibling.color = .black) (hpred : p.color = .red) (hg : g.sibling.RedBlack n)
    (hgc : g.sibling.color = .black) :
    (insertRotate z p g).RedBlack (n + 1) ∧ (insertRotate z p g).color = .black := by
  obtain ⟨ps, pc, pk, pv, psib⟩ := p
  obtain ⟨gs, gc, gk, gv, gsib⟩ := g
  obtain rfl : pc = .red := hpred
  cases hz with
  | dummy => cases hzc
  | black => cases hzc
  | red hl hr hlc hrc =>
    cases ps <;> cases gs <;>
      exact ⟨.black (.red (by assumption) (by assumption) (by assumption) (by assumption))
        (.red (by assumption) (by assumption) (by assumption) (by assumption)), rfl⟩

lemma Fits.below_red (hf : Fits (p :: g :: fs) c n) (hp : p.color = .red) :
    p.sibling.RedBlack n ∧ p.sibling.color = .black ∧ g.sibling.RedBlack n ∧ g.color = .black ∧
      Fits fs .black (n + 1) := by
  obtain ⟨hpsib, hpsibc, hgsib, hgred, hfits⟩ := hf
  rw [hp] at hgred
  rw [frameHeight_of_red hp] at hgsib hfits
  have hgc : g.color = .black := color_of_ne_red fun hc => by cases (hgred hc).1
  rw [frameHeight_of_black hgc] at hfits
  exact ⟨hpsib, (hpsibc hp).2, hgsib, hgc, hfits.black⟩

/-- The new red node may only clash with a red parent, and the clash is moved up or rotated away. -/
lemma redBlack_insertFixup (hz : z.RedBlack n) (hzc : z.color = .red) (hf : Fits fs .black n) :
    ∃ m, ((insertFixup z fs).setColor .black).RedBlack m := by
  induction z, fs using insertFixup.induct generalizing n with
  | case1 z => exact hz.setBlack
  | case2 z root =>
    have hroot : root.color = .black := hf.2.2
    have hplug := redBlack_plug_iff.mpr ⟨n, rfl, hz, hf.1, fun hred => by rw [hroot] at hred; cases hred⟩
    exact hplug.setBlack
  | case3 z p g fs hp hg ih =>
    obtain ⟨hpsib, hpsibc, hgsib, hgc, hfits⟩ := hf.below_red hp
    rw [insertFixup, if_pos hp, if_pos hg]
    apply ih (n := n + 1) _ (color_plug _ _) hfits
    have hparent : ({ p with color := .black }.plug z).RedBlack (n + 1) :=
      redBlack_plug_iff.mpr ⟨n, rfl, hz, hpsib, fun h => by cases h⟩
    have huncle : (g.sibling.setColor .black).RedBlack (n + 1) := hgsib.setBlack_of_red hg
    exact redBlack_plug_iff.mpr ⟨n + 1, rfl, hparent, huncle, fun _ => ⟨color_plug _ _, color_setBlack _⟩⟩
  | case4 z p g fs hp hg =>
    obtain ⟨hpsib, hpsibc, hgsib, hgc, hfits⟩ := hf.below_red hp
    obtain ⟨hrot, hcolor⟩ := redBlack_insertRotate hz hzc hpsib hpsibc hp hgsib (color_of_ne_red hg)
    rw [insertFixup, if_pos hp, if_neg hg]
    rw [← hcolor] at hfits
    obtain ⟨m, hm, -⟩ := hfits.zip hrot
    exact hm.setBlack
  | case5 z p g fs hp =>
    rw [insertFixup, if_neg hp]
    have hplug := redBlack_plug_iff.mpr ⟨n, rfl, hz, hf.1, fun hred => absurd hred hp⟩
    have hfits := hf.2.2
    rw [← color_plug p z] at hfits
    obtain ⟨m, hm, -⟩ := hfits.zip hplug
    exact hm.setBlack

lemma zip_leafPath (comp : κ → κ → Ordering) (key : κ) (t : AssocNode κ ν) (fs : List (AssocFrame κ ν)) :
    zip dummy (leafPath comp key t fs) = zip t fs := by
  induction t generalizing fs with
  | dummy => rfl
  | node c l k v r ihl ihr =>
    unfold leafPath
    split
    · rw [ihl]
      rfl
    · rw [ihr]
      rfl

lemma redBlack_insert (comp : κ → κ → Ordering) (key : κ) (value : ν) (ht : t.RedBlack n) (hc : t.color = .black) :
    ∃ m, (t.insert comp key value).RedBlack m := by
  have hzip := zip_leafPath comp key t []
  rw [← show zip t [] = t from rfl, ← hzip] at ht hc
  obtain ⟨n', hleaf, hfits⟩ := fits_of_zip ht hc
  cases hleaf
  exact redBlack_insertFixup (.red .dummy .dummy rfl rfl) rfl hfits.black

end Insert

section Extract

lemma redBlack_turnSibling {s : AssocSide} (hw : w.RedBlack (n + 1)) (hwc : w.color = .black)
    (hred : ¬((w.child .left).color = .black ∧ (w.child .right).color = .black)) :
    (turnSibling s w).RedBlack (n + 1) ∧ (turnSibling s w).color = .black ∧
      ((turnSibling s w).child s.other).color = .red := by
  by_cases hfar : (w.child s.other).color = .black
  · rw [turnSibling, if_pos hfar]
    cases hw with
    | red => cases hwc
    | @black l r k v _ hl hr =>
      cases s with
      | left =>
        have hnear : l.color = .red := color_of_ne_black fun h => hred ⟨h, hfar⟩
        cases hl with
        | dummy => cases hnear
        | black => cases hnear
        | red ha hb _ hbc => exact ⟨.black ha (.red hb hr hbc hfar), rfl, rfl⟩
      | right =>
        have hnear : r.color = .red := color_of_ne_black fun h => hred ⟨hfar, h⟩
        cases hr with
        | dummy => cases hnear
        | black => cases hnear
        | red ha hb hac _ => exact ⟨.black (.red hl ha hfar hac) hb, rfl, rfl⟩
  · rw [turnSibling, if_neg hfar]
    exact ⟨hw, hwc, color_of_ne_black hfar⟩

lemma redBlack_raiseSibling (hw : w.RedBlack (n + 1)) (hwc : w.color = .black)
    (hfar : (w.child f.side.other).color = .red) (hx : x.RedBlack n) :
    (raiseSibling x f w).RedBlack (frameHeight f (n + 1)) ∧ (raiseSibling x f w).color = f.color := by
  obtain ⟨side, color, key, value, sibling⟩ := f
  cases hw with
  | red => cases hwc
  | @black l r k v _ hl hr =>
    cases side with
    | left =>
      have hfar' := hr.setBlack_of_red hfar
      cases color with
      | black => exact ⟨.black (.black hx hl) hfar', rfl⟩
      | red => exact ⟨.red (.black hx hl) hfar' rfl (color_setBlack r), rfl⟩
    | right =>
      have hfar' := hl.setBlack_of_red hfar
      cases color with
      | black => exact ⟨.black hfar' (.black hr hx), rfl⟩
      | red => exact ⟨.red hfar' (.black hr hx) (color_setBlack l) rfl, rfl⟩

lemma deleteFixupBlackSibling_spec (hw : f.sibling.RedBlack (n + 1)) (hwc : f.sibling.color = .black)
    (hx : x.RedBlack n) :
    (deleteFixupBlackSibling x f).2.color = f.color ∧
      ((deleteFixupBlackSibling x f).1 = true → (deleteFixupBlackSibling x f).2.RedBlack (frameHeight f (n + 1))) ∧
      ((deleteFixupBlackSibling x f).1 = false → Lacks (deleteFixupBlackSibling x f).2 (frameHeight f n)) := by
  unfold deleteFixupBlackSibling
  split
  case isTrue hblack =>
    refine ⟨color_plug _ _, nofun, fun _ => ?_⟩
    obtain ⟨side, color, key, value, sibling⟩ := f
    have hred : (sibling.setColor .red).RedBlack n := by
      cases hw with
      | red => cases hwc
      | black hl hr => exact .red hl hr hblack.1 hblack.2
    cases color with
    | black => exact .inr ⟨color_plug _ _, redBlack_plug_iff.mpr ⟨n, rfl, hx, hred, nofun⟩⟩
    | red =>
      refine .inl ⟨color_plug _ _, ?_⟩
      cases side <;> exact .black (by assumption) (by assumption)
  case isFalse hred =>
    obtain ⟨hturned, hcolor, hfar⟩ := redBlack_turnSibling (s := f.side) hw hwc hred
    obtain ⟨hraised, hraisedc⟩ := redBlack_raiseSibling (f := f) hturned hcolor hfar hx
    exact ⟨hraisedc, fun _ => hraised, nofun⟩

lemma Lacks.deleteFixup (hx : Lacks x n) (hf : Fits fs .black (n + 1)) :
    ∃ m, (deleteFixup x fs).RedBlack m ∧ (deleteFixup x fs).color = .black := by
  induction fs generalizing x n with
  | nil =>
    rcases hx with ⟨-, hx⟩ | ⟨-, hx⟩
    · exact ⟨_, hx, color_setBlack x⟩
    · obtain ⟨m, hm⟩ := hx.setBlack
      exact ⟨m, hm, color_setBlack x⟩
  | cons f fs ih =>
    unfold AssocNode.deleteFixup
    rcases hx with ⟨hxc, hx⟩ | ⟨hxc, hx⟩
    · rw [if_pos hxc]
      rw [← color_setBlack x] at hf
      exact hf.zip hx
    · rw [if_neg (by rw [hxc]; decide)]
      obtain ⟨hw, hred, hfits⟩ := hf
      split
      case h_1 l k v r hsib =>
        -- The red sibling moves above the parent, which is red from then on.
        have hfc : f.color = .black := color_of_ne_red fun h => by
          have hblack := (hred h).2
          rw [hsib] at hblack
          cases hblack
        have hchildren : ∀ s, (f.sibling.child s).RedBlack (n + 1) ∧ (f.sibling.child s).color = .black := by
          intro s
          rw [hsib] at hw ⊢
          cases hw with
          | red hl hr hlc hrc =>
            cases s with
            | left => exact ⟨hl, hlc⟩
            | right => exact ⟨hr, hrc⟩
        rw [frameHeight_of_black hfc, hfc] at hfits
        have habove (c : AssocColor) :
            Fits (⟨f.side, .black, k, v, f.sibling.child f.side.other⟩ :: fs) c (n + 1) :=
          ⟨(hchildren _).1, nofun, hfits⟩
        obtain ⟨hcolor, hdone, hlacks⟩ := deleteFixupBlackSibling_spec (f := loweredParent f)
          (hchildren f.side).1 (hchildren f.side).2 hx
        rw [frameHeight_of_red rfl] at hdone hlacks
        split
        case h_1 t ht =>
          rw [ht] at hdone
          obtain ⟨m, hm, hmc⟩ := (habove _).zip (hdone rfl)
          rw [setBlack_of_black hmc]
          exact ⟨m, hm, hmc⟩
        case h_2 t ht =>
          rw [ht] at hcolor hlacks
          rcases hlacks rfl with ⟨-, ht'⟩ | ⟨hblack, -⟩
          · exact (habove _).zip ht'
          · cases hcolor.symm.trans hblack
      case h_2 hne =>
        have hwc : f.sibling.color = .black := by
          cases hc : f.sibling with
          | dummy => rfl
          | node c l k v r => exact color_of_ne_red fun h => hne l k v r (by rw [hc]; cases h; rfl)
        obtain ⟨hcolor, hdone, hlacks⟩ := deleteFixupBlackSibling_spec hw hwc hx
        split
        case h_1 t ht =>
          rw [ht] at hcolor hdone
          rw [← hcolor] at hfits
          obtain ⟨m, hm, hmc⟩ := hfits.zip (hdone rfl)
          rw [setBlack_of_black hmc]
          exact ⟨m, hm, hmc⟩
        case h_2 t ht =>
          rw [ht] at hlacks
          apply ih (hlacks rfl)
          have hheight : frameHeight f (n + 1) = frameHeight f n + 1 := by
            unfold frameHeight
            split <;> rfl
          rw [← hheight]
          exact hfits.black

lemma redBlack_afterExtract (hx : x.RedBlack n) (hred : c = .red → x.color = .black)
    (hf : Fits fs c (if c = .black then n + 1 else n)) :
    ∃ m, (afterExtract c x fs).RedBlack m ∧ (afterExtract c x fs).color = .black := by
  unfold afterExtract
  cases c with
  | black =>
    rw [if_pos rfl] at hf ⊢
    by_cases hxc : x.color = .red
    · exact Lacks.deleteFixup (.inl ⟨hxc, hx.setBlack_of_red hxc⟩) hf
    · exact Lacks.deleteFixup (.inr ⟨color_of_ne_red hxc, hx⟩) hf
  | red =>
    rw [if_neg (by decide)] at hf ⊢
    have hfits := hf.black
    rw [← hred rfl] at hfits
    exact hfits.zip hx

lemma RedBlack.right_height {l r : AssocNode κ ν} {k : κ} {v : ν} (h : (node c l k v r).RedBlack m) :
    ∃ n, m = (if c = .black then n + 1 else n) ∧ l.RedBlack n ∧ r.RedBlack n ∧
      (c = .red → l.color = .black ∧ r.color = .black) := by
  cases h with
  | black hl hr => exact ⟨_, rfl, hl, hr, nofun⟩
  | red hl hr hlc hrc => exact ⟨_, rfl, hl, hr, fun _ => ⟨hlc, hrc⟩⟩

lemma zip_append (t : AssocNode κ ν) (gs fs : List (AssocFrame κ ν)) : zip t (gs ++ fs) = zip (zip t gs) fs := by
  induction gs generalizing t with
  | nil => rfl
  | cons g gs ih => exact ih _

lemma zip_minimum (c : AssocColor) (k : κ) (v : ν) (r t : AssocNode κ ν) (fs : List (AssocFrame κ ν)) :
    let y := minimum c k v r t fs
    zip (node y.1.1 dummy y.1.2.1 y.1.2.2.1 y.1.2.2.2) y.2 = zip (node c t k v r) fs := by
  induction t generalizing c k v r fs with
  | dummy => rfl
  | node c' l' k' v' r' ih _ => exact ih _ _ _ _ _

lemma Fits.rename {gs : List (AssocFrame κ ν)} {k : κ} {v : ν} (hf : Fits (gs ++ f :: fs) c n) :
    Fits (gs ++ { f with key := k, value := v } :: fs) c n := by
  induction gs generalizing c n with
  | nil => exact hf
  | cons g gs ih => exact ⟨hf.1, hf.2.1, ih hf.2.2⟩

lemma redBlack_extractNode {l r : AssocNode κ ν} {k : κ} {v : ν} (hnode : (node c l k v r).RedBlack m)
    (hf : Fits fs c m) : ∃ m, (extractNode c l r fs).RedBlack m ∧ (extractNode c l r fs).color = .black := by
  obtain ⟨n, rfl, hl, hr, hred⟩ := hnode.right_height
  unfold extractNode
  split
  case h_1 =>
    exact redBlack_afterExtract hr (fun h => (hred h).2) hf
  case h_2 =>
    exact redBlack_afterExtract hl (fun h => (hred h).1) hf
  case h_3 cr lr kr vr rr _ =>
    have hmin := zip_minimum cr kr vr rr lr []
    obtain ⟨m', hroot, hrootc⟩ := Fits.zip (t := node c l k v (node cr lr kr vr rr)) hnode hf
    change (zip (zip (node cr lr kr vr rr) []) (⟨.right, c, k, v, l⟩ :: fs)).RedBlack m' at hroot
    change (zip (zip (node cr lr kr vr rr) []) (⟨.right, c, k, v, l⟩ :: fs)).color = _ at hrootc
    rw [← hmin, ← zip_append] at hroot hrootc
    obtain ⟨n', hy, hfits⟩ := fits_of_zip hroot hrootc
    obtain ⟨n'', rfl, -, hx, hyred⟩ := hy.right_height
    exact redBlack_afterExtract hx (fun h => (hyred h).2) hfits.rename

end Extract

end AssocNode

end OwlsRan.Adt
