import OwlsRan.Adt.BitsetRange
import OwlsRan.Adt.UnsignedInterval
import OwlsRan.Lib.Outcome
import OwlsRan.Ran.TddUlDlConfig

/-!
# The resource grid of a carrier

`carrier_subslot_resource_grid` keeps one bit for each OFDM symbol and RB of a carrier, symbol by symbol. The RB of
bit 0 is the CRB at the carrier offset: `fill`, `clear` and `collides` shift their CRBs by it, `used_crbs` and
`used_prbs` do not.
-/

namespace OwlsRan.Sched

open OwlsRan.Adt OwlsRan.Ran

def MAX_NOF_PRBS : Nat := 275

inductive GridAccessAbort where
  | crbsOutOfBounds
  | symbolsOutOfBounds
  | bitset (reason : BitsetAbort)
deriving DecidableEq

structure ScsSpecificCarrier where
  offsetToCarrier : Nat
  carrierBandwidth : Nat
  bandwidth_le : carrierBandwidth ≤ MAX_NOF_PRBS
deriving DecidableEq

abbrev SlotRbBitmap := BoundedBitset (NOF_OFDM_SYM_PER_SLOT_NORMAL_CP * MAX_NOF_PRBS)

structure CarrierResourceGrid where
  carrierCfg : ScsSpecificCarrier
  slotRbs : SlotRbBitmap
deriving DecidableEq

namespace CarrierResourceGrid

def nofRbs (g : CarrierResourceGrid) : Nat := g.carrierCfg.carrierBandwidth

def offset (g : CarrierResourceGrid) : Nat := g.carrierCfg.offsetToCarrier

def rbDims (g : CarrierResourceGrid) : UnsignedInterval := .ofStartAndLen g.offset g.nofRbs

def new (carrierCfg : ScsSpecificCarrier) : CarrierResourceGrid where
  carrierCfg := carrierCfg
  slotRbs := ⟨List.replicate (NOF_OFDM_SYM_PER_SLOT_NORMAL_CP * carrierCfg.carrierBandwidth) false, by
    rw [List.length_replicate]
    exact Nat.mul_le_mul_left _ carrierCfg.bandwidth_le⟩

/-- `clear()`. -/
def clearAll (g : CarrierResourceGrid) : CarrierResourceGrid := { g with slotRbs := g.slotRbs.zerosLike }

def symbolList (symbols : UnsignedInterval) : List Nat := List.range' symbols.start symbols.length

def forSymbols (g : CarrierResourceGrid) (symbols : UnsignedInterval)
    (op : SlotRbBitmap → Nat → Except GridAccessAbort SlotRbBitmap) : Except GridAccessAbort CarrierResourceGrid :=
  if symbols.stop ≤ NOF_OFDM_SYM_PER_SLOT_NORMAL_CP then
    ((symbolList symbols).foldlM op g.slotRbs).map fun slotRbs => { g with slotRbs := slotRbs }
  else .error .symbolsOutOfBounds

/-- `fill(symbols, crbs)` of an interval. -/
def fill (g : CarrierResourceGrid) (symbols crbs : UnsignedInterval) : Except GridAccessAbort CarrierResourceGrid :=
  if g.offset ≤ crbs.start ∧ crbs.stop ≤ g.offset + g.nofRbs then
    g.forSymbols symbols fun slotRbs i =>
      (slotRbs.fill (crbs.start - g.offset + i * g.nofRbs) (crbs.stop - g.offset + i * g.nofRbs) true).mapError .bitset
  else .error .crbsOutOfBounds

def setCrbs (g : CarrierResourceGrid) (crbList : List Nat) (val : Bool) (slotRbs : SlotRbBitmap) (i : Nat) :
    Except GridAccessAbort SlotRbBitmap :=
  crbList.foldlM (fun slotRbs crb =>
    if g.rbDims.contains crb then (slotRbs.set (crb - g.offset + i * g.nofRbs) val).mapError .bitset
    else .error .crbsOutOfBounds) slotRbs

/-- `fill(symbols, crb_list)`. -/
def fillList (g : CarrierResourceGrid) (symbols : UnsignedInterval) (crbList : List Nat) :
    Except GridAccessAbort CarrierResourceGrid :=
  g.forSymbols symbols (g.setCrbs crbList true)

/-- `clear(symbols, crb_list)`. -/
def clearList (g : CarrierResourceGrid) (symbols : UnsignedInterval) (crbList : List Nat) :
    Except GridAccessAbort CarrierResourceGrid :=
  g.forSymbols symbols (g.setCrbs crbList false)

/-- The loops of `collides`, which end at the first part with a bit set. -/
def anyCell {α : Type} (isSet : α → Except GridAccessAbort Bool) : List α → Except GridAccessAbort Bool
  | [] => .ok false
  | x :: xs => do if ← isSet x then return true else anyCell isSet xs

/-- `collides(symbols, crbs)` of an interval. -/
def collides (g : CarrierResourceGrid) (symbols crbs : UnsignedInterval) : Except GridAccessAbort Bool :=
  if g.offset ≤ crbs.start ∧ crbs.stop ≤ g.offset + g.nofRbs then
    if symbols.stop ≤ NOF_OFDM_SYM_PER_SLOT_NORMAL_CP then
      anyCell (fun i => (g.slotRbs.any (crbs.start - g.offset + i * g.nofRbs)
        (crbs.stop - g.offset + i * g.nofRbs)).mapError .bitset) (symbolList symbols)
    else .error .symbolsOutOfBounds
  else .error .crbsOutOfBounds

def selectedSymbols (g : CarrierResourceGrid) (symbols : UnsignedInterval) : Except GridAccessAbort SlotRbBitmap :=
  if symbols.stop ≤ NOF_OFDM_SYM_PER_SLOT_NORMAL_CP then
    (g.slotRbs.slice _ (symbols.start * g.nofRbs) (symbols.stop * g.nofRbs)).mapError .bitset
  else .error .symbolsOutOfBounds

def usedCrbs (g : CarrierResourceGrid) (bwpCrbLims symbols : UnsignedInterval) :
    Except GridAccessAbort (BoundedBitset MAX_NOF_PRBS) := do
  let slotRbsSelectedSymbols ← g.selectedSymbols symbols
  let crbBits ← (slotRbsSelectedSymbols.foldAndAccumulate MAX_NOF_PRBS g.nofRbs 0 g.nofRbs).mapError .bitset
  let crbBits ← (crbBits.fill 0 bwpCrbLims.start true).mapError .bitset
  (crbBits.fill bwpCrbLims.stop crbBits.size true).mapError .bitset

def usedPrbs (g : CarrierResourceGrid) (bwpCrbLims symbols : UnsignedInterval) :
    Except GridAccessAbort (BoundedBitset MAX_NOF_PRBS) := do
  let slotRbsSelectedSymbols ← g.selectedSymbols symbols
  (slotRbsSelectedSymbols.foldAndAccumulate MAX_NOF_PRBS g.nofRbs bwpCrbLims.start bwpCrbLims.length).mapError .bitset

end CarrierResourceGrid

inductive GridAccess where
  | clearAll
  | fill (symbols crbs : UnsignedInterval)
  | fillList (symbols : UnsignedInterval) (crbList : List Nat)
  | clearList (symbols : UnsignedInterval) (crbList : List Nat)

def CarrierResourceGrid.access (g : CarrierResourceGrid) : GridAccess → Except GridAccessAbort CarrierResourceGrid
  | .clearAll => .ok g.clearAll
  | .fill symbols crbs => g.fill symbols crbs
  | .fillList symbols crbList => g.fillList symbols crbList
  | .clearList symbols crbList => g.clearList symbols crbList

/-!
## The views of a carrier grid

Each operation is described by the cells of symbols and CRBs that it marks.
-/

open OwlsRan.Adt OwlsRan.Ran OwlsRan.Lib

namespace CarrierResourceGrid

variable {g g' : CarrierResourceGrid}

def occupied (g : CarrierResourceGrid) (i crb : Nat) : Bool := g.slotRbs.bit (crb - g.offset + i * g.nofRbs)

def Sized (g : CarrierResourceGrid) : Prop := g.slotRbs.size = NOF_OFDM_SYM_PER_SLOT_NORMAL_CP * g.nofRbs

structure Marks (g g' : CarrierResourceGrid) (val : Bool) (region : Nat → Nat → Prop) : Prop where
  cfg : g'.carrierCfg = g.carrierCfg
  size : g'.slotRbs.size = g.slotRbs.size
  inside : ∀ i crb, g.rbDims.Mem crb → region i crb → g'.occupied i crb = val
  outside : ∀ i crb, g.rbDims.Mem crb → ¬ region i crb → g'.occupied i crb = g.occupied i crb

lemma rbDims_mem (crb : Nat) : g.rbDims.Mem crb ↔ g.offset ≤ crb ∧ crb < g.offset + g.nofRbs := Iff.rfl

lemma contains_iff (i : UnsignedInterval) (p : Nat) : i.contains p = true ↔ i.Mem p := by
  simp [UnsignedInterval.contains, UnsignedInterval.Mem]

lemma mem_symbolList (symbols : UnsignedInterval) (i : Nat) : i ∈ symbolList symbols ↔ symbols.Mem i := by
  have := symbols.valid
  unfold symbolList UnsignedInterval.length UnsignedInterval.Mem
  rw [List.mem_range'_1]
  omega

lemma cell_inj {n r r' i i' : Nat} (hr : r < n) (hr' : r' < n) (h : r + i * n = r' + i' * n) : i = i' ∧ r = r' := by
  have hdiv : (r + i * n) / n = (r' + i' * n) / n := by rw [h]
  rw [Nat.add_mul_div_right _ _ (by omega), Nat.add_mul_div_right _ _ (by omega), Nat.div_eq_of_lt hr,
    Nat.div_eq_of_lt hr'] at hdiv
  have hi : i = i' := by omega
  subst hi
  exact ⟨rfl, by omega⟩

lemma mem_row {s e i crb i' : Nat} (hs : g.offset ≤ s) (he : e ≤ g.offset + g.nofRbs)
    (hcrb : g.rbDims.Mem crb) :
    (s - g.offset + i * g.nofRbs ≤ crb - g.offset + i' * g.nofRbs ∧
      crb - g.offset + i' * g.nofRbs < e - g.offset + i * g.nofRbs) ↔ i' = i ∧ s ≤ crb ∧ crb < e := by
  obtain ⟨hlo, hhi⟩ := (rbDims_mem crb).mp hcrb
  constructor
  · rintro ⟨h1, h2⟩
    -- the bit lies in the row of symbol `i`
    have hrow : crb - g.offset + i' * g.nofRbs = (crb - g.offset + i' * g.nofRbs - i * g.nofRbs) + i * g.nofRbs := by
      omega
    obtain ⟨rfl, hsame⟩ := cell_inj (by omega) (by omega) hrow
    exact ⟨rfl, by omega, by omega⟩
  · rintro ⟨rfl, h1, h2⟩
    omega

lemma row_le {e i : Nat} (he : e ≤ g.offset + g.nofRbs) (hi : i < NOF_OFDM_SYM_PER_SLOT_NORMAL_CP) :
    e - g.offset + i * g.nofRbs ≤ NOF_OFDM_SYM_PER_SLOT_NORMAL_CP * g.nofRbs := by
  have hle : (i + 1) * g.nofRbs ≤ NOF_OFDM_SYM_PER_SLOT_NORMAL_CP * g.nofRbs := Nat.mul_le_mul_right _ hi
  rw [Nat.add_mul, Nat.one_mul] at hle
  omega

lemma Sized.of_marks {val : Bool} {region : Nat → Nat → Prop} (hg : g.Sized) (h : Marks g g' val region) :
    g'.Sized := by
  unfold Sized nofRbs at hg ⊢
  rw [h.size, h.cfg]
  exact hg

section Loops

variable {val : Bool}

lemma Marks.refl (g : CarrierResourceGrid) (val : Bool) : Marks g g val fun _ _ => False :=
  ⟨rfl, rfl, fun _ _ _ h => h.elim, fun _ _ _ _ => rfl⟩

lemma Marks.congr {region region' : Nat → Nat → Prop} (h : Marks g g' val region)
    (hsame : ∀ i crb, g.rbDims.Mem crb → (region i crb ↔ region' i crb)) : Marks g g' val region' :=
  ⟨h.cfg, h.size, fun i crb hcrb hr => h.inside i crb hcrb ((hsame i crb hcrb).mpr hr),
    fun i crb hcrb hr => h.outside i crb hcrb fun hr' => hr ((hsame i crb hcrb).mp hr')⟩

lemma Marks.trans {g'' : CarrierResourceGrid} {region region' : Nat → Nat → Prop} (h : Marks g g' val region)
    (h' : Marks g' g'' val region') : Marks g g'' val fun i crb => region i crb ∨ region' i crb := by
  have hdims : g'.rbDims = g.rbDims := by
    unfold rbDims offset nofRbs
    rw [h.cfg]
  refine ⟨h'.cfg.trans h.cfg, h'.size.trans h.size, ?_, ?_⟩
  · intro i crb hcrb hr
    by_cases hlast : region' i crb
    · exact h'.inside i crb (by rwa [hdims]) hlast
    · rw [h'.outside i crb (by rwa [hdims]) hlast]
      exact h.inside i crb hcrb (hr.resolve_right hlast)
  · intro i crb hcrb hr
    rw [h'.outside i crb (by rwa [hdims]) fun hlast => hr (Or.inr hlast)]
    exact h.outside i crb hcrb fun hfirst => hr (Or.inl hfirst)

lemma marks_foldlM {α : Type} {op : SlotRbBitmap → α → Except GridAccessAbort SlotRbBitmap}
    (region : α → Nat → Nat → Prop) {l : List α} {slotRbs slotRbs' : SlotRbBitmap}
    (hop : ∀ x ∈ l, ∀ b b', b.size = slotRbs.size → op b x = .ok b' →
      Marks { g with slotRbs := b } { g with slotRbs := b' } val (region x))
    (h : l.foldlM op slotRbs = .ok slotRbs') :
    Marks { g with slotRbs := slotRbs } { g with slotRbs := slotRbs' } val fun i crb => ∃ x ∈ l, region x i crb := by
  induction l generalizing slotRbs with
  | nil =>
    cases h
    exact (Marks.refl _ val).congr fun i crb _ => by simp
  | cons x l ih =>
    rw [List.foldlM_cons] at h
    obtain ⟨b, hb, hrest⟩ := bind_eq_ok.mp h
    have hfirst := hop x List.mem_cons_self slotRbs b rfl hb
    have hsize : b.size = slotRbs.size := hfirst.size
    have hlast := ih (fun y hy c c' hc => hop y (List.mem_cons_of_mem x hy) c c' (hc.trans hsize)) hrest
    exact (hfirst.trans hlast).congr fun i crb _ => by simp

lemma forSymbols_marks {symbols : UnsignedInterval} {op : SlotRbBitmap → Nat → Except GridAccessAbort SlotRbBitmap}
    (val : Bool) (region : Nat → Nat → Nat → Prop)
    (hop : ∀ i ∈ symbolList symbols, ∀ b b', b.size = g.slotRbs.size → op b i = .ok b' →
      Marks { g with slotRbs := b } { g with slotRbs := b' } val (region i))
    (h : g.forSymbols symbols op = .ok g') :
    Marks g g' val fun i crb => ∃ x ∈ symbolList symbols, region x i crb := by
  unfold forSymbols at h
  split at h
  case isFalse => cases h
  case isTrue =>
    obtain ⟨slotRbs', hfold, rfl⟩ := map_eq_ok.mp h
    exact marks_foldlM (g := g) region hop hfold

end Loops

section Accesses

variable {symbols crbs : UnsignedInterval}

def region : GridAccess → Nat → Nat → Prop
  | .clearAll, _, _ => True
  | .fill symbols crbs, i, crb => symbols.Mem i ∧ crbs.Mem crb
  | .fillList symbols crbList, i, crb => symbols.Mem i ∧ crb ∈ crbList
  | .clearList symbols crbList, i, crb => symbols.Mem i ∧ crb ∈ crbList

def written : GridAccess → Bool
  | .fill _ _ => true
  | .fillList _ _ => true
  | .clearAll => false
  | .clearList _ _ => false

lemma clearAll_marks (g : CarrierResourceGrid) : Marks g g.clearAll false fun _ _ => True := by
  refine ⟨rfl, BoundedBitset.size_zerosLike _, ?_, fun _ _ _ h => absurd trivial h⟩
  intro i crb _ _
  exact BoundedBitset.bit_zerosLike _ _

lemma fillRow_spec (hstart : g.offset ≤ crbs.start) (hstop : crbs.stop ≤ g.offset + g.nofRbs) {i : Nat}
    (hi : i < NOF_OFDM_SYM_PER_SLOT_NORMAL_CP) {b : SlotRbBitmap}
    (hb : b.size = NOF_OFDM_SYM_PER_SLOT_NORMAL_CP * g.nofRbs) :
    ∃ b', (b.fill (crbs.start - g.offset + i * g.nofRbs) (crbs.stop - g.offset + i * g.nofRbs) true).mapError
        GridAccessAbort.bitset = .ok b' ∧
      Marks { g with slotRbs := b } { g with slotRbs := b' } true fun i' crb => i' = i ∧ crbs.Mem crb := by
  have hvalid := crbs.valid
  obtain ⟨b', hfill, hsize, hbit⟩ := BoundedBitset.fill_spec (b := b)
    (s := crbs.start - g.offset + i * g.nofRbs) (e := crbs.stop - g.offset + i * g.nofRbs) (by omega)
    (by rw [hb]; exact row_le hstop hi) true
  refine ⟨b', by rw [hfill]; rfl, rfl, hsize, ?_, ?_⟩
  · intro i' crb hcrb hr
    exact (hbit _).1 ((mem_row (g := g) hstart hstop hcrb).mpr hr)
  · intro i' crb hcrb hr
    exact (hbit _).2 fun hin => hr ((mem_row (g := g) hstart hstop hcrb).mp hin)

lemma symbolList_lt (hsymbols : symbols.stop ≤ NOF_OFDM_SYM_PER_SLOT_NORMAL_CP) {i : Nat}
    (hi : i ∈ symbolList symbols) : i < NOF_OFDM_SYM_PER_SLOT_NORMAL_CP := by
  have := ((mem_symbolList symbols i).mp hi).2
  omega

lemma fill_marks (hg : g.Sized) (h : g.fill symbols crbs = .ok g') :
    Marks g g' true fun i crb => symbols.Mem i ∧ crbs.Mem crb := by
  unfold fill at h
  split at h
  case isFalse => cases h
  case isTrue hin =>
    have hsymbols : symbols.stop ≤ NOF_OFDM_SYM_PER_SLOT_NORMAL_CP := by
      unfold forSymbols at h
      split at h
      case isTrue hle => exact hle
      case isFalse => cases h
    have hmarks := forSymbols_marks (g := g) true (fun i i' crb => i' = i ∧ crbs.Mem crb) (by
      intro i hi b b' hb hrow
      obtain ⟨b'', hrow', hmarks⟩ := fillRow_spec hin.1 hin.2 (symbolList_lt hsymbols hi) (hb.trans hg)
      rw [hrow] at hrow'
      cases hrow'
      exact hmarks) h
    refine hmarks.congr fun i crb _ => ?_
    constructor
    · rintro ⟨x, hx, rfl, hcrb⟩
      exact ⟨(mem_symbolList symbols i).mp hx, hcrb⟩
    · rintro ⟨hi, hcrb⟩
      exact ⟨i, (mem_symbolList symbols i).mpr hi, rfl, hcrb⟩

lemma fill_ok (hg : g.Sized) (hsymbols : symbols.stop ≤ NOF_OFDM_SYM_PER_SLOT_NORMAL_CP)
    (hstart : g.offset ≤ crbs.start) (hstop : crbs.stop ≤ g.offset + g.nofRbs) :
    ∃ g', g.fill symbols crbs = .ok g' := by
  have hloop : ∀ (l : List Nat) (b : SlotRbBitmap), (∀ i ∈ l, i < NOF_OFDM_SYM_PER_SLOT_NORMAL_CP) →
      b.size = NOF_OFDM_SYM_PER_SLOT_NORMAL_CP * g.nofRbs →
      ∃ b', l.foldlM (fun slotRbs i => (slotRbs.fill (crbs.start - g.offset + i * g.nofRbs)
        (crbs.stop - g.offset + i * g.nofRbs) true).mapError GridAccessAbort.bitset) b = .ok b' := by
    intro l
    induction l with
    | nil => exact fun b _ _ => ⟨b, rfl⟩
    | cons i l ih =>
      intro b hl hb
      obtain ⟨b', hrow, hmarks⟩ := fillRow_spec hstart hstop (hl i List.mem_cons_self) hb
      obtain ⟨r, hr⟩ := ih b' (fun j hj => hl j (List.mem_cons_of_mem i hj)) (hmarks.size.trans hb)
      refine ⟨r, ?_⟩
      rw [List.foldlM_cons, hrow]
      exact hr
  obtain ⟨b', hb'⟩ := hloop (symbolList symbols) g.slotRbs (fun i hi => symbolList_lt hsymbols hi) hg
  refine ⟨{ g with slotRbs := b' }, ?_⟩
  unfold fill forSymbols
  rw [if_pos ⟨hstart, hstop⟩, if_pos hsymbols, hb']
  rfl

lemma setCrbs_marks {crbList : List Nat} {val : Bool} {i : Nat} {b b' : SlotRbBitmap}
    (h : g.setCrbs crbList val b i = .ok b') :
    Marks { g with slotRbs := b } { g with slotRbs := b' } val fun i' crb => ∃ x ∈ crbList, i' = i ∧ crb = x := by
  refine marks_foldlM (g := g) (fun x i' crb => i' = i ∧ crb = x) ?_ h
  intro x _ c c' _ hset
  split at hset
  case isFalse => cases hset
  case isTrue hin =>
    have hx := (contains_iff _ _).mp hin
    have hbit := BoundedBitset.bit_set (mapError_eq_ok.mp hset)
    refine ⟨rfl, BoundedBitset.size_set (mapError_eq_ok.mp hset), ?_, ?_⟩
    · rintro i' crb hcrb ⟨rfl, rfl⟩
      exact (hbit _).trans (if_pos rfl)
    · intro i' crb hcrb hr
      refine (hbit _).trans (if_neg ?_)
      intro hsame
      have hlt : x - g.offset < g.nofRbs ∧ crb - g.offset < g.nofRbs := by
        have := (rbDims_mem x).mp hx
        have := (rbDims_mem (g := g) crb).mp hcrb
        omega
      obtain ⟨hi, hc⟩ := cell_inj hlt.2 hlt.1 hsame
      have := (rbDims_mem x).mp hx
      have := (rbDims_mem (g := g) crb).mp hcrb
      exact hr ⟨hi, by omega⟩

lemma forSymbols_setCrbs_marks {crbList : List Nat} {val : Bool}
    (h : g.forSymbols symbols (g.setCrbs crbList val) = .ok g') :
    Marks g g' val fun i crb => symbols.Mem i ∧ crb ∈ crbList := by
  have hmarks := forSymbols_marks (g := g) val
    (fun i i' crb => ∃ x ∈ crbList, i' = i ∧ crb = x) (fun i _ b b' _ hset => setCrbs_marks hset) h
  refine hmarks.congr fun i crb _ => ?_
  constructor
  · rintro ⟨x, hx, y, hy, rfl, rfl⟩
    exact ⟨(mem_symbolList symbols i).mp hx, hy⟩
  · rintro ⟨hi, hcrb⟩
    exact ⟨i, (mem_symbolList symbols i).mpr hi, crb, hcrb, rfl, rfl⟩

lemma access_marks {a : GridAccess} (hg : g.Sized) (h : g.access a = .ok g') : Marks g g' (written a) (region a) := by
  cases a with
  | clearAll =>
    cases h
    exact clearAll_marks g
  | fill symbols crbs => exact fill_marks hg h
  | fillList symbols crbList => exact forSymbols_setCrbs_marks h
  | clearList symbols crbList => exact forSymbols_setCrbs_marks h

end Accesses

section Collides

variable {symbols : UnsignedInterval}

lemma anyCell_spec {α : Type} (isSet : α → Except GridAccessAbort Bool) (P : α → Prop) (l : List α)
    (h : ∀ x ∈ l, ∃ found, isSet x = .ok found ∧ (found = true ↔ P x)) :
    ∃ found, anyCell isSet l = .ok found ∧ (found = true ↔ ∃ x ∈ l, P x) := by
  induction l with
  | nil => exact ⟨false, rfl, by simp⟩
  | cons x l ih =>
    obtain ⟨found, hfound, hP⟩ := h x List.mem_cons_self
    obtain ⟨rest, hrest, hPrest⟩ := ih fun y hy => h y (List.mem_cons_of_mem x hy)
    unfold anyCell
    rw [hfound]
    cases found with
    | true => exact ⟨true, rfl, by simpa using Or.inl (hP.mp rfl)⟩
    | false =>
      refine ⟨rest, hrest, ?_⟩
      rw [hPrest]
      simp only [Bool.false_eq_true, false_iff] at hP
      simp [hP]

lemma collides_spec (crbs : UnsignedInterval) (hg : g.Sized) (hsymbols : symbols.stop ≤ NOF_OFDM_SYM_PER_SLOT_NORMAL_CP)
    (hstart : g.offset ≤ crbs.start) (hstop : crbs.stop ≤ g.offset + g.nofRbs) :
    ∃ found, g.collides symbols crbs = .ok found ∧
      (found = true ↔ ∃ i crb, symbols.Mem i ∧ crbs.Mem crb ∧ g.occupied i crb = true) := by
  have hvalid := crbs.valid
  obtain ⟨found, hfound, hiff⟩ := anyCell_spec
    (fun i => (g.slotRbs.any (crbs.start - g.offset + i * g.nofRbs)
      (crbs.stop - g.offset + i * g.nofRbs)).mapError GridAccessAbort.bitset)
    (fun i => ∃ crb, crbs.Mem crb ∧ g.occupied i crb = true) (symbolList symbols) (by
      intro i hi
      obtain ⟨found, hany, hiff⟩ := BoundedBitset.any_spec (b := g.slotRbs)
        (s := crbs.start - g.offset + i * g.nofRbs) (e := crbs.stop - g.offset + i * g.nofRbs) (by omega)
        (by rw [hg]; exact row_le hstop (symbolList_lt hsymbols hi))
      refine ⟨found, by rw [hany]; rfl, ?_⟩
      rw [hiff]
      constructor
      · rintro ⟨p, hps, hpe, hbit⟩
        refine ⟨g.offset + (p - i * g.nofRbs), ⟨by omega, by omega⟩, ?_⟩
        unfold occupied
        rw [show g.offset + (p - i * g.nofRbs) - g.offset + i * g.nofRbs = p by omega]
        exact hbit
      · rintro ⟨crb, hcrb, hbit⟩
        obtain ⟨hlo, hhi⟩ := hcrb
        exact ⟨crb - g.offset + i * g.nofRbs, by omega, by omega, hbit⟩)
  refine ⟨found, ?_, ?_⟩
  · unfold collides
    rw [if_pos ⟨hstart, hstop⟩, if_pos hsymbols]
    exact hfound
  · rw [hiff]
    constructor
    · rintro ⟨i, hi, crb, hcrb, hbit⟩
      exact ⟨i, crb, (mem_symbolList symbols i).mp hi, hcrb, hbit⟩
    · rintro ⟨i, crb, hi, hcrb, hbit⟩
      exact ⟨i, (mem_symbolList symbols i).mpr hi, crb, hcrb, hbit⟩

end Collides

section Used

variable {symbols bwp : UnsignedInterval}

lemma selectedSymbols_spec (hsymbols : symbols.stop ≤ NOF_OFDM_SYM_PER_SLOT_NORMAL_CP) :
    ∃ bits, g.selectedSymbols symbols = .ok bits ∧ bits.size = symbols.length * g.nofRbs ∧
      ∀ k < symbols.length, ∀ r < g.nofRbs,
        bits.bit (k * g.nofRbs + r) = g.slotRbs.bit (r + (symbols.start + k) * g.nofRbs) := by
  have hle : symbols.start * g.nofRbs ≤ symbols.stop * g.nofRbs := Nat.mul_le_mul_right _ symbols.valid
  have hcap : symbols.stop * g.nofRbs ≤ NOF_OFDM_SYM_PER_SLOT_NORMAL_CP * MAX_NOF_PRBS :=
    Nat.mul_le_mul hsymbols g.carrierCfg.bandwidth_le
  have hlength : symbols.stop * g.nofRbs - symbols.start * g.nofRbs = symbols.length * g.nofRbs := by
    unfold UnsignedInterval.length
    rw [Nat.sub_mul]
  obtain ⟨bits, hslice, hsize, hbit⟩ := BoundedBitset.slice_spec (b := g.slotRbs)
    (M := NOF_OFDM_SYM_PER_SLOT_NORMAL_CP * MAX_NOF_PRBS) hle hcap (by omega)
  refine ⟨bits, ?_, hsize.trans hlength, ?_⟩
  · unfold selectedSymbols
    rw [if_pos hsymbols, hslice]
    rfl
  · intro k hk r hr
    have hrow : (k + 1) * g.nofRbs ≤ symbols.length * g.nofRbs := Nat.mul_le_mul_right _ hk
    rw [Nat.add_mul, Nat.one_mul] at hrow
    rw [hbit _ (by omega), Nat.add_mul]
    congr 1
    omega

lemma gather_spec (hpos : 0 < g.nofRbs) (hsymbols : symbols.stop ≤ NOF_OFDM_SYM_PER_SLOT_NORMAL_CP)
    {sliceOffset sliceLength : Nat} (hfits : sliceOffset + sliceLength ≤ g.nofRbs) :
    ∃ bits : SlotRbBitmap, g.selectedSymbols symbols = .ok bits ∧
      ∃ r, bits.foldAndAccumulate MAX_NOF_PRBS g.nofRbs sliceOffset sliceLength = .ok r ∧ r.size = sliceLength ∧
        ∀ p < sliceLength, r.bit p = true ↔
          ∃ i, symbols.Mem i ∧ g.slotRbs.bit (sliceOffset + p + i * g.nofRbs) = true := by
  have hvalid := symbols.valid
  have hM : sliceLength ≤ MAX_NOF_PRBS := by
    have := g.carrierCfg.bandwidth_le
    unfold nofRbs at hfits
    omega
  obtain ⟨bits, hbits, hsize, hbit⟩ := selectedSymbols_spec hsymbols
  obtain ⟨r, hr, hrsize, hrbit⟩ := BoundedBitset.foldAndAccumulate_spec hpos hsize hM hfits
  refine ⟨bits, hbits, r, hr, hrsize, ?_⟩
  intro p hp
  rw [hrbit p hp]
  unfold UnsignedInterval.length
  constructor
  · rintro ⟨k, hk, hset⟩
    refine ⟨symbols.start + k, ⟨by omega, by omega⟩, ?_⟩
    rw [Nat.add_assoc, hbit k hk _ (by omega)] at hset
    exact hset
  · rintro ⟨i, hi, hset⟩
    have hlo := hi.1
    have hhi := hi.2
    refine ⟨i - symbols.start, by omega, ?_⟩
    rw [Nat.add_assoc, hbit _ (by unfold UnsignedInterval.length; omega) _ (by omega)]
    rw [show symbols.start + (i - symbols.start) = i by omega]
    exact hset

lemma usedCrbs_spec (hoffset : g.offset = 0) (hpos : 0 < g.nofRbs)
    (hsymbols : symbols.stop ≤ NOF_OFDM_SYM_PER_SLOT_NORMAL_CP) (hbwp : bwp.stop ≤ g.nofRbs) :
    ∃ bits, g.usedCrbs bwp symbols = .ok bits ∧ bits.size = g.nofRbs ∧ ∀ crb < g.nofRbs,
      bits.bit crb = true ↔ ¬ bwp.Mem crb ∨ ∃ i, symbols.Mem i ∧ g.occupied i crb = true := by
  have hvalid := bwp.valid
  obtain ⟨selected, hselected, r, hr, hrsize, hrbit⟩ := gather_spec hpos hsymbols
    (by omega : 0 + g.nofRbs ≤ g.nofRbs)
  obtain ⟨below, hbelow, hbelowSize, hbelowBit⟩ := BoundedBitset.fill_spec (b := r) (Nat.zero_le bwp.start)
    (by omega) true
  obtain ⟨bits, habove, hsize, hbit⟩ := BoundedBitset.fill_spec (b := below) (s := bwp.stop) (e := below.size)
    (by omega) (Nat.le_refl _) true
  refine ⟨bits, ?_, by omega, ?_⟩
  · unfold usedCrbs
    rw [hselected]
    change ((selected.foldAndAccumulate MAX_NOF_PRBS g.nofRbs 0 g.nofRbs).mapError _ >>= _) = _
    rw [hr]
    change ((r.fill 0 bwp.start true).mapError _ >>= _) = _
    rw [hbelow]
    change ((below.fill bwp.stop below.size true).mapError _) = _
    rw [habove]
    rfl
  · intro crb hcrb
    have hcell : r.bit crb = true ↔ ∃ i, symbols.Mem i ∧ g.occupied i crb = true := by
      rw [hrbit crb hcrb]
      unfold occupied
      rw [hoffset]
      simp only [Nat.zero_add, Nat.sub_zero]
    by_cases hin : bwp.Mem crb
    · have hlo := hin.1
      have hhi := hin.2
      rw [(hbit crb).2 (by omega), (hbelowBit crb).2 (by omega), hcell]
      exact ⟨Or.inr, fun h => h.resolve_left (not_not_intro hin)⟩
    · apply iff_of_true _ (Or.inl hin)
      by_cases hbefore : crb < bwp.start
      · rw [(hbit crb).2 (by omega)]
        exact (hbelowBit crb).1 ⟨Nat.zero_le _, hbefore⟩
      · have hafter : bwp.stop ≤ crb := by
          by_contra hlt
          exact hin ⟨by omega, by omega⟩
        exact (hbit crb).1 ⟨hafter, by omega⟩

lemma usedPrbs_spec (hoffset : g.offset = 0) (hpos : 0 < g.nofRbs)
    (hsymbols : symbols.stop ≤ NOF_OFDM_SYM_PER_SLOT_NORMAL_CP) (hbwp : bwp.stop ≤ g.nofRbs) :
    ∃ bits, g.usedPrbs bwp symbols = .ok bits ∧ bits.size = bwp.length ∧ ∀ p < bwp.length,
      bits.bit p = true ↔ ∃ i, symbols.Mem i ∧ g.occupied i (bwp.start + p) = true := by
  have hsum := UnsignedInterval.start_add_length bwp
  obtain ⟨selected, hselected, r, hr, hrsize, hrbit⟩ := gather_spec hpos hsymbols
    (by omega : bwp.start + bwp.length ≤ g.nofRbs)
  refine ⟨r, ?_, hrsize, ?_⟩
  · unfold usedPrbs
    rw [hselected]
    change (selected.foldAndAccumulate MAX_NOF_PRBS g.nofRbs bwp.start bwp.length).mapError _ = _
    rw [hr]
    rfl
  · intro p hp
    rw [hrbit p hp]
    unfold occupied
    rw [hoffset]
    simp only [Nat.sub_zero]

lemma usedCrbs_bound {bits : BoundedBitset MAX_NOF_PRBS} (h : g.usedCrbs bwp symbols = .ok bits) :
    0 < g.nofRbs ∧ bwp.stop ≤ g.nofRbs := by
  unfold usedCrbs at h
  obtain ⟨selected, -, h⟩ := bind_eq_ok.mp h
  obtain ⟨r, hr, h⟩ := bind_eq_ok.mp h
  obtain ⟨below, hbelow, habove⟩ := bind_eq_ok.mp h
  obtain ⟨hpos, hrsize⟩ := BoundedBitset.foldAndAccumulate_size (mapError_eq_ok.mp hr)
  obtain ⟨-, -, hbelowSize⟩ := BoundedBitset.fill_bounds (mapError_eq_ok.mp hbelow)
  obtain ⟨hstop, -, -⟩ := BoundedBitset.fill_bounds (mapError_eq_ok.mp habove)
  exact ⟨hpos, by omega⟩

end Used

section Views

/-- The bitmaps of a BWP tell what `collides` tells for each of its RBs. -/
def ViewsAgree (g : CarrierResourceGrid) (bwp symbols : UnsignedInterval) : Prop :=
  (∃ bits, g.usedCrbs bwp symbols = .ok bits ∧ ∀ crb, g.rbDims.Mem crb →
    (bits.bit crb = true ↔ ¬ bwp.Mem crb ∨ g.collides symbols (.ofStartAndLen crb 1) = .ok true)) ∧
  ∃ bits, g.usedPrbs bwp symbols = .ok bits ∧ ∀ p < bwp.length,
    (bits.bit p = true ↔ g.collides symbols (.ofStartAndLen (bwp.start + p) 1) = .ok true)

def Within (g : CarrierResourceGrid) (crbs : UnsignedInterval) : Prop :=
  g.offset ≤ crbs.start ∧ crbs.stop ≤ g.offset + g.nofRbs

/-- `fill` collides with every region that overlaps and leaves the cells outside as they are. -/
def FillMarks (g : CarrierResourceGrid) : Prop :=
  ∀ symbols crbs : UnsignedInterval, symbols.stop ≤ NOF_OFDM_SYM_PER_SLOT_NORMAL_CP → g.Within crbs →
    ∃ g', g.fill symbols crbs = .ok g' ∧
      (∀ symbols' crbs' : UnsignedInterval, symbols'.stop ≤ NOF_OFDM_SYM_PER_SLOT_NORMAL_CP → g.Within crbs' →
        (∃ i, symbols.Mem i ∧ symbols'.Mem i) → (∃ crb, crbs.Mem crb ∧ crbs'.Mem crb) →
        g'.collides symbols' crbs' = .ok true) ∧
      ∀ i crb, i < NOF_OFDM_SYM_PER_SLOT_NORMAL_CP → g.rbDims.Mem crb → ¬ (symbols.Mem i ∧ crbs.Mem crb) →
        g'.collides (.ofStartAndLen i 1) (.ofStartAndLen crb 1) =
          g.collides (.ofStartAndLen i 1) (.ofStartAndLen crb 1)

variable {symbols bwp : UnsignedInterval}

lemma collides_one (hg : g.Sized) (hsymbols : symbols.stop ≤ NOF_OFDM_SYM_PER_SLOT_NORMAL_CP) {crb : Nat}
    (hcrb : g.rbDims.Mem crb) :
    g.collides symbols (.ofStartAndLen crb 1) = .ok true ↔ ∃ i, symbols.Mem i ∧ g.occupied i crb = true := by
  obtain ⟨hlo, hhi⟩ := (rbDims_mem crb).mp hcrb
  obtain ⟨found, hfound, hiff⟩ := collides_spec (.ofStartAndLen crb 1) hg hsymbols hlo (by
    rw [UnsignedInterval.ofStartAndLen_stop]
    omega)
  rw [hfound]
  constructor
  · intro h
    cases h
    obtain ⟨i, c, hi, hc, hbit⟩ := hiff.mp rfl
    have hsame : c = crb := by
      have hc1 := hc.1
      have hc2 := hc.2
      simp only [UnsignedInterval.ofStartAndLen_start, UnsignedInterval.ofStartAndLen_stop] at hc1 hc2
      omega
    rw [hsame] at hbit
    exact ⟨i, hi, hbit⟩
  · rintro ⟨i, hi, hbit⟩
    rw [hiff.mpr ⟨i, crb, hi, ⟨Nat.le_refl _, Nat.lt_succ_self _⟩, hbit⟩]

lemma viewsAgree_of_offset (hg : g.Sized) (hoffset : g.offset = 0) (hpos : 0 < g.nofRbs) (hbwp : g.Within bwp)
    (hsymbols : symbols.stop ≤ NOF_OFDM_SYM_PER_SLOT_NORMAL_CP) : g.ViewsAgree bwp symbols := by
  have hstop : bwp.stop ≤ g.nofRbs := by
    have := hbwp.2
    omega
  constructor
  · obtain ⟨bits, hused, -, hbit⟩ := usedCrbs_spec hoffset hpos hsymbols hstop
    refine ⟨bits, hused, ?_⟩
    intro crb hcrb
    have hlt : crb < g.nofRbs := by
      have := ((rbDims_mem crb).mp hcrb).2
      omega
    rw [hbit crb hlt, collides_one hg hsymbols hcrb]
  · obtain ⟨bits, hused, -, hbit⟩ := usedPrbs_spec hoffset hpos hsymbols hstop
    refine ⟨bits, hused, ?_⟩
    intro p hp
    have hcrb : g.rbDims.Mem (bwp.start + p) := by
      have := UnsignedInterval.start_add_length bwp
      exact (rbDims_mem _).mpr (by omega)
    rw [hbit p hp, collides_one hg hsymbols hcrb]

lemma fillMarks_of_sized (hg : g.Sized) : g.FillMarks := by
  intro symbols crbs hsymbols hcrbs
  obtain ⟨g', hfill⟩ := fill_ok hg hsymbols hcrbs.1 hcrbs.2
  have hmarks := fill_marks hg hfill
  have hsized := hg.of_marks hmarks
  have hoffset : g'.offset = g.offset := congrArg ScsSpecificCarrier.offsetToCarrier hmarks.cfg
  have hnofRbs : g'.nofRbs = g.nofRbs := congrArg ScsSpecificCarrier.carrierBandwidth hmarks.cfg
  refine ⟨g', hfill, ?_, ?_⟩
  · rintro symbols' crbs' hsymbols' hcrbs' ⟨i, hi, hi'⟩ ⟨crb, hcrb, hcrb'⟩
    obtain ⟨found, hfound, hiff⟩ := collides_spec crbs' hsized hsymbols' (by rw [hoffset]; exact hcrbs'.1)
      (by rw [hoffset, hnofRbs]; exact hcrbs'.2)
    have hdims : g.rbDims.Mem crb := by
      have h1 := hcrbs.1
      have h2 := hcrbs.2
      have h3 := hcrb.1
      have h4 := hcrb.2
      exact (rbDims_mem crb).mpr (by omega)
    rw [hfound, hiff.mpr ⟨i, crb, hi', hcrb', hmarks.inside i crb hdims ⟨hi, hcrb⟩⟩]
  · intro i crb hi hcrb hout
    have hone : (UnsignedInterval.ofStartAndLen i 1).stop ≤ NOF_OFDM_SYM_PER_SLOT_NORMAL_CP := hi
    have hcrb' : g'.rbDims.Mem crb := by
      rw [rbDims_mem, hoffset, hnofRbs]
      exact hcrb
    have hat : ∀ h : CarrierResourceGrid, (∃ x, (UnsignedInterval.ofStartAndLen i 1).Mem x ∧ h.occupied x crb = true) ↔
        h.occupied i crb = true := by
      intro h
      constructor
      · rintro ⟨x, hx, hbit⟩
        have hsame : x = i := by
          have h1 := hx.1
          have h2 := hx.2
          simp only [UnsignedInterval.ofStartAndLen_start, UnsignedInterval.ofStartAndLen_stop] at h1 h2
          omega
        rwa [hsame] at hbit
      · intro hbit
        exact ⟨i, ⟨Nat.le_refl _, Nat.lt_succ_self _⟩, hbit⟩
    have hiff : g'.collides (.ofStartAndLen i 1) (.ofStartAndLen crb 1) = .ok true ↔
        g.collides (.ofStartAndLen i 1) (.ofStartAndLen crb 1) = .ok true := by
      rw [collides_one hsized hone hcrb', collides_one hg hone hcrb, hat, hat, hmarks.outside i crb hcrb hout]
    obtain ⟨hlo, hhi⟩ := (rbDims_mem crb).mp hcrb
    obtain ⟨found', hfound', -⟩ := collides_spec (.ofStartAndLen crb 1) hsized hone
      (by rw [hoffset]; exact hlo) (by rw [hoffset, hnofRbs]; exact hhi)
    obtain ⟨found, hfound, -⟩ := collides_spec (.ofStartAndLen crb 1) hg hone hlo hhi
    rw [hfound, hfound'] at hiff ⊢
    cases found <;> cases found' <;> simp_all

end Views

def run (carrierCfg : ScsSpecificCarrier) (accesses : List GridAccess) : Except GridAccessAbort CarrierResourceGrid :=
  accesses.foldlM access (new carrierCfg)

lemma new_sized (carrierCfg : ScsSpecificCarrier) : (new carrierCfg).Sized := by
  unfold Sized new BoundedBitset.size nofRbs
  exact List.length_replicate

lemma run_sized {carrierCfg : ScsSpecificCarrier} {accesses : List GridAccess}
    (h : run carrierCfg accesses = .ok g) : g.Sized ∧ g.carrierCfg = carrierCfg := by
  have hyields : Yields (run carrierCfg accesses) (fun g => g.Sized ∧ g.carrierCfg = carrierCfg) fun _ => True := by
    apply yields_foldlM (I := fun g : CarrierResourceGrid => g.Sized ∧ g.carrierCfg = carrierCfg)
      ⟨new_sized carrierCfg, rfl⟩
    intro g a _ hg
    rw [yields_iff]
    refine ⟨?_, fun _ _ => trivial⟩
    intro g' hg'
    have hmarks := access_marks hg.1 hg'
    exact ⟨hg.1.of_marks hmarks, hmarks.cfg.trans hg.2⟩
  exact hyields.of_ok h

/-- The views of a carrier agree in every history exactly when the carrier starts at CRB 0. -/
theorem viewsAgree_iff (carrierCfg : ScsSpecificCarrier) :
    (∀ accesses g, run carrierCfg accesses = .ok g →
      (∀ bwp symbols, g.Within bwp → symbols.stop ≤ NOF_OFDM_SYM_PER_SLOT_NORMAL_CP → g.ViewsAgree bwp symbols) ∧
        g.FillMarks) ↔
    carrierCfg.offsetToCarrier = 0 ∧ 0 < carrierCfg.carrierBandwidth := by
  constructor
  · intro h
    -- the whole carrier as the BWP, in a grid that is still empty
    obtain ⟨⟨bits, hused, -⟩, -⟩ := (h [] (new carrierCfg) rfl).1 (new carrierCfg).rbDims (.ofStartAndLen 0 1)
      ⟨Nat.le_refl _, Nat.le_refl _⟩ (by decide)
    obtain ⟨hpos, hstop⟩ := usedCrbs_bound hused
    have hdims : (new carrierCfg).rbDims.stop = carrierCfg.offsetToCarrier + carrierCfg.carrierBandwidth := rfl
    have hnofRbs : (new carrierCfg).nofRbs = carrierCfg.carrierBandwidth := rfl
    omega
  · rintro ⟨hoffset, hpos⟩ accesses g hrun
    obtain ⟨hsized, hcfg⟩ := run_sized hrun
    refine ⟨?_, fillMarks_of_sized hsized⟩
    intro bwp symbols hbwp hsymbols
    apply viewsAgree_of_offset hsized _ _ hbwp hsymbols
    · unfold offset
      rw [hcfg]
      exact hoffset
    · unfold nofRbs
      rw [hcfg]
      exact hpos

def shiftedCarrier : ScsSpecificCarrier := ⟨2, 4, by decide⟩

/-- CRB 2 is filled, and `used_crbs` marks CRB 0 for it. -/
theorem viewsAgree_fails_shifted :
    ∃ g, run shiftedCarrier [.fill (.ofStartAndLen 0 1) (.ofStartAndLen 2 1)] = .ok g ∧
      ¬ g.ViewsAgree (.ofStartAndLen 2 2) (.ofStartAndLen 0 1) := by
  have hrun : ∃ g, run shiftedCarrier [.fill (.ofStartAndLen 0 1) (.ofStartAndLen 2 1)] = .ok g ∧
      (∃ bits, g.usedCrbs (.ofStartAndLen 2 2) (.ofStartAndLen 0 1) = .ok bits ∧ bits.bit 2 = false) ∧
      g.collides (.ofStartAndLen 0 1) (.ofStartAndLen 2 1) = .ok true ∧ g.rbDims = .ofStartAndLen 2 4 :=
    ⟨_, rfl, ⟨_, rfl, rfl⟩, rfl, rfl⟩
  obtain ⟨g, hg, ⟨bits, hbits, hbit⟩, hcollides, hdims⟩ := hrun
  refine ⟨g, hg, ?_⟩
  rintro ⟨⟨bits', hbits', hagree⟩, -⟩
  rw [hbits] at hbits'
  cases hbits'
  have hset := (hagree 2 (by rw [hdims]; exact ⟨Nat.le_refl _, by decide⟩)).mpr (Or.inr hcollides)
  rw [hbit] at hset
  cases hset

end CarrierResourceGrid

end OwlsRan.Sched
