import OwlsRan.Adt.BoundedBitset
import OwlsRan.Lib.Outcome

/-!
# Ranges of a bitset

The operations of `bounded_bitset` on ranges of bits, each with the assertion that the range lies in the bitset.
-/

namespace OwlsRan.Adt

open OwlsRan.Lib

namespace BoundedBitset

variable {N : Nat}

/-- `find_lowest(startpos, endpos, value)`, which asserts that the range lies in the bitset. -/
def findLowest (b : BoundedBitset N) (startpos endpos : Nat) (value : Bool) : Except BitsetAbort (Option Nat) :=
  if startpos ≤ endpos ∧ endpos ≤ b.size then
    .ok ((List.range' startpos (endpos - startpos)).find? fun pos => b.bit pos == value)
  else .error .outOfBounds

/-- `fill(startpos, endpos, value)`. -/
def fill (b : BoundedBitset N) (startpos endpos : Nat) (value : Bool) : Except BitsetAbort (BoundedBitset N) :=
  if startpos ≤ endpos ∧ endpos ≤ b.size then
    .ok ⟨b.bits.mapIdx fun i bit => if startpos ≤ i ∧ i < endpos then value else bit, by simpa using b.bounded⟩
  else .error .outOfBounds

/-- `any(start, stop)`. -/
def any (b : BoundedBitset N) (start stop : Nat) : Except BitsetAbort Bool :=
  if start ≤ stop ∧ stop ≤ b.size then .ok ((List.range' start (stop - start)).any b.bit) else .error .outOfBounds

/-- `operator~`. -/
def complement (b : BoundedBitset N) : BoundedBitset N := ⟨b.bits.map not, by simpa using b.bounded⟩

/-- `count()`: the number of bits that are set. -/
def count (b : BoundedBitset N) : Nat := b.bits.count true

/-- `bounded_bitset(cur_size)`. -/
def ofSize (M n : Nat) : Except BitsetAbort (BoundedBitset M) :=
  if h : n ≤ M then .ok ⟨List.replicate n false, by simpa using h⟩ else .error .exceedsCapacity

/-- `slice<M>(startpos, endpos)`. It reads words of the buffer, where the words behind the last bit hold zeros. -/
def slice (M : Nat) (b : BoundedBitset N) (startpos endpos : Nat) : Except BitsetAbort (BoundedBitset M) :=
  if startpos ≤ endpos ∧ endpos ≤ N then
    if h : endpos - startpos ≤ M then
      .ok ⟨(List.range' startpos (endpos - startpos)).map b.bit, by simpa using h⟩
    else .error .exceedsCapacity
  else .error .outOfBounds

/-- `operator|=`, which asserts that the sizes agree. -/
def orAssign (b other : BoundedBitset N) : Except BitsetAbort (BoundedBitset N) :=
  if other.size = b.size then
    .ok ⟨b.bits.mapIdx fun i bit => bit || other.bit i, by simpa using b.bounded⟩
  else .error .outOfBounds

/-- `fold_and_accumulate<M>`. A fold length of zero divides by zero. -/
def foldAndAccumulate (M : Nat) (other : BoundedBitset N) (foldLength sliceOffset sliceLength : Nat) :
    Except BitsetAbort (BoundedBitset M) := do
  if foldLength = 0 ∨ other.size % foldLength ≠ 0 then throw .outOfBounds
  let ret ← ofSize M sliceLength
  (List.range (other.size / foldLength)).foldlM (fun ret k => do
    let part ← other.slice M (k * foldLength + sliceOffset) (k * foldLength + sliceOffset + sliceLength)
    ret.orAssign part) ret

section Lemmas

variable {b : BoundedBitset N} {s e p : Nat} {value : Bool}

lemma findLowest_spec (hse : s ≤ e) (he : e ≤ b.size) (value : Bool) :
    (b.findLowest s e value = .ok none ∧ ∀ p, s ≤ p → p < e → b.bit p = !value) ∨
      ∃ x, b.findLowest s e value = .ok (some x) ∧ s ≤ x ∧ x < e ∧ b.bit x = value ∧
        ∀ p, s ≤ p → p < x → b.bit p = !value := by
  have hok : b.findLowest s e value = .ok ((List.range' s (e - s)).find? fun pos => b.bit pos == value) :=
    if_pos ⟨hse, he⟩
  have hother : ∀ p, ¬ b.bit p = value → b.bit p = !value := by
    intro p hp
    cases hb : b.bit p <;> cases value <;> simp_all
  cases hfind : (List.range' s (e - s)).find? fun pos => b.bit pos == value with
  | none =>
    left
    refine ⟨hok.trans (congrArg _ hfind), ?_⟩
    intro p hsp hpe
    apply hother
    simpa using find?_range'_eq_none hfind p hsp (by omega)
  | some x =>
    right
    obtain ⟨hsx, hxe, hx, hbefore⟩ := find?_range'_eq_some hfind
    refine ⟨x, hok.trans (congrArg _ hfind), hsx, by omega, by simpa using hx, ?_⟩
    intro p hsp hpx
    apply hother
    simpa using hbefore p hsp hpx

lemma bit_mapIdx (b : BoundedBitset N) (f : Nat → Bool → Bool) (h : (b.bits.mapIdx f).length ≤ N) (hp : p < b.size) :
    (⟨b.bits.mapIdx f, h⟩ : BoundedBitset N).bit p = f p (b.bit p) := by
  unfold bit
  rw [List.getD_eq_getElem?_getD, List.getD_eq_getElem?_getD, List.getElem?_mapIdx, List.getElem?_eq_getElem hp]
  rfl

lemma fill_spec (hse : s ≤ e) (he : e ≤ b.size) (value : Bool) :
    ∃ b', b.fill s e value = .ok b' ∧ b'.size = b.size ∧
      ∀ p, (s ≤ p ∧ p < e → b'.bit p = value) ∧ (¬(s ≤ p ∧ p < e) → b'.bit p = b.bit p) := by
  refine ⟨_, if_pos ⟨hse, he⟩, by simp [size], ?_⟩
  intro p
  by_cases hp : p < b.size
  · rw [bit_mapIdx b _ _ hp]
    constructor
    · exact fun hin => if_pos hin
    · exact fun hout => if_neg hout
  · constructor
    · intro hin
      omega
    · intro _
      rw [bit_of_size_le (by simpa [size] using hp), bit_of_size_le (by omega)]

lemma fill_bounds {b' : BoundedBitset N} (h : b.fill s e value = .ok b') : s ≤ e ∧ e ≤ b.size ∧ b'.size = b.size := by
  by_cases hin : s ≤ e ∧ e ≤ b.size
  · obtain ⟨b'', hfill, hsize, -⟩ := fill_spec hin.1 hin.2 value
    rw [h] at hfill
    cases hfill
    exact ⟨hin.1, hin.2, hsize⟩
  · unfold fill at h
    rw [if_neg hin] at h
    cases h

lemma any_spec (hse : s ≤ e) (he : e ≤ b.size) :
    ∃ found, b.any s e = .ok found ∧ (found = true ↔ ∃ p, s ≤ p ∧ p < e ∧ b.bit p = true) := by
  refine ⟨_, if_pos ⟨hse, he⟩, ?_⟩
  rw [List.any_eq_true]
  constructor
  · rintro ⟨p, hp, hbit⟩
    have := List.mem_range'_1.mp hp
    exact ⟨p, this.1, by omega, hbit⟩
  · rintro ⟨p, hsp, hpe, hbit⟩
    exact ⟨p, List.mem_range'_1.mpr (by omega), hbit⟩

variable {M foldLength sliceOffset sliceLength : Nat}

lemma slice_spec (hse : s ≤ e) (he : e ≤ N) (hM : e - s ≤ M) :
    ∃ b' : BoundedBitset M, b.slice M s e = .ok b' ∧ b'.size = e - s ∧ ∀ p < e - s, b'.bit p = b.bit (s + p) := by
  have hok : b.slice M s e = .ok ⟨(List.range' s (e - s)).map b.bit, by simpa using hM⟩ := by
    unfold slice
    rw [if_pos ⟨hse, he⟩, dif_pos hM]
  refine ⟨_, hok, by simp [size], ?_⟩
  intro p hp
  unfold bit
  rw [List.getD_eq_getElem?_getD, List.getElem?_map, List.getElem?_range' hp]
  simp

lemma orAssign_spec (b other : BoundedBitset N) (hsize : other.size = b.size) :
    ∃ b', b.orAssign other = .ok b' ∧ b'.size = b.size ∧ ∀ p, b'.bit p = (b.bit p || other.bit p) := by
  refine ⟨_, if_pos hsize, by simp [size], ?_⟩
  intro p
  by_cases hp : p < b.size
  · exact bit_mapIdx b _ _ hp
  · rw [bit_of_size_le (by simpa [size] using hp), bit_of_size_le (by omega), bit_of_size_le (by omega)]
    rfl

lemma ofSize_spec {n : Nat} (h : n ≤ M) :
    ∃ b : BoundedBitset M, ofSize M n = .ok b ∧ b.size = n ∧ ∀ p, b.bit p = false := by
  refine ⟨_, dif_pos h, by simp [size], ?_⟩
  intro p
  unfold bit
  rw [List.getD_eq_getElem?_getD, List.getElem?_replicate]
  split <;> rfl

lemma foldParts_spec {ret : BoundedBitset M}
    (hret : ret.size = sliceLength) (hM : sliceLength ≤ M) (hfits : sliceOffset + sliceLength ≤ foldLength) (ks : List Nat)
    (hks : ∀ k ∈ ks, (k + 1) * foldLength ≤ N) :
    ∃ r, ks.foldlM (fun ret k => do
        let part ← b.slice M (k * foldLength + sliceOffset) (k * foldLength + sliceOffset + sliceLength)
        ret.orAssign part) ret = .ok r ∧ r.size = sliceLength ∧
      ∀ p < sliceLength, r.bit p = true ↔
        ret.bit p = true ∨ ∃ k ∈ ks, b.bit (k * foldLength + sliceOffset + p) = true := by
  induction ks generalizing ret with
  | nil => exact ⟨ret, rfl, hret, fun p _ => by simp⟩
  | cons k ks ih =>
    have hrow := hks k List.mem_cons_self
    rw [Nat.add_mul, Nat.one_mul] at hrow
    obtain ⟨part, hpart, hpartSize, hpartBit⟩ := slice_spec (b := b) (M := M)
      (Nat.le_add_right (k * foldLength + sliceOffset) sliceLength) (by omega) (by omega)
    obtain ⟨next, hnext, hnextSize, hnextBit⟩ := orAssign_spec ret part (by omega)
    obtain ⟨r, hr, hrsize, hrbit⟩ := ih (show next.size = sliceLength by omega)
      fun k' hk' => hks k' (List.mem_cons_of_mem k hk')
    refine ⟨r, ?_, hrsize, ?_⟩
    · rw [List.foldlM_cons]
      rw [hpart]
      change (ret.orAssign part >>= _) = _
      rw [hnext]
      exact hr
    · intro p hp
      rw [hrbit p hp, hnextBit, Bool.or_eq_true, hpartBit p (by omega)]
      simp only [List.mem_cons, exists_eq_or_imp, or_assoc]

lemma foldAndAccumulate_spec {rows : Nat} (hfold : 0 < foldLength)
    (hsize : b.size = rows * foldLength) (hM : sliceLength ≤ M) (hfits : sliceOffset + sliceLength ≤ foldLength) :
    ∃ r, b.foldAndAccumulate M foldLength sliceOffset sliceLength = .ok r ∧ r.size = sliceLength ∧
      ∀ p < sliceLength, r.bit p = true ↔ ∃ k < rows, b.bit (k * foldLength + sliceOffset + p) = true := by
  obtain ⟨ret, hret, hretSize, hretBit⟩ := ofSize_spec hM
  have hrows : b.size / foldLength = rows := by rw [hsize, Nat.mul_div_cancel _ hfold]
  obtain ⟨r, hr, hrsize, hrbit⟩ := foldParts_spec (b := b) hretSize hM hfits (List.range rows) (by
    intro k hk
    have hle : (k + 1) * foldLength ≤ rows * foldLength := Nat.mul_le_mul_right _ (List.mem_range.mp hk)
    have := b.bounded
    unfold size at hsize
    omega)
  refine ⟨r, ?_, hrsize, ?_⟩
  · unfold foldAndAccumulate
    rw [if_neg (by rw [hsize, Nat.mul_mod_left]; omega), hrows, hret]
    exact hr
  · intro p hp
    rw [hrbit p hp, hretBit]
    simp

lemma foldAndAccumulate_size {r : BoundedBitset M}
    (h : b.foldAndAccumulate M foldLength sliceOffset sliceLength = .ok r) :
    0 < foldLength ∧ r.size = sliceLength := by
  unfold foldAndAccumulate at h
  by_cases hbad : foldLength = 0 ∨ b.size % foldLength ≠ 0
  · rw [if_pos hbad] at h
    cases h
  · rw [if_neg hbad] at h
    refine ⟨Nat.pos_of_ne_zero fun hzero => hbad (Or.inl hzero), ?_⟩
    obtain ⟨ret, hret, hfold⟩ := bind_eq_ok.mp h
    have hsize : ret.size = sliceLength := by
      by_cases hM : sliceLength ≤ M
      · obtain ⟨b', hb', hsize, -⟩ := ofSize_spec hM
        rw [hret] at hb'
        cases hb'
        exact hsize
      · unfold ofSize at hret
        rw [dif_neg hM] at hret
        cases hret
    have hyields : Yields ((List.range (b.size / foldLength)).foldlM (fun ret k => do
        let part ← b.slice M (k * foldLength + sliceOffset) (k * foldLength + sliceOffset + sliceLength)
        ret.orAssign part) ret) (fun r => r.size = sliceLength) fun _ => True := by
      apply yields_foldlM (I := fun r : BoundedBitset M => r.size = sliceLength) hsize
      intro b' k _ hb'
      apply yields_bind (yields_true _)
      intro part _
      by_cases hsame : part.size = b'.size
      · obtain ⟨next, hnext, hnextSize, -⟩ := orAssign_spec b' part hsame
        rw [hnext]
        exact hnextSize.trans hb'
      · unfold orAssign
        rw [if_neg hsame]
        trivial
    exact hyields.of_ok hfold

end Lemmas

section Counts

variable {b b' : BoundedBitset N} {s e : Nat}

lemma count_complement (b : BoundedBitset N) : b.complement.count = (List.range b.size).countP fun p => !b.bit p := by
  have hbits : b.bits = (List.range b.size).map b.bit := by
    apply List.ext_getElem
    · simp [size]
    · intro i hi _
      simp [bit, hi]
  change (b.bits.map not).count true = _
  rw [hbits, List.map_map, List.count, List.countP_map]
  congr 1
  funext p
  simp

lemma exists_free (h : 0 < b.complement.count) : ∃ p < b.size, b.bit p = false := by
  rw [count_complement, List.countP_pos_iff] at h
  obtain ⟨p, hp, hfree⟩ := h
  exact ⟨p, List.mem_range.mp hp, by simpa using hfree⟩

lemma count_complement_fill (h : b.fill s e true = .ok b') : b.complement.count ≤ b'.complement.count + (e - s) := by
  obtain ⟨hse, he, hsize⟩ := fill_bounds h
  obtain ⟨b'', hfill, -, hbits⟩ := fill_spec hse he true
  obtain rfl := Except.ok.inj (h.symm.trans hfill)
  rw [count_complement, count_complement, hsize]
  have hsplit : ∀ l : List Nat, l.countP (fun p => !b.bit p) ≤
      l.countP (fun p => !b'.bit p) + l.countP fun p => decide (s ≤ p ∧ p < e) := by
    intro l
    induction l with
    | nil => simp
    | cons p l ih =>
      have hp := hbits p
      by_cases hin : s ≤ p ∧ p < e
      · simp only [List.countP_cons, hin, hp.1 hin, and_self, decide_true]
        split_ifs <;> omega
      · simp only [List.countP_cons, hin, hp.2 hin, decide_false]
        split_ifs <;> omega
  have hrange : (List.range b.size).countP (fun p => decide (s ≤ p ∧ p < e)) ≤ e - s := by
    rw [List.countP_eq_length_filter]
    apply length_le_of_mem_range (List.nodup_range.filter _)
    intro p hp
    simpa using (List.mem_filter.mp hp).2
  exact Nat.le_trans (hsplit _) (Nat.add_le_add_left hrange _)

end Counts

end BoundedBitset

end OwlsRan.Adt
