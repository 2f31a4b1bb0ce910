import OwlsRan.Support.BitEncoding
import Mathlib.Data.Option.Basic

/-!
# Codecs made of bit fields

A writer appends fields to the bits of an encoder, and a reader takes fields from the bits that a decoder has left.
-/

namespace OwlsRan.Support

abbrev BitReader := StateT BitDecoder Option

namespace BitReader

def field (n : Nat) : BitReader Nat := fun d =>
  let (ok, val, d) := d.unpack n
  if ok then some (val, d) else none

def uncheckedField (n : Nat) : BitReader Nat := fun d =>
  let (_, val, d) := d.unpack n
  some (val, d)

def optional {α : Type} (present : Bool) (r : BitReader α) : BitReader (Option α) :=
  if present then some <$> r else pure none

def replicate {α : Type} (r : BitReader α) : Nat → BitReader (List α)
  | 0 => pure []
  | n + 1 => do
    let a ← r
    let as ← replicate r n
    pure (a :: as)

end BitReader

def BitEncoder.packOptional (e : BitEncoder) (val : Option Nat) (n : Nat) : BitEncoder :=
  match val with
  | none => e
  | some val => e.pack val n

section Strings

lemma bitsOf_inj {n v w : Nat} (h : bitsOf n v = bitsOf n w) : v % 2 ^ n = w % 2 ^ n := by
  have hv := @bitsValue_bitsOf n v []
  have hw := @bitsValue_bitsOf n w []
  rw [h] at hv
  exact hv.symm.trans hw

lemma eq_append_of_bitString {bytes out : List UInt8} {bits : List Nat}
    (h : bitString bytes = bitString out ++ bits) : ∃ encoded, bytes = out ++ encoded ∧ bitString encoded = bits := by
  induction out generalizing bytes with
  | nil => exact ⟨bytes, rfl, h⟩
  | cons b out ih =>
    cases bytes with
    | nil =>
      have hlen := congrArg List.length h
      rw [length_bitString, bitString_cons, List.length_append, List.length_append, length_bitsOf, List.length_nil] at hlen
      omega
    | cons b' bytes =>
      rw [bitString_cons, bitString_cons, List.append_assoc] at h
      obtain ⟨hbyte, hrest⟩ := List.append_inj h (by rw [length_bitsOf, length_bitsOf])
      obtain ⟨encoded, rfl, hbits⟩ := ih hrest
      have hmod := bitsOf_inj hbyte
      rw [Nat.mod_eq_of_lt b'.toNat_lt, Nat.mod_eq_of_lt b.toNat_lt] at hmod
      rw [UInt8.toNat_inj.mp hmod]
      exact ⟨encoded, rfl, hbits⟩

end Strings

section Writers

variable {e : BitEncoder} {bits : List Nat}

def optionalBits (n : Nat) (val : Option Nat) : List Nat := val.elim [] (bitsOf n)

lemma BitEncoder.Holds.packOptional (h : e.Holds bits) (val : Option Nat) (n : Nat) :
    (e.packOptional val n).Holds (bits ++ optionalBits n val) := by
  cases val with
  | none =>
    rw [optionalBits, Option.elim_none, List.append_nil]
    exact h
  | some val => exact h.pack val n

lemma BitEncoder.Holds.foldl {α : Type} {write : BitEncoder → α → BitEncoder} (written : α → List Nat)
    (hwrite : ∀ e bits a, e.Holds bits → (write e a).Holds (bits ++ written a)) (h : e.Holds bits) (as : List α) :
    (as.foldl write e).Holds (bits ++ as.flatMap written) := by
  induction as generalizing e bits with
  | nil =>
    rw [List.flatMap_nil, List.append_nil]
    exact h
  | cons a as ih =>
    have hrest := ih (hwrite e bits a h)
    rw [List.append_assoc] at hrest
    exact hrest

end Writers

section Readers

variable {α β : Type} {r : BitReader α} {f : α → BitReader β} {bits bits' : List Nat} {a : α} {b : β} {n val : Nat}
  {P : α → Prop} {Q : β → Prop}

def BitReader.Reads (r : BitReader α) (bits : List Nat) (a : α) : Prop :=
  ∀ d rest, d.offset < 8 → d.remaining = bits ++ rest → ∃ d', r d = some (a, d') ∧ d'.offset < 8 ∧ d'.remaining = rest

def BitReader.Returns (r : BitReader α) (P : α → Prop) : Prop := ∀ d a d', r d = some (a, d') → P a

namespace BitReader

lemma reads_pure (a : α) : Reads (pure a) [] a := fun d _ hd hrest => ⟨d, rfl, hd, hrest⟩

lemma Reads.bind (hr : r.Reads bits a) (hf : (f a).Reads bits' b) : (r >>= f).Reads (bits ++ bits') b := by
  intro d rest hd hbits
  rw [List.append_assoc] at hbits
  obtain ⟨d', heq, hd', hrest⟩ := hr d (bits' ++ rest) hd hbits
  obtain ⟨d'', heq', hd'', hrest'⟩ := hf d' rest hd' hrest
  refine ⟨d'', ?_, hd'', hrest'⟩
  calc (r >>= f) d = (r d).bind fun p => f p.1 p.2 := rfl
    _ = some (b, d'') := by rw [heq, Option.bind_some, heq']

lemma Reads.bind_nil (hr : r.Reads [] a) (hf : (f a).Reads bits b) : (r >>= f).Reads bits b := hr.bind hf

lemma Reads.bind_last (hr : r.Reads bits a) (hf : (f a).Reads [] b) : (r >>= f).Reads bits b := by
  have hbind := hr.bind hf
  rw [List.append_nil] at hbind
  exact hbind

lemma Reads.map {g : α → β} (hr : r.Reads bits a) : (g <$> r).Reads bits (g a) := by
  have hbind : (r >>= fun a => pure (g a)).Reads bits (g a) := hr.bind_last (reads_pure (g a))
  exact hbind

lemma reads_guard {c : Prop} [Decidable c] (h : c) : Reads (guard c) [] () := by
  unfold guard
  rw [if_pos h]
  exact reads_pure ()

lemma unpack_of_bits {d : BitDecoder} {rest : List Nat} (hd : d.offset < 8)
    (hbits : d.remaining = bitsOf n val ++ rest) :
    ∃ d', d.unpack n = (true, val % 2 ^ n, d') ∧ d'.offset < 8 ∧ d'.remaining = rest := by
  obtain ⟨d', heq, hd', hdrop⟩ := BitDecoder.unpack_eq hd n
  have hlong : n ≤ d.remaining.length := by
    rw [hbits, List.length_append, length_bitsOf]
    exact Nat.le_add_right n _
  rw [decide_eq_true hlong, hbits, bitsValue_bitsOf] at heq
  refine ⟨d', heq, hd', ?_⟩
  rw [hdrop, hbits, List.drop_left' length_bitsOf]

lemma reads_field (h : val < 2 ^ n) : (field n).Reads (bitsOf n val) val := by
  intro d rest hd hbits
  obtain ⟨d', heq, hd', hrest⟩ := unpack_of_bits hd hbits
  refine ⟨d', ?_, hd', hrest⟩
  rw [field, heq, Nat.mod_eq_of_lt h]
  rfl

lemma reads_uncheckedField (h : val < 2 ^ n) : (uncheckedField n).Reads (bitsOf n val) val := by
  intro d rest hd hbits
  obtain ⟨d', heq, hd', hrest⟩ := unpack_of_bits hd hbits
  refine ⟨d', ?_, hd', hrest⟩
  rw [uncheckedField, heq, Nat.mod_eq_of_lt h]

lemma reads_optional {o : Option α} {written : α → List Nat} (hr : ∀ a ∈ o, r.Reads (written a) a) :
    (optional o.isSome r).Reads (o.elim [] written) o := by
  cases o with
  | none => exact reads_pure none
  | some a => exact (hr a rfl).map

lemma reads_optionalField {o : Option Nat} (h : ∀ val ∈ o, val < 2 ^ n) :
    (optional o.isSome (field n)).Reads (optionalBits n o) o :=
  reads_optional fun val hval => reads_field (h val hval)

lemma reads_replicate {as : List α} {written : α → List Nat} (hr : ∀ a ∈ as, r.Reads (written a) a) :
    (replicate r as.length).Reads (as.flatMap written) as := by
  induction as with
  | nil => exact reads_pure []
  | cons a as ih =>
    have hrest := ih fun a ha => hr a (List.mem_cons_of_mem _ ha)
    exact (hr a List.mem_cons_self).bind (hrest.bind_last (reads_pure (a :: as)))

lemma returns_any : r.Returns fun _ => True := fun _ _ _ _ => trivial

lemma Returns.imp {P' : α → Prop} (hr : r.Returns P) (h : ∀ a, P a → P' a) : r.Returns P' :=
  fun d a d' heq => h a (hr d a d' heq)

lemma returns_pure (h : P a) : Returns (pure a) P := by
  intro d a' d' heq
  obtain ⟨rfl, -⟩ := Prod.mk.inj (Option.some.inj heq)
  exact h

lemma Returns.bind (hr : r.Returns P) (hf : ∀ a, P a → (f a).Returns Q) : (r >>= f).Returns Q := by
  intro d b d' heq
  obtain ⟨⟨a, d₁⟩, hra, hfa⟩ := Option.bind_eq_some_iff.mp heq
  exact hf a (hr d a d₁ hra) d₁ b d' hfa

lemma Returns.map {g : α → β} (hr : r.Returns P) (hg : ∀ a, P a → Q (g a)) : (g <$> r).Returns Q :=
  hr.bind fun a ha => returns_pure (hg a ha)

lemma returns_guard {c : Prop} [Decidable c] : Returns (guard c) fun _ => c := by
  by_cases h : c
  · exact fun _ _ _ _ => h
  · intro d a d' heq
    unfold guard at heq
    rw [if_neg h] at heq
    cases heq

lemma returns_field (n : Nat) : (field n).Returns (· < 2 ^ n) := by
  intro d val d' heq
  rw [field] at heq
  rcases hread : d.unpack n with ⟨ok, val', d₁⟩
  rw [hread] at heq
  cases ok with
  | false => cases heq
  | true =>
    obtain ⟨rfl, -⟩ := Prod.mk.inj (Option.some.inj heq)
    exact BitDecoder.unpack_lt hread

lemma returns_optional (hr : r.Returns P) (present : Bool) :
    (optional present r).Returns fun o => o.isSome = present ∧ ∀ a ∈ o, P a := by
  cases present with
  | false =>
    apply returns_pure
    refine ⟨rfl, ?_⟩
    intro a ha
    cases ha
  | true =>
    refine Returns.map hr ?_
    intro a ha
    refine ⟨rfl, ?_⟩
    intro b hb
    cases hb
    exact ha

lemma returns_replicate (hr : r.Returns P) (n : Nat) :
    (replicate r n).Returns fun as => as.length = n ∧ ∀ a ∈ as, P a := by
  induction n with
  | zero => exact returns_pure ⟨rfl, fun a ha => absurd ha List.not_mem_nil⟩
  | succ n ih =>
    refine Returns.bind hr fun a ha => Returns.bind ih fun as has => returns_pure ?_
    refine ⟨congrArg Nat.succ has.1, ?_⟩
    intro b hb
    rcases List.mem_cons.mp hb with rfl | hb
    · exact ha
    · exact has.2 b hb

lemma run'_of_reads {container : List UInt8} {rest : List Nat} (h : r.Reads bits a)
    (hbits : bitString container = bits ++ rest) : r.run' (.ofBytes container) = some a := by
  obtain ⟨d, heq, -⟩ := h (.ofBytes container) rest (Nat.zero_lt_succ 7) hbits
  have hrun : r.run' (.ofBytes container) = (r (.ofBytes container)).map Prod.fst := rfl
  rw [hrun, heq, Option.map_some]

lemma returned_of_run' (h : r.Returns P) {d : BitDecoder}
    (hrun : r.run' d = some a) : P a := by
  obtain ⟨⟨a', d'⟩, heq, rfl⟩ := Option.map_eq_some_iff.mp hrun
  exact h d a' d' heq

end BitReader

end Readers

end OwlsRan.Support
