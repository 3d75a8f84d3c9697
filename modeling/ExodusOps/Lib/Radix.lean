/-
**Numbers written with a fixed number of digits.**

`fixedDigits base width number` are the `width` last digits of a number in a base, the most
significant one first. Written with any glyphs that are ordered as the digits are, the numbers that
fit compare as their texts do:

* `map_fixedDigits_lt_iff` — **the lexicographic order of the texts is the order of the numbers**,
  by induction on the width, the last digit deciding only between equal quotients;
* `map_fixedDigits_inj` — no two of them are written alike;
* `leftpad_toDigits` — they are the usual digits, filled up with zeros on the left;
* `hexByte_glyphs` — such glyphs for sixteen digits, the bytes of `0` to `9` and `a` to `f`.
-/

import Mathlib.Algebra.Group.Nat.Defs
import Mathlib.Data.List.Basic
import Mathlib.Data.Nat.Basic

namespace ExodusOps

/-- The last `width` digits of a number, the most significant first. -/
def fixedDigits (base : Nat) : Nat → Nat → List Nat
  | 0, _ => []
  | width + 1, number => fixedDigits base width (number / base) ++ [number % base]

@[simp] theorem fixedDigits_length (base width number : Nat) :
    (fixedDigits base width number).length = width := by
  induction width generalizing number with
  | zero => rfl
  | succ width ih => rw [fixedDigits, List.length_append, ih, List.length_singleton]

theorem fixedDigits_lt {base : Nat} (positive : 0 < base) {width number : Nat} :
    ∀ digit ∈ fixedDigits base width number, digit < base := by
  induction width generalizing number with
  | zero => exact List.forall_mem_nil _
  | succ width ih =>
      exact List.forall_mem_append.mpr
        ⟨ih, List.forall_mem_singleton.mpr (Nat.mod_lt _ positive)⟩

/-- The digit at a place is read off by division. -/
theorem fixedDigits_eq_map (base width number : Nat) :
    fixedDigits base width number =
      (List.range width).reverse.map fun place => number / base ^ place % base := by
  induction width generalizing number with
  | zero => rfl
  | succ width ih =>
      rw [fixedDigits, ih, List.range_succ_eq_map, List.reverse_cons, List.map_append,
        ← List.map_reverse, List.map_map, List.map_singleton, Nat.pow_zero, Nat.div_one]
      congr 1
      refine List.map_congr_left fun place _ => ?_
      rw [Function.comp_apply, Nat.pow_succ', Nat.div_div_eq_div_mul]

theorem fixedDigits_zero (base width : Nat) :
    fixedDigits base width 0 = List.replicate width 0 := by
  induction width with
  | zero => rfl
  | succ width ih => rw [fixedDigits, Nat.zero_div, Nat.zero_mod, ih, List.replicate_succ']

theorem div_lt_pow {base : Nat} (positive : 0 < base) {width number : Nat}
    (fits : number < base ^ (width + 1)) : number / base < base ^ width := by
  rw [Nat.pow_succ] at fits
  exact (Nat.div_lt_iff_lt_mul positive).mpr fits

/-- **Filling up with zeros**: the digits of a number that fits, padded to the width. -/
theorem leftpad_toDigits {base : Nat} (proper : 1 < base) {width number : Nat}
    (wide : 0 < width) (fits : number < base ^ width) :
    (Nat.toDigits base number).leftpad width '0' =
      (fixedDigits base width number).map Nat.digitChar := by
  induction width generalizing number with
  | zero => exact absurd wide (Nat.lt_irrefl 0)
  | succ width ih =>
      rw [fixedDigits, List.map_append, List.map_singleton, Nat.toDigits_eq_if proper]
      by_cases small : number < base
      · rw [if_pos small, Nat.div_eq_of_lt small, fixedDigits_zero, List.map_replicate,
          Nat.mod_eq_of_lt small]
        rfl
      · have quotient := div_lt_pow (Nat.zero_lt_of_lt proper) fits
        have still : 0 < width := by
          refine Nat.pos_of_ne_zero fun zero => ?_
          rw [zero, Nat.pow_one] at fits
          exact small fits
        rw [if_neg small, ← ih still quotient, List.leftpad, List.leftpad, List.length_append,
          List.length_singleton, Nat.add_sub_add_right, List.append_assoc]

/-! ### Order -/

/-- Texts of one length compare by all but their last letters, and then by these. -/
theorem concat_lt_concat_iff {α : Type} [LT α] {first second : List α}
    (same : first.length = second.length) {last final : α} :
    first ++ [last] < second ++ [final] ↔ first < second ∨ first = second ∧ last < final := by
  induction first generalizing second with
  | nil =>
      cases second with
      | nil => simp [List.cons_lt_cons_iff]
      | cons => cases same
  | cons head tail ih =>
      cases second with
      | nil => cases same
      | cons head' tail' =>
          rw [List.cons_append, List.cons_append, List.cons_lt_cons_iff, List.cons_lt_cons_iff,
            ih (Nat.succ.inj same), List.cons.injEq]
          tauto

/-- Glyphs for the digits of a base, in the order of the digits. -/
structure Glyphs {α : Type} [LT α] (base : Nat) (glyph : Nat → α) : Prop where
  lt_iff : ∀ {digit other}, digit < base → other < base →
    (glyph digit < glyph other ↔ digit < other)
  inj : ∀ {digit other}, digit < base → other < base → glyph digit = glyph other → digit = other

section Order

variable {α : Type} [LT α] {base : Nat} {glyph : Nat → α} {width first second : Nat}

theorem lt_iff_div_mod : first < second ↔
    first / base < second / base ∨ first / base = second / base ∧ first % base < second % base := by
  have one := Nat.div_add_mod first base
  have two := Nat.div_add_mod second base
  constructor
  · intro less
    rcases Nat.lt_or_eq_of_le (Nat.div_le_div_right (Nat.le_of_lt less)) with below | same
    · exact .inl below
    · rw [same] at one
      exact .inr ⟨same, by omega⟩
  · rintro (below | ⟨same, less⟩)
    · exact Nat.lt_of_div_lt_div below
    · rw [same] at one
      omega

/-- No two numbers that fit are written alike. -/
theorem map_fixedDigits_inj (positive : 0 < base) (glyphs : Glyphs base glyph)
    (fits : first < base ^ width) (fits' : second < base ^ width) :
    (fixedDigits base width first).map glyph = (fixedDigits base width second).map glyph ↔
      first = second := by
  refine ⟨fun same => ?_, fun same => by rw [same]⟩
  induction width generalizing first second with
  | zero =>
      rw [Nat.pow_zero] at fits fits'
      omega
  | succ width ih =>
      rw [fixedDigits, fixedDigits, List.map_append, List.map_append] at same
      obtain ⟨front, last⟩ := List.append_inj' same rfl
      have quotient := ih (div_lt_pow positive fits) (div_lt_pow positive fits') front
      have remainder := glyphs.inj (Nat.mod_lt _ positive) (Nat.mod_lt _ positive)
        (List.cons.inj last).1
      rw [← Nat.div_add_mod first base, quotient, remainder, Nat.div_add_mod]

/-- **The texts of the numbers that fit are in the order of the numbers.** -/
theorem map_fixedDigits_lt_iff (positive : 0 < base) (glyphs : Glyphs base glyph)
    (fits : first < base ^ width) (fits' : second < base ^ width) :
    (fixedDigits base width first).map glyph < (fixedDigits base width second).map glyph ↔
      first < second := by
  induction width generalizing first second with
  | zero =>
      rw [Nat.pow_zero] at fits fits'
      have same : first = second := by omega
      rw [same]
      exact iff_of_false (List.not_lt_nil _) (Nat.lt_irrefl _)
  | succ width ih =>
      have quotient := div_lt_pow positive fits
      have quotient' := div_lt_pow positive fits'
      rw [fixedDigits, fixedDigits, List.map_append, List.map_append, List.map_singleton,
        List.map_singleton, concat_lt_concat_iff (by simp), ih quotient quotient',
        map_fixedDigits_inj positive glyphs quotient quotient',
        glyphs.lt_iff (Nat.mod_lt _ positive) (Nat.mod_lt _ positive)]
      exact lt_iff_div_mod.symm

end Order

/-! ### Hexadecimal digits as bytes -/

/-- A hexadecimal digit, in small letters. -/
def isHexDigit (byte : UInt8) : Bool :=
  (48 ≤ byte ∧ byte ≤ 57) ∨ (97 ≤ byte ∧ byte ≤ 102)

/-- The byte of a hexadecimal digit. -/
def hexByte (digit : Nat) : UInt8 := UInt8.ofNat (Nat.digitChar digit).toNat

theorem hexByte_isHexDigit : ∀ digit < 16, isHexDigit (hexByte digit) = true := by
  decide +kernel

/-- Digits are written with a byte each. -/
theorem encode_digits {digits : List Nat} (small : ∀ digit ∈ digits, digit < 16) :
    (digits.map Nat.digitChar).flatMap String.utf8EncodeChar = digits.map hexByte := by
  have one : ∀ digit < 16, String.utf8EncodeChar (Nat.digitChar digit) = [hexByte digit] := by
    decide +kernel
  rw [List.flatMap_map, List.map_eq_flatMap]
  exact List.flatMap_congr fun digit member => one digit (small digit member)

theorem isHexDigit_of_mem_map {digits : List Nat} (small : ∀ digit ∈ digits, digit < 16) :
    ∀ byte ∈ digits.map hexByte, isHexDigit byte = true :=
  List.forall_mem_map.mpr fun digit member => hexByte_isHexDigit digit (small digit member)

theorem hexByte_glyphs : Glyphs 16 hexByte := by
  have ordered : ∀ digit < 16, ∀ other < 16,
      (hexByte digit < hexByte other ↔ digit < other) ∧
        (hexByte digit = hexByte other → digit = other) := by decide +kernel
  exact ⟨fun one two => (ordered _ one _ two).1, fun one two => (ordered _ one _ two).2⟩

end ExodusOps
