/-
**Decimal numerals, and how `std::stoul` reads them.**

`numeral` is the integer an optionally signed decimal numeral denotes. `stoul` is the library call
on a machine with 64-bit `unsigned long`: it skips white space, takes a sign and as many digits as
there are, negates modulo 2⁶⁴ behind a minus sign, throws where there is no digit or the magnitude
does not fit, and says how far it has read.

`stoul_whole_iff`: a text it reads to its end is white space and a numeral, and the result is what
the numeral denotes modulo 2⁶⁴.
-/

import ExodusOps.Lib.JsonFlat
import Mathlib.Data.List.TakeWhile

namespace ExodusOps

open Json (isDigit digitsValue)

/-! ### Numerals -/

/-- `std::isspace` in the C locale. -/
def isSpace (byte : UInt8) : Bool := byte = 32 ∨ (9 ≤ byte ∧ byte ≤ 13)

/-- A sign, if there is one, and what follows it: `true` is a minus sign. -/
def splitSign : Bytes → Bool × Bytes
  | 45 :: rest => (true, rest)
  | 43 :: rest => (false, rest)
  | rest => (false, rest)

/-- A magnitude behind its sign. -/
def withSign (negative : Bool) (magnitude : Nat) : Int :=
  if negative then -magnitude else magnitude

/-- The integer an optionally signed decimal numeral denotes; `none` for any other text. -/
def numeral (source : Bytes) : Option Int :=
  let (negative, digits) := splitSign source
  if digits ≠ [] ∧ digits.all isDigit then some (withSign negative (digitsValue digits)) else none

theorem not_isSpace_of_isDigit {byte : UInt8} (digit : isDigit byte = true) :
    isSpace byte = false := by
  simp only [isDigit, isSpace, decide_eq_true_eq, decide_eq_false_iff_not,
    UInt8.le_iff_toNat_le] at digit ⊢
  rintro (rfl | ⟨_, small⟩)
  · simp at digit
  · have bound : byte.toNat ≤ 13 := small
    omega

/-- A numeral does not begin with white space. -/
theorem dropWhile_isSpace_of_numeral {source : Bytes} {number : Int}
    (denotes : numeral source = some number) : source.dropWhile isSpace = source := by
  cases source with
  | nil => rfl
  | cons first rest =>
      have mark : isSpace first = false := by
        obtain ⟨⟨_, digits⟩, _⟩ := Option.ite_none_right_eq_some.mp denotes
        split at digits
        · rename_i same
          cases same
          rfl
        · rename_i same
          cases same
          rfl
        · rw [List.all_cons, Bool.and_eq_true] at digits
          exact not_isSpace_of_isDigit digits.1
      rw [List.dropWhile_cons_of_neg (by simp [mark])]

/-! ### `std::stoul` -/

/-- A magnitude behind its sign, as an `unsigned long`. -/
def wrapSign (negative : Bool) (magnitude : Nat) : UInt64 :=
  if negative then -UInt64.ofNat magnitude else UInt64.ofNat magnitude

/-- The value and the number of characters read; `none` where it throws. -/
def stoul (source : Bytes) : Option (UInt64 × Nat) :=
  let (negative, rest) := splitSign (source.dropWhile isSpace)
  let digits := rest.takeWhile isDigit
  if digits = [] then none
  else if 2 ^ 64 ≤ digitsValue digits then none
  else some (wrapSign negative (digitsValue digits),
    source.length - (rest.dropWhile isDigit).length)

theorem splitSign_length (source : Bytes) : (splitSign source).2.length ≤ source.length := by
  unfold splitSign
  split <;> simp

/-- Only digits follow the sign exactly when there is nothing behind the digits. -/
theorem read_whole_iff {source rest : Bytes} (inside : rest.length ≤ source.length)
    (digits : rest.takeWhile isDigit ≠ []) :
    source.length - (rest.dropWhile isDigit).length = source.length ↔
      rest.takeWhile isDigit = rest := by
  have parts : (rest.takeWhile isDigit).length + (rest.dropWhile isDigit).length = rest.length := by
    rw [← List.length_append, List.takeWhile_append_dropWhile]
  have positive := List.length_pos_iff.mpr digits
  rw [List.takeWhile_eq_self_iff, ← List.dropWhile_eq_nil_iff, ← List.length_eq_zero_iff]
  omega

theorem withSign_natAbs (negative : Bool) (magnitude : Nat) :
    (withSign negative magnitude).natAbs = magnitude := by
  cases negative <;> simp [withSign]

/-- **A minus sign negates modulo 2⁶⁴.** -/
theorem wrapSign_toNat (negative : Bool) {magnitude : Nat} (fits : magnitude < 2 ^ 64) :
    ((wrapSign negative magnitude).toNat : Int) = withSign negative magnitude % 2 ^ 64 := by
  have value : (UInt64.ofNat magnitude).toNat = magnitude := UInt64.toNat_ofNat_of_lt' fits
  cases negative with
  | false =>
      simp only [wrapSign, withSign, Bool.false_eq_true, if_false, value]
      omega
  | true =>
      simp only [wrapSign, withSign, if_true, UInt64.toNat_neg, value, UInt64.size]
      omega

/-- **A text that is read to its end** is white space and a numeral whose magnitude fits. -/
theorem stoul_whole_iff {source : Bytes} {value : UInt64} :
    stoul source = some (value, source.length) ↔
      ∃ number, numeral (source.dropWhile isSpace) = some number ∧ number.natAbs < 2 ^ 64 ∧
        (value.toNat : Int) = number % 2 ^ 64 := by
  have inside : (splitSign (source.dropWhile isSpace)).2.length ≤ source.length :=
    (splitSign_length _).trans (List.dropWhile_suffix _).length_le
  unfold stoul numeral
  generalize splitSign (source.dropWhile isSpace) = signed at inside ⊢
  obtain ⟨negative, rest⟩ := signed
  simp only at inside ⊢
  constructor
  · intro read
    split_ifs at read with empty large
    rw [Option.some.injEq, Prod.mk.injEq, read_whole_iff inside empty] at read
    obtain ⟨rfl, whole⟩ := read
    rw [whole] at empty large ⊢
    have digits : rest ≠ [] ∧ rest.all isDigit = true :=
      ⟨empty, List.all_eq_true.mpr (List.takeWhile_eq_self_iff.mp whole)⟩
    have fits : digitsValue rest < 2 ^ 64 := Nat.not_le.mp large
    exact ⟨_, if_pos digits, by rwa [withSign_natAbs], wrapSign_toNat negative fits⟩
  · rintro ⟨number, denotes, fits, same⟩
    obtain ⟨digits, denoted⟩ := Option.ite_none_right_eq_some.mp denotes
    cases denoted
    have whole : rest.takeWhile isDigit = rest :=
      List.takeWhile_eq_self_iff.mpr (List.all_eq_true.mp digits.2)
    have empty : rest.takeWhile isDigit ≠ [] := by
      rw [whole]
      exact digits.1
    rw [withSign_natAbs] at fits
    rw [← wrapSign_toNat negative fits] at same
    have value : value = wrapSign negative (digitsValue rest) :=
      UInt64.toNat_inj.mp (Int.ofNat_inj.mp same)
    rw [if_neg empty, (read_whole_iff inside empty).mpr whole, whole,
      if_neg (Nat.not_le.mpr fits), value]

end ExodusOps
