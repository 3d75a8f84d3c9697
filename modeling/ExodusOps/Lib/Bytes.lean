/-
**Byte strings: text, big-endian words and bounded buffers.**

A byte string is a list of octets. `text` is the UTF-8 encoding of a literal and `Utf8` the
well-formed byte strings, those that encode some characters. `be32` is a 32-bit word in network
byte order and `beValue` the number a byte string denotes; they are inverse to each other on four
bytes (`beValue_be32`, `be32_beValue`), and `wordAt` reads a word out of a buffer. `writeAt` is a
store into a buffer of fixed size, with `none` for a store that leaves it; `writeAll` stores one
piece after the other and leaves their concatenation when it fits (`writeAll_append`).
-/

import Mathlib.Data.List.Basic
import Mathlib.Tactic.Ring

namespace ExodusOps

/-- A string of octets. -/
abbrev Bytes := List UInt8

/-! ### Text -/

/-- The UTF-8 bytes of a literal. -/
def text (literal : String) : Bytes := literal.toList.flatMap String.utf8EncodeChar

/-- Well-formed UTF-8: the encoding of some characters. -/
def Utf8 (bytes : Bytes) : Prop := ∃ chars : List Char, bytes = chars.flatMap String.utf8EncodeChar

theorem utf8_text (literal : String) : Utf8 (text literal) := ⟨literal.toList, rfl⟩

theorem Utf8.append {first second : Bytes} (front : Utf8 first) (back : Utf8 second) :
    Utf8 (first ++ second) := by
  obtain ⟨early, rfl⟩ := front
  obtain ⟨late, rfl⟩ := back
  exact ⟨early ++ late, List.flatMap_append.symm⟩

/-! ### Big-endian words -/

/-- A 32-bit word in network byte order, the most significant byte first. -/
def be32 (value : UInt32) : Bytes :=
  [((value >>> 24) &&& 0xFF).toUInt8, ((value >>> 16) &&& 0xFF).toUInt8,
    ((value >>> 8) &&& 0xFF).toUInt8, (value &&& 0xFF).toUInt8]

/-- The number a byte string denotes, the most significant byte first. -/
def beValue (bytes : Bytes) : Nat := bytes.foldl (fun acc byte => acc * 256 + byte.toNat) 0

@[simp] theorem be32_length (value : UInt32) : (be32 value).length = 4 := rfl

theorem shiftByte_toNat (value : UInt32) (shift : UInt32) (small : shift.toNat < 32) :
    (((value >>> shift) &&& 0xFF).toUInt8).toNat = value.toNat / 2 ^ shift.toNat % 256 := by
  have mask : ∀ number : Nat, number &&& 255 = number % 256 := fun number =>
    Nat.and_two_pow_sub_one_eq_mod number 8
  simp only [UInt32.toNat_toUInt8, UInt32.toNat_and, UInt32.toNat_shiftRight,
    Nat.mod_eq_of_lt small, Nat.shiftRight_eq_div_pow]
  rw [show (255 : UInt32).toNat = 255 from rfl, mask]
  omega

/-- The four bytes of a word, as numbers. -/
theorem be32_toNat (value : UInt32) :
    (be32 value).map UInt8.toNat =
      [value.toNat / 2 ^ 24 % 256, value.toNat / 2 ^ 16 % 256, value.toNat / 2 ^ 8 % 256,
        value.toNat % 256] := by
  have low : (value &&& (0xFF : UInt32)) = ((value >>> 0) &&& 0xFF) := by
    rw [UInt32.shiftRight_zero]
  simp only [be32, List.map_cons, List.map_nil]
  rw [low, shiftByte_toNat value 24 (by decide), shiftByte_toNat value 16 (by decide),
    shiftByte_toNat value 8 (by decide), shiftByte_toNat value 0 (by decide)]
  simp

/-- **Reading back a word** written in network byte order. -/
theorem beValue_be32 (value : UInt32) : beValue (be32 value) = value.toNat := by
  have fold : beValue (be32 value) =
      ((be32 value).map UInt8.toNat).foldl (fun acc byte => acc * 256 + byte) 0 := by
    rw [List.foldl_map]
    rfl
  have bound := value.toNat_lt
  rw [fold, be32_toNat]
  simp only [List.foldl_cons, List.foldl_nil]
  omega

/-- Four bytes denote a 32-bit number. -/
theorem beValue_lt (bytes : Bytes) (four : bytes.length = 4) : beValue bytes < 2 ^ 32 := by
  match bytes, four with
  | [first, second, third, fourth], _ =>
      have bounds := And.intro first.toNat_lt (And.intro second.toNat_lt
        (And.intro third.toNat_lt fourth.toNat_lt))
      simp only [beValue, List.foldl_cons, List.foldl_nil]
      omega

/-- **Writing back four bytes** read in network byte order. -/
theorem be32_beValue (bytes : Bytes) (four : bytes.length = 4) :
    be32 (UInt32.ofNat (beValue bytes)) = bytes := by
  match bytes, four with
  | [first, second, third, fourth], _ =>
      have bounds := And.intro first.toNat_lt (And.intro second.toNat_lt
        (And.intro third.toNat_lt fourth.toNat_lt))
      have whole := beValue_lt [first, second, third, fourth] rfl
      apply List.map_injective_iff.mpr (fun _ _ same => UInt8.toNat_inj.mp same)
      rw [be32_toNat, UInt32.toNat_ofNat', Nat.mod_eq_of_lt whole]
      simp only [beValue, List.foldl_cons, List.foldl_nil, List.map_cons, List.map_nil,
        List.cons.injEq, and_true]
      omega

/-- The word in network byte order at an offset of a buffer. -/
def wordAt (buffer : Bytes) (offset : Nat) : UInt32 :=
  UInt32.ofNat (beValue ((buffer.drop offset).take 4))

theorem wordAt_be32 (before after : Bytes) (value : UInt32) :
    wordAt (before ++ be32 value ++ after) before.length = value := by
  rw [wordAt, List.append_assoc, List.drop_left, List.take_left' (be32_length value),
    beValue_be32, UInt32.ofNat_toNat]

theorem wordAt_be32_zero (value : UInt32) : wordAt (be32 value) 0 = value := by
  rw [wordAt, List.drop_zero, List.take_of_length_le (be32_length value).le, beValue_be32,
    UInt32.ofNat_toNat]

/-- A word of the front part of a buffer. -/
theorem wordAt_append_left {buffer : Bytes} {offset : Nat} (inside : offset + 4 ≤ buffer.length)
    (after : Bytes) : wordAt (buffer ++ after) offset = wordAt buffer offset := by
  rw [wordAt, wordAt, List.drop_append_of_le_length (by omega),
    List.take_append_of_le_length (by rw [List.length_drop]; omega)]

/-- A word behind the front part of a buffer. -/
theorem wordAt_append_right (before buffer : Bytes) (offset : Nat) :
    wordAt (before ++ buffer) (before.length + offset) = wordAt buffer offset := by
  rw [wordAt, wordAt, ← List.drop_drop, List.drop_left]

theorem wordAt_take {offset count : Nat} (inside : offset + 4 ≤ count) (buffer : Bytes) :
    wordAt (buffer.take count) offset = wordAt buffer offset := by
  rw [wordAt, wordAt, List.drop_take, List.take_take, Nat.min_eq_left (by omega)]

theorem wordAt_drop (buffer : Bytes) (count offset : Nat) :
    wordAt (buffer.drop count) offset = wordAt buffer (count + offset) := by
  rw [wordAt, wordAt, List.drop_drop]

/-- **Four bytes are the word they denote.** -/
theorem be32_wordAt {bytes : Bytes} (four : bytes.length = 4) : be32 (wordAt bytes 0) = bytes := by
  rw [wordAt, List.drop_zero, List.take_of_length_le four.le, be32_beValue bytes four]

/-! ### Buffers -/

/-- Store `bytes` at `offset` of a buffer; `none` when the store leaves the buffer. -/
def writeAt (buffer : Bytes) (offset : Nat) (bytes : Bytes) : Option Bytes :=
  if offset + bytes.length ≤ buffer.length then
    some (buffer.take offset ++ bytes ++ buffer.drop (offset + bytes.length))
  else none

/-- **One store of a left-to-right fill**: what is written grows by the stored bytes and the rest
of the buffer shrinks by as many. -/
theorem writeAt_append (written rest bytes : Bytes) (fits : bytes.length ≤ rest.length) :
    writeAt (written ++ rest) written.length bytes =
      some (written ++ bytes ++ rest.drop bytes.length) := by
  unfold writeAt
  rw [if_pos (by rw [List.length_append]; omega), List.take_left, List.drop_append,
    List.drop_eq_nil_of_le (by omega), List.nil_append,
    show written.length + bytes.length - written.length = bytes.length by omega]

/-- Store pieces one after the other, from `offset` on. -/
def writeAll : Bytes → Nat → List Bytes → Option Bytes
  | buffer, _, [] => some buffer
  | buffer, offset, piece :: pieces => do
      let buffer ← writeAt buffer offset piece
      writeAll buffer (offset + piece.length) pieces

/-- **A left-to-right fill** that fits leaves the pieces one after the other. -/
theorem writeAll_append (written rest : Bytes) (pieces : List Bytes)
    (fits : pieces.flatten.length ≤ rest.length) :
    writeAll (written ++ rest) written.length pieces =
      some (written ++ pieces.flatten ++ rest.drop pieces.flatten.length) := by
  induction pieces generalizing written rest with
  | nil => simp [writeAll]
  | cons piece pieces ih =>
      rw [List.flatten_cons, List.length_append] at fits
      have later := ih (written ++ piece) (rest.drop piece.length)
        (by rw [List.length_drop]; omega)
      rw [List.length_append, List.drop_drop] at later
      rw [writeAll, writeAt_append written rest piece (by omega), Option.bind_eq_bind,
        Option.bind_some, later, List.flatten_cons, List.length_append, ← List.append_assoc]

/-- A buffer of exactly the size of the pieces is the pieces after the fill. -/
theorem writeAll_exact {buffer : Bytes} {pieces : List Bytes}
    (size : buffer.length = pieces.flatten.length) :
    writeAll buffer 0 pieces = some pieces.flatten := by
  have filled := writeAll_append [] buffer pieces size.ge
  rwa [List.nil_append, List.nil_append, ← size, List.drop_length, List.append_nil] at filled

theorem writeAt_eq_some {buffer bytes result : Bytes} {offset : Nat}
    (stored : writeAt buffer offset bytes = some result) :
    offset + bytes.length ≤ buffer.length ∧ result.length = buffer.length := by
  unfold writeAt at stored
  split at stored
  · rename_i fits
    cases stored
    refine ⟨fits, ?_⟩
    simp only [List.length_append, List.length_take, List.length_drop]
    omega
  · cases stored

/-- A fill that succeeds stays inside the buffer. -/
theorem writeAll_fits {buffer result : Bytes} {offset : Nat} {pieces : List Bytes}
    (inside : offset ≤ buffer.length) (filled : writeAll buffer offset pieces = some result) :
    offset + pieces.flatten.length ≤ buffer.length := by
  induction pieces generalizing buffer offset with
  | nil => simpa using inside
  | cons piece pieces ih =>
      obtain ⟨next, stored, later⟩ := Option.bind_eq_some_iff.mp filled
      obtain ⟨fits, size⟩ := writeAt_eq_some stored
      have bound := ih (size ▸ fits) later
      rw [List.flatten_cons, List.length_append]
      omega

/-- **What a fill from the start leaves**, if it stays inside the buffer. -/
theorem writeAll_eq_some {buffer result : Bytes} {pieces : List Bytes}
    (filled : writeAll buffer 0 pieces = some result) :
    pieces.flatten.length ≤ buffer.length ∧
      result = pieces.flatten ++ buffer.drop pieces.flatten.length := by
  have fits := writeAll_fits (Nat.zero_le _) filled
  rw [Nat.zero_add] at fits
  have written := writeAll_append [] buffer pieces fits
  rw [List.nil_append, List.nil_append, List.length_nil, filled] at written
  exact ⟨fits, Option.some.inj written⟩

end ExodusOps
