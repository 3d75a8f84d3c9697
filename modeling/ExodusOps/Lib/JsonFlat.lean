/-
**A JSON codec for flat objects.**

`flatCodec` writes and reads the compact texts of flat objects: strings with the usual escapes and
unsigned integers in decimal, no white space. It rejects every other value and text, and strings
that are not UTF-8. `flatCodec_lawful`: it keeps the laws a program may expect of its JSON library,
so these laws can be met.

The reader follows the writer: `readString_dumpString`, `readDigits_decimal`, `readValue_dump` and
`readMember_dump` read back one piece and leave what follows it, `readRest_dump` a list of members.
-/

import ExodusOps.Lib.Json
import ExodusOps.Lib.Utf8
import Mathlib.Tactic.IntervalCases

namespace ExodusOps.Json

/-! ### Strings -/

/-- A hexadecimal digit. -/
def hexDigit (value : Nat) : UInt8 := UInt8.ofNat (if value < 10 then 48 + value else 87 + value)

/-- One byte of a string as it is written between quotes. -/
def escapeByte (byte : UInt8) : Bytes :=
  if byte = 34 then [92, 34]
  else if byte = 92 then [92, 92]
  else if byte = 8 then [92, 98]
  else if byte = 9 then [92, 116]
  else if byte = 10 then [92, 110]
  else if byte = 12 then [92, 102]
  else if byte = 13 then [92, 114]
  else if byte < 32 then
    [92, 117, 48, 48, hexDigit (byte.toNat / 16), hexDigit (byte.toNat % 16)]
  else [byte]

/-- A string in quotes. -/
def dumpString (value : Bytes) : Bytes := 34 :: value.flatMap escapeByte ++ [34]

/-- The byte a one-letter escape stands for. -/
def letterEscape (letter : UInt8) : Option UInt8 :=
  if letter = 34 then some 34
  else if letter = 92 then some 92
  else if letter = 98 then some 8
  else if letter = 116 then some 9
  else if letter = 110 then some 10
  else if letter = 102 then some 12
  else if letter = 114 then some 13
  else none

/-- The value of a hexadecimal digit. -/
def hexValue (digit : UInt8) : Nat :=
  if digit.toNat < 58 then digit.toNat - 48 else digit.toNat - 87

/-- Read a string after its opening quote: its bytes, and what follows the closing quote. -/
def readString : Bytes → Option (Bytes × Bytes)
  | [] => none
  | 92 :: 117 :: 48 :: 48 :: high :: low :: rest =>
      (readString rest).map fun read =>
        (UInt8.ofNat (16 * hexValue high + hexValue low) :: read.1, read.2)
  | 92 :: letter :: rest =>
      match letterEscape letter with
      | none => none
      | some byte => (readString rest).map fun read => (byte :: read.1, read.2)
  | byte :: rest =>
      if byte = 34 then some ([], rest)
      else (readString rest).map fun read => (byte :: read.1, read.2)

theorem hexValue_hexDigit {value : Nat} (small : value < 16) :
    hexValue (hexDigit value) = value := by
  interval_cases value <;> rfl

/-- **One escaped byte** is read back. -/
theorem readString_escapeByte (byte : UInt8) (rest : Bytes) :
    readString (escapeByte byte ++ rest) =
      (readString rest).map fun read => (byte :: read.1, read.2) := by
  unfold escapeByte
  split_ifs with quote slash b t n f r control
  · subst quote; simp [readString, letterEscape]
  · subst slash; simp [readString, letterEscape]
  · subst b; simp [readString, letterEscape]
  · subst t; simp [readString, letterEscape]
  · subst n; simp [readString, letterEscape]
  · subst f; simp [readString, letterEscape]
  · subst r; simp [readString, letterEscape]
  · have bound := byte.toNat_lt
    have value : UInt8.ofNat (16 * (byte.toNat / 16) + byte.toNat % 16) = byte := by
      rw [Nat.div_add_mod, UInt8.ofNat_toNat]
    simp only [List.cons_append, List.nil_append, readString]
    rw [hexValue_hexDigit (by omega), hexValue_hexDigit (by omega), value]
  · rw [List.singleton_append, readString, if_neg quote]
    · exact fun _ _ _ backslash _ => slash backslash
    · exact fun _ _ backslash _ => slash backslash

/-- **A quoted string** is read back. -/
theorem readString_dumpString (value rest : Bytes) :
    readString (value.flatMap escapeByte ++ 34 :: rest) = some (value, rest) := by
  induction value with
  | nil => simp [readString]
  | cons byte value ih =>
      rw [List.flatMap_cons, List.append_assoc, readString_escapeByte, ih]
      rfl

/-! ### Numbers -/

def isDigit (byte : UInt8) : Bool := 48 ≤ byte.toNat ∧ byte.toNat ≤ 57

/-- An unsigned integer in decimal. -/
def decimal (value : UInt64) : Bytes :=
  (Nat.toDigits 10 value.toNat).map fun digit => UInt8.ofNat digit.toNat

/-- The number a string of digits denotes. -/
def digitsValue (digits : Bytes) : Nat :=
  digits.foldl (fun acc digit => 10 * acc + (digit.toNat - 48)) 0

/-- Read the digits of an unsigned integer: no leading zero, and at most 64 bits. -/
def readDigits (bytes : Bytes) : Option (UInt64 × Bytes) :=
  let digits := bytes.takeWhile isDigit
  let value := UInt64.ofNat (digitsValue digits)
  if decimal value = digits then some (value, bytes.dropWhile isDigit) else none

theorem digit_toNat {number : Nat} {digit : Char} (member : digit ∈ Nat.toDigits 10 number) :
    (UInt8.ofNat digit.toNat).toNat = digit.toNat ∧ 48 ≤ digit.toNat ∧ digit.toNat ≤ 57 := by
  have range := Nat.isDigit_of_mem_toDigits (by decide) (by decide) member
  simp only [Char.isDigit, Bool.and_eq_true, decide_eq_true_eq, ge_iff_le] at range
  have low : 48 ≤ digit.toNat := UInt32.le_iff_toNat_le.mp range.1
  have high : digit.toNat ≤ 57 := UInt32.le_iff_toNat_le.mp range.2
  exact ⟨by rw [UInt8.toNat_ofNat']; omega, low, high⟩

theorem decimal_isDigit {value : UInt64} {byte : UInt8} (member : byte ∈ decimal value) :
    isDigit byte = true := by
  obtain ⟨digit, inside, rfl⟩ := List.mem_map.mp member
  obtain ⟨same, low, high⟩ := digit_toNat inside
  simp [isDigit, same, low, high]

theorem digitsValue_decimal (value : UInt64) : digitsValue (decimal value) = value.toNat := by
  have fold : ∀ (digits : List Char) (start : Nat),
      (∀ digit ∈ digits, (UInt8.ofNat digit.toNat).toNat = digit.toNat) →
        (digits.map fun digit => UInt8.ofNat digit.toNat).foldl
            (fun acc digit => 10 * acc + (digit.toNat - 48)) start =
          Nat.ofDigitChars 10 digits start := by
    intro digits
    induction digits with
    | nil => intro start _; rfl
    | cons digit digits ih =>
        intro start bytes
        rw [List.map_cons, List.foldl_cons, Nat.ofDigitChars_cons,
          ih _ fun other inside => bytes other (List.mem_cons_of_mem _ inside),
          bytes digit List.mem_cons_self]
        rfl
  rw [digitsValue, decimal, fold _ _ fun digit inside => (digit_toNat inside).1]
  exact Nat.ofDigitChars_toDigits (by decide) (by decide)

/-- **A number** followed by something else than a digit is read back. -/
theorem readDigits_decimal (value : UInt64) (next : UInt8) (rest : Bytes)
    (ends : isDigit next = false) :
    readDigits (decimal value ++ next :: rest) = some (value, next :: rest) := by
  have digits : (decimal value ++ next :: rest).takeWhile isDigit = decimal value := by
    rw [List.takeWhile_append_of_pos fun byte member => decimal_isDigit member]
    simp [ends]
  have others : (decimal value ++ next :: rest).dropWhile isDigit = next :: rest := by
    rw [List.dropWhile_append_of_pos fun byte member => decimal_isDigit member]
    simp [ends]
  rw [readDigits, digits, others, digitsValue_decimal, UInt64.ofNat_toNat, if_pos rfl]

/-! ### Members -/

/-- The text of a scalar. -/
def dumpValue : Json → Option Bytes
  | .string value => if Utf8 value then some (dumpString value) else none
  | .unsigned value => some (decimal value)
  | _ => none

/-- Read a scalar: a quoted string, or a number. -/
def readValue : Bytes → Option (Json × Bytes)
  | 34 :: rest =>
      match readString rest with
      | some (value, rest) => if Utf8 value then some (.string value, rest) else none
      | none => none
  | bytes => (readDigits bytes).map fun read => (.unsigned read.1, read.2)

/-- The text of a member. -/
def dumpMember (member : Bytes × Json) : Option Bytes :=
  if Utf8 member.1 then
    (dumpValue member.2).map fun value => dumpString member.1 ++ 58 :: value
  else none

/-- Read a member. -/
def readMember : Bytes → Option ((Bytes × Json) × Bytes)
  | 34 :: rest =>
      match readString rest with
      | some (key, 58 :: rest) =>
          if Utf8 key then (readValue rest).map fun read => ((key, read.1), read.2) else none
      | _ => none
  | _ => none

/-- The text after a member: the other members, and the closing brace. -/
def dumpRest : List (Bytes × Json) → Option Bytes
  | [] => some [125]
  | member :: rest =>
      match dumpMember member, dumpRest rest with
      | some first, some others => some (44 :: first ++ others)
      | _, _ => none

/-- Read the text after a member, to the end. -/
def readRest : Nat → Bytes → Option (List (Bytes × Json))
  | 0, _ => none
  | _ + 1, 125 :: rest => if rest = [] then some [] else none
  | fuel + 1, 44 :: rest =>
      match readMember rest with
      | some (member, rest) => (readRest fuel rest).map fun others => member :: others
      | none => none
  | _ + 1, _ => none

/-- File members one after the other. -/
def fileMembers (members : List (Bytes × Json)) : List (Bytes × Json) :=
  members.foldl (fun filed member => insertMember member.1 member.2 filed) []

/-- **The codec for flat objects.** -/
def flatCodec : JsonCodec where
  parse
    | [123, 125] => some (.object [])
    | 123 :: rest =>
        match readMember rest with
        | some (member, rest) =>
            (readRest rest.length rest).map fun others => .object (fileMembers (member :: others))
        | none => none
    | _ => none
  dump
    | .object [] => some [123, 125]
    | .object (member :: others) =>
        match dumpMember member, dumpRest others with
        | some first, some rest => some (123 :: first ++ rest)
        | _, _ => none
    | _ => none

/-- What ends a scalar: a comma or a closing brace. -/
theorem dumpRest_head {members : List (Bytes × Json)} {rest : Bytes}
    (dumped : dumpRest members = some rest) :
    ∃ next tail, rest = next :: tail ∧ isDigit next = false := by
  cases members with
  | nil => cases dumped; exact ⟨125, [], rfl, by decide⟩
  | cons member others =>
      simp only [dumpRest] at dumped
      split at dumped
      · cases dumped
        exact ⟨44, _, rfl, by decide⟩
      · cases dumped

/-- **A scalar** is read back, whatever ends it. -/
theorem readValue_dump {json : Json} (scalar : Scalar json) (next : UInt8) (rest : Bytes)
    (ends : isDigit next = false) :
    ∃ source, dumpValue json = some source ∧
      readValue (source ++ next :: rest) = some (json, next :: rest) := by
  cases json with
  | string value =>
      have utf8 : Utf8 value := scalar
      refine ⟨dumpString value, if_pos utf8, ?_⟩
      rw [dumpString, List.cons_append, List.cons_append, List.append_assoc,
        List.singleton_append, readValue, readString_dumpString]
      exact if_pos utf8
  | unsigned value =>
      refine ⟨decimal value, rfl, ?_⟩
      have digits := readDigits_decimal value next rest ends
      cases text : decimal value with
      | nil => exact absurd text (by simp [decimal, Nat.toDigits_ne_nil])
      | cons first others =>
          have digit : isDigit first = true := decimal_isDigit (text ▸ List.mem_cons_self)
          rw [text] at digits
          rw [List.cons_append] at digits ⊢
          rw [readValue, digits]
          · rfl
          · intro _ same
            rw [(List.cons.inj same).1] at digit
            exact absurd digit (by decide)
  | null => exact scalar.elim
  | boolean _ => exact scalar.elim
  | integer _ => exact scalar.elim
  | float _ => exact scalar.elim
  | array _ => exact scalar.elim
  | object _ => exact scalar.elim

/-- **A member** is read back. -/
theorem readMember_dump {member : Bytes × Json} (named : Utf8 member.1)
    (scalar : Scalar member.2) (next : UInt8) (rest : Bytes) (ends : isDigit next = false) :
    ∃ source, dumpMember member = some source ∧
      readMember (source ++ next :: rest) = some (member, next :: rest) := by
  obtain ⟨value, dumped, read⟩ := readValue_dump scalar next rest ends
  refine ⟨dumpString member.1 ++ 58 :: value, by simp [dumpMember, named, dumped], ?_⟩
  have shape : dumpString member.1 ++ 58 :: value ++ next :: rest =
      34 :: (member.1.flatMap escapeByte ++ 34 :: 58 :: (value ++ next :: rest)) := by
    simp [dumpString]
  rw [shape, readMember, readString_dumpString]
  simp [named, read]

/-- **The members after the first** are read back. -/
theorem readRest_dump (members : List (Bytes × Json))
    (scalar : ∀ member ∈ members, Utf8 member.1 ∧ Scalar member.2) :
    ∃ source, dumpRest members = some source ∧ members.length < source.length ∧
      ∀ fuel, members.length < fuel → readRest fuel source = some members := by
  induction members with
  | nil =>
      refine ⟨[125], rfl, by decide, fun fuel enough => ?_⟩
      obtain ⟨fuel, rfl⟩ := Nat.exists_eq_succ_of_ne_zero (Nat.ne_zero_of_lt enough)
      simp [readRest]
  | cons member others ih =>
      obtain ⟨rest, dumped, long, reads⟩ := ih fun other inside =>
        scalar other (List.mem_cons_of_mem _ inside)
      obtain ⟨next, tail, rfl, ends⟩ := dumpRest_head dumped
      obtain ⟨named, value⟩ := scalar member List.mem_cons_self
      obtain ⟨first, dumpedFirst, readFirst⟩ := readMember_dump named value next tail ends
      refine ⟨44 :: first ++ next :: tail, by simp [dumpRest, dumped, dumpedFirst], ?_, ?_⟩
      · simp only [List.cons_append, List.length_cons, List.length_append] at long ⊢
        omega
      · intro fuel enough
        obtain ⟨fuel, rfl⟩ := Nat.exists_eq_succ_of_ne_zero (Nat.ne_zero_of_lt enough)
        rw [List.cons_append, readRest, readFirst]
        simp only [List.length_cons] at enough
        simp [reads fuel (by omega)]

/-! ### The laws -/

theorem insertMember_append {key : Bytes} {value : Json} {members : List (Bytes × Json)}
    (above : ∀ member ∈ members, member.1 < key) :
    insertMember key value members = members ++ [(key, value)] := by
  induction members with
  | nil => rfl
  | cons head rest ih =>
      have less := above head List.mem_cons_self
      have different : key ≠ head.1 := fun same => List.lt_irrefl _ (same ▸ less)
      have notLess : ¬ key < head.1 := fun reverse => List.lt_irrefl _ (List.lt_trans less reverse)
      simp only [insertMember, if_neg different, if_neg notLess, List.cons_append]
      rw [ih fun member inside => above member (List.mem_cons_of_mem _ inside)]

/-- Sorted members are filed as they come. -/
theorem fileMembers_sorted {members : List (Bytes × Json)}
    (sorted : members.Pairwise fun first second => first.1 < second.1) :
    fileMembers members = members := by
  have fold : ∀ filed rest : List (Bytes × Json),
      (filed ++ rest).Pairwise (fun first second => first.1 < second.1) →
        rest.foldl (fun filed member => insertMember member.1 member.2 filed) filed =
          filed ++ rest := by
    intro filed rest
    induction rest generalizing filed with
    | nil => intro _; simp
    | cons member rest ih =>
        intro whole
        have above : ∀ earlier ∈ filed, earlier.1 < member.1 := fun earlier inside =>
          (List.pairwise_append.mp whole).2.2 earlier inside member List.mem_cons_self
        rw [List.foldl_cons, insertMember_append above, ih]
        · simp
        · simpa using whole
  exact fold [] members sorted

theorem mem_fileMembers {members : List (Bytes × Json)} {member : Bytes × Json}
    (inside : member ∈ fileMembers members) : member ∈ members := by
  have fold : ∀ rest filed : List (Bytes × Json),
      member ∈ rest.foldl (fun filed member => insertMember member.1 member.2 filed) filed →
        member ∈ filed ∨ member ∈ rest := by
    intro rest
    induction rest with
    | nil => exact fun filed inside => Or.inl inside
    | cons first rest ih =>
        intro filed inside
        rcases ih _ inside with inside | inside
        · rcases mem_insertMember inside with rfl | inside
          · exact Or.inr List.mem_cons_self
          · exact Or.inl inside
        · exact Or.inr (List.mem_cons_of_mem _ inside)
  simpa using fold members [] inside

theorem readValue_utf8 {bytes rest : Bytes} {value : Bytes}
    (read : readValue bytes = some (.string value, rest)) : Utf8 value := by
  unfold readValue at read
  split at read
  · split at read
    · split_ifs at read with utf8
      cases read
      exact utf8
    · cases read
  · simp at read

theorem readMember_utf8 {bytes rest : Bytes} {member : Bytes × Json} {value : Bytes}
    (read : readMember bytes = some (member, rest)) (held : member.2 = .string value) :
    Utf8 value := by
  unfold readMember at read
  split at read
  · split at read
    · split_ifs at read
      obtain ⟨⟨json, tail⟩, inner, same⟩ := Option.map_eq_some_iff.mp read
      cases same
      simp only at held
      subst held
      exact readValue_utf8 inner
    · cases read
  · cases read

theorem readRest_utf8 {fuel : Nat} {bytes : Bytes} {members : List (Bytes × Json)}
    (read : readRest fuel bytes = some members) :
    ∀ member ∈ members, ∀ value, member.2 = .string value → Utf8 value := by
  induction fuel generalizing bytes members with
  | zero => cases read
  | succ fuel ih =>
      unfold readRest at read
      split at read
      · cases read
      · split_ifs at read
        cases read
        exact fun member inside => absurd inside (List.not_mem_nil)
      · split at read
        · rename_i succ _ member rest readFirst
          obtain rfl := Nat.succ.inj succ
          obtain ⟨others, inner, same⟩ := Option.map_eq_some_iff.mp read
          cases same
          intro other inside value held
          rcases List.mem_cons.mp inside with rfl | inside
          · exact readMember_utf8 readFirst held
          · exact ih inner other inside value held
        · cases read
      · cases read

theorem mem_of_lookup {key : Bytes} {json : Json} {members : List (Bytes × Json)}
    (found : members.lookup key = some json) : (key, json) ∈ members := by
  induction members with
  | nil => cases found
  | cons member rest ih =>
      obtain ⟨first, held⟩ := member
      rw [lookup_cons_eq_ite] at found
      split_ifs at found with same
      · cases found
        rw [same]
        exact List.mem_cons_self
      · exact List.mem_cons_of_mem _ (ih found)

theorem flatCodec_parse_utf8 {source key value : Bytes} {json : Json}
    (parsed : flatCodec.parse source = some json) (held : json.get? key = some (.string value)) :
    Utf8 value := by
  unfold flatCodec at parsed
  simp only at parsed
  split at parsed
  · cases parsed
    cases held
  · split at parsed
    · rename_i member rest readFirst
      obtain ⟨others, inner, same⟩ := Option.map_eq_some_iff.mp parsed
      cases same
      rcases List.mem_cons.mp (mem_fileMembers (mem_of_lookup held)) with first | inside
      · exact readMember_utf8 readFirst (by rw [← first])
      · exact readRest_utf8 inner _ inside _ rfl
    · cases parsed
  · cases parsed

theorem flatCodec_parse_dump {json : Json} (flat : Flat json) :
    ∃ source, flatCodec.dump json = some source ∧ flatCodec.parse source = some json := by
  obtain ⟨members, rfl, sorted, scalar⟩ := flat
  cases members with
  | nil => exact ⟨[123, 125], rfl, rfl⟩
  | cons member others =>
      obtain ⟨rest, dumped, long, reads⟩ := readRest_dump others fun other inside =>
        scalar other (List.mem_cons_of_mem _ inside)
      obtain ⟨next, tail, rfl, ends⟩ := dumpRest_head dumped
      obtain ⟨named, value⟩ := scalar member List.mem_cons_self
      obtain ⟨first, dumpedFirst, readFirst⟩ := readMember_dump named value next tail ends
      refine ⟨123 :: (first ++ next :: tail), by simp [flatCodec, dumped, dumpedFirst], ?_⟩
      unfold flatCodec
      simp only
      split
      · rename_i same
        -- the text of a member is not a closing brace
        rw [(List.cons.inj same).2] at readFirst
        simp [readMember] at readFirst
      · rename_i text same
        rw [← (List.cons.inj same).2, readFirst]
        simp only [reads _ long, Option.map_some, fileMembers_sorted sorted]
      · rename_i other
        exact absurd rfl (other _)

/-- **The flat codec keeps the laws.** -/
theorem flatCodec_lawful : flatCodec.Lawful :=
  ⟨flatCodec_parse_utf8, flatCodec_parse_dump⟩

end ExodusOps.Json
