/-
**Deciding well-formed UTF-8.**

`Utf8` says that a byte string encodes some characters. `utf8Check` decides it by computation: the
first byte tells how many bytes to take (`leadChar` computes the character they would encode), and
the bytes are accepted when encoding that character gives them back. It is sound because it checks
by encoding, and complete because `leadChar` undoes the encoding (`leadChar_encode`).
-/

import ExodusOps.Lib.Bytes

namespace ExodusOps

/-- The character the front of a byte string would encode, judging by its first byte. -/
def leadChar (bytes : Bytes) : Char :=
  let byte (index : Nat) : Nat := (bytes.getD index 0).toNat
  Char.ofNat <|
    if byte 0 < 0x80 then byte 0
    else if byte 0 < 0xE0 then (byte 0 - 0xC0) * 64 + (byte 1 - 0x80)
    else if byte 0 < 0xF0 then (byte 0 - 0xE0) * 4096 + (byte 1 - 0x80) * 64 + (byte 2 - 0x80)
    else (byte 0 - 0xF0) * 262144 + (byte 1 - 0x80) * 4096 + (byte 2 - 0x80) * 64 + (byte 3 - 0x80)

/-- Take one character after the other off the front. -/
def utf8Check : Nat → Bytes → Bool
  | _, [] => true
  | 0, _ :: _ => false
  | fuel + 1, first :: rest =>
      let encoded := String.utf8EncodeChar (leadChar (first :: rest))
      encoded.isPrefixOf (first :: rest) && utf8Check fuel ((first :: rest).drop encoded.length)

/-- **Reading the character that was encoded.** -/
theorem leadChar_encode (char : Char) (rest : Bytes) :
    leadChar (String.utf8EncodeChar char ++ rest) = char := by
  have bound : char.val.toNat < 1114112 := by
    rcases char.valid with low | high
    · exact lt_trans low (by decide)
    · exact high.2
  have rebuild (number : Nat) (same : number = char.val.toNat) : Char.ofNat number = char := by
    rw [same]
    exact Char.ofNat_toNat char
  unfold leadChar String.utf8EncodeChar
  simp only
  apply rebuild
  split_ifs <;>
    simp only [List.cons_append, List.nil_append, List.getD_cons_zero, List.getD_cons_succ] at * <;>
    simp only [UInt8.toNat_ofNat'] at * <;> omega

theorem utf8EncodeChar_length_pos (char : Char) : 0 < (String.utf8EncodeChar char).length := by
  unfold String.utf8EncodeChar
  simp only
  split_ifs <;> simp

/-- What follows whole characters is well-formed if the whole text is. -/
theorem Utf8.of_append {first second : Bytes} (front : Utf8 first)
    (whole : Utf8 (first ++ second)) : Utf8 second := by
  obtain ⟨early, rfl⟩ := front
  obtain ⟨chars, same⟩ := whole
  induction early generalizing chars with
  | nil => exact ⟨chars, same⟩
  | cons char early ih =>
      rw [List.flatMap_cons, List.append_assoc] at same
      cases chars with
      | nil =>
          have positive := utf8EncodeChar_length_pos char
          rw [(List.append_eq_nil_iff.mp same).1] at positive
          exact absurd positive (Nat.lt_irrefl 0)
      | cons other chars =>
          -- both texts begin with the character `leadChar` reads
          rw [List.flatMap_cons] at same
          have lead := congrArg leadChar same
          rw [leadChar_encode, leadChar_encode] at lead
          subst lead
          exact ih chars (List.append_cancel_left same)

theorem utf8Check_sound {fuel : Nat} {bytes : Bytes} (accepted : utf8Check fuel bytes = true) :
    Utf8 bytes := by
  induction fuel generalizing bytes with
  | zero =>
      cases bytes with
      | nil => exact ⟨[], rfl⟩
      | cons _ _ => cases accepted
  | succ fuel ih =>
      cases bytes with
      | nil => exact ⟨[], rfl⟩
      | cons first rest =>
          simp only [utf8Check, Bool.and_eq_true, List.isPrefixOf_iff_prefix] at accepted
          obtain ⟨⟨later, whole⟩, others⟩ := accepted
          rw [show (first :: rest).drop _ = later by
            nth_rewrite 2 [← whole]
            exact List.drop_left] at others
          obtain ⟨chars, same⟩ := ih others
          refine ⟨leadChar (first :: rest) :: chars, ?_⟩
          rw [List.flatMap_cons, ← same, whole]

theorem utf8Check_complete (chars : List Char) {fuel : Nat}
    (enough : (chars.flatMap String.utf8EncodeChar).length ≤ fuel) :
    utf8Check fuel (chars.flatMap String.utf8EncodeChar) = true := by
  induction chars generalizing fuel with
  | nil => cases fuel <;> rfl
  | cons char chars ih =>
      have positive := utf8EncodeChar_length_pos char
      rw [List.flatMap_cons, List.length_append] at enough
      obtain ⟨fuel, rfl⟩ : ∃ less, fuel = less + 1 := ⟨fuel - 1, by omega⟩
      have lead := leadChar_encode char (chars.flatMap String.utf8EncodeChar)
      obtain ⟨first, tail, split⟩ : ∃ first tail,
          String.utf8EncodeChar char ++ chars.flatMap String.utf8EncodeChar = first :: tail :=
        List.exists_cons_of_length_pos (by rw [List.length_append]; omega)
      rw [List.flatMap_cons, split, utf8Check, ← split]
      simp only [lead, Bool.and_eq_true, List.isPrefixOf_iff_prefix, List.drop_left]
      exact ⟨List.prefix_append _ _, ih (by omega)⟩

theorem utf8Check_iff (bytes : Bytes) : utf8Check bytes.length bytes = true ↔ Utf8 bytes := by
  constructor
  · exact utf8Check_sound
  · rintro ⟨chars, rfl⟩
    exact utf8Check_complete chars le_rfl

instance : DecidablePred Utf8 := fun bytes => decidable_of_iff _ (utf8Check_iff bytes)

end ExodusOps
