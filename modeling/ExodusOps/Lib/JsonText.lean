/-
**Values of well-formed text, and a writer for all of them.**

`WellFormed` values have well-formed UTF-8 in every string, names of members included. A library is
expected to write these and no others (`JsonCodec.WritesText`). `textCodec` is such a library: it
parses as `flatCodec` does and writes any value; on flat objects the two write the same text, so it
is lawful as well (`textCodec_lawful`, `textCodec_writesText`).

A library that puts no blanks between the tokens writes a text of known size (`textSize`), which is
what `JsonCodec.Compact` asks for; `textCodec` does (`textCodec_compact`).
-/

import ExodusOps.Lib.JsonFlat

namespace ExodusOps

namespace Json

/-! ### Well-formed values -/

mutual

/-- Every string in the value is well-formed UTF-8. -/
def WellFormed : Json → Prop
  | .string value => Utf8 value
  | .array items => ItemsWellFormed items
  | .object members => MembersWellFormed members
  | _ => True

def ItemsWellFormed : List Json → Prop
  | [] => True
  | item :: rest => WellFormed item ∧ ItemsWellFormed rest

def MembersWellFormed : List (Bytes × Json) → Prop
  | [] => True
  | (key, value) :: rest => (Utf8 key ∧ WellFormed value) ∧ MembersWellFormed rest

end

theorem itemsWellFormed_iff {items : List Json} :
    ItemsWellFormed items ↔ ∀ item ∈ items, item.WellFormed := by
  induction items with
  | nil => simp [ItemsWellFormed]
  | cons item rest ih => rw [ItemsWellFormed, ih, List.forall_mem_cons]

theorem membersWellFormed_iff {members : List (Bytes × Json)} :
    MembersWellFormed members ↔ ∀ member ∈ members, Utf8 member.1 ∧ member.2.WellFormed := by
  induction members with
  | nil => simp [MembersWellFormed]
  | cons member rest ih => rw [MembersWellFormed, ih, List.forall_mem_cons]

theorem wellFormed_array {items : List Json} (every : ∀ item ∈ items, item.WellFormed) :
    (Json.array items).WellFormed := by
  rw [WellFormed, itemsWellFormed_iff]
  exact every

/-- An assignment of well-formed text keeps a value well-formed. -/
theorem WellFormed.set {json : Json} (formed : json.WellFormed) {key : Bytes} {value : Json}
    (named : Utf8 key) (assigned : value.WellFormed) : (json.set key value).WellFormed := by
  cases json with
  | object members =>
      rw [WellFormed, membersWellFormed_iff] at formed
      rw [Json.set, WellFormed, membersWellFormed_iff]
      intro member inside
      rcases mem_insertMember inside with rfl | old
      · exact ⟨named, assigned⟩
      · exact formed member old
  | _ => exact ⟨⟨named, assigned⟩, trivial⟩

/-- **Objects built from well-formed text are well-formed.** -/
theorem wellFormed_build {members : List (Bytes × Json)}
    (every : ∀ member ∈ members, Utf8 member.1 ∧ member.2.WellFormed) :
    (build members).WellFormed := by
  induction members using List.reverseRecOn with
  | nil =>
      rw [show build [] = .null by with_unfolding_all rfl]
      trivial
  | append_singleton members member ih =>
      obtain ⟨key, value⟩ := member
      obtain ⟨front, last⟩ := List.forall_mem_append.mp every
      rw [List.forall_mem_singleton] at last
      rw [build_concat]
      exact (ih front).set last.1 last.2

/-- A member of a well-formed value is well-formed. -/
theorem WellFormed.get? {json : Json} (formed : json.WellFormed) {key : Bytes} {value : Json}
    (member : json.get? key = some value) : Utf8 key ∧ value.WellFormed := by
  cases json with
  | object members =>
      rw [WellFormed, membersWellFormed_iff] at formed
      obtain ⟨before, after, rfl, _⟩ := List.lookup_eq_some_iff.mp member
      exact formed (key, value) (List.mem_append_right _ List.mem_cons_self)
  | _ => cases member

/-- **Where no member is assigned twice**, they all have to be well-formed. -/
theorem wellFormed_build_iff {members : List (Bytes × Json)}
    (distinct : (members.map Prod.fst).Nodup) :
    (build members).WellFormed ↔ ∀ member ∈ members, Utf8 member.1 ∧ member.2.WellFormed := by
  refine ⟨fun formed member inside => ?_, wellFormed_build⟩
  exact formed.get? (get?_build_of_mem distinct inside)

/-! ### The writer -/

mutual

/-- The text of a value; `none` where a string of it is not well-formed. -/
def write : Json → Option Bytes
  | .null => some (text "null")
  | .boolean value => some (text (toString value))
  | .integer value => some (text (toString value))
  | .unsigned value => some (decimal value)
  | .float bits => some (decimal bits)
  | .string value => if Utf8 value then some (dumpString value) else none
  | .array [] => some [91, 93]
  | .array (item :: rest) =>
      match write item, writeItems rest with
      | some first, some others => some (91 :: first ++ others)
      | _, _ => none
  | .object [] => some [123, 125]
  | .object ((key, value) :: rest) =>
      if Utf8 key then
        match write value, writeMembers rest with
        | some first, some others => some (123 :: (dumpString key ++ 58 :: first) ++ others)
        | _, _ => none
      else none

/-- The text after an item. -/
def writeItems : List Json → Option Bytes
  | [] => some [93]
  | item :: rest =>
      match write item, writeItems rest with
      | some first, some others => some (44 :: first ++ others)
      | _, _ => none

/-- The text after a member. -/
def writeMembers : List (Bytes × Json) → Option Bytes
  | [] => some [125]
  | (key, value) :: rest =>
      if Utf8 key then
        match write value, writeMembers rest with
        | some first, some others => some (44 :: (dumpString key ++ 58 :: first) ++ others)
        | _, _ => none
      else none

end

mutual

/-- **What can be written**: the well-formed values. -/
theorem write_isSome : (json : Json) → ((write json).isSome = true ↔ json.WellFormed)
  | .null | .boolean _ | .integer _ | .unsigned _ | .float _ => by simp [write, WellFormed]
  | .string value => by
      rw [write, WellFormed]
      split <;> simp [*]
  | .array [] => by simp [write, WellFormed, ItemsWellFormed]
  | .array (item :: rest) => by
      rw [write, WellFormed, ItemsWellFormed, ← write_isSome item, ← writeItems_isSome rest]
      cases write item <;> cases writeItems rest <;> simp
  | .object [] => by simp [write, WellFormed, MembersWellFormed]
  | .object ((key, value) :: rest) => by
      rw [write, WellFormed, MembersWellFormed, ← write_isSome value, ← writeMembers_isSome rest]
      split
      · cases write value <;> cases writeMembers rest <;> simp [*]
      · simp [*]

theorem writeItems_isSome :
    (items : List Json) → ((writeItems items).isSome = true ↔ ItemsWellFormed items)
  | [] => by simp [writeItems, ItemsWellFormed]
  | item :: rest => by
      rw [writeItems, ItemsWellFormed, ← write_isSome item, ← writeItems_isSome rest]
      cases write item <;> cases writeItems rest <;> simp

theorem writeMembers_isSome :
    (members : List (Bytes × Json)) →
      ((writeMembers members).isSome = true ↔ MembersWellFormed members)
  | [] => by simp [writeMembers, MembersWellFormed]
  | (key, value) :: rest => by
      rw [writeMembers, MembersWellFormed, ← write_isSome value, ← writeMembers_isSome rest]
      split
      · cases write value <;> cases writeMembers rest <;> simp [*]
      · simp [*]

end

/-! ### The size of a text -/

mutual

/-- The value is made of strings, unsigned integers, arrays and objects. -/
def Plain : Json → Prop
  | .string _ | .unsigned _ => True
  | .array items => ItemsPlain items
  | .object members => MembersPlain members
  | _ => False

def ItemsPlain : List Json → Prop
  | [] => True
  | item :: rest => Plain item ∧ ItemsPlain rest

def MembersPlain : List (Bytes × Json) → Prop
  | [] => True
  | (_, value) :: rest => Plain value ∧ MembersPlain rest

end

mutual

/-- The size of the text of a plain value, without blanks. -/
def textSize : Json → Nat
  | .unsigned value => (decimal value).length
  | .string value => (dumpString value).length
  | .array [] | .object [] => 2
  | .array (item :: rest) => 2 + textSize item + itemsSize rest
  | .object ((key, value) :: rest) =>
      3 + (dumpString key).length + textSize value + membersSize rest
  | _ => 0

def itemsSize : List Json → Nat
  | [] => 0
  | item :: rest => 1 + textSize item + itemsSize rest

def membersSize : List (Bytes × Json) → Nat
  | [] => 0
  | (key, value) :: rest => 2 + (dumpString key).length + textSize value + membersSize rest

end

mutual

/-- **The writer puts no blanks.** -/
theorem write_length : (json : Json) → (source : Bytes) → Plain json →
    write json = some source → source.length = textSize json
  | .null, _, plain, _ | .boolean _, _, plain, _ | .integer _, _, plain, _
  | .float _, _, plain, _ => plain.elim
  | .unsigned value, source, _, written => by
      rw [write, Option.some.injEq] at written
      rw [← written, textSize]
  | .string value, source, _, written => by
      rw [write, Option.ite_none_right_eq_some, Option.some.injEq] at written
      rw [← written.2, textSize]
  | .array [], source, _, written => by
      rw [write, Option.some.injEq] at written
      rw [← written, textSize]
      rfl
  | .array (item :: rest), source, plain, written => by
      rw [Plain, ItemsPlain] at plain
      rw [write] at written
      split at written
      · rename_i first others one more
        have head := write_length item first plain.1 one
        have tail := writeItems_length rest others plain.2 more
        cases written
        rw [textSize, List.length_append, List.length_cons, head, tail]
        omega
      · cases written
  | .object [], source, _, written => by
      rw [write, Option.some.injEq] at written
      rw [← written, textSize]
      rfl
  | .object ((key, value) :: rest), source, plain, written => by
      rw [Plain, MembersPlain] at plain
      rw [write, Option.ite_none_right_eq_some] at written
      obtain ⟨_, written⟩ := written
      split at written
      · rename_i first others one more
        have head := write_length value first plain.1 one
        have tail := writeMembers_length rest others plain.2 more
        cases written
        simp only [textSize, List.length_append, List.length_cons, head, tail]
        omega
      · cases written

theorem writeItems_length : (items : List Json) → (source : Bytes) → ItemsPlain items →
    writeItems items = some source → source.length = itemsSize items + 1
  | [], source, _, written => by
      rw [writeItems, Option.some.injEq] at written
      rw [← written, itemsSize]
      rfl
  | item :: rest, source, plain, written => by
      rw [ItemsPlain] at plain
      rw [writeItems] at written
      split at written
      · rename_i first others one more
        have head := write_length item first plain.1 one
        have tail := writeItems_length rest others plain.2 more
        cases written
        rw [itemsSize, List.length_append, List.length_cons, head, tail]
        omega
      · cases written

theorem writeMembers_length : (members : List (Bytes × Json)) → (source : Bytes) →
    MembersPlain members → writeMembers members = some source →
      source.length = membersSize members + 1
  | [], source, _, written => by
      rw [writeMembers, Option.some.injEq] at written
      rw [← written, membersSize]
      rfl
  | (key, value) :: rest, source, plain, written => by
      rw [MembersPlain] at plain
      rw [writeMembers, Option.ite_none_right_eq_some] at written
      obtain ⟨_, written⟩ := written
      split at written
      · rename_i first others one more
        have head := write_length value first plain.1 one
        have tail := writeMembers_length rest others plain.2 more
        cases written
        simp only [membersSize, List.length_append, List.length_cons, head, tail]
        omega
      · cases written

end

theorem itemsPlain_iff {items : List Json} : ItemsPlain items ↔ ∀ item ∈ items, item.Plain := by
  induction items with
  | nil => simp [ItemsPlain]
  | cons item rest ih => rw [ItemsPlain, ih, List.forall_mem_cons]

theorem membersPlain_iff {members : List (Bytes × Json)} :
    MembersPlain members ↔ ∀ member ∈ members, member.2.Plain := by
  induction members with
  | nil => simp [MembersPlain]
  | cons member rest ih => rw [MembersPlain, ih, List.forall_mem_cons]

theorem itemsSize_eq_sum (items : List Json) :
    itemsSize items = (items.map fun item => 1 + item.textSize).sum := by
  induction items with
  | nil => rfl
  | cons item rest ih => rw [itemsSize, ih, List.map_cons, List.sum_cons]

theorem textSize_object {members : List (Bytes × Json)} (nonempty : members ≠ []) :
    (object members).textSize = 1 + membersSize members := by
  obtain ⟨⟨key, value⟩, rest, rfl⟩ := List.exists_cons_of_ne_nil nonempty
  rw [textSize, membersSize]
  omega

/-- Where a new member is put in does not matter. -/
theorem membersSize_insertMember {members : List (Bytes × Json)} {key : Bytes} (value : Json)
    (fresh : members.lookup key = none) :
    membersSize (insertMember key value members) =
      membersSize members + (2 + (dumpString key).length + value.textSize) := by
  induction members with
  | nil =>
      simp only [insertMember, membersSize]
      omega
  | cons member rest ih =>
      obtain ⟨first, held⟩ := member
      rw [lookup_cons_eq_ite] at fresh
      obtain ⟨other, fresh⟩ : key ≠ first ∧ rest.lookup key = none := by
        split_ifs at fresh with same
        exact ⟨same, fresh⟩
      rw [insertMember, if_neg other]
      split_ifs
      · simp only [membersSize]
        omega
      · rw [membersSize, membersSize, ih fresh]
        omega

theorem membersSize_append (first second : List (Bytes × Json)) :
    membersSize (first ++ second) = membersSize first + membersSize second := by
  induction first with
  | nil => rw [List.nil_append, membersSize, Nat.zero_add]
  | cons member rest ih =>
      obtain ⟨key, value⟩ := member
      rw [List.cons_append, membersSize, membersSize, ih]
      omega

/-- **An object is as large as its members**, in whatever order they are assigned. -/
theorem build_object {members : List (Bytes × Json)} (nonempty : members ≠ [])
    (distinct : (members.map Prod.fst).Nodup) :
    ∃ sorted, build members = .object sorted ∧ sorted ≠ [] ∧
      membersSize sorted = membersSize members := by
  induction members using List.reverseRecOn with
  | nil => exact absurd rfl nonempty
  | append_singleton members member ih =>
      obtain ⟨key, value⟩ := member
      rw [List.map_append, List.nodup_append] at distinct
      obtain ⟨distinct, _, fresh⟩ := distinct
      rw [build_concat]
      by_cases first : members = []
      · subst first
        exact ⟨[(key, value)], by rw [show build [] = .null by with_unfolding_all rfl]; rfl,
          List.cons_ne_nil _ _, rfl⟩
      · obtain ⟨sorted, built, _, size⟩ := ih first distinct
        have unknown : sorted.lookup key = none := by
          have missing : (build members).get? key = none := by
            rw [get?_build, List.lookup_eq_none_iff]
            intro member inside
            rw [bne_iff_ne]
            exact fun same => fresh member.1 (List.mem_map_of_mem (List.mem_reverse.mp inside)) key
              List.mem_cons_self same.symm
          rw [built] at missing
          exact missing
        refine ⟨insertMember key value sorted, by rw [built]; rfl, ?_, ?_⟩
        · intro empty
          have sized := membersSize_insertMember value unknown
          rw [empty, membersSize] at sized
          omega
        · rw [membersSize_insertMember value unknown, size, membersSize_append]
          rfl

/-- Its size is the sum of theirs. -/
theorem build_textSize {members : List (Bytes × Json)} (nonempty : members ≠ [])
    (distinct : (members.map Prod.fst).Nodup) :
    (build members).textSize = 1 + membersSize members := by
  obtain ⟨sorted, built, some, size⟩ := build_object nonempty distinct
  rw [built, textSize_object some, size]

theorem Plain.set {json : Json} (plain : json.Plain) {value : Json} (assigned : value.Plain)
    (key : Bytes) : (json.set key value).Plain := by
  cases json with
  | object members =>
      rw [Plain, membersPlain_iff] at plain
      rw [Json.set, Plain, membersPlain_iff]
      intro member inside
      rcases mem_insertMember inside with rfl | old
      · exact assigned
      · exact plain member old
  | _ => exact ⟨assigned, trivial⟩

theorem plain_build {members : List (Bytes × Json)} (nonempty : members ≠ [])
    (every : ∀ member ∈ members, member.2.Plain) : (build members).Plain := by
  induction members using List.reverseRecOn with
  | nil => exact absurd rfl nonempty
  | append_singleton members member ih =>
      obtain ⟨key, value⟩ := member
      obtain ⟨front, last⟩ := List.forall_mem_append.mp every
      rw [List.forall_mem_singleton] at last
      rw [build_concat]
      by_cases first : members = []
      · subst first
        rw [show build [] = .null by with_unfolding_all rfl]
        exact ⟨last, trivial⟩
      · exact (ih first front).set last key

/-! ### A library that writes every value -/

/-- `flatCodec` with the general writer. -/
def textCodec : JsonCodec := ⟨flatCodec.parse, write⟩

theorem write_scalar {json : Json} (scalar : Scalar json) : write json = dumpValue json := by
  cases json with
  | string value => rfl
  | unsigned value => rfl
  | _ => exact scalar.elim

/-- On scalar members the two writers agree. -/
theorem writeMembers_scalar {members : List (Bytes × Json)}
    (every : ∀ member ∈ members, Utf8 member.1 ∧ Scalar member.2) :
    writeMembers members = dumpRest members := by
  induction members with
  | nil => rfl
  | cons member rest ih =>
      obtain ⟨key, value⟩ := member
      obtain ⟨⟨named, scalar⟩, others⟩ := List.forall_mem_cons.mp every
      rw [writeMembers, dumpRest, dumpMember, if_pos named, if_pos named, write_scalar scalar,
        ih others]
      cases dumpValue value <;> cases dumpRest rest <;> rfl

theorem write_flat {json : Json} (flat : Flat json) : write json = flatCodec.dump json := by
  obtain ⟨members, rfl, inner⟩ := flat
  cases members with
  | nil => rfl
  | cons member rest =>
      obtain ⟨key, value⟩ := member
      obtain ⟨⟨named, scalar⟩, others⟩ := List.forall_mem_cons.mp inner.scalar
      rw [write, if_pos named, write_scalar scalar, writeMembers_scalar others]
      simp only [flatCodec, dumpMember, if_pos named]
      cases dumpValue value <;> cases dumpRest rest <;> rfl

theorem textCodec_lawful : textCodec.Lawful where
  parse_utf8 := flatCodec_parse_utf8
  parse_dump := by
    intro json flat
    obtain ⟨source, dumped, parsed⟩ := flatCodec_parse_dump flat
    exact ⟨source, (write_flat flat).trans dumped, parsed⟩

end Json

/-- **A library that throws on ill-formed text alone**: it writes the well-formed values and no
others. -/
def JsonCodec.WritesText (codec : JsonCodec) : Prop :=
  ∀ json, (codec.dump json).isSome = true ↔ json.WellFormed

theorem Json.textCodec_writesText : Json.textCodec.WritesText := Json.write_isSome

/-- **A library that puts no blanks into its texts.** -/
def JsonCodec.Compact (codec : JsonCodec) : Prop :=
  ∀ json source, json.Plain → codec.dump json = some source → source.length = json.textSize

theorem Json.textCodec_compact : Json.textCodec.Compact := Json.write_length

end ExodusOps
