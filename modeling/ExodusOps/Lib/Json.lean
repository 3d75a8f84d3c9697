/-
**JSON values, and what a program may expect of a JSON library.**

A value is what a parser returns: `unsigned` and `integer` are the non-negative and the negative
integers, `float` every other number. Objects keep their members in the order of their keys, as
byte strings; `set` is the assignment `j[key] = value`, `build` a sequence of them on a fresh value
and `get?` the lookup.

A library is a `JsonCodec`: `parse` gives no value on a text it rejects and `dump` no text on a
value it cannot write. `JsonCodec.Lawful` collects what programs rely on: parsed strings are
well-formed UTF-8, and every flat object (`Flat`: members in key order, each a well-formed string
or an unsigned integer) is written to a text that parses back to it.
-/

import ExodusOps.Lib.Bytes
import Mathlib.Data.List.Induction

namespace ExodusOps

/-- A JSON value. -/
inductive Json where
  | null
  | boolean (value : Bool)
  | integer (value : Int)
  | unsigned (value : UInt64)
  | float (bits : UInt64)
  | string (value : Bytes)
  | array (items : List Json)
  | object (members : List (Bytes × Json))

namespace Json

/-! ### Members -/

/-- The member of an object; other values have none. -/
def get? (key : Bytes) : Json → Option Json
  | .object members => members.lookup key
  | _ => none

/-- Add a member to a sorted list of members, or replace it. -/
def insertMember (key : Bytes) (value : Json) : List (Bytes × Json) → List (Bytes × Json)
  | [] => [(key, value)]
  | (first, held) :: rest =>
      if key = first then (key, value) :: rest
      else if key < first then (key, value) :: (first, held) :: rest
      else (first, held) :: insertMember key value rest

/-- The assignment `j[key] = value`, which turns the null value into an object. -/
def set (json : Json) (key : Bytes) (value : Json) : Json :=
  match json with
  | .object members => .object (insertMember key value members)
  | _ => .object [(key, value)]

theorem lookup_cons_eq_ite (key wanted : Bytes) (value : Json) (members : List (Bytes × Json)) :
    ((key, value) :: members).lookup wanted =
      if wanted = key then some value else members.lookup wanted := by
  by_cases same : wanted = key
  · simp [same]
  · rw [List.lookup_cons, beq_false_of_ne same, if_neg same]

theorem lookup_insertMember (key wanted : Bytes) (value : Json) (members : List (Bytes × Json)) :
    (insertMember key value members).lookup wanted =
      if wanted = key then some value else members.lookup wanted := by
  induction members with
  | nil => rw [insertMember, lookup_cons_eq_ite]
  | cons member rest ih =>
      obtain ⟨first, held⟩ := member
      rw [insertMember, lookup_cons_eq_ite]
      by_cases equal : key = first
      · subst equal
        rw [if_pos rfl, lookup_cons_eq_ite]
        by_cases same : wanted = key <;> simp [same]
      · rw [if_neg equal]
        by_cases less : key < first
        · rw [if_pos less, lookup_cons_eq_ite, lookup_cons_eq_ite]
        · rw [if_neg less, lookup_cons_eq_ite, ih]
          by_cases same : wanted = key
          · rw [if_pos same, if_pos same, if_neg (same ▸ equal)]
          · rw [if_neg same, if_neg same]

theorem get?_set (key wanted : Bytes) (value json : Json) :
    (json.set key value).get? wanted = if wanted = key then some value else json.get? wanted := by
  cases json with
  | object members => exact lookup_insertMember key wanted value members
  | _ => exact lookup_cons_eq_ite key wanted value []

/-- The object a program builds by one assignment after the other on a fresh value. -/
def build (members : List (Bytes × Json)) : Json :=
  members.foldl (fun json member => json.set member.1 member.2) .null

theorem build_concat (members : List (Bytes × Json)) (key : Bytes) (value : Json) :
    build (members ++ [(key, value)]) = (build members).set key value := by
  rw [build, List.foldl_append]
  rfl

/-- A member of a built object is the last one assigned. -/
theorem get?_build (members : List (Bytes × Json)) (wanted : Bytes) :
    (build members).get? wanted = members.reverse.lookup wanted := by
  induction members using List.reverseRecOn with
  | nil => rfl
  | append_singleton members member ih =>
      obtain ⟨key, value⟩ := member
      rw [build_concat, get?_set, ih, List.reverse_concat, lookup_cons_eq_ite]

/-- Where no member is assigned twice, every one of them is there. -/
theorem get?_build_of_mem {members : List (Bytes × Json)} {key : Bytes} {value : Json}
    (distinct : (members.map Prod.fst).Nodup) (member : (key, value) ∈ members) :
    (build members).get? key = some value := by
  obtain ⟨before, after, rfl⟩ := List.append_of_mem member
  rw [get?_build, List.reverse_append, List.reverse_cons, List.append_assoc,
    List.lookup_eq_some_iff]
  refine ⟨after.reverse, before.reverse, rfl, fun other inside => ?_⟩
  rw [bne_iff_ne]
  intro same
  rw [List.map_append, List.map_cons, List.nodup_append] at distinct
  refine (List.nodup_cons.mp distinct.2.1).1 ?_
  exact List.mem_map.mpr ⟨other, List.mem_reverse.mp inside, same.symm⟩

/-! ### Flat objects -/

/-- A well-formed string or an unsigned integer. -/
def Scalar : Json → Prop
  | .string value => Utf8 value
  | .unsigned _ => True
  | _ => False

/-- Members in strict key order, with well-formed keys and scalar values. -/
structure FlatMembers (members : List (Bytes × Json)) : Prop where
  sorted : members.Pairwise fun first second => first.1 < second.1
  scalar : ∀ member ∈ members, Utf8 member.1 ∧ Scalar member.2

/-- An object of well-formed strings and unsigned integers. -/
def Flat (json : Json) : Prop := ∃ members, json = .object members ∧ FlatMembers members

theorem mem_insertMember {key : Bytes} {value : Json} {members : List (Bytes × Json)}
    {member : Bytes × Json} (inside : member ∈ insertMember key value members) :
    member = (key, value) ∨ member ∈ members := by
  induction members with
  | nil => exact Or.inl (List.mem_singleton.mp inside)
  | cons head rest ih =>
      obtain ⟨first, held⟩ := head
      simp only [insertMember] at inside
      split_ifs at inside with equal less
      · rcases List.mem_cons.mp inside with new | old
        · exact Or.inl new
        · exact Or.inr (List.mem_cons_of_mem _ old)
      · rcases List.mem_cons.mp inside with new | old
        · exact Or.inl new
        · exact Or.inr old
      · rcases List.mem_cons.mp inside with old | inside
        · exact Or.inr (old ▸ List.mem_cons_self)
        · exact (ih inside).imp_right (List.mem_cons_of_mem _)

theorem sorted_insertMember (key : Bytes) (value : Json) {members : List (Bytes × Json)}
    (sorted : members.Pairwise fun first second => first.1 < second.1) :
    (insertMember key value members).Pairwise fun first second => first.1 < second.1 := by
  induction members with
  | nil => exact List.pairwise_singleton _ _
  | cons head rest ih =>
      obtain ⟨first, held⟩ := head
      obtain ⟨above, sortedRest⟩ := List.pairwise_cons.mp sorted
      simp only [insertMember]
      split_ifs with equal less
      · subst equal
        exact List.pairwise_cons.mpr ⟨above, sortedRest⟩
      · refine List.pairwise_cons.mpr ⟨fun member inside => ?_, sorted⟩
        rcases List.mem_cons.mp inside with rfl | inside
        · exact less
        · exact List.lt_trans less (above member inside)
      · refine List.pairwise_cons.mpr ⟨fun member inside => ?_, ih sortedRest⟩
        rcases mem_insertMember inside with rfl | inside
        · exact Std.lt_of_le_of_ne less (Ne.symm equal)
        · exact above member inside

theorem FlatMembers.insertMember {members : List (Bytes × Json)} (flat : FlatMembers members)
    {key : Bytes} {value : Json} (named : Utf8 key) (scalar : Scalar value) :
    FlatMembers (insertMember key value members) :=
  ⟨sorted_insertMember key value flat.sorted, fun member inside => by
    rcases mem_insertMember inside with rfl | inside
    · exact ⟨named, scalar⟩
    · exact flat.scalar member inside⟩

/-- The first assignment to a null value makes a flat object. -/
theorem flat_set_null {key : Bytes} {value : Json} (named : Utf8 key) (scalar : Scalar value) :
    Flat (Json.null.set key value) :=
  ⟨[(key, value)], rfl, List.pairwise_singleton _ _, fun member inside => by
    rw [List.mem_singleton.mp inside]
    exact ⟨named, scalar⟩⟩

/-- Every further assignment keeps it flat. -/
theorem Flat.set {json : Json} (flat : Flat json) {key : Bytes} {value : Json}
    (named : Utf8 key) (scalar : Scalar value) : Flat (json.set key value) := by
  obtain ⟨members, rfl, inner⟩ := flat
  exact ⟨_, rfl, inner.insertMember named scalar⟩

/-- An object built from well-formed strings and unsigned integers is flat. -/
theorem flat_build {members : List (Bytes × Json)} (nonempty : members ≠ [])
    (scalar : ∀ member ∈ members, Utf8 member.1 ∧ Scalar member.2) : Flat (build members) := by
  induction members using List.reverseRecOn with
  | nil => exact absurd rfl nonempty
  | append_singleton members member ih =>
      obtain ⟨key, value⟩ := member
      have last := scalar (key, value) (List.mem_append_right _ List.mem_cons_self)
      rw [build_concat]
      by_cases first : members = []
      · subst first
        exact flat_set_null last.1 last.2
      · exact (ih first fun member inside => scalar member (List.mem_append_left _ inside)).set
          last.1 last.2

/-! ### Taking a member away -/

/-- The members of an object; other values have none. -/
def members : Json → List (Bytes × Json)
  | .object members => members
  | _ => []

/-- The value without one of its members. -/
def without (key : Bytes) : Json → Json
  | .object members => .object (members.filter fun member => member.1 ≠ key)
  | json => json

theorem members_set (json : Json) (key : Bytes) (value : Json) :
    json.set key value = .object (insertMember key value json.members) := by
  cases json <;> rfl

theorem build_sorted (assigned : List (Bytes × Json)) :
    (build assigned).members.Pairwise fun first second => first.1 < second.1 := by
  induction assigned using List.reverseRecOn with
  | nil => exact List.Pairwise.nil
  | append_singleton assigned member ih =>
      rw [build_concat, members_set]
      exact sorted_insertMember member.1 member.2 ih

theorem filter_insertMember_self (key : Bytes) (value : Json) (members : List (Bytes × Json)) :
    (insertMember key value members).filter (fun member => member.1 ≠ key) =
      members.filter fun member => member.1 ≠ key := by
  induction members with
  | nil => simp [insertMember]
  | cons head rest ih =>
      obtain ⟨first, held⟩ := head
      rw [insertMember]
      by_cases same : key = first
      · simp [same]
      · rw [if_neg same]
        by_cases less : key < first
        · simp [if_pos less]
        · rw [if_neg less, List.filter_cons, ih, List.filter_cons]

theorem insertMember_front {key : Bytes} (value : Json) {members : List (Bytes × Json)}
    (above : ∀ member ∈ members, key < member.1) :
    insertMember key value members = (key, value) :: members := by
  cases members with
  | nil => rfl
  | cons head rest =>
      have less := above head List.mem_cons_self
      rw [insertMember, if_neg (fun same => Std.lt_irrefl (same ▸ less)), if_pos less]

/-- In the order of the keys an assignment goes to the same place whether or not another member is
there. -/
theorem filter_insertMember {key other : Bytes} (differ : key ≠ other) (value : Json)
    {members : List (Bytes × Json)}
    (sorted : members.Pairwise fun first second => first.1 < second.1) :
    (insertMember key value members).filter (fun member => member.1 ≠ other) =
      insertMember key value (members.filter fun member => member.1 ≠ other) := by
  induction members with
  | nil => simp [insertMember, differ]
  | cons head rest ih =>
      obtain ⟨first, held⟩ := head
      obtain ⟨above, sortedRest⟩ := List.pairwise_cons.mp sorted
      by_cases dropped : first = other
      · subst dropped
        rw [insertMember, if_neg differ, List.filter_cons_of_neg (by simp)]
        by_cases less : key < first
        · have front : ∀ member ∈ rest.filter (fun member => member.1 ≠ first), key < member.1 :=
            fun member inside => List.lt_trans less (above member (List.mem_of_mem_filter inside))
          rw [if_pos less, List.filter_cons_of_pos (by simpa using differ),
            List.filter_cons_of_neg (by simp), insertMember_front value front]
        · rw [if_neg less, List.filter_cons_of_neg (by simp), ih sortedRest]
      · rw [insertMember, List.filter_cons_of_pos (by simpa using dropped), insertMember]
        split_ifs
        · rw [List.filter_cons_of_pos (by simpa using differ)]
        · rw [List.filter_cons_of_pos (by simpa using differ),
            List.filter_cons_of_pos (by simpa using dropped)]
        · rw [List.filter_cons_of_pos (by simpa using dropped), ih sortedRest]

theorem members_build_filter (key : Bytes) (assigned : List (Bytes × Json)) :
    (build assigned).members.filter (fun member => member.1 ≠ key) =
      (build (assigned.filter fun member => member.1 ≠ key)).members := by
  induction assigned using List.reverseRecOn with
  | nil => rfl
  | append_singleton assigned member ih =>
      obtain ⟨assignedKey, value⟩ := member
      rw [build_concat, members_set, members, List.filter_append]
      by_cases same : assignedKey = key
      · subst same
        rw [filter_insertMember_self, ih, List.filter_cons_of_neg (by simp), List.filter_nil,
          List.append_nil]
      · rw [filter_insertMember same value (build_sorted assigned), ih,
          List.filter_cons_of_pos (by simpa using same), List.filter_nil, build_concat, members_set,
          members]

/-- What is built by at least one assignment is an object. -/
theorem build_eq_object {assigned : List (Bytes × Json)} (nonempty : assigned ≠ []) :
    build assigned = .object (build assigned).members := by
  obtain ⟨front, member, rfl⟩ := (List.eq_nil_or_concat' assigned).resolve_left nonempty
  rw [build_concat, members_set, members]

/-- **A built object without a member** is the one built without the assignments to it. -/
theorem without_build (key : Bytes) {assigned : List (Bytes × Json)}
    (kept : assigned.filter (fun member => member.1 ≠ key) ≠ []) :
    (build assigned).without key = build (assigned.filter fun member => member.1 ≠ key) := by
  have nonempty : assigned ≠ [] := fun empty => kept (by rw [empty, List.filter_nil])
  rw [build_eq_object nonempty, build_eq_object kept, without, members_build_filter]

-- from here on a built object is known by its members only
attribute [irreducible] build

end Json

/-! ### Libraries -/

/-- A JSON library. -/
structure JsonCodec where
  parse : Bytes → Option Json
  dump : Json → Option Bytes

/-- What programs rely on. -/
structure JsonCodec.Lawful (codec : JsonCodec) : Prop where
  /-- A parser rejects a text with ill-formed UTF-8 in a string. -/
  parse_utf8 : ∀ {source json key value}, codec.parse source = some json →
    json.get? key = some (.string value) → Utf8 value
  /-- Parsing undoes writing on flat objects. -/
  parse_dump : ∀ {json}, json.Flat → ∃ source, codec.dump json = some source ∧
    codec.parse source = some json

end ExodusOps
