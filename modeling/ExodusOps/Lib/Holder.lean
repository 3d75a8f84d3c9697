/-
**A holder of one descriptor at a time.**

A holder opens an object when it has none, makes calls on the one it has and closes it. The calls
are recorded with the descriptor they were made on, `none` where the holder has none and the call
can only fail. `Holding.perform` is one call as the descriptor table sees it, and it faults on every
misuse: a second object, a descriptor that is not the holder's, a number that no longer stands for
the object meant. So calls that can be performed use nothing that is closed.

* `Holding.performs_account` — **the ledger**: what was opened is, in order, what was closed and
  then what is still held.
* `Holding.performs_custody` — what others hold in the same table is left alone.
-/

import ExodusOps.Lib.Descriptors
import Mathlib.Data.Option.Basic

namespace ExodusOps

/-- A call of a holder. -/
inductive HolderCall (ν : Type) where
  | opens (descriptor : Descriptor)
  | uses (name : ν) (descriptor : Option Descriptor)
  | closes (descriptor : Option Descriptor)
  deriving DecidableEq

/-- A descriptor table, and what the holder has open in it. -/
structure Holding where
  descriptors : Descriptors
  owned : Option Descriptor

namespace Holding

variable {ν : Type}

/-- The descriptor is the holder's, and still stands for the object meant. -/
def Sound (holding : Holding) (descriptor : Option Descriptor) : Prop :=
  descriptor = holding.owned ∧ ∀ one ∈ descriptor, holding.descriptors.Reaches one

instance (holding : Holding) (descriptor : Option Descriptor) :
    Decidable (holding.Sound descriptor) :=
  haveI : DecidablePred holding.descriptors.Reaches :=
    fun one => inferInstanceAs (Decidable (holding.descriptors.table one.fd = some one.object))
  inferInstanceAs (Decidable (_ ∧ _))

/-- Give up what is held. -/
def release (holding : Holding) : Holding :=
  match holding.owned with
  | none => holding
  | some descriptor => ⟨holding.descriptors.close descriptor.fd, none⟩

theorem release_eq (holding : Holding) : holding.release = ⟨holding.release.descriptors, none⟩ := by
  obtain ⟨descriptors, owned⟩ := holding
  cases owned <;> rfl

/-- One call, `none` for a misuse. -/
def perform (holding : Holding) : HolderCall ν → Option Holding
  | .opens descriptor => do
      guard (holding.owned = none)
      let (opened, after) ← holding.descriptors.openAt descriptor.fd
      guard (opened = descriptor)
      some ⟨after, some descriptor⟩
  | .uses _ descriptor => do
      guard (holding.Sound descriptor)
      some holding
  | .closes descriptor => do
      guard (holding.Sound descriptor)
      some holding.release

/-- One call after the other. -/
def performs (holding : Holding) (calls : List (HolderCall ν)) : Option Holding :=
  calls.foldlM perform holding

/-- The objects opened by some calls. -/
def openedObjects (calls : List (HolderCall ν)) : List Nat :=
  calls.filterMap fun call =>
    match call with
    | .opens descriptor => some descriptor.object
    | _ => none

/-- The objects closed by some calls. -/
def closedObjects (calls : List (HolderCall ν)) : List Nat :=
  calls.filterMap fun call =>
    match call with
    | .closes descriptor => descriptor.map Descriptor.object
    | _ => none

/-- What is held, as a list. -/
def objects (holding : Holding) : List Nat := holding.owned.toList.map Descriptor.object

variable {holding next : Holding} {calls : List (HolderCall ν)}

theorem performs_cons (call : HolderCall ν) :
    holding.performs (call :: calls) = (holding.perform call).bind (·.performs calls) := rfl

theorem performs_append (more : List (HolderCall ν)) :
    holding.performs (calls ++ more) = (holding.performs calls).bind (·.performs more) :=
  List.foldlM_append

/-- **What a call does.** -/
theorem perform_cases {call : HolderCall ν} (performed : holding.perform call = some next) :
    (∃ descriptor, call = .opens descriptor ∧ holding.owned = none ∧
      holding.descriptors.openAt descriptor.fd = some (descriptor, next.descriptors) ∧
      next.owned = some descriptor) ∨
    (∃ name descriptor, call = .uses name descriptor ∧ holding.Sound descriptor ∧
      next = holding) ∨
    (∃ descriptor, call = .closes descriptor ∧ holding.Sound descriptor ∧
      next = holding.release) := by
  cases call with
  | opens descriptor =>
      simp only [perform, Option.bind_eq_bind, Option.bind_eq_some_iff, Option.guard_eq_some',
        exists_const, Prod.exists] at performed
      obtain ⟨nothing, opened, after, free, rfl, same⟩ := performed
      cases same
      exact .inl ⟨opened, rfl, nothing, free, rfl⟩
  | uses name descriptor =>
      simp only [perform, Option.bind_eq_bind, Option.bind_eq_some_iff, Option.guard_eq_some',
        exists_const] at performed
      obtain ⟨sound, same⟩ := performed
      cases same
      exact .inr (.inl ⟨name, descriptor, rfl, sound, rfl⟩)
  | closes descriptor =>
      simp only [perform, Option.bind_eq_bind, Option.bind_eq_some_iff, Option.guard_eq_some',
        exists_const] at performed
      obtain ⟨sound, same⟩ := performed
      cases same
      exact .inr (.inr ⟨descriptor, rfl, sound, rfl⟩)

theorem perform_uses (sound : holding.Sound holding.owned) (name : ν) :
    holding.perform (.uses name holding.owned) = some holding := by
  simp only [perform, guard, if_pos sound]
  rfl

theorem perform_closes (sound : holding.Sound holding.owned) :
    holding.perform (.closes holding.owned : HolderCall ν) = some holding.release := by
  simp only [perform, guard, if_pos sound]
  rfl

/-- Any number of calls on what is held. -/
theorem performs_uses (sound : holding.Sound holding.owned) (names : List ν) :
    holding.performs (names.map (.uses · holding.owned)) = some holding := by
  induction names with
  | nil => rfl
  | cons name names ih =>
      rw [List.map_cons, performs_cons, perform_uses sound, Option.bind_some, ih]

/-- Any number of calls on what is held, and then it is closed. -/
theorem performs_uses_closes (sound : holding.Sound holding.owned) (names : List ν) :
    holding.performs (names.map (.uses · holding.owned) ++ [.closes holding.owned]) =
      some holding.release := by
  rw [performs_append, performs_uses sound, Option.bind_some, performs_cons,
    perform_closes sound]
  rfl

/-- A new object, for a holder of none. -/
theorem perform_opens {descriptors after : Descriptors} {descriptor : Descriptor} {fd : Nat}
    (opened : descriptors.openAt fd = some (descriptor, after)) :
    perform ⟨descriptors, none⟩ (.opens descriptor : HolderCall ν) =
      some ⟨after, some descriptor⟩ ∧ Sound ⟨after, some descriptor⟩ (some descriptor) := by
  obtain ⟨_, rfl, rfl⟩ := Descriptors.openAt_eq_some opened
  refine ⟨?_, rfl, fun one member => ?_⟩
  · simp [perform, opened, guard]
  · cases member
    exact Function.update_self ..

/-! ### The ledger -/

theorem perform_account {call : HolderCall ν} (performed : holding.perform call = some next) :
    holding.objects ++ openedObjects [call] = closedObjects [call] ++ next.objects := by
  rcases perform_cases performed with ⟨descriptor, rfl, nothing, _, owned⟩ |
    ⟨name, descriptor, rfl, _, rfl⟩ | ⟨descriptor, rfl, ⟨rfl, _⟩, rfl⟩
  · simp [objects, nothing, owned, openedObjects, closedObjects]
  · simp [openedObjects, closedObjects]
  · cases owned : holding.owned <;>
      simp [objects, release, owned, openedObjects, closedObjects]

/-- **The ledger.** -/
theorem performs_account (performed : holding.performs calls = some next) :
    holding.objects ++ openedObjects calls = closedObjects calls ++ next.objects := by
  induction calls generalizing holding with
  | nil =>
      cases performed
      exact List.append_nil _
  | cons call calls ih =>
      rw [performs_cons, Option.bind_eq_some_iff] at performed
      obtain ⟨middle, first, rest⟩ := performed
      rw [← List.singleton_append, openedObjects, closedObjects, List.filterMap_append,
        List.filterMap_append, ← openedObjects, ← openedObjects, ← closedObjects, ← closedObjects,
        ← List.append_assoc, perform_account first, List.append_assoc, ih rest, List.append_assoc]

/-- The objects opened are new. -/
theorem performs_fresh (performed : holding.performs calls = some next) :
    ∃ count, openedObjects calls = List.range' holding.descriptors.opened count ∧
      next.descriptors.opened = holding.descriptors.opened + count := by
  induction calls generalizing holding with
  | nil =>
      cases performed
      exact ⟨0, rfl, rfl⟩
  | cons call calls ih =>
      rw [performs_cons, Option.bind_eq_some_iff] at performed
      obtain ⟨middle, first, rest⟩ := performed
      obtain ⟨count, objects, opened⟩ := ih rest
      rcases perform_cases first with ⟨descriptor, rfl, _, free, _⟩ |
        ⟨name, descriptor, rfl, _, rfl⟩ | ⟨descriptor, rfl, _, rfl⟩
      · obtain ⟨_, named, after⟩ := Descriptors.openAt_eq_some free
        rw [after] at objects opened
        refine ⟨count + 1, ?_, opened.trans (Nat.succ_add _ _)⟩
        rw [List.range'_succ, ← objects, named]
        rfl
      · exact ⟨count, objects, opened⟩
      · have same : holding.release.descriptors.opened = holding.descriptors.opened := by
          unfold release
          split <;> rfl
        rw [same] at objects opened
        exact ⟨count, objects, opened⟩

/-! ### Others -/

/-- What the holder and others have in one table. -/
def held (holding : Holding) (others : List Descriptor) : List Descriptor :=
  holding.owned.toList ++ others

theorem perform_custody {others : List Descriptor} {closed : List Nat} {call : HolderCall ν}
    (custody : Custody holding.descriptors (holding.held others) closed)
    (performed : holding.perform call = some next) :
    Custody next.descriptors (next.held others) (closed ++ closedObjects [call]) := by
  rcases perform_cases performed with ⟨descriptor, rfl, nothing, free, owned⟩ |
    ⟨name, descriptor, rfl, _, rfl⟩ | ⟨descriptor, rfl, ⟨rfl, _⟩, rfl⟩
  · rw [held, nothing] at custody
    rw [held, owned]
    exact (List.append_nil closed).symm ▸ custody.opens free
  · exact (List.append_nil closed).symm ▸ custody
  · unfold release
    cases owned : holding.owned with
    | none =>
        simp only [closedObjects, List.filterMap_cons, Option.map_none, List.filterMap_nil,
          List.append_nil]
        exact custody
    | some descriptor =>
        rw [held, owned] at custody
        exact custody.closes

/-- **Calls that can be performed leave alone what others hold.** -/
theorem performs_custody {others : List Descriptor} {closed : List Nat}
    (custody : Custody holding.descriptors (holding.held others) closed)
    (performed : holding.performs calls = some next) :
    Custody next.descriptors (next.held others) (closed ++ closedObjects calls) := by
  induction calls generalizing holding closed with
  | nil =>
      cases performed
      exact (List.append_nil closed).symm ▸ custody
  | cons call calls ih =>
      rw [performs_cons, Option.bind_eq_some_iff] at performed
      obtain ⟨middle, first, rest⟩ := performed
      have later := ih (perform_custody custody first) rest
      rwa [List.append_assoc, closedObjects, closedObjects, ← List.filterMap_append] at later

theorem sound_of_custody {others : List Descriptor} {closed : List Nat}
    (custody : Custody holding.descriptors (holding.held others) closed) :
    holding.Sound holding.owned := by
  refine ⟨rfl, fun one member => custody.reaches one (List.mem_append_left _ ?_)⟩
  rw [Option.mem_def.mp member]
  exact List.mem_singleton_self one

end Holding

end ExodusOps
