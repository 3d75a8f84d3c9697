/-
**Numbers for open objects.**

A descriptor table gives a number to each object a process has open. A closed number is free, and
the next object opened may get it: a holder that closes a number twice, or uses it once it is
closed, then reaches an object that is not its own. A holder knows the number; which object it means
by it (`Descriptor.object`) is there for the proofs.

* `Custody` — **every object has one place**: it is held once or has been closed once, and a number
  that is held still stands for the object its holder means.
* `Custody.opens`, `Custody.closes` — opening and closing keep this, and so does passing a
  descriptor on (`Custody.moves`).
* `flatMap_eraseIdx_perm`, `flatMap_set_perm` — what several threads hold, when one of them moves;
  `countP_set_add` counts them.
-/

import Mathlib.Data.List.Perm.Basic
import Mathlib.Data.List.Nodup
import Mathlib.Logic.Function.Basic

namespace ExodusOps

/-- Which object a number stands for, and how many objects have been opened: they are numbered in
that order. -/
structure Descriptors where
  table : Nat → Option Nat
  opened : Nat

/-- A number, and the object its holder means by it. -/
structure Descriptor where
  fd : Nat
  object : Nat
  deriving DecidableEq, Repr

namespace Descriptors

def empty : Descriptors := ⟨fun _ => none, 0⟩

/-- Open the next object under a number that is free. -/
def openAt (descriptors : Descriptors) (fd : Nat) : Option (Descriptor × Descriptors) :=
  if descriptors.table fd = none then
    some (⟨fd, descriptors.opened⟩,
      ⟨Function.update descriptors.table fd (some descriptors.opened), descriptors.opened + 1⟩)
  else none

/-- **What opening does.** -/
theorem openAt_eq_some {descriptors after : Descriptors} {fd : Nat} {descriptor : Descriptor}
    (opened : descriptors.openAt fd = some (descriptor, after)) :
    descriptors.table fd = none ∧ descriptor = ⟨fd, descriptors.opened⟩ ∧
      after = ⟨Function.update descriptors.table fd (some descriptors.opened),
        descriptors.opened + 1⟩ := by
  unfold openAt at opened
  split_ifs at opened with free
  cases opened
  exact ⟨free, rfl, rfl⟩

def close (descriptors : Descriptors) (fd : Nat) : Descriptors :=
  { descriptors with table := Function.update descriptors.table fd none }

/-- The number stands for the object meant. -/
def Reaches (descriptors : Descriptors) (descriptor : Descriptor) : Prop :=
  descriptors.table descriptor.fd = some descriptor.object

end Descriptors

/-- **Every object opened is held once or closed once**, and what is held is still open. -/
structure Custody (descriptors : Descriptors) (held : List Descriptor) (closed : List Nat) :
    Prop where
  reaches : ∀ descriptor ∈ held, descriptors.Reaches descriptor
  account : (held.map Descriptor.object ++ closed).Perm (List.range descriptors.opened)

namespace Custody

variable {descriptors after : Descriptors} {held : List Descriptor} {closed : List Nat}
  {descriptor : Descriptor}

theorem empty : Custody .empty [] [] := by
  refine ⟨?_, .refl _⟩
  intro descriptor member
  cases member

/-- Passing descriptors on. -/
theorem moves (custody : Custody descriptors held closed) {others : List Descriptor}
    (same : others.Perm held) : Custody descriptors others closed :=
  ⟨fun one member => custody.reaches one (same.mem_iff.mp member),
    ((same.map _).append_right closed).trans custody.account⟩

theorem nodup (custody : Custody descriptors held closed) :
    (held.map Descriptor.object ++ closed).Nodup :=
  custody.account.nodup_iff.mpr List.nodup_range

/-- Nothing is closed twice. -/
theorem nodup_closed (custody : Custody descriptors held closed) : closed.Nodup :=
  custody.nodup.of_append_right

/-- What was opened is held or has been closed. -/
theorem held_or_closed (custody : Custody descriptors held closed) {object : Nat}
    (opened : object < descriptors.opened) :
    object ∈ held.map Descriptor.object ∨ object ∈ closed :=
  List.mem_append.mp (custody.account.mem_iff.mpr (List.mem_range.mpr opened))

/-- **Opening** adds an object under a number nobody holds. -/
theorem opens (custody : Custody descriptors held closed) {fd : Nat}
    (opened : descriptors.openAt fd = some (descriptor, after)) :
    Custody after (descriptor :: held) closed := by
  obtain ⟨free, rfl, rfl⟩ := Descriptors.openAt_eq_some opened
  refine ⟨?_, ?_⟩
  · intro one member
    rcases List.mem_cons.mp member with rfl | old
    · exact Function.update_self ..
    · have reached := custody.reaches one old
      have other : one.fd ≠ fd := by
        rintro rfl
        cases free.symm.trans reached
      exact (Function.update_of_ne other ..).trans reached
  · rw [List.map_cons, List.cons_append, List.range_succ]
    exact (custody.account.cons _).trans (List.perm_append_singleton _ _).symm

/-- **Closing** gives up one object and reaches no other. -/
theorem closes (custody : Custody descriptors (descriptor :: held) closed) :
    Custody (descriptors.close descriptor.fd) held (closed ++ [descriptor.object]) := by
  have distinct := custody.nodup
  rw [List.map_cons, List.cons_append, List.nodup_cons] at distinct
  refine ⟨?_, ?_⟩
  · intro one member
    have reached := custody.reaches one (List.mem_cons_of_mem _ member)
    have other : one.fd ≠ descriptor.fd := by
      intro same
      have mine := custody.reaches descriptor List.mem_cons_self
      rw [Descriptors.Reaches, same] at reached
      refine distinct.1 (List.mem_append_left _ ?_)
      rw [Option.some.inj (mine.symm.trans reached)]
      exact List.mem_map_of_mem member
    exact (Function.update_of_ne other ..).trans reached
  · rw [← List.append_assoc]
    exact (List.perm_append_singleton _ _).trans custody.account

end Custody

/-! ### Several threads -/

section Threads

variable {τ α : Type}

/-- One thread and the others. -/
theorem flatMap_eraseIdx_perm (holds : τ → List α) {threads : List τ} {index : Nat} {thread : τ}
    (found : threads[index]? = some thread) :
    (threads.flatMap holds).Perm (holds thread ++ (threads.eraseIdx index).flatMap holds) := by
  obtain ⟨inside, rfl⟩ := List.getElem?_eq_some_iff.mp found
  exact ((List.getElem_cons_eraseIdx_perm inside).symm.flatMap_right holds)

/-- One thread moves. -/
theorem flatMap_set_perm (holds : τ → List α) {threads : List τ} {index : Nat} {thread : τ}
    (found : threads[index]? = some thread) (moved : τ) :
    ((threads.set index moved).flatMap holds).Perm
      (holds moved ++ (threads.eraseIdx index).flatMap holds) := by
  obtain ⟨inside, _⟩ := List.getElem?_eq_some_iff.mp found
  have here : (threads.set index moved)[index]? = some moved := List.getElem?_set_self inside
  have others := flatMap_eraseIdx_perm holds here
  rwa [List.eraseIdx_set_eq] at others

end Threads

/-- One element of a list is replaced. -/
theorem countP_set_add {α : Type} (counts : α → Bool) {list : List α} {index : Nat} {old : α}
    (found : list[index]? = some old) (new : α) :
    (list.set index new).countP counts + (counts old).toNat =
      list.countP counts + (counts new).toNat := by
  obtain ⟨inside, rfl⟩ := List.getElem?_eq_some_iff.mp found
  have present : counts list[index] = true → 0 < list.countP counts := fun holds =>
    List.countP_pos_iff.mpr ⟨_, List.getElem_mem inside, holds⟩
  rw [List.countP_set inside]
  cases before : counts list[index] with
  | false => cases counts new <;> simp
  | true =>
      have := present before
      cases counts new <;> simp <;> omega

end ExodusOps
