/-
**The latest relevant entry of a history.**

A history is a list, oldest entry first. `lastHit select history` is the latest entry that `select`
accepts, as what `select` makes of it, together with the entries after it. It is computed by adding
entries at the end (`lastHit_concat`), which is how a run grows, and it is what "the last … , and
everything since" means (`lastHit_eq_some_iff`, `lastHit_eq_none_iff`). `lastHit_filterMap` moves
between a history and a partial view of it.
-/

import Mathlib.Data.List.Basic
import Mathlib.Order.Defs.PartialOrder

namespace ExodusOps

section History

variable {τ α : Type}

/-- The latest entry that `select` accepts, and the entries after it. -/
def lastHit (select : τ → Option α) : List τ → Option (α × List τ)
  | [] => none
  | entry :: later =>
      match lastHit select later with
      | some hit => some hit
      | none => (select entry).map fun value => (value, later)

/-- The latest entry that `select` accepts. -/
def latest (select : τ → Option α) (history : List τ) : Option α :=
  (lastHit select history).map Prod.fst

/-- What came after the latest entry that `select` accepts. -/
def sinceLatest (select : τ → Option α) (history : List τ) : List τ :=
  ((lastHit select history).map Prod.snd).getD []

theorem lastHit_of_latest {select : τ → Option α} {history : List τ} {value : α}
    (found : latest select history = some value) :
    lastHit select history = some (value, sinceLatest select history) := by
  obtain ⟨hit, last, rfl⟩ := Option.map_eq_some_iff.mp found
  rw [sinceLatest, last]
  rfl

/-- The latest hit of a history with more after it: there, or where it was. -/
theorem lastHit_append (select : τ → Option α) (earlier later : List τ) :
    lastHit select (earlier ++ later) =
      (lastHit select later).or
        ((lastHit select earlier).map fun hit => (hit.1, hit.2 ++ later)) := by
  induction earlier with
  | nil => simp [lastHit]
  | cons first rest ih =>
      simp only [List.cons_append, lastHit, ih]
      cases lastHit select later with
      | some hit => rfl
      | none => cases lastHit select rest <;> cases select first <;> rfl

/-- **A history grows at its end**: the new entry is the latest hit or comes after it. -/
theorem lastHit_concat (select : τ → Option α) (history : List τ) (entry : τ) :
    lastHit select (history ++ [entry]) =
      match select entry with
      | some value => some (value, [])
      | none => (lastHit select history).map fun hit => (hit.1, hit.2 ++ [entry]) := by
  rw [lastHit_append]
  cases accepted : select entry <;> simp [lastHit, accepted]

theorem lastHit_grows {select : τ → Option α} {history since : List τ} {entry : τ} {value : α}
    (last : lastHit select history = some (value, since)) (other : select entry = none) :
    lastHit select (history ++ [entry]) = some (value, since ++ [entry]) := by
  rw [lastHit_concat, other, last]
  rfl

theorem latest_append (select : τ → Option α) (earlier later : List τ) :
    latest select (earlier ++ later) = (latest select later).or (latest select earlier) := by
  unfold latest
  rw [lastHit_append]
  cases lastHit select later with
  | some hit => rfl
  | none => cases lastHit select earlier <;> rfl

theorem latest_concat (select : τ → Option α) (history : List τ) (entry : τ) :
    latest select (history ++ [entry]) = (select entry).or (latest select history) := by
  rw [latest_append]
  cases accepted : select entry <;> simp [latest, lastHit, accepted]

/-- All hits of a history with one more entry. -/
theorem filterMap_concat (select : τ → Option α) (history : List τ) (entry : τ) :
    (history ++ [entry]).filterMap select = history.filterMap select ++ (select entry).toList := by
  rw [List.filterMap_append, List.filterMap_cons]
  cases select entry <;> rfl

/-- The latest hit is the last of all hits. -/
theorem latest_eq_getLast (select : τ → Option α) (history : List τ) :
    latest select history = (history.filterMap select).getLast? := by
  induction history with
  | nil => rfl
  | cons first rest ih =>
      rw [← List.singleton_append, latest_append, ih, List.filterMap_append, List.getLast?_append]
      cases accepted : select first <;> simp [latest, lastHit, accepted]

/-- What came after the latest hit, one entry later. -/
theorem mem_sinceLatest_concat {select : τ → Option α} {history : List τ} {entry other : τ}
    (member : other ∈ sinceLatest select (history ++ [entry])) :
    select entry = none ∧ (other ∈ sinceLatest select history ∨ other = entry) := by
  rw [sinceLatest, lastHit_concat] at member
  cases accepted : select entry with
  | some value => simp [accepted] at member
  | none =>
      refine ⟨rfl, ?_⟩
      rw [sinceLatest]
      cases hit : lastHit select history with
      | none => simp [accepted, hit] at member
      | some _ => simpa [accepted, hit] using member

/-- No hit: no entry is accepted. -/
theorem lastHit_eq_none_iff (select : τ → Option α) (history : List τ) :
    lastHit select history = none ↔ ∀ entry ∈ history, select entry = none := by
  induction history with
  | nil => simp [lastHit]
  | cons first later ih =>
      simp only [lastHit, List.forall_mem_cons]
      cases found : lastHit select later with
      | some hit => simp [← ih, found]
      | none =>
          rw [Option.map_eq_none_iff]
          exact ⟨fun none => ⟨none, ih.mp found⟩, And.left⟩

/-- **The latest hit** splits the history at an accepted entry with no accepted one after it. -/
theorem lastHit_eq_some_iff (select : τ → Option α) (history : List τ) (value : α)
    (later : List τ) :
    lastHit select history = some (value, later) ↔
      ∃ earlier entry, history = earlier ++ entry :: later ∧ select entry = some value ∧
        ∀ other ∈ later, select other = none := by
  induction history with
  | nil => simp [lastHit]
  | cons first rest ih =>
      simp only [lastHit]
      cases found : lastHit select rest with
      | some hit =>
          rw [found] at ih
          refine ih.trans ⟨?_, ?_⟩
          · rintro ⟨earlier, entry, rfl, accepted, quiet⟩
            exact ⟨first :: earlier, entry, rfl, accepted, quiet⟩
          · rintro ⟨earlier, entry, split, accepted, quiet⟩
            cases earlier with
            | nil =>
                obtain ⟨rfl, rfl⟩ := List.cons.inj split
                rw [(lastHit_eq_none_iff select rest).mpr quiet] at found
                cases found
            | cons _ earlier => exact ⟨earlier, entry, (List.cons.inj split).2, accepted, quiet⟩
      | none =>
          have none := (lastHit_eq_none_iff select rest).mp found
          simp only [Option.map_eq_some_iff, Prod.mk.injEq]
          constructor
          · rintro ⟨_, accepted, rfl, rfl⟩
            exact ⟨[], first, rfl, accepted, none⟩
          · rintro ⟨earlier, entry, split, accepted, quiet⟩
            cases earlier with
            | nil =>
                obtain ⟨rfl, rfl⟩ := List.cons.inj split
                exact ⟨value, accepted, rfl, rfl⟩
            | cons _ earlier =>
                have member : entry ∈ rest := by
                  rw [(List.cons.inj split).2]
                  simp
                rw [none entry member] at accepted
                cases accepted

theorem exists_of_latest {select : τ → Option α} {history : List τ} {value : α}
    (found : latest select history = some value) :
    ∃ entry ∈ history, select entry = some value := by
  obtain ⟨earlier, entry, split, accepted, _⟩ :=
    (lastHit_eq_some_iff select history value _).mp (lastHit_of_latest found)
  exact ⟨entry, by rw [split]; simp, accepted⟩

/-- In a history ordered by time, what is not after an entry is not later than it. -/
theorem le_of_not_after {β : Type} [Preorder β] {time : τ → β} {earlier later : List τ} {entry : τ}
    (ordered : (earlier ++ entry :: later).Pairwise fun first second => time first ≤ time second)
    {other : τ} (member : other ∈ earlier ++ entry :: later) (before : other ∉ later) :
    time other ≤ time entry := by
  rcases List.mem_append.mp member with inside | inside
  · exact (List.pairwise_append.mp ordered).2.2 other inside entry List.mem_cons_self
  · rcases List.mem_cons.mp inside with rfl | after
    · exact le_refl _
    · exact absurd after before

/-- Selections that agree along a history have the same latest hit. -/
theorem lastHit_congr {first second : τ → Option α} {history : List τ}
    (same : ∀ entry ∈ history, first entry = second entry) :
    lastHit first history = lastHit second history := by
  induction history with
  | nil => rfl
  | cons entry later ih =>
      simp only [lastHit, ih fun other member => same other (List.mem_cons_of_mem _ member),
        same entry List.mem_cons_self]

theorem lastHit_map {β : Type} (select : τ → Option α) (view : α → β) (history : List τ) :
    lastHit (fun entry => (select entry).map view) history =
      (lastHit select history).map fun hit => (view hit.1, hit.2) := by
  induction history with
  | nil => rfl
  | cons entry later ih =>
      simp only [lastHit, ih]
      cases lastHit select later <;> cases select entry <;> rfl

/-- **A history seen through a partial view**: the latest hit of the view is the view of the latest
hit. -/
theorem lastHit_filterMap {β : Type} (view : τ → Option β) (select : β → Option α)
    (history : List τ) :
    lastHit select (history.filterMap view) =
      (lastHit (fun entry => (view entry).bind select) history).map fun hit =>
        (hit.1, hit.2.filterMap view) := by
  induction history with
  | nil => rfl
  | cons entry later ih =>
      cases seen : view entry with
      | none =>
          rw [List.filterMap_cons_none seen, ih, lastHit, seen, Option.bind_none]
          cases lastHit (fun entry => (view entry).bind select) later <;> rfl
      | some visible =>
          rw [List.filterMap_cons_some seen, lastHit, ih, lastHit, seen, Option.bind_some]
          cases lastHit (fun entry => (view entry).bind select) later <;>
            cases select visible <;> rfl

end History

end ExodusOps
