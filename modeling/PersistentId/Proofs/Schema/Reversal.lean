import Mathlib
import PersistentId.Schema.Catalog

/-!
# PersistentId.Proofs.Schema.Reversal

**Migrations are reversible**: a revision can be run and taken back any number of times.

There are two catalogs in all: the one behind an `upgrade` and the one behind a `downgrade`, which
is that of a new database. Run in one direction, the revision leads from one to the other, and fails
where it has just been (`Catalog.run_changes`). So of the directions so far only the last one
matters, and a new database is one that was just downgraded.
-/

namespace PersistentId

namespace Direction

/-- Whether directions take turns, beginning with an upgrade. -/
structure Alternates (run : List Direction) : Prop where
  first : ∀ d ∈ run.head?, d = upgrade
  turns : run.IsChain (· ≠ ·)

/-- Taking turns from an upgrade on is taking turns behind a downgrade. -/
theorem alternates_iff {run : List Direction} :
    Alternates run ↔ (downgrade :: run).IsChain (· ≠ ·) := by
  have hfirst (d : Direction) : downgrade ≠ d ↔ d = upgrade := by cases d <;> decide
  simp only [List.isChain_cons, hfirst]
  exact ⟨fun h => ⟨h.first, h.turns⟩, fun h => ⟨h.1, h.2⟩⟩

end Direction

namespace Catalog

/-- The catalog behind a revision that was run in one direction. -/
def behind : Direction → Catalog
  | .upgrade => current
  | .downgrade => empty

/-- Run in the same direction again, the revision fails. -/
theorem run_changes_again (d : Direction) : (behind d).run (Migration.changes d) = none := by
  cases d <;> decide +kernel

/-- The revision leads from one direction to the other, and nowhere else. -/
theorem run_changes {d e : Direction} {c : Catalog} :
    (behind d).run (Migration.changes e) = some c ↔ d ≠ e ∧ c = behind e := by
  cases d <;> cases e
  case upgrade.downgrade => simp [behind, run_downgrade, eq_comm]
  case downgrade.upgrade => simp [behind, run_upgrade, eq_comm]
  all_goals simp [run_changes_again]

/-- The directions in front of the last one leave no trace. -/
theorem run_flatMap_changes {d : Direction} {run : List Direction} {c : Catalog} :
    (behind d).run (run.flatMap Migration.changes) = some c ↔
      (d :: run).IsChain (· ≠ ·) ∧ c = behind (run.getLastD d) := by
  induction run generalizing d with
  | nil =>
      simp only [List.flatMap_nil, List.isChain_singleton, true_and, List.getLastD_nil]
      exact Option.some_inj.trans eq_comm
  | cons e run ih =>
      rw [List.flatMap_cons, run_append, Option.bind_eq_some_iff, List.isChain_cons_cons,
        List.getLastD_cons, and_assoc, ← ih]
      constructor
      · rintro ⟨c', hfirst, hrest⟩
        obtain ⟨hne, rfl⟩ := run_changes.1 hfirst
        exact ⟨hne, hrest⟩
      · rintro ⟨hne, hrest⟩
        exact ⟨behind e, run_changes.2 ⟨hne, rfl⟩, hrest⟩

/-- **Migrations are reversible.** Take any list of directions, and run the revision in one after
another, statement by statement, on a new database. No statement is refused exactly when upgrades
and downgrades take turns, beginning with an upgrade. In such a run the database has nothing left
behind every downgrade, and behind every upgrade it has the current schema: the same tables, indexes
and sequences each time, those included that a table brings along. -/
theorem migrations_reversible (run : List Direction) :
    ((empty.run (run.flatMap Migration.changes)).isSome ↔ Direction.Alternates run) ∧
    (Direction.Alternates run → ∀ front d, front ++ [d] <+: run →
      empty.run ((front ++ [d]).flatMap Migration.changes) =
        some (match d with | .upgrade => current | .downgrade => empty)) := by
  have hnew : empty = behind .downgrade := rfl
  rw [Direction.alternates_iff, hnew]
  constructor
  · rw [Option.isSome_iff_exists]
    simp only [run_flatMap_changes, exists_and_left, exists_eq, and_true]
  · intro hturns front d hprefix
    have hlast : (front ++ [d]).getLastD .downgrade = d := List.getLastD_concat
    refine run_flatMap_changes.2 ⟨?_, ?_⟩
    · exact hturns.prefix ((List.prefix_cons_inj _).2 hprefix)
    · rw [hlast]
      cases d <;> rfl

/-- A second round leads to the same catalogs as the first. -/
example :
    empty.run ([.upgrade, .downgrade, .upgrade].flatMap Migration.changes) =
      empty.run (Migration.changes .upgrade) := by
  decide +kernel

end Catalog

end PersistentId
