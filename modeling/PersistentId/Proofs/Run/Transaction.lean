import Mathlib
import PersistentId.Proofs.Run.Effect

/-!
# PersistentId.Proofs.Run.Transaction

Which work of a run stands in the end.

A step can end the transaction of the session in two ways: what was done in it is committed,
or it is taken back, because this was asked for or because the step failed in the store
(`Passage.ending?`). So the work of a step stands unless the first ending from there on takes
it back (`Passage.standing`), and this can be told from steps and answers alone, without a
look at any table.

The table tells the same (`World.handles_run`). As long as rows come from minting, the table
of the session holds the handles of those mints whose work stands, one behind the other as
they were minted.
-/

namespace PersistentId

/-- How a transaction ends. -/
inductive Ending
  /-- What was done in it is committed. -/
  | commit
  /-- What was done in it is taken back. -/
  | rollback
  deriving DecidableEq, Repr

/-- A failure in the store ends the transaction. No other answer does. -/
def Ending.ofResult : Except StepError Answer → Option Ending
  | .error (.store _) => some .rollback
  | _ => none

/-- The records that the session sees where its transaction has ended in a given way. -/
def Database.recordsAfter (db : Database) : Option Ending → RecordTable
  | some .rollback => db.committed.records
  | _ => db.session.records

theorem Database.recordsAfter_of_ne {db : Database} {ending : Option Ending}
    (h : ending ≠ some .rollback) : db.recordsAfter ending = db.session.records := by
  unfold recordsAfter
  split
  · exact absurd rfl h
  · rfl

namespace Passage

/-- How the step ends the transaction of the session, if it does. -/
def ending? (p : Passage) : Option Ending :=
  match p.step with
  | .commit | .http _ _ | .command _ _ => some .commit
  | .rollback => some .rollback
  | _ => Ending.ofResult p.answer.result

/-- The passages whose work stands in the end. The work of a passage is taken back where the first
ending of a transaction, from the passage itself on, is a rollback. -/
def standing : List Passage → List Passage
  | [] => []
  | p :: rest =>
    if (p :: rest).findSome? ending? = some .rollback then standing rest else p :: standing rest

end Passage

namespace World

/-! ### One step -/

/-- What a step does to the records, committed and seen by the session, and how it ends the
transaction of the session. -/
inductive Moves (w : World) (s : Step) : Option Ending → RecordTable → RecordTable → Prop
  | commit (hm : Passage.minted? ⟨w, s⟩ = none) :
      Moves w s (some .commit) w.db.session.records w.db.session.records
  | rollback (hm : Passage.minted? ⟨w, s⟩ = none) :
      Moves w s (some .rollback) w.db.committed.records w.db.committed.records
  | quiet (hm : Passage.minted? ⟨w, s⟩ = none) :
      Moves w s none w.db.committed.records w.db.session.records
  | minted {record : Record} {t : RecordTable} (hm : Passage.Mints ⟨w, s⟩ record)
      (ht : w.db.session.records.insert? record = some t) :
      Moves w s none w.db.committed.records t
  | inserted {record : Record} {t : RecordTable} (hs : s.row? = some record)
      (ht : w.db.session.records.insert? record = some t) :
      Moves w s none w.db.committed.records t

theorem moves_ask {w : World} {s : Step} (hm : Passage.minted? ⟨w, s⟩ = none)
    (o : Outcome RegistryError α) (f : α → Answer) :
    w.Moves s (Ending.ofResult (w.ask o f).2.result) (w.ask o f).1.db.committed.records
      (w.ask o f).1.db.session.records := by
  unfold ask
  split
  · exact .quiet hm
  · exact .quiet hm
  · exact .rollback hm
  · exact .quiet hm

theorem moves_change {w : World} {s : Step} (hm : Passage.minted? ⟨w, s⟩ = none)
    {r : Except StoreError Database} (a : Answer)
    (hr : ∀ db, r = .ok db → w.Moves s none db.committed.records db.session.records) :
    w.Moves s (Ending.ofResult (w.change r a).2.result) (w.change r a).1.db.committed.records
      (w.change r a).1.db.session.records := by
  unfold change
  cases r with
  | ok db => exact hr db rfl
  | error e => exact .rollback hm

theorem moves_insertRecord {w : World} {s : Step} {record : Record}
    (hm : Passage.minted? ⟨w, s⟩ = none) (hs : s.row? = some record.cut) (a : Answer) :
    let after := w.change (w.db.insertRecord record) a
    w.Moves s (Ending.ofResult after.2.result) after.1.db.committed.records
      after.1.db.session.records := by
  refine moves_change hm a ?_
  intro db hdb
  obtain ⟨-, t, ht, rfl⟩ := Database.insertRecord_eq_ok.1 hdb
  exact .inserted hs ht

theorem moves_createHandle (w : World) (object : Resource) :
    w.Moves (.createHandle object) (Passage.ending? ⟨w, .createHandle object⟩)
      (w.step (.createHandle object)).1.db.committed.records
      (w.step (.createHandle object)).1.db.session.records := by
  obtain ⟨db, o, hends, hstep⟩ := w.step_createHandle object
  have hending : Passage.ending? ⟨w, .createHandle object⟩ =
      Ending.ofResult (({ w with db := db } : World).ask o .text).2.result := by
    rw [← hstep]
    rfl
  have hfailed : ∀ e, (({ w with db := db } : World).ask o .text).2.result = .error e →
      Passage.minted? ⟨w, .createHandle object⟩ = none := by
    intro e he
    simp only [Passage.minted?, Passage.answer, hstep, he]
  rw [hending, hstep]
  cases hends with
  | refused => exact .quiet (hfailed _ rfl)
  | cutOff => exact .rollback (hfailed _ rfl)
  | noText => exact .quiet (hfailed _ rfl)
  | unfit => exact .rollback (hfailed _ rfl)
  | clash => exact .rollback (hfailed _ rfl)
  | stored hm hup hsite ht =>
      refine .minted (mints_of_answer hm hup hsite ?_) ht
      rw [hstep]
      rfl

/-- **Every step** moves the records as it ends the transaction. -/
theorem moves (w : World) (s : Step) :
    w.Moves s (Passage.ending? ⟨w, s⟩) (w.step s).1.db.committed.records
      (w.step s).1.db.session.records := by
  cases s with
  | createHandle object => exact moves_createHandle w object
  | resolveUrl | resolveObject | findHandle | listPrefix => exact moves_ask rfl _ _
  | storeFind | storeFindResource | storeFindPrefix | findItem => exact moves_ask rfl _ _
  | storeAllocate =>
      have hm : Passage.minted? ⟨w, .storeAllocate⟩ = none := rfl
      cases hup : w.db.reachable with
      | false =>
          simp only [Passage.ending?, Passage.answer, step, Database.allocate_of_outage hup]
          exact .rollback hm
      | true =>
          simp only [Passage.ending?, Passage.answer, step, Database.allocate_of_reachable hup]
          exact .quiet hm
  | storeInsert => exact moves_insertRecord rfl rfl _
  | insertRecord => exact moves_insertRecord rfl rfl _
  | addItem id =>
      refine moves_change rfl _ ?_
      intro db hdb
      obtain ⟨-, c, hc, rfl⟩ := Database.change_eq_ok.1 hdb
      split at hc
      · cases hc
      · cases hc
        exact .quiet rfl
  | deleteItem id =>
      refine moves_change rfl _ ?_
      intro db hdb
      obtain ⟨-, c, hc, rfl⟩ := Database.change_eq_ok.1 hdb
      cases hc
      exact .quiet rfl
  | insertWithoutHandle =>
      refine moves_change rfl _ ?_
      intro db hdb
      obtain ⟨-, c, hc, -⟩ := Database.change_eq_ok.1 hdb
      cases hc
  | setSetting name value =>
      have hm : Passage.minted? ⟨w, .setSetting name value⟩ = none := rfl
      simp only [Passage.ending?, Passage.answer, step]
      split
      · exact .quiet hm
      · exact .quiet hm
  | commit | http | command => exact .commit rfl
  | rollback => exact .rollback rfl
  | canonical handle => exact .quiet (s := .canonical handle) rfl
  | setSequence next => exact .quiet (s := .setSequence next) rfl
  | setReachable reachable => exact .quiet (s := .setReachable reachable) rfl
  | rebuild => exact .quiet (s := .rebuild) rfl

/-! ### A whole run -/

/-- Behind a run in which rows come from minting, the table of the session holds the handles
of the mints whose work stands, in the order of these mints. They come behind the handles that
were there before: those of the session, or the committed ones, if the first ending of a
transaction takes the session back. -/
theorem handles_run {w : World} {ss : List Step} (hrows : ∀ s ∈ ss, s.row? = none) :
    (w.run ss).1.db.session.records.rows.map (·.handle) =
      (w.db.recordsAfter ((w.passages ss).findSome? Passage.ending?)).rows.map (·.handle) ++
        (Passage.standing (w.passages ss)).filterMap Passage.minted? := by
  induction ss generalizing w with
  | nil => simp [Passage.standing, Database.recordsAfter]
  | cons s rest ih =>
      have hrow := hrows s List.mem_cons_self
      have hmoves := w.moves s
      rw [run_cons, passages_cons, ih fun t ht => hrows t (List.mem_cons_of_mem _ ht),
        Passage.standing, List.findSome?_cons]
      -- From here on the step matters only by what it does to the records.
      generalize (w.step s).1.passages rest = later
      generalize (w.step s).1.db = db at hmoves ⊢
      generalize Passage.ending? ⟨w, s⟩ = ending at hmoves ⊢
      generalize hc : db.committed.records = committed at hmoves
      generalize hs : db.session.records = session at hmoves
      cases hmoves with
      | commit hm =>
          -- Whatever ends the next transaction, it finds both layers alike.
          have hafter : db.recordsAfter (later.findSome? Passage.ending?) =
              w.db.session.records := by
            unfold Database.recordsAfter
            split <;> assumption
          rw [hafter, if_neg nofun, List.filterMap_cons_none hm]
          rfl
      | rollback hm =>
          have hafter : db.recordsAfter (later.findSome? Passage.ending?) =
              w.db.committed.records := by
            unfold Database.recordsAfter
            split <;> assumption
          rw [hafter, if_pos rfl]
          rfl
      | quiet hm =>
          have hafter : db.recordsAfter (later.findSome? Passage.ending?) =
              w.db.recordsAfter (later.findSome? Passage.ending?) := by
            unfold Database.recordsAfter
            split <;> assumption
          simp only [hafter]
          split
          · rfl
          · rw [List.filterMap_cons_none hm]
      | @minted record t hm ht =>
          obtain ⟨_, _, _, _, -, -, -, -, -, hminted, -⟩ := hm
          dsimp only
          by_cases hundone : later.findSome? Passage.ending? = some .rollback
          · rw [if_pos hundone, hundone]
            simp only [Database.recordsAfter, hc]
          · rw [if_neg hundone, Database.recordsAfter_of_ne hundone,
              Database.recordsAfter_of_ne hundone, List.filterMap_cons_some hminted, hs]
            rw [(RecordTable.insert?_eq_some.1 ht).2.2]
            simp
      | inserted hs =>
          rw [hrow] at hs
          cases hs

end World

end PersistentId
