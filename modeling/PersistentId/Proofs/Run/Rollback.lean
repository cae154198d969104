import Mathlib
import PersistentId.Proofs.Minting.Distinct
import PersistentId.Proofs.Run.View

/-!
# PersistentId.Proofs.Run.Rollback

**A rollback erases everything but the sequence.**

Work on a transaction changes the session and the sequence and nothing else of a world
(`World.Within`), whether its steps succeed or fail: no step commits on its own, and a step
that fails takes the session back by itself. So a rollback at the end leaves the world as it
was, but for the values that `allocate_id` drew. How many these are can be told from the steps alone
(`World.draws`), since neither settings nor registry change on the way.

Where the sequence stands shows in no answer but those of minting and of drawing a value.
All other steps answer behind such a rollback as they would have before the work.
-/

namespace PersistentId

/-! ### Work on a transaction -/

/-- Whether a step belongs to the work on a transaction: it asks the registry or the store,
or writes rows or items. What commits does not belong to it, nor what sets the sequence, a
setting, the registry or the reach of the database by hand. -/
def Step.isWork : Step → Bool
  | .commit | .http _ _ | .command _ _ => false
  | .setSequence _ | .setReachable _ | .setSetting _ _ | .rebuild => false
  | _ => true

theorem Step.commits_of_isWork {s : Step} (h : s.isWork = true) : s.commits = false := by
  cases s <;> first | rfl | cases h

theorem Step.setsSequence_of_isWork {s : Step} (h : s.isWork = true) :
    s.setsSequence = false := by
  cases s <;> first | rfl | cases h

namespace World

/-- All that work on a transaction leaves alone is the same in two worlds. -/
structure Within (w v : World) : Prop where
  site : v.site = w.site
  table : v.table = w.table
  registry : v.registry = w.registry
  committed : v.db.committed = w.db.committed
  reachable : v.db.reachable = w.db.reachable
  scan : v.db.scan = w.db.scan

theorem Within.refl (w : World) : w.Within w := ⟨rfl, rfl, rfl, rfl, rfl, rfl⟩

theorem Within.trans {u v w : World} (h : w.Within v) (h' : v.Within u) : w.Within u :=
  ⟨h'.site.trans h.site, h'.table.trans h.table, h'.registry.trans h.registry,
    h'.committed.trans h.committed, h'.reachable.trans h.reachable, h'.scan.trans h.scan⟩

/-- No step of the work commits anything, or cuts the database off. -/
theorem committed_of_isWork {w : World} {s : Step} (h : s.isWork = true) :
    (w.step s).1.db.committed = w.db.committed ∧ (w.step s).1.db.reachable = w.db.reachable := by
  have heffect := w.effect s
  generalize (w.step s).1.db = db at heffect ⊢
  cases heffect with
  | kept hs =>
      rw [Step.commits_of_isWork h] at hs
      cases hs
  | sequenceSet => cases h
  | reachableSet => cases h
  | _ => exact ⟨rfl, rfl⟩

/-- Every step of the work stays within the transaction. -/
theorem within_step {w : World} {s : Step} (h : s.isWork = true) : w.Within (w.step s).1 := by
  obtain ⟨hcommitted, hreachable⟩ := committed_of_isWork (w := w) h
  have hscan := w.scan_step s
  rcases w.frame s with ⟨db, hframe⟩ | ⟨name, value, site, rfl, -, -⟩ | ⟨rfl, -⟩
  · rw [hframe] at hcommitted hreachable hscan ⊢
    exact ⟨rfl, rfl, rfl, hcommitted, hreachable, hscan⟩
  · cases h
  · cases h

theorem within_run {w : World} {body : List Step} (h : ∀ s ∈ body, s.isWork = true) :
    w.Within (w.run body).1 :=
  run_keeps (motive := fun v => w.Within v)
    (fun s hs _ hv => hv.trans (within_step (h s hs))) (Within.refl w)

/-! ### The values drawn -/

/-- Whether a step takes a value from the sequence while the database is up: it asks for one,
or it mints with a prefix, for an object that somebody recognises. -/
def draws (w : World) : Step → Bool
  | .storeAllocate => true
  | .createHandle object =>
    !w.site.handlePrefix.isEmpty && (w.registry.table.identify? object).isSome
  | _ => false

theorem draws_of_within {w v : World} (h : w.Within v) : v.draws = w.draws := by
  funext s
  cases s <;> simp only [draws, h.site, h.registry]

/-- Minting draws a value as soon as its own checks have passed. -/
theorem draws_createHandle {w : World} {object : Resource} :
    w.draws (.createHandle object) = true ↔
      ∃ found, w.registry.mintable w.site.handlePrefix object = .ok found := by
  simp only [draws, Registry.mintable_eq_ok, Bool.and_eq_true, Bool.not_eq_true',
    Option.isSome_iff_exists, exists_and_left]

theorem drawn?_of_reachable {w : World} (hup : w.db.reachable = true) (s : Step) :
    w.drawn? s = if w.draws s then some w.db.sequence else none := by
  cases s with
  | storeAllocate => exact Database.next?_of_reachable hup
  | createHandle object =>
      cases hm : w.registry.mintable w.site.handlePrefix object with
      | ok found =>
          rw [if_pos (draws_createHandle.2 ⟨found, hm⟩), drawn?_createHandle hm,
            Database.next?_of_reachable hup]
      | error e =>
          rw [if_neg]
          · simp only [drawn?, hm]
          · intro hdraws
            obtain ⟨found, hfound⟩ := draws_createHandle.1 hdraws
            rw [hm] at hfound
            cases hfound
  | _ => rfl

/-- The work draws as many values as it has steps that draw one, whatever becomes of them. -/
theorem length_drawn {w : World} (hup : w.db.reachable = true) {body : List Step}
    (h : ∀ s ∈ body, s.isWork = true) : (w.drawn body).length = body.countP w.draws := by
  induction body generalizing w with
  | nil => rfl
  | cons s rest ih =>
      have hwithin := within_step (w := w) (h s List.mem_cons_self)
      have hrest := ih (hwithin.reachable.trans hup) fun t ht => h t (List.mem_cons_of_mem _ ht)
      rw [draws_of_within hwithin] at hrest
      rw [drawn_cons, List.length_append, hrest, drawn?_of_reachable hup, List.countP_cons]
      split <;> simp [Nat.add_comm]

end World

/-! ### Where the sequence stands -/

/-- Whether the answer of a step can depend on where the sequence stands. -/
def Step.readsSequence : Step → Bool
  | .createHandle _ => true
  | .storeAllocate => true
  | _ => false

/-- The database with its sequence elsewhere. -/
def Database.withSequence (db : Database) (n : Int) : Database := { db with sequence := n }

theorem Database.change_withSequence (db : Database) (n : Int)
    (write : Contents → Except StoreError Contents) :
    (db.withSequence n).change write = (db.change write).map (·.withSequence n) := by
  unfold change
  cases hup : db.reachable with
  | false => simp [withSequence, hup, Except.map]
  | true => cases hw : write db.session <;> simp [withSequence, hup, hw, Except.map]

namespace World

/-- The world with its sequence elsewhere. -/
def withSequence (w : World) (n : Int) : World := { w with db := w.db.withSequence n }

theorem sameView_withSequence (w : World) (n : Int) : (w.withSequence n).db.SameView w.db :=
  ⟨rfl, rfl, rfl⟩

theorem ask_withSequence (w : World) (n : Int) {o o' : Outcome RegistryError α} (ho : o = o')
    (f : α → Answer) :
    (w.withSequence n).ask o f = ((w.ask o' f).1.withSequence n, (w.ask o' f).2) := by
  rw [ho]
  unfold ask
  split <;> rfl

theorem change_withSequence (w : World) (n : Int)
    (write : Contents → Except StoreError Contents) (a : Answer) :
    (w.withSequence n).change ((w.withSequence n).db.change write) a =
      ((w.change (w.db.change write) a).1.withSequence n, (w.change (w.db.change write) a).2) := by
  have hdb : (w.withSequence n).db.change write = (w.db.change write).map (·.withSequence n) :=
    Database.change_withSequence w.db n write
  rw [hdb]
  unfold change
  cases w.db.change write <;> rfl

/-- A step that does not read the sequence goes the same way wherever the sequence stands. -/
theorem step_withSequence (w : World) (n : Int) {s : Step} (h : s.readsSequence = false) :
    ∃ m, (w.withSequence n).step s = ((w.step s).1.withSequence m, (w.step s).2) := by
  have hview := w.sameView_withSequence n
  cases s with
  | createHandle | storeAllocate => cases h
  | resolveUrl handle => exact ⟨n, ask_withSequence w n (hview.resolveUrl _ _) _⟩
  | resolveObject handle => exact ⟨n, ask_withSequence w n (hview.resolveObject _ _) _⟩
  | findHandle object => exact ⟨n, ask_withSequence w n (hview.findHandle _ _) _⟩
  | listPrefix start => exact ⟨n, ask_withSequence w n (hview.handlesWith _) _⟩
  | storeFind handle => exact ⟨n, ask_withSequence w n rfl _⟩
  | storeFindResource type resource => exact ⟨n, ask_withSequence w n rfl _⟩
  | storeFindPrefix start => exact ⟨n, ask_withSequence w n rfl _⟩
  | findItem id => exact ⟨n, ask_withSequence w n rfl _⟩
  | storeInsert id handle type resource => exact ⟨n, change_withSequence w n _ _⟩
  | insertRecord record => exact ⟨n, change_withSequence w n _ _⟩
  | insertWithoutHandle => exact ⟨n, change_withSequence w n _ _⟩
  | addItem id => exact ⟨n, change_withSequence w n _ _⟩
  | deleteItem id => exact ⟨n, change_withSequence w n _ _⟩
  | canonical | commit | rollback | setReachable | rebuild => exact ⟨n, rfl⟩
  | setSequence next => exact ⟨next, rfl⟩
  | setSetting name value =>
      refine ⟨n, ?_⟩
      have hset : (w.withSequence n).site.set? name value = w.site.set? name value := rfl
      simp only [step, hset]
      split <;> rfl
  | http method target =>
      have hcommit : (w.withSequence n).db.commit.SameView w.db.commit := ⟨rfl, rfl, rfl⟩
      refine ⟨n, ?_⟩
      dsimp only [step]
      exact congrArg (Prod.mk _) (hcommit.request w method target)
  | command arguments environment =>
      have hcommit : (w.withSequence n).db.commit.SameView w.db.commit := ⟨rfl, rfl, rfl⟩
      refine ⟨n, ?_⟩
      simp only [step, hcommit.runCommand]
      rfl

/-- The same for a run, as far as its answers go. -/
theorem answers_withSequence (w : World) (n : Int) {ss : List Step}
    (h : ∀ s ∈ ss, s.readsSequence = false) : ((w.withSequence n).run ss).2 = (w.run ss).2 := by
  induction ss generalizing w n with
  | nil => rfl
  | cons s rest ih =>
      obtain ⟨m, hstep⟩ := w.step_withSequence n (h s List.mem_cons_self)
      rw [run_cons, run_cons, hstep, ih _ m fun t ht => h t (List.mem_cons_of_mem _ ht)]

/-! ### The rollback -/

/-- What a rollback makes of a world that is within a transaction of a clean one: the clean one,
but for the sequence. -/
theorem Within.rollback {w v : World} (h : w.Within v) (hclean : w.db.session = w.db.committed) :
    (v.step .rollback).1 = w.withSequence v.db.sequence := by
  obtain ⟨site, table, registry, db⟩ := v
  obtain ⟨hsite, htable, hregistry, hcommitted, hreachable, hscan⟩ := h
  dsimp only at hsite htable hregistry hcommitted hreachable hscan
  subst hsite htable hregistry
  simp only [step, done, withSequence, Database.withSequence, Database.rollback, hcommitted,
    hreachable, hscan, hclean]

/-- **A rollback erases everything but the sequence.** Let nothing be uncommitted, and let the
database be up. Behind any work on a transaction, whichever of its steps succeed or fail, and a
rollback:

* the world is the same as before, but for its sequence. This has moved on by as many values as
  steps of the work drew one: those that asked for a value, and those that minted with a prefix
  for an object that somebody recognises, also where the record could not be stored;
* every run of steps that do not read the sequence is answered as it would have been before. All
  look-ups are such steps: resolving, finding and listing handles, finding items. -/
theorem rollback_erases {w : World} (hclean : w.db.session = w.db.committed)
    (hup : w.db.reachable = true) {body : List Step} (hbody : ∀ s ∈ body, s.isWork = true) :
    let w' := (w.run (body ++ [.rollback])).1
    w' = w.withSequence (w.db.sequence + body.countP w.draws) ∧
    (w.drawn body).length = body.countP w.draws ∧
    ∀ later, (∀ s ∈ later, s.readsSequence = false) → (w'.run later).2 = (w.run later).2 := by
  intro w'
  have hsequence : (w.run body).1.db.sequence = w.db.sequence + body.countP w.draws := by
    rw [sequence_run fun s hs => Step.setsSequence_of_isWork (hbody s hs), length_drawn hup hbody]
  have hw' : w' = w.withSequence (w.db.sequence + body.countP w.draws) := by
    calc w' = ((w.run body).1.step .rollback).1 := by
          simp only [w', run_append, run_cons, run_nil]
      _ = w.withSequence (w.run body).1.db.sequence := (within_run hbody).rollback hclean
      _ = w.withSequence (w.db.sequence + body.countP w.draws) := by rw [hsequence]
  refine ⟨hw', length_drawn hup hbody, ?_⟩
  intro later hlater
  rw [hw']
  exact w.answers_withSequence _ hlater

/-- A row in the way of a minted record, which takes the first one back with it, two handles
that are given out, a value that nobody uses, an object that nobody recognises, a deleted item,
and a row that is refused. The four values drawn are gone, and all else is back. -/
theorem rollback_erases_failed_work :
    let w := ((start ⟨.text "10.1", .text "http://a", .missing, false⟩ defaultTable true).run
      [.addItem 7, .createHandle (.item (some 7)), .commit]).1
    let mint := Step.createHandle (.item (some 8))
    let body := [Step.insertRecord ⟨9, "10.1/2", none, none⟩, mint, mint, .deleteItem 7,
      .storeAllocate, .createHandle (.plain "str"), .storeInsert 1 "row" .item 5, mint]
    let w' := (w.run (body ++ [.rollback])).1
    let later := [Step.resolveObject (some "10.1/1"), .resolveUrl (some "10.1/3"),
      .findHandle (.item (some 8)), .listPrefix (some ""), .findItem 7]
    w.db.session = w.db.committed ∧ w.db.reachable = true ∧ (∀ s ∈ body, s.isWork = true) ∧
    w.minted body = ["10.1/3", "10.1/5"] ∧ w' = w.withSequence 6 ∧ w.db.sequence = 2 ∧
    w'.db.session.records.rows = [⟨1, "10.1/1", some 2, some 7⟩] ∧
    (∀ s ∈ later, s.readsSequence = false) ∧ (w'.run later).2 = (w.run later).2 := by
  intro w mint body w' later
  have hclean : w.db.session = w.db.committed := rfl
  have hbody : ∀ s ∈ body, s.isWork = true := by decide
  have hlater : ∀ s ∈ later, s.readsSequence = false := by decide
  have herased := rollback_erases hclean rfl hbody
  exact ⟨hclean, rfl, hbody, by decide +kernel, herased.1, by decide +kernel, by decide +kernel,
    hlater, herased.2.2 later hlater⟩

end World

end PersistentId
