import Mathlib
import PersistentId.Proofs.Minting.Integrity
import PersistentId.Proofs.Minting.Schedule
import PersistentId.Proofs.Store.Rows

/-!
# PersistentId.Proofs.Minting.Interleaving

**Callers who mint at the same time** get what they would get one after another.

One after another means in the order in which they draw. The schedule on which every caller
takes both turns at once, in this order (`Minting.inTurn`), has the order of the draws and
the number of turns in common with the given one, so it comes to the same rows and to the same
progress of everybody (`Minting.Follows.agree`). And on it, a caller's two turns are the minting
of the registry, `create_handle` (`Minting.On.both_turns`), which nobody else is there to
disturb.
-/

namespace PersistentId

/-! ### Callers -/

/-- A caller of the registry, with a prefix and with an object that somebody recognises. -/
structure Caller where
  registry : Registry
  site : String
  object : Resource
  resolver : Resolver
  id : Int
  recognised : registry.table.identify? object = some (resolver, id)
  named : site ≠ ""

/-- What the two statements of a caller are about. -/
def Caller.request (c : Caller) : MintRequest := ⟨c.site, c.resolver.type, c.id⟩

/-- The caller mints, with nobody else at work. -/
def Caller.mint (c : Caller) (db : Database) : Database × Outcome RegistryError String :=
  c.registry.createHandle (.text c.site) db c.object

theorem Caller.mintable (c : Caller) :
    c.registry.mintable (.text c.site) c.object = .ok (c.resolver, c.id) := by
  refine Registry.mintable_eq_ok.2 ⟨?_, c.recognised⟩
  rw [LiveValue.isEmpty_text]
  simpa using c.named

/-- The callers mint one after another: the database behind the last one, and what each of
them got. -/
def oneByOne (caller : Nat → Caller) (db : Database) :
    List Nat → Database × List (Outcome RegistryError String)
  | [] => (db, [])
  | k :: rest =>
    let (next, o) := (caller k).mint db
    let (last, os) := oneByOne caller next rest
    (last, o :: os)

/-- What a caller was told that has come to an end. -/
def MintProgress.answer? : MintProgress → Option (Except RegistryError String)
  | .stored handle => some (.ok handle)
  | .refused e => some (.error (.store e))
  | _ => none

namespace Minting

/-- What the verdict on a value tells the caller. -/
theorem answer?_verdict (request : MintRequest) (n : Int) :
    (verdict request n).answer? = some (if (request.record n).Fits then
      .ok (Handle.compose request.site n) else .error (.store .unfit)) := by
  unfold verdict
  split <;> rfl

/-! ### Taking both turns at once -/

/-- The schedule on which every caller takes both turns at once. -/
def inTurn (order : List Nat) : List Nat := order.flatMap fun k => [k, k]

theorem inTurn_cons (k : Nat) (order : List Nat) : inTurn (k :: order) = [k, k] ++ inTurn order :=
  rfl

theorem mem_inTurn {order : List Nat} {k : Nat} : k ∈ inTurn order ↔ k ∈ order := by
  simp [inTurn]

theorem count_inTurn (order : List Nat) (k : Nat) :
    (inTurn order).count k = 2 * order.count k := by
  induction order with
  | nil => rfl
  | cons j rest ih =>
      rw [inTurn_cons, List.count_append, ih, List.count_cons, List.count_cons, List.count_cons,
        List.count_nil]
      split <;> omega

theorem nodup_eraseDups (schedule : List Nat) : schedule.eraseDups.Nodup := by
  induction schedule using List.reverseRecOn with
  | nil => exact List.nodup_nil
  | append_singleton schedule k ih =>
      by_cases hk : k ∈ schedule
      · rwa [eraseDups_concat_of_mem hk]
      · rw [eraseDups_concat_of_notMem hk]
        refine List.Nodup.append ih (List.nodup_singleton k) ?_
        intro j hj hjk
        rw [List.mem_singleton] at hjk
        subst hjk
        exact hk (List.mem_eraseDups.1 hj)

/-- The callers draw in the order in which they take their turns. -/
theorem eraseDups_inTurn {order : List Nat} (h : order.Nodup) :
    (inTurn order).eraseDups = order := by
  induction order using List.reverseRecOn with
  | nil => rfl
  | append_singleton order k ih =>
      have hk : k ∉ order := by
        intro hk
        exact (List.nodup_append.1 h).2.2 k hk k List.mem_cons_self rfl
      have hnew : inTurn (order ++ [k]) = (inTurn order ++ [k]) ++ [k] := by
        simp [inTurn]
      rw [hnew, eraseDups_concat_of_mem (by simp),
        eraseDups_concat_of_notMem (fun h => hk (mem_inTurn.1 h)), ih (List.nodup_append.1 h).1]

/-- The callers work on the table and the sequence of a database that is up. -/
structure On (m : Minting) (db : Database) : Prop where
  reachable : db.reachable = true
  table : m.table = db.session.records
  sequence : m.sequence = db.sequence

/-- Two turns of a caller who waits do what minting does, and tell what minting answers. -/
theorem On.both_turns (caller : Nat → Caller) {m : Minting} {db : Database} (h : m.On db) {k : Nat}
    (hk : m.progress k = .waiting) :
    (m.run (fun k => (caller k).request) [k, k]).On ((caller k).mint db).1 ∧
    ((m.run (fun k => (caller k).request) [k, k]).progress k).answer? =
      some ((caller k).mint db).2.result := by
  rw [run_cons, run_cons, run_nil]
  have hfirst := turn_of_waiting (fun k => (caller k).request) hk
  generalize m.turn (fun k => (caller k).request) k = drawn at hfirst ⊢
  have hdrawn : drawn.progress k = .drawn db.sequence := by
    rw [hfirst, h.sequence]
    exact move_same _ _ _
  have htable : drawn.table = db.session.records := by rw [hfirst, h.table]
  have hsequence : drawn.sequence = db.sequence + 1 := by rw [hfirst, h.sequence]
  have hends := (caller k).registry.createHandle_ends (.text (caller k).site) db (caller k).object
  unfold Caller.mint
  generalize (caller k).registry.createHandle (.text (caller k).site) db (caller k).object = s
    at hends ⊢
  obtain ⟨db', o⟩ := s
  have hmintable := (caller k).mintable
  cases hends with
  | refused hm =>
      rw [hmintable] at hm
      cases hm
  | cutOff _ hdown =>
      rw [h.reachable] at hdown
      cases hdown
  | noText _ _ hsite => cases hsite
  | unfit hm _ hsite hfits =>
      rw [hmintable] at hm
      cases hm
      cases hsite
      rw [turn_of_unfit (fun k => (caller k).request) hdrawn hfits]
      exact ⟨⟨h.reachable, htable, hsequence⟩, congrArg MintProgress.answer? (move_same _ _ _)⟩
  | clash hm _ hsite hfits ht =>
      rw [hmintable] at hm
      cases hm
      cases hsite
      rw [← htable] at ht
      rw [turn_of_clash (fun k => (caller k).request) hdrawn hfits ht]
      exact ⟨⟨h.reachable, htable, hsequence⟩, congrArg MintProgress.answer? (move_same _ _ _)⟩
  | stored hm _ hsite ht =>
      rw [hmintable] at hm
      cases hm
      cases hsite
      rw [← htable] at ht
      rw [turn_of_drawn (fun k => (caller k).request) hdrawn ht]
      exact ⟨⟨h.reachable, rfl, hsequence⟩, congrArg MintProgress.answer? (move_same _ _ _)⟩

/-- Taking both turns at once, the callers mint one after another. -/
theorem On.run_inTurn (caller : Nat → Caller) {order : List Nat} {m : Minting} {db : Database}
    (h : m.On db) (horder : order.Nodup) (hwait : ∀ k ∈ order, m.progress k = .waiting) :
    (m.run (fun k => (caller k).request) (inTurn order)).On (oneByOne caller db order).1 ∧
    (oneByOne caller db order).2.map (fun o => some o.result) =
      order.map fun k =>
        ((m.run (fun k => (caller k).request) (inTurn order)).progress k).answer? := by
  induction order generalizing m db with
  | nil => exact ⟨h, rfl⟩
  | cons k rest ih =>
      obtain ⟨hk, hrest⟩ := List.nodup_cons.1 horder
      obtain ⟨hon, hanswer⟩ := h.both_turns caller (hwait k List.mem_cons_self)
      have hwait' : ∀ j ∈ rest,
          (m.run (fun k => (caller k).request) [k, k]).progress j = .waiting := by
        intro j hj
        have hne : j ≠ k := ne_of_mem_of_not_mem hj hk
        rw [progress_run_of_notMem (by simpa using hne)]
        exact hwait j (List.mem_cons_of_mem _ hj)
      obtain ⟨hlast, hanswers⟩ := ih hon hrest hwait'
      rw [inTurn_cons, run_append, List.map_cons,
        progress_run_of_notMem (fun h => hk (mem_inTurn.1 h)), hanswer, ← hanswers]
      exact ⟨hlast, rfl⟩

/-- **Minting at the same time is minting one after another.** Let callers, each with its own
prefix and object, work on one store that is up and holds nothing but what was minted from
its sequence before. On every schedule that gives each caller its two turns, there is a value for
each caller, drawn by nobody else, with which the following holds.

* The caller's record is stored exactly if it fits its columns, and the caller gets the handle
  composed of its prefix and the value. If the record does not fit, this is why it is refused:
  no row is ever in the way.
* No two callers get the same handle.
* To mint one after another, in the order in which the callers draw on the schedule, gives
  everybody the same answer, and ends with the same rows and the same sequence. -/
theorem interleaving_serializable (caller : Nat → Caller) (db : Database) (schedule : List Nat)
    (hup : db.reachable = true) (hdb : db.session.records.MintedBelow db.sequence)
    (hturns : ∀ k ∈ schedule, schedule.count k = 2) :
    let m := (start db.session.records db.sequence).run (fun k => (caller k).request) schedule
    let last := oneByOne caller db schedule.eraseDups
    ∃ value : Nat → Int,
      (∀ k ∈ schedule, db.sequence ≤ value k ∧ value k < m.sequence) ∧
      (∀ j ∈ schedule, ∀ k ∈ schedule, value j = value k → j = k) ∧
      (∀ k ∈ schedule, ((caller k).request.record (value k)).Fits →
        m.progress k = .stored (Handle.compose (caller k).site (value k)) ∧
        (caller k).request.record (value k) ∈ m.table.rows) ∧
      (∀ k ∈ schedule, ¬((caller k).request.record (value k)).Fits →
        m.progress k = .refused .unfit) ∧
      (∀ j ∈ schedule, ∀ k ∈ schedule, ∀ handle,
        m.progress j = .stored handle → m.progress k = .stored handle → j = k) ∧
      last.2.map (·.result) = schedule.eraseDups.map (fun k =>
        if ((caller k).request.record (value k)).Fits then
          .ok (Handle.compose (caller k).site (value k))
        else .error (.store .unfit)) ∧
      m.table.rows.Perm last.1.session.records.rows ∧ m.sequence = last.1.sequence := by
  intro m last
  have horder := nodup_eraseDups schedule
  have hfollows := follows_run (fun k => (caller k).request) hdb schedule
  have hserial := follows_run (fun k => (caller k).request) hdb (inTurn schedule.eraseDups)
  -- Both schedules give everybody the same number of turns.
  have hcount : ∀ k, schedule.count k = (inTurn schedule.eraseDups).count k := by
    intro k
    rw [count_inTurn]
    by_cases hk : k ∈ schedule
    · rw [hturns k hk, List.count_eq_one_of_mem horder (List.mem_eraseDups.2 hk)]
    · rw [List.count_eq_zero_of_not_mem hk,
        List.count_eq_zero_of_not_mem (fun h => hk (List.mem_eraseDups.1 h))]
  obtain ⟨hrows, hsequence, hprogress⟩ :=
    hfollows.agree hserial (eraseDups_inTurn horder).symm hcount
  have hstart : (start db.session.records db.sequence).On db := ⟨hup, rfl, rfl⟩
  obtain ⟨hon, hanswers⟩ := hstart.run_inTurn caller horder (fun _ _ => rfl)
  have hverdict : ∀ k ∈ schedule,
      m.progress k = verdict (caller k).request (due db.sequence schedule k) := by
    intro k hk
    rw [hfollows.progress k, reached_of_two_le (le_of_eq (hturns k hk).symm)]
  have hhandle : ∀ k ∈ schedule, ∀ handle, m.progress k = .stored handle →
      handle = Handle.compose (caller k).site (due db.sequence schedule k) := by
    intro k hk handle hstored
    rw [hverdict k hk, verdict] at hstored
    split at hstored
    · exact (MintProgress.stored.inj hstored).symm
    · cases hstored
  refine ⟨due db.sequence schedule, ?_, ?_, ?_, ?_, ?_, ?_, ?_, hsequence.trans hon.sequence⟩
  · intro k hk
    have hplace := List.idxOf_lt_length_of_mem (List.mem_eraseDups.2 hk)
    rw [hfollows.sequence, due]
    omega
  · intro j hj k _ heq
    exact due_inj hj heq
  · intro k hk hfits
    refine ⟨by rw [hverdict k hk, verdict, if_pos hfits]; rfl, ?_⟩
    exact (hfollows.rows _).2 (.inr ⟨hfits, k, le_of_eq (hturns k hk).symm, rfl⟩)
  · intro k hk hfits
    rw [hverdict k hk, verdict, if_neg hfits]
  · intro j hj k hk handle hjs hks
    have hsame := (hhandle j hj handle hjs).symm.trans (hhandle k hk handle hks)
    exact due_inj hj (Handle.suffix_of_compose_eq hsame)
  · -- What the callers are told is what they have come to.
    have hsome : last.2.map (fun o => some o.result) =
        schedule.eraseDups.map fun k => some (if ((caller k).request.record
            (due db.sequence schedule k)).Fits then
          .ok (Handle.compose (caller k).site (due db.sequence schedule k))
        else .error (.store .unfit)) := by
      rw [hanswers, ← hprogress]
      refine List.map_congr_left fun k hk => ?_
      rw [hverdict k (List.mem_eraseDups.1 hk)]
      exact answer?_verdict (caller k).request (due db.sequence schedule k)
    refine List.map_injective_iff.2 (Option.some_injective _) ?_
    rw [List.map_map, List.map_map]
    exact hsome
  · rw [← hon.table]
    exact RecordTable.rows_perm hrows

/-- Three callers, one with a prefix that spells the handle already there. The first to draw
is the last to store. -/
theorem interleaving_serializable_across_prefixes :
    let db := ((World.start ⟨.text "10.1", .missing, .missing, false⟩ World.defaultTable true
      .byId).run [.createHandle (.item (some 7)), .commit]).1.db
    let caller (k : Nat) : Caller :=
      ⟨⟨.items .missing, true⟩, if k = 1 then "10.1/1" else "10.1", .item (some k),
        .items .missing, k, rfl, by split <;> decide⟩
    let schedule := [1, 0, 2, 0, 2, 1]
    let m := (start db.session.records db.sequence).run (fun k => (caller k).request) schedule
    let last := oneByOne caller db schedule.eraseDups
    db.reachable = true ∧ (∀ k ∈ schedule, schedule.count k = 2) ∧
    schedule.eraseDups = [1, 0, 2] ∧
    m.table.rows.map (·.handle) = ["10.1/1", "10.1/3", "10.1/4", "10.1/1/2"] ∧
    last.1.session.records.rows.map (·.handle) = ["10.1/1", "10.1/1/2", "10.1/3", "10.1/4"] ∧
    m.table.rows.Perm last.1.session.records.rows := by
  intro db caller schedule m last
  have hturns : ∀ k ∈ schedule, schedule.count k = 2 := by decide
  obtain ⟨value, -, -, -, -, -, -, hperm, -⟩ := interleaving_serializable caller db schedule rfl
    (World.mintedBelow_run (by decide) (by decide)) hturns
  exact ⟨rfl, hturns, by decide, by decide +kernel, by decide +kernel, hperm⟩

/-- A caller with a prefix of three hundred characters is refused, alone on an empty store. -/
theorem interleaving_meets_column_widths :
    ∃ caller : Caller, caller.site = longPrefix ∧
      ((start .empty 1).run (fun _ => caller.request) [0, 0]).progress 0 = .refused .unfit ∧
      ((start .empty 1).run (fun _ => caller.request) [0, 0]).table.rows = [] := by
  let caller : Caller :=
    ⟨⟨.items .missing, true⟩, longPrefix, .item (some 7), .items .missing, 7, rfl,
      longPrefix_ne_empty⟩
  have hdrawn : ((start .empty 1).turn (fun _ => caller.request) 0).progress 0 = .drawn 1 := rfl
  have hunfit := turn_of_unfit (fun _ => caller.request) hdrawn
    (MintRequest.not_fits_longPrefix .item 7 1)
  refine ⟨caller, rfl, ?_⟩
  rw [run_cons, run_cons, run_nil, hunfit]
  exact ⟨rfl, rfl⟩

end Minting

end PersistentId
