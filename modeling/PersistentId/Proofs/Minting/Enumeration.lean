import Mathlib
import PersistentId.Proofs.Minting.Distinct
import PersistentId.Proofs.Run.Transaction
import PersistentId.Proofs.Store.Rows

/-!
# PersistentId.Proofs.Minting.Enumeration

Listings recover what was minted.

A listing of the handles that start with a prefix shows handles of other prefixes too, where one
prefix goes on behind the other. But a handle minted under the prefix itself goes on behind it
without a further slash, and no other minted handle does (`Handle.remainder_compose_iff`). So
the handles of one prefix can be picked out of its listing by their text alone.

That they are all there, once each, is a matter of the store: its rows are those of the mints
whose work stands (`World.handles_run`). In which order a listing shows them is not known, as
`select_prefix_handles_stmt` asks for none. So `get_handles_for_prefix` gives back what
`create_handle` gave out, and not when.
-/

namespace PersistentId

/-- The handle that the step minted, where handles began with a given text then. -/
def Passage.mintedUnder? (base : String) (p : Passage) : Option String :=
  match p.before.site.handlePrefix with
  | .text text => if Handle.withTrailingSlash text = base then p.minted? else none
  | .other _ _ => none

/-- While the database is up, a listing shows what the session sees. -/
theorem Registry.handlesWith_of_reachable {db : Database} (hup : db.reachable = true)
    (start : String) :
    handlesWith db (some start) = pure (db.session.records.handlesWith db.scan start) := by
  rw [handlesWith, Database.findHandlesWith, Database.query_of_reachable hup]
  rfl

/-- Of the minted handles, those that go on behind a prefix without a further slash are the ones
minted under it. -/
theorem Passage.mintedUnder?_eq (base : String) (p : Passage) :
    p.mintedUnder? (Handle.withTrailingSlash base) =
      p.minted?.filter fun h => (Handle.withTrailingSlash base).toList <+: h.toList ∧
        '/' ∉ Handle.remainder (Handle.withTrailingSlash base) h := by
  cases hm : p.minted? with
  | none =>
      unfold mintedUnder?
      split
      · rw [hm, ite_self, Option.filter_none]
      · rfl
  | some handle =>
      obtain ⟨text, n, hsite, -, -, rfl⟩ := compose_of_minted? hm
      simp only [mintedUnder?, hsite, hm, Option.filter_some, Handle.remainder_compose_iff,
        decide_eq_true_eq]

namespace World

/-- A new site has an empty store, so the handles of the mints whose work stands are all that
its table holds. -/
theorem handles_run_start {site : Site} {table : Site → ResolverTable} {measured : Bool}
    {scan : Scan} {ss : List Step} (hrows : ∀ s ∈ ss, s.row? = none) :
    ((start site table measured scan).run ss).1.db.session.records.rows.map (·.handle) =
      (Passage.standing ((start site table measured scan).passages ss)).filterMap
        Passage.minted? := by
  have hempty : ∀ ending, (start site table measured scan).db.recordsAfter ending = .empty := by
    intro ending
    unfold Database.recordsAfter
    split <;> rfl
  rw [handles_run hrows, hempty]
  rfl

/-- **Listings recover what was minted.** Behind every run of a new site in which minting alone
writes rows, whatever becomes of the prefix and of the sequence on the way, and in whichever order
listings meet the rows:

* for every prefix, take the listing of the handles that start with the prefix and its slash.
  Those of them that go on without a further slash are, in some order, the handles minted while
  the prefix in force, with its slash, was the same, and not taken back since. No listing shows a
  handle twice;
* a caller who gets a handle adds it, once, to every listing for a text that it starts with,
  where it was not before. All other handles are listed as they were, in some order. -/
theorem listing_recovers_minted (site : Site) (table : Site → ResolverTable) (measured : Bool)
    (scan : Scan) (ss : List Step) (hrows : ∀ s ∈ ss, s.row? = none) :
    let w := ((start site table measured scan).run ss).1
    (w.db.reachable = true → ∀ p, ∃ handles,
      Registry.handlesWith w.db (some (Handle.withTrailingSlash p)) = pure handles ∧
      (handles.filter fun h => '/' ∉ Handle.remainder (Handle.withTrailingSlash p) h).Perm
        ((Passage.standing ((start site table measured scan).passages ss)).filterMap
          (Passage.mintedUnder? (Handle.withTrailingSlash p))) ∧
      handles.Nodup) ∧
    ∀ object handle, (w.step (.createHandle object)).2.result = .ok (.text handle) →
      let w' := (w.step (.createHandle object)).1
      ∀ q, ∃ handles handles',
        Registry.handlesWith w.db (some q) = pure handles ∧ handle ∉ handles ∧
        Registry.handlesWith w'.db (some q) = pure handles' ∧
        handles'.Perm (handles ++ if q.toList <+: handle.toList then [handle] else []) := by
  intro w
  refine ⟨?_, ?_⟩
  · intro hup p
    refine ⟨_, Registry.handlesWith_of_reachable hup _, ?_, RecordTable.nodup_handlesWith _ _ _⟩
    have hlisted := w.db.session.records.handlesWith_perm w.db.scan (Handle.withTrailingSlash p)
    refine (hlisted.filter _).trans (List.Perm.of_eq ?_)
    rw [handles_run_start hrows, List.filter_filter, List.filter_filterMap]
    congr 1
    funext passage
    rw [Passage.mintedUnder?_eq]
    congr 1
    funext h
    rw [Bool.eq_iff_iff]
    simp only [Bool.and_eq_true, decide_eq_true_eq, List.isPrefixOf_iff_prefix, and_comm]
  · intro object handle hanswer w' q
    obtain ⟨text, resolver, id, t, hup, -, rfl, ht, hw⟩ := stored_of_answer hanswer
    have hw' : w'.db = w.db.advance.withRecords t := congrArg World.db hw
    have hup' : w'.db.reachable = true := by
      rw [hw']
      exact hup
    refine ⟨_, _, Registry.handlesWith_of_reachable hup q,
      RecordTable.not_mem_handlesWith_of_insert? ht w.db.scan q,
      Registry.handlesWith_of_reachable hup' q, ?_⟩
    rw [hw', Database.records_withRecords]
    exact RecordTable.handlesWith_of_insert? ht w.db.scan q

/-- Handles of three prefixes that go on behind each other. One handle is taken back by a
rollback, and one by a row that is refused. Of the five that start with the first prefix, three
were minted under it, one of them with the slash written out. The sequence is set by hand once. -/
theorem listing_recovers_minted_across_prefixes :
    let mint (id : Int) := Step.createHandle (.item (some id))
    let site (text : String) := Step.setSetting "handle_prefix" (.text text)
    let ss := [mint 7, .commit, mint 7, .rollback, site "a/", mint 8, site "a/1", mint 7,
      .http "GET" "/", mint 8, .insertWithoutHandle, site "a//", mint 7, site "a",
      .setSequence 20, mint 9]
    let w₀ := start ⟨.text "a", .missing, .missing, false⟩ defaultTable true
    let w := (w₀.run ss).1
    (∀ s ∈ ss, s.row? = none) ∧
    (Passage.standing (w₀.passages ss)).filterMap (Passage.mintedUnder? "a/") =
      ["a/1", "a/3", "a/20"] ∧
    (∃ handles, Registry.handlesWith w.db (some "a/") = pure handles ∧ handles.length = 5 ∧
      (handles.filter fun h => '/' ∉ Handle.remainder "a/" h).Perm ["a/1", "a/3", "a/20"]) ∧
    (w.step (mint 7)).2.result = .ok (.text "a/21") ∧
    ∃ handles handles', Registry.handlesWith w.db (some "a/2") = pure handles ∧
      Registry.handlesWith (w.step (mint 7)).1.db (some "a/2") = pure handles' ∧
      handles'.Perm (handles ++ ["a/21"]) := by
  intro mint site ss w₀ w
  have hrows : ∀ s ∈ ss, s.row? = none := by decide
  have hstanding : (Passage.standing (w₀.passages ss)).filterMap (Passage.mintedUnder? "a/") =
      ["a/1", "a/3", "a/20"] := by decide +kernel
  have hup : w.db.reachable = true := by decide +kernel
  have hanswer : (w.step (.createHandle (.item (some 7)))).2.result = .ok (.text "a/21") :=
    Passage.minted?_createHandle.1 (by decide +kernel)
  have hfive : (w.db.session.records.handlesWith w.db.scan "a/").length = 5 := by decide +kernel
  have hrecovers := listing_recovers_minted ⟨.text "a", .missing, .missing, false⟩ defaultTable
    true .byId ss hrows
  -- What matters of the world is known by now, so its run is not unfolded any more.
  have hw₀ : start ⟨.text "a", .missing, .missing, false⟩ defaultTable true = w₀ := rfl
  have hw : (w₀.run ss).1 = w := rfl
  rw [hw₀, hw] at hrecovers
  clear_value w w₀
  obtain ⟨hlisted, hadded⟩ := hrecovers
  obtain ⟨handles, hhandles, hown, -⟩ := hlisted hup "a"
  obtain ⟨others, others', hothers, -, hothers', hmore⟩ :=
    hadded (.item (some 7)) "a/21" hanswer "a/2"
  have hlength : handles.length = 5 := by
    have hsame := (Registry.handlesWith_of_reachable hup "a/").symm.trans hhandles
    rw [← Except.ok.inj (congrArg Outcome.result hsame)]
    exact hfive
  exact ⟨hrows, hstanding, ⟨handles, hhandles, hlength, hstanding ▸ hown⟩, hanswer,
    others, others', hothers, hothers', hmore⟩

/-- Where a listing meets the rows from behind, it shows what was minted first at its end. -/
theorem listing_from_behind :
    let mint (id : Int) := Step.createHandle (.item (some id))
    let w₀ := start ⟨.text "a", .missing, .missing, false⟩ defaultTable true
      ⟨List.reverse, List.reverse_perm⟩
    let w := (w₀.run [mint 7, mint 8]).1
    (Passage.standing (w₀.passages [mint 7, mint 8])).filterMap (Passage.mintedUnder? "a/") =
      ["a/1", "a/2"] ∧
    Registry.handlesWith w.db (some "a/") = pure ["a/2", "a/1"] ∧
    ["a/2", "a/1"].filter (fun h => '/' ∉ Handle.remainder "a/" h) ≠ ["a/1", "a/2"] :=
  ⟨by decide +kernel, by decide +kernel, by decide +kernel⟩

end World

end PersistentId
