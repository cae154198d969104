import Mathlib
import PersistentId.Proofs.Minting.Distinct
import PersistentId.Proofs.Minting.Freshness
import PersistentId.Proofs.Registry.Resolution

/-!
# PersistentId.Proofs.Minting.Integrity

A store that only minting writes to stays in order.

Every row, committed or not, can be followed back to the step that put it there
(`World.origin_of_row`). Where rows are written by minting alone, that step was a caller who
got the row's handle (`Passage.Mints`), so everything that minting promises about a record
holds of every row: its handle is composed of a prefix that was in force and of its id, the
sequence has passed that id, and it has a type and an object. No later rollback and no later
prefix can take this away, because it is a statement about the past.

Two things follow for the present: the next record finds its place if it fits its columns
(`str256` and the two types of integers), and no resolution ever meets a corrupt row.
-/

namespace PersistentId

/-- Whether a row is in the database: committed, or seen by the session. -/
def Database.Holds (db : Database) (r : Record) : Prop :=
  r ∈ db.committed.records.rows ∨ r ∈ db.session.records.rows

namespace World

/-! ### Where rows come from -/

/-- A step adds one row at most: one that it minted, or one that it wrote by hand. -/
theorem origin_of_row_step {w : World} {s : Step} {r : Record} (h : (w.step s).1.db.Holds r) :
    w.db.Holds r ∨ s.row? = some r ∨ Passage.Mints ⟨w, s⟩ r := by
  have heffect := w.effect s
  unfold Database.Holds at h ⊢
  generalize (w.step s).1.db = db at heffect h
  cases heffect with
  | none => exact .inl h
  | undone => exact .inl (.inl (or_self_iff.1 h))
  | kept => exact .inl (.inr (or_self_iff.1 h))
  | sequenceSet => exact .inl h
  | reachableSet => exact .inl h
  | drawn => exact .inl h
  | drawnUndone => exact .inl (.inl (or_self_iff.1 h))
  | minted hm _ ht =>
      rcases h with h | h
      · exact .inl (.inl h)
      · rcases (RecordTable.mem_rows_of_insert? ht).1 h with rfl | h
        · exact .inr (.inr hm)
        · exact .inl (.inr h)
  | inserted hs _ ht =>
      rcases h with h | h
      · exact .inl (.inl h)
      · rcases (RecordTable.mem_rows_of_insert? ht).1 h with rfl | h
        · exact .inr (.inl hs)
        · exact .inl (.inr h)
  | itemsChanged => exact .inl h

/-- Every row behind a run was there before it, or a step of the run put it there. -/
theorem origin_of_row {w : World} {ss : List Step} {r : Record} (h : (w.run ss).1.db.Holds r) :
    w.db.Holds r ∨ ∃ p ∈ w.passages ss, p.step.row? = some r ∨ p.Mints r := by
  induction ss generalizing w with
  | nil => exact .inl h
  | cons s rest ih =>
      rw [run_cons] at h
      rcases ih h with h | ⟨p, hp, horigin⟩
      · rcases origin_of_row_step h with h | horigin
        · exact .inl h
        · exact .inr ⟨⟨w, s⟩, List.mem_cons_self, horigin⟩
      · exact .inr ⟨p, List.mem_cons_of_mem _ hp, horigin⟩

/-- Where rows are written by minting alone, a row was there before the run, or the run has
minted it. -/
theorem held_or_minted {w : World} {ss : List Step} (hrows : ∀ s ∈ ss, s.row? = none) {r : Record}
    (h : (w.run ss).1.db.Holds r) : w.db.Holds r ∨ ∃ p ∈ w.passages ss, p.Mints r := by
  rcases origin_of_row h with hold | ⟨p, hp, hwritten | hm⟩
  · exact .inl hold
  · rw [hrows p.step (step_of_mem_passages hp)] at hwritten
    cases hwritten
  · exact .inr ⟨p, hp, hm⟩

/-- So a new site has minted every row it holds. -/
theorem minted_of_row {site : Site} {table : Site → ResolverTable} {measured : Bool} {scan : Scan}
    {ss : List Step} (hrows : ∀ s ∈ ss, s.row? = none) {r : Record}
    (h : ((start site table measured scan).run ss).1.db.Holds r) :
    ∃ p ∈ (start site table measured scan).passages ss, p.Mints r := by
  rcases held_or_minted hrows h with (h | h) | hm
  · cases h
  · cases h
  · exact hm

/-- The sequence has passed every value that was drawn along a run. -/
theorem lt_of_drawn? {w : World} {ss : List Step} (h : ∀ s ∈ ss, s.setsSequence = false)
    {p : Passage} (hp : p ∈ w.passages ss) {n : Int} (hn : p.drawn? = some n) :
    n < (w.run ss).1.db.sequence := by
  induction ss generalizing w with
  | nil => cases hp
  | cons s rest ih =>
      have hrest : ∀ t ∈ rest, t.setsSequence = false :=
        fun t ht => h t (List.mem_cons_of_mem _ ht)
      rw [run_cons]
      rcases List.mem_cons.1 hp with rfl | hp
      · have hd : w.drawn? s = some n := hn
        rw [sequence_run hrest, sequence_step (h s List.mem_cons_self), hd,
          (sequence_of_drawn? hd).2]
        simp only [Option.toList_some, List.length_singleton]
        omega
      · exact ih hrest hp

/-- A new site on which rows are written by minting alone has a table as minting leaves it. -/
theorem mintedBelow_run {site : Site} {table : Site → ResolverTable} {measured : Bool}
    {scan : Scan} {ss : List Step} (hrows : ∀ s ∈ ss, s.row? = none)
    (hseq : ∀ s ∈ ss, s.setsSequence = false) :
    ((start site table measured scan).run ss).1.db.session.records.MintedBelow
      ((start site table measured scan).run ss).1.db.sequence where
  composed := by
    intro r hr
    obtain ⟨p, -, object, text, resolver, id, -, -, -, -, -, -, hrecord⟩ :=
      minted_of_row hrows (.inr hr)
    refine ⟨text, ?_⟩
    rw [hrecord]
    rfl
  below := by
    intro r hr
    obtain ⟨p, hp, object, text, resolver, id, -, -, -, -, hd, -, -⟩ :=
      minted_of_row hrows (.inr hr)
    exact lt_of_drawn? hseq hp hd

end World

/-! ### The types of resolvers -/

/-- The types that the resolvers of a table put on records. -/
def ResolverTable.types (t : ResolverTable) : List ResourceType :=
  t.entries.map (·.resolver.type)

/-- Who recognises an object is in the table. -/
theorem ResolverTable.type_mem_of_identify? {t : ResolverTable} {object : Resource}
    {resolver : Resolver} {id : Int} (h : t.identify? object = some (resolver, id)) :
    resolver.type ∈ t.types := by
  obtain ⟨e, hfirst, rfl⟩ := identify?_eq_some.1 h
  exact List.mem_map_of_mem hfirst.mem

namespace World

/-- The table of the registry is at all times one that was built from some settings. -/
def BuiltFrom (table : Site → ResolverTable) (w : World) : Prop :=
  w.table = table ∧ ∃ site, w.registry.table = table site

theorem builtFrom_start (site : Site) (table : Site → ResolverTable) (measured : Bool)
    (scan : Scan) : (start site table measured scan).BuiltFrom table := ⟨rfl, site, rfl⟩

theorem builtFrom_step {table : Site → ResolverTable} (s : Step) (w : World)
    (h : w.BuiltFrom table) : (w.step s).1.BuiltFrom table := by
  obtain ⟨htable, site, hsite⟩ := h
  obtain ⟨hkeep, -, hsame | hnew⟩ := w.registry_step s
  · exact ⟨hkeep.trans htable, site, hsame.trans hsite⟩
  · exact ⟨hkeep.trans htable, w.site, hnew.trans (by rw [htable])⟩

/-! ### The next record -/

/-- A caller with a prefix and an object that somebody recognises gets a handle, wherever the
table is one that minting has left, if the record fits its columns. If not, this is what the
caller is told. -/
theorem answer_createHandle {w : World} {object : Resource} {text : String}
    {resolver : Resolver} {id : Int} (hup : w.db.reachable = true)
    (hsite : w.site.handlePrefix = .text text) (htext : text ≠ "")
    (hfound : w.registry.table.identify? object = some (resolver, id))
    (hminted : w.db.session.records.MintedBelow w.db.sequence) :
    (w.step (.createHandle object)).2.result =
      if (MintRequest.record ⟨text, resolver.type, id⟩ w.db.sequence).Fits then
        .ok (.text (Handle.compose text w.db.sequence))
      else .error (.store .unfit) := by
  have hm : w.registry.mintable w.site.handlePrefix object = .ok (resolver, id) := by
    refine Registry.mintable_eq_ok.2 ⟨?_, hfound⟩
    rw [hsite, LiveValue.isEmpty_text]
    simpa using htext
  obtain ⟨db, o, hends, hstep⟩ := w.step_createHandle object
  rw [hstep]
  cases hends with
  | refused h =>
      rw [hm] at h
      cases h
  | cutOff h hdown =>
      rw [hup] at hdown
      cases hdown
  | noText h _ hother =>
      rw [hsite] at hother
      cases hother
  | unfit h _ htext' hfits =>
      cases hm.symm.trans h
      cases hsite.symm.trans htext'
      rw [if_neg hfits]
      rfl
  | clash h _ htext' hfits ht =>
      obtain ⟨t, ht'⟩ := hminted.exists_insert? hfits
      rw [ht'] at ht
      cases ht
  | stored h _ htext' ht =>
      cases hm.symm.trans h
      cases hsite.symm.trans htext'
      rw [if_pos (RecordTable.insert?_eq_some.1 ht).1]
      rfl

/-- **A store that only minting writes to stays in order.** Behind every run of a new site in
which handle rows are written by minting alone and nobody sets the sequence by hand:

* every row, committed or not, was minted in a step of the run. The sequence has passed its
  id, its handle is composed of that id and of a non-empty prefix that was in force when the
  handle was given out, and it has a type and an object. The type is that of a resolver of
  the table in use then, and of the table in use now where the types do not depend on the
  settings;
* while the database is up, every caller with a non-empty prefix and an object that somebody
  recognises gets a handle if the record fits its columns. No row is ever in the way: if the
  record does not fit, this is the failure;
* no registry that works on the database finds a record corrupt, whichever handle it
  resolves. -/
theorem minting_keeps_order (site : Site) (table : Site → ResolverTable) (measured : Bool)
    (scan : Scan) (ss : List Step) (hrows : ∀ s ∈ ss, s.row? = none)
    (hseq : ∀ s ∈ ss, s.setsSequence = false) :
    let w := ((start site table measured scan).run ss).1
    (∀ r, w.db.Holds r →
      r.id < w.db.sequence ∧
      ∃ p ∈ (start site table measured scan).passages ss, ∃ text type id,
        p.before.site.handlePrefix = .text text ∧ text ≠ "" ∧
        p.minted? = some r.handle ∧ r.handle = Handle.compose text r.id ∧
        r.type = some type.code ∧ r.resource = some id ∧
        type ∈ p.before.registry.table.types ∧
        ((∀ a b, (table a).types = (table b).types) → type ∈ w.registry.table.types)) ∧
    (∀ object text resolver id, w.db.reachable = true → w.site.handlePrefix = .text text →
      text ≠ "" → w.registry.table.identify? object = some (resolver, id) →
      (w.step (.createHandle object)).2.result =
        if (MintRequest.record ⟨text, resolver.type, id⟩ w.db.sequence).Fits then
          .ok (.text (Handle.compose text w.db.sequence))
        else .error (.store .unfit)) ∧
    ∀ (registry : Registry) (handle : Option String) (e : HandleError),
      (registry.resolveUrl w.db handle).result = .error (.handle e) ∨
        (registry.resolveObject w.db handle).result = .error (.handle e) →
      e.category ≠ .corruptRecord := by
  intro w
  have hminted : ∀ r, w.db.Holds r →
      ∃ p ∈ (start site table measured scan).passages ss, p.Mints r :=
    fun r hr => minted_of_row hrows hr
  refine ⟨?_, ?_, ?_⟩
  · intro r hr
    obtain ⟨p, hp, object, text, resolver, id, -, hsite, htext, hfound, hd, hm, hrecord⟩ :=
      hminted r hr
    have htype := ResolverTable.type_mem_of_identify? hfound
    refine ⟨lt_of_drawn? hseq hp hd, p, hp, text, resolver.type, id, hsite, htext, hm, ?_, ?_, ?_,
      htype, ?_⟩
    · rw [hrecord]
      rfl
    · rw [hrecord]
      rfl
    · rw [hrecord]
      rfl
    · intro hconst
      have hstart := builtFrom_start site table measured scan
      obtain ⟨-, past, hpast⟩ := passages_keep (fun s _ => builtFrom_step s) hstart p hp
      have hend : w.BuiltFrom table := run_keeps (fun s _ => builtFrom_step s) hstart
      obtain ⟨-, now, hnow⟩ := hend
      rw [hpast, hconst past now, ← hnow] at htype
      exact htype
  · intro object text resolver id hup hsite htext hfound
    exact answer_createHandle hup hsite htext hfound (mintedBelow_run hrows hseq)
  · intro registry handle e herror hcorrupt
    obtain ⟨r, hr, hmissing⟩ := Registry.row_of_corrupt herror hcorrupt
    obtain ⟨p, -, object, text, resolver, id, -, -, -, -, -, -, hrecord⟩ := hminted r (.inr hr)
    rw [hrecord] at hmissing
    rcases hmissing with h | h <;> cases h

/-- A handle that is rolled back, a value that nobody uses, a prefix that spells the handle
that was rolled back, and an item that is deleted. -/
theorem minting_keeps_order_across_prefixes :
    let mint := Step.createHandle (.item (some 7))
    let site (text : String) := Step.setSetting "handle_prefix" (.text text)
    let ss := [mint, .rollback, .storeAllocate, site "10.1/1", .addItem 7, mint, .commit,
      .deleteItem 7, site "10.1", .rebuild]
    let w := ((start ⟨.text "10.1", .missing, .missing, false⟩ defaultTable true .byId).run ss).1
    (∀ s ∈ ss, s.row? = none) ∧ (∀ s ∈ ss, s.setsSequence = false) ∧
    w.db.Holds ⟨3, "10.1/1/3", some 2, some 7⟩ ∧ (3 : Int) < w.db.sequence ∧
    (w.step mint).2.result = .ok (.text "10.1/4") :=
  have hrow : Database.Holds _ ⟨3, "10.1/1/3", some 2, some 7⟩ := .inl (by decide +kernel)
  have horder := minting_keeps_order _ _ _ _ _ (by decide) (by decide)
  have hfour := horder.2.1 (.item (some 7)) "10.1" (.items .missing) 7 rfl rfl (by decide) rfl
  ⟨by decide, by decide, hrow, (horder.1 _ hrow).1, hfour.trans (if_pos (by decide +kernel))⟩

/-- A prefix of three hundred characters, and an object whose id is no `INTEGER`: both callers
meet no row at all, and get no handle. -/
theorem minting_meets_column_widths :
    let mint (id : Int) := Step.createHandle (.item (some id))
    let new (text : String) :=
      start ⟨.text text, .missing, .missing, false⟩ defaultTable true .byId
    (new longPrefix).db.reachable = true ∧ (new longPrefix).db.session.records.rows = [] ∧
    longPrefix ≠ "" ∧
    ((new longPrefix).step (mint 7)).2.result = .error (.store .unfit) ∧
    ((new "10.1").step (mint 0x80000000)).2.result = .error (.store .unfit) := by
  intro mint new
  have hempty : RecordTable.empty.MintedBelow 1 :=
    ⟨fun r hr => (List.not_mem_nil hr).elim, fun r hr => (List.not_mem_nil hr).elim⟩
  have hunfit : ∀ (text : String) (id : Int), text ≠ "" →
      ¬(MintRequest.record ⟨text, .item, id⟩ 1).Fits →
      ((new text).step (mint id)).2.result = .error (.store .unfit) := by
    intro text id htext hfits
    exact (answer_createHandle rfl rfl htext rfl hempty).trans (if_neg hfits)
  exact ⟨rfl, rfl, longPrefix_ne_empty,
    hunfit longPrefix 7 longPrefix_ne_empty (MintRequest.not_fits_longPrefix .item 7 1),
    hunfit "10.1" 0x80000000 (by decide) (by decide +kernel)⟩

end World

end PersistentId
