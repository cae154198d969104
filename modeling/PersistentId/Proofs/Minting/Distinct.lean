import Mathlib
import PersistentId.Proofs.Handle.Composition
import PersistentId.Proofs.Run.Effect

/-!
# PersistentId.Proofs.Minting.Distinct

**No handle is given out twice** by `create_handle`, whatever happens to the site in between.

The reason is the sequence, not the table: rows can be rolled back, so a handle that was
given out need not be stored anywhere when the next one is made. But the sequence, `handle_seq`,
takes no part in transactions. As long as nobody sets it by hand it only moves on
(`World.sequence_step`), so the values drawn along a run increase strictly
(`World.pairwise_drawn`), and a handle shows the value it was made of behind its last slash,
under whatever prefix.
-/

namespace PersistentId

/-- Whether a step sets the sequence by hand. -/
def Step.setsSequence : Step → Bool
  | .setSequence _ => true
  | _ => false

/-! ### The sequence along a run -/

theorem Database.next?_eq_some {db : Database} {n : Int} :
    db.next? = some n ↔ db.reachable = true ∧ db.sequence = n := by
  cases hup : db.reachable with
  | false => simp [next?_of_outage hup]
  | true => simp [next?_of_reachable hup]

namespace World

/-- The value drawn by a step is the one that the sequence stood at. -/
theorem sequence_of_drawn? {w : World} {s : Step} {n : Int} (h : w.drawn? s = some n) :
    w.db.reachable = true ∧ w.db.sequence = n := by
  cases s with
  | storeAllocate => exact Database.next?_eq_some.1 h
  | createHandle object =>
      cases hm : w.registry.mintable w.site.handlePrefix object with
      | error e =>
          simp only [drawn?, hm] at h
          cases h
      | ok found => exact Database.next?_eq_some.1 ((drawn?_createHandle hm).symm.trans h)
  | _ => cases h

/-- The sequence moves on by one with every value that a step draws, and stands still
otherwise: no rollback and no failure gives a value back. -/
theorem sequence_step {w : World} {s : Step} (h : s.setsSequence = false) :
    (w.step s).1.db.sequence = w.db.sequence + (w.drawn? s).toList.length := by
  have heffect := w.effect s
  generalize (w.step s).1.db = db at heffect ⊢
  cases heffect with
  | none hd => simp [hd]
  | undone hd => simp [hd]
  | kept hs hd => simp [hd]
  | sequenceSet next => cases h
  | reachableSet reachable => simp [drawn?]
  | drawn hd => simp [hd]
  | drawnUndone hd => simp [hd]
  | minted hm hid ht =>
      obtain ⟨_, _, _, _, _, _, _, _, hd, _⟩ := hm
      have hd' : w.drawn? s = some _ := hd
      simp [hd']
  | inserted hs hd ht => simp [hd]
  | itemsChanged hd items => simp [hd]

/-- Over a run, the sequence moves on by as many values as were drawn. -/
theorem sequence_run {w : World} {ss : List Step} (h : ∀ s ∈ ss, s.setsSequence = false) :
    (w.run ss).1.db.sequence = w.db.sequence + (w.drawn ss).length := by
  induction ss generalizing w with
  | nil => simp [drawn]
  | cons s rest ih =>
      have hs := h s List.mem_cons_self
      have hrest : ∀ t ∈ rest, t.setsSequence = false :=
        fun t ht => h t (List.mem_cons_of_mem _ ht)
      rw [run_cons, ih hrest, sequence_step hs, drawn_cons, List.length_append]
      push_cast
      omega

/-- A run draws no value that the sequence has passed before it. -/
theorem le_of_drawn? {w : World} {ss : List Step} (h : ∀ s ∈ ss, s.setsSequence = false)
    {p : Passage} (hp : p ∈ w.passages ss) {n : Int} (hn : p.drawn? = some n) :
    w.db.sequence ≤ n := by
  induction ss generalizing w with
  | nil => cases hp
  | cons s rest ih =>
      rcases List.mem_cons.1 hp with rfl | hp
      · exact le_of_eq (sequence_of_drawn? hn).2
      · have hle := ih (fun t ht => h t (List.mem_cons_of_mem _ ht)) hp
        rw [sequence_step (h s List.mem_cons_self)] at hle
        omega

/-- The values drawn along a run increase strictly. -/
theorem pairwise_drawn {w : World} {ss : List Step} (h : ∀ s ∈ ss, s.setsSequence = false) :
    (w.passages ss).Pairwise fun p q =>
      ∀ m, p.drawn? = some m → ∀ n, q.drawn? = some n → m < n := by
  induction ss generalizing w with
  | nil => exact List.Pairwise.nil
  | cons s rest ih =>
      have hrest : ∀ t ∈ rest, t.setsSequence = false :=
        fun t ht => h t (List.mem_cons_of_mem _ ht)
      refine List.pairwise_cons.2 ⟨?_, ih hrest⟩
      intro q hq m hm n hn
      have hpast : (w.step s).1.db.sequence = m + 1 := by
        have hd : w.drawn? s = some m := hm
        rw [sequence_step (h s List.mem_cons_self), hd, (sequence_of_drawn? hd).2]
        simp
      have hle := le_of_drawn? hrest hq hn
      omega

end World

/-! ### The handles along a run -/

namespace Passage

/-- A handle that was given out is made of a prefix in force and the value drawn for it. -/
theorem compose_of_minted? {p : Passage} {handle : String} (h : p.minted? = some handle) :
    ∃ text n, p.before.site.handlePrefix = .text text ∧ text ≠ "" ∧ p.drawn? = some n ∧
      handle = Handle.compose text n := by
  obtain ⟨record, ⟨object, text, resolver, id, -, hsite, htext, -, hd, -, hrecord⟩, rfl⟩ :=
    mints_of_minted? h
  refine ⟨text, record.id, hsite, htext, hd, ?_⟩
  rw [hrecord]
  rfl

end Passage

namespace World

/-- **No handle is minted twice.** Along every run of a new site in which nobody sets the
sequence by hand, the handles given out are pairwise distinct: also where the prefix changed
between them, where the transaction of an earlier one was rolled back, or where storing one
failed. The values drawn increase strictly, as many as the sequence has moved on by, and each
handle is the prefix in force with the value that was drawn for it, in decimal, behind its
last slash. -/
theorem minted_distinct (site : Site) (table : Site → ResolverTable) (measured : Bool)
    (scan : Scan) (ss : List Step) (h : ∀ s ∈ ss, s.setsSequence = false) :
    ((start site table measured scan).minted ss).Nodup ∧
    ((start site table measured scan).drawn ss).Pairwise (· < ·) ∧
    ((start site table measured scan).run ss).1.db.sequence =
      1 + ((start site table measured scan).drawn ss).length ∧
    ∀ p ∈ (start site table measured scan).passages ss, ∀ handle, p.minted? = some handle →
      ∃ text n, p.before.site.handlePrefix = .text text ∧ p.drawn? = some n ∧
        handle = Handle.compose text n ∧ Handle.suffix handle = toString n := by
  have hdrawn := pairwise_drawn (w := start site table measured scan) h
  refine ⟨?_, List.pairwise_filterMap.2 ?_, sequence_run h, ?_⟩
  · -- Equal handles would show the same value behind their last slash.
    refine List.pairwise_filterMap.2 (hdrawn.imp ?_)
    intro p q hlt handle hp handle' hq heq
    obtain ⟨text, m, -, -, hm, rfl⟩ := Passage.compose_of_minted? hp
    obtain ⟨text', n, -, -, hn, rfl⟩ := Passage.compose_of_minted? hq
    have hne := hlt m hm n hn
    have hmn := Handle.suffix_of_compose_eq heq
    omega
  · refine hdrawn.imp ?_
    intro p q hlt m hm n hn
    exact hlt m hm n hn
  · intro p hp handle hhandle
    obtain ⟨text, n, hsite, -, hn, rfl⟩ := Passage.compose_of_minted? hhandle
    exact ⟨text, n, hsite, hn, rfl, Handle.suffix_compose text n⟩

/-- A first handle whose transaction is rolled back, a prefix that gets a slash, one that
spells an earlier handle, a row in the way of the fourth value, an outage, no prefix, and a
request in between. -/
theorem minted_distinct_across_prefixes :
    let w := start ⟨.text "10.1", .missing, .missing, false⟩ defaultTable true
    let mint := Step.createHandle (.item (some 7))
    let site (text : String) := Step.setSetting "handle_prefix" (.text text)
    let ss := [mint, .rollback, site "10.1/", mint, site "10.1/2", mint,
      .insertRecord ⟨4, "row", none, none⟩, mint, .setReachable false, mint,
      .setReachable true, .setSetting "handle_prefix" .missing, mint, site "a",
      .http "GET" "/handle/10.1/2", mint]
    (∀ s ∈ ss, s.setsSequence = false) ∧
    w.minted ss = ["10.1/1", "10.1/2", "10.1/2/3", "a/5"] ∧ w.drawn ss = [1, 2, 3, 4, 5] ∧
    (w.minted ss).Nodup :=
  ⟨by decide, by decide +kernel, by decide +kernel, (minted_distinct _ _ _ _ _ (by decide)).1⟩

end World

end PersistentId
