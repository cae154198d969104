import Mathlib
import PersistentId.Proofs.Minting.Integrity
import PersistentId.Proofs.Minting.Verdict
import PersistentId.Proofs.Run.Permanence
import PersistentId.Proofs.Run.Rollback

/-!
# PersistentId.Proofs.Minting.Recovery

**Minting recovers from rows that were written by hand.** A row can be in the way of two values of
the sequence, by its id and by its handle, so a request for a handle can fail. But no value comes
twice: the sequence moves on through the failures, although their transactions are rolled back. So
a caller who calls `create_handle` again and again meets each obstacle once.

A record that was minted meanwhile is no obstacle. Its id and its suffix are one value, and the
sequence has passed it. Nor can a rollback bring obstacles to light, since every committed row is
one that the session sees. Hence all failures come from the rows that were there at the start
(`World.Settled`), and these are in the way of twice as many values as they are, at most
(`RecordTable.length_le_of_blocks`).

A record that does not fit its columns is refused for another reason, and it is no use to ask
again: so nothing is promised for attempts without room (`World.HasRoom`) but this failure.
-/

namespace PersistentId

/-- Distinct values that rows are in the way of: two for each row at most. -/
theorem RecordTable.length_le_of_blocks {t : RecordTable} {base : String} {values : List Int}
    (hnodup : values.Nodup) (hblocks : ∀ n ∈ values, t.Blocks base n) :
    values.length ≤ 2 * t.rows.length := by
  let isId (n : Int) : Bool := decide (n ∈ t.rows.map (·.id))
  have hids : (values.filter isId).length ≤ t.rows.length := by
    have hsubset : values.filter isId ⊆ t.rows.map (·.id) := by
      intro n hn
      exact of_decide_eq_true (List.mem_filter.1 hn).2
    have hle := (hnodup.filter isId).length_le_of_subset hsubset
    rwa [List.length_map] at hle
  have hhandles : (values.filter fun n => !isId n).length ≤ t.rows.length := by
    -- What is no id is a suffix, and distinct suffixes make distinct handles.
    have hnodup' : ((values.filter fun n => !isId n).map (Handle.compose base)).Nodup :=
      (hnodup.filter _).map fun _ _ h => Handle.suffix_of_compose_eq h
    have hsubset : (values.filter fun n => !isId n).map (Handle.compose base) ⊆
        t.rows.map (·.handle) := by
      intro handle hhandle
      obtain ⟨n, hn, rfl⟩ := List.mem_map.1 hhandle
      obtain ⟨hn, hnot⟩ := List.mem_filter.1 hn
      have hnot : ∀ r ∈ t.rows, r.id ≠ n := by simpa [isId] using hnot
      obtain ⟨r, hr, hid | hsuffix⟩ := hblocks n hn
      · exact absurd hid (hnot r hr)
      · exact List.mem_map.2 ⟨r, hr, hsuffix⟩
    have hle := hnodup'.length_le_of_subset hsubset
    rwa [List.length_map, List.length_map] at hle
  have hsplit := List.length_eq_length_filter_add (l := values) isId
  omega

/-! ### One attempt -/

namespace Passage

/-- Whether the step met a row that was in the way. -/
def clashes (p : Passage) : Bool :=
  match p.answer.result with
  | .error (.store .conflict) => true
  | _ => false

/-- A request for a handle that goes as far as the record: it draws the next value. If the record
fits its columns, it fails exactly if a row is in the way of the value, and mints the handle of the
value otherwise. If the record does not fit, this is how it fails. -/
structure Attempts (p : Passage) (base : String) (fits : Prop) : Prop where
  drawn : p.drawn? = some p.before.db.sequence
  clashes_iff :
    p.clashes = true ↔ fits ∧ p.before.db.session.records.Blocks base p.before.db.sequence
  minted : fits → p.clashes = false →
    p.minted? = some (Handle.compose base p.before.db.sequence)
  unfit : ¬fits → p.answer.result = .error (.store .unfit)

end Passage

namespace World

/-- Minting can go ahead: the database is up, there is a prefix, and somebody recognises the
object. -/
structure Ready (w : World) (base : String) (object : Resource) : Prop where
  reachable : w.db.reachable = true
  site : w.site.handlePrefix = .text base
  base_ne : base ≠ ""
  recognised : w.registry.table.identify? object ≠ none

/-- The record of the next attempt fits its columns. -/
def HasRoom (w : World) (base : String) (object : Resource) : Prop :=
  ∀ r ∈ w.record? (some base) object, r.Fits

instance (w : World) (base : String) (object : Resource) : Decidable (w.HasRoom base object) :=
  inferInstanceAs (Decidable (∀ r ∈ w.record? (some base) object, r.Fits))

namespace Ready

variable {w : World} {base : String} {object : Resource}

/-- What is left to be seen is whether there is room for the record, and a row in its way. -/
theorem verdict (h : w.Ready base object) :
    w.mintVerdict (some base) object =
      if ∃ r ∈ w.record? (some base) object, ¬r.Fits then .unfit
      else if w.db.session.records.Blocks base w.db.sequence then .clash else .minted := by
  have hempty : ¬(some base = none ∨ some base = some "") := by simp [h.base_ne]
  have hkind : ¬∀ e ∈ w.registry.table.entries, e.resolver.identify object = none :=
    mt ResolverTable.identify?_eq_none.2 h.recognised
  rw [mintVerdict, if_neg hempty, if_neg hkind, if_neg (by simp [h.reachable]), Option.getD_some]

theorem mintsWith (h : w.Ready base object) :
    w.MintsWith (some base) object
      (if ∃ r ∈ w.record? (some base) object, ¬r.Fits then .unfit
      else if w.db.session.records.Blocks base w.db.sequence then .clash else .minted) := by
  rw [← h.verdict]
  exact mintsWith_mintVerdict h.site object

/-- Whatever becomes of the record, a value is drawn for it. -/
theorem drawn (h : w.Ready base object) :
    w.drawn? (.createHandle object) = some w.db.sequence := by
  obtain ⟨found, hfound⟩ := Option.ne_none_iff_exists'.1 h.recognised
  have hm : w.registry.mintable w.site.handlePrefix object = .ok found :=
    Registry.mintable_eq_ok.2 ⟨by simp [h.site, h.base_ne], hfound⟩
  rw [drawn?_createHandle hm, Database.next?_of_reachable h.reachable]

theorem attempt (h : w.Ready base object) :
    Passage.Attempts ⟨w, .createHandle object⟩ base (w.HasRoom base object) := by
  have hends := h.mintsWith
  by_cases hroom : w.HasRoom base object
  · rw [if_neg (by simpa [HasRoom] using hroom)] at hends
    by_cases hblocks : w.db.session.records.Blocks base w.db.sequence
    · rw [if_pos hblocks] at hends
      have hclash : Passage.clashes ⟨w, .createHandle object⟩ = true := by
        rw [Passage.clashes, Passage.answer, hends.2]
        rfl
      refine ⟨h.drawn, iff_of_true hclash ⟨hroom, hblocks⟩, fun _ hfree => ?_, absurd hroom⟩
      rw [hclash] at hfree
      cases hfree
    · rw [if_neg hblocks] at hends
      obtain ⟨base', resolver, id, t, hbase, -, -, hstep⟩ := hends
      obtain rfl := Option.some.inj hbase
      have hfree : Passage.clashes ⟨w, .createHandle object⟩ = false := by
        rw [Passage.clashes, Passage.answer, hstep]
      refine ⟨h.drawn, iff_of_false (by simp [hfree]) fun hboth => hblocks hboth.2, fun _ _ => ?_,
        absurd hroom⟩
      rw [Passage.minted?, Passage.answer, hstep]
  · rw [if_pos (by simpa [HasRoom] using hroom)] at hends
    have hfree : Passage.clashes ⟨w, .createHandle object⟩ = false := by
      rw [Passage.clashes, Passage.answer, hends.2]
      rfl
    refine ⟨h.drawn, iff_of_false (by simp [hfree]) fun hboth => hroom hboth.1,
      fun hroom' => absurd hroom' hroom, fun _ => ?_⟩
    rw [Passage.answer, hends.2]
    rfl

/-- Behind an attempt everything is ready for the next one. -/
theorem step (h : w.Ready base object) :
    (w.step (.createHandle object)).1.Ready base object := by
  have hwithin := within_step (w := w) (s := .createHandle object) rfl
  exact ⟨hwithin.reachable.trans h.reachable,
    (congrArg Site.handlePrefix hwithin.site).trans h.site, h.base_ne,
    by rw [hwithin.registry]; exact h.recognised⟩

theorem sequence_step (h : w.Ready base object) :
    (w.step (.createHandle object)).1.db.sequence = w.db.sequence + 1 := by
  rw [World.sequence_step rfl, h.drawn]
  rfl

end Ready

/-! ### Attempts one after another -/

/-- The attempts of a caller who asks a number of times. -/
def attempts (w : World) (object : Resource) (m : Nat) : List Passage :=
  w.passages (List.replicate m (.createHandle object))

/-- The sequence moves on by one with every attempt. -/
theorem map_sequence_attempts {w : World} {base : String} {object : Resource}
    (h : w.Ready base object) (m : Nat) :
    (w.attempts object m).map (·.before.db.sequence) =
      (List.range m).map fun k : Nat => w.db.sequence + k := by
  induction m generalizing w with
  | zero => rfl
  | succ m ih =>
      have hrest := ih h.step
      unfold attempts at hrest ⊢
      rw [List.replicate_succ, passages_cons, List.map_cons, hrest, h.sequence_step,
        List.range_succ_eq_map, List.map_cons, List.map_map]
      simp [Function.comp_def, Int.add_assoc, Int.add_comm 1]

theorem length_attempts (w : World) (object : Resource) (m : Nat) :
    (w.attempts object m).length = m := by
  have hsteps := congrArg List.length
    (w.map_step_passages (List.replicate m (.createHandle object)))
  rwa [List.length_map, List.length_replicate] at hsteps

/-- What holds of a world behind attempts that started in `w`: everything is ready for the next
one, and the rows are those of `w` and records whose values the sequence has passed. -/
structure Settled (w : World) (base : String) (object : Resource) (v : World) : Prop where
  ready : v.Ready base object
  rows : ∀ r, v.db.Holds r →
    w.db.Holds r ∨ r.id < v.db.sequence ∧ ∃ q, r.handle = Handle.compose q r.id

theorem Settled.step {w v : World} {base : String} {object : Resource}
    (h : Settled w base object v) :
    Settled w base object (v.step (.createHandle object)).1 where
  ready := h.ready.step
  rows := by
    intro r hr
    rw [h.ready.sequence_step]
    rcases origin_of_row_step hr with hold | hwritten | hm
    · rcases h.rows r hold with hw | ⟨hlt, hhandle⟩
      · exact .inl hw
      · exact .inr ⟨by omega, hhandle⟩
    · cases hwritten
    · obtain ⟨_, text, resolver, id, -, -, -, -, hd, -, hrecord⟩ := hm
      have hid : v.db.sequence = r.id := (sequence_of_drawn? hd).2
      refine .inr ⟨by omega, text, ?_⟩
      rw [hrecord]
      rfl

/-- A row that is in the way of an attempt was there at the start. -/
theorem Settled.blocks {w v : World} {base : String} {object : Resource}
    (h : Settled w base object v) (hlayered : w.db.Layered)
    (hblocks : v.db.session.records.Blocks base v.db.sequence) :
    w.db.session.records.Blocks base v.db.sequence := by
  obtain ⟨r, hr, hmatch⟩ := hblocks
  rcases h.rows r (.inr hr) with hw | ⟨hlt, q, hhandle⟩
  · exact ⟨r, hw.elim (hlayered r) id, hmatch⟩
  · rcases hmatch with hid | hcomposed
    · omega
    · have hid := Handle.suffix_of_compose_eq (hhandle.symm.trans hcomposed)
      omega

theorem settled_attempts {w : World} {base : String} {object : Resource}
    (h : w.Ready base object) {m : Nat} {p : Passage} (hp : p ∈ w.attempts object m) :
    p.step = .createHandle object ∧ Settled w base object p.before := by
  refine ⟨List.eq_of_mem_replicate (step_of_mem_passages hp), ?_⟩
  refine passages_keep (motive := Settled w base object) (fun s hs v hv => ?_)
    ⟨h, fun r hr => .inl hr⟩ p hp
  rw [List.eq_of_mem_replicate hs]
  exact hv.step

/-- Every attempt draws the next value, and fails for its record only. -/
theorem attempts_of_mem {w : World} {base : String} {object : Resource}
    (h : w.Ready base object) {m : Nat} {p : Passage} (hp : p ∈ w.attempts object m) :
    p.Attempts base (p.before.HasRoom base object) := by
  obtain ⟨hstep, hsettled⟩ := settled_attempts h hp
  obtain ⟨v, s⟩ := p
  obtain rfl : s = .createHandle object := hstep
  exact hsettled.ready.attempt

/-- The attempts draw the next values of the sequence, one after another. -/
theorem map_drawn?_attempts {w : World} {base : String} {object : Resource}
    (h : w.Ready base object) (m : Nat) :
    (w.attempts object m).map Passage.drawn? =
      (List.range m).map fun k : Nat => some (w.db.sequence + k) :=
  calc (w.attempts object m).map Passage.drawn?
      = (w.attempts object m).map (some ∘ (·.before.db.sequence)) :=
        List.map_congr_left fun _ hp => (attempts_of_mem h hp).drawn
    _ = ((List.range m).map fun k : Nat => w.db.sequence + k).map some := by
        rw [← map_sequence_attempts h m, List.map_map]
    _ = (List.range m).map fun k : Nat => some (w.db.sequence + k) := List.map_map

section Retries

variable {w : World} (hw : w.Reached) {base : String} {object : Resource}
  (h : w.Ready base object)
include hw h

/-- A row that makes an attempt fail was there at the start. -/
theorem blocks_of_clashes {m : Nat} {p : Passage} (hp : p ∈ w.attempts object m)
    (hclash : p.clashes = true) : w.db.session.records.Blocks base p.before.db.sequence :=
  (settled_attempts h hp).2.blocks (layered_of_reached hw)
    ((attempts_of_mem h hp).clashes_iff.1 hclash).2

/-- Of all attempts, twice as many clash as there are rows at the start, at most. -/
theorem countP_clashes_le (m : Nat) :
    (w.attempts object m).countP Passage.clashes ≤ 2 * w.db.session.records.rows.length := by
  let failed := (w.attempts object m).filter Passage.clashes
  have hnodup : (failed.map (·.before.db.sequence)).Nodup := by
    refine (List.Sublist.map _ List.filter_sublist).nodup ?_
    rw [map_sequence_attempts h]
    exact List.nodup_range.map fun j k hjk => by omega
  have hblocks : ∀ n ∈ failed.map (·.before.db.sequence), w.db.session.records.Blocks base n := by
    intro n hn
    obtain ⟨p, hp, rfl⟩ := List.mem_map.1 hn
    obtain ⟨hp, hclash⟩ := List.mem_filter.1 hp
    exact blocks_of_clashes hw h hp hclash
  have hle := RecordTable.length_le_of_blocks hnodup hblocks
  rwa [List.length_map, ← List.countP_eq_length_filter] at hle

variable {m : Nat}

/-- So attempts that all clash are no more than that. -/
theorem length_le_of_clashes {ps : List Passage} (hps : ps.Sublist (w.attempts object m))
    (hall : ∀ p ∈ ps, p.clashes = true) : ps.length ≤ 2 * w.db.session.records.rows.length := by
  rw [← List.countP_eq_length.2 hall]
  exact hps.countP_le.trans (countP_clashes_le hw h m)

/-- A caller who asks often enough, with room for each record, has a first success. -/
theorem exists_first_minted (hm : 2 * w.db.session.records.rows.length < m)
    (hroom : ∀ p ∈ w.attempts object m, p.before.HasRoom base object) :
    ∃ failed p rest, w.attempts object m = failed ++ p :: rest ∧
      failed.length ≤ 2 * w.db.session.records.rows.length ∧ (∀ q ∈ failed, q.clashes = true) ∧
      p.minted? = some (Handle.compose base p.before.db.sequence) := by
  let failed := (w.attempts object m).takeWhile Passage.clashes
  have hfailed : ∀ q ∈ failed, q.clashes = true := fun q hq => List.mem_takeWhile_imp hq
  have hle : failed.length ≤ 2 * w.db.session.records.rows.length :=
    length_le_of_clashes hw h (List.takeWhile_sublist _) hfailed
  have hsplit : failed ++ (w.attempts object m).dropWhile Passage.clashes = w.attempts object m :=
    List.takeWhile_append_dropWhile
  cases hrest : (w.attempts object m).dropWhile Passage.clashes with
  | nil =>
      have hlength := congrArg List.length hsplit
      rw [hrest, List.append_nil, length_attempts] at hlength
      omega
  | cons p rest =>
      rw [hrest] at hsplit
      have hp : p ∈ w.attempts object m := by
        rw [← hsplit]
        exact List.mem_append_right _ List.mem_cons_self
      have hfree : p.clashes = false := by
        simpa [hrest] using List.head?_dropWhile_not Passage.clashes (w.attempts object m)
      exact ⟨failed, p, rest, hsplit.symm, hle, hfailed,
        (attempts_of_mem h hp).minted (hroom p hp) hfree⟩

/-- Where there are more attempts in a row than can clash, with room for each record, one of them
succeeds. -/
theorem exists_minted_of_window {window : List Passage} (hwindow : window <:+: w.attempts object m)
    (hlength : 2 * w.db.session.records.rows.length < window.length)
    (hroom : ∀ p ∈ window, p.before.HasRoom base object) :
    ∃ p ∈ window, p.minted? = some (Handle.compose base p.before.db.sequence) := by
  by_contra hnone
  have hall : ∀ p ∈ window, p.clashes = true := by
    intro p hp
    by_contra hfree
    have hminted :=
      (attempts_of_mem h (hwindow.subset hp)).minted (hroom p hp) (by simpa using hfree)
    exact hnone ⟨p, hp, hminted⟩
  have hle := length_le_of_clashes hw h hwindow.sublist hall
  omega

end Retries

end World

end PersistentId
