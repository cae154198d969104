import Mathlib
import PersistentId.Proofs.Registry.Agreement
import PersistentId.Proofs.Run.Effect

/-!
# PersistentId.Proofs.Minting.Verdict

**Minting ends in one of six ways.** A request for a handle, `create_handle`, can fail at several
places, and they differ in what is left behind: a check of the registry leaves everything alone, an
outage costs the uncommitted work, and a record that does not fit its columns or has a row in its
way costs the uncommitted work and a value of the sequence.

Which way it is can be told before the request, from the prefix, the table of resolvers, the reach
of the database, the next value and the rows that the session sees (`World.mintVerdict`). The order
of the questions is part of it: without a prefix nobody asks about the object, a kind that is not
supported is refused in an outage, too, and a record that does not fit is refused before its id and
its handle are looked for.

What each of the ways comes to is told in full, by the world and the answer behind the step
(`World.MintsWith`), and the answer alone tells them apart.
-/

namespace PersistentId

/-! ### Rows in the way -/

namespace RecordTable

/-- A row is in the way of a value under a prefix: it has the value as its id, or the handle that is
composed of the two. -/
def Blocks (t : RecordTable) (base : String) (n : Int) : Prop :=
  ∃ r ∈ t.rows, r.id = n ∨ r.handle = Handle.compose base n

instance (t : RecordTable) (base : String) (n : Int) : Decidable (t.Blocks base n) :=
  inferInstanceAs (Decidable (∃ r ∈ t.rows, r.id = n ∨ r.handle = Handle.compose base n))

/-- The record of a request that fits is refused exactly where a row is in the way. -/
theorem insert?_record_eq_none {t : RecordTable} {request : MintRequest} {n : Int}
    (hfits : (request.record n).Fits) :
    t.insert? (request.record n) = none ↔ t.Blocks request.site n := by
  rw [insert?_eq_none]
  constructor
  · intro h
    by_contra hblocks
    refine h ⟨hfits, fun x hx => ⟨?_, ?_⟩⟩
    · intro hid
      exact hblocks ⟨x, hx, .inl hid.symm⟩
    · intro hhandle
      exact hblocks ⟨x, hx, .inr hhandle.symm⟩
  · rintro ⟨x, hx, hid | hhandle⟩ ⟨-, h⟩
    · exact (h x hx).1 hid.symm
    · exact (h x hx).2 hhandle.symm

end RecordTable

/-! ### The verdict -/

/-- What becomes of a request for a handle. -/
inductive MintVerdict
  /-- There is no prefix to compose handles with. -/
  | unconfigured
  /-- Nobody recognises the object. -/
  | unsupported
  /-- The database is out of reach. -/
  | cutOff
  /-- The record does not fit its columns. -/
  | unfit
  /-- A row is in the way of the record. -/
  | clash
  | minted
  deriving DecidableEq, Repr

namespace World

/-- The record that a request for a handle would store now, where `setting` is the prefix. -/
def record? (w : World) (setting : Option String) (object : Resource) : Option Record :=
  (w.registry.table.identify? object).map fun found =>
    MintRequest.record ⟨setting.getD "", found.1.type, found.2⟩ w.db.sequence

/-- The verdict on a request for a handle. Each question is asked only if the ones before it did not
settle the matter. -/
def mintVerdict (w : World) (setting : Option String) (object : Resource) : MintVerdict :=
  if setting = none ∨ setting = some "" then .unconfigured
  else if ∀ e ∈ w.registry.table.entries, e.resolver.identify object = none then .unsupported
  else if w.db.reachable = false then .cutOff
  else if ∃ r ∈ w.record? setting object, ¬r.Fits then .unfit
  else if w.db.session.records.Blocks (setting.getD "") w.db.sequence then .clash
  else .minted

/-- A request for a handle ends as the verdict says: with this answer, with this world behind it,
and with nothing else told to the outside. A failure in the store is followed by a rollback of the
session, which comes after the request itself. -/
def MintsWith (w : World) (setting : Option String) (object : Resource) : MintVerdict → Prop
  | .unconfigured =>
    w.step (.createHandle object) = (w, .fail (.handle (.settingNotSet "handle.prefix")))
  | .unsupported =>
    w.step (.createHandle object) =
      (w, .fail (.handle (.unsupportedResource object.kindName)))
  | .cutOff =>
    (w.registry.createHandle w.site.handlePrefix w.db object).1 = w.db ∧
    w.step (.createHandle object) =
      ({ w with db := { w.db with session := w.db.committed } }, .fail (.store .outage))
  | .unfit =>
    (w.registry.createHandle w.site.handlePrefix w.db object).1 =
      { w.db with sequence := w.db.sequence + 1 } ∧
    w.step (.createHandle object) =
      ({ w with db := { w.db with
          session := w.db.committed, sequence := w.db.sequence + 1 } },
        .fail (.store .unfit))
  | .clash =>
    (w.registry.createHandle w.site.handlePrefix w.db object).1 =
      { w.db with sequence := w.db.sequence + 1 } ∧
    w.step (.createHandle object) =
      ({ w with db := { w.db with
          session := w.db.committed, sequence := w.db.sequence + 1 } },
        .fail (.store .conflict))
  | .minted =>
    ∃ base resolver id t,
      let handle := Handle.compose base w.db.sequence
      setting = some base ∧
      w.registry.table.identify? object = some (resolver, id) ∧
      t.rows = w.db.session.records.rows ++
        [⟨w.db.sequence, handle, some resolver.type.code, some id⟩] ∧
      w.step (.createHandle object) =
        ({ w with db := { w.db with
            session := { w.db.session with records := t }, sequence := w.db.sequence + 1 } },
          ⟨.ok (.text handle), w.registry.mintEvents resolver.type handle⟩)

/-- The verdict that an answer lets show. -/
def verdictOf : Except StepError Answer → Option MintVerdict
  | .error (.handle (.settingNotSet _)) => some .unconfigured
  | .error (.handle (.unsupportedResource _)) => some .unsupported
  | .error (.store .outage) => some .cutOff
  | .error (.store .unfit) => some .unfit
  | .error (.store .conflict) => some .clash
  | .ok (.text _) => some .minted
  | _ => none

/-- A request that ends as a verdict says lets that verdict show, and counts a handle if one was
minted and there is a sink. -/
theorem shows_of_mintsWith {w : World} {setting : Option String} {object : Resource}
    {v : MintVerdict} (h : w.MintsWith setting object v) :
    verdictOf (w.step (.createHandle object)).2.result = some v ∧
    (w.step (.createHandle object)).2.events.countP (Event.counts "handle.registry.mint") =
      if v = .minted ∧ w.registry.measured = true then 1 else 0 := by
  cases v with
  | minted =>
      obtain ⟨base, resolver, id, t, -, -, -, hstep⟩ := h
      rw [hstep]
      refine ⟨rfl, ?_⟩
      rw [Registry.mintEvents]
      cases w.registry.measured <;> simp [Event.counts, Event.note]
  | unconfigured | unsupported =>
      rw [show w.step (.createHandle object) = _ from h]
      exact ⟨rfl, rfl⟩
  | cutOff | unfit | clash =>
      rw [h.2]
      exact ⟨rfl, rfl⟩

/-- A prefix is empty where it is missing or an empty text. -/
theorem isEmpty_ofText? {setting : Option String} :
    (LiveValue.ofText? setting).isEmpty = true ↔ setting = none ∨ setting = some "" := by
  cases setting <;> simp [LiveValue.ofText?]

section Verdict

variable {w : World} {setting : Option String} {object : Resource}

/-- The registry refuses a request for one of two reasons, and the verdict tells which. -/
theorem mintVerdict_of_refused (hsetting : w.site.handlePrefix = .ofText? setting)
    {e : HandleError} (h : w.registry.mintable w.site.handlePrefix object = .error e) :
    e = .settingNotSet "handle.prefix" ∧ w.mintVerdict setting object = .unconfigured ∨
      e = .unsupportedResource object.kindName ∧
        w.mintVerdict setting object = .unsupported := by
  unfold Registry.mintable at h
  unfold mintVerdict
  by_cases hempty : setting = none ∨ setting = some ""
  · rw [hsetting, if_pos (isEmpty_ofText?.2 hempty)] at h
    exact .inl ⟨(Except.error.inj h).symm, if_pos hempty⟩
  · rw [hsetting, if_neg (mt isEmpty_ofText?.1 hempty)] at h
    cases hfound : w.registry.table.identify? object with
    | some found =>
        rw [hfound] at h
        cases h
    | none =>
        rw [hfound] at h
        rw [if_neg hempty, if_pos (ResolverTable.identify?_eq_none.1 hfound)]
        exact .inr ⟨(Except.error.inj h).symm, rfl⟩

/-- Behind the checks of the registry, the verdict is a matter of the record and of the database. -/
theorem mintVerdict_of_mintable (hsetting : w.site.handlePrefix = .ofText? setting)
    {resolver : Resolver} {id : Int}
    (h : w.registry.mintable w.site.handlePrefix object = .ok (resolver, id)) :
    ∃ base, setting = some base ∧ w.site.handlePrefix = .text base ∧
      w.mintVerdict setting object =
        if w.db.reachable = false then .cutOff
        else if ¬(MintRequest.record ⟨base, resolver.type, id⟩ w.db.sequence).Fits then .unfit
        else if w.db.session.records.Blocks base w.db.sequence then .clash else .minted := by
  obtain ⟨hfull, hfound⟩ := Registry.mintable_eq_ok.1 h
  have hempty : ¬(setting = none ∨ setting = some "") := by
    intro hempty
    rw [hsetting, isEmpty_ofText?.2 hempty] at hfull
    cases hfull
  have hkind : ¬∀ e ∈ w.registry.table.entries, e.resolver.identify object = none := by
    intro hnone
    rw [ResolverTable.identify?_eq_none.2 hnone] at hfound
    cases hfound
  obtain ⟨base, rfl⟩ := Option.ne_none_iff_exists'.1 fun hnone => hempty (.inl hnone)
  refine ⟨base, rfl, hsetting, ?_⟩
  rw [mintVerdict, if_neg hempty, if_neg hkind, Option.getD_some]
  simp only [record?, hfound, Option.map_some, Option.getD_some, Option.mem_def,
    Option.some.injEq, exists_eq_left']

/-- **Every request** ends as its verdict says. -/
theorem mintsWith_mintVerdict (hsetting : w.site.handlePrefix = .ofText? setting)
    (object : Resource) : w.MintsWith setting object (w.mintVerdict setting object) := by
  have hends := w.registry.createHandle_ends w.site.handlePrefix w.db object
  have hstep : w.step (.createHandle object) =
      ({ w with db := (w.registry.createHandle w.site.handlePrefix w.db object).1 } : World).ask
        (w.registry.createHandle w.site.handlePrefix w.db object).2 .text := rfl
  obtain ⟨⟨db, o⟩, hcreate⟩ :
      ∃ created, w.registry.createHandle w.site.handlePrefix w.db object = created := ⟨_, rfl⟩
  have hdb := congrArg Prod.fst hcreate
  rw [hcreate] at hends hstep
  dsimp only at hends hstep hdb
  cases hends with
  | refused h =>
      rcases mintVerdict_of_refused hsetting h with ⟨rfl, hv⟩ | ⟨rfl, hv⟩
      · rw [hv]
        exact hstep
      · rw [hv]
        exact hstep
  | cutOff h hdown =>
      obtain ⟨base, -, -, hv⟩ := mintVerdict_of_mintable hsetting h
      rw [hv, if_pos hdown]
      exact ⟨hdb, hstep⟩
  | noText h hup hsite =>
      obtain ⟨base, -, hbase, -⟩ := mintVerdict_of_mintable hsetting h
      rw [hsite] at hbase
      cases hbase
  | unfit h hup hsite hfits =>
      obtain ⟨base, -, hbase, hv⟩ := mintVerdict_of_mintable hsetting h
      obtain rfl := LiveValue.text.inj (hbase.symm.trans hsite)
      rw [hv, if_neg (by simp [hup]), if_pos hfits]
      exact ⟨hdb, hstep⟩
  | clash h hup hsite hfits ht =>
      obtain ⟨base, -, hbase, hv⟩ := mintVerdict_of_mintable hsetting h
      obtain rfl := LiveValue.text.inj (hbase.symm.trans hsite)
      rw [hv, if_neg (by simp [hup]), if_neg (not_not.2 hfits),
        if_pos ((RecordTable.insert?_record_eq_none hfits).1 ht)]
      exact ⟨hdb, hstep⟩
  | @stored resolver id _ t h hup hsite ht =>
      obtain ⟨base, hsome, hbase, hv⟩ := mintVerdict_of_mintable hsetting h
      obtain rfl := LiveValue.text.inj (hbase.symm.trans hsite)
      obtain ⟨hfits, -, hrows⟩ := RecordTable.insert?_eq_some.1 ht
      have hfree : ¬w.db.session.records.Blocks base w.db.sequence := by
        intro hblocks
        exact Option.some_ne_none _
          (ht.symm.trans ((RecordTable.insert?_record_eq_none hfits).2 hblocks))
      rw [hv, if_neg (by simp [hup]), if_neg (not_not.2 hfits), if_neg hfree]
      exact ⟨base, resolver, id, t, hsome, (Registry.mintable_eq_ok.1 h).2, hrows, hstep⟩

end Verdict

end World

end PersistentId
