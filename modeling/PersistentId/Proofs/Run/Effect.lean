import Mathlib
import PersistentId.Proofs.Minting.Freshness
import PersistentId.Proofs.Run.Passage

/-!
# PersistentId.Proofs.Run.Effect

What a step can do to the database, said once.

`World.step` has a branch for every kind of step, and most of them can fail in the store and
be rolled back. For the database there are only ten things that can happen (`World.Effect`),
and each says what the step has to be for it: rows are added by minting or by hand, a layer
is overwritten by the other one at the end of a transaction, values leave the sequence one
by one. An invariant of runs is a case analysis over these ten, and none of them unfolds a
step again.

Minting is described before that, by the six places where `create_handle` can end
(`Registry.MintEnds`).
-/

namespace PersistentId

/-! ### Writing into a database -/

namespace Database

/-- The database with one more value of the sequence used up. -/
def advance (db : Database) : Database := { db with sequence := db.sequence + 1 }

/-- The database with other records in the session. -/
def withRecords (db : Database) (t : RecordTable) : Database :=
  { db with session := { db.session with records := t } }

/-- The database with other items in the session. -/
def withItems (db : Database) (items : List Int) : Database :=
  { db with session := { db.session with items := items } }

@[simp] theorem committed_advance (db : Database) : db.advance.committed = db.committed := rfl
@[simp] theorem session_advance (db : Database) : db.advance.session = db.session := rfl
@[simp] theorem sequence_advance (db : Database) : db.advance.sequence = db.sequence + 1 := rfl
@[simp] theorem reachable_advance (db : Database) : db.advance.reachable = db.reachable := rfl

@[simp] theorem committed_withRecords (db : Database) (t : RecordTable) :
    (db.withRecords t).committed = db.committed := rfl
@[simp] theorem records_withRecords (db : Database) (t : RecordTable) :
    (db.withRecords t).session.records = t := rfl
@[simp] theorem sequence_withRecords (db : Database) (t : RecordTable) :
    (db.withRecords t).sequence = db.sequence := rfl
@[simp] theorem reachable_withRecords (db : Database) (t : RecordTable) :
    (db.withRecords t).reachable = db.reachable := rfl

@[simp] theorem committed_withItems (db : Database) (items : List Int) :
    (db.withItems items).committed = db.committed := rfl
@[simp] theorem records_withItems (db : Database) (items : List Int) :
    (db.withItems items).session.records = db.session.records := rfl
@[simp] theorem sequence_withItems (db : Database) (items : List Int) :
    (db.withItems items).sequence = db.sequence := rfl

/-- A row that the table takes is in the session afterwards, and nothing else has changed. -/
theorem insertRecord_of_some {db : Database} {r : Record} {t : RecordTable}
    (h : db.reachable = true) (ht : db.session.records.insert? r.cut = some t) :
    db.insertRecord r = .ok (db.withRecords t) := by
  rw [insertRecord, change_of_reachable h, ht]
  rfl

/-- A row that fits and is not taken is a conflict. -/
theorem insertRecord_of_clash {db : Database} {r : Record} (h : db.reachable = true)
    (hfits : r.cut.Fits) (ht : db.session.records.insert? r.cut = none) :
    db.insertRecord r = .error .conflict := by
  simp only [insertRecord, change_of_reachable h, ht, RecordTable.refusal, if_pos hfits]
  rfl

/-- A row that does not fit is refused, whatever the other rows are. -/
theorem insertRecord_of_unfit {db : Database} {r : Record} (h : db.reachable = true)
    (hfits : ¬r.cut.Fits) : db.insertRecord r = .error .unfit := by
  have ht : db.session.records.insert? r.cut = none :=
    RecordTable.insert?_eq_none.2 fun hfree => hfits hfree.1
  simp only [insertRecord, change_of_reachable h, ht, RecordTable.refusal, if_neg hfits]
  rfl

/-- A change that goes through leaves the database as it was but for the session. -/
theorem change_eq_ok {db db' : Database} {write : Contents → Except StoreError Contents} :
    db.change write = .ok db' ↔
      db.reachable = true ∧ ∃ c, write db.session = .ok c ∧ db' = { db with session := c } := by
  unfold change
  cases hup : db.reachable with
  | false => simp
  | true =>
      cases hw : write db.session with
      | error e => simp [Except.map]
      | ok c => simp [Except.map, eq_comm]

/-- The same for a row: it has been put into the table of the session. -/
theorem insertRecord_eq_ok {db db' : Database} {r : Record} :
    db.insertRecord r = .ok db' ↔
      db.reachable = true ∧
        ∃ t, db.session.records.insert? r.cut = some t ∧ db' = db.withRecords t := by
  unfold insertRecord
  rw [change_eq_ok]
  cases db.session.records.insert? r.cut with
  | none => simp
  | some t => simp [withRecords]

end Database

/-! ### Minting -/

namespace Registry

/-- Minting passes its own checks when the prefix is not empty and somebody recognises the
object. -/
theorem mintable_eq_ok {r : Registry} {site : LiveValue} {object : Resource}
    {found : Resolver × Int} :
    r.mintable site object = .ok found ↔
      site.isEmpty = false ∧ r.table.identify? object = some found := by
  unfold mintable
  cases hsite : site.isEmpty with
  | true => simp
  | false => cases hfound : r.table.identify? object <;> simp

/-- What a successful minting tells the outside. -/
def mintEvents (r : Registry) (type : ResourceType) (handle : String) : List Event :=
  (if r.measured then
    [.metric (.increment "handle.registry.mint" [("resource_type", .text type.label)])]
  else []) ++ [.note .debug ("Created new handle " ++ handle)]

/-- Where minting can end, with the database and the outcome there. -/
inductive MintEnds (r : Registry) (site : LiveValue) (db : Database) (object : Resource) :
    Database → Outcome RegistryError String → Prop
  /-- The checks of the registry refuse the request. No statement is executed. -/
  | refused {e : HandleError} (h : r.mintable site object = .error e) :
      MintEnds r site db object db (refuse e)
  /-- The sequence is out of reach. -/
  | cutOff {found : Resolver × Int} (h : r.mintable site object = .ok found)
      (hdown : db.reachable = false) :
      MintEnds r site db object db (.fail (.store .outage))
  /-- A value was drawn, but the prefix is no text to put it behind. -/
  | noText {found : Resolver × Int} {kind : String}
      (h : r.mintable site object = .ok found) (hup : db.reachable = true)
      (hsite : site = .other kind false) :
      MintEnds r site db object db.advance (.fail (.setting ⟨kind, slashOperation⟩))
  /-- A value was drawn, but the record does not fit its columns. -/
  | unfit {resolver : Resolver} {id : Int} {text : String}
      (h : r.mintable site object = .ok (resolver, id)) (hup : db.reachable = true)
      (hsite : site = .text text)
      (hfits : ¬(MintRequest.record ⟨text, resolver.type, id⟩ db.sequence).Fits) :
      MintEnds r site db object db.advance (.fail (.store .unfit))
  /-- A value was drawn, but a row is in the way of the record. -/
  | clash {resolver : Resolver} {id : Int} {text : String}
      (h : r.mintable site object = .ok (resolver, id)) (hup : db.reachable = true)
      (hsite : site = .text text)
      (hfits : (MintRequest.record ⟨text, resolver.type, id⟩ db.sequence).Fits)
      (ht : db.session.records.insert? (MintRequest.record ⟨text, resolver.type, id⟩ db.sequence)
        = none) :
      MintEnds r site db object db.advance (.fail (.store .conflict))
  /-- The record is stored. -/
  | stored {resolver : Resolver} {id : Int} {text : String} {t : RecordTable}
      (h : r.mintable site object = .ok (resolver, id)) (hup : db.reachable = true)
      (hsite : site = .text text)
      (ht : db.session.records.insert? (MintRequest.record ⟨text, resolver.type, id⟩ db.sequence)
        = some t) :
      MintEnds r site db object (db.advance.withRecords t)
        ⟨.ok (Handle.compose text db.sequence),
          r.mintEvents resolver.type (Handle.compose text db.sequence)⟩

/-- Once a value is drawn for a prefix that is a text, minting comes to what becomes of the
record. -/
theorem createHandle_of_drawn {r : Registry} {text : String} {db : Database} {object : Resource}
    {resolver : Resolver} {id : Int} (h : r.mintable (.text text) object = .ok (resolver, id))
    (hup : db.reachable = true) :
    r.createHandle (.text text) db object =
      match db.advance.insertRecord (MintRequest.record ⟨text, resolver.type, id⟩ db.sequence) with
      | .error e => (db.advance, .fail (.store e))
      | .ok db' => (db', ⟨.ok (Handle.compose text db.sequence),
          r.mintEvents resolver.type (Handle.compose text db.sequence)⟩) := by
  simp only [createHandle, h, Database.allocate_of_reachable hup, settingText,
    LiveValue.asText_text, Except.mapError]
  rfl

/-- Minting ends in one of these places. -/
theorem createHandle_ends (r : Registry) (site : LiveValue) (db : Database) (object : Resource) :
    r.MintEnds site db object (r.createHandle site db object).1
      (r.createHandle site db object).2 := by
  cases hm : r.mintable site object with
  | error e =>
      simp only [createHandle, hm]
      exact .refused hm
  | ok found =>
      obtain ⟨resolver, id⟩ := found
      cases hup : db.reachable with
      | false =>
          simp only [createHandle, hm, Database.allocate_of_outage hup]
          exact .cutOff hm hup
      | true =>
          cases hsite : site with
          | other kind isEmpty =>
              -- An empty value would not have passed the checks.
              have hfull : isEmpty = false := by
                simpa [hsite, LiveValue.isEmpty] using (mintable_eq_ok.1 hm).1
              subst hfull
              simp only [createHandle, hsite ▸ hm, Database.allocate_of_reachable hup]
              exact .noText (hsite ▸ hm) hup rfl
          | text text =>
              rw [hsite] at hm
              have hup' : db.advance.reachable = true := hup
              have hcut := MintRequest.cut_record ⟨text, resolver.type, id⟩ db.sequence
              rw [createHandle_of_drawn hm hup]
              by_cases hfits : (MintRequest.record ⟨text, resolver.type, id⟩ db.sequence).Fits
              · cases ht : db.session.records.insert?
                    (MintRequest.record ⟨text, resolver.type, id⟩ db.sequence) with
                | none =>
                    rw [Database.insertRecord_of_clash hup' (hcut.symm ▸ hfits) (hcut.symm ▸ ht)]
                    exact .clash hm hup rfl hfits ht
                | some t =>
                    rw [Database.insertRecord_of_some hup' (hcut.symm ▸ ht)]
                    exact .stored hm hup rfl ht
              · rw [Database.insertRecord_of_unfit hup' (hcut.symm ▸ hfits)]
                exact .unfit hm hup rfl hfits

end Registry

/-! ### Steps -/

/-- The failure of a step that asks the registry. -/
def StepError.ofRegistry : RegistryError → StepError
  | .handle e => .handle e
  | .store e => .store e
  | .setting e => .setting e

/-- The row that a step writes by hand, without minting, as its columns store it. -/
def Step.row? : Step → Option Record
  | .storeInsert id handle type resource =>
    some (Record.cut ⟨id, handle, some type.code, some resource⟩)
  | .insertRecord record => some record.cut
  | _ => none

/-- Whether a step ends the transaction of the session by a commit. -/
def Step.commits : Step → Bool
  | .commit => true
  | .http _ _ => true
  | .command _ _ => true
  | _ => false

/-- The step of a passage minted a record: it asked for a handle and got that of the record,
which carries the value drawn, a handle made of the prefix in force and that value, and
type and id as the first resolver that recognised the object reported them. -/
def Passage.Mints (p : Passage) (record : Record) : Prop :=
  ∃ object text resolver id,
    p.step = .createHandle object ∧
    p.before.site.handlePrefix = .text text ∧ text ≠ "" ∧
    p.before.registry.table.identify? object = some (resolver, id) ∧
    p.drawn? = some record.id ∧
    p.minted? = some record.handle ∧
    record = MintRequest.record ⟨text, resolver.type, id⟩ record.id

namespace World

/-- What a step can do to the database. -/
inductive Effect (w : World) : Step → Database → Prop
  /-- It asks, or is refused before it executes a statement. -/
  | none {s : Step} (hd : w.drawn? s = none) : Effect w s w.db
  /-- The session goes back to what is committed: because this was asked for, or because the
  step failed in the store. -/
  | undone {s : Step} (hd : w.drawn? s = none) : Effect w s w.db.rollback
  /-- What the session sees is committed. -/
  | kept {s : Step} (hs : s.commits = true) (hd : w.drawn? s = none) : Effect w s w.db.commit
  /-- The sequence is set by hand. -/
  | sequenceSet (next : Int) : Effect w (.setSequence next) { w.db with sequence := next }
  /-- The database goes out of reach, or comes back. -/
  | reachableSet (reachable : Bool) :
      Effect w (.setReachable reachable) { w.db with reachable := reachable }
  /-- A value is drawn and nothing comes of it. -/
  | drawn {s : Step} (hd : w.drawn? s = some w.db.sequence) : Effect w s w.db.advance
  /-- A value is drawn, and the session goes back as the record could not be stored. -/
  | drawnUndone {s : Step} (hd : w.drawn? s = some w.db.sequence) : Effect w s w.db.advance.rollback
  /-- A record is minted. -/
  | minted {s : Step} {record : Record} {t : RecordTable} (hm : Passage.Mints ⟨w, s⟩ record)
      (hid : record.id = w.db.sequence) (ht : w.db.session.records.insert? record = some t) :
      Effect w s (w.db.advance.withRecords t)
  /-- A row is written by hand. -/
  | inserted {s : Step} {record : Record} {t : RecordTable} (hs : s.row? = some record)
      (hd : w.drawn? s = Option.none) (ht : w.db.session.records.insert? record = some t) :
      Effect w s (w.db.withRecords t)
  /-- The items of the session change. -/
  | itemsChanged {s : Step} (hd : w.drawn? s = Option.none) (items : List Int) :
      Effect w s (w.db.withItems items)

/-- A step that only asks answers what it is told. -/
theorem result_ask (w : World) (o : Outcome RegistryError α) (f : α → Answer) :
    (w.ask o f).2.result = (o.result.map f).mapError .ofRegistry := by
  unfold ask
  rcases o.result with (e | e | e) | a <;> rfl

theorem events_ask (w : World) (o : Outcome RegistryError α) (f : α → Answer) :
    (w.ask o f).2.events = o.events := by
  unfold ask
  split <;> rfl

/-- A step that only asks leaves the database alone or is rolled back. -/
theorem effect_ask {w : World} {s : Step} (hd : w.drawn? s = none)
    (o : Outcome RegistryError α) (f : α → Answer) : w.Effect s (w.ask o f).1.db := by
  unfold ask
  split
  · exact .none hd
  · exact .none hd
  · exact .undone hd
  · exact .none hd

/-- A step that changes the database does so, or is rolled back. -/
theorem effect_change {w : World} {s : Step} (hd : w.drawn? s = none)
    {r : Except StoreError Database} (a : Answer)
    (hr : ∀ db, r = .ok db → w.Effect s db) : w.Effect s (w.change r a).1.db := by
  unfold change
  cases r with
  | ok db => exact hr db rfl
  | error e => exact .undone hd

theorem effect_insertRecord {w : World} {s : Step} {record : Record}
    (hs : s.row? = some record.cut) (hd : w.drawn? s = none) (a : Answer) :
    w.Effect s (w.change (w.db.insertRecord record) a).1.db := by
  refine effect_change hd a ?_
  intro db hdb
  obtain ⟨-, t, ht, rfl⟩ := Database.insertRecord_eq_ok.1 hdb
  exact .inserted hs hd ht

theorem effect_storeAllocate (w : World) :
    w.Effect .storeAllocate (w.step .storeAllocate).1.db := by
  cases hup : w.db.reachable with
  | false =>
      simp only [step, Database.allocate_of_outage hup]
      exact .undone (Database.next?_of_outage hup)
  | true =>
      simp only [step, Database.allocate_of_reachable hup]
      exact .drawn (Database.next?_of_reachable hup)

/-- A caller whose request passes the checks draws the next value, if there is one. -/
theorem drawn?_createHandle {w : World} {object : Resource} {found : Resolver × Int}
    (h : w.registry.mintable w.site.handlePrefix object = .ok found) :
    w.drawn? (.createHandle object) = w.db.next? := by
  simp only [drawn?, h]

/-- Asking for a handle is minting, and then what becomes of every step that asks. -/
theorem step_createHandle (w : World) (object : Resource) :
    ∃ db o, w.registry.MintEnds w.site.handlePrefix w.db object db o ∧
      w.step (.createHandle object) = ({ w with db := db } : World).ask o .text :=
  ⟨_, _, w.registry.createHandle_ends w.site.handlePrefix w.db object, rfl⟩

/-- A caller who gets a handle has had its record minted. -/
theorem mints_of_answer {w : World} {object : Resource} {resolver : Resolver} {id : Int}
    {text : String} (h : w.registry.mintable w.site.handlePrefix object = .ok (resolver, id))
    (hup : w.db.reachable = true) (hsite : w.site.handlePrefix = .text text)
    (hanswer : (w.step (.createHandle object)).2.result =
      .ok (.text (Handle.compose text w.db.sequence))) :
    Passage.Mints ⟨w, .createHandle object⟩
      (MintRequest.record ⟨text, resolver.type, id⟩ w.db.sequence) := by
  obtain ⟨hfull, hfound⟩ := Registry.mintable_eq_ok.1 h
  have htext : text ≠ "" := by
    rintro rfl
    rw [hsite] at hfull
    exact absurd hfull (by decide)
  have hdrawn := (drawn?_createHandle h).trans (Database.next?_of_reachable hup)
  refine ⟨object, text, resolver, id, rfl, hsite, htext, hfound, hdrawn, ?_, rfl⟩
  simp only [Passage.minted?, Passage.answer, hanswer]
  rfl

/-- A caller who gets a handle had a prefix and an object that somebody recognises, and the
database was up. The record is in the session now, and nothing else has changed. -/
theorem stored_of_answer {w : World} {object : Resource} {handle : String}
    (h : (w.step (.createHandle object)).2.result = .ok (.text handle)) :
    ∃ text resolver id t,
      w.db.reachable = true ∧
      w.registry.table.identify? object = some (resolver, id) ∧
      handle = Handle.compose text w.db.sequence ∧
      w.db.session.records.insert? (MintRequest.record ⟨text, resolver.type, id⟩ w.db.sequence) =
        some t ∧
      (w.step (.createHandle object)).1 = { w with db := w.db.advance.withRecords t } := by
  obtain ⟨db, o, hends, hstep⟩ := step_createHandle w object
  rw [hstep] at h ⊢
  cases hends with
  | stored hm hup hsite ht =>
      cases h
      exact ⟨_, _, _, _, hup, (Registry.mintable_eq_ok.1 hm).2, rfl, ht, rfl⟩
  | refused => cases h
  | cutOff => cases h
  | noText => cases h
  | unfit => cases h
  | clash => cases h

theorem effect_createHandle (w : World) (object : Resource) :
    w.Effect (.createHandle object) (w.step (.createHandle object)).1.db := by
  obtain ⟨db, o, hends, hstep⟩ := step_createHandle w object
  rw [hstep]
  cases hends with
  | refused h => exact .none (by simp only [drawn?, h])
  | cutOff h hdown =>
      exact .undone ((drawn?_createHandle h).trans (Database.next?_of_outage hdown))
  | noText h hup hsite =>
      exact .drawn ((drawn?_createHandle h).trans (Database.next?_of_reachable hup))
  | unfit h hup | clash h hup =>
      exact .drawnUndone ((drawn?_createHandle h).trans (Database.next?_of_reachable hup))
  | stored h hup hsite ht =>
      refine .minted (mints_of_answer h hup hsite ?_) rfl ht
      rw [hstep]
      rfl

/-- **Every step** does one of these things to the database. -/
theorem effect (w : World) (s : Step) : w.Effect s (w.step s).1.db := by
  cases s with
  | resolveUrl handle => exact effect_ask rfl _ _
  | resolveObject handle => exact effect_ask rfl _ _
  | findHandle object => exact effect_ask rfl _ _
  | createHandle object => exact effect_createHandle w object
  | listPrefix start => exact effect_ask rfl _ _
  | canonical handle => exact .none rfl
  | storeFind handle => exact effect_ask rfl _ _
  | storeFindResource type resource => exact effect_ask rfl _ _
  | storeFindPrefix start => exact effect_ask rfl _ _
  | storeAllocate => exact effect_storeAllocate w
  | storeInsert id handle type resource => exact effect_insertRecord rfl rfl _
  | findItem id => exact effect_ask rfl _ _
  | addItem id =>
      refine effect_change rfl _ ?_
      intro db hdb
      obtain ⟨-, c, hc, rfl⟩ := Database.change_eq_ok.1 hdb
      split at hc
      · cases hc
      · cases hc
        exact .itemsChanged rfl _
  | deleteItem id =>
      refine effect_change rfl _ ?_
      intro db hdb
      obtain ⟨-, c, hc, rfl⟩ := Database.change_eq_ok.1 hdb
      cases hc
      exact .itemsChanged rfl _
  | insertRecord record => exact effect_insertRecord rfl rfl _
  | insertWithoutHandle =>
      refine effect_change rfl _ ?_
      intro db hdb
      obtain ⟨-, c, hc, -⟩ := Database.change_eq_ok.1 hdb
      cases hc
  | commit => exact .kept rfl rfl
  | rollback => exact .undone rfl
  | setSequence next => exact .sequenceSet next
  | setReachable reachable => exact .reachableSet reachable
  | setSetting name value =>
      simp only [step]
      split <;> exact .none rfl
  | rebuild => exact .none rfl
  | http method target => exact .kept rfl rfl
  | command arguments environment => exact .kept rfl rfl

/-- No step changes the order in which listings meet the rows. -/
theorem scan_step (w : World) (s : Step) : (w.step s).1.db.scan = w.db.scan := by
  have heffect := w.effect s
  generalize (w.step s).1.db = db at heffect ⊢
  cases heffect <;> rfl

/-! ### The rest of the world -/

/-- A step that only asks changes nothing but the database. -/
theorem frame_ask (w : World) (o : Outcome RegistryError α) (f : α → Answer) :
    ∃ db, (w.ask o f).1 = { w with db := db } := by
  unfold ask
  split
  · exact ⟨w.db, rfl⟩
  · exact ⟨w.db, rfl⟩
  · exact ⟨w.db.rollback, rfl⟩
  · exact ⟨w.db, rfl⟩

theorem frame_change (w : World) (r : Except StoreError Database) (a : Answer) :
    ∃ db, (w.change r a).1 = { w with db := db } := by
  unfold change
  cases r with
  | ok db => exact ⟨db, rfl⟩
  | error e => exact ⟨w.db.rollback, rfl⟩

/-- **Every step** leaves all but the database alone, unless it sets a setting or builds the
registry anew. -/
theorem frame (w : World) (s : Step) :
    (∃ db, (w.step s).1 = { w with db := db }) ∨
    (∃ name value site, s = .setSetting name value ∧ w.site.set? name value = some site ∧
      (w.step s).1 = { w with site := site }) ∨
    (s = .rebuild ∧ (w.step s).1 = w.rebuild) := by
  cases s with
  | createHandle object =>
      obtain ⟨db, o, -, hstep⟩ := w.step_createHandle object
      obtain ⟨db', hframe⟩ := frame_ask { w with db := db } o .text
      exact .inl ⟨db', by rw [hstep, hframe]⟩
  | storeAllocate =>
      simp only [step]
      split
      · exact .inl ⟨_, rfl⟩
      · exact .inl ⟨_, rfl⟩
  | setSetting name value =>
      cases hsite : w.site.set? name value with
      | none => exact .inl ⟨w.db, by simp only [step, hsite]⟩
      | some site =>
          refine .inr (.inl ⟨name, value, site, rfl, hsite, ?_⟩)
          simp only [step, hsite, done]
  | rebuild => exact .inr (.inr ⟨rfl, rfl⟩)
  | resolveUrl | resolveObject | findHandle | listPrefix => exact .inl (frame_ask w _ _)
  | storeFind | storeFindResource | storeFindPrefix | findItem => exact .inl (frame_ask w _ _)
  | storeInsert | addItem | deleteItem | insertRecord | insertWithoutHandle =>
      exact .inl (frame_change w _ _)
  | canonical | commit | rollback | setSequence | setReachable | http | command =>
      exact .inl ⟨_, rfl⟩

/-- The table of the registry is one built from the settings, now or at an earlier time, and
whether there is a sink for counters never changes. -/
theorem registry_step (w : World) (s : Step) :
    (w.step s).1.table = w.table ∧
    (w.step s).1.registry.measured = w.registry.measured ∧
    ((w.step s).1.registry.table = w.registry.table ∨
      (w.step s).1.registry.table = w.table w.site) := by
  rcases w.frame s with ⟨db, h⟩ | ⟨name, value, site, -, -, h⟩ | ⟨-, h⟩
  · rw [h]
    exact ⟨rfl, rfl, .inl rfl⟩
  · rw [h]
    exact ⟨rfl, rfl, .inl rfl⟩
  · rw [h]
    exact ⟨rfl, rfl, .inr rfl⟩

end World

/-- Every handle given out is that of a record minted in the same step. -/
theorem Passage.mints_of_minted? {p : Passage} {handle : String} (h : p.minted? = some handle) :
    ∃ record, p.Mints record ∧ record.handle = handle := by
  obtain ⟨w, s⟩ := p
  cases s with
  | createHandle object =>
      obtain ⟨db, o, hends, hstep⟩ := w.step_createHandle object
      simp only [minted?, answer, hstep] at h
      cases hends with
      | stored hm hup hsite ht =>
          refine ⟨_, World.mints_of_answer hm hup hsite ?_, Option.some.inj h⟩
          rw [hstep]
          rfl
      | refused => cases h
      | cutOff => cases h
      | noText => cases h
      | unfit => cases h
      | clash => cases h
  | _ => cases h

end PersistentId
