import Mathlib
import PersistentId.Proofs.Registry.Extension
import PersistentId.Proofs.Run.Effect

/-!
# PersistentId.Proofs.Registry.Reordering

What the order of a table of resolvers is good for.

A record is dispatched by its type code. Keys are distinct, so there is one entry to be found,
wherever it stands (`ResolverTable.get?_perm`). An object is shown to one resolver after another.
Whether anybody gives it an id is not a matter of order, and who does is one only where two entries
would (`ResolverTable.Ambiguous`).

So the order of the table never shows when a handle is resolved. It shows when an ambiguous object
is looked up, and when a handle is minted for it: its record has another type then. Minting that
comes to nothing ends the same way in every order, since neither type nor object of a record can be
in its way, unless one of the ids is too large for a record (`ResolverTable.Oversized`).
-/

namespace PersistentId

namespace ResolverTable

variable {t u : ResolverTable} {object : Resource}

/-- Two entries give an object an id. -/
def Ambiguous (t : ResolverTable) (object : Resource) : Prop :=
  ∃ e ∈ t.entries, ∃ e' ∈ t.entries, e.key ≠ e'.key ∧
    e.resolver.identify object ≠ none ∧ e'.resolver.identify object ≠ none

instance (t : ResolverTable) (object : Resource) : Decidable (t.Ambiguous object) :=
  inferInstanceAs (Decidable (∃ e ∈ t.entries, ∃ e' ∈ t.entries, e.key ≠ e'.key ∧
    e.resolver.identify object ≠ none ∧ e'.resolver.identify object ≠ none))

/-- An entry gives an object an id that is too large for a record. -/
def Oversized (t : ResolverTable) (object : Resource) : Prop :=
  ∃ e ∈ t.entries, ∃ id ∈ e.resolver.identify object, ¬IsInteger id

instance (t : ResolverTable) (object : Resource) : Decidable (t.Oversized object) :=
  inferInstanceAs (Decidable (∃ e ∈ t.entries, ∃ id ∈ e.resolver.identify object, ¬IsInteger id))

/-- Where no entry does, an object that is recognised has an id for its record. -/
theorem isInteger_of_identify? (h : ¬t.Oversized object) {resolver : Resolver} {id : Int}
    (hfound : t.identify? object = some (resolver, id)) : IsInteger id := by
  obtain ⟨e, hfirst, -⟩ := identify?_eq_some.1 hfound
  have hmem := hfirst.mem
  obtain ⟨-, -, -, -, hid⟩ := hfirst
  by_contra hlarge
  exact h ⟨e, hmem, id, hid, hlarge⟩

/-- Only one entry gives an id to an object that is not ambiguous. -/
theorem eq_of_not_ambiguous (h : ¬t.Ambiguous object) {e e' : ResolverEntry} (he : e ∈ t.entries)
    (he' : e' ∈ t.entries) (hid : e.resolver.identify object ≠ none)
    (hid' : e'.resolver.identify object ≠ none) : e = e' := by
  by_contra hne
  have hkey : e.key ≠ e'.key := fun hkey => hne (List.inj_on_of_nodup_map t.distinct he he' hkey)
  exact h ⟨e, he, e', he', hkey, hid, hid'⟩

/-- So it does not matter where in the table this entry stands. -/
theorem identify?_of_not_ambiguous (h : ¬t.Ambiguous object) {resolver : Resolver} {id : Int} :
    t.identify? object = some (resolver, id) ↔
      ∃ e ∈ t.entries, e.resolver.identify object = some id ∧ e.resolver = resolver := by
  rw [identify?_eq_some]
  constructor
  · rintro ⟨e, hfirst, hresolver⟩
    have hmem := hfirst.mem
    obtain ⟨-, -, -, -, hid⟩ := hfirst
    exact ⟨e, hmem, hid, hresolver⟩
  · rintro ⟨e, he, hid, hresolver⟩
    -- Somebody is the first to recognise the object, and there is nobody else who does.
    cases hfound : t.identify? object with
    | none =>
        rw [identify?_eq_none.1 hfound e he] at hid
        cases hid
    | some found =>
        obtain ⟨first, hfirst, -⟩ := identify?_eq_some.1 hfound
        have hmem := hfirst.mem
        obtain ⟨front, rest, hsplit, hfront, hid'⟩ := hfirst
        obtain rfl : first = e :=
          eq_of_not_ambiguous h hmem he (by rw [hid']; nofun) (by rw [hid]; nofun)
        exact ⟨first, ⟨front, rest, hsplit, hfront, hid⟩, hresolver⟩

section Perm

variable (hperm : t.entries.Perm u.entries)
include hperm

/-- A code is dispatched to the same resolver in every order. -/
theorem get?_perm (code : Int) : t.get? code = u.get? code := by
  ext resolver
  simp only [get?_eq_some, hperm.mem_iff]

/-- An object that nobody recognises is recognised by nobody in every order. -/
theorem identify?_eq_none_perm (object : Resource) :
    t.identify? object = none ↔ u.identify? object = none := by
  simp only [identify?_eq_none, hperm.mem_iff]

theorem ambiguous_perm : t.Ambiguous object ↔ u.Ambiguous object := by
  simp only [Ambiguous, hperm.mem_iff]

theorem oversized_perm : t.Oversized object ↔ u.Oversized object := by
  simp only [Oversized, hperm.mem_iff]

/-- An object that is not ambiguous is recognised by the same resolver in every order. -/
theorem identify?_perm (h : ¬t.Ambiguous object) : t.identify? object = u.identify? object := by
  ext ⟨resolver, id⟩
  have h' : ¬u.Ambiguous object := fun hu => h ((ambiguous_perm hperm).2 hu)
  simp only [identify?_of_not_ambiguous h, identify?_of_not_ambiguous h',
    hperm.mem_iff]

end Perm

end ResolverTable

/-- A record is refused for its widths, or for a row that has its id or its handle. -/
theorem Database.insertRecord_error_congr {db : Database} {r s : Record} {e : StoreError}
    (h : db.insertRecord r = .error e) (hfits : r.cut.Fits ↔ s.cut.Fits)
    (hid : r.cut.id = s.cut.id) (hhandle : r.cut.handle = s.cut.handle) :
    db.insertRecord s = .error e := by
  have hnone : db.session.records.insert? r.cut = none ↔
      db.session.records.insert? s.cut = none := by
    simp only [RecordTable.insert?_eq_none, Record.Compatible, hfits, hid, hhandle]
  cases hup : db.reachable with
  | false =>
      rw [insertRecord, change_of_outage hup] at h ⊢
      exact h
  | true =>
      by_cases hfit : r.cut.Fits
      · cases ht : db.session.records.insert? r.cut with
        | none =>
            rw [insertRecord_of_clash hup hfit ht] at h
            rw [insertRecord_of_clash hup (hfits.1 hfit) (hnone.1 ht), h]
        | some t =>
            rw [insertRecord_of_some hup ht] at h
            cases h
      · rw [insertRecord_of_unfit hup hfit] at h
        rw [insertRecord_of_unfit hup fun hfit' => hfit (hfits.2 hfit'), h]

namespace Registry

/-- Two registries whose tables have the same entries, in one order or another. -/
structure Reorders (r r' : Registry) : Prop where
  measured : r.measured = r'.measured
  entries : r.table.entries.Perm r'.table.entries

variable {r r' : Registry} (h : r.Reorders r')
include h

/-- A handle is resolved the same way in every order. -/
theorem Reorders.resolve (db : Database) (handle : Option String) :
    r.resolveUrl db handle = r'.resolveUrl db handle ∧
      r.resolveObject db handle = r'.resolveObject db handle := by
  have hfind : r.findRecord db handle = r'.findRecord db handle := by
    unfold findRecord count
    rw [h.measured]
  have hdispatch : ∀ record, (r.findRecord db handle).result = .ok (some record) →
      r.dispatch record = r'.dispatch record :=
    fun _ _ => dispatch_congr fun code _ => ResolverTable.get?_perm h.entries code
  exact ⟨resolveUrl_congr hfind hdispatch, resolveObject_congr h.measured hfind hdispatch⟩

/-- So is the handle of an object looked for, and one minted, unless the object is ambiguous. -/
theorem Reorders.object {object : Resource} (hobject : ¬r.table.Ambiguous object) (db : Database) :
    r.findHandle db object = r'.findHandle db object ∧
      ∀ site, r.createHandle site db object = r'.createHandle site db object :=
  have hidentify := ResolverTable.identify?_perm h.entries hobject
  ⟨findHandle_congr hidentify db, fun site => createHandle_congr hidentify h.measured site db⟩

/-- In an outage the order does not show either: there is nothing to be found for an ambiguous
object. -/
theorem Reorders.findHandle_of_outage {db : Database} (hdown : db.reachable = false)
    (object : Resource) : r.findHandle db object = r'.findHandle db object := by
  have hnone := ResolverTable.identify?_eq_none_perm h.entries object
  rw [Registry.findHandle_of_outage r hdown, Registry.findHandle_of_outage r' hdown]
  unfold ResolverTable.identity?
  cases hfound : r.table.identify? object with
  | none => rw [hnone.1 hfound]
  | some found =>
      cases hfound' : r'.table.identify? object with
      | none =>
          rw [hnone.2 hfound'] at hfound
          cases hfound
      | some found' => rfl

/-- The checks in front of minting let the same objects pass in every order. -/
theorem Reorders.mintable_cases (site : LiveValue) (object : Resource) :
    (∃ e, r.mintable site object = .error e ∧ r'.mintable site object = .error e) ∨
      ∃ found found',
        r.mintable site object = .ok found ∧ r'.mintable site object = .ok found' := by
  have hnone := ResolverTable.identify?_eq_none_perm h.entries object
  unfold mintable
  cases site.isEmpty with
  | true => exact .inl ⟨_, rfl, rfl⟩
  | false =>
      cases hfound : r.table.identify? object with
      | none =>
          rw [hnone.1 hfound]
          exact .inl ⟨_, rfl, rfl⟩
      | some found =>
          cases hfound' : r'.table.identify? object with
          | none =>
              rw [hnone.2 hfound'] at hfound
              cases hfound
          | some found' => exact .inr ⟨found, found', rfl, rfl⟩

/-- Minting that comes to no handle ends the same way in every order, for every object whose ids
all fit their column: type and object of a record cannot be in its way. -/
theorem Reorders.createHandle_of_unminted {site : LiveValue} {db : Database} {object : Resource}
    (hsize : ¬r.table.Oversized object)
    (hunminted : ∀ handle, (r.createHandle site db object).2.result ≠ .ok handle) :
    r.createHandle site db object = r'.createHandle site db object := by
  have hsize' : ¬r'.table.Oversized object :=
    fun hlarge => hsize ((ResolverTable.oversized_perm h.entries).2 hlarge)
  rcases h.mintable_cases site object with
    ⟨e, hm, hm'⟩ | ⟨⟨resolver, id⟩, ⟨resolver', id'⟩, hm, hm'⟩
  · simp only [createHandle, hm, hm']
  · cases hup : db.reachable with
    | false => simp only [createHandle, hm, hm', Database.allocate_of_outage hup]
    | true =>
        cases site with
        | other kind isEmpty =>
            simp only [createHandle, hm, hm', Database.allocate_of_reachable hup, settingText,
              LiveValue.asText, Except.mapError]
        | text text =>
            rw [createHandle_of_drawn hm hup] at hunminted ⊢
            rw [createHandle_of_drawn hm' hup]
            cases hinsert : db.advance.insertRecord
                (MintRequest.record ⟨text, resolver.type, id⟩ db.sequence) with
            | ok db' =>
                rw [hinsert] at hunminted
                exact absurd rfl (hunminted _)
            | error e =>
                have hinteger :=
                  ResolverTable.isInteger_of_identify? hsize (mintable_eq_ok.1 hm).2
                have hinteger' :=
                  ResolverTable.isInteger_of_identify? hsize' (mintable_eq_ok.1 hm').2
                have hinsert' : db.advance.insertRecord
                    (MintRequest.record ⟨text, resolver'.type, id'⟩ db.sequence) = .error e := by
                  refine Database.insertRecord_error_congr hinsert ?_ ?_ ?_ <;>
                    rw [MintRequest.cut_record, MintRequest.cut_record]
                  · simp only [MintRequest.fits_record, hinteger, hinteger']
                  · rfl
                  · rfl
                rw [hinsert']

end Registry

end PersistentId
