import Mathlib
import PersistentId.Proofs.Registry.Agreement

/-!
# PersistentId.Proofs.Registry.Extension

A table of resolvers with one more entry, under a key that it did not have.

The new entry stands at the end, so in both ways through the table the old entries come first: a
code goes to the new entry where it is the code of the new key, which was nobody's before
(`ResolverTable.get?_set`), and an object is shown to the new resolver where no old one recognised
it (`ResolverTable.identify?_set`). The type that the new resolver puts on records has no say in
either.

So an operation of `HandleRegistry` is the one that it was with the old table, or the one that it is
with a table of the new entry alone. It is the latter only for a row whose type is the new key
(`Registry.AsksFor`), or for an object that nobody recognised.
-/

namespace PersistentId

/-- An entry of a new key is set at the end. -/
theorem ResolverEntry.set_of_new {e : ResolverEntry} {xs : List ResolverEntry}
    (h : e.key ∉ xs.map (·.key)) : e.set xs = xs ++ [e] := by
  induction xs with
  | nil => rfl
  | cons x xs ih =>
      rw [List.map_cons, List.mem_cons, not_or] at h
      rw [ResolverEntry.set, if_neg (Ne.symm h.1), ih h.2, List.cons_append]

namespace ResolverTable

def keys (t : ResolverTable) : List ResourceType := t.entries.map (·.key)

/-- The table of one entry. -/
def only (e : ResolverEntry) : ResolverTable := empty.set e

section Set

variable {t : ResolverTable} {e : ResolverEntry} (hnew : e.key ∉ t.keys)
include hnew

theorem entries_set : (t.set e).entries = t.entries ++ [e] := ResolverEntry.set_of_new hnew

theorem get?_new : t.get? e.key.code = none :=
  get?_code_eq_none.2 fun _ hx hkey => hnew (hkey ▸ List.mem_map_of_mem hx)

/-- A code is dispatched to the old entry for it, or else to the new one. -/
theorem get?_set (code : Int) : (t.set e).get? code = (t.get? code).or ((only e).get? code) := by
  unfold get?
  rw [entries_set hnew, List.find?_append, Option.map_or]
  rfl

/-- An object is shown to the new resolver after all old ones. -/
theorem identify?_set (object : Resource) :
    (t.set e).identify? object = (t.identify? object).or ((only e).identify? object) := by
  unfold identify?
  rw [entries_set hnew, List.findSome?_append]
  rfl

end Set

theorem get?_only_of_ne {e : ResolverEntry} {code : Int} (h : e.key.code ≠ code) :
    (only e).get? code = none := by
  simp [only, set, empty, ResolverEntry.set, get?, h]

end ResolverTable

namespace Registry

/-- The registry with one more entry in its table. -/
def extended (r : Registry) (e : ResolverEntry) : Registry := { r with table := r.table.set e }

/-- The registry with one entry for a table. -/
def only (r : Registry) (e : ResolverEntry) : Registry := { r with table := .only e }

/-! ### Resolving -/

/-- The row of a handle has an object, and a given key as its type. -/
def AsksFor (db : Database) (handle : Option String) (key : ResourceType) : Prop :=
  ∃ record, Sees db record ∧ handle = some record.handle ∧ record.type = some key.code ∧
    record.resource ≠ none

section Extended

variable {r : Registry} {e : ResolverEntry} (hnew : e.key ∉ r.table.keys) {db : Database}
  {handle : Option String}
include hnew

/-- Where the row of a handle does not ask for the new key, the resolver is chosen as before. -/
theorem dispatch_extended_of_not_asksFor (h : ¬AsksFor db handle e.key) {record : Record}
    (hfound : (r.findRecord db handle).result = .ok (some record)) :
    (r.extended e).dispatch record = r.dispatch record := by
  obtain ⟨hup, hrow, hpresent⟩ := row_of_findRecord hfound
  obtain ⟨hhandle, hne⟩ := present?_eq_some.1 hpresent
  by_cases hmissing : record.type = none ∨ record.resource = none
  · rw [dispatch_of_missing hmissing, dispatch_of_missing hmissing]
  · have hresource : record.resource ≠ none := fun hnone => hmissing (.inr hnone)
    refine dispatch_congr fun code htype => ?_
    have hcode : e.key.code ≠ code := by
      rintro rfl
      exact h ⟨record, ⟨hup, hrow, hne⟩, hhandle, htype, hresource⟩
    rw [extended, ResolverTable.get?_set hnew, ResolverTable.get?_only_of_ne hcode, Option.or_none]

/-- Where it does, the new entry is chosen. -/
theorem dispatch_extended_of_asksFor (h : AsksFor db handle e.key) {record : Record}
    (hfound : (r.findRecord db handle).result = .ok (some record)) :
    (r.extended e).dispatch record = (r.only e).dispatch record := by
  obtain ⟨asking, hsees, hhandle, htype, -⟩ := h
  obtain ⟨hup, hrow, hpresent⟩ := row_of_findRecord hfound
  obtain ⟨hhandle', hne⟩ := present?_eq_some.1 hpresent
  obtain rfl := Sees.unique hsees ⟨hup, hrow, hne⟩ (hhandle.symm.trans hhandle')
  refine dispatch_congr fun code hcode => ?_
  obtain rfl := Option.some.inj (htype.symm.trans hcode)
  rw [extended, ResolverTable.get?_set hnew, ResolverTable.get?_new hnew, Option.none_or, only]

theorem resolve_extended_of_not_asksFor (h : ¬AsksFor db handle e.key) :
    (r.extended e).resolveUrl db handle = r.resolveUrl db handle ∧
      (r.extended e).resolveObject db handle = r.resolveObject db handle :=
  ⟨resolveUrl_congr rfl fun _ hfound => dispatch_extended_of_not_asksFor hnew h hfound,
    resolveObject_congr rfl rfl fun _ hfound => dispatch_extended_of_not_asksFor hnew h hfound⟩

theorem resolve_extended_of_asksFor (h : AsksFor db handle e.key) :
    (r.extended e).resolveUrl db handle = (r.only e).resolveUrl db handle ∧
      (r.extended e).resolveObject db handle = (r.only e).resolveObject db handle :=
  ⟨resolveUrl_congr rfl fun _ hfound => dispatch_extended_of_asksFor hnew h hfound,
    resolveObject_congr rfl rfl fun _ hfound => dispatch_extended_of_asksFor hnew h hfound⟩

/-- Without the new entry, a row that asks for its key is refused for its type. -/
theorem unsupported_of_asksFor (h : AsksFor db handle e.key) :
    (r.resolveUrl db handle).result = .error (.handle (.unsupportedType e.key.code)) ∧
      (r.resolveObject db handle).result =
        .error (.handle (.unsupportedType e.key.code)) := by
  obtain ⟨record, hsees, rfl, htype, hresource⟩ := h
  obtain ⟨id, hid⟩ := Option.ne_none_iff_exists'.1 hresource
  have hnone := ResolverTable.get?_code_eq_none.1 (ResolverTable.get?_new hnew)
  exact (unsupported_of_row hsees.reachable hsees.mem hsees.handle hnone htype hid).symm

end Extended

/-! ### Objects -/

section Identified

variable {r : Registry} {e : ResolverEntry} (hnew : e.key ∉ r.table.keys) {object : Resource}
include hnew

/-- Who recognised an object before recognises it still. -/
theorem identify?_extended_of_some {found : Resolver × Int}
    (h : r.table.identify? object = some found) :
    (r.extended e).table.identify? object = r.table.identify? object := by
  rw [extended, ResolverTable.identify?_set hnew, h, Option.some_or]

/-- An object that nobody recognised is left to the new resolver. -/
theorem identify?_extended_of_none (h : r.table.identify? object = none) :
    (r.extended e).table.identify? object = (r.only e).table.identify? object := by
  rw [extended, ResolverTable.identify?_set hnew, h, Option.none_or, only]

end Identified

/-- Looking for the handle of an object depends on the table by who recognises the object. -/
theorem findHandle_congr {r r' : Registry} {object : Resource}
    (h : r.table.identify? object = r'.table.identify? object) (db : Database) :
    r.findHandle db object = r'.findHandle db object := by
  unfold findHandle
  rw [h]

/-- So does minting, with the kind of the object for its counter. -/
theorem createHandle_congr {r r' : Registry} {object : Resource}
    (h : r.table.identify? object = r'.table.identify? object)
    (hmeasured : r.measured = r'.measured) (site : LiveValue)
    (db : Database) : r.createHandle site db object = r'.createHandle site db object := by
  unfold createHandle mintable
  simp only [h, count, hmeasured]

/-- Without a prefix nobody asks who recognises the object. -/
theorem createHandle_of_isEmpty {site : LiveValue} (h : site.isEmpty = true) (r : Registry)
    (db : Database) (object : Resource) :
    r.createHandle site db object = (db, refuse (.settingNotSet "handle.prefix")) := by
  have hrefused : r.mintable site object = .error (.settingNotSet "handle.prefix") := if_pos h
  rw [createHandle, hrefused]

/-- With a prefix, an object that nobody recognises is refused for its kind. -/
theorem createHandle_of_unrecognised {r : Registry} {site : LiveValue} {object : Resource}
    (hsite : site.isEmpty = false) (h : r.table.identify? object = none) (db : Database) :
    r.createHandle site db object = (db, refuse (.unsupportedResource object.kindName)) := by
  have hrefused : r.mintable site object = .error (.unsupportedResource object.kindName) := by
    rw [mintable, if_neg (by simp [hsite]), h]
  rw [createHandle, hrefused]

end Registry

end PersistentId
