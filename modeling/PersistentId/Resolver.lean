import PersistentId.Resource
import PersistentId.ResourceType
import PersistentId.Site

/-!
# PersistentId.Resolver

The dispatch table: what the registry knows about each kind of object.

Design points:

* A `Resolver` knows how to find an object of its kind, how to recognise one, and
  where such objects are published.
* A `ResolverTable` is an ordered list of entries with distinct keys. Its order
  matters for recognition only, where the first entry that gives an id wins. Setting
  an entry keeps the place of its key.
* The key of an entry and the type of its resolver are two things: records are
  dispatched by key, and minted with the resolver's type.
-/

namespace PersistentId

/-- What the registry knows about one kind of object, a `ResourceResolver`. -/
structure Resolver where
  /-- The type stored on the records of this kind. -/
  type : ResourceType
  /-- The object of an id, where `items` are the items that exist. -/
  find : (items : List Int) → (id : Int) → Option Resource
  /-- The id of an object of this kind, nothing for any other object. -/
  identify : Resource → Option Int
  /-- The base of the addresses under which objects of this kind are published. -/
  urlPrefix : LiveValue
  /-- The configuration property that holds `urlPrefix`. -/
  urlPrefixSetting : String

/-- The resolver of items, published under a given base: it finds them by `find_item`, and
recognises them by `item_id_of`. -/
def Resolver.items (urlPrefix : LiveValue) : Resolver where
  type := .item
  find items id := if items.contains id then some (.item (some id)) else none
  identify
    | .item id => id
    | _ => none
  urlPrefix := urlPrefix
  urlPrefixSetting := "handle.item.url.prefix"

/-- A resolver of a fixed collection: it recognises tagged objects of given kinds, and
finds the objects of given ids. -/
def Resolver.collection (type : ResourceType) (kinds : List String) (objects : List Int)
    (urlPrefix : LiveValue) (urlPrefixSetting : String) : Resolver where
  type := type
  find _ id := if objects.contains id then some (.tagged type.label (some id)) else none
  identify
    | .tagged kind id => if kinds.contains kind then id else none
    | _ => none
  urlPrefix := urlPrefix
  urlPrefixSetting := urlPrefixSetting

/-- One line of the dispatch table. -/
structure ResolverEntry where
  key : ResourceType
  resolver : Resolver

/-- The entries with one of them set: in place where the key is there already, at the
end where it is new. -/
def ResolverEntry.set (e : ResolverEntry) : List ResolverEntry → List ResolverEntry
  | [] => [e]
  | x :: xs => if x.key = e.key then e :: xs else x :: e.set xs

theorem ResolverEntry.keys_set (e : ResolverEntry) (xs : List ResolverEntry) :
    (e.set xs).map (·.key) =
      if e.key ∈ xs.map (·.key) then xs.map (·.key) else xs.map (·.key) ++ [e.key] := by
  induction xs with
  | nil => rfl
  | cons x xs ih =>
    unfold ResolverEntry.set
    by_cases h : x.key = e.key
    · simp [h]
    · rw [if_neg h, List.map_cons, ih]
      have hne : e.key ≠ x.key := Ne.symm h
      by_cases hm : e.key ∈ xs.map (·.key)
      · rw [if_pos hm, if_pos (by simpa using Or.inr hm)]
        rfl
      · rw [if_neg hm, if_neg (by simpa [hne] using hm)]
        rfl

/-- The dispatch table. -/
structure ResolverTable where
  entries : List ResolverEntry
  distinct : (entries.map (·.key)).Nodup

namespace ResolverTable

/-- A table without entries. -/
def empty : ResolverTable := ⟨[], .nil⟩

/-- The table with one entry set. -/
def set (t : ResolverTable) (e : ResolverEntry) : ResolverTable where
  entries := e.set t.entries
  distinct := by
    rw [ResolverEntry.keys_set]
    split
    · exact t.distinct
    · rename_i h
      rw [List.nodup_append]
      refine ⟨t.distinct, by simp, ?_⟩
      intro a ha b hb
      rw [List.mem_singleton.1 hb]
      rintro rfl
      exact h ha

/-- The table of the entries, set one after another. -/
def ofEntries (es : List ResolverEntry) : ResolverTable := es.foldl set empty

/-- The table used unless another one is given, `default_resolvers`: items only. -/
def items (urlPrefix : LiveValue) : ResolverTable :=
  empty.set ⟨.item, .items urlPrefix⟩

/-- The resolver registered for a stored type code. -/
def get? (t : ResolverTable) (code : Int) : Option Resolver :=
  (t.entries.find? fun e => e.key.code == code).map (·.resolver)

/-- The first resolver that recognises an object, and the id it reports, `_identify`. -/
def identify? (t : ResolverTable) (object : Resource) : Option (Resolver × Int) :=
  t.entries.findSome? fun e => (e.resolver.identify object).map fun id => (e.resolver, id)

/-- Where keys are distinct, looking for the code of an entry's key finds that entry. -/
theorem find?_of_mem {e : ResolverEntry} {xs : List ResolverEntry}
    (h : (xs.map (·.key)).Nodup) (he : e ∈ xs) :
    (xs.find? fun x => x.key.code == e.key.code) = some e := by
  induction xs with
  | nil => exact absurd he List.not_mem_nil
  | cons x xs ih =>
    obtain ⟨hx, hxs⟩ := List.nodup_cons.1 h
    rcases List.mem_cons.1 he with rfl | he
    · simp
    · have hne : x.key.code ≠ e.key.code := by
        intro hc
        exact hx (List.mem_map.2 ⟨e, he, (ResourceType.code_injective hc).symm⟩)
      rw [List.find?_cons_of_neg (by simpa using hne)]
      exact ih hxs he

/-- A stored code is dispatched to the resolver registered under it: there is one at most. -/
theorem get?_eq_some {t : ResolverTable} {code : Int} {r : Resolver} :
    t.get? code = some r ↔ ∃ e ∈ t.entries, e.key.code = code ∧ e.resolver = r := by
  unfold get?
  rw [Option.map_eq_some_iff]
  constructor
  · rintro ⟨e, he, hr⟩
    exact ⟨e, List.mem_of_find?_eq_some he, by simpa using List.find?_some he, hr⟩
  · rintro ⟨e, he, rfl, hr⟩
    exact ⟨e, find?_of_mem t.distinct he, hr⟩

/-- An object is not recognised exactly when no resolver gives it an id. -/
theorem identify?_eq_none {t : ResolverTable} {object : Resource} :
    t.identify? object = none ↔ ∀ e ∈ t.entries, e.resolver.identify object = none := by
  simp [identify?]

end ResolverTable

end PersistentId
