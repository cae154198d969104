import Mathlib
import PersistentId.Proofs.Handle.Composition
import PersistentId.Store.Minting

/-!
# PersistentId.Proofs.Minting.Freshness

Why a minted record finds its place in a table of minted records.

A record that fits its columns is refused when a row has its id or its handle. In a table
whose rows are composed of their ids (`RecordTable.Composed`) the second case is part of the
first: the handle of a row ends in the row's id, so a record with an unused id has an unused
handle, even where its prefix was never seen before.

A minted record is stored as it is or not at all (`MintRequest.cut_record`): its handle ends
in a number, so there is no blank to be cut off.
-/

namespace PersistentId

/-- A handle that does not end in a blank is not cut. -/
theorem Record.cut_of_getLast? {r : Record} {c : Char}
    (hlast : r.handle.toList.getLast? = some c) (hc : c ≠ ' ') : r.cut = r := by
  unfold cut
  split
  · rename_i hblank
    -- If anything was cut off, the last character was, and it is no blank.
    have hshort : r.handle.toList.drop handleLength = [] := by
      by_contra hne
      have hmem := List.mem_of_getLast? (List.getLast?_eq_some_getLast hne)
      rw [List.getLast_drop hne] at hmem
      have hblank' := List.all_eq_true.1 hblank _ hmem
      rw [List.getLast?_eq_some_getLast (List.ne_nil_of_drop_ne_nil hne)] at hlast
      rw [Option.some.inj hlast] at hblank'
      exact hc (by simpa using hblank')
    have hsame : r.handle.toList.take handleLength = r.handle.toList := by
      rw [List.take_of_length_le (List.drop_eq_nil_iff.1 hshort)]
    rw [hsame, String.ofList_toList]
  · rfl

/-- A minted record is never cut. -/
theorem MintRequest.cut_record (request : MintRequest) (n : Int) :
    (request.record n).cut = request.record n := by
  obtain ⟨c, hlast, hc⟩ := Handle.getLast?_compose request.site n
  exact Record.cut_of_getLast? hlast hc

/-- Behind a prefix as long as the column there is no room for a number. -/
theorem MintRequest.not_fits_of_long {request : MintRequest}
    (h : Record.handleLength ≤ request.site.length) (n : Int) : ¬(request.record n).Fits := by
  intro hfits
  have hlength := hfits.2.1
  have hdecimal := List.length_pos_iff.2 (Handle.toList_toString_ne_nil n)
  have hprefix : request.site.length ≤ (Handle.withTrailingSlash request.site).length := by
    unfold Handle.withTrailingSlash
    split
    · exact le_refl _
    · rw [String.length_append]
      exact Nat.le_add_right _ _
  rw [String.length_toList] at hdecimal
  simp only [record, Handle.compose, String.length_append] at hlength
  omega

/-- Of the values of a minted record, the type always fits. -/
theorem MintRequest.fits_record {request : MintRequest} {n : Int} :
    (request.record n).Fits ↔ IsInteger n ∧
      (Handle.compose request.site n).length ≤ Record.handleLength ∧
      IsInteger request.resource := by
  have htype : ∀ code ∈ (request.record n).type, IsSmallInteger code := by
    intro code hcode
    cases hcode
    cases request.type <;> decide
  constructor
  · rintro ⟨hid, hlength, -, hresource⟩
    exact ⟨hid, hlength, hresource request.resource rfl⟩
  · rintro ⟨hid, hlength, hresource⟩
    refine ⟨hid, hlength, htype, ?_⟩
    intro id hid
    cases hid
    exact hresource

/-- A prefix of three hundred characters, which no column of handles has room for. -/
@[irreducible]
def longPrefix : String := String.ofList (List.replicate 300 'a')

theorem length_longPrefix : longPrefix.length = 300 := by
  unfold longPrefix
  rw [String.length_ofList, List.length_replicate]

theorem longPrefix_ne_empty : longPrefix ≠ "" := by
  intro h
  have hlength := length_longPrefix
  rw [h, String.length_empty] at hlength
  cases hlength

theorem MintRequest.not_fits_longPrefix (type : ResourceType) (resource n : Int) :
    ¬(MintRequest.record ⟨longPrefix, type, resource⟩ n).Fits := by
  refine not_fits_of_long ?_ n
  show Record.handleLength ≤ longPrefix.length
  rw [length_longPrefix]
  decide

namespace RecordTable

/-- Every row has a handle that is composed of some prefix and the row's id. -/
def Composed (t : RecordTable) : Prop := ∀ r ∈ t.rows, ∃ site, r.handle = Handle.compose site r.id

/-- A table of composed rows takes every request with a value that no row has, if the record
fits. -/
theorem Composed.exists_insert? {t : RecordTable} (ht : t.Composed) {n : Int}
    (hn : ∀ r ∈ t.rows, r.id ≠ n) {request : MintRequest} (hfits : (request.record n).Fits) :
    ∃ u, t.insert? (request.record n) = some u := by
  cases hu : t.insert? (request.record n) with
  | some u => exact ⟨u, rfl⟩
  | none =>
      refine absurd ⟨hfits, ?_⟩ (insert?_eq_none.1 hu)
      intro r hr
      refine ⟨Ne.symm (hn r hr), ?_⟩
      intro hhandle
      obtain ⟨site, hsite⟩ := ht r hr
      rw [hsite] at hhandle
      exact hn r hr (Handle.suffix_of_compose_eq hhandle).symm

/-- A table as minting leaves it: the rows are composed, and the sequence, which stands at
`next`, has passed their ids. -/
structure MintedBelow (t : RecordTable) (next : Int) : Prop where
  composed : t.Composed
  below : ∀ r ∈ t.rows, r.id < next

/-- Such a table takes every request with the next value, if the record fits. -/
theorem MintedBelow.exists_insert? {t : RecordTable} {next : Int} (ht : t.MintedBelow next)
    {request : MintRequest} (hfits : (request.record next).Fits) :
    ∃ u, t.insert? (request.record next) = some u :=
  ht.composed.exists_insert? (fun r hr => ne_of_lt (ht.below r hr)) hfits

end RecordTable

end PersistentId
