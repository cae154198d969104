import Mathlib
import PersistentId.Store.Record

/-!
# PersistentId.Proofs.Store.Rows

The rows of a table of handles.

The constraints of a table make its rows a finite map in two ways, from ids and from handles. So
`find_by_handle` and `find_by_resource` do not depend on the order in which the rows stand: a
handle has one row at most, and "the row of lowest id such that" (`RecordTable.IsEarliest`) is one
row at most. A row whose id is above all others changes no answer that was there before
(`RecordTable.handleOf?_of_above`). What a listing holds is known up to its order, which is that
of the scan.
-/

namespace PersistentId

/-! ### The row of lowest id -/

namespace Record

theorem earliest?_eq_none {xs : List Record} : earliest? xs = none ↔ xs = [] := by
  cases xs with
  | nil => simp [earliest?]
  | cons x xs =>
      unfold earliest?
      cases earliest? xs with
      | none => simp
      | some s => by_cases h : s.id < x.id <;> simp [h]

/-- The row that is found is one of the rows, and none of them has a lower id. -/
theorem earliest?_eq_some {xs : List Record} {r : Record} (h : earliest? xs = some r) :
    r ∈ xs ∧ ∀ x ∈ xs, r.id ≤ x.id := by
  induction xs generalizing r with
  | nil => cases h
  | cons y ys ih =>
      unfold earliest? at h
      cases hrest : earliest? ys with
      | none =>
          obtain rfl := earliest?_eq_none.1 hrest
          rw [hrest] at h
          cases h
          simp
      | some s =>
          obtain ⟨hs, hleast⟩ := ih hrest
          rw [hrest] at h
          simp only at h
          split at h
          · rename_i hlt
            cases h
            refine ⟨List.mem_cons_of_mem _ hs, ?_⟩
            intro x hx
            rcases List.mem_cons.1 hx with rfl | hx
            · exact le_of_lt hlt
            · exact hleast x hx
          · rename_i hge
            cases h
            refine ⟨List.mem_cons_self, ?_⟩
            intro x hx
            rcases List.mem_cons.1 hx with rfl | hx
            · exact le_refl _
            · have hx' := hleast x hx
              omega

/-- A row with a larger id than all others is the lowest only where there is no other. -/
theorem earliest?_concat_of_above {xs : List Record} {r : Record} (h : ∀ x ∈ xs, x.id < r.id) :
    earliest? (xs ++ [r]) = (earliest? xs).or (some r) := by
  induction xs with
  | nil => rfl
  | cons x xs ih =>
      have hx := h x List.mem_cons_self
      rw [List.cons_append, earliest?, ih fun y hy => h y (List.mem_cons_of_mem _ hy), earliest?]
      cases earliest? xs with
      | none => simp [show ¬r.id < x.id by omega]
      | some s => by_cases hs : s.id < x.id <;> simp [hs]

end Record

namespace RecordTable

/-! ### Ids and handles -/

/-- No id occurs twice. -/
theorem nodup_ids (t : RecordTable) : (t.rows.map (·.id)).Nodup :=
  List.pairwise_map.2 (t.compatible.imp fun h => h.1)

/-- No handle occurs twice. -/
theorem nodup_handles (t : RecordTable) : (t.rows.map (·.handle)).Nodup :=
  List.pairwise_map.2 (t.compatible.imp fun h => h.2)

/-- No row occurs twice. -/
theorem nodup_rows (t : RecordTable) : t.rows.Nodup := t.nodup_ids.of_map _

/-- Two tables of the same rows hold them in two orders. -/
theorem rows_perm {t u : RecordTable} (h : ∀ r, r ∈ t.rows ↔ r ∈ u.rows) : t.rows.Perm u.rows :=
  (List.perm_ext_iff_of_nodup t.nodup_rows u.nodup_rows).2 h

/-- Two rows of one handle are the same row. -/
theorem eq_of_handle_eq {t : RecordTable} {r s : Record} (hr : r ∈ t.rows) (hs : s ∈ t.rows)
    (h : r.handle = s.handle) : r = s :=
  List.inj_on_of_nodup_map t.nodup_handles hr hs h

/-- Looking a handle up meets one row at most. -/
theorem length_filter_handle_le (t : RecordTable) (handle : String) :
    (t.rows.filter (·.handle == handle)).length ≤ 1 := by
  have hcount : (t.rows.filter (·.handle == handle)).length =
      (t.rows.map (·.handle)).count handle := by
    rw [List.count_eq_length_filter, List.filter_map, List.length_map]
    rfl
  rw [hcount]
  exact List.nodup_iff_count_le_one.1 t.nodup_handles handle

/-! ### The rows of an object -/

/-- A row of the given type and object, with the lowest id of all of these. -/
structure IsEarliest (t : RecordTable) (type resource : Int) (r : Record) : Prop where
  mem : r ∈ t.rows
  type_eq : r.type = some type
  resource_eq : r.resource = some resource
  le : ∀ x ∈ t.rows, x.type = some type → x.resource = some resource → r.id ≤ x.id

/-- There is one such row at most. -/
theorem IsEarliest.unique {t : RecordTable} {type resource : Int} {r s : Record}
    (hr : t.IsEarliest type resource r) (hs : t.IsEarliest type resource s) : r = s :=
  List.inj_on_of_nodup_map t.nodup_ids hr.mem hs.mem
    (le_antisymm (hr.le s hs.mem hs.type_eq hs.resource_eq)
      (hs.le r hr.mem hr.type_eq hr.resource_eq))

/-- The rows of an object. -/
theorem mem_rowsOf {t : RecordTable} {type resource : Int} {r : Record} :
    (r ∈ t.rows.filter fun x => x.type == some type && x.resource == some resource) ↔
      r ∈ t.rows ∧ r.type = some type ∧ r.resource = some resource := by
  rw [List.mem_filter, Bool.and_eq_true, beq_iff_eq, beq_iff_eq]

/-- The lowest of the rows of an object is its earliest one. -/
theorem isEarliest_of_earliest? {t : RecordTable} {type resource : Int} {r : Record}
    (h : Record.earliest?
      (t.rows.filter fun x => x.type == some type && x.resource == some resource) = some r) :
    t.IsEarliest type resource r := by
  obtain ⟨hr, hleast⟩ := Record.earliest?_eq_some h
  obtain ⟨hmem, htype, hresource⟩ := mem_rowsOf.1 hr
  exact ⟨hmem, htype, hresource, fun x hx hx' hx'' => hleast x (mem_rowsOf.2 ⟨hx, hx', hx''⟩)⟩

/-- An object has no handle exactly when it has no row. -/
theorem handleOf?_eq_none {t : RecordTable} {type resource : Int} :
    t.handleOf? type resource = none ↔
      ∀ r ∈ t.rows, r.type = some type → r.resource ≠ some resource := by
  simp [handleOf?, Record.earliest?_eq_none, List.filter_eq_nil_iff]

/-- The handle of an object is that of its earliest row. -/
theorem handleOf?_eq_some {t : RecordTable} {type resource : Int} {handle : String} :
    t.handleOf? type resource = some handle ↔
      ∃ r, t.IsEarliest type resource r ∧ r.handle = handle := by
  unfold handleOf?
  rw [Option.map_eq_some_iff]
  constructor
  · rintro ⟨r, hr, hhandle⟩
    exact ⟨r, isEarliest_of_earliest? hr, hhandle⟩
  · rintro ⟨r, hr, hhandle⟩
    refine ⟨r, ?_, hhandle⟩
    cases hfound : Record.earliest?
        (t.rows.filter fun x => x.type == some type && x.resource == some resource) with
    | some s => rw [(isEarliest_of_earliest? hfound).unique hr]
    | none =>
        have hmem := mem_rowsOf.2 ⟨hr.mem, hr.type_eq, hr.resource_eq⟩
        rw [Record.earliest?_eq_none.1 hfound] at hmem
        cases hmem

/-- An object that has a row has an earliest one. -/
theorem exists_isEarliest {t : RecordTable} {r : Record} {type resource : Int} (hr : r ∈ t.rows)
    (htype : r.type = some type) (hresource : r.resource = some resource) :
    ∃ first, t.IsEarliest type resource first := by
  cases hhandle : t.handleOf? type resource with
  | none => exact absurd hresource (handleOf?_eq_none.1 hhandle r hr htype)
  | some handle =>
      obtain ⟨first, hfirst, -⟩ := handleOf?_eq_some.1 hhandle
      exact ⟨first, hfirst⟩

/-- A row whose id is above all others gives an object a handle only where it had none. -/
theorem handleOf?_of_above {t u : RecordTable} {r : Record} (hu : t.insert? r = some u)
    (habove : ∀ x ∈ t.rows, x.id < r.id) (type resource : Int) :
    u.handleOf? type resource =
      (t.handleOf? type resource).or
        (if r.type = some type ∧ r.resource = some resource then some r.handle else none) := by
  unfold handleOf?
  rw [(insert?_eq_some.1 hu).2.2, List.filter_append]
  by_cases hmatch : r.type = some type ∧ r.resource = some resource
  · rw [if_pos hmatch, List.filter_cons_of_pos (by simp [hmatch]), List.filter_nil,
      Record.earliest?_concat_of_above fun x hx => habove x (List.mem_of_mem_filter hx),
      Option.map_or]
    rfl
  · rw [if_neg hmatch, List.filter_cons_of_neg (by simpa using hmatch), List.filter_nil,
      List.append_nil, Option.or_none]

/-! ### Tables of the same rows -/

section Perm

variable {t u : RecordTable} (h : t.rows.Perm u.rows)
include h

/-- Looking up a handle does not see the order of the rows. -/
theorem find?_perm (handle : String) : t.find? handle = u.find? handle := by
  ext r
  rw [find?_eq_some, find?_eq_some, h.mem_iff]

theorem isEarliest_perm {type resource : Int} {r : Record} :
    t.IsEarliest type resource r ↔ u.IsEarliest type resource r := by
  constructor
  · rintro ⟨hmem, htype, hresource, hle⟩
    exact ⟨h.mem_iff.1 hmem, htype, hresource, fun x hx => hle x (h.mem_iff.2 hx)⟩
  · rintro ⟨hmem, htype, hresource, hle⟩
    exact ⟨h.mem_iff.2 hmem, htype, hresource, fun x hx => hle x (h.mem_iff.1 hx)⟩

/-- Nor does looking for the handle of an object. -/
theorem handleOf?_perm (type resource : Int) :
    t.handleOf? type resource = u.handleOf? type resource := by
  ext handle
  rw [handleOf?_eq_some, handleOf?_eq_some]
  simp only [isEarliest_perm h]

/-- A listing shows the same handles, in one order or another. -/
theorem listing_perm (scan scan' : Scan) (start : String) :
    (t.handlesWith scan start).Perm (u.handlesWith scan' start) :=
  ((t.handlesWith_perm scan start).trans ((h.map _).filter _)).trans
    (u.handlesWith_perm scan' start).symm

end Perm

/-! ### Listings -/

/-- No listing shows a handle twice. -/
theorem nodup_handlesWith (t : RecordTable) (scan : Scan) (start : String) :
    (t.handlesWith scan start).Nodup :=
  (t.handlesWith_perm scan start).nodup_iff.2 (t.nodup_handles.filter _)

/-- A new row is listed, once, in the listings of the texts that its handle starts with. -/
theorem handlesWith_of_insert? {t u : RecordTable} {r : Record} (hu : t.insert? r = some u)
    (scan : Scan) (start : String) :
    (u.handlesWith scan start).Perm
      (t.handlesWith scan start ++
        if start.toList <+: r.handle.toList then [r.handle] else []) := by
  have hrows : (u.rows.map (·.handle)).filter (fun h => start.toList.isPrefixOf h.toList) =
      (t.rows.map (·.handle)).filter (fun h => start.toList.isPrefixOf h.toList) ++
        if start.toList <+: r.handle.toList then [r.handle] else [] := by
    rw [(insert?_eq_some.1 hu).2.2, List.map_append, List.filter_append]
    congr 1
    by_cases hstart : start.toList <+: r.handle.toList
    · rw [if_pos hstart]
      exact List.filter_cons_of_pos (List.isPrefixOf_iff_prefix.2 hstart)
    · rw [if_neg hstart]
      exact List.filter_cons_of_neg fun h => hstart (List.isPrefixOf_iff_prefix.1 h)
  refine (u.handlesWith_perm scan start).trans ?_
  rw [hrows]
  exact (t.handlesWith_perm scan start).symm.append_right _

/-- A row that a table takes has a handle that no listing of the table shows. -/
theorem not_mem_handlesWith_of_insert? {t u : RecordTable} {r : Record}
    (hu : t.insert? r = some u) (scan : Scan) (start : String) :
    r.handle ∉ t.handlesWith scan start := by
  intro hmem
  obtain ⟨⟨x, hx, hhandle⟩, -⟩ := mem_handlesWith.1 hmem
  exact ((insert?_eq_some.1 hu).2.1 x hx).2 hhandle.symm

end RecordTable

end PersistentId
