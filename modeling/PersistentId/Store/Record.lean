import PersistentId.Failure

/-!
# PersistentId.Store.Record

The table of handle records, `HandleRecord`.

Design points:

* A record ties a handle to a resource type and a resource id, both of which may
  be missing in a row that did not come from minting. The type is kept as its
  stored code, since a row may carry a code that names no kind.
* What the columns and the constraints of the table ask of its rows is part of its
  type: every row **fits** its columns, and no two rows share an id or a handle.
* Rows stand in the order of their insertion, and no order of theirs is promised to
  a reader. `select_resource_handle_stmt` asks for the lowest id by `ORDER BY`, and
  `select_prefix_handles_stmt` asks for no order at all: what it meets the rows in is
  a parameter (`Scan`).
* There is no update and no deletion. `RecordTable.insert?` is the only way to a
  new table, and it refuses a row that does not fit or would break a constraint. It is
  the insertion into the declared table (`RecordTable.insert?_stored`).
-/

namespace PersistentId

/-- One row of the table of handles. -/
structure Record where
  /-- Drawn from the sequence, and the suffix of a minted handle. -/
  id : Int
  handle : String
  /-- The code of the resource type. -/
  type : Option Int
  resource : Option Int
  deriving DecidableEq, Repr

/-! ### What the columns take -/

/-- The numbers of a column of type `INTEGER`. -/
def IsInteger (n : Int) : Prop := -0x80000000 ≤ n ∧ n < 0x80000000

instance (n : Int) : Decidable (IsInteger n) :=
  inferInstanceAs (Decidable (-0x80000000 ≤ n ∧ n < 0x80000000))

/-- The numbers of a column of type `SMALLINT`. -/
def IsSmallInteger (n : Int) : Prop := -0x8000 ≤ n ∧ n < 0x8000

instance (n : Int) : Decidable (IsSmallInteger n) :=
  inferInstanceAs (Decidable (-0x8000 ≤ n ∧ n < 0x8000))

namespace Record

/-- How many characters the column of handles takes, `str256`. -/
def handleLength : Nat := 256

/-- A row whose values fit their columns. -/
def Fits (r : Record) : Prop :=
  IsInteger r.id ∧ r.handle.length ≤ handleLength ∧ (∀ code ∈ r.type, IsSmallInteger code) ∧
    ∀ id ∈ r.resource, IsInteger id

instance (r : Record) : Decidable r.Fits :=
  inferInstanceAs (Decidable (IsInteger r.id ∧ r.handle.length ≤ handleLength ∧
    (∀ code ∈ r.type, IsSmallInteger code) ∧ ∀ id ∈ r.resource, IsInteger id))

/-- The row as its columns store it: a handle that is too long is cut, if only blanks
are lost. -/
def cut (r : Record) : Record :=
  if (r.handle.toList.drop handleLength).all (· == ' ') then
    { r with handle := String.ofList (r.handle.toList.take handleLength) }
  else r

/-! ### Two rows -/

/-- Two rows that may stand in one table: they share neither id nor handle. -/
def Compatible (a b : Record) : Prop := a.id ≠ b.id ∧ a.handle ≠ b.handle

instance (a b : Record) : Decidable (a.Compatible b) :=
  inferInstanceAs (Decidable (a.id ≠ b.id ∧ a.handle ≠ b.handle))

theorem Compatible.symm {a b : Record} (h : a.Compatible b) : b.Compatible a :=
  ⟨Ne.symm h.1, Ne.symm h.2⟩

/-- Where no two rows share a handle, looking for the handle of a row finds that row. -/
theorem find?_of_mem {r : Record} {xs : List Record} (h : xs.Pairwise Compatible) (hr : r ∈ xs) :
    (xs.find? fun x => x.handle == r.handle) = some r := by
  induction xs with
  | nil => exact absurd hr List.not_mem_nil
  | cons y ys ih =>
    obtain ⟨hy, hys⟩ := List.pairwise_cons.1 h
    rcases List.mem_cons.1 hr with rfl | hr
    · simp
    · rw [List.find?_cons_of_neg (by simpa using (hy r hr).2)]
      exact ih hys hr

/-! ### Rows by id -/

/-- The row of lowest id, if there is any row. -/
def earliest? : List Record → Option Record
  | [] => none
  | r :: rest =>
    match earliest? rest with
    | some s => if s.id < r.id then some s else some r
    | none => some r

/-- The rows with a new row put in front of the first one with a larger id. -/
def place (r : Record) : List Record → List Record
  | [] => [r]
  | x :: xs => if r.id < x.id then r :: x :: xs else x :: place r xs

theorem place_perm (r : Record) (xs : List Record) : (place r xs).Perm (r :: xs) := by
  induction xs with
  | nil => exact .refl _
  | cons x xs ih =>
    unfold place
    split
    · exact .refl _
    · exact (ih.cons x).trans (.swap r x xs)

end Record

/-- The order in which a query that asks for none meets the rows it selects. It depends on
how the table is kept and on the plan of the query, so nothing but the rows themselves
is promised. -/
structure Scan where
  order : List Record → List Record
  perm : ∀ rows, (order rows).Perm rows

/-- A table that is kept by ascending id. -/
def Scan.byId : Scan where
  order rows := rows.foldr Record.place []
  perm rows := by
    induction rows with
    | nil => exact .refl _
    | cons r rest ih => exact (Record.place_perm r _).trans (ih.cons r)

/-- The table of handles. -/
structure RecordTable where
  /-- The rows in the order of their insertion. -/
  rows : List Record
  fits : ∀ r ∈ rows, r.Fits
  compatible : rows.Pairwise Record.Compatible

namespace RecordTable

/-- A table is determined by its rows. -/
theorem ext {t u : RecordTable} (h : t.rows = u.rows) : t = u := by
  cases t; cases u; subst h; rfl

/-- A table without rows. -/
def empty : RecordTable := ⟨[], fun _ h => absurd h List.not_mem_nil, .nil⟩

@[simp] theorem rows_empty : empty.rows = [] := rfl

/-- A table that takes a new row keeps its constraints. -/
theorem compatible_concat {t : RecordTable} {r : Record} (h : ∀ x ∈ t.rows, r.Compatible x) :
    (t.rows ++ [r]).Pairwise Record.Compatible := by
  refine List.pairwise_append.2 ⟨t.compatible, List.pairwise_singleton _ _, ?_⟩
  intro x hx y hy
  rw [List.mem_singleton.1 hy]
  exact (h x hx).symm

theorem fits_concat {t : RecordTable} {r : Record} (h : r.Fits) :
    ∀ x ∈ t.rows ++ [r], x.Fits := by
  intro x hx
  rcases List.mem_append.1 hx with hx | hx
  · exact t.fits x hx
  · rwa [List.mem_singleton.1 hx]

/-- The table with one more row, unless a value of the row does not fit its column, or the
row shares its id or its handle with a row that is there. -/
def insert? (t : RecordTable) (r : Record) : Option RecordTable :=
  if h : r.Fits ∧ ∀ x ∈ t.rows, r.Compatible x then
    some ⟨t.rows ++ [r], fits_concat h.1, compatible_concat h.2⟩
  else
    none

/-- Why a table does not take a row. What does not fit is refused before the other rows are
looked at. -/
def refusal (r : Record) : StoreError := if r.Fits then .conflict else .unfit

/-- The record of a handle. -/
def find? (t : RecordTable) (handle : String) : Option Record :=
  t.rows.find? fun r => r.handle == handle

/-- The handle of lowest id among the records of an object. -/
def handleOf? (t : RecordTable) (type resource : Int) : Option String :=
  (Record.earliest? (t.rows.filter fun r => r.type == some type && r.resource == some resource)).map
    (·.handle)

/-- The handles that start with a given text, as a scan meets them. The text is matched
literally and case-sensitively. -/
def handlesWith (t : RecordTable) (scan : Scan) (start : String) : List String :=
  (scan.order (t.rows.filter fun r => start.toList.isPrefixOf r.handle.toList)).map (·.handle)

/-- A row is accepted exactly when it fits and is compatible with every row that is there,
and then it stands behind the old ones. -/
theorem insert?_eq_some {t u : RecordTable} {r : Record} :
    t.insert? r = some u ↔
      r.Fits ∧ (∀ x ∈ t.rows, r.Compatible x) ∧ u.rows = t.rows ++ [r] := by
  unfold insert?
  split
  · rename_i h
    constructor
    · intro e
      cases e
      exact ⟨h.1, h.2, rfl⟩
    · rintro ⟨-, -, e⟩
      exact congrArg some (ext e.symm)
  · rename_i h
    constructor
    · intro e
      cases e
    · rintro ⟨hfits, hfree, -⟩
      exact absurd ⟨hfits, hfree⟩ h

theorem insert?_eq_none {t : RecordTable} {r : Record} :
    t.insert? r = none ↔ ¬(r.Fits ∧ ∀ x ∈ t.rows, r.Compatible x) := by
  unfold insert?
  split <;> simp_all

/-- Insertion adds the new row and keeps every other one. -/
theorem mem_rows_of_insert? {t u : RecordTable} {r x : Record} (h : t.insert? r = some u) :
    x ∈ u.rows ↔ x = r ∨ x ∈ t.rows := by
  obtain ⟨-, -, e⟩ := insert?_eq_some.1 h
  rw [e, List.mem_append, List.mem_singleton, or_comm]

/-- The record of a handle is the row that carries the handle: there is one at most. -/
theorem find?_eq_some {t : RecordTable} {handle : String} {r : Record} :
    t.find? handle = some r ↔ r ∈ t.rows ∧ r.handle = handle := by
  constructor
  · intro h
    exact ⟨List.mem_of_find?_eq_some h, by simpa using List.find?_some h⟩
  · rintro ⟨hr, rfl⟩
    exact Record.find?_of_mem t.compatible hr

/-- A handle has no record exactly when no row carries it. -/
theorem find?_eq_none {t : RecordTable} {handle : String} :
    t.find? handle = none ↔ ∀ x ∈ t.rows, x.handle ≠ handle := by
  simp [find?]

/-- Whatever the scan, a listing is made of the handles in the table that start with the
given text. -/
theorem handlesWith_perm (t : RecordTable) (scan : Scan) (start : String) :
    (t.handlesWith scan start).Perm
      ((t.rows.map (·.handle)).filter fun h => start.toList.isPrefixOf h.toList) := by
  unfold handlesWith
  rw [List.filter_map]
  exact (scan.perm _).map _

/-- A listing holds the handles of the rows that start with the given text, and no others. -/
theorem mem_handlesWith {t : RecordTable} {scan : Scan} {start handle : String} :
    handle ∈ t.handlesWith scan start ↔
      (∃ r ∈ t.rows, r.handle = handle) ∧ start.toList <+: handle.toList := by
  rw [(t.handlesWith_perm scan start).mem_iff, List.mem_filter, List.mem_map,
    List.isPrefixOf_iff_prefix]

end RecordTable

end PersistentId
