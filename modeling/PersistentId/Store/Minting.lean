import PersistentId.Handle
import PersistentId.ResourceType
import PersistentId.Store.Record

/-!
# PersistentId.Store.Minting

Several callers who mint handles on one store, each by `create_handle`.

Design points:

* Minting takes two statements: one draws a value from the sequence (`allocate_id`), one stores
  the record (`insert`).
  Between the two, other callers may execute theirs.
* A **schedule** is the list of callers in the order of their statements. A caller's first
  turn draws, the second one stores; further turns do nothing.
-/

namespace PersistentId

/-- What a caller wants minted. -/
structure MintRequest where
  /-- The site prefix in use. -/
  site : String
  type : ResourceType
  resource : Int
  deriving DecidableEq, Repr

/-- The record of a request with a value drawn for it. -/
def MintRequest.record (r : MintRequest) (n : Int) : Record :=
  ⟨n, Handle.compose r.site n, some r.type.code, some r.resource⟩

/-- How far a caller has come. -/
inductive MintProgress
  | waiting
  | drawn (n : Int)
  | stored (handle : String)
  /-- The record was refused. -/
  | refused (e : StoreError)
  deriving DecidableEq, Repr

/-- A store with callers at work on it. -/
structure Minting where
  table : RecordTable
  /-- The next value of the sequence. -/
  sequence : Int
  /-- How far each caller has come. -/
  progress : Nat → MintProgress

namespace Minting

/-- A store before any caller has had a turn. -/
def start (table : RecordTable) (sequence : Int) : Minting := ⟨table, sequence, fun _ => .waiting⟩

/-- The progress with one caller moved on. -/
def move (p : Nat → MintProgress) (k : Nat) (next : MintProgress) : Nat → MintProgress :=
  fun j => if j = k then next else p j

/-- One turn of a caller: the next of its two statements. -/
def turn (request : Nat → MintRequest) (m : Minting) (k : Nat) : Minting :=
  match m.progress k with
  | .waiting =>
    { m with sequence := m.sequence + 1, progress := move m.progress k (.drawn m.sequence) }
  | .drawn n =>
    match m.table.insert? ((request k).record n) with
    | some table =>
      { m with
        table := table
        progress := move m.progress k (.stored (Handle.compose (request k).site n)) }
    | none =>
      { m with
        progress := move m.progress k (.refused (RecordTable.refusal ((request k).record n))) }
  | .stored _ => m
  | .refused _ => m

/-- What comes of a schedule. -/
def run (request : Nat → MintRequest) (m : Minting) (schedule : List Nat) : Minting :=
  schedule.foldl (turn request) m

@[simp] theorem run_nil (request : Nat → MintRequest) (m : Minting) : m.run request [] = m := rfl

@[simp] theorem run_cons (request : Nat → MintRequest) (m : Minting) (k : Nat)
    (schedule : List Nat) :
    m.run request (k :: schedule) = (m.turn request k).run request schedule := rfl

theorem run_append (request : Nat → MintRequest) (m : Minting) (xs ys : List Nat) :
    m.run request (xs ++ ys) = (m.run request xs).run request ys := by
  simp [run]

@[simp] theorem move_same (p : Nat → MintProgress) (k : Nat) (next : MintProgress) :
    move p k next k = next := if_pos rfl

@[simp] theorem move_other {p : Nat → MintProgress} {j k : Nat} (h : j ≠ k)
    (next : MintProgress) :
    move p k next j = p j := if_neg h

end Minting

end PersistentId
