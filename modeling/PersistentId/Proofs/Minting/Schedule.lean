import Mathlib
import PersistentId.Proofs.Minting.Freshness

/-!
# PersistentId.Proofs.Minting.Schedule

What a schedule of minting callers comes to.

Minting takes two statements, and those of other callers may come between them. But the first
one settles everything: the value that a caller draws is its place in the order of the draws
(`Minting.due`), and no caller can draw it again. A record that fits its columns finds its
place, and one that does not is refused, whoever else is at work. So the state behind a schedule
can be read off the schedule (`Minting.Follows`): it depends on the order of the first turns and
on how often each caller had its turn, and on nothing else about the order of the turns
(`Minting.Follows.agree`).
-/

namespace PersistentId

namespace Minting

variable {request : Nat → MintRequest} {table : RecordTable} {first : Int}

/-! ### What a schedule comes to -/

/-- The value drawn for a caller, where `first` is the first one: the callers draw in the
order of their first turns. -/
def due (first : Int) (schedule : List Nat) (k : Nat) : Int := first + schedule.eraseDups.idxOf k

/-- What the second turn of a caller comes to that has drawn a value. -/
def verdict (request : MintRequest) (n : Int) : MintProgress :=
  if (request.record n).Fits then .stored (Handle.compose request.site n) else .refused .unfit

/-- How far a caller has come behind a schedule. -/
def reached (request : Nat → MintRequest) (first : Int) (schedule : List Nat) (k : Nat) :
    MintProgress :=
  match schedule.count k with
  | 0 => .waiting
  | 1 => .drawn (due first schedule k)
  | _ => verdict (request k) (due first schedule k)

/-- The rows stored along a schedule: those of the callers who had their second turn, as far
as they fit. -/
def Stored (request : Nat → MintRequest) (first : Int) (schedule : List Nat) (r : Record) : Prop :=
  r.Fits ∧ ∃ k, 2 ≤ schedule.count k ∧ r = (request k).record (due first schedule k)

/-- The state behind a schedule, where the table held the rows of `table` before. -/
structure Follows (request : Nat → MintRequest) (table : RecordTable) (first : Int)
    (schedule : List Nat) (m : Minting) : Prop where
  sequence : m.sequence = first + schedule.eraseDups.length
  progress : ∀ k, m.progress k = reached request first schedule k
  rows : ∀ r, r ∈ m.table.rows ↔ r ∈ table.rows ∨ Stored request first schedule r

/-- A caller without a turn waits. -/
theorem reached_of_count_zero {schedule : List Nat} {k : Nat} (h : schedule.count k = 0) :
    reached request first schedule k = .waiting := by
  rw [reached, h]
  rfl

/-- A caller with one turn has drawn. -/
theorem reached_of_count_one {schedule : List Nat} {k : Nat} (h : schedule.count k = 1) :
    reached request first schedule k = .drawn (due first schedule k) := by
  rw [reached, h]
  rfl

/-- A caller with two turns has stored, or was refused. -/
theorem reached_of_two_le {schedule : List Nat} {k : Nat} (h : 2 ≤ schedule.count k) :
    reached request first schedule k = verdict (request k) (due first schedule k) := by
  obtain ⟨n, hn⟩ := Nat.exists_eq_add_of_le' h
  rw [reached, hn]
  rfl

/-! ### One more turn on a schedule -/

/-- A turn of a caller who had one before does not change the order of the draws. -/
theorem eraseDups_concat_of_mem {schedule : List Nat} {k : Nat} (hk : k ∈ schedule) :
    (schedule ++ [k]).eraseDups = schedule.eraseDups := by
  rw [List.eraseDups_append]
  simp [List.removeAll, hk]

/-- The first turn of a caller puts it at the end of the order of the draws. -/
theorem eraseDups_concat_of_notMem {schedule : List Nat} {k : Nat} (hk : k ∉ schedule) :
    (schedule ++ [k]).eraseDups = schedule.eraseDups ++ [k] := by
  rw [List.eraseDups_append]
  simp [List.removeAll, hk, List.eraseDups_cons]

/-- A turn counts for its caller. -/
theorem count_concat_same (schedule : List Nat) (k : Nat) :
    (schedule ++ [k]).count k = schedule.count k + 1 := by
  rw [List.count_append, List.count_singleton_self]

/-- It counts for nobody else. -/
theorem count_concat_of_ne {schedule : List Nat} {j k : Nat} (h : j ≠ k) :
    (schedule ++ [k]).count j = schedule.count j := by
  rw [List.count_append, List.count_singleton, if_neg (by simpa using Ne.symm h), Nat.add_zero]

/-- What a caller has drawn is not changed by later turns. -/
theorem due_append {schedule : List Nat} {k : Nat} (hk : k ∈ schedule) (later : List Nat) :
    due first (schedule ++ later) k = due first schedule k := by
  unfold due
  rw [List.eraseDups_append, List.idxOf_append_of_mem (List.mem_eraseDups.2 hk)]

/-- A first turn draws the next value. -/
theorem due_concat_of_notMem {schedule : List Nat} {k : Nat} (hk : k ∉ schedule) :
    due first (schedule ++ [k]) k = first + schedule.eraseDups.length := by
  unfold due
  rw [eraseDups_concat_of_notMem hk,
    List.idxOf_append_of_notMem (fun h => hk (List.mem_eraseDups.1 h))]
  simp

/-- No two callers draw the same value. -/
theorem due_inj {schedule : List Nat} {j k : Nat} (hj : j ∈ schedule)
    (h : due first schedule j = due first schedule k) : j = k := by
  unfold due at h
  have hidx : schedule.eraseDups.idxOf j = schedule.eraseDups.idxOf k := by omega
  exact (List.idxOf_inj (List.mem_eraseDups.2 hj)).1 hidx

/-- A turn of a caller does not bring the other ones further. -/
theorem reached_concat_of_ne {schedule : List Nat} {j k : Nat} (h : j ≠ k) :
    reached request first (schedule ++ [k]) j = reached request first schedule j := by
  unfold reached
  rw [count_concat_of_ne h]
  by_cases hj : j ∈ schedule
  · rw [due_append hj]
  · -- A caller without a turn has drawn nothing.
    rw [List.count_eq_zero_of_not_mem hj]
    rfl

/-- A turn stores one row at most: that of its caller, unless it is the first one. -/
theorem stored_concat {schedule : List Nat} {k : Nat} {r : Record} :
    Stored request first (schedule ++ [k]) r ↔
      Stored request first schedule r ∨
        k ∈ schedule ∧ r.Fits ∧ r = (request k).record (due first schedule k) := by
  constructor
  · rintro ⟨hfits, j, hj, rfl⟩
    by_cases h : j = k
    · subst h
      have hmem : j ∈ schedule := by
        rw [count_concat_same] at hj
        exact List.one_le_count_iff.1 (by omega)
      exact .inr ⟨hmem, hfits, by rw [due_append hmem]⟩
    · rw [count_concat_of_ne h] at hj
      have hmem : j ∈ schedule := List.one_le_count_iff.1 (by omega)
      exact .inl ⟨hfits, j, hj, by rw [due_append hmem]⟩
  · rintro (⟨hfits, j, hj, rfl⟩ | ⟨hmem, hfits, rfl⟩)
    · have hmem : j ∈ schedule := List.one_le_count_iff.1 (by omega)
      refine ⟨hfits, j, ?_, by rw [due_append hmem]⟩
      rw [List.count_append]
      omega
    · refine ⟨hfits, k, ?_, by rw [due_append hmem]⟩
      have hcount := List.one_le_count_iff.2 hmem
      rw [count_concat_same]
      omega

/-! ### The turns of a caller -/

theorem turn_of_waiting (request : Nat → MintRequest) {m : Minting} {k : Nat}
    (h : m.progress k = .waiting) :
    m.turn request k =
      ⟨m.table, m.sequence + 1, move m.progress k (.drawn m.sequence)⟩ := by
  rw [turn, h]

theorem turn_of_drawn (request : Nat → MintRequest) {m : Minting} {k : Nat} {n : Int}
    {u : RecordTable} (h : m.progress k = .drawn n)
    (hu : m.table.insert? ((request k).record n) = some u) :
    m.turn request k =
      ⟨u, m.sequence, move m.progress k (.stored (Handle.compose (request k).site n))⟩ := by
  simp only [turn, h, hu]

theorem turn_of_clash (request : Nat → MintRequest) {m : Minting} {k : Nat} {n : Int}
    (h : m.progress k = .drawn n) (hfits : ((request k).record n).Fits)
    (hu : m.table.insert? ((request k).record n) = none) :
    m.turn request k = ⟨m.table, m.sequence, move m.progress k (.refused .conflict)⟩ := by
  simp only [turn, h, hu, RecordTable.refusal, if_pos hfits]

theorem turn_of_unfit (request : Nat → MintRequest) {m : Minting} {k : Nat} {n : Int}
    (h : m.progress k = .drawn n) (hfits : ¬((request k).record n).Fits) :
    m.turn request k = ⟨m.table, m.sequence, move m.progress k (.refused .unfit)⟩ := by
  have hu : m.table.insert? ((request k).record n) = none :=
    RecordTable.insert?_eq_none.2 fun hfree => hfits hfree.1
  simp only [turn, h, hu, RecordTable.refusal, if_neg hfits]

/-- A caller that has come to an end has no further turn. -/
theorem turn_of_verdict (request : Nat → MintRequest) {m : Minting} {k : Nat} {r : MintRequest}
    {n : Int} (h : m.progress k = verdict r n) : m.turn request k = m := by
  unfold verdict at h
  split at h <;> rw [turn, h]

/-- A turn leaves the other callers where they are. -/
theorem progress_turn_of_ne (m : Minting) {j k : Nat} (h : j ≠ k) :
    (m.turn request k).progress j = m.progress j := by
  unfold turn
  split
  · exact move_other h _
  · split
    · exact move_other h _
    · exact move_other h _
  · rfl
  · rfl

/-- So does a schedule without them. -/
theorem progress_run_of_notMem {m : Minting} {schedule : List Nat} {j : Nat}
    (h : j ∉ schedule) : (m.run request schedule).progress j = m.progress j := by
  induction schedule generalizing m with
  | nil => rfl
  | cons k rest ih =>
      rw [run_cons, ih (fun hj => h (List.mem_cons_of_mem _ hj)),
        progress_turn_of_ne m (List.ne_of_not_mem_cons h)]

/-! ### The state behind a schedule -/

theorem follows_start (request : Nat → MintRequest) (table : RecordTable) (first : Int) :
    Follows request table first [] (start table first) where
  sequence := by simp [start]
  progress _ := rfl
  rows r := by simp [start, Stored]

namespace Follows

variable {schedule : List Nat} {m : Minting}

/-- The record of a second turn finds its place if it fits, as nobody else has drawn its
value. -/
theorem exists_insert? (h : Follows request table first schedule m)
    (ht : table.MintedBelow first) {k : Nat} (hk : schedule.count k = 1)
    (hfits : ((request k).record (due first schedule k)).Fits) :
    ∃ u, m.table.insert? ((request k).record (due first schedule k)) = some u := by
  have hcomposed : m.table.Composed := by
    intro r hr
    rcases (h.rows r).1 hr with hr | ⟨-, j, -, rfl⟩
    · exact ht.composed r hr
    · exact ⟨(request j).site, rfl⟩
  refine hcomposed.exists_insert? ?_ hfits
  intro r hr
  rcases (h.rows r).1 hr with hr | ⟨-, j, hj, rfl⟩
  · have hbelow := ht.below r hr
    unfold due
    omega
  · intro hdue
    have hmem : j ∈ schedule := List.one_le_count_iff.1 (by omega)
    rw [due_inj hmem hdue] at hj
    omega

/-- Behind a turn, all but its caller are where they were. Only the progress of the caller
is to be shown. -/
theorem progress_turn (h : Follows request table first schedule m) {k : Nat}
    (hk : (m.turn request k).progress k = reached request first (schedule ++ [k]) k) (j : Nat) :
    (m.turn request k).progress j = reached request first (schedule ++ [k]) j := by
  by_cases hj : j = k
  · rw [hj, hk]
  · rw [progress_turn_of_ne m hj, reached_concat_of_ne hj, h.progress j]

/-- The first turn of a caller draws. -/
theorem first_turn (h : Follows request table first schedule m) {k : Nat} (hk : k ∉ schedule) :
    Follows request table first (schedule ++ [k]) (m.turn request k) := by
  have hprogress := h.progress k
  have hcount := count_concat_same schedule k
  have hzero := List.count_eq_zero_of_not_mem hk
  rw [reached_of_count_zero hzero] at hprogress
  have hturn := turn_of_waiting request hprogress
  refine ⟨?_, h.progress_turn ?_, ?_⟩
  · rw [hturn, eraseDups_concat_of_notMem hk, List.length_append, List.length_singleton]
    show m.sequence + 1 = _
    rw [h.sequence]
    push_cast
    omega
  · rw [hturn, reached_of_count_one (by omega), due_concat_of_notMem hk, ← h.sequence]
    exact move_same _ _ _
  · intro r
    rw [hturn, stored_concat]
    show r ∈ m.table.rows ↔ _
    rw [h.rows r]
    simp [hk]

/-- The second turn of a caller stores a record that fits. -/
theorem second_turn_of_fits (h : Follows request table first schedule m)
    (ht : table.MintedBelow first) {k : Nat} (hone : schedule.count k = 1)
    (hfits : ((request k).record (due first schedule k)).Fits) :
    Follows request table first (schedule ++ [k]) (m.turn request k) := by
  have hprogress := h.progress k
  have hcount := count_concat_same schedule k
  have hk : k ∈ schedule := List.one_le_count_iff.1 (le_of_eq hone.symm)
  rw [reached_of_count_one hone] at hprogress
  obtain ⟨u, hu⟩ := h.exists_insert? ht hone hfits
  have hturn := turn_of_drawn request hprogress hu
  refine ⟨?_, h.progress_turn ?_, ?_⟩
  · rw [hturn, eraseDups_concat_of_mem hk]
    exact h.sequence
  · rw [hturn, reached_of_two_le (by omega), due_append hk, verdict, if_pos hfits]
    exact move_same _ _ _
  · intro r
    rw [hturn, stored_concat]
    show r ∈ u.rows ↔ _
    rw [RecordTable.mem_rows_of_insert? hu, h.rows r]
    constructor
    · rintro (rfl | hr | hr)
      · exact .inr (.inr ⟨hk, hfits, rfl⟩)
      · exact .inl hr
      · exact .inr (.inl hr)
    · rintro (hr | hr | ⟨-, -, rfl⟩)
      · exact .inr (.inl hr)
      · exact .inr (.inr hr)
      · exact .inl rfl

/-- It stores nothing if the record does not fit. -/
theorem second_turn_of_unfit (h : Follows request table first schedule m) {k : Nat}
    (hone : schedule.count k = 1)
    (hfits : ¬((request k).record (due first schedule k)).Fits) :
    Follows request table first (schedule ++ [k]) (m.turn request k) := by
  have hprogress := h.progress k
  have hcount := count_concat_same schedule k
  have hk : k ∈ schedule := List.one_le_count_iff.1 (le_of_eq hone.symm)
  rw [reached_of_count_one hone] at hprogress
  have hturn := turn_of_unfit request hprogress hfits
  refine ⟨?_, h.progress_turn ?_, ?_⟩
  · rw [hturn, eraseDups_concat_of_mem hk]
    exact h.sequence
  · rw [hturn, reached_of_two_le (by omega), due_append hk, verdict, if_neg hfits]
    exact move_same _ _ _
  · intro r
    rw [hturn, stored_concat]
    show r ∈ m.table.rows ↔ _
    rw [h.rows r]
    constructor
    · rintro (hr | hr)
      · exact .inl hr
      · exact .inr (.inl hr)
    · rintro (hr | hr | ⟨-, hfits', rfl⟩)
      · exact .inl hr
      · exact .inr hr
      · exact absurd hfits' hfits

/-- Further turns of a caller do nothing. -/
theorem further_turn (h : Follows request table first schedule m) {k : Nat}
    (hmore : 2 ≤ schedule.count k) :
    Follows request table first (schedule ++ [k]) (m.turn request k) := by
  have hprogress := h.progress k
  have hcount := count_concat_same schedule k
  have hk : k ∈ schedule := List.one_le_count_iff.1 (by omega)
  rw [reached_of_two_le hmore] at hprogress
  have hturn := turn_of_verdict request hprogress
  refine ⟨?_, h.progress_turn ?_, ?_⟩
  · rw [hturn, eraseDups_concat_of_mem hk]
    exact h.sequence
  · rw [hturn, hprogress, reached_of_two_le (by omega), due_append hk]
  · intro r
    rw [hturn, stored_concat, h.rows r]
    constructor
    · rintro (hr | hr)
      · exact .inl hr
      · exact .inr (.inl hr)
    · rintro (hr | hr | ⟨-, hfits, rfl⟩)
      · exact .inl hr
      · exact .inr hr
      · exact .inr ⟨hfits, k, hmore, rfl⟩

/-- **One more turn** leads from the state behind a schedule to the state behind the longer
one. -/
theorem turn (h : Follows request table first schedule m) (ht : table.MintedBelow first)
    (k : Nat) : Follows request table first (schedule ++ [k]) (m.turn request k) := by
  by_cases hk : k ∈ schedule
  · have hpositive := List.one_le_count_iff.2 hk
    by_cases hone : schedule.count k = 1
    · by_cases hfits : ((request k).record (due first schedule k)).Fits
      · exact h.second_turn_of_fits ht hone hfits
      · exact h.second_turn_of_unfit hone hfits
    · exact h.further_turn (by omega)
  · exact h.first_turn hk

end Follows

/-- The state behind a schedule is what the schedule says. -/
theorem follows_run (request : Nat → MintRequest) (ht : table.MintedBelow first)
    (schedule : List Nat) :
    Follows request table first schedule ((start table first).run request schedule) := by
  induction schedule using List.reverseRecOn with
  | nil => exact follows_start request table first
  | append_singleton schedule k ih =>
      rw [run_append]
      exact ih.turn ht k

/-- Schedules with the same order of draws, and with the same number of turns for everybody,
come to the same rows, the same sequence and the same progress of everybody. -/
theorem Follows.agree {schedule schedule' : List Nat} {m m' : Minting}
    (h : Follows request table first schedule m) (h' : Follows request table first schedule' m')
    (horder : schedule.eraseDups = schedule'.eraseDups)
    (hcount : ∀ k, schedule.count k = schedule'.count k) :
    (∀ r, r ∈ m.table.rows ↔ r ∈ m'.table.rows) ∧ m.sequence = m'.sequence ∧
      m.progress = m'.progress := by
  have hdue : ∀ k, due first schedule k = due first schedule' k := by
    intro k
    rw [due, due, horder]
  refine ⟨?_, ?_, ?_⟩
  · intro r
    rw [h.rows r, h'.rows r]
    simp only [Stored, hcount, hdue]
  · rw [h.sequence, h'.sequence, horder]
  · funext k
    rw [h.progress k, h'.progress k]
    simp only [reached, hcount, hdue]

end Minting

end PersistentId
