import Mathlib
import PersistentId.World

/-!
# PersistentId.Proofs.Run.Passage

Runs, taken apart into their steps.

A **passage** is one step of a run together with the world it happened to. World and answer
behind the step are functions of it, so a statement about a whole run ("no handle is given
out twice") is a statement about the list of its passages, and a question about one step
("did it draw a value?") is a function on passages.

Two such questions are asked here because minting is told by their answers: which handle a
step gave to its caller (`Passage.minted?`), and which value it took from the sequence
(`World.drawn?`). They are independent of each other: a value can be drawn without a handle
being minted, and is used up then.
-/

namespace PersistentId

/-- What an operation gives at a concrete input can be computed. -/
instance [DecidableEq ε] [DecidableEq α] : DecidableEq (Outcome ε α) := fun o p =>
  decidable_of_iff (o.result = p.result ∧ o.events = p.events)
    ⟨fun h => Outcome.ext h.1 h.2, fun h => h ▸ ⟨rfl, rfl⟩⟩

/-- The value the sequence would give out now, nothing in an outage. -/
def Database.next? (db : Database) : Option Int :=
  match db.allocate with
  | .ok (n, _) => some n
  | .error _ => none

theorem Database.next?_of_reachable {db : Database} (h : db.reachable = true) :
    db.next? = some db.sequence := by
  simp [next?, allocate_of_reachable h]

theorem Database.next?_of_outage {db : Database} (h : db.reachable = false) : db.next? = none := by
  simp [next?, allocate_of_outage h]

/-- The value a step takes from the sequence. Minting takes one as soon as its own checks
have passed, whether or not the record can be stored afterwards. -/
def World.drawn? (w : World) : Step → Option Int
  | .storeAllocate => w.db.next?
  | .createHandle object =>
    match w.registry.mintable w.site.handlePrefix object with
    | .ok _ => w.db.next?
    | .error _ => none
  | _ => none

/-- One step of a run, with the world it happens to. -/
structure Passage where
  before : World
  step : Step

namespace Passage

/-- What the step answered. -/
def answer (p : Passage) : Outcome StepError Answer := (p.before.step p.step).2

/-- The value the step took from the sequence. -/
def drawn? (p : Passage) : Option Int := p.before.drawn? p.step

/-- The handle that the step minted and gave to its caller. -/
def minted? (p : Passage) : Option String :=
  match p.step, p.answer.result with
  | .createHandle _, .ok (.text handle) => some handle
  | _, _ => none

/-- What a request for a handle minted is what it answered. -/
theorem minted?_createHandle {w : World} {object : Resource} {handle : String} :
    minted? ⟨w, .createHandle object⟩ = some handle ↔
      (w.step (.createHandle object)).2.result = .ok (.text handle) := by
  simp only [minted?, answer]
  split
  · rename_i hanswer
    rw [hanswer]
    simp
  · rename_i hother
    constructor
    · intro h
      cases h
    · intro h
      exact absurd h (hother object handle rfl)

end Passage

namespace World

/-! ### The passages of a run -/

/-- The passages of a run, in order. -/
def passages (w : World) : List Step → List Passage
  | [] => []
  | s :: rest => ⟨w, s⟩ :: (w.step s).1.passages rest

@[simp] theorem passages_nil (w : World) : w.passages [] = [] := rfl

@[simp] theorem passages_cons (w : World) (s : Step) (rest : List Step) :
    w.passages (s :: rest) = ⟨w, s⟩ :: (w.step s).1.passages rest := rfl

/-- The passages of a run take its steps, one by one. -/
theorem map_step_passages (w : World) (ss : List Step) :
    (w.passages ss).map Passage.step = ss := by
  induction ss generalizing w with
  | nil => rfl
  | cons s rest ih => rw [passages_cons, List.map_cons, ih]

theorem step_of_mem_passages {w : World} {ss : List Step} {p : Passage}
    (h : p ∈ w.passages ss) : p.step ∈ ss := by
  rw [← map_step_passages w ss]
  exact List.mem_map_of_mem h

/-- The answers of a run are the answers of its passages. -/
theorem map_answer_passages (w : World) (ss : List Step) :
    (w.passages ss).map Passage.answer = (w.run ss).2 := by
  induction ss generalizing w with
  | nil => rfl
  | cons s rest ih =>
      rw [passages_cons, List.map_cons, run_cons, ih]
      rfl

/-- The handles that a run gave to its callers, in order. -/
def minted (w : World) (ss : List Step) : List String := (w.passages ss).filterMap Passage.minted?

/-- The values that a run took from the sequence, in order. -/
def drawn (w : World) (ss : List Step) : List Int := (w.passages ss).filterMap Passage.drawn?

theorem drawn_cons (w : World) (s : Step) (rest : List Step) :
    w.drawn (s :: rest) = (w.drawn? s).toList ++ (w.step s).1.drawn rest := by
  unfold drawn
  rw [passages_cons, List.filterMap_cons]
  cases hd : w.drawn? s <;> simp [Passage.drawn?, hd]

/-! ### Invariants of runs -/

/-- What every step of a list keeps, the run of the list keeps. -/
theorem run_keeps {motive : World → Prop} {ss : List Step}
    (hstep : ∀ s ∈ ss, ∀ w : World, motive w → motive (w.step s).1) {w : World}
    (hw : motive w) : motive (w.run ss).1 := by
  induction ss generalizing w with
  | nil => exact hw
  | cons s rest ih =>
      rw [run_cons]
      exact ih (fun t ht => hstep t (List.mem_cons_of_mem _ ht))
        (hstep s List.mem_cons_self w hw)

/-- It holds before every passage of the run, too. -/
theorem passages_keep {motive : World → Prop} {ss : List Step}
    (hstep : ∀ s ∈ ss, ∀ w : World, motive w → motive (w.step s).1) {w : World}
    (hw : motive w) : ∀ p ∈ w.passages ss, motive p.before := by
  induction ss generalizing w with
  | nil =>
      intro p hp
      cases hp
  | cons s rest ih =>
      intro p hp
      rcases List.mem_cons.1 hp with rfl | hp
      · exact hw
      · exact ih (fun t ht => hstep t (List.mem_cons_of_mem _ ht))
          (hstep s List.mem_cons_self w hw) p hp

/-- The worlds that a new site can come to. -/
def Reached (w : World) : Prop :=
  ∃ site table measured scan ss, ((start site table measured scan).run ss).1 = w

/-- What holds of a new site and is kept by every step holds of every reached world. -/
theorem Reached.induction {motive : World → Prop} {w : World} (h : w.Reached)
    (hstart : ∀ site table measured scan, motive (start site table measured scan))
    (hstep : ∀ (w : World) (s : Step), motive w → motive (w.step s).1) : motive w := by
  obtain ⟨site, table, measured, scan, ss, rfl⟩ := h
  exact run_keeps (fun s _ w hw => hstep w s hw) (hstart site table measured scan)

/-- A reached world stays one, whatever happens to it. -/
theorem Reached.run {w : World} (h : w.Reached) (ss : List Step) : (w.run ss).1.Reached := by
  obtain ⟨site, table, measured, scan, past, rfl⟩ := h
  refine ⟨site, table, measured, scan, past ++ ss, ?_⟩
  rw [run_append]

end World

end PersistentId
