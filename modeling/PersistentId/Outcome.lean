import PersistentId.Event
import PersistentId.Failure

/-!
# PersistentId.Outcome

What an operation gives: a value or a failure, and the events on the way to it.

A failure does not take back the events that came before it.
-/

namespace PersistentId

/-- The result of an operation together with its events. -/
structure Outcome (ε α : Type) where
  result : Except ε α
  events : List Event

namespace Outcome

/-- A value, silently. -/
protected def pure (a : α) : Outcome ε α := ⟨.ok a, []⟩

/-- A failure, silently. -/
def fail (e : ε) : Outcome ε α := ⟨.error e, []⟩

/-- Events and nothing else. -/
def tell (events : List Event) : Outcome ε Unit := ⟨.ok (), events⟩

/-- Goes on with the value of an outcome. A failure ends the operation. -/
protected def bind (o : Outcome ε α) (f : α → Outcome ε β) : Outcome ε β :=
  match o.result with
  | .error e => ⟨.error e, o.events⟩
  | .ok a => ⟨(f a).result, o.events ++ (f a).events⟩

instance : Monad (Outcome ε) where
  pure := Outcome.pure
  bind := Outcome.bind

/-- An outcome with its failures renamed. -/
def mapError (f : ε → δ) (o : Outcome ε α) : Outcome δ α := ⟨o.result.mapError f, o.events⟩

/-- A silent outcome. -/
def ofExcept (r : Except ε α) : Outcome ε α := ⟨r, []⟩

theorem ext {o p : Outcome ε α} (h : o.result = p.result) (h' : o.events = p.events) : o = p := by
  cases o; cases p; simp_all

@[simp] theorem result_pure (a : α) : (pure a : Outcome ε α).result = .ok a := rfl
@[simp] theorem events_pure (a : α) : (pure a : Outcome ε α).events = [] := rfl
@[simp] theorem result_fail (e : ε) : (fail e : Outcome ε α).result = .error e := rfl
@[simp] theorem events_fail (e : ε) : (fail e : Outcome ε α).events = [] := rfl
@[simp] theorem result_tell (events : List Event) :
    (tell events : Outcome ε Unit).result = .ok () := rfl
@[simp] theorem events_tell (events : List Event) :
    (tell events : Outcome ε Unit).events = events := rfl
@[simp] theorem result_ofExcept (r : Except ε α) : (ofExcept r).result = r := rfl
@[simp] theorem events_ofExcept (r : Except ε α) : (ofExcept r).events = [] := rfl

theorem bind_of_error {o : Outcome ε α} {e : ε} (h : o.result = .error e)
    (f : α → Outcome ε β) : o >>= f = ⟨.error e, o.events⟩ := by
  show Outcome.bind o f = _
  simp [Outcome.bind, h]

theorem bind_of_ok {o : Outcome ε α} {a : α} (h : o.result = .ok a) (f : α → Outcome ε β) :
    o >>= f = ⟨(f a).result, o.events ++ (f a).events⟩ := by
  show Outcome.bind o f = _
  simp [Outcome.bind, h]

theorem id_map (o : Outcome ε α) : id <$> o = o := by
  obtain ⟨r, es⟩ := o
  cases r <;> simp [Functor.map, Outcome.bind, Outcome.pure]

theorem pure_bind (a : α) (f : α → Outcome ε β) : pure a >>= f = f a :=
  ext rfl (List.nil_append _)

theorem bind_assoc (o : Outcome ε α) (f : α → Outcome ε β) (g : β → Outcome ε γ) :
    o >>= f >>= g = o >>= fun a => f a >>= g := by
  obtain ⟨r, es⟩ := o
  cases r with
  | error e => rfl
  | ok a =>
    simp only [bind, Outcome.bind]
    cases (f a).result <;> simp

instance : LawfulMonad (Outcome ε) := LawfulMonad.mk' _ id_map pure_bind bind_assoc

end Outcome

end PersistentId
