import ArchivalBag.Log.Event

/-!
# Readings

A reading has an outcome, which is a value or the first error, and the events that happened on the
way to it. Of two readings in a row, the second happens only if the first one has a value.

* `Reading`: an outcome with its events.
* `Reading.note`, `Reading.fail`: one event, and an error.
-/

namespace ArchivalBag

/-- The outcome of reading something, with the events on the way. -/
structure Reading (α : Type) where
  outcome : Except BagError α
  events : List Log.Event

namespace Reading

variable {α β : Type}

/-- A value without events. -/
protected def pure (a : α) : Reading α :=
  ⟨.ok a, []⟩

/-- One reading after the other. -/
protected def bind (x : Reading α) (f : α → Reading β) : Reading β :=
  match x.outcome with
  | .ok a => ⟨(f a).outcome, x.events ++ (f a).events⟩
  | .error e => ⟨.error e, x.events⟩

instance : Monad Reading where
  pure := Reading.pure
  bind := Reading.bind

/-- One event. -/
def note (e : Log.Event) : Reading Unit :=
  ⟨.ok (), [e]⟩

/-- An error. -/
def fail (e : BagError) : Reading α :=
  ⟨.error e, []⟩

/-- An outcome without events. -/
def ofExcept (x : Except BagError α) : Reading α :=
  ⟨x, []⟩

theorem pure_bind (a : α) (f : α → Reading β) : (pure a : Reading α) >>= f = f a := by
  simp [pure, Reading.pure, bind, Reading.bind]

@[simp] theorem fail_bind (e : BagError) (f : α → Reading β) : (fail e >>= f) = fail e :=
  rfl

end Reading

end ArchivalBag
