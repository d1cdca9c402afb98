import ArchivalBag.Reading

/-!
# Outcomes of readings

Readings are a lawful monad, and the outcome of one reading after the other is that of the second on
the value of the first. A reading with an error is the same reading whatever was to follow it.

* `outcome_bind`, `outcome_map`: the outcome of readings in a row.
* `bind_of_error`: after an error nothing is read.
* `outcome_bind_eq_ok_iff`, `outcome_bind_eq_error_iff`: when readings in a row have a value.
-/

namespace ArchivalBag.Reading

variable {α β : Type}

theorem ext {x y : Reading α} (ho : x.outcome = y.outcome) (he : x.events = y.events) : x = y := by
  cases x; cases y; simp_all

@[simp] theorem outcome_pure (a : α) : (pure a : Reading α).outcome = .ok a :=
  rfl

@[simp] theorem outcome_fail (e : BagError) : (fail e : Reading α).outcome = .error e :=
  rfl

@[simp] theorem outcome_ofExcept (x : Except BagError α) : (ofExcept x).outcome = x :=
  rfl

theorem bind_eq (x : Reading α) (f : α → Reading β) :
    x >>= f =
      match x.outcome with
      | .ok a => ⟨(f a).outcome, x.events ++ (f a).events⟩
      | .error e => ⟨.error e, x.events⟩ :=
  rfl

/-- **The outcome of one reading after the other.** -/
theorem outcome_bind (x : Reading α) (f : α → Reading β) :
    (x >>= f).outcome = x.outcome.bind fun a => (f a).outcome := by
  rw [bind_eq]; cases x.outcome <;> rfl

theorem bind_of_error {x : Reading α} {e : BagError} (h : x.outcome = .error e)
    (f : α → Reading β) : x >>= f = ⟨.error e, x.events⟩ := by
  rw [bind_eq, h]

theorem bind_of_ok {x : Reading α} {a : α} (h : x.outcome = .ok a) (f : α → Reading β) :
    x >>= f = ⟨(f a).outcome, x.events ++ (f a).events⟩ := by
  rw [bind_eq, h]

/-- Readings in a row are the same if the second one is the same on what the first one gives. -/
theorem bind_congr_of_ok {x y : Reading α} {f g : α → Reading β} (h : x = y)
    (hf : ∀ a, x.outcome = .ok a → f a = g a) : x >>= f = y >>= g := by
  subst h
  cases ho : x.outcome with
  | error e => rw [bind_of_error ho, bind_of_error ho]
  | ok a => rw [bind_of_ok ho, bind_of_ok ho, hf a ho]

theorem bind_pure (x : Reading α) : x >>= pure = x := by
  rw [bind_eq]
  cases x with
  | mk o v => cases o <;> simp [pure, Reading.pure]

theorem bind_assoc {γ : Type} (x : Reading α) (f : α → Reading β) (g : β → Reading γ) :
    (x >>= f) >>= g = x >>= fun a => f a >>= g := by
  rw [bind_eq x f, bind_eq x]
  cases x.outcome with
  | error e => rfl
  | ok a =>
    simp only [bind_eq]
    cases (f a).outcome <;> simp

instance : LawfulMonad Reading :=
  LawfulMonad.mk' Reading bind_pure pure_bind bind_assoc

theorem outcome_map (f : α → β) (x : Reading α) : (f <$> x).outcome = x.outcome.map f := by
  rw [map_eq_pure_bind, outcome_bind]
  cases x.outcome <;> rfl

theorem events_map (f : α → β) (x : Reading α) : (f <$> x).events = x.events := by
  rw [map_eq_pure_bind, bind_eq]
  cases x.outcome with
  | error e => rfl
  | ok a => exact List.append_nil x.events

theorem outcome_map_eq_ok_iff {f : α → β} {x : Reading α} {b : β} :
    (f <$> x).outcome = .ok b ↔ ∃ a, x.outcome = .ok a ∧ f a = b := by
  rw [outcome_map]
  cases x.outcome <;> simp [Except.map]

theorem outcome_map_eq_error_iff {f : α → β} {x : Reading α} {e : BagError} :
    (f <$> x).outcome = .error e ↔ x.outcome = .error e := by
  rw [outcome_map]
  cases x.outcome <;> simp [Except.map]

/-- A reading that has a value gives it to what follows. -/
theorem outcome_bind_of_ok {x : Reading α} {a : α} (h : x.outcome = .ok a) (f : α → Reading β) :
    (x >>= f).outcome = (f a).outcome := by
  rw [outcome_bind, h]; rfl

/-- **Both readings in a row have a value**, or one of them has an error. -/
theorem outcome_bind_eq_ok_iff {x : Reading α} {f : α → Reading β} {b : β} :
    (x >>= f).outcome = .ok b ↔ ∃ a, x.outcome = .ok a ∧ (f a).outcome = .ok b := by
  rw [outcome_bind]
  cases x.outcome <;> simp [Except.bind]

theorem outcome_bind_eq_error_iff {x : Reading α} {f : α → Reading β} {e : BagError} :
    (x >>= f).outcome = .error e ↔
      x.outcome = .error e ∨ ∃ a, x.outcome = .ok a ∧ (f a).outcome = .error e := by
  rw [outcome_bind]
  cases x.outcome <;> simp [Except.bind]

/-- A reading has an error or a value. -/
theorem exists_error_iff {x : Reading α} :
    (∃ e, x.outcome = .error e) ↔ ¬ ∃ a, x.outcome = .ok a := by
  cases x.outcome <;> simp

@[simp] theorem outcome_note_bind (v : Log.Event) (f : Unit → Reading β) :
    (note v >>= f).outcome = (f ()).outcome :=
  rfl

end ArchivalBag.Reading
