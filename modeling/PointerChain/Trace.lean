/-!
# Traces

A computation that either gives a value or stops, and in both cases leaves a trace of what happened
on the way. Traces form a monad in which stopping ends the trace.

* `Trace.bind_of_ok` and `Trace.bind_of_error` say how a trace goes on.
* `Trace.result_bind_eq_ok_iff` takes a sequence apart that gives a value.
-/

namespace PointerChain

/-- A result with its trace: events of type `σ`, and a value of type `α` or a reason of type `ε` why
there is none. -/
structure Trace (σ ε α : Type) where
  /-- What happened, in order. -/
  events : List σ
  /-- The value, or why there is none. -/
  result : Except ε α
  deriving Repr

namespace Trace

variable {σ ε α β γ : Type}

/-- Continues with the value, unless there is none. -/
def bind (x : Trace σ ε α) (f : α → Trace σ ε β) : Trace σ ε β :=
  match x.result with
  | .ok a =>
    let y := f a
    ⟨x.events ++ y.events, y.result⟩
  | .error e => ⟨x.events, .error e⟩

instance : Monad (Trace σ ε) where
  pure a := ⟨[], .ok a⟩
  bind := bind

/-- Stops for a reason. -/
def stop (e : ε) : Trace σ ε α := ⟨[], .error e⟩

/-- Leaves an event in the trace. -/
def note (event : σ) : Trace σ ε Unit := ⟨[event], .ok ()⟩

/-- Leaves several events in the trace. -/
def notes (events : List σ) : Trace σ ε Unit := ⟨events, .ok ()⟩

/-- A result without a trace. -/
def ofExcept (x : Except ε α) : Trace σ ε α := ⟨[], x⟩

@[simp] theorem events_pure (a : α) : (pure a : Trace σ ε α).events = [] := rfl

@[simp] theorem result_pure (a : α) : (pure a : Trace σ ε α).result = .ok a := rfl

/-- Behind a value, the trace goes on. -/
theorem bind_of_ok {x : Trace σ ε α} {a : α} (h : x.result = .ok a) (f : α → Trace σ ε β) :
    x >>= f = ⟨x.events ++ (f a).events, (f a).result⟩ := by
  simp only [Bind.bind, bind, h]

/-- Behind a stop, nothing is done. -/
theorem bind_of_error {x : Trace σ ε α} {e : ε} (h : x.result = .error e)
    (f : α → Trace σ ε β) : x >>= f = ⟨x.events, .error e⟩ := by
  simp only [Bind.bind, bind, h]

/-- What comes behind a computation matters only for the value that it gives. -/
theorem bind_congr_of_ok {x : Trace σ ε α} {f g : α → Trace σ ε β}
    (h : ∀ a, x.result = .ok a → f a = g a) : x >>= f = x >>= g := by
  cases hx : x.result with
  | ok a => rw [bind_of_ok hx, bind_of_ok hx, h a hx]
  | error e => rw [bind_of_error hx, bind_of_error hx]

/-- A value that comes at the end of a sequence comes from a value in its middle. -/
theorem result_bind_eq_ok_iff {x : Trace σ ε α} {f : α → Trace σ ε β} {b : β} :
    (x >>= f).result = .ok b ↔ ∃ a, x.result = .ok a ∧ (f a).result = .ok b := by
  cases hx : x.result with
  | ok a =>
    rw [bind_of_ok hx]
    exact ⟨fun h => ⟨a, rfl, h⟩, fun ⟨_, ha, h⟩ => Except.ok.inj ha ▸ h⟩
  | error e =>
    rw [bind_of_error hx]
    exact ⟨fun h => (nomatch h), fun ⟨_, h, _⟩ => (nomatch h)⟩

instance : LawfulMonad (Trace σ ε) := LawfulMonad.mk' (Trace σ ε)
  (fun x => by
    rcases x with ⟨events, _ | _⟩ <;> simp [Functor.map, bind])
  (fun a f => by simp [Bind.bind, bind, pure])
  (fun x f g => by
    rcases x with ⟨events, _ | a⟩
    · rfl
    · simp only [Bind.bind, bind]
      rcases f a with ⟨more, _ | b⟩ <;> simp)

end Trace

end PointerChain
