/-! Failures of input and output.

A device may fail for reasons of its own, in its own words, so a failure is a kind together with
a message. The kind is what the layers above act on: an interrupted read is tried again, and an
unexpected end closes a directory. -/
namespace ThumbDrive

/-- What went wrong, coarsely. -/
inductive IoError.Kind where
  | notFound
  | permissionDenied
  | notConnected
  | invalidInput
  | invalidData
  | timedOut
  | unexpectedEof
  | interrupted
  | brokenPipe
  | writeZero
  | unsupported
  | other
  deriving DecidableEq, Repr

/-- A failed input or output operation. -/
structure IoError where
  kind : IoError.Kind
  message : String
  deriving DecidableEq, Repr

namespace IoError

/-- A failure of no particular kind. -/
def other (message : String) : IoError := ⟨.other, message⟩

/-- The data ended before a buffer was full. -/
def shortRead : IoError := ⟨.unexpectedEof, "failed to fill whole buffer"⟩

/-- A read was interrupted more often than anybody waits for. -/
def unending : IoError := ⟨.interrupted, "interrupted without end"⟩

end IoError

/-- An operation on a state `σ` that may fail. The state reached is kept when it does. -/
abbrev IoOn (σ α : Type) := EStateM IoError σ α

namespace IoOn
variable {σ τ α β : Type}

/-- The operation that answers `r` and leaves the state alone. -/
def ofExcept : Except IoError α → IoOn σ α
  | .ok a => pure a
  | .error e => throw e

/-- Acts on a part of a larger state: `get` finds the part, `put` writes it back. -/
def zoom (get : τ → σ) (put : σ → τ → τ) (act : IoOn σ α) : IoOn τ α := fun t =>
  match act (get t) with
  | .ok a s => .ok a (put s t)
  | .error e s => .error e (put s t)

/-- The answer of an operation and the state it leaves. -/
def outcome (act : IoOn σ α) (s : σ) : Except IoError α × σ :=
  match act s with
  | .ok a s => (.ok a, s)
  | .error e s => (.error e, s)

/-! Operations applied to a state. -/

@[simp] theorem pure_apply (a : α) (s : σ) : (pure a : IoOn σ α) s = .ok a s := rfl

@[simp] theorem throw_apply (e : IoError) (s : σ) : (throw e : IoOn σ α) s = .error e s := rfl

@[simp] theorem get_apply (s : σ) : (get : IoOn σ σ) s = .ok s s := rfl

@[simp] theorem modify_apply (f : σ → σ) (s : σ) : (modify f : IoOn σ PUnit) s = .ok ⟨⟩ (f s) := rfl

theorem bind_apply (x : IoOn σ α) (f : α → IoOn σ β) (s : σ) :
    (x >>= f) s =
      match x s with
      | .ok a s => f a s
      | .error e s => .error e s := by
  simp only [bind, EStateM.bind]
  cases x s <;> rfl

theorem bind_ok {x : IoOn σ α} {f : α → IoOn σ β} {s s' : σ} {a : α} (h : x s = .ok a s') :
    (x >>= f) s = f a s' := by
  rw [bind_apply, h]

theorem bind_error {x : IoOn σ α} {f : α → IoOn σ β} {s s' : σ} {e : IoError}
    (h : x s = .error e s') : (x >>= f) s = .error e s' := by
  rw [bind_apply, h]

/-- A sequence that succeeds has two parts that succeed. -/
theorem of_bind_ok {x : IoOn σ α} {f : α → IoOn σ β} {s s' : σ} {r : β}
    (h : (x >>= f) s = .ok r s') : ∃ a s₁, x s = .ok a s₁ ∧ f a s₁ = .ok r s' := by
  cases hx : x s with
  | ok a s₁ =>
    rw [bind_ok hx] at h
    exact ⟨a, s₁, rfl, h⟩
  | error e s₁ =>
    rw [bind_error hx] at h
    cases h

@[simp] theorem bind_set (s' : σ) (f : PUnit → IoOn σ β) (s : σ) :
    (set s' >>= f) s = f ⟨⟩ s' := rfl

@[simp] theorem bind_modify (g : σ → σ) (f : PUnit → IoOn σ β) (s : σ) :
    (modify g >>= f) s = f ⟨⟩ (g s) := rfl

@[simp] theorem bind_get (f : σ → IoOn σ β) (s : σ) : (get >>= f) s = f s s := rfl

@[simp] theorem bind_throw (e : IoError) (f : α → IoOn σ β) (s : σ) :
    ((throw e : IoOn σ α) >>= f) s = .error e s := rfl

theorem outcome_ok {x : IoOn σ α} {s s' : σ} {a : α} (h : x s = .ok a s') :
    outcome x s = (.ok a, s') := by
  rw [outcome, h]

theorem outcome_error {x : IoOn σ α} {s s' : σ} {e : IoError} (h : x s = .error e s') :
    outcome x s = (.error e, s') := by
  rw [outcome, h]

theorem ok_of_outcome {x : IoOn σ α} {s s' : σ} {a : α} (h : outcome x s = (.ok a, s')) :
    x s = .ok a s' := by
  cases hx : x s with
  | ok b s'' =>
    rw [outcome_ok hx] at h
    cases h
    rfl
  | error e s'' =>
    rw [outcome_error hx] at h
    cases h

theorem error_of_outcome {x : IoOn σ α} {s s' : σ} {e : IoError}
    (h : outcome x s = (.error e, s')) : x s = .error e s' := by
  cases hx : x s with
  | ok a s'' =>
    rw [outcome_ok hx] at h
    cases h
  | error e' s'' =>
    rw [outcome_error hx] at h
    cases h
    rfl

end IoOn

end ThumbDrive
