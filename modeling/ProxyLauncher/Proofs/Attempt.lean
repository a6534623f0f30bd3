/-!
# Attempts

An attempt is a computation that either yields a value or stops with a reason.
These are the equations by which a chain of attempts is opened, and the ways in
which a chain can have succeeded or stopped.
-/

namespace ProxyLauncher

variable {ε δ α β : Type}

@[simp]
theorem ok_bind (value : α) (next : α → Except ε β) :
    (Except.ok value >>= next) = next value :=
  rfl

@[simp]
theorem error_bind (reason : ε) (next : α → Except ε β) :
    (Except.error reason >>= next) = .error reason :=
  rfl

@[simp]
theorem map_ok (value : α) (f : α → β) : (Except.ok value : Except ε α).map f = .ok (f value) :=
  rfl

@[simp]
theorem map_error (reason : ε) (f : α → β) :
    (Except.error reason : Except ε α).map f = .error reason :=
  rfl

@[simp]
theorem mapError_ok (value : α) (f : ε → δ) :
    (Except.ok value : Except ε α).mapError f = .ok value :=
  rfl

@[simp]
theorem mapError_error (reason : ε) (f : ε → δ) :
    (Except.error reason : Except ε α).mapError f = .error (f reason) :=
  rfl

/-- A chain succeeds exactly when both of its parts do. -/
theorem bind_eq_ok_iff {first : Except ε α} {next : α → Except ε β} {result : β} :
    (first >>= next) = .ok result ↔ ∃ value, first = .ok value ∧ next value = .ok result := by
  cases first <;> simp

/-- A chain stops for the reason of its first part, or else for that of its second. -/
theorem bind_eq_error_iff {first : Except ε α} {next : α → Except ε β} {reason : ε} :
    (first >>= next) = .error reason ↔
      first = .error reason ∨ ∃ value, first = .ok value ∧ next value = .error reason := by
  cases first <;> simp

theorem map_eq_ok_iff {first : Except ε α} {f : α → β} {result : β} :
    first.map f = .ok result ↔ ∃ value, first = .ok value ∧ f value = result := by
  cases first <;> simp

theorem map_eq_error_iff {first : Except ε α} {f : α → β} {reason : ε} :
    first.map f = .error reason ↔ first = .error reason := by
  cases first <;> simp

theorem mapError_eq_ok_iff {first : Except ε α} {f : ε → δ} {result : α} :
    first.mapError f = .ok result ↔ first = .ok result := by
  cases first <;> simp

theorem mapError_eq_error_iff {first : Except ε α} {f : ε → δ} {reason : δ} :
    first.mapError f = .error reason ↔ ∃ cause, first = .error cause ∧ f cause = reason := by
  cases first <;> simp

/-- Success can be told without comparing reasons. -/
theorem toOption_eq_some_iff {attempt : Except ε α} {value : α} :
    attempt.toOption = some value ↔ attempt = .ok value := by
  cases attempt <;> simp [Except.toOption]

/-- The reason why an attempt stopped, if it did. -/
def reason? : Except ε α → Option ε
  | .ok _ => none
  | .error reason => some reason

/-- A reason can be told without comparing values. -/
theorem reason?_eq_some_iff {attempt : Except ε α} {reason : ε} :
    reason? attempt = some reason ↔ attempt = .error reason := by
  cases attempt <;> simp [reason?]

end ProxyLauncher
