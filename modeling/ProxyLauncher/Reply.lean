import ProxyLauncher.Failure
import ProxyLauncher.Log
import ProxyLauncher.Listener.Call

/-!
# Replies

Whoever works for the launcher replies with a result or a failure, and has
left effects on the way: records in the log and calls to the system. Effects
stay even if the work fails in the end.
-/

namespace ProxyLauncher

/-- A trace of work on the outside world. -/
inductive Effect where
  | record (record : Log.Record)
  | call (call : Listener.Call)
  deriving DecidableEq, Repr

/-- The effects of some work and how it ended. -/
structure Reply (α : Type) where
  effects : List Effect := []
  result : Except Failure α

namespace Reply

variable {α β : Type}

/-- Ends with a value at once. -/
def done (value : α) : Reply α := ⟨[], .ok value⟩

/-- Ends with a failure at once. -/
def failed (failure : Failure) : Reply α := ⟨[], .error failure⟩

/-- Ends as computed, without an effect. -/
def ofExcept (result : Except Failure α) : Reply α := ⟨[], result⟩

/-- Leaves a record. -/
def log (record : Log.Record) : Reply Unit := ⟨[.record record], .ok ()⟩

/-- Goes on with the value of some work, unless it failed. -/
def andThen (reply : Reply α) (next : α → Reply β) : Reply β :=
  match reply.result with
  | .ok value => ⟨reply.effects ++ (next value).effects, (next value).result⟩
  | .error failure => ⟨reply.effects, .error failure⟩

instance : Monad Reply where
  pure := done
  bind := andThen

@[simp]
theorem done_andThen (value : α) (next : α → Reply β) : (done value).andThen next = next value := by
  simp [andThen, done]

@[simp]
theorem failed_andThen (failure : Failure) (next : α → Reply β) :
    (failed failure).andThen next = failed failure :=
  rfl

/-- Does something more after some work, whether or not that failed. If what comes after fails,
that failure is the one that counts. -/
def andAlways (reply : Reply α) (last : Reply Unit) : Reply α :=
  ⟨reply.effects ++ last.effects,
    match last.result with
    | .ok () => reply.result
    | .error failure => .error failure⟩

/-- Does something more after some work that the system refused; other failures pass. -/
def andIfRefused (reply : Reply α) (last : Reply Unit) : Reply α :=
  match reply.result with
  | .error (.system _) => reply.andAlways last
  | _ => reply

end Reply

end ProxyLauncher
