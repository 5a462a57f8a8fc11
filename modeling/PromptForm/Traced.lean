import PromptForm.Event
import PromptForm.Fault

/-!
# Traced results

An operation that leaves events behind has them beside its result, whether it succeeds or fails: what
happened before a fault stays on record.

## Main definitions

* `Traced`: events and a result.
* `Traced.note`: an event.
-/

namespace PromptForm

/-- A result with the events on the way to it. -/
structure Traced (α : Type) where
  events : List Event
  result : Except Fault α

namespace Traced

variable {α β : Type}

def ofResult (r : Except Fault α) : Traced α := ⟨[], r⟩

def note (e : Event) : Traced Unit := ⟨[e], .ok ()⟩

def noteAll (es : List Event) : Traced Unit := ⟨es, .ok ()⟩

/-- Continues with the result, when there is one. -/
def andThen (t : Traced α) (f : α → Traced β) : Traced β :=
  match t.result with
  | .ok a =>
    let next := f a
    ⟨t.events ++ next.events, next.result⟩
  | .error e => ⟨t.events, .error e⟩

instance : Monad Traced where
  pure a := ⟨[], .ok a⟩
  bind := andThen

instance : MonadExceptOf Fault Traced where
  throw e := ⟨[], .error e⟩
  tryCatch t f :=
    match t.result with
    | .ok _ => t
    | .error e =>
      let next := f e
      ⟨t.events ++ next.events, next.result⟩

instance : MonadLift (Except Fault) Traced where
  monadLift := ofResult

/-- The results of operations that are done one after the other. -/
def all : List (Traced α) → Traced (List α)
  | [] => pure []
  | t :: ts => do
    let a ← t
    let as ← all ts
    return a :: as

@[simp] theorem events_pure (a : α) : (pure a : Traced α).events = [] := rfl

@[simp] theorem result_pure (a : α) : (pure a : Traced α).result = .ok a := rfl

/-- The result of a sequence is the sequence of the results. -/
theorem result_bind (t : Traced α) (f : α → Traced β) :
    (t >>= f).result = t.result >>= fun a => (f a).result := by
  simp only [bind, andThen]
  cases h : t.result <;> rfl

end Traced

end PromptForm
