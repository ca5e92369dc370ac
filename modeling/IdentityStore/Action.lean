import IdentityStore.Event

/-!
# Actions

An action works on a state, may fail, and tells events. A failure ends the action; it keeps the
state and the events that the action had reached by then.
-/

namespace IdentityStore

/-- What an action leaves: its answer, the state, and the events in the order they were told. -/
structure Outcome (σ α : Type) where
  answer : Except Error α
  state : σ
  events : List Event

/-- The outcome of the rest of an action, after what has been told before. -/
def Outcome.after {σ α : Type} (events : List Event) (o : Outcome σ α) : Outcome σ α :=
  { o with events := events ++ o.events }

namespace Outcome

variable {σ α : Type}

@[simp] theorem after_nil (o : Outcome σ α) : o.after [] = o := rfl

@[simp] theorem answer_after (events : List Event) (o : Outcome σ α) :
    (o.after events).answer = o.answer := rfl

@[simp] theorem state_after (events : List Event) (o : Outcome σ α) :
    (o.after events).state = o.state := rfl

@[simp] theorem events_after (events : List Event) (o : Outcome σ α) :
    (o.after events).events = events ++ o.events := rfl

end Outcome

def Action (σ α : Type) : Type := σ → Outcome σ α

namespace Action

variable {σ τ α β : Type}

def run (a : Action σ α) (s : σ) : Outcome σ α := a s

instance : Monad (Action σ) where
  pure a := fun s => ⟨.ok a, s, []⟩
  bind a f := fun s =>
    match a s with
    | ⟨.ok x, s', events⟩ => Outcome.after events (f x s')
    | ⟨.error e, s', events⟩ => ⟨.error e, s', events⟩

def fail (e : Error) : Action σ α := fun s => ⟨.error e, s, []⟩

def state : Action σ σ := fun s => ⟨.ok s, s, []⟩

def modify (f : σ → σ) : Action σ Unit := fun s => ⟨.ok (), f s, []⟩

def tell (e : Event) : Action σ Unit := fun s => ⟨.ok (), s, [e]⟩

/-- An action on a part of the state. The part is put back whether the action succeeds or
fails. -/
def focus (part : σ → τ) (put : σ → τ → σ) (a : Action τ α) : Action σ α := fun s =>
  let o := a.run (part s)
  ⟨o.answer, put s o.state, o.events⟩

/-! ## Outcomes -/

@[simp] theorem run_pure (x : α) (s : σ) : (pure x : Action σ α).run s = ⟨.ok x, s, []⟩ := rfl

@[simp] theorem run_fail (e : Error) (s : σ) : (fail e : Action σ α).run s = ⟨.error e, s, []⟩ :=
  rfl

@[simp] theorem run_state (s : σ) : (state : Action σ σ).run s = ⟨.ok s, s, []⟩ := rfl

@[simp] theorem run_modify (f : σ → σ) (s : σ) : (modify f).run s = ⟨.ok (), f s, []⟩ := rfl

@[simp] theorem run_tell (e : Event) (s : σ) : (tell e).run s = ⟨.ok (), s, [e]⟩ := rfl

@[simp] theorem run_focus (part : σ → τ) (put : σ → τ → σ) (a : Action τ α) (s : σ) :
    (focus part put a).run s =
      ⟨(a.run (part s)).answer, put s (a.run (part s)).state, (a.run (part s)).events⟩ := rfl

/-- **A sequence of two actions.** The second one runs only if the first one succeeds. -/
theorem run_bind (a : Action σ α) (f : α → Action σ β) (s : σ) :
    (a >>= f).run s =
      match a.run s with
      | ⟨.ok x, s', events⟩ => Outcome.after events ((f x).run s')
      | ⟨.error e, s', events⟩ => ⟨.error e, s', events⟩ := rfl

instance : LawfulMonad (Action σ) := LawfulMonad.mk' (Action σ)
  (by
    intro α a
    funext s
    show (match a s with
      | ⟨.ok x, s', events⟩ => Outcome.after events ⟨.ok x, s', []⟩
      | ⟨.error e, s', events⟩ => ⟨.error e, s', events⟩) = a s
    rcases a s with ⟨_ | _, _, _⟩ <;> simp [Outcome.after])
  (by
    intro α β x f
    funext s
    exact Outcome.after_nil (f x s))
  (by
    intro α β γ a f g
    funext s
    show ((a >>= f) >>= g).run s = (a >>= fun x => f x >>= g).run s
    rw [run_bind, run_bind, run_bind]
    rcases a.run s with ⟨_ | x, s', events⟩
    · rfl
    · simp only [run_bind]
      rcases (f x).run s' with ⟨_ | y, s'', events'⟩
      · rfl
      · simp [Outcome.after])

end Action

end IdentityStore
