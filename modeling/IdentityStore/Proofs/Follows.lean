import IdentityStore.Session

/-!
# Actions that follow others

Let states and answers be seen through two functions. An action follows another one when it does on
the image of every state what the other one does on the state, up to the two functions: it succeeds
or fails with it, for the same reason, tells the same events, and leaves the image of the state that
the other one leaves.

* `Outcome.map`: the image of an outcome.
* **Following** (`Action.Follows`): the relation, and one rule for each way to build an action.
* `Session.outcomes_of_follows`: an action that follows another one in one step follows it through
  every session.
-/

namespace IdentityStore

variable {σ τ α β γ δ κ ι : Type}

/-- The image of an outcome: its state and its answer are converted, its error and its events
stay. -/
def Outcome.map (f : σ → τ) (g : α → β) (o : Outcome σ α) : Outcome τ β :=
  ⟨o.answer.map g, f o.state, o.events⟩

namespace Action

/-- **Following.** The action `b` does on images what `a` does. -/
def Follows (f : σ → τ) (g : α → β) (b : Action τ β) (a : Action σ α) : Prop :=
  ∀ s, b.run (f s) = (a.run s).map f g

namespace Follows

variable {f : σ → τ} {g : α → β} {a a' : Action σ α} {b b' : Action τ β}

protected theorem refl (a : Action σ α) : Follows id id a a := by
  intro s
  rcases h : a.run s with ⟨_ | x, s', events⟩ <;> exact h

protected theorem pure {x : α} {y : β} (h : y = g x) :
    Follows f g (pure y : Action τ β) (pure x) := by
  intro s
  rw [h]
  rfl

protected theorem fail (e : Error) : Follows f g (fail e) (fail e) := fun _ => rfl

protected theorem state : Follows f f state state := fun _ => rfl

protected theorem tell (e : Event) : Follows f id (tell e) (tell e) := fun _ => rfl

protected theorem modify {m : σ → σ} {m' : τ → τ} (h : ∀ s, m' (f s) = f (m s)) :
    Follows f id (modify m') (modify m) := by
  intro s
  rw [run_modify, h]
  rfl

protected theorem bind {h : γ → δ} {k : α → Action σ γ} {k' : β → Action τ δ}
    (hb : Follows f g b a) (hk : ∀ x, Follows f h (k' (g x)) (k x)) :
    Follows f h (b >>= k') (a >>= k) := by
  intro s
  rw [run_bind, run_bind, hb s]
  rcases a.run s with ⟨e | x, s', events⟩
  · rfl
  · simp only [Outcome.map, Except.map]
    rw [hk x s']
    rfl

protected theorem ite {c : Prop} [Decidable c] (hb : Follows f g b a) (hb' : Follows f g b' a') :
    Follows f g (if c then b else b') (if c then a else a') := by
  split
  · exact hb
  · exact hb'

protected theorem focus {σ' τ' : Type} {f' : σ' → τ'} {part : σ → σ'} {put : σ → σ' → σ}
    {part' : τ → τ'} {put' : τ → τ' → τ} {a : Action σ' α} {b : Action τ' β}
    (hpart : ∀ s, part' (f s) = f' (part s)) (hput : ∀ s t, put' (f s) (f' t) = f (put s t))
    (hb : Follows f' g b a) : Follows f g (focus part' put' b) (focus part put a) := by
  intro s
  rw [run_focus, run_focus, hpart, hb]
  simp only [Outcome.map, hput]

protected theorem forM {act : κ → Action σ Unit} {act' : κ → Action τ Unit} {ks : List κ}
    (h : ∀ k, Follows f id (act' k) (act k)) : Follows f id (ks.forM act') (ks.forM act) := by
  induction ks with
  | nil => exact .pure rfl
  | cons k rest ih => exact (h k).bind fun _ => ih

protected theorem mapM {act : κ → Action σ α} {act' : κ → Action τ β} {ks : List κ}
    (h : ∀ k, Follows f g (act' k) (act k)) :
    Follows f (List.map g) (ks.mapM act') (ks.mapM act) := by
  induction ks with
  | nil =>
    rw [List.mapM_nil, List.mapM_nil]
    exact .pure rfl
  | cons k rest ih =>
    rw [List.mapM_cons, List.mapM_cons]
    exact (h k).bind fun _ => ih.bind fun _ => .pure rfl

end Follows

end Action

/-- **A session follows a session.** If each step follows its counterpart, so do all outcomes, one
by one. -/
theorem Session.outcomes_of_follows {f : σ → τ} {g : α → β} {act : κ → Action σ α}
    {act' : ι → Action τ β} {c : κ → ι} (h : ∀ k, Action.Follows f g (act' (c k)) (act k))
    (steps : List κ) (s : σ) :
    outcomes act' (steps.map c) (f s) = (outcomes act steps s).map (Outcome.map f g) := by
  induction steps generalizing s with
  | nil => rfl
  | cons k rest ih =>
    rw [List.map_cons, outcomes, outcomes, List.map_cons, h k s]
    exact congrArg _ (ih _)

end IdentityStore
