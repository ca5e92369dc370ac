import IdentityStore.Action

/-!
# Outcomes of composed actions

Equations for the ways in which the steps of the library are put together.

* `run_bind_of_ok`, `run_bind_of_error`: a sequence whose first action is known to succeed or to
  fail.
* `run_bind_return`: a sequence that ends with an answer made from the one of the action.
* `map_eq_error_iff`: such an answer is an error only if the one of the action is.
* `forM_cons`, `forM_append`: a list of actions, one after the other.
* `run_mapM_of_ok`: a list of actions that all succeed and change nothing.
-/

namespace IdentityStore.Action

variable {σ α β : Type} {a : Action σ α} {s : σ}

theorem run_bind_of_ok {f : α → Action σ β} {x : α} {s' : σ} {events : List Event}
    (h : a.run s = ⟨.ok x, s', events⟩) :
    (a >>= f).run s = Outcome.after events ((f x).run s') := by
  rw [run_bind, h]

theorem run_bind_of_error {f : α → Action σ β} {e : Error} {s' : σ} {events : List Event}
    (h : a.run s = ⟨.error e, s', events⟩) : (a >>= f).run s = ⟨.error e, s', events⟩ := by
  rw [run_bind, h]

theorem run_bind_return (a : Action σ α) (f : α → β) (s : σ) :
    (a >>= fun x => pure (f x)).run s =
      ⟨(a.run s).answer.map f, (a.run s).state, (a.run s).events⟩ := by
  rw [run_bind]
  rcases a.run s with ⟨_ | x, s', events⟩
  · rfl
  · simp [Outcome.after, Except.map]

theorem map_eq_error_iff {f : α → β} {answer : Except Error α} {e : Error} :
    answer.map f = .error e ↔ answer = .error e := by
  cases answer <;> simp [Except.map]

/-! ## Lists of actions -/

variable {κ : Type}

theorem forM_cons (act : κ → Action σ Unit) (k : κ) (rest : List κ) :
    (k :: rest).forM act = act k >>= fun _ => rest.forM act := rfl

theorem forM_append (act : κ → Action σ Unit) (before after : List κ) :
    (before ++ after).forM act = before.forM act >>= fun _ => after.forM act :=
  List.forM_append

theorem run_mapM_of_ok {act : κ → Action σ α} {f : κ → α} {ks : List κ}
    (h : ∀ k ∈ ks, (act k).run s = ⟨.ok (f k), s, []⟩) :
    (ks.mapM act).run s = ⟨.ok (ks.map f), s, []⟩ := by
  induction ks with
  | nil => rfl
  | cons k rest ih =>
    rw [List.mapM_cons, run_bind_of_ok (h k List.mem_cons_self), Outcome.after_nil,
      run_bind_of_ok (ih fun j hj => h j (List.mem_cons_of_mem _ hj)), Outcome.after_nil]
    rfl

end IdentityStore.Action
