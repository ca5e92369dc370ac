import IdentityStore.Workspace

/-!
# Sessions

A session takes steps one after the other, each on the state that the one before left. A step that
fails does not end the session.

* `after_append`, `outcomes_append`, `events_append`, `accepted_append`: a session is cut into two
  at any step.
-/

namespace IdentityStore

namespace Session

variable {σ κ α : Type}

def after (act : κ → Action σ α) (steps : List κ) (s : σ) : σ :=
  steps.foldl (fun s k => ((act k).run s).state) s

def outcomes (act : κ → Action σ α) : List κ → σ → List (Outcome σ α)
  | [], _ => []
  | k :: rest, s => (act k).run s :: outcomes act rest ((act k).run s).state

/-- The steps that succeed, each in the state that it was taken in. -/
def accepted (act : κ → Action σ α) : List κ → σ → List κ
  | [], _ => []
  | k :: rest, s =>
    match ((act k).run s).answer with
    | .ok _ => k :: accepted act rest ((act k).run s).state
    | .error _ => accepted act rest ((act k).run s).state

def events (act : κ → Action σ α) (steps : List κ) (s : σ) : List Event :=
  (outcomes act steps s).flatMap (·.events)

@[simp] theorem after_nil (act : κ → Action σ α) (s : σ) : after act [] s = s := rfl

@[simp] theorem after_cons (act : κ → Action σ α) (k : κ) (rest : List κ) (s : σ) :
    after act (k :: rest) s = after act rest ((act k).run s).state := rfl

theorem after_append (act : κ → Action σ α) (steps more : List κ) (s : σ) :
    after act (steps ++ more) s = after act more (after act steps s) :=
  List.foldl_append

theorem outcomes_append (act : κ → Action σ α) (steps more : List κ) (s : σ) :
    outcomes act (steps ++ more) s =
      outcomes act steps s ++ outcomes act more (after act steps s) := by
  induction steps generalizing s with
  | nil => rfl
  | cons k rest ih => rw [List.cons_append, outcomes, outcomes, ih]; rfl

theorem events_cons (act : κ → Action σ α) (k : κ) (rest : List κ) (s : σ) :
    events act (k :: rest) s =
      ((act k).run s).events ++ events act rest ((act k).run s).state :=
  List.flatMap_cons

theorem events_append (act : κ → Action σ α) (steps more : List κ) (s : σ) :
    events act (steps ++ more) s = events act steps s ++ events act more (after act steps s) := by
  rw [events, outcomes_append, List.flatMap_append]
  rfl

theorem accepted_append (act : κ → Action σ α) (steps more : List κ) (s : σ) :
    accepted act (steps ++ more) s =
      accepted act steps s ++ accepted act more (after act steps s) := by
  induction steps generalizing s with
  | nil => rfl
  | cons k rest ih =>
    rw [List.cons_append, accepted, accepted, ih, after_cons]
    cases ((act k).run s).answer <;> rfl

theorem accepted_sublist (act : κ → Action σ α) (steps : List κ) (s : σ) :
    (accepted act steps s).Sublist steps := by
  induction steps generalizing s with
  | nil => exact .slnil
  | cons k rest ih =>
    rw [accepted]
    split
    · exact (ih _).cons_cons k
    · exact (ih _).cons k

end Session

def PolicyDraft.afterAll (history : List Declaration) (d : PolicyDraft) : PolicyDraft :=
  Session.after PolicyDraft.declare history d

def StoreDraft.afterAll {k : StoreType} (steps : List (StoreStep k)) (d : StoreDraft k) :
    StoreDraft k :=
  Session.after StoreDraft.step steps d

theorem StoreDraft.afterAll_cons {k : StoreType} (t : StoreStep k) (rest : List (StoreStep k))
    (d : StoreDraft k) : afterAll (t :: rest) d = afterAll rest ((step t).run d).state := rfl

def DeploymentDraft.afterAll (steps : List DeploymentStep) (d : DeploymentDraft) :
    DeploymentDraft :=
  Session.after DeploymentDraft.step steps d

theorem DeploymentDraft.afterAll_cons (x : DeploymentStep) (rest : List DeploymentStep)
    (d : DeploymentDraft) : afterAll (x :: rest) d = afterAll rest ((step x).run d).state := rfl

def Workspace.afterAll (commands : List Command) (w : Workspace) : Workspace :=
  Session.after Workspace.execute commands w

end IdentityStore
