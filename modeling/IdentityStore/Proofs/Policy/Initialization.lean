import IdentityStore.Proofs.Policy.Invariant

/-!
# Running the initializers of a policy

The initializers of a policy run one after the other, each on the context that the one before left.
The first one that fails ends the run: its error is returned, and the context stays as it left it.

* **Success** (`ContextInitializer.Succeed`): the initializers of a list all succeed.
  `succeed_or_fails`: if they do not, there is a first one that fails after others that succeed.
* `run_forM_of_succeed`, `run_forM_of_error`: what a run answers, leaves and tells in both cases.
* `Policy.ResultsFrom.initializers`: a policy has the initializers that its history adds, in order.
* `initializers_run_in_order`: the law, and that a policy that two others were read into runs the
  initializers of the first and, if they succeed, those of the second.
-/

namespace IdentityStore

namespace ContextInitializer

/-- The initializers of a list all succeed, each on the context that the one before left. -/
inductive Succeed : List ContextInitializer → IdentityContext → IdentityContext → Prop where
  | nil (c : IdentityContext) : Succeed [] c c
  | cons {i : ContextInitializer} {rest : List ContextInitializer} {c c₁ c₂ : IdentityContext}
    (first : i.run c = .ok () c₁) (others : Succeed rest c₁ c₂) : Succeed (i :: rest) c c₂

variable {i : ContextInitializer} {is before after : List ContextInitializer}
  {c c₁ c₂ : IdentityContext} {e : Error}

/-- Either all succeed, or there is a first one that fails. -/
theorem succeed_or_fails (is : List ContextInitializer) (c : IdentityContext) :
    (∃ c', Succeed is c c') ∨
      ∃ before i after c₁ e c₂, is = before ++ i :: after ∧ Succeed before c c₁ ∧
        i.run c₁ = .error e c₂ := by
  induction is generalizing c with
  | nil => exact .inl ⟨c, .nil c⟩
  | cons i rest ih =>
    cases hi : i.run c with
    | error e c₂ => exact .inr ⟨[], i, rest, c, e, c₂, rfl, .nil c, hi⟩
    | ok _ c' =>
      rcases ih c' with ⟨c₂, hrest⟩ | ⟨before, j, after, c₁, e, c₂, rfl, hbefore, hj⟩
      · exact .inl ⟨c₂, .cons hi hrest⟩
      · exact .inr ⟨i :: before, j, after, c₁, e, c₂, rfl, .cons hi hbefore, hj⟩

/-! ## One initializer -/

theorem run_runInitializer (i : ContextInitializer) (c : IdentityContext) :
    (Policy.runInitializer i).run c =
      match i.run c with
      | .ok _ c' => ⟨.ok (), c', [.running i.id]⟩
      | .error e c' => ⟨.error e, c', [.running i.id]⟩ := by
  show Outcome.after [.running i.id]
    (match i.run c with
      | .ok _ c' => ⟨.ok (), c', []⟩
      | .error e c' => ⟨.error e, c', []⟩) = _
  cases i.run c <;> rfl

theorem run_runInitializer_of_ok (h : i.run c = .ok () c₁) :
    (Policy.runInitializer i).run c = ⟨.ok (), c₁, [.running i.id]⟩ := by
  rw [run_runInitializer, h]

theorem run_runInitializer_of_error (h : i.run c = .error e c₁) :
    (Policy.runInitializer i).run c = ⟨.error e, c₁, [.running i.id]⟩ := by
  rw [run_runInitializer, h]

/-! ## A list of initializers -/

/-- **Initializers that all succeed** lead to the context that the last one leaves. -/
theorem run_forM_of_succeed (h : Succeed is c c₁) :
    (is.forM Policy.runInitializer).run c = ⟨.ok (), c₁, is.map fun i => .running i.id⟩ := by
  induction h with
  | nil c => rfl
  | cons first _ ih =>
    rw [Action.forM_cons, Action.run_bind_of_ok (run_runInitializer_of_ok first), ih]
    rfl

/-- **The first initializer that fails** ends the run. Those after it do not matter. -/
theorem run_forM_of_error (hbefore : Succeed before c c₁) (hi : i.run c₁ = .error e c₂) :
    ((before ++ i :: after).forM Policy.runInitializer).run c =
      ⟨.error e, c₂, (before ++ [i]).map fun i => .running i.id⟩ := by
  rw [Action.forM_append, Action.run_bind_of_ok (run_forM_of_succeed hbefore), Action.forM_cons,
    Action.run_bind_of_error (run_runInitializer_of_error hi), List.map_append]
  rfl

end ContextInitializer

namespace Policy

open ContextInitializer (Succeed)

variable {p q r : Policy} {history : List Declaration} {c : IdentityContext}

/-! ## Initializers of a policy -/

theorem ResultsFrom.initializers (h : p.ResultsFrom history) :
    p.initializers = (Declaration.sound history).flatMap Declaration.initializers := by
  rw [(resultsFrom_iff.1 h).1]
  exact Terms.initializers_amendAll

theorem exists_resultsFrom_readFrom (hp : p.Resolved) :
    ∃ r : Policy, r.ResultsFrom [.readFrom p, .readFrom q] := by
  obtain ⟨d, hd, hresolve⟩ := hp
  obtain ⟨hv, hterms⟩ := PolicyDraft.resolve_eq_ok_iff.1 hresolve
  have hsupports : p.supported ≠ ∅ := by
    rw [hterms]
    exact (hd.sealed hv).supports
  obtain ⟨t, ht⟩ := Ledger.ne_empty_iff.1 hsupports
  have hmem : t ∈ (Terms.amendAll ∅ [.readFrom p, .readFrom q]).supported :=
    Terms.mem_supported_amendAll_empty.2 ⟨_, List.mem_cons_self, ht⟩
  exact ⟨⟨Terms.amendAll ∅ [.readFrom p, .readFrom q]⟩,
    resultsFrom_iff.2 ⟨rfl, Ledger.ne_empty_iff.2 ⟨t, hmem⟩⟩⟩

/-- **Reading two policies** puts the initializers of the second behind those of the first. -/
theorem initializeContext_of_readFrom (h : r.ResultsFrom [.readFrom p, .readFrom q]) :
    r.initializeContext = p.initializeContext >>= fun _ => q.initializeContext := by
  have hinitializers : r.initializers = p.initializers ++ q.initializers := by
    rw [h.initializers]
    simp [Declaration.sound, Declaration.fault?, Declaration.initializers]
  rw [initializeContext, hinitializers]
  exact Action.forM_append _ _ _

theorem level_of_mem_events_initializeContext {x : Event}
    (h : x ∈ (p.initializeContext.run c).events) : x.level = .trace := by
  have htold : ∃ is : List ContextInitializer,
      (p.initializeContext.run c).events = is.map fun i => .running i.id := by
    rcases ContextInitializer.succeed_or_fails p.initializers c with
      ⟨c', hall⟩ | ⟨before, i, after, c₁, e, c₂, hsplit, hbefore, hi⟩
    · rw [initializeContext, ContextInitializer.run_forM_of_succeed hall]
      exact ⟨_, rfl⟩
    · rw [initializeContext, hsplit, ContextInitializer.run_forM_of_error hbefore hi]
      exact ⟨_, rfl⟩
  obtain ⟨is, his⟩ := htold
  rw [his] at h
  obtain ⟨i, -, rfl⟩ := List.mem_map.1 h
  rfl

/-- **The initializers of a policy run in their order,** each on the context that the one before
left. If all of them succeed, so does the run, and it leaves the context after all of them. If one
fails, the run fails with its error, leaves the context as this one left it, and does not come to
those after it. An event is traced for each initializer that runs, and no other. A policy that two
policies were read into, one after the other, first runs what the first runs, and what the second
runs only if that succeeds. -/
theorem initializers_run_in_order (p : Policy) (c : IdentityContext) :
    (∀ c', Succeed p.initializers c c' →
        p.initializeContext.run c = ⟨.ok (), c', p.initializers.map fun i => .running i.id⟩) ∧
      (∀ before i after c₁ e c₂, p.initializers = before ++ i :: after → Succeed before c c₁ →
        i.run c₁ = .error e c₂ →
        p.initializeContext.run c =
          ⟨.error e, c₂, (before ++ [i]).map fun i => .running i.id⟩) ∧
      ((∃ c', Succeed p.initializers c c') ∨
        ∃ before i after c₁ e c₂, p.initializers = before ++ i :: after ∧ Succeed before c c₁ ∧
          i.run c₁ = .error e c₂) ∧
      (∀ x ∈ (p.initializeContext.run c).events, x.level = .trace) ∧
      ∀ q : Policy, (p.Resolved → ∃ r : Policy, r.ResultsFrom [.readFrom p, .readFrom q]) ∧
        ∀ r : Policy, r.ResultsFrom [.readFrom p, .readFrom q] →
          r.initializeContext = p.initializeContext >>= fun _ => q.initializeContext := by
  refine ⟨fun c' h => ContextInitializer.run_forM_of_succeed h, ?_,
    ContextInitializer.succeed_or_fails p.initializers c,
    fun _ => level_of_mem_events_initializeContext,
    fun q => ⟨exists_resultsFrom_readFrom, fun r => initializeContext_of_readFrom⟩⟩
  intro before i after c₁ e c₂ hsplit hbefore hi
  rw [initializeContext, hsplit]
  exact ContextInitializer.run_forM_of_error hbefore hi

/-- The second of three initializers writes an attribute and fails. It is the same initializer as
the third one, which does not run, and neither does what another policy adds when it is read. -/
theorem failing_initializer_ends_run :
    let mark : ContextInitializer :=
      ⟨"mark", fun c => .ok () (c.setAttribute "trail" (.string "marked")).2⟩
    let refuse : ContextInitializer :=
      ⟨"refuse", fun c =>
        .error (.context "read-only") (c.setAttribute "trail" (.string "refused")).2⟩
    let p : Policy := ⟨Terms.amendAll ∅
      [.supportAllFeatures, .addInitializer mark, .addInitializer refuse, .addInitializer mark]⟩
    let q : Policy := ⟨Terms.amendAll ∅ [.supportAllFeatures, .addInitializer mark]⟩
    let r : Policy := ⟨Terms.amendAll ∅ [.readFrom p, .readFrom q]⟩
    let c := (IdentityContext.setAttribute ∅ "trail" (.string "marked")).2
    let o := r.initializeContext.run ∅
    r.ResultsFrom [.readFrom p, .readFrom q] ∧ o.answer = .error (.context "read-only") ∧
      o.state = (c.setAttribute "trail" (.string "refused")).2 ∧
      o.events = [.running "mark", .running "refuse"] := by
  intro mark refuse p q r c o
  have hr : r.ResultsFrom [.readFrom p, .readFrom q] :=
    resultsFrom_iff.2 ⟨rfl, Ledger.ne_empty_iff.2 ⟨.identity, by decide⟩⟩
  have hstops := (initializers_run_in_order p ∅).2.1 [mark] refuse [mark] c
    (.context "read-only") (c.setAttribute "trail" (.string "refused")).2 rfl
    (.cons rfl (.nil c)) rfl
  have hread := ((initializers_run_in_order p ∅).2.2.2.2 q).2 r hr
  have ho : o = ⟨.error (.context "read-only"), (c.setAttribute "trail" (.string "refused")).2,
      [.running "mark", .running "refuse"]⟩ := by
    show r.initializeContext.run ∅ = _
    rw [hread]
    exact Action.run_bind_of_error hstops
  rw [ho]
  exact ⟨hr, rfl, rfl, rfl⟩

end Policy

end IdentityStore
