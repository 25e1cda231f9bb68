import OpenIntentRouter.Core.Acyclic
import OpenIntentRouter.DelegatedRuns.Transitions
import OpenIntentRouter.Plans.Dependencies

/-!
# Dependency graphs of plans

The search of `_validate_no_cycles` (app/schemas/plans.py:116-132) without a bound
on its depth (`Visits`), what `Plan.validate_steps` (app/schemas/plans.py:52-84)
accepts, and what is left to do of a plan that was accepted. Python's own limit on
the depth of a recursion is not modelled.

* `visits_of_visit`: on a graph whose edges stay inside its nodes the search
  ends, within the depth that `visit` gives it;
* `Visits.topological`, `Visits.cyclic`: what it has visited when it returns, and
  what it has found when it raises;
* `validate_steps_exact`: distinct ids, known dependencies and no cycle;
* `plan_state_after_completion_progress`: such a plan without a cancelled step is
  completed or failed, or it goes on with a step that is blocked, running or ready
  (`NextState`).
-/
namespace OpenIntentRouter.Plans.Graphs

open Core Core.Except Schemas DelegatedRuns Dependencies

variable {graph : List (String × List String)}

def Edge (graph : List (String × List String)) (node parent : String) : Prop :=
  parent ∈ parents graph node

def Closed (graph : List (String × List String)) : Prop :=
  ∀ node parent, Edge graph node parent → parent ∈ graph.map Prod.fst

theorem Edge.mem_nodes {node parent : String} (h : Edge graph node parent) :
    node ∈ graph.map Prod.fst := by
  induction graph with
  | nil => cases h
  | cons entry graph ih =>
    unfold Edge parents at h
    split at h
    · next heq => simp [heq]
    · exact List.mem_cons_of_mem _ (ih h)

/-! ## The search -/

/-- `for node in nodes: visit(node)` with these sets `visiting` and `visited`, as deep as it
goes; the result is `visited`.
mirrors app/schemas/plans.py:120-129 -/
inductive Visits (graph : List (String × List String)) :
    List String → List String → List String → Except StoreError (List String) → Prop where
  | nil {visiting visited : List String} : Visits graph visiting visited [] (.ok visited)
  | known {visiting visited nodes : List String} {node : String}
      {result : Except StoreError (List String)} :
    node ∈ visited → Visits graph visiting visited nodes result →
    Visits graph visiting visited (node :: nodes) result
  | cycle {visiting visited nodes : List String} {node : String} :
    node ∉ visited → node ∈ visiting →
    Visits graph visiting visited (node :: nodes)
      (.error (.validationError "plan dependencies must not contain cycles"))
  | visit {visiting visited visited' nodes : List String} {node : String}
      {result : Except StoreError (List String)} :
    node ∉ visited → node ∉ visiting →
    Visits graph (node :: visiting) visited (parents graph node) (.ok visited') →
    Visits graph visiting (node :: visited') nodes result →
    Visits graph visiting visited (node :: nodes) result
  | raises {visiting visited nodes : List String} {node : String} {e : StoreError} :
    node ∉ visited → node ∉ visiting →
    Visits graph (node :: visiting) visited (parents graph node) (.error e) →
    Visits graph visiting visited (node :: nodes) (.error e)

variable {visiting visited nodes : List String} {steps : List PlanStep}

/-- The nodes under way are distinct, so the depth is bounded by their number. -/
theorem visits_of_visit (hclosed : Closed graph) {fuel : Nat} (hnodup : visiting.Nodup)
    (hvisiting : visiting ⊆ graph.map Prod.fst) (hnodes : nodes ⊆ graph.map Prod.fst)
    (hfuel : graph.length + 1 ≤ fuel + visiting.length) :
    Visits graph visiting visited nodes (nodes.foldlM (visit graph fuel visiting) visited) := by
  induction fuel generalizing visiting visited nodes with
  | zero =>
    have hle := (hnodup.subperm hvisiting).length_le
    rw [List.length_map] at hle
    omega
  | succ fuel ih =>
    induction nodes generalizing visited with
    | nil => exact .nil
    | cons node nodes ihn =>
      have hrest : nodes ⊆ graph.map Prod.fst := fun n hn => hnodes (List.mem_cons_of_mem _ hn)
      rw [List.foldlM_cons, Schemas.visit]
      by_cases hknown : node ∈ visited
      · rw [if_pos hknown]
        exact .known hknown (ihn hrest)
      · rw [if_neg hknown]
        by_cases hcycle : node ∈ visiting
        · rw [if_pos hcycle]
          exact .cycle hknown hcycle
        · rw [if_neg hcycle]
          have hin : node ∈ graph.map Prod.fst := hnodes List.mem_cons_self
          have hinner : Visits graph (node :: visiting) visited (parents graph node) _ :=
            ih (hnodup.cons hcycle) (List.cons_subset.2 ⟨hin, hvisiting⟩)
              (fun p hp => hclosed node p hp) (by simp only [List.length_cons]; omega)
          cases hresult : (parents graph node).foldlM (Schemas.visit graph fuel (node :: visiting))
              visited with
          | error e =>
            rw [hresult] at hinner
            exact .raises hknown hcycle hinner
          | ok visited' =>
            rw [hresult] at hinner
            exact .visit hknown hcycle hinner (ihn hrest)

/-- What has been visited stands in topological order. -/
theorem Visits.topological {out : List String} (h : Visits graph visiting visited nodes (.ok out))
    (ht : Topological (Edge graph) visited) (hd : ∀ node ∈ visiting, node ∉ visited) :
    Topological (Edge graph) out ∧ visited ⊆ out ∧ nodes ⊆ out ∧ ∀ node ∈ visiting, node ∉ out := by
  generalize hr : Except.ok out = result at h
  induction h generalizing out with
  | nil =>
    cases hr
    exact ⟨ht, fun _ => id, List.nil_subset _, hd⟩
  | known hknown _ ih =>
    obtain ⟨hout, hsub, hnodes, hdis⟩ := ih ht hd hr
    exact ⟨hout, hsub, List.cons_subset.2 ⟨hsub hknown, hnodes⟩, hdis⟩
  | cycle => cases hr
  | @visit visiting visited visited' nodes node result hnew hleft _ _ ihinner ih =>
    obtain ⟨hin, hsub, hparents, hdis⟩ := ihinner ht
      (List.forall_mem_cons.2 ⟨hnew, hd⟩) rfl
    have hnode : node ∉ visited' := hdis node List.mem_cons_self
    obtain ⟨hout, hsub', hnodes, hdis'⟩ := ih (.cons hnode (fun _ hb => hparents hb) hin)
      (fun other hother hmem => by
        rcases List.mem_cons.1 hmem with rfl | hmem
        · exact hleft hother
        · exact hdis other (List.mem_cons_of_mem _ hother) hmem) hr
    obtain ⟨hnode', hsub'⟩ := List.cons_subset.1 hsub'
    exact ⟨hout, fun _ hm => hsub' (hsub hm), List.cons_subset.2 ⟨hnode', hnodes⟩, hdis'⟩
  | raises => cases hr

/-- The nodes under way lead to the next ones; the search raises when it comes back to one. -/
theorem Visits.cyclic {e : StoreError} (h : Visits graph visiting visited nodes (.error e))
    (hpath : ∀ a ∈ visiting, ∀ b ∈ nodes, Relation.TransGen (Edge graph) a b) :
    ¬Acyclic (Edge graph) := by
  generalize hr : Except.error e = result at h
  induction h with
  | nil => cases hr
  | known _ _ ih => exact ih (fun a ha b hb => hpath a ha b (List.mem_cons_of_mem _ hb)) hr
  | @cycle _ _ _ node _ hback => exact fun hac => hac node (hpath node hback node List.mem_cons_self)
  | visit _ _ _ _ _ ih => exact ih (fun a ha b hb => hpath a ha b (List.mem_cons_of_mem _ hb)) hr
  | @raises _ _ _ node _ _ _ _ ih =>
    refine ih (fun a ha b hb => ?_) hr
    rcases List.mem_cons.1 ha with rfl | ha
    · exact .single hb
    · exact (hpath a ha node List.mem_cons_self).tail hb

theorem validateNoCycles_iff (hclosed : Closed graph) :
    validateNoCycles graph = .ok () ↔ Acyclic (Edge graph) := by
  have hsearch : Visits graph [] [] (graph.map Prod.fst)
      ((graph.map Prod.fst).foldlM (visit graph (graph.length + 1) []) []) :=
    visits_of_visit hclosed .nil (List.nil_subset _) (fun _ => id) (by simp)
  unfold validateNoCycles
  cases hresult : (graph.map Prod.fst).foldlM (visit graph (graph.length + 1) []) [] with
  | error e =>
    rw [hresult] at hsearch
    have hcyclic := hsearch.cyclic (by simp)
    simp [hcyclic]
  | ok out =>
    rw [hresult] at hsearch
    obtain ⟨hout, -, hnodes, -⟩ := hsearch.topological .nil (by simp)
    have hacyclic : Acyclic (Edge graph) := fun a ha => by
      obtain ⟨b, hb, -⟩ := Relation.TransGen.head'_iff.1 ha
      exact hout.irrefl (hnodes hb.mem_nodes) ha
    simp only [ok_bind, hacyclic, iff_true]
    rfl

/-! ## Steps -/

/-- mirrors app/schemas/plans.py:57 -/
def dependencyGraph (steps : List PlanStep) : List (String × List String) :=
  steps.map fun step => (step.stepId, step.dependsOn)

def DependsOn (steps : List PlanStep) (stepId parent : String) : Prop :=
  ∃ step ∈ steps, step.stepId = stepId ∧ parent ∈ step.dependsOn

theorem edge_iff (hn : (steps.map (·.stepId)).Nodup) {stepId parent : String} :
    Edge (dependencyGraph steps) stepId parent ↔ DependsOn steps stepId parent := by
  unfold Edge dependencyGraph
  induction steps with
  | nil => simp [DependsOn, parents]
  | cons step steps ih =>
    obtain ⟨hnew, hn⟩ := List.nodup_cons.1 hn
    simp only [DependsOn, List.exists_mem_cons_iff]
    rw [List.map_cons, parents]
    by_cases hid : step.stepId = stepId
    · have hnone : ¬∃ other ∈ steps, other.stepId = stepId ∧ parent ∈ other.dependsOn := by
        rintro ⟨other, hother, heq, -⟩
        exact hnew (List.mem_map.2 ⟨other, hother, heq.trans hid.symm⟩)
      simp [hid, hnone]
    · rw [if_neg hid]
      simpa [hid, DependsOn] using ih hn

/-- What `validate_steps` asks of the steps. -/
structure WellFormed (steps : List PlanStep) : Prop where
  unique : (steps.map (·.stepId)).Nodup
  known : ∀ step ∈ steps, ∀ parent ∈ step.dependsOn, parent ∈ steps.map (·.stepId)
  acyclic : Acyclic (DependsOn steps)

/-- The `Field` constraints on the steps.
mirrors app/schemas/plans.py:17-23,49 -/
def FieldsValid (steps : List PlanStep) : Prop :=
  steps ≠ [] ∧ ∀ step ∈ steps, step.stepId ≠ "" ∧ step.agentId ≠ "" ∧ step.description ≠ ""

theorem validateNoCycles_steps (hn : (steps.map (·.stepId)).Nodup)
    (hknown : ∀ step ∈ steps, ∀ parent ∈ step.dependsOn, parent ∈ steps.map (·.stepId)) :
    validateNoCycles (dependencyGraph steps) = .ok () ↔ Acyclic (DependsOn steps) := by
  have hrel : Edge (dependencyGraph steps) = DependsOn steps :=
    funext₂ fun _ _ => propext (edge_iff hn)
  rw [validateNoCycles_iff, hrel]
  intro stepId parent h
  obtain ⟨step, hs, -, hp⟩ := (edge_iff hn).1 h
  simpa [dependencyGraph] using hknown step hs parent hp

theorem checkSteps_iff : checkSteps steps = .ok () ↔ FieldsValid steps ∧ WellFormed steps := by
  unfold checkSteps
  constructor
  · intro h
    obtain ⟨_, hfields, h⟩ := bind_eq_ok.1 h
    obtain ⟨_, hn, h⟩ := bind_eq_ok.1 h
    obtain ⟨_, hknown, h⟩ := bind_eq_ok.1 h
    rw [ensure_eq_ok] at hfields hn hknown
    have hn := of_decide_eq_true hn
    have hknown : ∀ step ∈ steps, ∀ parent ∈ step.dependsOn, parent ∈ steps.map (·.stepId) := by
      simpa using hknown
    exact ⟨by simpa [FieldsValid, and_assoc] using hfields, hn, hknown,
      (validateNoCycles_steps hn hknown).1 h⟩
  · rintro ⟨hfields, hn, hknown, hacyclic⟩
    have hsearch := (validateNoCycles_steps hn hknown).2 hacyclic
    refine bind_eq_ok.2 ⟨(), ensure_eq_ok.2 ?_, bind_eq_ok.2 ⟨(),
      ensure_eq_ok.2 (decide_eq_true hn), bind_eq_ok.2 ⟨(),
      ensure_eq_ok.2 ?_, hsearch⟩⟩⟩
    · simpa [FieldsValid, and_assoc] using hfields
    · simpa using hknown

theorem validate_steps_exact :
    (∀ plan : Plan, (∃ out, plan.validate = .ok out) ↔
      (plan.planId ≠ "" ∧ plan.userId ≠ "" ∧ plan.tenantId ≠ "" ∧
        plan.formationEventType.length ≤ 32) ∧
      (FieldsValid plan.steps ∧ WellFormed plan.steps) ∧
      (truthy plan.currentStepId = true →
        ∃ step ∈ plan.steps, some step.stepId = plan.currentStepId)) ∧
    -- whatever the order in which the search takes the nodes and the parents of a node
    (∀ graph, Closed graph → (validateNoCycles graph = .ok () ↔ Acyclic (Edge graph))) ∧
    (∀ graph, Closed graph → ∀ visiting visited nodes, visiting.Nodup →
      visiting ⊆ graph.map Prod.fst → nodes ⊆ graph.map Prod.fst →
      ∃ result, Visits graph visiting visited nodes result) := by
  refine ⟨fun plan => ⟨?_, ?_⟩, fun graph hc => validateNoCycles_iff hc,
    fun graph hc visiting visited nodes hn hv hnodes =>
      ⟨_, visits_of_visit hc hn hv hnodes (Nat.le_add_right (graph.length + 1) _)⟩⟩
  · rintro ⟨out, h⟩
    obtain ⟨hfields, hsteps, hcurrent, -⟩ := Plan.validate_eq_ok.1 h
    exact ⟨hfields, checkSteps_iff.1 hsteps, hcurrent⟩
  · rintro ⟨hfields, hsteps, hcurrent⟩
    exact ⟨_, Plan.validate_eq_ok.2 ⟨hfields, checkSteps_iff.2 hsteps, hcurrent, rfl⟩⟩

/-! ## Progress -/

/-- With all other steps completed, a pending step that depends on no pending one is ready. -/
theorem WellFormed.exists_ready (h : WellFormed steps)
    (hstatus : ∀ step ∈ steps, step.status = .pending ∨ step.status = .completed)
    (hpending : ∃ step ∈ steps, step.status = .pending) :
    ∃ step ∈ steps, step.status = .pending ∧ Ready steps step := by
  obtain ⟨first, hfirst, hp⟩ := hpending
  have hmem : ∀ {stepId : String}, stepId ∈ (steps.filter (·.status = .pending)).map (·.stepId) ↔
      ∃ step ∈ steps, step.status = .pending ∧ step.stepId = stepId := by
    simp [and_assoc]
  obtain ⟨last, hlast, hnone⟩ := h.acyclic.exists_last
    (List.ne_nil_of_mem (hmem.2 ⟨first, hfirst, hp, rfl⟩))
  obtain ⟨step, hs, hsp, rfl⟩ := hmem.1 hlast
  refine ⟨step, hs, hsp, fun parent hparent => ?_⟩
  obtain ⟨other, hother, rfl⟩ := List.mem_map.1 (h.known step hs parent hparent)
  rcases hstatus other hother with ho | ho
  · exact absurd ⟨step, hs, rfl, hparent⟩ (hnone other.stepId (hmem.2 ⟨other, hother, ho, rfl⟩))
  · exact ⟨other, hother, rfl, ho⟩

theorem readyStep_some {step : PlanStep} (h : readyStep steps = some step) :
    step ∈ steps ∧ step.status = .pending ∧ Ready steps step := by
  have hfound := List.find?_some h
  obtain ⟨hpending, hready⟩ := Bool.and_eq_true_iff.1 hfound
  exact ⟨List.mem_of_find?_eq_some h, of_decide_eq_true hpending, by simpa [Ready] using hready⟩

/-- A state that goes with the steps, and the step that it goes on with: a blocked one, else one
that is running, else, if all others are completed or wait as well, a pending one that is ready. -/
inductive NextState (steps : List PlanStep) : PlanStatus → Option String → Prop where
  | completed : (∀ step ∈ steps, step.status = .completed) → NextState steps .completed none
  | failed {step : PlanStep} : step ∈ steps → step.status = .failed → NextState steps .failed none
  | blocked {step : PlanStep} : (∀ other ∈ steps, other.status ≠ .failed) →
    step ∈ steps → step.status = .blocked → NextState steps .blocked (some step.stepId)
  | running {step : PlanStep} :
    (∀ other ∈ steps, other.status ≠ .failed ∧ other.status ≠ .blocked) →
    step ∈ steps → step.status = .running → NextState steps .running (some step.stepId)
  | ready {step : PlanStep} :
    (∀ other ∈ steps, other.status = .pending ∨ other.status = .completed) →
    step ∈ steps → step.status = .pending → Ready steps step →
    NextState steps .running (some step.stepId)

theorem NextState.completed_iff {status : PlanStatus} {current : Option String}
    (h : NextState steps status current) :
    status = .completed ↔ ∀ step ∈ steps, step.status = .completed := by
  have hnot : ∀ {step : PlanStep}, step ∈ steps → step.status ≠ .completed →
      ¬∀ step ∈ steps, step.status = .completed := fun hmem hne hall => hne (hall _ hmem)
  cases h with
  | completed hall => exact iff_of_true rfl hall
  | failed hmem hs => exact iff_of_false (by decide) (hnot hmem (by simp [hs]))
  | blocked _ hmem hs => exact iff_of_false (by decide) (hnot hmem (by simp [hs]))
  | running _ hmem hs => exact iff_of_false (by decide) (hnot hmem (by simp [hs]))
  | ready _ hmem hs => exact iff_of_false (by decide) (hnot hmem (by simp [hs]))

/-- A plan without a cancelled step always has a next state: it is completed exactly if its steps
are, failed if one is, and goes on with one of its steps otherwise. -/
theorem plan_state_after_completion_progress {steps : List PlanStep}
    (haccepted : checkSteps steps = .ok ()) (hstatus : ∀ step ∈ steps, step.status ≠ .cancelled) :
    ∃ status current, planStateAfterCompletion steps = .ok (status, current) ∧
      (status = .completed ↔ ∀ step ∈ steps, step.status = .completed) ∧
      NextState steps status current := by
  suffices h : ∃ status current, planStateAfterCompletion steps = .ok (status, current) ∧
      NextState steps status current by
    obtain ⟨status, current, hstate, hnext⟩ := h
    exact ⟨status, current, hstate, hnext.completed_iff, hnext⟩
  unfold planStateAfterCompletion
  by_cases hall : ∀ step ∈ steps, step.status = .completed
  · exact ⟨.completed, none, if_pos (by simpa using hall), .completed hall⟩
  rw [if_neg (by simpa using hall)]
  by_cases hfailed : steps.any (·.status = .failed) = true
  · obtain ⟨step, hmem, hs⟩ := List.any_eq_true.1 hfailed
    exact ⟨.failed, none, if_pos hfailed, .failed hmem (of_decide_eq_true hs)⟩
  rw [if_neg hfailed]
  have hunfailed : ∀ step ∈ steps, step.status ≠ .failed := by simpa using hfailed
  have hstep : ∀ {status : PlanStatus} {step : PlanStep}, steps.find? (·.status = status) = some step →
      step ∈ steps ∧ step.status = status := fun hfind =>
    ⟨List.mem_of_find?_eq_some hfind, by simpa using List.find?_some hfind⟩
  cases hblocked : steps.find? (·.status = .blocked) with
  | some blocked =>
    obtain ⟨hmem, hs⟩ := hstep hblocked
    exact ⟨.blocked, _, rfl, .blocked hunfailed hmem hs⟩
  | none =>
    have hunblocked : ∀ step ∈ steps, step.status ≠ .blocked := by
      simpa using List.find?_eq_none.1 hblocked
    cases hrunning : steps.find? (·.status = .running) with
    | some running =>
      obtain ⟨hmem, hs⟩ := hstep hrunning
      exact ⟨.running, _, rfl, .running (fun other hmem => ⟨hunfailed other hmem,
        hunblocked other hmem⟩) hmem hs⟩
    | none =>
      have hleft : ∀ step ∈ steps, step.status = .pending ∨ step.status = .completed := by
        intro step hs
        have hb := hunblocked step hs
        have hr : step.status ≠ .running := by simpa using List.find?_eq_none.1 hrunning step hs
        have hf := hunfailed step hs
        have hc := hstatus step hs
        cases hst : step.status with
        | pending => exact .inl rfl
        | completed => exact .inr rfl
        | running => exact absurd hst hr
        | blocked => exact absurd hst hb
        | failed => exact absurd hst hf
        | cancelled => exact absurd hst hc
      have hpending : ∃ step ∈ steps, step.status = .pending := by
        by_contra hnone
        exact hall fun step hs => (hleft step hs).resolve_left fun hp => hnone ⟨step, hs, hp⟩
      obtain ⟨step, hs, hp, hready⟩ := (checkSteps_iff.1 haccepted).2.exists_ready hleft hpending
      cases hfound : readyStep steps with
      | none =>
        refine absurd ?_ (List.find?_eq_none.1 hfound step hs)
        simpa [hp, Ready] using hready
      | some ready =>
        obtain ⟨hmem, hpending, hready⟩ := readyStep_some hfound
        exact ⟨.running, _, rfl, .ready hleft hmem hpending hready⟩

def orderedSteps : List PlanStep :=
  [⟨"report", "agent", "Writes the report.", .pending, ["data"], []⟩,
    ⟨"data", "agent", "Collects the data.", .completed, [], []⟩]

theorem ordered_steps_progress :
    planStateAfterCompletion orderedSteps = .ok (.running, some "report") ∧
      NextState orderedSteps .running (some "report") := by
  obtain ⟨status, current, hstate, -, hnext⟩ :=
    @plan_state_after_completion_progress orderedSteps (by decide) (by decide)
  have hrunning : planStateAfterCompletion orderedSteps = .ok (.running, some "report") := by decide
  cases hstate.symm.trans hrunning
  exact ⟨hrunning, hnext⟩

end OpenIntentRouter.Plans.Graphs
