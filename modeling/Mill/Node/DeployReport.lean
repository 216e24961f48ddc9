import Mill.Node.DeployEffects

/-! A deploy with its "failed" events: for each service that it rolls out, whether it succeeded.
-/

namespace Mill

open Mill.Action Program

def rolloutReport (deployOne : String → ServiceDef → Action Unit) (report : List (String × Bool))
    (e : String × ServiceDef) : Action (List (String × Bool)) := do
  match ← (deployOne e.1 e.2).attempt with
  | .ok () => pure (report ++ [(e.1, true)])
  | .error _ => pure (report ++ [(e.1, false)])

def applyPlanReport (ctx : DeployCtx) (plan : DeployPlan) : Action (List (String × Bool)) := do
  Program.foldEach (fun _ name => stopService name) plan.removed ()
  let report ← Program.foldEach (rolloutReport (deployService ctx)) plan.added []
  Program.foldEach (rolloutReport (rollingUpdate ctx)) plan.changed report

def hasFailures (report : List (String × Bool)) : Bool := report.any fun r => !r.2

/-- `run_deploy` with the plan and the report as its result. -/
def deployReport (ctx : DeployCtx) (newConfig : ClusterConfig) :
    Action (DeployPlan × List (String × Bool)) := do
  let (oldConfig, plan) ← preDeploy newConfig
  let _ ← propose (.deploy newConfig)
  let report ← applyPlanReport ctx plan
  match hasFailures report, oldConfig with
  | true, some old =>
    let _ ← act (.propose (.deploy old))
    pure (plan, report)
  | _, _ => pure (plan, report)

lemma rollout_hasFailures (deployOne : String → ServiceDef → Action Unit)
    (report : List (String × Bool)) (e : String × ServiceDef) :
    rollout deployOne (hasFailures report) e =
      rolloutReport deployOne report e >>= fun report' => pure (hasFailures report') := by
  rw [rollout, rolloutReport, bind_assoc]
  refine congrArg (Program.bind _) (funext fun result => ?_)
  cases result with
  | ok =>
    have hsame : hasFailures (report ++ [(e.1, true)]) = hasFailures report := by
      simp [hasFailures]
    exact congrArg Program.done hsame.symm
  | error =>
    have htrue : hasFailures (report ++ [(e.1, false)]) = true := by
      simp [hasFailures]
    exact congrArg Program.done htrue.symm

lemma applyPlan_eq (ctx : DeployCtx) (plan : DeployPlan) : applyPlan ctx plan =
    applyPlanReport ctx plan >>= fun report => pure (hasFailures report) := by
  rw [applyPlan, applyPlanReport, bind_assoc]
  refine congrArg (Program.bind _) (funext fun _ => ?_)
  have hadded := foldEach_map (rollout_hasFailures (deployService ctx)) plan.added []
  have hnone : hasFailures [] = false := rfl
  rw [hnone] at hadded
  rw [hadded, bind_assoc, bind_assoc]
  refine congrArg (Program.bind _) (funext fun report => ?_)
  exact foldEach_map (rollout_hasFailures (rollingUpdate ctx)) plan.changed report

/-- The deploy of the model is this one, with the `success` field as its result. -/
lemma runDeploy_eq (ctx : DeployCtx) (newConfig : ClusterConfig) : runDeploy ctx newConfig =
    deployReport ctx newConfig >>= fun r => pure (!hasFailures r.2) := by
  rw [runDeploy, deployReport, bind_assoc]
  refine congrArg (Program.bind _) (funext fun pre => ?_)
  obtain ⟨oldConfig, plan⟩ := pre
  dsimp only
  rw [bind_assoc]
  refine congrArg (Program.bind _) (funext fun _ => ?_)
  rw [applyPlan_eq, bind_assoc, bind_assoc]
  refine congrArg (Program.bind _) (funext fun report => ?_)
  have hdone {failed : Bool} (hfailed : hasFailures report = failed) :
      (pure (!failed) : Action Bool) = pure (!hasFailures report) := by rw [hfailed]
  cases hfailed : hasFailures report with
  | false => cases oldConfig <;> exact hdone hfailed
  | true =>
    cases oldConfig with
    | none => exact hdone hfailed
    | some old =>
      refine Eq.trans ?_ (bind_assoc _ _ _).symm
      exact congrArg (Program.bind (act (.propose (.deploy old)))) (funext fun _ => hdone hfailed)

/-- What matters here of an allocation: the service, whether there is an address, and whether the
container is still to start. -/
structure AllocEntry where
  name : String
  addressed : Bool
  pending : Bool
deriving DecidableEq

def AllocEntry.of (a : Alloc) : AllocEntry := ⟨a.name, a.address.isSome, a.status.isPending⟩

def FsmState.book (s : FsmState) : Finmap fun _ : AllocId => AllocEntry :=
  s.allocs.mapVals fun _ a => .of a

inductive Surrounding
  | choice (c : Choice)
  | started (address : SocketAddr) (startedAt : Option SystemTime)

def Choice.goesThrough : Choice → Bool
  | .elapsed | .raftError _ | .undelivered _ | .cloudError _ | .lostReply _ _ => false
  | .order _ _ _ | .proceed | .text _ | .services _ | .env _ | .time _ => true

namespace World

def commit (w : World) (c : Command) : World := { w with fsm := (applyCommand w.fsm c).1 }

def startingAnswer (w : World) : (e : Effect) → Surrounding → Option (e.Answer × World)
  | .waitForStatus id, .started address startedAt =>
    (w.commit (.allocRunning id (some address) startedAt)).answer (.waitForStatus id) .proceed
  | .waitForStatus _, .choice _ => none
  | e, .choice c => if c.goesThrough then w.answer e c else none
  | _, .started _ _ => none

/-- The condition on a step of the deploy: the scheduler finds a node, a random suffix is new, and
an allocation id is not taken from another service. -/
def untroubled (w : World) (c : Surrounding) : Effect → Bool
  | .read (.place name d) =>
    (w.startingAnswer (.read (.place name d)) c).map (fun a => a.1.isSome) != some false
  | .randSuffix =>
    match c with
    | .choice (.text suffix) =>
      decide (∀ id ∈ w.fsm.allocs.keys, ¬ ("-" ++ suffix).toList <:+ id.val.toList)
    | _ => true
  | .propose (.allocScheduled id _ name _ _ _) =>
    (w.fsm.allocs.lookup id).all fun a => a.name = name
  | _ => true

end World

def FsmState.Unmoved (s t : FsmState) : Prop :=
  t.nodes = s.nodes ∧ t.secrets = s.secrets ∧ t.config = s.config ∧ t.book = s.book

def Smooth {α : Type} (s : World × Action α) : Surrounding ⊕ Command → Prop
  | .inl c =>
    match s.2 with
    | .perform e _ => s.1.untroubled c e = true
    | .done _ | .fail _ => True
  | .inr cmd => s.1.fsm.Unmoved (s.1.commit cmd).fsm

instance (s t : FsmState) : Decidable (s.Unmoved t) :=
  inferInstanceAs (Decidable (_ ∧ _ ∧ _ ∧ _))

instance {α : Type} : ∀ (s : World × Action α) e, Decidable (Smooth s e)
  | (_, .perform _ _), .inl _ => inferInstanceAs (Decidable (_ = true))
  | (_, .done _), .inl _ => isTrue trivial
  | (_, .fail _), .inl _ => isTrue trivial
  | _, .inr _ => inferInstanceAs (Decidable (FsmState.Unmoved _ _))

def stepDeploy {α : Type} : World × Action α → Surrounding ⊕ Command → Option (World × Action α) :=
  stepBeside World.startingAnswer fun w c => some (w.commit c)

end Mill
