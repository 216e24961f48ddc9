import Mill.Node.DeployEffects
import Mill.Node.Tasks

/-! The timers of tasks. -/

namespace Mill

open Program

/-- Beside the world of the tasks: when the primary first had an allocation as running and as ended,
and the Stop commands that were delivered, with their times. -/
structure TimerWorld extends World where
  seen : AllocId → Option Nat
  ended : AllocId → Option Nat
  stops : List (Nat × NodeId × AllocId)

def firstTime (now : Nat) (holds : Bool) : Option Nat → Option Nat
  | some t => some t
  | none => if holds then some now else none

def FsmState.active (s : FsmState) (id : AllocId) : Bool :=
  (s.allocs.lookup id).any fun a => a.status.isActive

def FsmState.terminal (s : FsmState) (id : AllocId) : Bool :=
  (s.allocs.lookup id).any fun a => a.status.isTerminal

def TaskEffect.stopped (now : Nat) : (e : TaskEffect) → e.Answer → List (Nat × NodeId × AllocId)
  | .coord (.send node (.stop id)), .ok () => [(now, node, id)]
  | _, _ => []

namespace TimerWorld

def start (clock : Nat) : TimerWorld := ⟨⟨default, [], [], clock⟩, fun _ => none, fun _ => none, []⟩

def becomes (w : TimerWorld) (w' : World) (stops : List (Nat × NodeId × AllocId)) : TimerWorld where
  toWorld := w'
  seen id := firstTime w'.clock (w'.fsm.active id) (w.seen id)
  ended id := firstTime w'.clock (w'.fsm.terminal id) (w.ended id)
  stops := w.stops ++ stops

def answer (w : TimerWorld) (e : TaskEffect) (c : Choice) : Option (e.Answer × TimerWorld) :=
  (w.toWorld.answerTask e c).map fun a => (a.1, w.becomes a.2 (e.stopped w.clock a.1))

/-- Every task with a timeout whose Run command was delivered is sent a Stop in time, counted from
when it was first seen to run, unless it has ended by then. -/
def Enforced (w : TimerWorld) : Prop :=
  ∀ node id spec auth d, (node, .run id spec auth) ∈ w.sent → spec.timeout = some d →
    ∀ t, w.seen id = some t → t + d < w.clock →
      (∃ t' ≤ t + d, (t', node, id) ∈ w.stops) ∨ ∃ t' ≤ t + d, w.ended id = some t'

end TimerWorld

inductive TimerTag
  | idle
  | located (node : NodeId) (raftId : Nat)
  | recorded (node : NodeId) (id : AllocId)
  | waiting (node : NodeId) (id : AllocId) (d : Duration)
  | sighted (id : AllocId) (d : Duration)
  | timer (id : AllocId) (d : Duration)
  | sleeping (id : AllocId) (deadline : Nat)
  | due (id : AllocId)
  | killing (node : NodeId) (id : AllocId)
deriving DecidableEq

namespace TimerTag

def owes : TimerTag → Bool
  | .idle | .located .. | .recorded .. => false
  | _ => true

def track : TimerTag → (e : TaskEffect) → e.Answer → TimerTag
  | .idle, .coord (.read (.raftIdFor node)), some raftId => .located node raftId
  | .located node _, .coord (.propose (.allocScheduled id _ _ _ _ _)), .ok _ => .recorded node id
  | .recorded node id, .coord (.send _ (.run _ spec _)), .ok () =>
    (spec.timeout.map fun d => waiting node id d).getD .idle
  | .waiting _ id d, .coord (.waitForStatus _), .ok () => .sighted id d
  | .waiting .., .coord (.waitForStatus _), .error _ => .idle
  | .sighted .., .spawnKillTimer _ _, _ => .idle
  | .timer id d, .now, start => .sleeping id (start + d)
  | .sleeping id _, .sleepUntil _, _ => .due id
  | .due id, .allocInfo _, some (true, node) => .killing node id
  | .due _, .allocInfo _, _ => .idle
  | .killing .., .coord (.send _ (.stop _)), _ => .idle
  | t, _, _ => t

def Plain (e : TaskEffect) : Prop :=
  (∀ c, e ≠ .coord (.propose c)) ∧
    (∀ node id spec auth, e ≠ .coord (.send node (.run id spec auth))) ∧
    (∀ id d, e ≠ .spawnKillTimer id d) ∧ e ≠ .coord .tick

def Next : TimerTag → TaskEffect → Prop
  | .idle, e => Plain e
  | .located _ raftId, e => ∃ id name address resources,
      e = .coord (.propose (.allocScheduled id raftId name .task address resources))
  | .recorded node id, e => Plain e ∨ ∃ spec auth, e = .coord (.send node (.run id spec auth))
  | .waiting _ id _, e => e = .coord (.waitForStatus id)
  | .sighted id d, e => e = .spawnKillTimer id d
  | .timer _ _, e => e = .now
  | .sleeping _ deadline, e => e = .sleepUntil deadline
  | .due id, e => e = .allocInfo id
  | .killing node id, e => e = .coord (.send node (.stop id))

end TimerTag

def timerSpec : Spec TaskEffect TaskEffect.Answer TimerTag where
  pre t e := t.Next e
  post t e r t' := t' = t.track e r

def OwesNothing {X α : Type} : Except X α → TimerTag → Prop := fun _ t => t.owes = false

section

variable {α : Type} {ctx : DeployCtx} {t : TimerTag} {allocId : AllocId} {nodeId : NodeId}

def Stays (t : TimerTag) (e : TaskEffect) : Prop := t.Next e ∧ ∀ r, t.track e r = t

lemma wp_stays {p : TaskAction α} {F : DeployError → Prop} (hp : p.Only (Stays t) F) :
    p.wp timerSpec (fun _ t' => t' = t) t := by
  refine wp_of_only (I := fun t' => t' = t) hp rfl ?_ (fun _ _ h => h) fun _ _ _ h => h
  rintro e _ he rfl
  exact ⟨he.1, fun r _ h => h.trans (he.2 r)⟩

lemma only_taskPlan_stays (p : Parsers) (request : SpawnTaskRequest) :
    (taskPlan p request).Only (Stays .idle) fun _ => True := by
  unfold taskPlan
  split
  · refine .bind (.effect ⟨by simp [TimerTag.Next, TimerTag.Plain], fun _ => rfl⟩) fun d => ?_
    cases d <;> trivial
  · split
    · trivial
    · exact .bind (.effect ⟨by simp [TimerTag.Next, TimerTag.Plain], fun _ => rfl⟩) fun _ => trivial
  · trivial

lemma wp_scheduleTask_timer (plan : TaskPlan) :
    (scheduleTask plan allocId).wp timerSpec (fun o t => match o with
      | .ok nodeId => t = .recorded nodeId allocId
      | .error _ => t.owes = false) .idle := by
  refine wp_bind (wp_effect (by simp [timerSpec, TimerTag.Next, TimerTag.Plain]) ?_)
  rintro nodeId _ rfl
  cases nodeId with
  | none => rfl
  | some =>
    refine wp_bind (wp_effect (by simp [timerSpec, TimerTag.Next, TimerTag.Plain,
      TimerTag.track]) ?_)
    rintro raftNodeId _ rfl
    cases raftNodeId with
    | none => rfl
    | some =>
      refine wp_bind (wp_lift (wp_propose ⟨allocId, _, _, _, rfl⟩ ?_ ?_))
      · rintro response _ ⟨_, rfl, rfl⟩
        exact rfl
      · rintro message _ ⟨_, rfl, rfl⟩
        exact rfl

lemma wp_afterWait (timeout : Option Duration) : (startKillTimer allocId timeout >>= fun _ =>
      TaskAction.act (.allocAddress allocId) >>= fun address =>
        pure ⟨allocId.val, nodeId.val, "running", address.map ctx.showAddress⟩ :
      TaskAction SpawnTaskResponse).wp timerSpec OwesNothing
      ((timeout.map fun d => TimerTag.sighted allocId d).getD .idle) := by
  have haddress : (TaskAction.act (.allocAddress allocId) >>= fun address =>
      pure ⟨allocId.val, nodeId.val, "running", address.map ctx.showAddress⟩ :
      TaskAction SpawnTaskResponse).wp timerSpec OwesNothing .idle := by
    refine wp_bind (wp_effect (by simp [timerSpec, TimerTag.Next, TimerTag.Plain]) ?_)
    rintro address _ rfl
    rfl
  cases timeout with
  | none => exact haddress
  | some =>
    refine wp_bind (wp_effect rfl ?_)
    rintro _ _ rfl
    exact haddress

lemma wp_wait (timeout : Option Duration) {rest : TaskAction SpawnTaskResponse}
    (hrest : rest.wp timerSpec OwesNothing
      ((timeout.map fun d => TimerTag.sighted allocId d).getD .idle)) :
    (TaskAction.act (.coord (.waitForStatus allocId)) >>= fun status =>
      TaskAction.ofExcept status >>= fun _ => rest).wp timerSpec OwesNothing
      ((timeout.map fun d => TimerTag.waiting nodeId allocId d).getD .idle) := by
  cases timeout with
  | none =>
    refine wp_bind (wp_effect (by simp [timerSpec, TimerTag.Next, TimerTag.Plain]) ?_)
    rintro status _ rfl
    cases status with
    | error => exact rfl
    | ok => exact hrest
  | some =>
    refine wp_bind (wp_effect rfl ?_)
    rintro status _ rfl
    cases status with
    | error => exact rfl
    | ok => exact hrest

lemma wp_runScheduledTask_timer (plan : TaskPlan) :
    (runScheduledTask ctx plan allocId nodeId).wp timerSpec OwesNothing
      (.recorded nodeId allocId) := by
  have hresolve : (TaskAction.coord (resolveEnv ctx plan.env)).Only
      (Stays (.recorded nodeId allocId)) fun _ => True := by
    refine Only.lift (P := fun e => Stays (.recorded nodeId allocId) (.coord e)) ?_ fun _ h => h
    refine only_resolveEnv ctx ⟨.inl (by simp [TimerTag.Plain]), fun _ => rfl⟩ ?_ ?_
    · exact fun _ => ⟨.inl (by simp [TimerTag.Plain]), fun _ => rfl⟩
    · exact fun _ => ⟨.inl (by simp [TimerTag.Plain]), fun _ => rfl⟩
  refine wp_bind (wp_mono (wp_stays hresolve) ?_)
  rintro (x | env) _ rfl
  · rfl
  refine wp_bind (wp_lift (wp_bind (wp_effect (.inr ⟨_, _, rfl⟩) ?_)))
  rintro _ _ ⟨r, rfl, rfl⟩
  cases r with
  | error => exact rfl
  | ok => exact wp_wait plan.timeout (wp_afterWait plan.timeout)

lemma wp_spawnTask_timer (p : Parsers) (request : SpawnTaskRequest) :
    (spawnTask p ctx request).wp timerSpec OwesNothing .idle := by
  refine wp_bind (wp_mono (wp_stays (only_taskPlan_stays p request)) ?_)
  rintro (x | plan) _ rfl
  · rfl
  dsimp only
  cases taskTimeout p request plan.timeout with
  | error => exact rfl
  | ok timeout =>
    have hok : (TaskAction.ofExcept (.ok timeout)).wp timerSpec
        (Returns fun d t => d = timeout ∧ t = .idle) .idle := ⟨rfl, rfl⟩
    refine wp_bind_returns hok ?_
    rintro timeout _ ⟨rfl, rfl⟩
    have hnew : (TaskAction.coord (Action.newAllocId plan.name)).Only (Stays .idle) fun _ => True :=
      .bind (.effect ⟨by simp [TimerTag.Next, TimerTag.Plain], fun _ => rfl⟩) fun _ => trivial
    refine wp_bind (wp_mono (wp_stays hnew) ?_)
    rintro (x | allocId) _ rfl
    · rfl
    refine wp_bind (wp_mono (wp_scheduleTask_timer _) ?_)
    rintro (x | nodeId) t ht
    · exact ht
    · subst ht
      exact wp_runScheduledTask_timer _

lemma wp_killTask_idle (allocIdStr : String) :
    (killTask allocIdStr).wp timerSpec OwesNothing .idle := by
  refine wp_bind (wp_effect (by simp [timerSpec, TimerTag.Next, TimerTag.Plain]) ?_)
  rintro info _ rfl
  match info with
  | some (true, node) =>
    have hpre : TimerTag.Next .idle (.coord (.send node (.stop ⟨allocIdStr⟩))) := by
      simp [TimerTag.Next, TimerTag.Plain]
    refine wp_lift (wp_bind (wp_effect hpre ?_))
    rintro _ _ ⟨r, rfl, rfl⟩
    cases r <;> rfl
  | some (false, node) => exact rfl
  | none => exact rfl

lemma wp_killTask_due : (killTask allocId.val).wp timerSpec OwesNothing (.due allocId) := by
  refine wp_bind (wp_effect rfl ?_)
  rintro info _ rfl
  match info with
  | some (true, node) =>
    refine wp_lift (wp_bind (wp_effect rfl ?_))
    rintro _ _ ⟨r, rfl, rfl⟩
    cases r <;> rfl
  | some (false, node) => exact rfl
  | none => exact rfl

lemma wp_killTimer_timer (d : Duration) :
    (killTimer allocId d).wp timerSpec OwesNothing (.timer allocId d) := by
  refine wp_bind (wp_effect rfl ?_)
  rintro start _ rfl
  refine wp_bind (wp_effect rfl ?_)
  rintro _ _ rfl
  exact wp_bind (wp_attempt wp_killTask_due)

lemma wp_detached_timer {q : TaskAction α} (hq : q.wp timerSpec OwesNothing t) :
    (detached q).wp timerSpec OwesNothing t :=
  wp_bind (wp_attempt (wp_mono hq fun _ _ h => h))

end

inductive TimerInput
  | spawnTask (request : SpawnTaskRequest)
  | killTask (allocIdStr : String)
  | commit (c : Command)
  | pass (now : Nat)

abbrev Timers := Machine.State TaskEffect TaskEffect.Answer Empty Unit TimerWorld TimerTag

def timers (p : Parsers) (ctx : DeployCtx) :
    Machine TaskEffect TaskEffect.Answer Empty Unit TimerWorld Choice TimerInput TimerTag where
  answer := TimerWorld.answer
  starts
    | .spawnKillTimer id d => [(.timer id d, detached (killTimer id d))]
    | _ => []
  outside w
    | .spawnTask request => some (w, [(.idle, detached (Mill.spawnTask p ctx request))])
    | .killTask allocIdStr => some (w, [(.idle, detached (Mill.killTask allocIdStr))])
    | .commit c => some (w.becomes { w.toWorld with fsm := (applyCommand w.fsm c).1 } [], [])
    | .pass now => if w.clock ≤ now then some ({ w with clock := now }, []) else none
  track _ t e r := t.track e r

inductive TimerEvent
  | machine (e : Machine.Event Choice TimerInput)
  /-- The tasks of the primary are gone. It comes back, or another node takes over, with the
  replicated state. -/
  | crash

def timerStep (p : Parsers) (ctx : DeployCtx) (s : Timers) : TimerEvent → Option Timers
  | .machine e => (timers p ctx).step s e
  | .crash => some ⟨s.world, []⟩

def AllocStatus.stage : AllocStatus → Nat
  | .pulling | .starting => 0
  | .running | .healthy => 1
  | .stopped _ | .failed _ => 2

namespace TimerWorld

def unused (w : TimerWorld) (id : AllocId) : Bool :=
  (w.fsm.allocs.lookup id).isNone && (w.seen id).isNone && (w.ended id).isNone

def onward (w : TimerWorld) : Command → Bool
  | .allocScheduled id _ _ _ _ _ => w.unused id
  | c => !w.fsm.allocs.any fun id a =>
      (allocAfter w.fsm id c).any fun a' => a'.status.stage < a.status.stage

end TimerWorld

namespace TimerTag

def permits (w : TimerWorld) (now : Nat) : TimerTag → Bool
  | .idle | .located .. | .recorded .. => true
  | .waiting _ id _ => now ≤ w.clock ||
      !(w.fsm.allocs.lookup id).any fun a => (World.settled id a.status).isSome
  | .sleeping _ deadline => now ≤ deadline
  | _ => now ≤ w.clock

/-- A step of a task: the allocation is recorded under a new id and for the node that was chosen,
nothing is heard of it before the node has its Run command, the wait is not ended by its timeout,
and the Stop command of the timer is delivered. -/
def serves (w : TimerWorld) : TimerTag → TaskEffect → Choice → Bool
  | .located node raftId, .coord (.propose (.allocScheduled id _ _ _ _ _)), _ =>
    w.unused id && w.fsm.millIdAt raftId = some node
  | .recorded _ id, .coord (.send _ (.run _ _ _)), _ => (w.seen id).isNone
  | .waiting .., _, .elapsed => false
  | .killing .., _, .undelivered _ => false
  | _, _, _ => true

end TimerTag

def kept (s : Timers) : TimerEvent → Bool
  | .crash => s.tasks.all fun tp => !tp.1.owes
  | .machine (.outside (.pass now)) => s.tasks.all fun tp => tp.1.permits s.world now
  | .machine (.outside (.commit c)) => s.world.onward c
  | .machine (.outside (.spawnTask _)) | .machine (.outside (.killTask _)) => true
  | .machine (.act i c) => (s.next i).all fun next => next.1.serves s.world next.2 c

end Mill
