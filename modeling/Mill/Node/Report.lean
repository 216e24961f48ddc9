import Mill.Node.Secondary
import Mill.Raft.Lifecycle

/-! From the reports of a secondary to the replicated state: the report processor
takes the reports one by one in the order in which they were sent and proposes a
command for each. -/

namespace Mill

/-- The command that a report leads to. `order` is the order in which the nodes
are visited. The metrics that some reports also update are left out. -/
def processReport (fsm : FsmState) (order : List (Σ _ : Nat, FsmNode)) (now : SystemTime) :
    NodeReport → Option Command
  | .runStarted allocId hostPort address =>
    let reconstructed := hostPort.bind fun port =>
      (fsm.allocs.lookup allocId).bind fun a =>
        (order.find? fun n => n.2.millId == a.node).map fun n => ⟨n.2.address.ip, port⟩
    some (.allocRunning allocId (address.or reconstructed) (some now))
  | .runFailed allocId reason => some (.allocStatus allocId (.failed reason))
  | .stopped allocId exitCode => some (.allocStatus allocId (.stopped exitCode))
  | .statusUpdate allocId status => some (.allocStatus allocId status)
  | .heartbeat hb =>
    (order.find? fun n => n.2.millId == hb.nodeId).map fun n =>
      .nodeHeartbeat n.1 hb.allocStatuses
  | .pullComplete _ => none
  | .pullFailed _ _ => none

inductive Reported : NodeReport → Command → Prop
  | runStarted (allocId : AllocId) (hostPort : Option Nat) (address found : Option SocketAddr)
      (now : SystemTime) :
      Reported (.runStarted allocId hostPort address) (.allocRunning allocId found (some now))
  | runFailed (allocId : AllocId) (reason : String) :
      Reported (.runFailed allocId reason) (.allocStatus allocId (.failed reason))
  | stopped (allocId : AllocId) (exitCode : Int) :
      Reported (.stopped allocId exitCode) (.allocStatus allocId (.stopped exitCode))
  | statusUpdate (allocId : AllocId) (status : AllocStatus) :
      Reported (.statusUpdate allocId status) (.allocStatus allocId status)
  | heartbeat (hb : Heartbeat) (id : Nat) :
      Reported (.heartbeat hb) (.nodeHeartbeat id hb.allocStatuses)

lemma reported_of_processReport {fsm : FsmState} {order : List (Σ _ : Nat, FsmNode)}
    {now : SystemTime} {r : NodeReport} {c : Command}
    (h : processReport fsm order now r = some c) : Reported r c := by
  cases r with
  | runStarted =>
    cases h
    exact .runStarted ..
  | runFailed =>
    cases h
    exact .runFailed ..
  | stopped =>
    cases h
    exact .stopped ..
  | statusUpdate =>
    cases h
    exact .statusUpdate ..
  | heartbeat hb =>
    obtain ⟨n, -, rfl⟩ := Option.map_eq_some_iff.mp h
    exact .heartbeat hb n.1
  | pullComplete => cases h
  | pullFailed => cases h

/-- A secondary, its report channel and the replicated state. `pending` is the
proposal under way, `applied` the commands applied so far. -/
structure ReportSystem where
  sec : Secondary
  pending : Option Command
  fsm : FsmState
  applied : List Command

inductive ReportEvent
  | secondary (e : SecondaryEvent)
  | receive (order : List (Σ _ : Nat, FsmNode)) (now : SystemTime)
  | commit
  | otherHeartbeat (id : Nat) (allocStatuses : Finmap fun _ : AllocId => AllocStatus)

namespace ReportSystem

def step (s : ReportSystem) : ReportEvent → Option ReportSystem
  | .secondary e => (s.sec.step e).map fun sec => { s with sec }
  | .receive order now =>
    match s.pending, s.sec.reports with
    | none, report :: reports =>
      if s.fsm.nodes.entries = order then
        some { s with
          sec := { s.sec with reports }
          pending := processReport s.fsm order now report }
      else none
    | _, _ => none
  | .commit =>
    s.pending.map fun c =>
      { s with
        pending := none
        fsm := (applyCommand s.fsm c).1
        applied := s.applied ++ [c] }
  | .otherHeartbeat id allocStatuses =>
    let c := Command.nodeHeartbeat id allocStatuses
    some { s with fsm := (applyCommand s.fsm c).1, applied := s.applied ++ [c] }

end ReportSystem

end Mill
