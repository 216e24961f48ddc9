import Mathlib.Data.Multiset.Basic
import Mill.Config.Runtime
import Mill.Node.RpcServer

/-! Where the reports of a secondary go. -/

namespace Mill

variable {C R : Type}

inductive Feed (C R : Type)
  | inProcess (reports : List R) (hand : Option R)
  | rpc (server : RpcServer C R) (owners : List Nat)

/-- The daemon whose primary gets the reports of a secondary of daemon `d`. -/
def Feed.sink (d : Nat) : Feed C R → Option Nat
  | inProcess _ _ => some d
  | rpc server owners => server.holder.bind fun h => owners[h]?

structure Daemon (C R : Type) where
  nodeId : NodeId
  up : Bool
  feed : Feed C R
  /-- The reports that wait for the report processor. What is under way to the primary counts as
  waiting: the network is reliable. -/
  fanIn : List R

structure Handled (R : Type) where
  report : R
  processor : Nat
  leader : Option Nat
deriving DecidableEq

structure Reporting (C R : Type) where
  daemons : List (Daemon C R)
  leader : Option Nat
  emitted : Multiset R
  handled : List (Handled R)

inductive ReportingEvent (C R : Type)
  | init (nodeId : NodeId)
  | join (nodeId : NodeId)
  | restart (nodeId : NodeId)
  | stop (d : Nat)
  | lead (leader : Option Nat)
  | emit (d : Nat) (r : R)
  | drain (d : Nat)
  | forward (d : Nat)
  | connect (d p : Nat)
  | serve (d : Nat) (e : ServerEvent C R)
  | written (d h : Nat)
  | writeFails (d h : Nat)
  | process (p : Nat)

def ServerEvent.isServed : ServerEvent C R → Bool
  | .authFails _ => true
  | .authenticated _ => true
  | .acquire => true
  | .take _ => true
  | .arrive _ _ => true
  | .give _ => true
  | .readerEnds _ => true
  | .abort _ => true
  | _ => false

namespace Reporting

def init : Reporting C R := ⟨[], none, 0, []⟩

def setDaemon (s : Reporting C R) (d : Nat) (x : Daemon C R) : Reporting C R :=
  { s with daemons := s.daemons.set d x }

def withDaemon (s : Reporting C R) (d : Nat) (f : Daemon C R → Option (Reporting C R)) :
    Option (Reporting C R) :=
  s.daemons[d]?.bind fun x => if x.up then f x else none

def isUp (s : Reporting C R) (d : Nat) : Bool := s.daemons[d]?.any Daemon.up

def start (s : Reporting C R) (nodeId : NodeId) (feed : Feed C R) : Reporting C R :=
  { s with daemons := s.daemons ++ [⟨nodeId, true, feed, []⟩] }

def arrive (s : Reporting C R) (p : Nat) (reports : List R) : Reporting C R :=
  match s.daemons[p]? with
  | some x => s.setDaemon p { x with fanIn := x.fanIn ++ reports }
  | none => s

def serve (s : Reporting C R) (d : Nat) (e : ServerEvent C R) : Option (Reporting C R) :=
  s.withDaemon d fun x =>
    match x.feed with
    | .rpc server owners => (server.step e).map fun server' =>
      s.setDaemon d { x with feed := .rpc server' owners }
    | .inProcess _ _ => none

/-- The report that handler `h` of daemon `d` is writing, and the daemon that it is written to. -/
def writing (s : Reporting C R) (d h : Nat) : Option (List R × Nat) :=
  s.daemons[d]?.bind fun x =>
    match x.feed with
    | .rpc server owners => server.handlers[h]?.bind fun y => owners[h]?.map fun p =>
      (y.state.held, p)
    | .inProcess _ _ => none

def step (s : Reporting C R) : ReportingEvent C R → Option (Reporting C R)
  | .init nodeId =>
    match s.daemons with
    | [] => some (s.start nodeId (.inProcess [] none))
    | _ => none
  | .join nodeId =>
    if s.daemons.any Daemon.up ∧ ∀ x ∈ s.daemons, x.nodeId ≠ nodeId then
      some (s.start nodeId (.inProcess [] none))
    else none
  | .restart nodeId =>
    if (∃ x ∈ s.daemons, x.nodeId = nodeId) ∧ ∀ x ∈ s.daemons, x.nodeId = nodeId → x.up = false
    then some (s.start nodeId (.rpc .init []))
    else none
  -- all that is in the daemon is gone
  | .stop d => s.withDaemon d fun x =>
    some { s.setDaemon d ⟨x.nodeId, false, .inProcess [] none, []⟩ with
      leader := if s.leader = some d then none else s.leader }
  | .lead leader => if leader.all s.isUp then some { s with leader } else none
  | .emit d r => s.withDaemon d fun x =>
    match x.feed with
    | .inProcess reports hand =>
      some { s.setDaemon d { x with feed := .inProcess (reports ++ [r]) hand } with
        emitted := {r} + s.emitted }
    | .rpc server owners => (server.step (.put r)).map fun server' =>
      { s.setDaemon d { x with feed := .rpc server' owners } with emitted := {r} + s.emitted }
  | .drain d => s.withDaemon d fun x =>
    match x.feed with
    | .inProcess (r :: reports) none =>
      some (s.setDaemon d { x with feed := .inProcess reports (some r) })
    | _ => none
  | .forward d => s.withDaemon d fun x =>
    match x.feed with
    | .inProcess reports (some r) =>
      some (s.setDaemon d { x with feed := .inProcess reports none, fanIn := x.fanIn ++ [r] })
    | _ => none
  | .connect d p => s.withDaemon d fun x =>
    match x.feed with
    | .rpc server owners =>
      if s.isUp p then (server.step .accept).map fun server' =>
        s.setDaemon d { x with feed := .rpc server' (owners ++ [p]) }
      else none
    -- nobody listens
    | .inProcess _ _ => none
  | .serve d e => if e.isServed then s.serve d e else none
  | .written d h => (s.writing d h).bind fun (reports, p) =>
    (s.serve d (.written h)).map fun s' => if s.isUp p then s'.arrive p reports else s'
  -- a write fails only when there is nobody at the other end
  | .writeFails d h => (s.writing d h).bind fun (_, p) =>
    if s.isUp p then none else s.serve d (.writeFails h)
  | .process p => s.withDaemon p fun x =>
    match x.fanIn with
    | r :: fanIn =>
      some { s.setDaemon p { x with fanIn } with handled := s.handled ++ [⟨r, p, s.leader⟩] }
    | [] => none

def sink (s : Reporting C R) (d : Nat) : Option Nat := s.daemons[d]?.bind fun x => x.feed.sink d

lemma withDaemon_eq_some {s s' : Reporting C R} {d : Nat}
    {f : Daemon C R → Option (Reporting C R)} : s.withDaemon d f = some s' ↔
      ∃ x, s.daemons[d]? = some x ∧ x.up = true ∧ f x = some s' := by
  simp only [withDaemon, Option.bind_eq_some_iff, Option.ite_none_right_eq_some]

lemma of_serve {s s' : Reporting C R} {d : Nat} {e : ServerEvent C R}
    (h : s.serve d e = some s') : ∃ x server server' owners, s.daemons[d]? = some x ∧
      x.up = true ∧ x.feed = .rpc server owners ∧ server.Does e server' ∧
      s' = s.setDaemon d { x with feed := .rpc server' owners } := by
  obtain ⟨x, hx, hup, h⟩ := withDaemon_eq_some.mp h
  split at h
  · rename_i server owners hfeed
    obtain ⟨server', hstep, rfl⟩ := Option.map_eq_some_iff.mp h
    exact ⟨x, server, server', owners, hx, hup, hfeed, RpcServer.does_of_step hstep, rfl⟩
  · cases h

lemma of_writing {s : Reporting C R} {d h p : Nat} {x : Daemon C R} {server : RpcServer C R}
    {owners : List Nat} {reports : List R} (hw : s.writing d h = some (reports, p))
    (hx : s.daemons[d]? = some x) (hfeed : x.feed = .rpc server owners) :
    ∃ y, server.handlers[h]? = some y ∧ owners[h]? = some p ∧ reports = y.state.held := by
  simp only [writing, hx, Option.bind_some, hfeed] at hw
  obtain ⟨y, hy, hw⟩ := Option.bind_eq_some_iff.mp hw
  obtain ⟨p', hp, heq⟩ := Option.map_eq_some_iff.mp hw
  cases heq
  exact ⟨y, hy, hp, rfl⟩

end Reporting

end Mill
