import Mathlib.Data.Multiset.Basic
import Mill.Node.Router
import Mill.Node.RpcServer

/-! The router of a primary and the RPC server of one of its nodes, and the streams between them.
-/

namespace Mill

open Option

variable {C R : Type}

inductive Message (C R : Type)
  | command (c : C)
  | report (r : R)
deriving DecidableEq

def Message.commands (l : List C) : Multiset (Message C R) :=
  (l.map .command : List (Message C R))

def Message.reports (l : List R) : Multiset (Message C R) :=
  (l.map .report : List (Message C R))

open Message

structure Wire (C R : Type) where
  toServer : Option (List C)
  toPrimary : Option (List R)
deriving DecidableEq

def Wire.opened : Wire C R := ⟨some [], some []⟩

structure Link (C R : Type) where
  router : Router C R
  server : RpcServer C R
  wires : List (Wire C R)
  peers : List (Option Nat)
  /-- The commands for the node of which `send` returned Ok, and the reports that were put. -/
  sent : Multiset (Message C R)
  given : Multiset (Message C R)

inductive LinkEvent (C R : Type)
  | router (e : RouterEvent C R)
  | server (e : ServerEvent C R)
  | connected (a h : Nat)
  | hangUp (h : Nat)

@[simp] def WriterState.held : WriterState C → List C
  | .waiting => []
  | .writing c => [c]
  | .lost => []
  | .ended => []

@[simp] def ReaderState.held : ReaderState R → List R
  | .waiting => []
  | .giving r => [r]
  | .ended => []

def ServerReader.isSpawned : ServerReader C → Bool
  | .unspawned => false
  | _ => true

section

variable [DecidableEq C] [DecidableEq R]

def Wire.connStep (w : Wire C R) (c : Connection C R) : ConnEvent R → Option (Wire C R)
  | .written => some { w with toServer := w.toServer.map (· ++ c.writer.held) }
  | .read r =>
    match w.toPrimary with
    | some (r' :: rest) => if r' = r then some { w with toPrimary := some rest } else none
    | _ => none
  | .readerEnds => some { w with toPrimary := none }
  | .readerCancelled => some { w with toPrimary := none }
  | _ => some w

def Wire.serverStep (w : Wire C R) (x : Handler C R) : ServerEvent C R → Option (Wire C R)
  | .written _ => some { w with toPrimary := w.toPrimary.map (· ++ x.state.held) }
  | .arrive _ c =>
    match w.toServer with
    | some (c' :: rest) => if c' = c then some { w with toServer := some rest } else none
    | _ => none
  | .readerEnds _ => some { w with toServer := none }
  | .abort _ => some { w with toServer := none }
  | _ => some w

end

def Connection.gives (c : Connection C R) : ConnEvent R → Multiset (Message C R)
  | .given => reports c.reader.held
  | _ => 0

def Handler.gives (x : Handler C R) : ServerEvent C R → Multiset (Message C R)
  | .give _ => commands x.reader.held
  | _ => 0

def RouterEvent.sends (node : NodeId) : RouterEvent C R → Multiset (Message C R)
  | .send nodeId x => if nodeId = node then commands [x] else 0
  | _ => 0

def RouterEvent.isConn : RouterEvent C R → Bool
  | .conn _ _ => true
  | _ => false

def ServerEvent.puts : ServerEvent C R → Multiset (Message C R)
  | .put r => reports [r]
  | _ => 0

def ServerEvent.opens : ServerEvent C R → List (Wire C R)
  | .accept => [.opened]
  | _ => []

def ServerEvent.handler? : ServerEvent C R → Option Nat
  | .authFails h => some h
  | .authenticated h => some h
  | .take h => some h
  | .written h => some h
  | .writeFails h => some h
  | .reportsEnd h => some h
  | .cancelled h => some h
  | .arrive h _ => some h
  | .give h => some h
  | .readerEnds h => some h
  | .abort h => some h
  | _ => none

namespace Link

def init : Link C R := ⟨.init, .init, [], [], 0, 0⟩

def wireOf (s : Link C R) (i : Nat) : Option (Nat × Wire C R) :=
  (s.peers[i]?.join).bind fun h => s.wires[h]?.map fun w => (h, w)

section

variable [DecidableEq C] [DecidableEq R]

def connStep (node : NodeId) (s : Link C R) (i : Nat) (e : ConnEvent R) : Option (Link C R) :=
  s.router.conns[i]?.bind fun c =>
    if c.nodeId = node then
      (s.wireOf i).bind fun (h, w) => (w.connStep c e).bind fun w' =>
        (s.router.step (.conn i e)).map fun router =>
          { s with router, wires := s.wires.set h w', given := c.gives e + s.given }
    else (s.router.step (.conn i e)).map fun router => { s with router }

def routerStep (node : NodeId) (s : Link C R) : RouterEvent C R → Option (Link C R)
  | .conn i e => s.connStep node i e
  | .authenticated a => s.router.attempts[a]?.bind fun t =>
    if t.nodeId = node then none
    else (s.router.step (.authenticated a)).map fun router =>
      { s with router, peers := s.peers ++ [none] }
  | e => (s.router.step e).map fun router => { s with router, sent := e.sends node + s.sent }

def handlerStep (s : Link C R) (h : Nat) (e : ServerEvent C R) : Option (Link C R) :=
  s.server.handlers[h]?.bind fun x => s.wires[h]?.bind fun w =>
    (w.serverStep x e).bind fun w' => (s.server.step e).map fun server =>
      { s with server, wires := s.wires.set h w', given := x.gives e + s.given }

def serverStep (s : Link C R) : ServerEvent C R → Option (Link C R)
  | .stop => none
  | e =>
    match e.handler? with
    | some h => s.handlerStep h e
    | none => (s.server.step e).map fun server =>
      { s with server, wires := s.wires ++ e.opens, sent := e.puts + s.sent }

/-- The server has authenticated the peer of `h`, and nobody is at the other end yet. -/
def Awaits (s : Link C R) (h : Nat) : Prop :=
  (∃ x ∈ s.server.handlers[h]?, x.reader.isSpawned = true) ∧
    (∃ w ∈ s.wires[h]?, w.toPrimary.isSome = true) ∧ some h ∉ s.peers

instance (s : Link C R) (h : Nat) : Decidable (s.Awaits h) :=
  inferInstanceAs (Decidable (_ ∧ _ ∧ _))

def step (node : NodeId) (s : Link C R) : LinkEvent C R → Option (Link C R)
  | .router e => s.routerStep node e
  | .server e => s.serverStep e
  | .connected a h => s.router.attempts[a]?.bind fun t =>
    if t.nodeId = node ∧ s.Awaits h then
      (s.router.step (.authenticated a)).map fun router =>
        { s with router, peers := s.peers ++ [some h] }
    else none
  | .hangUp h =>
    if some h ∈ s.peers then none
    else s.wires[h]?.map fun w => { s with wires := s.wires.set h { w with toPrimary := none } }

end

/-- What a step of a task of the router does: a connection to the node has its streams, and one to
another node is of no concern. -/
inductive ConnDoes [DecidableEq R] (node : NodeId) (s : Link C R) (i : Nat) (e : ConnEvent R) :
    Link C R → Prop
  | task {c c' : Connection C R} {h : Nat} {w w' : Wire C R} (hc : s.router.conns[i]? = some c)
      (hnode : c.nodeId = node) (hi : s.wireOf i = some (h, w)) (hw : s.wires[h]? = some w)
      (hw' : w.connStep c e = some w') (hstep : c.step e = some c') :
      ConnDoes node s i e
        { s with
          router := s.router.setConn i c'
          wires := s.wires.set h w'
          given := c.gives e + s.given }
  | other {c c' : Connection C R} (hc : s.router.conns[i]? = some c) (hnode : c.nodeId ≠ node)
      (hstep : c.step e = some c') : ConnDoes node s i e { s with router := s.router.setConn i c' }

lemma of_wireOf {s : Link C R} {i h : Nat} {w : Wire C R} (hw : s.wireOf i = some (h, w)) :
    s.wires[h]? = some w := by
  obtain ⟨k, _, hk⟩ := bind_eq_some_iff.mp hw
  obtain ⟨w', hw', heq⟩ := map_eq_some_iff.mp hk
  cases heq
  exact hw'

lemma of_connStep [DecidableEq R] {node : NodeId} {s s' : Link C R} {i : Nat} {e : ConnEvent R}
    (h : s.connStep node i e = some s') : ConnDoes node s i e s' := by
  obtain ⟨c, hc, h⟩ := bind_eq_some_iff.mp h
  have hconn : ∀ router, s.router.step (.conn i e) = some router →
      ∃ c', c.step e = some c' ∧ router = s.router.setConn i c' := by
    intro router hstep
    cases Router.does_of_step hstep with
    | conn hd hstep =>
      cases hc.symm.trans hd
      exact ⟨_, hstep, rfl⟩
  split_ifs at h with hnode
  · obtain ⟨⟨k, w⟩, hw, h⟩ := bind_eq_some_iff.mp h
    obtain ⟨w', hw', h⟩ := bind_eq_some_iff.mp h
    obtain ⟨router, hstep, rfl⟩ := map_eq_some_iff.mp h
    obtain ⟨c', hc', rfl⟩ := hconn router hstep
    exact .task hc hnode hw (of_wireOf hw) hw' hc'
  · obtain ⟨router, hstep, rfl⟩ := map_eq_some_iff.mp h
    obtain ⟨c', hc', rfl⟩ := hconn router hstep
    exact .other hc hnode hc'

lemma of_handlerStep [DecidableEq C] {s s' : Link C R} {h : Nat} {e : ServerEvent C R}
    (hstep : s.handlerStep h e = some s') : ∃ x w w' server, s.server.handlers[h]? = some x ∧
      s.wires[h]? = some w ∧ w.serverStep x e = some w' ∧ s.server.Does e server ∧
      s' = { s with server, wires := s.wires.set h w', given := x.gives e + s.given } := by
  obtain ⟨x, hx, hstep⟩ := bind_eq_some_iff.mp hstep
  obtain ⟨w, hw, hstep⟩ := bind_eq_some_iff.mp hstep
  obtain ⟨w', hw', hstep⟩ := bind_eq_some_iff.mp hstep
  obtain ⟨server, hserver, rfl⟩ := map_eq_some_iff.mp hstep
  exact ⟨x, w, w', server, hx, hw, hw', RpcServer.does_of_step hserver, rfl⟩

end Link

end Mill
