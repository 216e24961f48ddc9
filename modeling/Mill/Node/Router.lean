import Mathlib.Data.Finmap
import Mathlib.Data.Finset.Basic
import Mill.Config.Runtime
import Mill.Lib.FinMap
import Mill.Lib.List
import Mill.Lib.Run

/-! The router of a primary and the tasks behind its remote connections. A connection has a
queue of commands, a token that ends it, a task that writes and a task that reads. The router
keeps the newest queue and the newest token of each node, by the name of the node. Each lock that
a task waits for is a step of its own. -/

namespace Mill

open Option

section

variable {C R : Type}

inductive Wiring
  | created
  | registered
  | spawned
deriving DecidableEq

inductive WriterState (C : Type)
  | waiting
  | writing (c : C)
  | lost
  | ended
deriving DecidableEq

inductive ReaderState (R : Type)
  | waiting
  | giving (r : R)
  | ended
deriving DecidableEq

def WriterState.isEnded : WriterState C → Bool
  | ended => true
  | _ => false

def WriterState.isLost : WriterState C → Bool
  | lost => true
  | _ => false

def WriterState.isOpen : WriterState C → Bool
  | waiting => true
  | writing _ => true
  | _ => false

def ReaderState.isEnded : ReaderState R → Bool
  | ended => true
  | _ => false

structure Connection (C R : Type) where
  nodeId : NodeId
  outer : Nat
  wiring : Wiring
  cancelled : Bool
  queue : List C
  writer : WriterState C
  reader : ReaderState R
deriving DecidableEq

def Connection.create (nodeId : NodeId) (outer : Nat) : Connection C R :=
  ⟨nodeId, outer, .created, false, [], .waiting, .waiting⟩

inductive ConnEvent (R : Type)
  | take
  | written
  | writeFails
  | writerCancelled
  | read (r : R)
  | given
  | readerEnds
  | readerCancelled

def Connection.writerStep (c : Connection C R) : ConnEvent R → Option (Connection C R)
  | .take =>
    match c.writer, c.queue with
    | .waiting, x :: queue => some { c with writer := .writing x, queue }
    | _, _ => none
  | .written =>
    match c.writer with
    | .writing _ => some { c with writer := .waiting }
    | _ => none
  | .writeFails =>
    match c.writer with
    | .writing _ => some { c with writer := .lost, queue := [] }
    | _ => none
  | .writerCancelled =>
    match c.writer, c.cancelled with
    | .waiting, true => some { c with writer := .ended, queue := [] }
    | _, _ => none
  | _ => none

def Connection.readerStep (c : Connection C R) : ConnEvent R → Option (Connection C R)
  | .read r =>
    match c.reader with
    | .waiting => some { c with reader := .giving r }
    | _ => none
  | .given =>
    match c.reader with
    | .giving _ => some { c with reader := .waiting }
    | _ => none
  | .readerEnds =>
    match c.reader with
    | .ended => none
    | _ => some { c with reader := .ended }
  | .readerCancelled =>
    match c.reader, c.cancelled with
    | .waiting, true => some { c with reader := .ended }
    | _, _ => none
  | _ => none

def Connection.step (c : Connection C R) (e : ConnEvent R) : Option (Connection C R) :=
  if c.wiring = .spawned then (c.writerStep e).or (c.readerStep e) else none

inductive Connection.Does (c : Connection C R) : ConnEvent R → Connection C R → Prop
  | take {x : C} {queue : List C} (hwriter : c.writer = .waiting) (hqueue : c.queue = x :: queue) :
      Does c .take { c with writer := .writing x, queue }
  | written {x : C} (hwriter : c.writer = .writing x) :
      Does c .written { c with writer := .waiting }
  | writeFails {x : C} (hwriter : c.writer = .writing x) :
      Does c .writeFails { c with writer := .lost, queue := [] }
  | writerCancelled (hwriter : c.writer = .waiting) (hcancelled : c.cancelled = true) :
      Does c .writerCancelled { c with writer := .ended, queue := [] }
  | read (r : R) (hreader : c.reader = .waiting) : Does c (.read r) { c with reader := .giving r }
  | given {r : R} (hreader : c.reader = .giving r) : Does c .given { c with reader := .waiting }
  | readerEnds : Does c .readerEnds { c with reader := .ended }
  | readerCancelled (hreader : c.reader = .waiting) (hcancelled : c.cancelled = true) :
      Does c .readerCancelled { c with reader := .ended }

lemma Connection.does_of_step {c c' : Connection C R} {e : ConnEvent R}
    (h : c.step e = some c') : c.wiring = .spawned ∧ c.Does e c' := by
  rw [Connection.step, ite_none_right_eq_some] at h
  obtain ⟨hspawned, h⟩ := h
  refine ⟨hspawned, ?_⟩
  rcases or_eq_some_iff.mp h with hwriter | ⟨_, hreader⟩
  · unfold writerStep at hwriter
    repeat' split at hwriter
    all_goals cases hwriter
    · exact .take ‹_› ‹_›
    · exact .written ‹_›
    · exact .writeFails ‹_›
    · exact .writerCancelled ‹_› ‹_›
  · unfold readerStep at hreader
    repeat' split at hreader
    all_goals cases hreader
    · exact .read _ ‹_›
    · exact .given ‹_›
    · exact .readerEnds
    · exact .readerCancelled ‹_› ‹_›

/-- What a step of the two tasks leaves as it is, and what it does to them: a writer that ends
was cancelled, and a writer that has let go of its queue does not take it up again. -/
structure Connection.Stepped (c : Connection C R) (e : ConnEvent R) (c' : Connection C R) :
    Prop where
  spawned : c.wiring = .spawned
  nodeId : c'.nodeId = c.nodeId
  outer : c'.outer = c.outer
  wiring : c'.wiring = c.wiring
  cancelled : c'.cancelled = c.cancelled
  writerEnded : c'.writer.isEnded = true →
    c.writer.isEnded = true ∨ c.cancelled = true ∧ e = .writerCancelled
  writerStays : c.writer.isEnded = true → c'.writer.isEnded = true
  writerLost : c'.writer.isLost = true → c.writer.isLost = true ∨ e = .writeFails
  writerOpen : c'.writer.isOpen = true → c.writer.isOpen = true
  readerEnded : c'.reader.isEnded = true →
    c.reader.isEnded = true ∨ c.cancelled = true ∨ e = .readerEnds

lemma Connection.stepped_of_step {c c' : Connection C R} {e : ConnEvent R}
    (h : c.step e = some c') : c.Stepped e c' := by
  obtain ⟨hspawned, hdoes⟩ := does_of_step h
  cases hdoes with
  | take hwriter _ | written hwriter =>
    exact ⟨hspawned, rfl, rfl, rfl, rfl, by simp [WriterState.isEnded],
      by simp [hwriter, WriterState.isEnded], by simp [WriterState.isLost],
      by simp [hwriter, WriterState.isOpen], .inl⟩
  | writeFails hwriter =>
    exact ⟨hspawned, rfl, rfl, rfl, rfl, by simp [WriterState.isEnded],
      by simp [hwriter, WriterState.isEnded], fun _ => .inr rfl, by simp [WriterState.isOpen],
      .inl⟩
  | writerCancelled _ hcancelled =>
    exact ⟨hspawned, rfl, rfl, rfl, rfl, fun _ => .inr ⟨hcancelled, rfl⟩, fun _ => rfl,
      by simp [WriterState.isLost], by simp [WriterState.isOpen], .inl⟩
  | read _ _ | given _ =>
    exact ⟨hspawned, rfl, rfl, rfl, rfl, .inl, id, .inl, id, by simp [ReaderState.isEnded]⟩
  | readerEnds =>
    exact ⟨hspawned, rfl, rfl, rfl, rfl, .inl, id, .inl, id, fun _ => .inr (.inr rfl)⟩
  | readerCancelled _ hcancelled =>
    exact ⟨hspawned, rfl, rfl, rfl, rfl, .inl, id, .inl, id, fun _ => .inr (.inl hcancelled)⟩

end

/-- A call of `connect`, or a reconnect loop, before it is authenticated. -/
inductive AttemptState
  | calling
  | sleeping
  | reconnecting
deriving DecidableEq

structure Attempt where
  nodeId : NodeId
  outer : Nat
  state : AttemptState
deriving DecidableEq

def AttemptState.isLoop : AttemptState → Bool
  | calling => false
  | _ => true

structure Router (C R : Type) where
  inner : Finmap fun _ : NodeId => Nat
  connections : Finmap fun _ : NodeId => Nat
  conns : List (Connection C R)
  attempts : List Attempt
  /-- The calls of `disconnect` that have yet to deregister the node, with the connection whose
  token they have fired. -/
  disconnects : List (NodeId × Option Nat)
  /-- How many calls of `connect` there were: each has an outer token. -/
  calls : Nat
  fired : Finset Nat
  disconnected : Finset NodeId

inductive RouterEvent (C R : Type)
  | call (nodeId : NodeId)
  | attemptFails (a : Nat)
  | slept (a : Nat)
  | attemptCancelled (a : Nat)
  | authenticated (a : Nat)
  | insertSender (i : Nat)
  | insertToken (i : Nat)
  | fire (outer : Nat)
  | send (nodeId : NodeId) (x : C)
  | conn (i : Nat) (e : ConnEvent R)
  | closed (i : Nat)
  | lose (i : Nat)
  | disconnect (nodeId : NodeId)
  | deregister (d : Nat)

namespace Router

variable {C R : Type} {s s' : Router C R}

def init : Router C R := ⟨∅, ∅, [], [], [], 0, ∅, ∅⟩

def setConn (s : Router C R) (i : Nat) (c : Connection C R) : Router C R :=
  { s with conns := s.conns.set i c }

def withConn (s : Router C R) (i : Nat) (f : Connection C R → Option (Router C R)) :
    Option (Router C R) := s.conns[i]?.bind f

def withAttempt (s : Router C R) (a : Nat) (f : Attempt → Option (Router C R)) :
    Option (Router C R) := s.attempts[a]?.bind f

def dropAttempt (s : Router C R) (a : Nat) : Router C R :=
  { s with attempts := s.attempts.eraseIdx a }

def setAttempt (s : Router C R) (a : Nat) (t : Attempt) : Router C R :=
  { s with attempts := s.attempts.set a t }

def step (s : Router C R) : RouterEvent C R → Option (Router C R)
  | .call nodeId =>
    some { s with
      attempts := s.attempts ++ [⟨nodeId, s.calls, .calling⟩]
      calls := s.calls + 1
      disconnected := s.disconnected.erase nodeId }
  | .attemptFails a => s.withAttempt a fun t =>
    match t.state with
    | .calling => some (s.dropAttempt a)
    | .reconnecting => some (s.setAttempt a { t with state := .sleeping })
    | .sleeping => none
  | .slept a => s.withAttempt a fun t =>
    if t.state = .sleeping then some (s.setAttempt a { t with state := .reconnecting }) else none
  -- the loop looks at its token only while it sleeps
  | .attemptCancelled a => s.withAttempt a fun t =>
    if t.state = .sleeping ∧ t.outer ∈ s.fired then some (s.dropAttempt a) else none
  | .authenticated a => s.withAttempt a fun t =>
    if t.state = .sleeping then none
    else some { s.dropAttempt a with conns := s.conns ++ [.create t.nodeId t.outer] }
  | .insertSender i => s.withConn i fun c =>
    if c.wiring = .created then
      some { s.setConn i { c with wiring := .registered } with
        inner := s.inner.insert c.nodeId i }
    else none
  | .insertToken i => s.withConn i fun c =>
    if c.wiring = .registered then
      some { s.setConn i { c with wiring := .spawned } with
        connections := s.connections.insert c.nodeId i }
    else none
  | .fire outer => some { s with fired := insert outer s.fired }
  | .send nodeId x => (s.inner.lookup nodeId).bind fun i => s.withConn i fun c =>
    if c.writer.isOpen ∧ c.queue.length < 256 then
      some (s.setConn i { c with queue := c.queue ++ [x] })
    else none
  | .conn i e => s.withConn i fun c => (c.step e).map (s.setConn i)
  | .closed i => s.withConn i fun c =>
    match c.wiring, c.writer, c.queue with
    | .spawned, .waiting, [] =>
      if s.inner.lookup c.nodeId = some i then none
      else some (s.setConn i { c with writer := .ended })
    | _, _, _ => none
  -- the node is deregistered by its name
  | .lose i => s.withConn i fun c =>
    match c.writer with
    | .lost =>
      some { s.setConn i { c with writer := .ended } with
        inner := s.inner.erase c.nodeId
        attempts := s.attempts ++ [⟨c.nodeId, c.outer, .sleeping⟩] }
    | _ => none
  | .disconnect nodeId =>
    match s.connections.lookup nodeId with
    | some i => s.withConn i fun c =>
      some { s.setConn i { c with cancelled := true } with
        connections := s.connections.erase nodeId
        disconnects := s.disconnects ++ [(nodeId, some i)]
        disconnected := insert nodeId s.disconnected }
    | none =>
      some { s with
        disconnects := s.disconnects ++ [(nodeId, none)]
        disconnected := insert nodeId s.disconnected }
  | .deregister d =>
    s.disconnects[d]?.map fun t =>
      { s with inner := s.inner.erase t.1, disconnects := s.disconnects.eraseIdx d }

inductive Does (s : Router C R) : RouterEvent C R → Router C R → Prop
  | call (nodeId : NodeId) : Does s (.call nodeId) { s with
      attempts := s.attempts ++ [⟨nodeId, s.calls, .calling⟩]
      calls := s.calls + 1
      disconnected := s.disconnected.erase nodeId }
  | callFails {a : Nat} {t : Attempt} (ht : s.attempts[a]? = some t) :
      Does s (.attemptFails a) (s.dropAttempt a)
  | loopFails {a : Nat} {t : Attempt} (ht : s.attempts[a]? = some t)
      (hstate : t.state = .reconnecting) :
      Does s (.attemptFails a) (s.setAttempt a { t with state := .sleeping })
  | slept {a : Nat} {t : Attempt} (ht : s.attempts[a]? = some t) (hstate : t.state = .sleeping) :
      Does s (.slept a) (s.setAttempt a { t with state := .reconnecting })
  | attemptCancelled {a : Nat} {t : Attempt} (ht : s.attempts[a]? = some t)
      (hfired : t.outer ∈ s.fired) : Does s (.attemptCancelled a) (s.dropAttempt a)
  | authenticated {a : Nat} {t : Attempt} (ht : s.attempts[a]? = some t) : Does s (.authenticated a)
        { s.dropAttempt a with conns := s.conns ++ [.create t.nodeId t.outer] }
  | insertSender {i : Nat} {c : Connection C R} (hc : s.conns[i]? = some c)
      (hwiring : c.wiring = .created) : Does s (.insertSender i)
        { s.setConn i { c with wiring := .registered } with inner := s.inner.insert c.nodeId i }
  | insertToken {i : Nat} {c : Connection C R} (hc : s.conns[i]? = some c)
      (hwiring : c.wiring = .registered) : Does s (.insertToken i)
        { s.setConn i { c with wiring := .spawned } with
          connections := s.connections.insert c.nodeId i }
  | fire (outer : Nat) : Does s (.fire outer) { s with fired := insert outer s.fired }
  | send {nodeId : NodeId} {x : C} {i : Nat} {c : Connection C R}
      (hi : s.inner.lookup nodeId = some i) (hc : s.conns[i]? = some c)
      (hopen : c.writer.isOpen = true) :
      Does s (.send nodeId x) (s.setConn i { c with queue := c.queue ++ [x] })
  | conn {i : Nat} {c c' : Connection C R} {e : ConnEvent R} (hc : s.conns[i]? = some c)
      (hstep : c.step e = some c') : Does s (.conn i e) (s.setConn i c')
  | closed {i : Nat} {c : Connection C R} (hc : s.conns[i]? = some c)
      (hwiring : c.wiring = .spawned) (hwriter : c.writer = .waiting) (hqueue : c.queue = [])
      (hinner : s.inner.lookup c.nodeId ≠ some i) :
      Does s (.closed i) (s.setConn i { c with writer := .ended })
  | lose {i : Nat} {c : Connection C R} (hc : s.conns[i]? = some c) (hwriter : c.writer = .lost) :
      Does s (.lose i) { s.setConn i { c with writer := .ended } with
        inner := s.inner.erase c.nodeId
        attempts := s.attempts ++ [⟨c.nodeId, c.outer, .sleeping⟩] }
  | disconnect {nodeId : NodeId} {i : Nat} {c : Connection C R}
      (hi : s.connections.lookup nodeId = some i) (hc : s.conns[i]? = some c) :
      Does s (.disconnect nodeId) { s.setConn i { c with cancelled := true } with
        connections := s.connections.erase nodeId
        disconnects := s.disconnects ++ [(nodeId, some i)]
        disconnected := insert nodeId s.disconnected }
  | disconnectNone {nodeId : NodeId} (hi : s.connections.lookup nodeId = none) :
      Does s (.disconnect nodeId) { s with
        disconnects := s.disconnects ++ [(nodeId, none)]
        disconnected := insert nodeId s.disconnected }
  | deregister {d : Nat} {t : NodeId × Option Nat} (ht : s.disconnects[d]? = some t) :
      Does s (.deregister d)
        { s with inner := s.inner.erase t.1, disconnects := s.disconnects.eraseIdx d }

lemma withConn_eq_some {i : Nat} {f : Connection C R → Option (Router C R)} :
    s.withConn i f = some s' ↔ ∃ c, s.conns[i]? = some c ∧ f c = some s' :=
  bind_eq_some_iff

lemma withAttempt_eq_some {a : Nat} {f : Attempt → Option (Router C R)} :
    s.withAttempt a f = some s' ↔ ∃ t, s.attempts[a]? = some t ∧ f t = some s' :=
  bind_eq_some_iff

lemma does_of_step {e : RouterEvent C R} (h : s.step e = some s') : Does s e s' := by
  cases e with
  | call nodeId | fire outer =>
    cases h
    constructor
  | attemptFails =>
    obtain ⟨t, ht, h⟩ := withAttempt_eq_some.mp h
    split at h <;> cases h
    · exact .callFails ht
    · exact .loopFails ht ‹_›
  | slept a | attemptCancelled a | authenticated a =>
    obtain ⟨t, ht, h⟩ := withAttempt_eq_some.mp h
    simp only [ite_none_right_eq_some, ite_none_left_eq_some] at h
    cases h.2
    first | exact .slept ht h.1 | exact .attemptCancelled ht h.1.2 | exact .authenticated ht
  | insertSender i | insertToken i =>
    obtain ⟨c, hc, h⟩ := withConn_eq_some.mp h
    rw [ite_none_right_eq_some] at h
    cases h.2
    constructor
    · exact hc
    · exact h.1
  | send =>
    obtain ⟨i, hi, h⟩ := bind_eq_some_iff.mp h
    obtain ⟨c, hc, h⟩ := withConn_eq_some.mp h
    rw [ite_none_right_eq_some] at h
    cases h.2
    exact .send hi hc h.1.1
  | conn =>
    obtain ⟨c, hc, h⟩ := withConn_eq_some.mp h
    obtain ⟨c', hstep, rfl⟩ := map_eq_some_iff.mp h
    exact .conn hc hstep
  | closed =>
    obtain ⟨c, hc, h⟩ := withConn_eq_some.mp h
    split at h
    · rw [ite_none_left_eq_some] at h
      cases h.2
      exact .closed hc ‹_› ‹_› ‹_› h.1
    · cases h
  | lose =>
    obtain ⟨c, hc, h⟩ := withConn_eq_some.mp h
    split at h <;> cases h
    exact .lose hc ‹_›
  | disconnect =>
    simp only [step] at h
    split at h
    · obtain ⟨c, hc, h⟩ := withConn_eq_some.mp h
      cases h
      exact .disconnect ‹_› hc
    · cases h
      exact .disconnectNone ‹_›
  | deregister =>
    obtain ⟨t, ht, rfl⟩ := map_eq_some_iff.mp h
    exact .deregister ht

def Named (s : Router C R) : Prop :=
  ∀ nodeId i, s.inner.lookup nodeId = some i → ∃ c, s.conns[i]? = some c ∧ c.nodeId = nodeId

lemma named_init : (init : Router C R).Named := nofun

lemma Named.frame (hs : s.Named)
    (hconns : ∀ (i : Nat) (c : Connection C R), s.conns[i]? = some c → s'.conns[i]? = some c)
    (hinner : ∀ nodeId i, s'.inner.lookup nodeId = some i → s.inner.lookup nodeId = some i) :
    s'.Named := by
  intro nodeId i hi
  obtain ⟨c, hc, hnode⟩ := hs nodeId i (hinner nodeId i hi)
  exact ⟨c, hconns i c hc, hnode⟩

lemma Named.set (hs : s.Named) {i : Nat} {c c' : Connection C R}
    (hc : s.conns[i]? = some c) (hconns : s'.conns = s.conns.set i c')
    (hnode : c'.nodeId = c.nodeId)
    (hinner : ∀ nodeId j, s'.inner.lookup nodeId = some j →
      s.inner.lookup nodeId = some j ∨ nodeId = c.nodeId ∧ j = i) : s'.Named := by
  intro nodeId j hj
  rw [hconns]
  rcases hinner nodeId j hj with hj | ⟨rfl, rfl⟩
  · exact List.exists_getElem?_set hc (hs nodeId j hj) fun _ hold => hnode.trans hold
  · exact ⟨c', List.getElem?_set_of_some hc, hnode⟩

lemma named_step {e : RouterEvent C R} (hs : s.Named) (h : s.Does e s') : s'.Named := by
  cases h with
  | authenticated =>
    refine hs.frame (fun i c hc => ?_) fun _ _ hi => hi
    exact List.getElem?_append_of_some hc
  | insertSender hc =>
    refine hs.set hc rfl rfl fun nodeId j hj => ?_
    rcases Finmap.lookup_insert_eq_some.mp hj with ⟨hnode, hij⟩ | ⟨_, hj⟩
    · exact .inr ⟨hnode, hij.symm⟩
    · exact .inl hj
  | insertToken hc hwiring | send hi hc hopen | closed hc hwiring hwriter hqueue hinner
  | disconnect hi hc => exact hs.set hc rfl rfl fun _ _ hj => .inl hj
  | conn hc hstep =>
    exact hs.set hc rfl (Connection.stepped_of_step hstep).nodeId fun _ _ hj => .inl hj
  | lose hc =>
    exact hs.set hc rfl rfl fun _ _ hj => .inl (Finmap.lookup_erase_eq_some.mp hj).2
  | deregister =>
    exact hs.frame (fun _ _ hc => hc) fun _ _ hj => (Finmap.lookup_erase_eq_some.mp hj).2
  | _ => exact hs.frame (fun _ _ hc => hc) fun _ _ hi => hi

def demoNode : NodeId := ⟨"n"⟩

end Router

end Mill
