import Mathlib.Data.Finset.Basic
import Mill.Lib.Run
import Mill.Raft.Apply

/-! The task of a primary that connects its router to the nodes of the cluster. -/

namespace Mill

open Transition

def FsmNode.rpcAddr (n : FsmNode) : SocketAddr := n.rpcAddress.getD n.address

def remoteNodes (localNodeId : Option NodeId) (s : FsmState) : Multiset (NodeId × SocketAddr) :=
  (s.nodes.values.filter fun n => localNodeId ≠ some n.millId).map fun n => (n.millId, n.rpcAddr)

inductive WatcherPhase
  | off
  | starting
  | connectingAll (todo : List (NodeId × SocketAddr))
  | idle
  | woken
  | connecting (todo : List (NodeId × SocketAddr)) (currentIds : List NodeId)
  | disconnecting (todo : List NodeId)
deriving DecidableEq

def WatcherPhase.todo : WatcherPhase → List (NodeId × SocketAddr)
  | connectingAll todo => todo
  | connecting todo _ => todo
  | _ => []

structure ConnectionWatcher where
  fsm : FsmState
  unseen : Bool
  wired : Finmap fun _ : NodeId => SocketAddr
  connected : Finset NodeId
  phase : WatcherPhase

inductive WatcherEvent
  | commit (c : Command)
  | start
  | wake
  | read (order : List (NodeId × SocketAddr))
  | connect
  | connectFails
  | skip
  | compare (removed : List NodeId)
  | disconnect
  | rest

namespace ConnectionWatcher

def init : ConnectionWatcher := ⟨default, false, ∅, ∅, .off⟩

def connectTo (s : ConnectionWatcher) (id : NodeId) (addr : SocketAddr) (phase : WatcherPhase) :
    ConnectionWatcher :=
  { s with wired := s.wired.insert id addr, connected := insert id s.connected, phase }

def disconnectFrom (s : ConnectionWatcher) (id : NodeId) (phase : WatcherPhase) :
    ConnectionWatcher :=
  { s with wired := s.wired.erase id, connected := s.connected.erase id, phase }

variable (localNodeId : Option NodeId) (s : ConnectionWatcher)

def step (e : WatcherEvent) : Option ConnectionWatcher :=
  match s.phase, e with
  | _, .commit c => some { s with fsm := (applyCommand s.fsm c).1, unseen := true }
  -- the watcher subscribes to the changes before its first read
  | .off, .start => some { s with unseen := false, phase := .starting }
  | .starting, .read order =>
    if remoteNodes localNodeId s.fsm = order then some { s with phase := .connectingAll order }
    else none
  | .connectingAll ((id, addr) :: todo), .connect =>
    some (s.connectTo id addr (.connectingAll todo))
  | .connectingAll (_ :: todo), .connectFails => some { s with phase := .connectingAll todo }
  | .connectingAll [], .rest => some { s with phase := .idle }
  | .idle, .wake => if s.unseen then some { s with unseen := false, phase := .woken } else none
  | .woken, .read order =>
    if remoteNodes localNodeId s.fsm = order then
      some { s with phase := .connecting order (order.map Prod.fst) }
    else none
  | .connecting ((id, _) :: todo) ids, .skip =>
    if id ∈ s.connected then some { s with phase := .connecting todo ids } else none
  | .connecting ((id, addr) :: todo) ids, .connect =>
    if id ∈ s.connected then none else some (s.connectTo id addr (.connecting todo ids))
  | .connecting ((id, _) :: todo) ids, .connectFails =>
    if id ∈ s.connected then none else some { s with phase := .connecting todo ids }
  | .connecting [] ids, .compare removed =>
    if (s.connected \ ids.toFinset).val = removed then
      some { s with phase := .disconnecting removed }
    else none
  | .disconnecting (id :: todo), .disconnect => some (s.disconnectFrom id (.disconnecting todo))
  | .disconnecting [], .rest => some { s with phase := .idle }
  | _, _ => none

def Converged : Prop :=
  ∀ id addr, s.wired.lookup id = some addr ↔ (id, addr) ∈ remoteNodes localNodeId s.fsm

def OneAddress (fsm : FsmState) : Prop :=
  ∀ p ∈ remoteNodes localNodeId fsm, (∀ addr ∈ s.wired.lookup p.1, addr = p.2) ∧
    (∀ q ∈ s.phase.todo, q.1 = p.1 → q.2 = p.2) ∧
    ∀ q ∈ remoteNodes localNodeId fsm, q.1 = p.1 → q.2 = p.2

/-- No command gives a name another address than the one at which the watcher has connected or
is about to connect, and connecting fails only while there is an unseen change. -/
def Steady : WatcherEvent → Prop
  | .commit c => s.OneAddress localNodeId (applyCommand s.fsm c).1
  | .connectFails => s.unseen = true
  | _ => True

instance : ∀ e, Decidable (s.Steady localNodeId e)
  | .commit _ => inferInstanceAs (Decidable (∀ p ∈ remoteNodes _ _, _ ∧ _ ∧ _))
  | .connectFails => inferInstanceAs (Decidable (_ = _))
  | .start => .isTrue trivial
  | .wake => .isTrue trivial
  | .read _ => .isTrue trivial
  | .connect => .isTrue trivial
  | .skip => .isTrue trivial
  | .compare _ => .isTrue trivial
  | .disconnect => .isTrue trivial
  | .rest => .isTrue trivial

end ConnectionWatcher

section

open ConnectionWatcher

variable (localNodeId : Option NodeId) (s : ConnectionWatcher)

def Named (fsm : FsmState) (id : NodeId) : Prop :=
  ∃ addr, (id, addr) ∈ remoteNodes localNodeId fsm

def Underway : Prop :=
  match s.phase with
  | .connectingAll todo =>
    (∀ p ∈ remoteNodes localNodeId s.fsm, p.1 ∈ s.connected ∨ p ∈ todo) ∧
      (∀ p ∈ todo, p ∈ remoteNodes localNodeId s.fsm) ∧
      ∀ id ∈ s.connected, Named localNodeId s.fsm id
  | .idle =>
    (∀ p ∈ remoteNodes localNodeId s.fsm, p.1 ∈ s.connected) ∧
      ∀ id ∈ s.connected, Named localNodeId s.fsm id
  | .connecting todo ids =>
    (∀ p ∈ remoteNodes localNodeId s.fsm, p.1 ∈ s.connected ∨ p ∈ todo) ∧
      ∀ id, id ∈ ids ↔ Named localNodeId s.fsm id
  | .disconnecting todo =>
    (∀ p ∈ remoteNodes localNodeId s.fsm, p.1 ∈ s.connected ∧ p.1 ∉ todo) ∧
      ∀ id ∈ s.connected, id ∈ todo ∨ Named localNodeId s.fsm id
  | _ => True

/-- The names and addresses that the watcher holds fit the nodes, and what it has connected to
is what the router is wired to. -/
structure Faithful : Prop where
  connected : ∀ id, id ∈ s.connected ↔ id ∈ s.wired
  oneAddress : s.OneAddress localNodeId s.fsm
  wiredTodo : ∀ q ∈ s.phase.todo, ∀ addr ∈ s.wired.lookup q.1, addr = q.2
  todo : ∀ q ∈ s.phase.todo, ∀ q' ∈ s.phase.todo, q.1 = q'.1 → q.2 = q'.2
  fresh : s.phase = .off ∨ s.phase = .starting → s.connected = ∅
  underway : s.unseen = false → Underway localNodeId s

variable {localNodeId s} {s' : ConnectionWatcher}

lemma faithful_init : Faithful localNodeId .init where
  connected id := iff_of_false (Finset.notMem_empty id) Finmap.notMem_empty
  oneAddress p hp := by cases hp
  wiredTodo q hq := by cases hq
  todo q hq := by cases hq
  fresh _ := rfl
  underway _ := trivial

section

variable (hs : Faithful localNodeId s)

include hs

lemma Faithful.converged (hidle : s.phase = .idle) (hseen : s.unseen = false) :
    s.Converged localNodeId := by
  have hround := hs.underway hseen
  rw [Underway, hidle] at hround
  obtain ⟨hall, hnamed⟩ := hround
  intro id addr
  constructor
  · intro hwired
    have hmem : id ∈ s.connected := (hs.connected id).mpr (Finmap.mem_iff.mpr ⟨addr, hwired⟩)
    obtain ⟨addr', hnode⟩ := hnamed id hmem
    have heq : addr = addr' := (hs.oneAddress _ hnode).1 addr hwired
    exact heq ▸ hnode
  · intro hnode
    obtain ⟨addr', hwired⟩ := Finmap.mem_iff.mp ((hs.connected id).mp (hall _ hnode))
    have heq : addr' = addr := (hs.oneAddress _ hnode).1 addr' hwired
    exact heq ▸ hwired

attribute [local grind] Named OneAddress Steady WatcherPhase.todo connectTo disconnectFrom
attribute [local grind =] Finmap.lookup_insert_eq Finmap.lookup_erase_eq Finmap.mem_insert
  Finmap.mem_erase Option.mem_def

lemma Faithful.wired {p : NodeId × SocketAddr} {addr : SocketAddr}
    (hp : p ∈ s.phase.todo ∨ p ∈ remoteNodes localNodeId s.fsm)
    (h : s.wired.lookup p.1 = some addr) : addr = p.2 := by
  rcases hp with hp | hp
  · exact hs.wiredTodo p hp addr h
  · exact (hs.oneAddress p hp).1 addr h

lemma Faithful.phase {phase : WatcherPhase} {unseen : Bool}
    (htodo : ∀ q ∈ phase.todo, q ∈ s.phase.todo ∨ q ∈ remoteNodes localNodeId s.fsm)
    (hfresh : phase = .off ∨ phase = .starting → s.connected = ∅)
    (hunderway : unseen = false → Underway localNodeId { s with unseen, phase }) :
    Faithful localNodeId { s with unseen, phase } := by
  obtain ⟨hconnected, haddress, -, htodo', -, -⟩ := id hs
  refine ⟨hconnected, ?_, ?_, ?_, hfresh, hunderway⟩
  · grind
  · exact fun q hq addr h => hs.wired (htodo q hq) h
  · grind

lemma Faithful.connect {id : NodeId} {addr : SocketAddr} {todo : List (NodeId × SocketAddr)}
    {phase : WatcherPhase}
    (hphase : s.phase.todo = (id, addr) :: todo) (htodo : phase.todo = todo)
    (hfresh : ¬ (phase = .off ∨ phase = .starting))
    (hunderway : s.unseen = false → Underway localNodeId (s.connectTo id addr phase)) :
    Faithful localNodeId (s.connectTo id addr phase) := by
  have hnext : (id, addr) ∈ s.phase.todo := by
    rw [hphase]
    exact List.mem_cons_self
  have hold {q : NodeId × SocketAddr} (hq : q ∈ phase.todo) : q ∈ s.phase.todo := by
    rw [hphase]
    exact List.mem_cons_of_mem _ (htodo ▸ hq)
  -- the name is now wired at the address that was read for it
  have hwired {p : NodeId × SocketAddr} (hnew : id = p.1 → addr = p.2)
      (hbefore : ∀ a ∈ s.wired.lookup p.1, a = p.2) :
      ∀ a ∈ (s.wired.insert id addr).lookup p.1, a = p.2 := by
    intro a ha
    rw [Option.mem_def, Finmap.lookup_insert_eq] at ha
    split_ifs at ha with hid
    · cases ha
      exact hnew hid.symm
    · exact hbefore a ha
  refine ⟨fun id' => ?_, fun p hp => ?_, fun q hq => ?_, fun q hq q' hq' => ?_,
    fun h => absurd h hfresh, hunderway⟩
  · rw [connectTo, Finset.mem_insert, Finmap.mem_insert, hs.connected id']
  · obtain ⟨hbefore, hread, hsame⟩ := hs.oneAddress p hp
    exact ⟨hwired (hread _ hnext) hbefore, fun q hq => hread q (hold hq), hsame⟩
  · exact hwired (hs.todo _ hnext q (hold hq)) (hs.wiredTodo q (hold hq))
  · exact hs.todo q (hold hq) q' (hold hq')

lemma Faithful.disconnect {id : NodeId} {phase : WatcherPhase}
    (htodo : phase.todo = []) (hfresh : ¬ (phase = .off ∨ phase = .starting))
    (hunderway : s.unseen = false → Underway localNodeId (s.disconnectFrom id phase)) :
    Faithful localNodeId (s.disconnectFrom id phase) := by
  have hnone {q : NodeId × SocketAddr} (hq : q ∈ phase.todo) : False := by
    rw [htodo] at hq
    cases hq
  refine ⟨fun id' => ?_, fun p hp => ?_, fun q hq => (hnone hq).elim,
    fun q hq => (hnone hq).elim, fun h => absurd h hfresh, hunderway⟩
  · rw [disconnectFrom, Finset.mem_erase, Finmap.mem_erase, hs.connected id']
  · obtain ⟨hbefore, _, hsame⟩ := hs.oneAddress p hp
    refine ⟨fun addr haddr => ?_, fun q hq => (hnone hq).elim, hsame⟩
    rw [Option.mem_def, disconnectFrom, Finmap.lookup_erase_eq] at haddr
    split_ifs at haddr
    exact hbefore addr haddr

attribute [local grind] Underway

lemma faithful_step {e : WatcherEvent} (hP : s.Steady localNodeId e)
    (hstep : s.step localNodeId e = some s') : Faithful localNodeId s' := by
  have hunderway := hs.underway
  unfold step at hstep
  split at hstep
  case h_1 c =>
    cases hstep
    exact ⟨hs.connected, hP, hs.wiredTodo, hs.todo, hs.fresh, nofun⟩
  case h_2 hphase =>
    cases hstep
    exact hs.phase nofun (fun _ => hs.fresh (.inl hphase)) fun _ => trivial
  case h_3 order hphase =>
    split_ifs at hstep with horder
    cases hstep
    have hmem : ∀ p, p ∈ remoteNodes localNodeId s.fsm ↔ p ∈ order := by simp [horder]
    have hnone := hs.fresh (.inr hphase)
    exact hs.phase (by grind) (by simp) (by grind)
  case h_4 id addr todo hphase =>
    cases hstep
    exact hs.connect (by rw [hphase]; rfl) rfl (by simp) (by grind)
  case h_7 =>
    split_ifs at hstep
    cases hstep
    exact hs.phase nofun (by simp) fun _ => trivial
  case h_8 order hphase =>
    split_ifs at hstep with horder
    cases hstep
    have hmem : ∀ p, p ∈ remoteNodes localNodeId s.fsm ↔ p ∈ order := by simp [horder]
    exact hs.phase (by grind) (by simp) (by grind)
  case h_10 id addr todo ids hphase =>
    split_ifs at hstep
    cases hstep
    exact hs.connect (by rw [hphase]; rfl) rfl (by simp) (by grind)
  case h_12 ids removed hphase =>
    split_ifs at hstep with hremoved
    cases hstep
    have hmem (id : NodeId) : id ∈ removed ↔ id ∈ s.connected ∧ id ∉ ids := by
      rw [← Multiset.mem_coe, ← hremoved, Finset.mem_val, Finset.mem_sdiff, List.mem_toFinset]
    exact hs.phase nofun (by simp) (by grind)
  case h_13 id left hphase =>
    cases hstep
    exact hs.disconnect rfl (by simp) (by grind)
  case h_15 => cases hstep
  all_goals
    -- a pair is left out that is connected, or whose failure comes with a change to be seen
    rename_i hphase
    try split_ifs at hstep
    cases hstep
    exact hs.phase (by grind) (by simp) (by grind)

end

/-- Whenever the watcher is idle and has seen every change, the router is wired to exactly the
other nodes at their addresses, if names keep their addresses and a failure to connect comes only
with a change still to be seen. -/
theorem connections_converge {es : List WatcherEvent}
    (hsteady : Guarded (ConnectionWatcher.step localNodeId)
      (ConnectionWatcher.Steady localNodeId) .init es)
    (hrun : run (ConnectionWatcher.step localNodeId) .init es = some s)
    (hidle : s.phase = .idle) (hseen : s.unseen = false) : s.Converged localNodeId := by
  have hinv := run_invariant (I := Faithful localNodeId)
    (fun s e s' hs hP hstep => faithful_step hs hP hstep) faithful_init hsteady hrun
  exact hinv.converged hidle hseen

end

namespace ConnectionWatcher

def demoAddr (port : Nat) : SocketAddr := ⟨.v4 0x0A630002, port⟩

def demoRegister (port : Nat) : WatcherEvent :=
  .commit (.nodeRegister 2 ⟨"b"⟩ ⟨.v4 0x0A630002, 4400⟩ ⟨4, 4, 8192, 8192⟩ none none
    (some (demoAddr port)) none)

def demoRest (s : ConnectionWatcher) : WatcherPhase × Bool × Option SocketAddr :=
  (s.phase, s.unseen, s.wired.lookup ⟨"b"⟩)

def demoNew (e : WatcherEvent) : List WatcherEvent :=
  [.start, .read [], .rest, demoRegister 4402, .wake, .read [(⟨"b"⟩, demoAddr 4402)], e,
    .compare [], .rest]

def demoMoved : List WatcherEvent :=
  demoNew .connect ++
    [demoRegister 5502, .wake, .read [(⟨"b"⟩, demoAddr 5502)], .skip, .compare [], .rest]

theorem connections_converge_new :
    ∃ s : ConnectionWatcher, run (ConnectionWatcher.step (some ⟨"a"⟩)) .init
        (demoNew .connect) = some s ∧
      s.wired.lookup ⟨"b"⟩ = some (demoAddr 4402) ∧ s.Converged (some ⟨"a"⟩) := by
  refine exists_end (p := fun s => demoRest s = (.idle, false, some (demoAddr 4402)))
    (by decide +kernel) fun s hs hrest => ?_
  simp only [demoRest, Prod.mk.injEq] at hrest
  obtain ⟨hidle, hseen, hwired⟩ := hrest
  exact ⟨hwired, connections_converge (by decide +kernel) hs hidle hseen⟩

/-- A connection that failed is not tried again, and one to an address that a node no longer has
is kept. -/
theorem connections_diverge :
    (∃ s : ConnectionWatcher, run (ConnectionWatcher.step (some ⟨"a"⟩)) .init
        (demoNew .connectFails) = some s ∧
      s.phase = .idle ∧ s.unseen = false ∧ s.wired.lookup ⟨"b"⟩ = none ∧
      ¬ s.Converged (some ⟨"a"⟩)) ∧
    ∃ s : ConnectionWatcher, run (ConnectionWatcher.step (some ⟨"a"⟩)) .init demoMoved = some s ∧
      s.phase = .idle ∧ s.unseen = false ∧ s.wired.lookup ⟨"b"⟩ = some (demoAddr 4402) ∧
      ¬ s.Converged (some ⟨"a"⟩) := by
  have hnot {o : Option ConnectionWatcher} {wired : Option SocketAddr} (port : Nat)
      (h : ∃ s, o = some s ∧ demoRest s = (.idle, false, wired) ∧
        (⟨"b"⟩, demoAddr port) ∈ remoteNodes (some ⟨"a"⟩) s.fsm)
      (hother : wired ≠ some (demoAddr port)) : ∃ s, o = some s ∧ s.phase = .idle ∧
        s.unseen = false ∧ s.wired.lookup ⟨"b"⟩ = wired ∧ ¬ s.Converged (some ⟨"a"⟩) := by
    refine exists_end h fun s _ ⟨hrest, hnode⟩ => ?_
    simp only [demoRest, Prod.mk.injEq] at hrest
    obtain ⟨hidle, hseen, hwired⟩ := hrest
    refine ⟨hidle, hseen, hwired, fun hconverged => ?_⟩
    exact hother (hwired.symm.trans ((hconverged _ _).mpr hnode))
  exact ⟨hnot 4402 (by decide +kernel) (by decide), hnot 5502 (by decide +kernel) (by decide)⟩

end ConnectionWatcher

end Mill
