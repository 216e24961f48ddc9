import Mill.Config.Runtime
import Mill.Lib.Run

/-! The forwarder of DNS queries. All queries share one UDP socket: a task locks it, sends its
query and takes the next datagram as the answer, or gives up after three seconds. The socket is
not connected and a datagram is not compared with the query. -/

namespace Mill

open List Transition

structure Datagram where
  query : List UInt8
  bytes : List UInt8
deriving DecidableEq

inductive ForwardError
  | dnsProtocol
  | io
deriving DecidableEq

/-- A spawned task of `serve_loop`: a query that is not answered locally. -/
structure ForwardTask where
  src : SocketAddr
  query : List UInt8
deriving DecidableEq

/-- What is sent back to the client: the bytes that `forward` returned, or SERVFAIL. -/
inductive ForwardReply
  | answer (d : Datagram)
  | servFail
deriving DecidableEq

/-- The task that holds the lock of the socket, before and after `send_to`. -/
structure Exchange where
  task : ForwardTask
  sent : Bool
deriving DecidableEq

structure Forwarding where
  asked : List ForwardTask
  locking : List ForwardTask
  active : Option Exchange
  upstream : List (List UInt8)
  socket : List Datagram
  returned : List (ForwardTask × Except ForwardError Datagram)
  outbox : List (SocketAddr × ForwardReply)
deriving DecidableEq

/-- `answer` is a datagram of the upstream that arrives, however late; `timeout` is the timer of
`forward`, which is looked at after the socket. -/
inductive ForwardEvent
  | spawn (src : SocketAddr) (query : List UInt8)
  | lock (i : Nat)
  | sendTo
  | sendFailed
  | answer (query bytes : List UInt8)
  | recv
  | recvFailed
  | timeout
  | reply (i : Nat)
deriving DecidableEq

namespace Forwarding

def init : Forwarding := ⟨[], [], none, [], [], [], []⟩

/-- The buffer that `recv` reads into: a longer datagram is cut. -/
def bufferSize : Nat := 4096

def replyOf : Except ForwardError Datagram → ForwardReply
  | .ok d => .answer d
  | .error _ => .servFail

def step (s : Forwarding) : ForwardEvent → Option Forwarding
  | .spawn src query =>
    some { s with asked := s.asked ++ [⟨src, query⟩], locking := s.locking ++ [⟨src, query⟩] }
  | .lock i =>
    match s.active, s.locking[i]? with
    | none, some task =>
      some { s with active := some ⟨task, false⟩, locking := s.locking.eraseIdx i }
    | _, _ => none
  | .sendTo =>
    match s.active with
    | some ⟨task, false⟩ =>
      some { s with active := some ⟨task, true⟩, upstream := s.upstream ++ [task.query] }
    | _ => none
  | .sendFailed =>
    match s.active with
    | some ⟨task, false⟩ =>
      some { s with active := none, returned := s.returned ++ [(task, .error .io)] }
    | _ => none
  | .answer query bytes =>
    if query ∈ s.upstream then some { s with socket := s.socket ++ [⟨query, bytes⟩] } else none
  | .recv =>
    match s.active, s.socket with
    | some ⟨task, true⟩, d :: rest =>
      let buf : Datagram := { d with bytes := d.bytes.take bufferSize }
      some { s with active := none, socket := rest, returned := s.returned ++ [(task, .ok buf)] }
    | _, _ => none
  | .recvFailed =>
    match s.active with
    | some ⟨task, true⟩ =>
      some { s with active := none, returned := s.returned ++ [(task, .error .io)] }
    | _ => none
  | .timeout =>
    match s.active, s.socket with
    | some ⟨task, true⟩, [] =>
      some { s with active := none, returned := s.returned ++ [(task, .error .dnsProtocol)] }
    | _, _ => none
  | .reply i =>
    match s.returned[i]? with
    | some (task, result) =>
      some { s with
        returned := s.returned.eraseIdx i
        outbox := s.outbox ++ [(task.src, replyOf result)] }
    | none => none

structure Owned (s : Forwarding) : Prop where
  locking : ∀ task ∈ s.locking, task ∈ s.asked
  active : ∀ x ∈ s.active, x.task ∈ s.asked
  returned : ∀ task result, (task, result) ∈ s.returned → task ∈ s.asked

/-- What `forward` returns for a query is an answer to it: the datagram that it is about to read,
those that it has returned, and those that went on to a client. -/
structure Matched (s : Forwarding) : Prop where
  next : ∀ x ∈ s.active, x.sent = true → ∀ d ∈ s.socket.head?, d.query = x.task.query
  returned : ∀ task d, (task, .ok d) ∈ s.returned → d.query = task.query
  outbox : ∀ src d, (src, .answer d) ∈ s.outbox → ⟨src, d.query⟩ ∈ s.asked

def InTurn (s : Forwarding) : ForwardEvent → Prop
  | .sendTo => ∀ x ∈ s.active, ∀ d ∈ s.socket.head?, d.query = x.task.query
  | .answer query _ =>
    ∀ x ∈ s.active, x.sent = true → s.socket = [] → query = x.task.query
  | _ => True

instance (s : Forwarding) : DecidablePred s.InTurn := fun e => by
  unfold InTurn
  split <;> infer_instance

section

inductive Moves (s : Forwarding) : ForwardEvent → Forwarding → Prop
  | spawn (src : SocketAddr) (query : List UInt8) : Moves s (.spawn src query)
      { s with asked := s.asked ++ [⟨src, query⟩], locking := s.locking ++ [⟨src, query⟩] }
  | lock {i : Nat} {task : ForwardTask} (hfree : s.active = none) (hi : s.locking[i]? = some task) :
      Moves s (.lock i)
        { s with active := some ⟨task, false⟩, locking := s.locking.eraseIdx i }
  | sendTo {task : ForwardTask} (hactive : s.active = some ⟨task, false⟩) : Moves s .sendTo
      { s with active := some ⟨task, true⟩, upstream := s.upstream ++ [task.query] }
  | answer {query : List UInt8} (bytes : List UInt8) (hsent : query ∈ s.upstream) :
      Moves s (.answer query bytes)
        { s with socket := s.socket ++ [⟨query, bytes⟩] }
  | recv {task : ForwardTask} {d : Datagram} {rest : List Datagram}
      (hactive : s.active = some ⟨task, true⟩) (hsocket : s.socket = d :: rest) :
      Moves s .recv
        { s with
          active := none
          socket := rest
          returned := s.returned ++ [(task, .ok { d with bytes := d.bytes.take bufferSize })] }
  | fail {e : ForwardEvent} {task : ForwardTask} {sent : Bool} {error : ForwardError}
      (hactive : s.active = some ⟨task, sent⟩)
      (he : e = .sendFailed ∨ e = .recvFailed ∨ e = .timeout) :
      Moves s e { s with active := none, returned := s.returned ++ [(task, .error error)] }
  | reply {i : Nat} {task : ForwardTask} {result : Except ForwardError Datagram}
      (hi : s.returned[i]? = some (task, result)) : Moves s (.reply i)
      { s with
        returned := s.returned.eraseIdx i
        outbox := s.outbox ++ [(task.src, replyOf result)] }

variable {s s' : Forwarding}

lemma moves_of_step {e : ForwardEvent} (h : s.step e = some s') : s.Moves e s' := by
  cases e with
  | spawn src query =>
    cases h
    exact .spawn src query
  | sendFailed | recvFailed | timeout =>
    simp only [step] at h
    split at h <;> cases h
    exact .fail ‹_› (by simp)
  | answer query bytes =>
    simp only [step] at h
    split_ifs at h with hsent
    cases h
    exact .answer bytes hsent
  | _ =>
    simp only [step] at h
    split at h <;> cases h
    constructor <;> assumption

lemma mem_returned_concat {p : ForwardTask × Except ForwardError Datagram}
    {task : ForwardTask} {result : Except ForwardError Datagram}
    {l : List (ForwardTask × Except ForwardError Datagram)} :
    p ∈ l ++ [(task, result)] ↔ p ∈ l ∨ p = (task, result) := by
  rw [mem_append, mem_singleton]

lemma Owned.moves {e : ForwardEvent} (hs : s.Owned) (h : s.Moves e s') : s'.Owned := by
  cases h with
  | spawn src query =>
    have hmono : ∀ task ∈ s.asked, task ∈ s.asked ++ [⟨src, query⟩] :=
      fun task htask => mem_append_left _ htask
    refine ⟨?_, fun x hx => hmono _ (hs.active x hx), fun task result h =>
      hmono task (hs.returned task result h)⟩
    intro task htask
    rcases mem_append.mp htask with h | h
    · exact hmono task (hs.locking task h)
    · exact mem_append_right _ h
  | lock hfree hi =>
    refine ⟨fun task h => hs.locking task (mem_of_mem_eraseIdx h), ?_, hs.returned⟩
    intro x hx
    cases hx
    exact hs.locking _ (mem_of_getElem? hi)
  | @sendTo task hactive =>
    refine ⟨hs.locking, ?_, hs.returned⟩
    intro x hx
    cases hx
    exact hs.active ⟨task, false⟩ hactive
  | answer => exact ⟨hs.locking, hs.active, hs.returned⟩
  | recv hactive _ | fail hactive _ =>
    refine ⟨hs.locking, fun x hx => (nomatch hx), ?_⟩
    intro task result h
    rcases mem_returned_concat.mp h with h | h
    · exact hs.returned task result h
    · cases h
      exact hs.active _ hactive
  | reply =>
    exact ⟨hs.locking, hs.active, fun task result h =>
      hs.returned task result (mem_of_mem_eraseIdx h)⟩

lemma matched_moves_iff {e : ForwardEvent} (howned : s.Owned) (hs : s.Matched)
    (h : s.Moves e s') : s'.Matched ↔ s.InTurn e := by
  cases h with
  | spawn src =>
    refine iff_of_true ⟨hs.next, hs.returned, ?_⟩ trivial
    intro src d h
    exact mem_append_left _ (hs.outbox src d h)
  | lock =>
    refine iff_of_true ⟨?_, hs.returned, hs.outbox⟩ trivial
    intro x hx hsent
    cases hx
    cases hsent
  | @sendTo task hactive =>
    constructor
    · intro h x hx d hd
      rw [hactive] at hx
      cases hx
      exact h.next ⟨task, true⟩ rfl rfl d hd
    · intro hturn
      refine ⟨?_, hs.returned, hs.outbox⟩
      intro x hx _ d hd
      cases hx
      exact hturn ⟨task, false⟩ hactive d hd
  | @answer query bytes hsent =>
    constructor
    · intro h x hx hxsent hempty
      have hnext := h.next x hx hxsent
      rw [hempty] at hnext
      exact hnext ⟨query, bytes⟩ rfl
    · intro hturn
      refine ⟨?_, hs.returned, hs.outbox⟩
      intro x hx hxsent d hd
      cases hsocket : s.socket with
      | nil =>
        rw [hsocket] at hd
        cases hd
        exact hturn x hx hxsent hsocket
      | cons =>
        have hfirst : d ∈ s.socket.head? := by
          rw [hsocket] at hd ⊢
          exact hd
        exact hs.next x hx hxsent d hfirst
  | @recv task d rest hactive hsocket =>
    have hd : d.query = task.query := hs.next ⟨task, true⟩ hactive rfl d (by rw [hsocket]; rfl)
    refine iff_of_true ⟨fun x hx => (nomatch hx), ?_, hs.outbox⟩ trivial
    intro task' d' h
    rcases mem_returned_concat.mp h with h | h
    · exact hs.returned task' d' h
    · cases h
      exact hd
  | fail hactive he =>
    refine iff_of_true ⟨fun x hx => (nomatch hx), ?_, hs.outbox⟩ ?_
    · intro task d h
      rcases mem_returned_concat.mp h with h | h
      · exact hs.returned task d h
      · cases h
    · rcases he with rfl | rfl | rfl <;> trivial
  | @reply i task result hi =>
    have hmem : (task, result) ∈ s.returned := mem_of_getElem? hi
    refine iff_of_true ⟨hs.next, ?_, ?_⟩ trivial
    · intro task d h
      exact hs.returned task d (mem_of_mem_eraseIdx h)
    · intro src d h
      rcases mem_append.mp h with h | h
      · exact hs.outbox src d h
      · cases result with
        | error =>
          rw [mem_singleton] at h
          cases h
        | ok =>
          rw [mem_singleton] at h
          cases h
          rw [hs.returned task d hmem]
          exact howned.returned task _ hmem

end

/-- In a run of any clients, queries and delays, every datagram that `forward` reads or is about
to read is an answer to its own query, and no client is sent the answer to a query that it did
not ask, exactly if every step is in turn. -/
theorem matched_iff_inTurn {es : List ForwardEvent} {s : Forwarding}
    (hr : run step init es = some s) :
    Guarded step InTurn init es ↔ ∀ as t, as <+: es → run step init as = some t → t.Matched := by
  have howned : init.Owned := ⟨nofun, nofun, nofun⟩
  have hmatched : init.Matched := ⟨nofun, nofun, nofun⟩
  refine guarded_iff_forall_reached_of (Q := fun _ => True)
    (S := fun s => s.Owned ∧ s.Matched) ?_ ?_ ⟨howned, hmatched⟩ hmatched (fun _ _ => trivial) hr
  · rintro s e s' ⟨ho, hm⟩ - hturn h
    have hmoves : s.Moves e s' := moves_of_step h
    exact ⟨ho.moves hmoves, (matched_moves_iff ho hm hmoves).mpr hturn⟩
  · rintro s e s' ⟨ho, hm⟩ - h
    exact matched_moves_iff ho hm (moves_of_step h)

def demoClient (port : Nat) : SocketAddr := ⟨.v4 0x0A630001, port⟩

def demoLate : List ForwardEvent :=
  [.spawn (demoClient 1) [1], .lock 0, .sendTo, .timeout, .reply 0, .spawn (demoClient 2) [2],
    .lock 0, .sendTo, .answer [1] [11], .recv, .reply 0]

theorem late_answer_not_matched : ∃ s, run step init demoLate = some s ∧
      s.outbox = [(demoClient 1, .servFail), (demoClient 2, .answer ⟨[1], [11]⟩)] ∧
      ¬ s.Matched := by
  have hrun : (run step init demoLate).map (fun s => (s.outbox, s.asked)) =
      some ([(demoClient 1, .servFail), (demoClient 2, .answer ⟨[1], [11]⟩)],
        [⟨demoClient 1, [1]⟩, ⟨demoClient 2, [2]⟩]) := by decide +kernel
  obtain ⟨s, hs, hobs⟩ := Option.map_eq_some_iff.mp hrun
  obtain ⟨houtbox, hasked⟩ := Prod.mk.injEq _ _ _ _ ▸ hobs
  refine ⟨s, hs, houtbox, fun hmatched => ?_⟩
  have hmem : (demoClient 2, ForwardReply.answer ⟨[1], [11]⟩) ∈ s.outbox := by
    rw [houtbox]
    exact mem_cons_of_mem _ mem_cons_self
  have hown := hmatched.outbox _ _ hmem
  rw [hasked] at hown
  exact absurd hown (by decide)

def demoTimely : List ForwardEvent :=
  [.spawn (demoClient 1) [1], .spawn (demoClient 2) [2], .lock 0, .sendTo, .answer [1] [11], .recv,
    .lock 0, .sendTo, .reply 0, .answer [2] [22], .recv, .reply 0]

theorem timely_answers_matched : ∃ s, run step init demoTimely = some s ∧ s.Matched ∧ s.outbox =
      [(demoClient 1, .answer ⟨[1], [11]⟩), (demoClient 2, .answer ⟨[2], [22]⟩)] := by
  refine exists_end (p := fun s => s.outbox =
    [(demoClient 1, .answer ⟨[1], [11]⟩), (demoClient 2, .answer ⟨[2], [22]⟩)])
    (by decide +kernel) fun s hs houtbox => ⟨?_, houtbox⟩
  exact (matched_iff_inTurn hs).mp (by decide +kernel) demoTimely s prefix_rfl hs

end Forwarding

end Mill
