import Mathlib.Data.List.DropRight
import Mathlib.Logic.Function.Basic
import Mill.Lib.Run

/-! The path of the log lines of one running container: its buffer and the followers on the
secondary, the command loop, the command and report channels, and the clients of `stream_logs` on
the primary. A line is named by its position in the container's output. Receivers do not lag and
commands reach the node. -/

namespace Mill

namespace LogBuffer

variable {α : Type*}

def maxLines : Nat := 10000

/-- The second half of `push`; the line was broadcast before. -/
def store (buffer : List α) (line : α) : List α :=
  (if maxLines ≤ buffer.length then buffer.tail else buffer) ++ [line]

def tail (buffer : List α) (n : Nat) : List α := (buffer.reverse.take n).reverse

lemma foldl_store (lines : List α) : lines.foldl store [] = lines.rtake maxLines := by
  induction lines using List.reverseRecOn with
  | nil => exact (List.rtake_nil _).symm
  | append_singleton lines line ih =>
    have hpos : 0 < maxLines := Nat.succ_pos _
    rw [List.foldl_append, ih, List.foldl_cons, List.foldl_nil, store, List.rtake, List.rtake,
      List.length_drop, List.length_append, List.length_singleton,
      List.drop_append_of_le_length (by omega)]
    split_ifs with hfull
    · rw [List.tail_drop, show lines.length + 1 - maxLines = lines.length - maxLines + 1 by omega]
    · have hfew : lines.length < maxLines := by omega
      rw [Nat.sub_eq_zero_of_le hfew.le, Nat.sub_eq_zero_of_le hfew]

/-- The buffer is always the end of what was pushed, and so is the tail of it. -/
theorem tail_of_pushed (lines : List α) (n : Nat) :
    tail (lines.foldl store []) n = lines.rtake (min n (min maxLines lines.length)) ∧
      (lines.foldl store []).length ≤ maxLines := by
  rw [foldl_store, tail, ← List.rtake_eq_reverse_take_reverse]
  simp only [List.rtake, List.drop_drop, List.length_drop]
  refine ⟨congrArg (lines.drop ·) ?_, ?_⟩ <;> omega

end LogBuffer

/-- A task that LogFollow has spawned: the unread lines of its broadcast receiver, and the line
that it has taken and not yet put into the report channel. -/
structure Follower where
  queue : List Nat
  sending : Option Nat
  cancelled : Bool
  live : Bool
deriving DecidableEq

inductive LogSource
  | tail (client : Nat)
  | follower (index : Nat)
deriving DecidableEq

structure LogReport where
  source : LogSource
  lines : List Nat
deriving DecidableEq

inductive LogCommand
  | tail (client lines : Nat)
  | follow (client : Nat)
  | unfollow (client : Nat)
deriving DecidableEq

/-- The command loop: a tail that was read and is not sent yet, or a LogFollow that has cancelled
the follower before it and not subscribed yet. -/
inductive LogPc
  | idle
  | tail (client : Nat) (lines : List Nat)
  | follow (client : Nat)
deriving DecidableEq

def LogPc.isFollow : LogPc → Bool
  | .follow _ => true
  | .idle | .tail _ _ => false

inductive ClientPc
  | absent
  | subscribed
  | tailed
  | streaming
  | leaving
  | closing
  | done
deriving DecidableEq

structure Since where
  line : Nat
  follower : Nat
deriving DecidableEq

structure LogClient where
  follow : Bool
  tail : Nat
  pc : ClientPc
  channel : List (List Nat)
  received : List Nat
  seen : Nat
  since : Option Since
deriving DecidableEq

namespace LogClient

def absent : LogClient := ⟨false, 0, .absent, [], [], 0, none⟩

def handed (c : LogClient) : List Nat := c.received ++ c.channel.flatten

def closed (c : LogClient) : Bool := c.pc = .done

def following (c : LogClient) : Bool := c.since.isSome && c.pc = .streaming

end LogClient

structure LogSystem where
  /-- How many lines the container has written and `push` has broadcast. -/
  written : Nat
  pushing : Bool
  buffer : List Nat
  followers : Nat → Follower
  spawned : Nat
  /-- The follower whose token is in `log_follows`. -/
  current : Option Nat
  loop : LogPc
  commands : List LogCommand
  reports : List LogReport
  subscribers : List Nat
  clients : Nat → LogClient

/-- `stop` is a follower that sees its token cancelled; while lines are there as well, `select`
takes either. `leave` is the end of a client's loop. -/
inductive LogEvent
  | write
  | store
  | command
  | loop
  | recv (follower : Nat)
  | forward (follower : Nat)
  | stop (follower : Nat)
  | process
  | subscribe (client : Nat) (follow : Bool) (tail : Nat)
  | client (client : Nat)
  | take (client : Nat)
  | leave (client : Nat)
deriving DecidableEq

namespace LogSystem

def init : LogSystem where
  written := 0
  pushing := false
  buffer := []
  followers _ := ⟨[], none, false, false⟩
  spawned := 0
  current := none
  loop := .idle
  commands := []
  reports := []
  subscribers := []
  clients _ := .absent

def channelSize : Nat := 256

section

variable (s : LogSystem)

def setFollower (j : Nat) (f : Follower) : LogSystem :=
  { s with followers := Function.update s.followers j f }

def setClient (c : Nat) (client : LogClient) : LogSystem :=
  { s with clients := Function.update s.clients c client }

def openSubscribers : List Nat :=
  s.subscribers.filter fun c => !(s.clients c).closed

/-- The first half of `push`: the line goes to every receiver. -/
def broadcast : LogSystem :=
  { s with
    written := s.written + 1
    pushing := true
    followers := fun j =>
      let f := s.followers j
      if f.live then { f with queue := f.queue ++ [s.written] } else f }

def cancel : LogSystem :=
  { s with
    current := none
    followers := fun j =>
      let f := s.followers j
      if s.current = some j then { f with cancelled := true } else f }

def taken (c : Nat) (rest : List LogCommand) : LogSystem :=
  { s.setClient c { s.clients c with seen := (s.clients c).seen + 1 } with commands := rest }

def spawn (c : Nat) : LogSystem :=
  { (s.setFollower s.spawned ⟨[], none, false, true⟩).setClient c
      { s.clients c with since := some ⟨s.written, s.spawned⟩ } with
    loop := .idle
    current := some s.spawned
    spawned := s.spawned + 1 }

/-- `process_report` for LogLines. -/
def deliver (lines : List Nat) (rest : List LogReport) : LogSystem :=
  { s with
    reports := rest
    subscribers := s.openSubscribers
    clients := fun c =>
      let client := s.clients c
      if c ∈ s.openSubscribers ∧ client.channel.length < channelSize then
        { client with channel := client.channel ++ [lines] }
      else client }

/-! What each of them does to the clients and to the followers. -/

@[simp, grind =] lemma clients_setClient (d : Nat) (client : LogClient) (c : Nat) :
    (s.setClient d client).clients c = if c = d then client else s.clients c :=
  Function.update_apply ..

@[simp, grind =] lemma followers_setFollower (j : Nat) (f : Follower) (i : Nat) :
    (s.setFollower j f).followers i = if i = j then f else s.followers i :=
  Function.update_apply ..

@[grind =] lemma followers_setClient (d : Nat) (client : LogClient) (j : Nat) :
    (s.setClient d client).followers j = s.followers j := rfl

@[grind =] lemma clients_setFollower (j : Nat) (f : Follower) (c : Nat) :
    (s.setFollower j f).clients c = s.clients c := rfl

@[grind =] lemma followers_broadcast (j : Nat) :
    s.broadcast.followers j = if (s.followers j).live = true then
      { s.followers j with queue := (s.followers j).queue ++ [s.written] } else s.followers j := rfl

@[grind =] lemma followers_cancel (j : Nat) :
    s.cancel.followers j = if s.current = some j then
      { s.followers j with cancelled := true } else s.followers j := rfl

@[grind =] lemma clients_cancel (c : Nat) : s.cancel.clients c = s.clients c := rfl

@[grind =] lemma clients_broadcast (c : Nat) : s.broadcast.clients c = s.clients c := rfl

@[grind =] lemma clients_taken (d : Nat) (rest : List LogCommand) (c : Nat) :
    (s.taken d rest).clients c =
      if c = d then { s.clients d with seen := (s.clients d).seen + 1 } else s.clients c :=
  Function.update_apply ..

@[grind =] lemma followers_taken (d : Nat) (rest : List LogCommand) (j : Nat) :
    (s.taken d rest).followers j = s.followers j := rfl

@[grind =] lemma clients_spawn (d c : Nat) : (s.spawn d).clients c =
      if c = d then { s.clients d with since := some ⟨s.written, s.spawned⟩ } else s.clients c :=
  Function.update_apply ..

@[grind =] lemma followers_spawn (d j : Nat) : (s.spawn d).followers j =
      if j = s.spawned then ⟨[], none, false, true⟩ else s.followers j :=
  Function.update_apply ..

@[grind =] lemma clients_deliver (lines : List Nat) (rest : List LogReport) (c : Nat) :
    (s.deliver lines rest).clients c =
      if c ∈ s.openSubscribers ∧ (s.clients c).channel.length < channelSize then
        { s.clients c with channel := (s.clients c).channel ++ [lines] }
      else s.clients c := rfl

@[grind =] lemma followers_deliver (lines : List Nat) (rest : List LogReport) (j : Nat) :
    (s.deliver lines rest).followers j = s.followers j := rfl

attribute [grind] setFollower setClient broadcast cancel taken spawn deliver

def step : LogEvent → Option LogSystem
  | .write => if s.pushing then none else some s.broadcast
  | .store =>
    if s.pushing then
      some { s with pushing := false, buffer := LogBuffer.store s.buffer (s.written - 1) }
    else none
  | .command =>
    match s.loop, s.commands with
    | .idle, .tail c n :: rest =>
      some { s.taken c rest with loop := .tail c (LogBuffer.tail s.buffer n) }
    | .idle, .follow c :: rest => some { (s.taken c rest).cancel with loop := .follow c }
    | .idle, .unfollow c :: rest => some (s.taken c rest).cancel
    | _, _ => none
  | .loop =>
    match s.loop with
    | .idle => none
    | .tail c lines => some { s with loop := .idle, reports := s.reports ++ [⟨.tail c, lines⟩] }
    | .follow c => some (s.spawn c)
  | .recv j =>
    match s.followers j with
    | ⟨line :: queue, none, cancelled, true⟩ =>
      some (s.setFollower j ⟨queue, some line, cancelled, true⟩)
    | _ => none
  | .forward j =>
    match s.followers j with
    | ⟨queue, some line, cancelled, true⟩ =>
      some { s.setFollower j ⟨queue, none, cancelled, true⟩ with
        reports := s.reports ++ [⟨.follower j, [line]⟩] }
    | _ => none
  | .stop j =>
    match s.followers j with
    | ⟨queue, none, true, true⟩ => some (s.setFollower j ⟨queue, none, true, false⟩)
    | _ => none
  | .process =>
    match s.reports with
    | [] => none
    | r :: rest => some (s.deliver r.lines rest)
  | .subscribe c follow tail =>
    if (s.clients c).pc = .absent then
      some { s.setClient c { LogClient.absent with follow, tail, pc := .subscribed } with
        subscribers := s.subscribers ++ [c] }
    else none
  | .client c =>
    let client := s.clients c
    match client.pc with
    | .subscribed =>
      some { s.setClient c { client with pc := .tailed } with
        commands := s.commands ++ [.tail c client.tail] }
    | .tailed =>
      some { s.setClient c { client with pc := .streaming } with
        commands := s.commands ++ if client.follow then [.follow c] else [] }
    | .leaving =>
      some { s.setClient c { client with pc := .closing } with
        commands := s.commands ++ if client.follow then [.unfollow c] else [] }
    | .closing =>
      some { s.setClient c { client with pc := .done } with subscribers := s.openSubscribers }
    | .absent | .streaming | .done => none
  | .take c =>
    let client := s.clients c
    match client.pc, client.channel with
    | .streaming, lines :: rest =>
      some (s.setClient c { client with
        channel := rest
        received := client.received ++ lines
        pc := if client.follow then .streaming else .leaving })
    | _, _ => none
  | .leave c =>
    let client := s.clients c
    if client.pc = .streaming then some (s.setClient c { client with pc := .leaving }) else none

end

inductive Moves (s : LogSystem) : LogEvent → LogSystem → Prop
  | write : s.pushing = false → Moves s .write s.broadcast
  | store : s.pushing = true → Moves s .store
      { s with pushing := false, buffer := LogBuffer.store s.buffer (s.written - 1) }
  | readTail {c n : Nat} {rest : List LogCommand} : s.loop = .idle →
      s.commands = .tail c n :: rest →
      Moves s .command { s.taken c rest with loop := .tail c (LogBuffer.tail s.buffer n) }
  | follow {c : Nat} {rest : List LogCommand} : s.loop = .idle → s.commands = .follow c :: rest →
      Moves s .command { (s.taken c rest).cancel with loop := .follow c }
  | unfollow {c : Nat} {rest : List LogCommand} : s.loop = .idle →
      s.commands = .unfollow c :: rest → Moves s .command (s.taken c rest).cancel
  | sendTail {c : Nat} {lines : List Nat} : s.loop = .tail c lines →
      Moves s .loop { s with loop := .idle, reports := s.reports ++ [⟨.tail c, lines⟩] }
  | spawn {c : Nat} : s.loop = .follow c → Moves s .loop (s.spawn c)
  | recv {j line : Nat} {queue : List Nat} {cancelled : Bool} :
      s.followers j = ⟨line :: queue, none, cancelled, true⟩ →
      Moves s (.recv j) (s.setFollower j ⟨queue, some line, cancelled, true⟩)
  | forward {j line : Nat} {queue : List Nat} {cancelled : Bool} :
      s.followers j = ⟨queue, some line, cancelled, true⟩ →
      Moves s (.forward j) { s.setFollower j ⟨queue, none, cancelled, true⟩ with
        reports := s.reports ++ [⟨.follower j, [line]⟩] }
  | stop {j : Nat} {queue : List Nat} : s.followers j = ⟨queue, none, true, true⟩ →
      Moves s (.stop j) (s.setFollower j ⟨queue, none, true, false⟩)
  | process {r : LogReport} {rest : List LogReport} : s.reports = r :: rest →
      Moves s .process (s.deliver r.lines rest)
  | subscribe {c tail : Nat} {follow : Bool} : (s.clients c).pc = .absent →
      Moves s (.subscribe c follow tail)
        { s.setClient c { LogClient.absent with follow, tail, pc := .subscribed } with
          subscribers := s.subscribers ++ [c] }
  | askTail {c : Nat} : (s.clients c).pc = .subscribed → Moves s (.client c)
      { s.setClient c { s.clients c with pc := .tailed } with
        commands := s.commands ++ [.tail c (s.clients c).tail] }
  | askFollow {c : Nat} : (s.clients c).pc = .tailed → Moves s (.client c)
      { s.setClient c { s.clients c with pc := .streaming } with
        commands := s.commands ++ if (s.clients c).follow then [.follow c] else [] }
  | askUnfollow {c : Nat} : (s.clients c).pc = .leaving → Moves s (.client c)
      { s.setClient c { s.clients c with pc := .closing } with
        commands := s.commands ++ if (s.clients c).follow then [.unfollow c] else [] }
  | finish {c : Nat} : (s.clients c).pc = .closing → Moves s (.client c)
      { s.setClient c { s.clients c with pc := .done } with subscribers := s.openSubscribers }
  | take {c : Nat} {lines : List Nat} {rest : List (List Nat)} : (s.clients c).pc = .streaming →
      (s.clients c).channel = lines :: rest → Moves s (.take c) (s.setClient c { s.clients c with
          channel := rest
          received := (s.clients c).received ++ lines
          pc := if (s.clients c).follow then .streaming else .leaving })
  | leave {c : Nat} : (s.clients c).pc = .streaming →
      Moves s (.leave c) (s.setClient c { s.clients c with pc := .leaving })

variable {s s' : LogSystem} {e : LogEvent}

lemma moves_of_step (h : s.step e = some s') : s.Moves e s' := by
  cases e with
  | write =>
    rw [step] at h
    split at h <;> cases h
    exact .write (Bool.eq_false_iff.mpr ‹_›)
  | _ =>
    simp only [step] at h
    split at h <;> cases h
    all_goals constructor <;> assumption

/-- The followers: the one that is registered runs on, those that are not spawned yet do nothing,
and a line that was taken is in a task that still runs. -/
structure Wired (s : LogSystem) : Prop where
  current : ∀ j, s.current = some j →
    (s.followers j).live = true ∧ (s.followers j).cancelled = false
  fresh : ∀ j, s.spawned ≤ j → s.followers j = ⟨[], none, false, false⟩
  sending : ∀ j line, (s.followers j).sending = some line → (s.followers j).live = true
  waiting : ∀ c, s.loop = .follow c → s.current = none

lemma Wired.lt_spawned (h : s.Wired) {j : Nat} (hj : (s.followers j).live = true) :
    j < s.spawned := by
  by_contra hlt
  rw [h.fresh j (Nat.le_of_not_lt hlt)] at hj
  cases hj

lemma Wired.step (h : s.Wired) (hs : s.Moves e s') : s'.Wired := by
  have hlt : ∀ j, (s.followers j).live = true → j < s.spawned := fun _ => h.lt_spawned
  obtain ⟨hcurrent, hfresh, hsending, hwaiting⟩ := h
  cases hs <;> constructor <;> grind -linarith

lemma wired_init : init.Wired := ⟨nofun, fun _ _ => rfl, nofun, nofun⟩

end LogSystem

end Mill
