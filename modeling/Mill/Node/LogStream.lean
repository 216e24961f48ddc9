import Mill.Node.LogFollowers

/-! What one client receives that follows the logs of an allocation while others ask for tails. -/

namespace Mill

open List Transition

/-- A run of lines without a gap, up to the line before `n`. -/
def EndsAt (lines : List Nat) (n : Nat) : Prop := ∃ a ≤ n, lines = List.range' a (n - a)

lemma endsAt_nil (n : Nat) : EndsAt [] n := ⟨n, le_rfl, by rw [Nat.sub_self]; rfl⟩

lemma EndsAt.concat {lines : List Nat} {n : Nat} (h : EndsAt lines n) :
    EndsAt (lines ++ [n]) (n + 1) := by
  obtain ⟨a, ha, rfl⟩ := h
  have hend : a + (n - a) = n := Nat.add_sub_of_le ha
  refine ⟨a, Nat.le_succ_of_le ha, ?_⟩
  rw [Nat.succ_sub ha, List.range'_1_concat, hend]

lemma EndsAt.drop {lines : List Nat} {n : Nat} (h : EndsAt lines n) (k : Nat) :
    EndsAt (lines.drop k) n := by
  obtain ⟨a, ha, rfl⟩ := h
  rw [drop_range', Nat.mul_one]
  by_cases hk : k ≤ n - a
  · have hle : a + k ≤ n := by omega
    exact ⟨a + k, hle, by rw [Nat.sub_add_eq]⟩
  · have hzero : n - a - k = 0 := by omega
    rw [hzero]
    exact endsAt_nil n

lemma EndsAt.of_prefix {lines pre : List Nat} {n : Nat} (h : EndsAt lines n)
    (hpre : pre <+: lines) : ∃ a k, pre = List.range' a k := by
  obtain ⟨a, _, rfl⟩ := h
  obtain ⟨rest, hrest⟩ := hpre
  obtain ⟨k, _, hpre, _⟩ := List.range'_eq_append_iff.mp hrest.symm
  exact ⟨a, k, hpre⟩

namespace LogBuffer

lemma endsAt_store {buffer : List Nat} {n : Nat} (h : EndsAt buffer n) :
    EndsAt (store buffer n) (n + 1) := by
  rw [store]
  split
  · rw [← drop_one]
    exact (h.drop 1).concat
  · exact h.concat

lemma tail_eq_drop {α : Type*} (buffer : List α) (n : Nat) :
    tail buffer n = buffer.drop (buffer.length - n) := by
  rw [tail, take_reverse, reverse_reverse]

end LogBuffer

def LogCommand.client : LogCommand → Nat
  | .tail c _ | .follow c | .unfollow c => c

def LogCommand.isTailOf (c : Nat) : LogCommand → Bool
  | .tail d _ => d = c
  | .follow _ | .unfollow _ => false

def LogReport.isFor (c : Nat) (r : LogReport) : Bool :=
  match r.source with
  | .tail d => d = c
  | .follower _ => true

def LogPc.tailFor (c : Nat) : LogPc → List Nat
  | .tail d lines => if d = c then lines else []
  | .idle | .follow _ => []

def Follower.held (f : Follower) : List Nat := f.sending.toList ++ f.queue

def LogClient.sent (client : LogClient) (c : Nat) : List LogCommand :=
  match client.pc with
  | .absent | .subscribed => []
  | .tailed => [.tail c client.tail]
  | .streaming | .leaving => .tail c client.tail :: if client.follow then [.follow c] else []
  | .closing | .done =>
    .tail c client.tail :: if client.follow then [.follow c, .unfollow c] else []

def LogClient.active (client : LogClient) : Bool :=
  client.pc = .absent || client.pc = .subscribed || client.pc = .tailed || client.pc = .streaming

lemma LogClient.getElem?_sent {client : LogClient} {c i : Nat} {cmd : LogCommand}
    (h : (client.sent c)[i]? = some cmd) :
    (i = 0 ∧ cmd = .tail c client.tail) ∨ (i = 1 ∧ cmd = .follow c ∧ client.follow = true) ∨
      (i = 2 ∧ cmd = .unfollow c ∧ client.follow = true ∧ client.active = false) := by
  cases hpc : client.pc <;> cases hfollow : client.follow <;>
    grind [LogClient.sent, LogClient.active]

namespace LogSystem

variable {s s' : LogSystem} {e : LogEvent} {c : Nat} {rest : List LogCommand} {d n j : Nat}

def Fifo (s : LogSystem) (c : Nat) : Prop :=
  ∃ taken : List LogCommand, taken.length = (s.clients c).seen ∧
    taken ++ s.commands.filter (fun cmd => cmd.client = c) = (s.clients c).sent c

lemma Fifo.sent (h : s.Fifo c) (cmds : List LogCommand)
    (hseen : (s'.clients c).seen = (s.clients c).seen)
    (hcommands : s'.commands = s.commands ++ cmds)
    (hsent : (s'.clients c).sent c =
      (s.clients c).sent c ++ cmds.filter fun cmd => cmd.client = c) : s'.Fifo c := by
  obtain ⟨taken, hlen, happend⟩ := h
  refine ⟨taken, hlen.trans hseen.symm, ?_⟩
  rw [hcommands, hsent, ← happend, filter_append, append_assoc]

lemma Fifo.seen_eq_zero (h : s.Fifo c) (hsent : (s.clients c).sent c = []) :
    (s.clients c).seen = 0 := by
  obtain ⟨taken, hlen, happend⟩ := h
  rw [hsent] at happend
  rw [← hlen, (append_eq_nil_iff.mp happend).1]
  rfl

lemma Fifo.taken (h : s.Fifo c) {cmd : LogCommand}
    (hcommands : s.commands = cmd :: rest) (hs : s'.clients = (s.taken cmd.client rest).clients)
    (hrest : s'.commands = rest) : s'.Fifo c := by
  obtain ⟨taken, hlen, happend⟩ := h
  rw [hcommands] at happend
  rw [Fifo, hs, hrest, clients_taken]
  by_cases hc : cmd.client = c
  · subst hc
    rw [filter_cons_of_pos (by simp)] at happend
    refine ⟨taken ++ [cmd], by simp [hlen], ?_⟩
    rw [if_pos rfl, append_assoc]
    exact happend
  · rw [filter_cons_of_neg (by simpa using hc)] at happend
    exact ⟨taken, by rw [if_neg (Ne.symm hc), hlen], by rw [if_neg (Ne.symm hc), happend]⟩

lemma Fifo.step (h : s.Fifo c) (hs : s.Moves e s') : s'.Fifo c := by
  have hzero := h.seen_eq_zero
  cases hs with
  | readTail _ hcommands | follow _ hcommands | unfollow _ hcommands =>
    exact h.taken hcommands rfl rfl
  | askTail hpc | askFollow hpc | askUnfollow hpc =>
    refine h.sent _ (by grind) rfl ?_
    grind [LogClient.sent, LogCommand.client]
  | _ =>
    refine h.sent [] ?_ (append_nil _).symm ?_
    · grind [LogClient.sent, LogClient.absent]
    · grind [LogClient.sent]

lemma fifo_init (c : Nat) : init.Fifo c := ⟨[], rfl, rfl⟩

lemma Fifo.getElem?_sent {cmd : LogCommand} (h : s.Fifo d) (hcommands : s.commands = cmd :: rest)
    (hd : cmd.client = d) : ((s.clients d).sent d)[(s.clients d).seen]? = some cmd := by
  obtain ⟨taken, hlen, happend⟩ := h
  rw [← happend, ← hlen, hcommands, filter_cons_of_pos (by simpa using hd),
    List.getElem?_append_right le_rfl, Nat.sub_self]
  rfl

lemma Fifo.of_tail (h : s.Fifo d)
    (hcommands : s.commands = .tail d n :: rest) : (s.clients d).seen = 0 := by
  have hsent := h.getElem?_sent hcommands rfl
  rcases LogClient.getElem?_sent hsent with ⟨hi, _⟩ | ⟨_, hcmd, _⟩ | ⟨_, hcmd, _⟩
  · exact hi
  · cases hcmd
  · cases hcmd

lemma Fifo.of_follow (h : s.Fifo d) (hcommands : s.commands = .follow d :: rest) :
    (s.clients d).seen = 1 ∧ (s.clients d).follow = true := by
  have hsent := h.getElem?_sent hcommands rfl
  rcases LogClient.getElem?_sent hsent with ⟨_, hcmd⟩ | ⟨hi, _, hfollow⟩ | ⟨_, hcmd, _⟩
  · cases hcmd
  · exact ⟨hi, hfollow⟩
  · cases hcmd

lemma Fifo.of_unfollow (h : s.Fifo d) (hcommands : s.commands = .unfollow d :: rest) :
    (s.clients d).follow = true ∧ (s.clients d).active = false := by
  have hsent := h.getElem?_sent hcommands rfl
  rcases LogClient.getElem?_sent hsent with ⟨_, hcmd⟩ | ⟨_, hcmd, _⟩ | ⟨_, _, hleft⟩
  · cases hcmd
  · cases hcmd
  · exact hleft

def Buffered (s : LogSystem) : Prop :=
  ∃ stored, EndsAt s.buffer stored ∧ s.written = stored + s.pushing.toNat

lemma Buffered.step (h : s.Buffered) (hs : s.Moves e s') : s'.Buffered := by
  obtain ⟨stored, hbuffer, hwritten⟩ := h
  cases hs with
  | write hpushing =>
    rw [hpushing] at hwritten
    exact ⟨stored, hbuffer, congrArg (· + 1) hwritten⟩
  | store hpushing =>
    rw [hpushing] at hwritten
    have hlast : s.written - 1 = stored := by
      rw [hwritten]
      rfl
    refine ⟨stored + 1, ?_, hwritten⟩
    rw [hlast]
    exact LogBuffer.endsAt_store hbuffer
  | readTail _ _ | follow _ _ | unfollow _ _ | sendTail _ | spawn _ | recv _ | forward _ | stop _
  | process _ | subscribe _ | askTail _ | askFollow _ | askUnfollow _ | finish _ | take _ _
  | leave => exact ⟨stored, hbuffer, hwritten⟩

lemma buffered_init : init.Buffered := ⟨0, endsAt_nil 0, rfl⟩

lemma Buffered.endsAt_tail (h : s.Buffered) (hpushing : s.pushing = false) (n : Nat) :
    EndsAt (LogBuffer.tail s.buffer n) s.written := by
  obtain ⟨stored, hbuffer, hwritten⟩ := h
  rw [hpushing] at hwritten
  rw [LogBuffer.tail_eq_drop, hwritten]
  exact hbuffer.drop _

/-- The condition on the next step: no line is written between a client's tail and its follower,
and none is halfway pushed when the tail is read; the tails of others are not handed to it, and it
is the only one that follows. Its channel has room. -/
def Calm (s : LogSystem) (c : Nat) : LogEvent → Prop
  | .write => (s.clients c).seen = 0 ∨ (s.clients c).since.isSome = true
  | .command => s.pushing = true → ∀ cmd ∈ s.commands.head?, cmd.isTailOf c = false
  | .process => c ∈ s.openSubscribers → (s.clients c).channel.length < channelSize ∧
      ∀ r ∈ s.reports.head?, r.isFor c = false → r.lines = []
  | .subscribe d follow _ => follow = true ↔ d = c
  | _ => True

instance (s : LogSystem) (c : Nat) : DecidablePred (s.Calm c) := fun e => by
  unfold Calm
  split <;> infer_instance

def Undisturbed (c : Nat) (s : LogSystem) (e : LogEvent) : Prop :=
  (s.clients c).active = true → s.Calm c e

instance (c : Nat) (s : LogSystem) (e : LogEvent) : Decidable (s.Undisturbed c e) :=
  inferInstanceAs (Decidable (_ → _))

lemma active_of_moves (hs : s.Moves e s') (hactive : (s'.clients c).active = true) :
    (s.clients c).active = true := by
  have htaken := fun d rest => clients_taken s d rest c
  cases hs <;> grind [LogClient.active]

structure Stage (s : LogSystem) (c : Nat) : Prop where
  only : ∀ d, (s.clients d).follow = true → d = c
  spawned : s.spawned = (s.clients c).since.isSome.toNat
  since : (s.clients c).since.isSome = true → (s.clients c).seen = 2 ∧ s.current = some 0
  follow : ∀ d, s.loop = .follow d → d = c ∧ (s.clients c).seen = 2 ∧ (s.clients c).since = none
  tail : ∀ lines, s.loop = .tail c lines → (s.clients c).seen = 1

lemma Stage.since_eq_none (h : s.Stage c) (hseen : (s.clients c).seen ≠ 2) :
    (s.clients c).since = none := by
  by_contra hsome
  exact hseen (h.since (Option.isSome_iff_ne_none.mpr hsome)).1

lemma Stage.step (h : s.Stage c) (hfifo : ∀ d, s.Fifo d) (hactive : (s.clients c).active = true)
    (hcalm : s.Calm c e) (hs : s.Moves e s') : s'.Stage c := by
  have htaken := fun d rest i => clients_taken s d rest i
  have hnone := h.since_eq_none
  obtain ⟨honly, hspawned, hsince, hfollow, htail⟩ := h
  cases hs with
  | @readTail d n rest _ hcommands =>
    have hseen : (s.clients d).seen = 0 := (hfifo d).of_tail hcommands
    constructor <;> grind -linarith
  | @follow d rest _ hcommands =>
    obtain ⟨hseen, hfollows⟩ := (hfifo d).of_follow hcommands
    obtain rfl : d = c := honly d hfollows
    constructor <;> grind -linarith
  | @unfollow d rest _ hcommands =>
    obtain ⟨hfollows, hleft⟩ := (hfifo d).of_unfollow hcommands
    constructor <;> grind -linarith
  | @subscribe d tail follows hpc =>
    have hnew : follows = true ↔ d = c := hcalm
    have hseen : (s.clients d).seen = 0 := (hfifo d).seen_eq_zero (by rw [LogClient.sent, hpc])
    constructor <;> grind -linarith [LogClient.absent]
  | _ => constructor <;> grind -linarith

def reported (s : LogSystem) (c : Nat) : List Nat :=
  (s.reports.filter (·.isFor c)).flatMap (·.lines)

def content (s : LogSystem) (c : Nat) : List Nat :=
  (s.clients c).handed ++ s.reported c ++ s.loop.tailFor c ++ (s.followers 0).held

lemma content_eq {handed reported tail held : List Nat} (hhanded : (s.clients c).handed = handed)
    (hreported : s.reported c = reported) (htail : s.loop.tailFor c = tail)
    (hheld : (s.followers 0).held = held) : s.content c = handed ++ reported ++ tail ++ held := by
  rw [content, hhanded, hreported, htail, hheld]

lemma content_eq_nil (h : s.content c = []) : (s.clients c).handed = [] ∧ s.reported c = [] ∧
    s.loop.tailFor c = [] ∧ (s.followers 0).held = [] := by
  simpa only [content, append_eq_nil_iff, and_assoc] using h

structure Content (s : LogSystem) (c : Nat) : Prop where
  early : (s.clients c).seen = 0 → s.content c = []
  lines : EndsAt (s.content c) s.written

lemma Content.of_eq (h : s.Content c) (hcontent : s'.content c = s.content c)
    (hwritten : s'.written = s.written)
    (hseen : (s'.clients c).seen = 0 → (s.clients c).seen = 0) : s'.Content c where
  early hzero := hcontent.trans (h.early (hseen hzero))
  lines := by
    rw [hcontent, hwritten]
    exact h.lines

lemma Content.frame (h : s.Content c) (hwritten : s'.written = s.written)
    (hseen : (s'.clients c).seen = 0 → (s.clients c).seen = 0)
    (hhanded : (s'.clients c).handed = (s.clients c).handed) (hreports : s'.reports = s.reports)
    (htail : s'.loop.tailFor c = s.loop.tailFor c)
    (hheld : (s'.followers 0).held = (s.followers 0).held) : s'.Content c := by
  refine h.of_eq ?_ hwritten hseen
  rw [content, content, reported, reported, hhanded, hreports, htail, hheld]

lemma Stage.spawned_eq_zero (h : s.Stage c) (hnone : (s.clients c).since = none) :
    s.spawned = 0 := by
  rw [h.spawned, hnone]
  rfl

lemma Stage.eq_zero_of_live (h : s.Stage c) (hw : s.Wired) (hlive : (s.followers j).live = true) :
    j = 0 ∧ (s.clients c).since.isSome = true := by
  have hlt : j < s.spawned := hw.lt_spawned hlive
  rw [h.spawned] at hlt
  cases hsome : (s.clients c).since.isSome with
  | true =>
    rw [hsome] at hlt
    exact ⟨Nat.lt_one_iff.mp hlt, rfl⟩
  | false =>
    rw [hsome] at hlt
    exact absurd hlt (Nat.not_lt_zero j)

lemma Content.broadcast (h : s.Content c) (hstage : s.Stage c) (hw : s.Wired)
    (hcalm : (s.clients c).seen = 0 ∨ (s.clients c).since.isSome = true) :
    s.broadcast.Content c := by
  cases hsome : (s.clients c).since.isSome with
  | true =>
    -- the follower is there and gets the line
    obtain ⟨hseen, hcurrent⟩ := hstage.since hsome
    have hlive : (s.followers 0).live = true := (hw.current 0 hcurrent).1
    have hheld : (s.broadcast.followers 0).held = (s.followers 0).held ++ [s.written] := by
      simp only [LogSystem.broadcast, hlive, if_true, Follower.held, append_assoc]
    have hcontent : s.broadcast.content c = s.content c ++ [s.written] := by
      rw [content, content, hheld, ← append_assoc]
      rfl
    refine ⟨fun hzero => ?_, ?_⟩
    · cases hseen.symm.trans hzero
    · rw [hcontent]
      exact h.lines.concat
  | false =>
    -- nothing was read yet
    rw [hsome] at hcalm
    have hzero : (s.clients c).seen = 0 := hcalm.resolve_right Bool.false_ne_true
    have hnone : (s.clients c).since = none :=
      Option.isNone_iff_eq_none.mp (Option.isSome_eq_false_iff.mp hsome)
    have hfresh : s.followers 0 = ⟨[], none, false, false⟩ :=
      hw.fresh 0 (hstage.spawned_eq_zero hnone).le
    have hheld : s.broadcast.followers 0 = s.followers 0 := by
      simp only [LogSystem.broadcast, hfresh, Bool.false_eq_true, if_false]
    have hcontent : s.broadcast.content c = [] := by
      rw [← h.early hzero, content, content, hheld]
      rfl
    exact ⟨fun _ => hcontent, hcontent ▸ endsAt_nil _⟩

lemma Content.readTail (h : s.Content c) (hbuffered : s.Buffered) (hfifo : s.Fifo c)
    (hcommands : s.commands = .tail c n :: rest) (hcalm : s.pushing = false) :
    ({ s.taken c rest with loop := .tail c (LogBuffer.tail s.buffer n) } : LogSystem).Content
      c := by
  obtain ⟨hhanded, hreported, _, hheld⟩ :=
    content_eq_nil (h.early (hfifo.of_tail hcommands))
  have hhanded' : ((s.taken c rest).clients c).handed = [] := by grind [LogClient.handed]
  have hcontent : ({ s.taken c rest with loop := .tail c (LogBuffer.tail s.buffer n) } :
      LogSystem).content c = LogBuffer.tail s.buffer n :=
    Eq.trans (content_eq hhanded' hreported (if_pos rfl) hheld) (append_nil _)
  refine ⟨fun hzero => ?_, ?_⟩
  · grind
  · rw [hcontent]
    exact hbuffered.endsAt_tail hcalm n

lemma Content.sendTail (h : s.Content c) {lines : List Nat} (hloop : s.loop = .tail d lines) :
    ({ s with loop := .idle, reports := s.reports ++ [⟨.tail d, lines⟩] } : LogSystem).Content
      c := by
  refine h.of_eq ?_ rfl id
  by_cases hdc : d = c
  · subst hdc
    simp [content, reported, LogPc.tailFor, LogReport.isFor, hloop]
  · simp [content, reported, LogPc.tailFor, LogReport.isFor, hloop, hdc]

lemma Content.forward (h : s.Content c) (hstage : s.Stage c) (hw : s.Wired) {line : Nat}
    {queue : List Nat} {cancelled : Bool}
    (hj : s.followers j = ⟨queue, some line, cancelled, true⟩) :
    ({ s.setFollower j ⟨queue, none, cancelled, true⟩ with
      reports := s.reports ++ [⟨.follower j, [line]⟩] } : LogSystem).Content c := by
  obtain ⟨rfl, hsome⟩ := hstage.eq_zero_of_live hw (j := j) (by rw [hj])
  have hseen : (s.clients c).seen = 2 := (hstage.since hsome).1
  -- the client's tail was sent before its LogFollow was taken
  have htail : s.loop.tailFor c = [] := by
    cases hloop : s.loop with
    | idle => rfl
    | follow => rfl
    | tail d lines =>
      refine if_neg fun hdc => ?_
      subst hdc
      cases hseen.symm.trans (hstage.tail lines hloop)
  refine h.of_eq ?_ rfl id
  simp [content, reported, htail, Follower.held, hj, setFollower, LogReport.isFor]

lemma reported_eq {r : LogReport} {rest : List LogReport} (hreports : s.reports = r :: rest) :
    s.reported c =
      (if r.isFor c then r.lines else []) ++ (rest.filter (·.isFor c)).flatMap (·.lines) := by
  rw [reported, hreports]
  cases hfor : r.isFor c with
  | true =>
    rw [filter_cons_of_pos hfor]
    rfl
  | false =>
    rw [filter_cons_of_neg (by rw [hfor]; decide)]
    rfl

lemma Content.deliver (h : s.Content c) (hfifo : s.Fifo c) (hsubscribed : s.Subscribed c)
    (hactive : (s.clients c).active = true) {r : LogReport} {rest : List LogReport}
    (hreports : s.reports = r :: rest)
    (hcalm : c ∈ s.openSubscribers → (s.clients c).channel.length < channelSize ∧
      (r.isFor c = false → r.lines = [])) : (s.deliver r.lines rest).Content c := by
  have hreported := reported_eq (c := c) hreports
  by_cases hopen : c ∈ s.openSubscribers
  · obtain ⟨hroom, hother⟩ := hcalm hopen
    have hclient : (s.deliver r.lines rest).clients c =
        { s.clients c with channel := (s.clients c).channel ++ [r.lines] } :=
      if_pos ⟨hopen, hroom⟩
    have hlines : (if r.isFor c then r.lines else []) = r.lines := by
      cases hfor : r.isFor c with
      | true => rfl
      | false => exact (hother hfor).symm
    rw [hlines] at hreported
    refine h.of_eq ?_ rfl fun hzero => by rwa [hclient] at hzero
    have hhanded : ((s.deliver r.lines rest).clients c).handed =
        (s.clients c).handed ++ r.lines := by
      simp [hclient, LogClient.handed]
    refine (content_eq hhanded rfl rfl rfl).trans ?_
    rw [content, hreported]
    simp only [append_assoc]
    rfl
  · -- it has not begun, so that nothing is on its way to it
    have hclient : (s.deliver r.lines rest).clients c = s.clients c :=
      if_neg fun hc => hopen hc.1
    have hpc : (s.clients c).pc = .absent := by
      by_contra habsent
      have hdone : (s.clients c).pc ≠ .done := by
        intro hdone
        rw [LogClient.active, hdone] at hactive
        cases hactive
      exact hopen (mem_openSubscribers.mpr ⟨hsubscribed habsent hdone, hdone⟩)
    have hempty : s.content c = [] :=
      h.early (hfifo.seen_eq_zero (by rw [LogClient.sent, hpc]))
    obtain ⟨hhanded, hnone, htail, hheld⟩ := content_eq_nil hempty
    rw [hreported] at hnone
    have hrest : (s.deliver r.lines rest).reported c = [] := (append_eq_nil_iff.mp hnone).2
    have hhanded' : ((s.deliver r.lines rest).clients c).handed = [] := by
      rw [hclient]
      exact hhanded
    refine h.of_eq ?_ rfl fun hzero => by rwa [hclient] at hzero
    exact (content_eq hhanded' hrest htail hheld).trans hempty.symm

lemma Content.subscribe (h : s.Content c) (hfifo : s.Fifo c) {tail : Nat} {follow : Bool}
    (hpc : (s.clients c).pc = .absent) :
    ({ s.setClient c { LogClient.absent with follow, tail, pc := .subscribed } with
      subscribers := s.subscribers ++ [c] } : LogSystem).Content c := by
  have hzero : (s.clients c).seen = 0 := hfifo.seen_eq_zero (by rw [LogClient.sent, hpc])
  obtain ⟨_, hreported, htail, hheld⟩ := content_eq_nil (h.early hzero)
  have hhanded : ((s.setClient c
      { LogClient.absent with follow, tail, pc := .subscribed }).clients c).handed = [] := by
    simp [LogClient.handed, LogClient.absent]
  have hempty : ({ s.setClient c { LogClient.absent with follow, tail, pc := .subscribed } with
      subscribers := s.subscribers ++ [c] } : LogSystem).content c = [] :=
    Eq.trans (content_eq hhanded hreported htail hheld) rfl
  exact ⟨fun _ => hempty, hempty ▸ endsAt_nil _⟩

lemma Content.step (h : s.Content c) (hstage : s.Stage c) (hw : s.Wired) (hfifo : ∀ d, s.Fifo d)
    (hbuffered : s.Buffered) (hsubscribed : s.Subscribed c) (hactive : (s.clients c).active = true)
    (hcalm : s.Calm c e) (hs : s.Moves e s') : s'.Content c := by
  cases hs with
  | write => exact h.broadcast hstage hw hcalm
  | @readTail d n rest hidle hcommands =>
    by_cases hdc : d = c
    · subst hdc
      refine h.readTail hbuffered (hfifo d) hcommands ?_
      by_contra hpushing
      have hnot := hcalm (Bool.eq_true_of_not_eq_false hpushing) (.tail d n)
        (by rw [hcommands]; rfl)
      simp [LogCommand.isTailOf] at hnot
    · apply h.frame <;> grind [LogPc.tailFor]
  | sendTail hloop => exact h.sendTail hloop
  | @spawn d hloop =>
    -- its own LogFollow, and the first follower
    obtain ⟨rfl, _, hnone⟩ := hstage.follow d hloop
    have hzero : s.spawned = 0 := hstage.spawned_eq_zero hnone
    have hfresh : s.followers 0 = ⟨[], none, false, false⟩ := hw.fresh 0 hzero.le
    apply h.frame <;> grind [LogPc.tailFor, LogClient.handed, Follower.held]
  | @recv j line queue cancelled hj =>
    obtain ⟨rfl, _⟩ := hstage.eq_zero_of_live hw (j := j) (by rw [hj])
    refine h.frame rfl id rfl rfl rfl ?_
    simp [Follower.held, hj]
  | forward hj => exact h.forward hstage hw hj
  | @stop j queue hj =>
    -- the client has not left, so its follower is not cancelled
    obtain ⟨rfl, hsome⟩ := hstage.eq_zero_of_live hw (j := j) (by rw [hj])
    have hcancelled := (hw.current 0 (hstage.since hsome).2).2
    rw [hj] at hcancelled
    cases hcancelled
  | @process r rest hreports =>
    refine h.deliver (hfifo c) hsubscribed hactive hreports fun hopen => ?_
    obtain ⟨hroom, hother⟩ := hcalm hopen
    exact ⟨hroom, hother r (by rw [hreports]; rfl)⟩
  | @subscribe d tail follow hpc =>
    by_cases hdc : d = c
    · subst hdc
      exact h.subscribe (hfifo d) hpc
    · apply h.frame <;> grind
  | follow _ _ | unfollow _ _ | askTail _ | askFollow _ | askUnfollow _ | finish _ | leave _
  | take _ _ | store _ =>
    apply h.frame <;> grind [LogPc.tailFor, LogClient.handed, Follower.held]

structure Streamed (c : Nat) (s : LogSystem) : Prop where
  wired : s.Wired
  standing : s.Standing c
  fifo : ∀ d, s.Fifo d
  buffered : s.Buffered
  stage : (s.clients c).active = true → s.Stage c
  content : (s.clients c).active = true → s.Content c
  received : ∃ a n, (s.clients c).received = List.range' a n

lemma received_of_moves (hs : s.Moves e s') :
    (s'.clients c).received = (s.clients c).received ∨ (s'.clients c).received = [] ∨
      ((s.clients c).active = true ∧ (s'.clients c).received <+: (s.clients c).handed) := by
  have htaken := fun d rest => clients_taken s d rest c
  cases hs <;> grind [LogClient.active, LogClient.handed, LogClient.absent]

lemma Streamed.step (h : s.Streamed c) (hcalm : s.Undisturbed c e) (hs : s.step e = some s') :
    s'.Streamed c := by
  have hmoves : s.Moves e s' := moves_of_step hs
  refine ⟨h.wired.step hmoves, h.standing.step hmoves, fun d => (h.fifo d).step hmoves,
    h.buffered.step hmoves, fun hactive => ?_, fun hactive => ?_, ?_⟩
  · have hbefore : (s.clients c).active = true := active_of_moves hmoves hactive
    exact (h.stage hbefore).step h.fifo hbefore (hcalm hbefore) hmoves
  · have hbefore : (s.clients c).active = true := active_of_moves hmoves hactive
    exact (h.content hbefore).step (h.stage hbefore) h.wired h.fifo h.buffered
      h.standing.subscribed hbefore (hcalm hbefore) hmoves
  · rcases received_of_moves (c := c) hmoves with hsame | hnil | ⟨hactive, hpre⟩
    · rw [hsame]
      exact h.received
    · rw [hnil]
      exact ⟨0, 0, rfl⟩
    · have hhanded : (s.clients c).handed <+: s.content c := by
        rw [LogSystem.content, append_assoc, append_assoc]
        exact prefix_append ..
      exact (h.content hactive).lines.of_prefix (hpre.trans hhanded)

lemma streamed_init (c : Nat) : init.Streamed c where
  wired := wired_init
  standing := standing_init c
  fifo := fifo_init
  buffered := buffered_init
  stage _ := ⟨nofun, rfl, nofun, nofun, nofun⟩
  content _ := ⟨fun _ => rfl, endsAt_nil 0⟩
  received := ⟨0, 0, rfl⟩

/-- In a run that leaves the client undisturbed it receives a contiguous run of the container's
lines, each once and in order. -/
theorem follow_stream_contiguous {c : Nat} {es : List LogEvent} {s : LogSystem}
    (hr : run step init es = some s) (hcalm : Guarded step (Undisturbed c) init es) :
    ∃ a n, (s.clients c).received = List.range' a n := by
  have hstreamed : s.Streamed c := run_invariant (I := Streamed c)
    (fun _ _ _ h hcalm hs => h.step hcalm hs) (streamed_init c) hcalm hr
  exact hstreamed.received

def demoGap : List LogEvent :=
  [.write, .store, .subscribe 0 true 10, .client 0, .client 0, .command, .loop, .write, .store,
    .command, .loop, .write, .store, .recv 0, .forward 0, .process, .process, .take 0, .take 0]

theorem line_between_tail_and_follow_skipped :
    ∃ s, run step init demoGap = some s ∧ (s.clients 0).received = [0, 2] ∧
      ¬ ∃ a n, (s.clients 0).received = List.range' a n := by
  refine exists_end_and (by decide +kernel) fun s _ hreceived => ?_
  rintro ⟨a, n, hrange⟩
  rw [hreceived] at hrange
  have hlen : n = 2 := by simpa using (congrArg List.length hrange).symm
  subst hlen
  simp [List.range'] at hrange
  omega

def demoStream : List LogEvent :=
  [.write, .store, .subscribe 0 true 10, .client 0, .client 0, .command, .loop, .command, .loop,
    .subscribe 1 false 0, .client 1, .client 1, .write, .command, .store, .loop, .recv 0,
    .forward 0, .write, .store, .recv 0, .forward 0, .process, .process, .process, .process,
    .take 0, .take 0, .take 0, .take 0]

theorem follow_stream_contiguous_demo :
    ∃ s, run step init demoStream = some s ∧ (s.clients 0).received = [0, 1, 2] ∧
      ∃ a n, (s.clients 0).received = List.range' a n := by
  exact exists_end_and (by decide +kernel) fun s hs _ =>
    follow_stream_contiguous hs (by decide +kernel)

end LogSystem

end Mill
