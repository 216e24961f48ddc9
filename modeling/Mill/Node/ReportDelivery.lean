import Mill.Lib.Account
import Mill.Node.ReportWiring

/-! When the reports of a secondary reach the leader. -/

namespace Mill

open Account List Option Transition

variable {C R : Type}

def Handler.load (x : Handler C R) : Multiset R × ℕ := atLevel 2 x.state.held

def RpcServer.load (s : RpcServer C R) : Multiset R × ℕ :=
  atLevel 3 s.reports + (s.handlers.map Handler.load).sum

def Feed.load : Feed C R → Multiset R × ℕ
  | inProcess reports hand => atLevel 3 reports + atLevel 2 hand.toList
  | rpc server _ => server.load

def Daemon.load (x : Daemon C R) : Multiset R × ℕ := x.feed.load + atLevel 1 x.fanIn

def Reporting.load (s : Reporting C R) : Multiset R × ℕ := (s.daemons.map Daemon.load).sum

lemma loaded_server (s : RpcServer C R) : Loaded s.load :=
  (loaded_atLevel 2 _).add (loaded_sum (fun _ => loaded_atLevel 1 _) _)

lemma loaded_feed : ∀ f : Feed C R, Loaded f.load
  | .inProcess _ _ => (loaded_atLevel 2 _).add (loaded_atLevel 1 _)
  | .rpc server _ => loaded_server server

lemma loaded_daemon (x : Daemon C R) : Loaded x.load :=
  (loaded_feed x.feed).add (loaded_atLevel 0 _)

lemma loaded_reporting (s : Reporting C R) : Loaded s.load := loaded_sum loaded_daemon _

def Reporting.backlog (s : Reporting C R) : ℕ := s.load.2

/-- A report is emitted only while the reports of its secondary go to the leader; the leader
changes only when no report is under way; and a daemon stops only when no report is under way from
it, or to it. -/
def Reporting.Steady (s : Reporting C R) : ReportingEvent C R → Prop
  | .emit d _ => s.leader.isSome = true ∧ s.sink d = s.leader
  | .lead leader => leader = s.leader ∨ s.backlog = 0
  | .stop d => (∀ x ∈ s.daemons[d]?, x.feed.load.2 = 0) ∧ (s.leader = some d → s.backlog = 0)
  | _ => True

instance Reporting.decidableSteady (s : Reporting C R) : ∀ e, Decidable (s.Steady e) := fun e => by
  unfold Steady
  split <;> infer_instance

def ServerEvent.isTake : ServerEvent C R → Bool
  | .take _ => true
  | _ => false

def ReportingEvent.isDelivery : ReportingEvent C R → Bool
  | .drain _ => true
  | .forward _ => true
  | .serve _ e => e.isTake
  | .written _ _ => true
  | .process _ => true
  | _ => false

section

variable {s s' : RpcServer C R} {h : Nat} {x y : Handler C R}

lemma RpcServer.load_set {outflow inflow : Multiset R × ℕ} (hx : s.handlers[h]? = some x)
    (hreports : s'.reports = s.reports) (hhandlers : s'.handlers = s.handlers.set h y)
    (hy : y.load + outflow = x.load + inflow) : s'.load + outflow = s.load + inflow := by
  have hsum := List.sum_map_set_add Handler.load hx hy
  simp only [load, hreports, hhandlers]
  rw [add_assoc, hsum, add_assoc]

lemma RpcServer.load_eq (hx : s.handlers[h]? = some x) (hreports : s'.reports = s.reports)
    (hhandlers : s'.handlers = s.handlers.set h y) (hy : y.load = x.load) : s'.load = s.load := by
  have hset := load_set hx hreports hhandlers (congrArg (· + 0) hy)
  simpa using hset

lemma RpcServer.load_take (hdoes : s.Does (.take h) s') : s'.load + (0, 1) = s.load := by
  cases hdoes with
  | take hx hstate hreports =>
    rename_i x r reports
    have hx' : Handler.load { x with state := .writing r } + (0, 1) = x.load + atLevel 3 [r] := by
      simp [Handler.load, hstate, atLevel_succ]
    have hsum := List.sum_map_set_add Handler.load hx hx'
    simp only [load, setHandler, hreports] at hsum ⊢
    rw [add_assoc, hsum, atLevel_cons 3 r reports]
    abel

lemma RpcServer.load_written (hx : s.handlers[h]? = some x)
    (hdoes : s.Does (.written h) s') : s'.load + atLevel 2 x.state.held = s.load := by
  cases hdoes with
  | written hy =>
    cases hx.symm.trans hy
    have hx' : Handler.load { x with state := .holding } + atLevel 2 x.state.held = x.load + 0 := by
      simp [Handler.load]
    have hset : (s.setHandler h { x with state := .holding }).load + atLevel 2 x.state.held =
        s.load + 0 := load_set hx rfl rfl hx'
    exact hset.trans (add_zero _)

lemma RpcServer.writing_of_written (hx : s.handlers[h]? = some x)
    (hdoes : s.Does (.written h) s') : (∃ r, x.state = .writing r) ∧ s'.holder = s.holder := by
  cases hdoes with
  | written hy hstate =>
    cases hx.symm.trans hy
    exact ⟨⟨_, hstate⟩, rfl⟩

lemma RpcServer.load_put {r : R} (hdoes : s.Does (.put r) s') :
    s'.load = s.load + atLevel 3 [r] ∧ s'.holder = s.holder := by
  cases hdoes with
  | put =>
    refine ⟨?_, rfl⟩
    simp only [load, atLevel_append]
    abel

lemma RpcServer.load_accept (hdoes : s.Does .accept s') :
    s'.load = s.load ∧ s'.holder = s.holder := by
  cases hdoes with
  | accept => exact ⟨by simp [load, Handler.load], rfl⟩

lemma RpcServer.load_served {e : ServerEvent C R} (he : e.isServed = true)
    (hother : e.isTake = false) (hdoes : s.Does e s') : s'.load = s.load := by
  cases hdoes with
  | take => cases hother
  | authFails hx hstate | authenticated hx hstate hreader | acquire hx hstate hholder =>
    refine load_eq hx rfl rfl ?_
    simp [Handler.load, hstate]
  | arrive hx hreader | give hx hreader | readerEnds hx hreader | abort hx hreader =>
    refine load_eq hx rfl rfl ?_
    rfl
  | _ => cases he

lemma RpcServer.holder_served {e : ServerEvent C R} (he : e.isServed = true)
    (hdoes : s.Does e s') : s'.holder = s.holder ∨ s.holder = none := by
  cases hdoes with
  | acquire hx hstate hholder => exact .inr hholder
  | writeFails => cases he
  | reportsEnd => cases he
  | cancelled => cases he
  | _ => exact .inl rfl

lemma RpcServer.load_ne_zero {m : Multiset R × ℕ}
    (hload : s'.load + m = s.load) (hne : s'.load ≠ 0) : s.load ≠ 0 := by
  intro hzero
  rw [hzero] at hload
  have hsnd : (s'.load + m).2 = 0 := congrArg Prod.snd hload
  exact hne (loaded_server s' (Nat.add_eq_zero_iff.mp hsnd).1)

end

section

/-- Daemon `d` while `leader` leads: what is under way from it goes to the leader, and what waits
in it waits at the leader. -/
structure Daemon.Routed (leader : Option Nat) (d : Nat) (x : Daemon C R) : Prop where
  down : x.up = false → x.load = 0
  feed : x.feed.load ≠ 0 → leader.isSome = true ∧ x.feed.sink d = leader
  fanIn : x.fanIn ≠ [] → leader = some d
  locked : ∀ server owners, x.feed = .rpc server owners → server.Locked

structure Reporting.Routed (s : Reporting C R) : Prop where
  daemons : ∀ (d : Nat) (x : Daemon C R), s.daemons[d]? = some x → x.Routed s.leader d
  leader : ∀ l, s.leader = some l → s.isUp l = true
  handled : ∀ t ∈ s.handled, t.leader = some t.processor

variable {s s' : Reporting C R} {x y : Daemon C R} {d p : Nat}

lemma Daemon.idle_of_load (hload : x.load.2 = 0) : x.feed.load = 0 ∧ x.fanIn = [] := by
  obtain ⟨hfeed, hfanIn⟩ := (loaded_feed x.feed).eq_zero_of_add (loaded_atLevel 0 x.fanIn) hload
  have hlist : (x.fanIn : Multiset R) = 0 := congrArg Prod.fst hfanIn
  exact ⟨hfeed, (Multiset.coe_eq_zero _).mp hlist⟩

lemma Daemon.Routed.idle {leader leader' : Option Nat}
    (hx : x.Routed leader d) (hload : x.load.2 = 0) : x.Routed leader' d := by
  obtain ⟨hfeed, hfanIn⟩ := idle_of_load hload
  exact ⟨hx.down, fun h => absurd hfeed h, fun h => absurd hfanIn h, hx.locked⟩

lemma Reporting.load_of_backlog (hx : s.daemons[d]? = some x)
    (hload : s.backlog = 0) : x.load.2 = 0 := by
  rw [eq_zero_of_sum loaded_daemon hload x (mem_of_getElem? hx)]
  rfl

lemma Reporting.isUp_iff : s.isUp d = true ↔ ∃ x, s.daemons[d]? = some x ∧ x.up = true := by
  simp only [isUp, Option.any_eq_true]

lemma Reporting.isUp_set {l : Nat} (hx : s.daemons[d]? = some x)
    (hdaemons : s'.daemons = s.daemons.set d y) (hup : y.up = x.up) (hl : s.isUp l = true) :
    s'.isUp l = true := by
  refine isUp_iff.mpr ?_
  rw [hdaemons]
  exact List.exists_getElem?_set hx (isUp_iff.mp hl) fun _ hxup => hup.trans hxup

lemma Reporting.Routed.set (hs : s.Routed)
    (hx : s.daemons[d]? = some x) (hdaemons : s'.daemons = s.daemons.set d y)
    (hleader : s'.leader = s.leader) (hup : y.up = x.up) (hy : y.Routed s.leader d)
    (hhandled : ∀ t ∈ s'.handled, t.leader = some t.processor) : s'.Routed := by
  refine ⟨fun k z hz => ?_, fun l hl => ?_, hhandled⟩
  · rw [hdaemons] at hz
    rw [hleader]
    rcases List.of_getElem?_set hz with ⟨rfl, rfl⟩ | ⟨_, hz⟩
    · exact hy
    · exact hs.daemons k z hz
  · rw [hleader] at hl
    exact isUp_set hx hdaemons hup (hs.leader l hl)

lemma Reporting.Routed.setFeed {feed : Feed C R} (hs : s.Routed) (hx : s.daemons[d]? = some x)
    (hup : x.up = true) (hfeed : feed.load ≠ 0 → s.leader.isSome = true ∧ feed.sink d = s.leader)
    (hlocked : ∀ server owners, feed = .rpc server owners → server.Locked) :
    (s.setDaemon d { x with feed }).Routed := by
  have hold := hs.daemons d x hx
  refine hs.set hx rfl rfl rfl ⟨fun hdown => ?_, hfeed, hold.fanIn, hlocked⟩ hs.handled
  cases hup.symm.trans hdown

lemma Reporting.Routed.start {nodeId : NodeId} {feed : Feed C R} (hs : s.Routed)
    (hload : feed.load = 0) (hlocked : ∀ server owners, feed = .rpc server owners → server.Locked) :
    (s.start nodeId feed).Routed := by
  refine ⟨fun k z hz => ?_, fun l hl => ?_, hs.handled⟩
  · rcases List.of_getElem?_concat hz with hz | ⟨_, rfl⟩
    · exact hs.daemons k z hz
    · exact ⟨nofun, fun h => absurd hload h, fun h => absurd rfl h, hlocked⟩
  · obtain ⟨z, hz, hup⟩ := isUp_iff.mp (hs.leader l hl)
    exact isUp_iff.mpr ⟨z, List.getElem?_append_of_some hz, hup⟩

lemma Reporting.Routed.arrive {reports : List R} (hs : s.Routed)
    (hp : s.leader = some p) : (s.arrive p reports).Routed := by
  obtain ⟨x, hx, hup⟩ := isUp_iff.mp (hs.leader p hp)
  have hold := hs.daemons p x hx
  simp only [Reporting.arrive, hx]
  refine hs.set hx rfl rfl rfl ⟨fun hdown => ?_, hold.feed, fun _ => hp, hold.locked⟩ hs.handled
  cases hup.symm.trans hdown

lemma Reporting.Routed.serve {server server' : RpcServer C R}
    {owners : List Nat} {e : ServerEvent C R} (hs : s.Routed) (hx : s.daemons[d]? = some x)
    (hup : x.up = true) (hfeed : x.feed = .rpc server owners) (hdoes : server.Does e server')
    (hload : server'.load ≠ 0 → server.load ≠ 0)
    (hholder : server'.holder = server.holder ∨ server.holder = none) :
    (s.setDaemon d { x with feed := .rpc server' owners }).Routed := by
  have hold := hs.daemons d x hx
  have hlocked := hold.locked server owners hfeed
  refine hs.setFeed hx hup (fun h => ?_) ?_
  · obtain ⟨hsome, hsink⟩ := hold.feed (by rw [hfeed]; exact hload h)
    rw [hfeed] at hsink
    refine ⟨hsome, ?_⟩
    rcases hholder with heq | hnone
    · simpa only [Feed.sink, heq] using hsink
    · -- reports under way have a holder that they go to
      rw [← hsink] at hsome
      simp [Feed.sink, hnone] at hsome
  · rintro _ _ ⟨⟩
    exact hlocked.step hdoes

lemma Reporting.Routed.writing {h : Nat} {server : RpcServer C R}
    {owners : List Nat} {y : Handler C R} {r : R} (hs : s.Routed) (hx : s.daemons[d]? = some x)
    (hfeed : x.feed = .rpc server owners) (hy : server.handlers[h]? = some y)
    (hstate : y.state = .writing r) (hp : owners[h]? = some p) : s.leader = some p := by
  have hold := hs.daemons d x hx
  have hload : x.feed.load ≠ 0 := by
    rw [hfeed]
    intro hzero
    have hhandlers := ((loaded_atLevel 2 server.reports).eq_zero_of_add
      (loaded_sum (fun _ => loaded_atLevel 1 _) _) (congrArg Prod.snd hzero)).2
    have hy' := eq_zero_of_sum (f := Handler.load) (fun _ => loaded_atLevel 1 _)
      (congrArg Prod.snd hhandlers) y (mem_of_getElem? hy)
    simp [Handler.load, hstate, atLevel] at hy'
  have hholder := (hold.locked server owners hfeed).locked h y hy (by rw [hstate]; rfl)
  have hsink := (hold.feed hload).2
  rw [hfeed] at hsink
  simpa [Feed.sink, hholder, hp] using hsink.symm

end

section

def ReportingEvent.adds : ReportingEvent C R → Multiset R × ℕ
  | .emit _ r => atLevel 3 [r]
  | _ => 0

def Reporting.account (s : Reporting C R) : Multiset R × ℕ :=
  s.load + atLevel 0 (s.handled.map Handled.report)

/-- A step keeps the reports on their way to the leader, loses none, and brings one of them a step
further if it is a delivery. -/
structure Reporting.Kept (s : Reporting C R) (e : ReportingEvent C R) (s' : Reporting C R) :
    Prop where
  routed : s'.Routed
  account : s'.account + (0, e.isDelivery.toNat) = s.account + e.adds
  emitted : s'.emitted = e.adds.1 + s.emitted

variable {s s' : Reporting C R} {e : ReportingEvent C R} {d p h : Nat} {x y : Daemon C R} {r : R}
  {reports : List R}

lemma Reporting.account_set {outflow inflow : Multiset R × ℕ} (hx : s.daemons[d]? = some x)
    (hdaemons : s'.daemons = s.daemons.set d y) (hhandled : s'.handled = s.handled)
    (hy : y.load + outflow = x.load + inflow) : s'.account + outflow = s.account + inflow := by
  have hsum := List.sum_map_set_add Daemon.load hx hy
  simp only [account, load, hdaemons, hhandled]
  rw [add_right_comm, hsum, add_right_comm]

lemma Reporting.kept_start {nodeId : NodeId} {feed : Feed C R} (hs : s.Routed)
    (hload : feed.load = 0) (hlocked : ∀ server owners, feed = .rpc server owners → server.Locked)
    (hdelivery : e.isDelivery = false) (hadds : e.adds = 0) : s.Kept e (s.start nodeId feed) := by
  refine ⟨hs.start hload hlocked, ?_, ?_⟩
  · have hnew : (s.start nodeId feed).load = s.load := by
      simp [load, Reporting.start, Daemon.load, hload]
    have haccount : (s.start nodeId feed).account = s.account := congrArg (· + _) hnew
    rw [haccount, hdelivery, hadds]
    rfl
  · rw [hadds]
    exact (zero_add _).symm

lemma Reporting.kept_stop (hs : s.Routed)
    (hsteady : s.Steady (.stop d)) (hx : s.daemons[d]? = some x) :
    s.Kept (.stop d) { s.setDaemon d ⟨x.nodeId, false, .inProcess [] none, []⟩ with
      leader := if s.leader = some d then none else s.leader } := by
  have hold := hs.daemons d x hx
  have hfanIn : x.fanIn = [] := by
    by_contra hne
    exact hne (Daemon.idle_of_load (load_of_backlog hx (hsteady.2 (hold.fanIn hne)))).2
  have hload : x.load = 0 := by
    have hfeed := loaded_feed x.feed (hsteady.1 x hx)
    simp [Daemon.load, hfeed, hfanIn]
  have hempty : Daemon.load (⟨x.nodeId, false, .inProcess [] none, []⟩ : Daemon C R) = 0 := by
    simp [Daemon.load, Feed.load]
  refine ⟨⟨fun k z hz => ?_, fun l hl => ?_, hs.handled⟩, ?_, ?_⟩
  · rcases List.of_getElem?_set hz with ⟨rfl, rfl⟩ | ⟨_, hz⟩
    · refine ⟨fun _ => hempty, fun h => absurd ?_ h, fun h => absurd rfl h, nofun⟩
      simp [Feed.load]
    · by_cases hlead : s.leader = some d
      · exact (hs.daemons k z hz).idle (load_of_backlog hz (hsteady.2 hlead))
      · simpa only [if_neg hlead] using hs.daemons k z hz
  · split_ifs at hl with hlead
    have hne : d ≠ l := by
      rintro rfl
      exact hlead hl
    obtain ⟨z, hz, hup⟩ := isUp_iff.mp (hs.leader l hl)
    exact isUp_iff.mpr ⟨z, (List.getElem?_set_ne hne).trans hz, hup⟩
  · exact account_set hx rfl rfl (by rw [hempty, hload]; rfl)
  · exact (zero_add _).symm

lemma Reporting.kept_lead {leader : Option Nat} (hs : s.Routed)
    (hsteady : s.Steady (.lead leader)) (hup : leader.all s.isUp = true) :
    s.Kept (.lead leader) { s with leader } := by
  refine ⟨⟨fun k z hz => ?_, fun l hl => ?_, hs.handled⟩, rfl, (zero_add _).symm⟩
  · rcases hsteady with rfl | hload
    · exact hs.daemons k z hz
    · exact (hs.daemons k z hz).idle (load_of_backlog hz hload)
  · cases hl
    exact hup

lemma Reporting.kept_set (hx : s.daemons[d]? = some x)
    (hrouted : (s.setDaemon d y).Routed) (hadds : e.adds = 0)
    (hy : y.load + (0, e.isDelivery.toNat) = x.load + 0) : s.Kept e (s.setDaemon d y) := by
  refine ⟨hrouted, ?_, ?_⟩
  · rw [hadds]
    exact account_set hx rfl rfl hy
  · rw [hadds]
    exact (zero_add _).symm

lemma Reporting.kept_emitLocal {hand : Option R} (hs : s.Routed) (hsteady : s.Steady (.emit d r))
    (hx : s.daemons[d]? = some x) (hup : x.up = true) (hfeed : x.feed = .inProcess reports hand) :
    s.Kept (.emit d r) { s.setDaemon d { x with feed := .inProcess (reports ++ [r]) hand } with
      emitted := {r} + s.emitted } := by
  have hsink : some d = s.leader := by
    simpa [Reporting.sink, hx, hfeed, Feed.sink] using hsteady.2
  have hrouted : (s.setDaemon d { x with feed := .inProcess (reports ++ [r]) hand }).Routed :=
    hs.setFeed hx hup (fun _ => ⟨hsteady.1, hsink⟩) nofun
  refine ⟨⟨hrouted.daemons, hrouted.leader, hrouted.handled⟩, ?_, rfl⟩
  refine account_set hx rfl rfl ?_
  simp only [Daemon.load, hfeed, Feed.load, atLevel_append, ReportingEvent.adds,
    ReportingEvent.isDelivery, Bool.toNat_false, Prod.mk_zero_zero]
  abel

lemma Reporting.kept_emitServer {server server' : RpcServer C R} {owners : List Nat}
    (hs : s.Routed) (hsteady : s.Steady (.emit d r)) (hx : s.daemons[d]? = some x)
    (hup : x.up = true) (hfeed : x.feed = .rpc server owners)
    (hdoes : server.Does (.put r) server') :
    s.Kept (.emit d r) { s.setDaemon d { x with feed := .rpc server' owners } with
      emitted := {r} + s.emitted } := by
  obtain ⟨hload, hholder⟩ := RpcServer.load_put hdoes
  have hsink : server.holder.bind (owners[·]?) = s.leader := by
    simpa [Reporting.sink, hx, hfeed, Feed.sink] using hsteady.2
  have hrouted : (s.setDaemon d { x with feed := .rpc server' owners }).Routed := by
    refine hs.setFeed hx hup (fun _ => ⟨hsteady.1, ?_⟩) ?_
    · rw [Feed.sink, hholder]
      exact hsink
    · rintro _ _ ⟨⟩
      exact ((hs.daemons d x hx).locked server owners hfeed).step hdoes
  refine ⟨⟨hrouted.daemons, hrouted.leader, hrouted.handled⟩, ?_, rfl⟩
  refine account_set hx rfl rfl ?_
  simp only [Daemon.load, hfeed, Feed.load, hload, ReportingEvent.adds, ReportingEvent.isDelivery,
    Bool.toNat_false, Prod.mk_zero_zero]
  abel

lemma Reporting.kept_drain (hs : s.Routed) (hx : s.daemons[d]? = some x) (hup : x.up = true)
    (hfeed : x.feed = .inProcess (r :: reports) none) :
    s.Kept (.drain d) (s.setDaemon d { x with feed := .inProcess reports (some r) }) := by
  have hold := hs.daemons d x hx
  have hload : x.feed.load ≠ 0 := ne_of_apply_ne Prod.snd (by simp [hfeed, Feed.load, atLevel])
  have hsink := hold.feed hload
  rw [hfeed] at hsink
  refine kept_set hx (hs.setFeed hx hup (fun _ => hsink) fun _ _ hrpc => ?_) rfl ?_
  · cases hrpc
  simp only [Daemon.load, hfeed, Feed.load, atLevel_cons 3 r reports, toList_some,
    toList_none, atLevel_nil, atLevel_succ 2 r, ReportingEvent.isDelivery, Bool.toNat_true]
  abel

lemma Reporting.kept_forward (hs : s.Routed) (hx : s.daemons[d]? = some x) (hup : x.up = true)
    (hfeed : x.feed = .inProcess reports (some r)) :
    s.Kept (.forward d)
      (s.setDaemon d { x with feed := .inProcess reports none, fanIn := x.fanIn ++ [r] }) := by
  have hold := hs.daemons d x hx
  have hload : x.feed.load ≠ 0 := ne_of_apply_ne Prod.snd (by simp [hfeed, Feed.load, atLevel])
  have hsink := hold.feed hload
  rw [hfeed] at hsink
  refine kept_set hx ?_ rfl ?_
  · refine hs.set hx rfl rfl rfl
      ⟨fun hdown => ?_, fun _ => hsink, fun _ => hsink.2.symm, fun _ _ hrpc => ?_⟩ hs.handled
    · cases hup.symm.trans hdown
    · cases hrpc
  · simp only [Daemon.load, hfeed, Feed.load, toList_some, toList_none, atLevel_nil,
      atLevel_append, atLevel_succ 1 r, ReportingEvent.isDelivery, Bool.toNat_true]
    abel

lemma Reporting.kept_connect {server server' : RpcServer C R}
    {owners : List Nat} (hs : s.Routed) (hx : s.daemons[d]? = some x) (hup : x.up = true)
    (hfeed : x.feed = .rpc server owners) (hdoes : server.Does .accept server') :
    s.Kept (.connect d p) (s.setDaemon d { x with feed := .rpc server' (owners ++ [p]) }) := by
  obtain ⟨hload, hholder⟩ := RpcServer.load_accept hdoes
  have hold := hs.daemons d x hx
  refine kept_set hx (hs.setFeed hx hup (fun h => ?_) ?_) rfl ?_
  · have hne : x.feed.load ≠ 0 := by
      rw [hfeed, Feed.load, ← hload]
      exact h
    obtain ⟨hsome, hsink⟩ := hold.feed hne
    refine ⟨hsome, ?_⟩
    obtain ⟨l, hl⟩ := isSome_iff_exists.mp hsome
    rw [hfeed, hl] at hsink
    obtain ⟨h, hh, hp⟩ := bind_eq_some_iff.mp hsink
    simp only [Feed.sink, hholder, hh, hl, bind_some]
    exact List.getElem?_append_of_some hp
  · rintro _ _ ⟨⟩
    exact (hold.locked server owners hfeed).step hdoes
  · simp only [Daemon.load, hfeed, Feed.load, hload]
    rfl

lemma Reporting.kept_serve {e : ServerEvent C R} (hs : s.Routed)
    (he : e.isServed = true) (h : s.serve d e = some s') : s.Kept (.serve d e) s' := by
  obtain ⟨x, server, server', owners, hx, hup, hfeed, hdoes, rfl⟩ := of_serve h
  have hload : server'.load + (0, e.isTake.toNat) = server.load := by
    cases htake : e.isTake with
    | false => exact (add_zero _).trans (RpcServer.load_served he htake hdoes)
    | true =>
      cases e with
      | take => exact RpcServer.load_take hdoes
      | _ => cases htake
  have hrouted := hs.serve hx hup hfeed hdoes (RpcServer.load_ne_zero hload)
    (RpcServer.holder_served he hdoes)
  refine kept_set hx hrouted rfl ?_
  simp only [Daemon.load, hfeed, Feed.load, ← hload, ReportingEvent.isDelivery]
  abel

lemma Reporting.account_arrive (hx : s.daemons[p]? = some x) :
    (s.arrive p reports).account = s.account + atLevel 1 reports := by
  have hload : Daemon.load { x with fanIn := x.fanIn ++ reports } + 0 =
      x.load + atLevel 1 reports := by
    simp only [Daemon.load, atLevel_append]
    abel
  simp only [Reporting.arrive, hx]
  exact (add_zero _).symm.trans (account_set hx rfl rfl hload)

lemma Reporting.emitted_arrive : (s.arrive p reports).emitted = s.emitted := by
  unfold Reporting.arrive
  split <;> rfl

lemma Reporting.kept_written (hs : s.Routed)
    (hw : s.writing d h = some (reports, p)) (hserve : s.serve d (.written h) = some s') :
    s.isUp p = true ∧ s.Kept (.written d h) (s'.arrive p reports) := by
  obtain ⟨x, server, server', owners, hx, hup, hfeed, hdoes, rfl⟩ := of_serve hserve
  obtain ⟨y, hy, hp, rfl⟩ := of_writing hw hx hfeed
  have hload := RpcServer.load_written hy hdoes
  obtain ⟨⟨r, hstate⟩, hholder⟩ := RpcServer.writing_of_written hy hdoes
  have hleader := hs.writing hx hfeed hy hstate hp
  have hrouted := hs.serve hx hup hfeed hdoes (RpcServer.load_ne_zero hload) (.inl hholder)
  obtain ⟨z, hz, _⟩ := isUp_iff.mp (hrouted.leader p hleader)
  refine ⟨hs.leader p hleader, hrouted.arrive hleader, ?_, ?_⟩
  · have hset : Daemon.load { x with feed := .rpc server' owners } + atLevel 2 y.state.held =
        x.load + 0 := by
      simp only [Daemon.load, hfeed, Feed.load, ← hload]
      abel
    have haccount : (s.setDaemon d { x with feed := .rpc server' owners }).account +
        atLevel 2 y.state.held = s.account + 0 := account_set hx rfl rfl hset
    rw [hstate, HandlerState.held, atLevel_succ 1 r] at haccount
    rw [account_arrive hz, hstate, HandlerState.held, add_assoc]
    exact haccount
  · rw [emitted_arrive]
    exact (zero_add _).symm

lemma Reporting.not_writeFails (hs : s.Routed) (hw : s.writing d h = some (reports, p))
    (hserve : s.serve d (.writeFails h) = some s') : s.isUp p = true := by
  obtain ⟨x, server, server', owners, hx, hup, hfeed, hdoes, rfl⟩ := of_serve hserve
  obtain ⟨y, hy, hp, rfl⟩ := of_writing hw hx hfeed
  cases hdoes with
  | writeFails hy' hstate =>
    cases hy.symm.trans hy'
    exact hs.leader p (hs.writing hx hfeed hy hstate hp)

lemma Reporting.kept_process {fanIn : List R} (hs : s.Routed)
    (hx : s.daemons[p]? = some x) (hup : x.up = true) (hfanIn : x.fanIn = r :: fanIn) :
    s.Kept (.process p) { s.setDaemon p { x with fanIn } with
      handled := s.handled ++ [⟨r, p, s.leader⟩] } := by
  have hold := hs.daemons p x hx
  have hleader : s.leader = some p := hold.fanIn (by rw [hfanIn]; exact cons_ne_nil r fanIn)
  refine ⟨?_, ?_, (zero_add _).symm⟩
  · refine hs.set hx rfl rfl rfl ⟨fun hdown => ?_, hold.feed, fun _ => hleader, hold.locked⟩ ?_
    · cases hup.symm.trans hdown
    · intro t ht
      rcases mem_append.mp ht with ht | ht
      · exact hs.handled t ht
      · rw [mem_singleton.mp ht]
        exact hleader
  · have hload : Daemon.load { x with fanIn } + atLevel 1 [r] = x.load + 0 := by
      simp only [Daemon.load, hfanIn, atLevel_cons 1 r fanIn]
      abel
    have hsum := List.sum_map_set_add Daemon.load hx hload
    simp only [account, load, setDaemon, map_append, atLevel_append, map_cons,
      map_nil, ReportingEvent.isDelivery, Bool.toNat_true, ReportingEvent.adds]
    rw [atLevel_succ 0 r, add_zero] at hsum
    rw [add_zero, ← hsum]
    abel

lemma Reporting.kept_step (hs : s.Routed) (hsteady : s.Steady e) (h : s.step e = some s') :
    s.Kept e s' := by
  cases e with
  | init =>
    simp only [step] at h
    split at h
    · cases h
      exact kept_start hs (by simp [Feed.load]) nofun rfl rfl
    · cases h
  | join =>
    simp only [step, ite_none_right_eq_some] at h
    obtain ⟨_, h⟩ := h
    cases h
    exact kept_start hs (by simp [Feed.load]) nofun rfl rfl
  | restart =>
    simp only [step, ite_none_right_eq_some] at h
    obtain ⟨_, h⟩ := h
    cases h
    refine kept_start hs (by simp [Feed.load, RpcServer.load, RpcServer.init]) ?_ rfl rfl
    rintro _ _ ⟨⟩
    exact RpcServer.locked_init
  | stop =>
    obtain ⟨x, hx, hup, h⟩ := withDaemon_eq_some.mp h
    cases h
    exact kept_stop hs hsteady hx
  | lead =>
    simp only [step, ite_none_right_eq_some] at h
    obtain ⟨hup, h⟩ := h
    cases h
    exact kept_lead hs hsteady hup
  | emit =>
    obtain ⟨x, hx, hup, h⟩ := withDaemon_eq_some.mp h
    split at h
    · rename_i reports hand hfeed
      cases h
      exact kept_emitLocal hs hsteady hx hup hfeed
    · rename_i server owners hfeed
      obtain ⟨server', hput, rfl⟩ := map_eq_some_iff.mp h
      exact kept_emitServer hs hsteady hx hup hfeed (RpcServer.does_of_step hput)
  | drain =>
    obtain ⟨x, hx, hup, h⟩ := withDaemon_eq_some.mp h
    split at h
    · rename_i r reports hfeed
      cases h
      exact kept_drain hs hx hup hfeed
    · cases h
  | forward =>
    obtain ⟨x, hx, hup, h⟩ := withDaemon_eq_some.mp h
    split at h
    · rename_i reports r hfeed
      cases h
      exact kept_forward hs hx hup hfeed
    · cases h
  | connect =>
    obtain ⟨x, hx, hup, h⟩ := withDaemon_eq_some.mp h
    split at h
    · rename_i server owners hfeed
      rw [ite_none_right_eq_some] at h
      obtain ⟨server', haccept, rfl⟩ := map_eq_some_iff.mp h.2
      exact kept_connect hs hx hup hfeed (RpcServer.does_of_step haccept)
    · cases h
  | serve =>
    simp only [step, ite_none_right_eq_some] at h
    exact kept_serve hs h.1 h.2
  | written =>
    obtain ⟨⟨reports, p⟩, hw, h⟩ := bind_eq_some_iff.mp h
    obtain ⟨t, hserve, rfl⟩ := map_eq_some_iff.mp h
    obtain ⟨hup, hkept⟩ := kept_written hs hw hserve
    rw [if_pos hup]
    exact hkept
  | writeFails =>
    obtain ⟨⟨reports, p⟩, hw, h⟩ := bind_eq_some_iff.mp h
    rw [ite_none_left_eq_some] at h
    exact absurd (not_writeFails hs hw h.2) h.1
  | process =>
    obtain ⟨x, hx, hup, h⟩ := withDaemon_eq_some.mp h
    split at h
    · rename_i r fanIn hfanIn
      cases h
      exact kept_process hs hx hup hfanIn
    · cases h

end

section

variable {s s' : Reporting C R}

lemma RpcServer.can_deliver {server : RpcServer C R} {h : Nat} (hlocked : server.Locked)
    (hholder : server.holder = some h) (hload : server.load ≠ 0) :
    (server.step (.take h)).isSome = true ∨ (server.step (.written h)).isSome = true := by
  obtain ⟨x, hx, hx'⟩ := hlocked.holder h hholder
  cases hstate : x.state with
  | writing =>
    right
    simp [step, withHandler, hx, hstate]
  | holding =>
    left
    cases hreports : server.reports with
    | cons => simp [step, withHandler, hx, hstate, hreports]
    | nil =>
      -- nobody else has the lock, so no handler holds a report
      have hnone : ∀ m ∈ server.handlers.map Handler.load, m = 0 := by
        intro m hm
        obtain ⟨y, hy, rfl⟩ := List.mem_map.mp hm
        obtain ⟨k, hk⟩ := mem_iff_getElem?.mp hy
        cases hy' : y.state with
        | writing =>
          have hk' := hlocked.locked k y hk (by rw [hy']; rfl)
          cases hk'.symm.trans hholder
          cases hx.symm.trans hk
          cases hstate.symm.trans hy'
        | _ => simp [Handler.load, hy']
      have hsum := sum_eq_zero hnone
      exact absurd (by simp [load, hreports, hsum]) hload
  | _ => simp [hstate, HandlerState.isLocked] at hx'

lemma Reporting.can_deliver_feed {d : Nat} {x : Daemon C R} (hx : s.daemons[d]? = some x)
    (hup : x.up = true) (hold : x.Routed s.leader d) (hload : x.feed.load ≠ 0) :
    ∃ e : ReportingEvent C R, e.isDelivery = true ∧ (s.step e).isSome = true := by
  obtain ⟨hsome, hsink⟩ := hold.feed hload
  cases hfeed : x.feed with
  | inProcess reports hand =>
    cases hand with
    | some => exact ⟨.forward d, rfl, by simp [step, withDaemon, hx, hup, hfeed]⟩
    | none =>
      cases reports with
      | cons => exact ⟨.drain d, rfl, by simp [step, withDaemon, hx, hup, hfeed]⟩
      | nil => exact absurd (by simp [hfeed, Feed.load]) hload
  | rpc server owners =>
    obtain ⟨l, hl⟩ := isSome_iff_exists.mp hsome
    rw [hfeed, hl] at hsink
    obtain ⟨h, hholder, hp⟩ := bind_eq_some_iff.mp hsink
    have hlocked := hold.locked server owners hfeed
    obtain ⟨y, hy, _⟩ := hlocked.holder h hholder
    rw [hfeed] at hload
    rcases RpcServer.can_deliver hlocked hholder hload with htake | hwritten
    · refine ⟨.serve d (.take h), rfl, ?_⟩
      simp [step, serve, withDaemon, hx, hup, hfeed, ServerEvent.isServed, htake]
    · refine ⟨.written d h, rfl, ?_⟩
      simp [step, serve, writing, withDaemon, hx, hup, hfeed, hy, hp, hwritten]

lemma Reporting.can_deliver (hs : s.Routed) (hload : s.backlog ≠ 0) :
    ∃ e : ReportingEvent C R, e.isDelivery = true ∧ (s.step e).isSome = true := by
  have hsome : ∃ x ∈ s.daemons, x.load ≠ 0 := by
    by_contra hnone
    have hzero : ∀ m ∈ s.daemons.map Daemon.load, m = 0 := by
      intro m hm
      obtain ⟨x, hx, rfl⟩ := List.mem_map.mp hm
      by_contra hne
      exact hnone ⟨x, hx, hne⟩
    exact hload (congrArg Prod.snd (sum_eq_zero hzero))
  obtain ⟨x, hmem, hne⟩ := hsome
  obtain ⟨d, hx⟩ := mem_iff_getElem?.mp hmem
  have hold := hs.daemons d x hx
  have hup : x.up = true := by
    by_contra hdown
    exact hne (hold.down (Bool.not_eq_true _ ▸ hdown))
  cases hfanIn : x.fanIn with
  | cons => exact ⟨.process d, rfl, by simp [step, withDaemon, hx, hup, hfanIn]⟩
  | nil =>
    refine can_deliver_feed hx hup hold fun hfeed => hne ?_
    simp [Daemon.load, hfeed, hfanIn]

end

section

variable {s t : Reporting C R}

def Reporting.AllHandled (s : Reporting C R) : Prop :=
  s.emitted = (s.handled.map Handled.report : List R) ∧ ∀ t ∈ s.handled, t.leader = some t.processor

lemma Reporting.routed_init : (Reporting.init : Reporting C R).Routed := ⟨nofun, nofun, nofun⟩

lemma Reporting.steady_of_isDelivery {e : ReportingEvent C R} (he : e.isDelivery = true) :
    s.Steady e := by
  cases e with
  | emit => cases he
  | lead => cases he
  | stop => cases he
  | _ => trivial

lemma Reporting.Kept.emitted_eq {e : ReportingEvent C R} (h : s.Kept e t)
    (hs : s.emitted = s.account.1) : t.emitted = t.account.1 := by
  have hfst : t.account.1 + 0 = s.account.1 + e.adds.1 := congrArg Prod.fst h.account
  rw [h.emitted, hs, add_comm, ← hfst, add_zero]

lemma Reporting.deliveries_run {ds : List (ReportingEvent C R)}
    (hds : ∀ e ∈ ds, e.isDelivery = true) (hs : s.Routed) (hemitted : s.emitted = s.account.1)
    (hrun : run Reporting.step s ds = some t) :
    t.Routed ∧ t.emitted = t.account.1 ∧ t.backlog + ds.length = s.backlog := by
  induction ds generalizing s with
  | nil =>
    cases hrun
    exact ⟨hs, hemitted, rfl⟩
  | cons e ds ih =>
    obtain ⟨u, hu, hrun⟩ := run_cons_eq_some.mp hrun
    obtain ⟨he, hds⟩ := forall_mem_cons.mp hds
    have hkept := kept_step hs (steady_of_isDelivery he) hu
    obtain ⟨ht, hemitted', hbacklog⟩ := ih hds hkept.routed (hkept.emitted_eq hemitted) hrun
    refine ⟨ht, hemitted', ?_⟩
    have hadds : e.adds = 0 := by
      cases e with
      | emit => cases he
      | _ => rfl
    have hsnd : u.account.2 + 1 = s.account.2 + 0 := by
      have h := congrArg Prod.snd hkept.account
      rwa [he, hadds] at h
    simp [account, atLevel] at hsnd
    simp only [backlog, length_cons] at hbacklog ⊢
    omega

/-- In every steady run the reports are handled by the leader. From there, in whatever order the
reports are brought on their way, that comes to an end, and then every report was handled. -/
theorem reports_reach_leader {es : List (ReportingEvent C R)}
    (hsteady : Guarded Reporting.step Reporting.Steady .init es)
    (hrun : run Reporting.step .init es = some s) :
    (∀ t ∈ s.handled, t.leader = some t.processor) ∧
      ∀ ds t, (∀ e ∈ ds, e.isDelivery = true) → run Reporting.step s ds = some t →
        ds.length ≤ s.backlog ∧ ((∀ e, e.isDelivery = true → t.step e = none) → t.AllHandled) := by
  have hinv : s.Routed ∧ s.emitted = s.account.1 := by
    refine run_invariant (I := fun s => s.Routed ∧ s.emitted = s.account.1) ?_
      ⟨Reporting.routed_init, rfl⟩ hsteady hrun
    rintro s e s' ⟨hs, hemitted⟩ hP hstep
    have hkept := Reporting.kept_step hs hP hstep
    exact ⟨hkept.routed, hkept.emitted_eq hemitted⟩
  refine ⟨hinv.1.handled, fun ds t hds hdeliver => ?_⟩
  obtain ⟨ht, hemitted, hbacklog⟩ := Reporting.deliveries_run hds hinv.1 hinv.2 hdeliver
  refine ⟨by omega, fun hend => ⟨?_, ht.handled⟩⟩
  have hzero : t.backlog = 0 := by
    by_contra hne
    obtain ⟨e, he, hsome⟩ := Reporting.can_deliver ht hne
    rw [hend e he] at hsome
    cases hsome
  have hload : t.load = 0 := loaded_reporting t hzero
  rw [hemitted, Reporting.account, hload, zero_add]
  rfl

end

namespace Reporting

def demoFirst : NodeId := ⟨"a"⟩

def demoSecond : NodeId := ⟨"b"⟩

def demoJoined : List (ReportingEvent Nat Nat) :=
  [.init demoFirst, .lead (some 0), .join demoSecond]

def demoRestarted (p : Nat) : List (ReportingEvent Nat Nat) :=
  demoJoined ++ [.stop 1, .restart demoSecond, .connect 2 p, .serve 2 (.authenticated 0),
    .serve 2 .acquire]

def demoSteady : List (ReportingEvent Nat Nat) := demoRestarted 0 ++ [.emit 0 5, .emit 2 7]

theorem reports_reach_leader_steady :
    ∃ s : Reporting Nat Nat, run Reporting.step .init demoSteady = some s ∧
      s.backlog = 6 ∧ ∀ ds t, (∀ e ∈ ds, e.isDelivery = true) →
        run Reporting.step s ds = some t → ds.length ≤ 6 ∧
          ((∀ e, e.isDelivery = true → t.step e = none) → t.AllHandled) := by
  refine exists_end_and (by decide +kernel) fun s hs hbacklog => ?_
  have hreach := (reports_reach_leader (by decide +kernel) hs).2
  rw [hbacklog] at hreach
  exact hreach

def demoOwn : List (ReportingEvent Nat Nat) :=
  demoJoined ++ [.emit 1 7, .drain 1, .forward 1, .process 1]

def demoFirstCome : List (ReportingEvent Nat Nat) :=
  demoRestarted 2 ++ [.connect 2 0, .serve 2 (.authenticated 1), .emit 2 7, .serve 2 (.take 0),
    .written 2 0, .process 2]

/-- The report was handled by a daemon that did not lead, and is nowhere any more. -/
theorem reports_miss_leader : (∃ s : Reporting Nat Nat, run Reporting.step .init demoOwn = some s ∧
      s.handled = [⟨7, 1, some 0⟩] ∧ s.backlog = 0 ∧ ¬ s.AllHandled) ∧
    ∃ s : Reporting Nat Nat, run Reporting.step .init demoFirstCome = some s ∧
      s.handled = [⟨7, 2, some 0⟩] ∧ s.backlog = 0 ∧ ¬ s.AllHandled := by
  have hmiss {o : Option (Reporting Nat Nat)} {d : Nat}
      (h : ∃ s, o = some s ∧ s.handled = [⟨7, d, some 0⟩] ∧ s.backlog = 0) (hd : d ≠ 0) :
      ∃ s, o = some s ∧ s.handled = [⟨7, d, some 0⟩] ∧ s.backlog = 0 ∧ ¬ s.AllHandled := by
    refine exists_end h fun s _ ⟨hhandled, hbacklog⟩ => ?_
    refine ⟨hhandled, hbacklog, fun hall => hd ?_⟩
    exact (Option.some.inj (hall.2 ⟨7, d, some 0⟩ (by simp [hhandled]))).symm
  exact ⟨hmiss (by decide +kernel) (by decide), hmiss (by decide +kernel) (by decide)⟩

end Reporting

end Mill
