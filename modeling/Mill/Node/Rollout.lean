import Mill.Node.DeployTrace
import Mill.Node.VolumeAffinity

/-! The allocations that run while a deploy is under way. -/

namespace Mill

open Mill.Action Function List Option Program Transition

section

def Alloc.service (a : Alloc) : Option String := if a.kind = .service then some a.name else none

lemma Alloc.name_of_service {a : Alloc} {name : String} (h : a.service = some name) :
    a.name = name := by
  unfold service at h
  split_ifs at h
  exact Option.some.inj h

namespace FsmState

def serviceOf (s : FsmState) (id : AllocId) : Option String :=
  (s.allocs.lookup id).bind Alloc.service

def runsFor (s : FsmState) (id : AllocId) : Option String :=
  (s.allocs.lookup id).bind fun a => if a.status.isTerminal then none else a.service

variable {s : FsmState} {id i : AllocId} {name : String} {c : Command}

lemma runsFor_eq_some : s.runsFor id = some name ↔ ∃ a, s.allocs.lookup id = some a ∧
    a.status.isTerminal = false ∧ a.service = some name := by
  simp only [runsFor, bind_eq_some_iff, ite_none_left_eq_some, Bool.not_eq_true]

lemma runsFor_of_not_mem (h : id ∉ s.allocs) : s.runsFor id = none := by
  rw [runsFor, Finmap.lookup_eq_none.mpr h, bind_none]

lemma serviceOf_of_runsFor (h : s.runsFor id = some name) : s.serviceOf id = some name := by
  obtain ⟨a, ha, -, hname⟩ := runsFor_eq_some.mp h
  rw [serviceOf, ha, bind_some, hname]

lemma runsFor_scheduled {node : Nat} (hnode : node ∈ s.nodes) (id : AllocId)
    (address : Option SocketAddr) (resources : AllocResources) :
    (applyCommand s (.allocScheduled id node name .service address resources)).1.runsFor =
      Function.update s.runsFor id (some name) := by
  obtain ⟨n, hn⟩ := Finmap.mem_iff.mp hnode
  funext i
  by_cases hi : i = id
  · subst hi
    simp [runsFor, lookup_allocs_applyCommand, allocAfter, hn, makeAlloc, Alloc.service,
      AllocStatus.isTerminal]
  · simp [runsFor, lookup_allocs_applyCommand, allocAfter, hn, hi]

lemma serviceOf_scheduled {node : Nat} (hnode : node ∈ s.nodes) (id : AllocId)
    (address : Option SocketAddr) (resources : AllocResources) :
    (applyCommand s (.allocScheduled id node name .service address resources)).1.serviceOf =
      Function.update s.serviceOf id (some name) := by
  obtain ⟨n, hn⟩ := Finmap.mem_iff.mp hnode
  funext i
  by_cases hi : i = id
  · subst hi
    simp [serviceOf, lookup_allocs_applyCommand, allocAfter, hn, makeAlloc, Alloc.service]
  · simp [serviceOf, lookup_allocs_applyCommand, allocAfter, hn, hi]

lemma runsFor_status (id : AllocId) (status : AllocStatus) :
    (applyCommand s (.allocStatus id status)).1.runsFor =
      Function.update s.runsFor id (if status.isTerminal then none else s.serviceOf id) := by
  funext i
  by_cases hi : i = id
  · subst hi
    cases ha : s.allocs.lookup i <;> cases hstatus : status.isTerminal <;>
      simp [runsFor, serviceOf, lookup_allocs_applyCommand, allocAfter, ha, hstatus, Alloc.service]
  · simp [runsFor, lookup_allocs_applyCommand, allocAfter, hi]

end FsmState

def Command.reports : Command → Bool
  | .deploy _ | .allocScheduled _ _ _ _ _ _ | .nodeRemove _ => false
  | _ => true

variable {s : FsmState} {c : Command}

lemma serviceOf_applyCommand (hc : ∀ id node name kind address resources,
      c ≠ .allocScheduled id node name kind address resources)
    (hremove : ∀ id, c ≠ .nodeRemove id) : (applyCommand s c).1.serviceOf = s.serviceOf := by
  funext i
  have hbind (a : Option Alloc) : a.bind Alloc.service = (a.map Alloc.service).join := by
    cases a <;> rfl
  unfold FsmState.serviceOf
  rw [lookup_allocs_applyCommand, hbind, hbind,
    map_allocAfter (f := Alloc.service) (fun _ _ _ _ => rfl) i (hc i) hremove]

lemma runsFor_report (hc : c.reports = true) {id : AllocId} (hid : id ∉ s.allocs) :
    (applyCommand s c).1.runsFor id = none := by
  have hservice : (applyCommand s c).1.serviceOf id = none := by
    rw [serviceOf_applyCommand (by rintro _ _ _ _ _ _ rfl; cases hc) (by rintro _ rfl; cases hc),
      FsmState.serviceOf, Finmap.lookup_eq_none.mpr hid, bind_none]
  refine eq_none_iff_forall_ne_some.mpr fun name hname => ?_
  cases (FsmState.serviceOf_of_runsFor hname).symm.trans hservice

lemma mem_nodes_of_not_remove (hremove : ∀ id, c ≠ .nodeRemove id) {k : Nat}
    (hk : k ∈ s.nodes) : k ∈ (applyCommand s c).1.nodes := by
  by_cases hc : ∃ millId address resources pubkey instanceId rpcAddress advertiseAddr,
      c = .nodeRegister k millId address resources pubkey instanceId rpcAddress advertiseAddr
  · obtain ⟨_, _, _, _, _, _, _, rfl⟩ := hc
    exact Finmap.mem_insert.mpr (.inl rfl)
  · simp only [not_exists] at hc
    exact (mem_nodes_applyCommand hc (hremove k)).mpr hk

end

lemma mem_serviceAllocs {s : FsmState} (hs : KeyedById s) (v : View s) {name : String}
    {id : AllocId} : id ∈ (Query.eval s v (.serviceAllocs name)).map Prod.fst ↔
      ∃ a, s.allocs.lookup id = some a ∧ a.name = name := by
  simp only [Query.eval, List.map_map, List.mem_map, mem_filter, beq_iff_eq]
  constructor
  · rintro ⟨a, ⟨ha, hname⟩, rfl⟩
    have hvalue : a ∈ s.allocs.values := by
      rw [v.allocs_eq]
      exact ha
    obtain ⟨j, hj⟩ := Finmap.mem_values.mp hvalue
    obtain rfl := hs j a hj
    exact ⟨a, hj, hname⟩
  · rintro ⟨a, ha, hname⟩
    refine ⟨a, ⟨?_, hname⟩, hs id a ha⟩
    have hvalue := Finmap.mem_values.mpr ⟨id, ha⟩
    rw [v.allocs_eq] at hvalue
    exact hvalue

section

structure Backed (before s : FsmState) (halted : List AllocId) (u : DeployTrace) : Prop where
  located : ∀ k, u.located = some k → k ∈ s.nodes
  up : ∀ e ∈ u.up, e.1 ∉ halted → s.runsFor e.1 = some e.2.1
  starting : ∀ e, u.starting = some e → s.serviceOf e.1 = some e.2.1
  fresh : ∀ e ∈ u.entries, before.runsFor e.1 = none

structure Ledger (before s : FsmState) (halted : List AllocId) (ts : List DeployTrace) : Prop where
  keyed : KeyedById s
  nodes : s.NodesKeyed
  backed : ∀ u ∈ ts, Backed before s halted u
  kept : ∀ id name, before.runsFor id = some name → id ∉ halted → s.runsFor id = some name
  sound : ∀ id name, s.runsFor id = some name → id ∈ halted ∨ before.runsFor id = some name ∨
    ∃ u ∈ ts, ∃ e ∈ u.entries, e.1 = id ∧ e.2.1 = name

variable {before s s' : FsmState} {halted : List AllocId} {ts : List DeployTrace} {i : Nat}
  {u u' : DeployTrace} {id : AllocId} {name : String} {d : ServiceDef}

variable (h : Ledger before s halted ts)

include h

lemma Ledger.spawned (task : TaskKind) :
    Ledger before s halted (ts ++ [.begin task]) := by
  refine ⟨h.keyed, h.nodes, fun v hv => ?_, h.kept, fun j n hj => ?_⟩
  · rcases mem_append.mp hv with hv | hv
    · exact h.backed v hv
    · rw [mem_singleton.mp hv]
      exact ⟨nofun, nofun, nofun, nofun⟩
  · rcases h.sound j n hj with hj | hj | ⟨v, hv, he⟩
    · exact .inl hj
    · exact .inr (.inl hj)
    · exact .inr (.inr ⟨v, mem_append_left _ hv, he⟩)

variable (hi : ts[i]? = some u)

include hi

lemma Ledger.sound_set {j : AllocId} {n : String} (hj : s.runsFor j = some n)
    (hkeep : ∀ e ∈ u.entries, e.1 = j → e ∈ u'.entries) :
    j ∈ halted ∨ before.runsFor j = some n ∨
      ∃ v ∈ ts.set i u', ∃ e ∈ v.entries, e.1 = j ∧ e.2.1 = n := by
  rcases h.sound j n hj with hj | hj | ⟨v, hv, e, he, hej, hen⟩
  · exact .inl hj
  · exact .inr (.inl hj)
  · refine .inr (.inr ?_)
    by_cases hvu : v = u
    · exact ⟨u', List.mem_set_self hi, e, hkeep e (hvu ▸ he) hej, hej, hen⟩
    · exact ⟨v, List.mem_set_of_ne hi hv hvu, e, he, hej, hen⟩

lemma Ledger.stopped (hlocated : u'.located = u.located)
    (hstarting : u'.starting = u.starting) (hup : u'.up = u.up.filter fun e => e.1 ≠ id) :
    Ledger before s (id :: halted) (ts.set i u') := by
  have hbacked (v : DeployTrace) (hv : v ∈ ts) : Backed before s (id :: halted) v := by
    have hb := h.backed v hv
    exact ⟨hb.located, fun e he hhalted => hb.up e he fun hmem => hhalted (mem_cons_of_mem _ hmem),
      hb.starting, hb.fresh⟩
  refine ⟨h.keyed, h.nodes, List.forall_mem_set hbacked ?_, fun j n hj hhalted => ?_,
    fun j n hj => ?_⟩
  · have hb := hbacked u (mem_of_getElem? hi)
    refine ⟨hlocated ▸ hb.located, fun e he => hb.up e (mem_of_mem_filter (hup ▸ he)),
      hstarting ▸ hb.starting, fun e he => hb.fresh e ?_⟩
    rw [DeployTrace.entries, hstarting, hup] at he
    rcases mem_append.mp he with he | he
    · exact mem_append_left _ he
    · exact mem_append_right _ (mem_of_mem_filter he)
  · exact h.kept j n hj fun hmem => hhalted (mem_cons_of_mem _ hmem)
  · by_cases hne : j = id
    · exact .inl (hne ▸ mem_cons_self)
    · refine (h.sound_set hi hj fun e he hej => ?_).imp_left (mem_cons_of_mem _)
      rw [DeployTrace.entries, hstarting, hup]
      rcases mem_append.mp he with he | he
      · exact mem_append_left _ he
      · refine mem_append_right _ (mem_filter.mpr ⟨he, decide_eq_true ?_⟩)
        exact hej.symm ▸ hne

variable (hkeyed : KeyedById s') (hnodes : s'.NodesKeyed) (hmono : ∀ k, k ∈ s.nodes → k ∈ s'.nodes)

include hkeyed hnodes hmono

lemma Ledger.still (hruns : s'.runsFor = s.runsFor) (hservice : s'.serviceOf = s.serviceOf)
    (hlocated : ∀ k, u'.located = some k → k ∈ s'.nodes) (hstarting : u'.starting = u.starting)
    (hup : u'.up = u.up) : Ledger before s' halted (ts.set i u') := by
  have hentries : u'.entries = u.entries := by
    rw [DeployTrace.entries, hstarting, hup, DeployTrace.entries]
  have hu := h.backed u (mem_of_getElem? hi)
  refine ⟨hkeyed, hnodes, List.forall_mem_set (fun v hv => ?_) ?_, ?_, fun id name hid => ?_⟩
  · have hv := h.backed v hv
    exact ⟨fun k hk => hmono k (hv.located k hk), hruns ▸ hv.up, hservice ▸ hv.starting, hv.fresh⟩
  · exact ⟨hlocated, by rw [hruns, hup]; exact hu.up,
      by rw [hservice, hstarting]; exact hu.starting, hentries ▸ hu.fresh⟩
  · rw [hruns]
    exact h.kept
  · exact h.sound_set hi (hruns ▸ hid) fun e he _ => hentries ▸ he

lemma Ledger.scheduled (hruns : s'.runsFor = Function.update s.runsFor id (some name))
    (hservice : s'.serviceOf = Function.update s.serviceOf id (some name))
    (hfree : s.runsFor id = none) (hnew : ∀ v ∈ ts, ∀ e ∈ v.entries, e.1 ≠ id) (hid : id ∉ halted)
    (hidle : u.starting = none) (hlocated : u'.located = u.located)
    (hstarting : u'.starting = some (id, name, d)) (hup : u'.up = u.up) :
    Ledger before s' halted (ts.set i u') := by
  have hother {j : AllocId} (hj : j ≠ id) : s'.runsFor j = s.runsFor j := by
    rw [hruns, update_of_ne hj]
  have hbefore : before.runsFor id = none := by
    by_contra hne
    obtain ⟨n, hn⟩ := ne_none_iff_exists'.mp hne
    rw [h.kept id n hn hid] at hfree
    cases hfree
  have hbacked (v : DeployTrace) (hv : v ∈ ts) : Backed before s' halted v := by
    have hb := h.backed v hv
    have hapart := hnew v hv
    refine ⟨fun k hk => hmono k (hb.located k hk), fun e he hhalted => ?_, fun e he => ?_, hb.fresh⟩
    · rw [hother (hapart e (mem_append_right _ he))]
      exact hb.up e he hhalted
    · have hne := hapart e (mem_append_left _ (by rw [he]; exact mem_singleton_self e))
      rw [hservice, update_of_ne hne]
      exact hb.starting e he
  refine ⟨hkeyed, hnodes, List.forall_mem_set hbacked ?_, fun j n hj hhalted => ?_,
    fun j n hj => ?_⟩
  · have hb := hbacked u (mem_of_getElem? hi)
    refine ⟨hlocated ▸ hb.located, hup ▸ hb.up, fun e he => ?_, fun e he => ?_⟩
    · obtain rfl := Option.some.inj (hstarting.symm.trans he)
      rw [hservice, update_self]
    · rw [DeployTrace.entries, hstarting, hup] at he
      rcases mem_cons.mp he with rfl | he
      · exact hbefore
      · exact hb.fresh e (mem_append_right _ he)
  · have hne : j ≠ id := by
      rintro rfl
      rw [hbefore] at hj
      cases hj
    rw [hother hne]
    exact h.kept j n hj hhalted
  · by_cases hne : j = id
    · subst hne
      rw [hruns, update_self] at hj
      refine .inr (.inr ⟨u', List.mem_set_self hi, (j, name, d), ?_, rfl, Option.some.inj hj⟩)
      rw [DeployTrace.entries, hstarting]
      exact mem_cons_self
    · rw [hother hne] at hj
      refine h.sound_set hi hj fun e he _ => ?_
      rw [DeployTrace.entries, hidle] at he
      rw [DeployTrace.entries, hup]
      exact mem_append_right _ he

lemma Ledger.healthy (hruns : s'.runsFor = Function.update s.runsFor id (s.serviceOf id))
    (hservice : s'.serviceOf = s.serviceOf) (hold : u.starting = some (id, name, d))
    (hlocated : u'.located = u.located) (hstarting : u'.starting = none)
    (hup : u'.up = (id, name, d) :: u.up) : Ledger before s' halted (ts.set i u') := by
  have hu := h.backed u (mem_of_getElem? hi)
  have hid : s.serviceOf id = some name := hu.starting _ hold
  have hentries : u'.entries = u.entries := by
    rw [DeployTrace.entries, DeployTrace.entries, hstarting, hup, hold]
    rfl
  -- what ran goes on running
  have hgrow {j : AllocId} {n : String} (hj : s.runsFor j = some n) : s'.runsFor j = some n := by
    by_cases hne : j = id
    · subst hne
      rw [hruns, update_self]
      exact FsmState.serviceOf_of_runsFor hj
    · rw [hruns, update_of_ne hne, hj]
  refine ⟨hkeyed, hnodes, List.forall_mem_set (fun v hv => ?_) ?_,
    fun j n hj hhalted => hgrow (h.kept j n hj hhalted), fun j n hj => ?_⟩
  · have hb := h.backed v hv
    exact ⟨fun k hk => hmono k (hb.located k hk), fun e he hhalted => hgrow (hb.up e he hhalted),
      hservice ▸ hb.starting, hb.fresh⟩
  · refine ⟨fun k hk => hmono k (hu.located k (hlocated ▸ hk)), fun e he hhalted => ?_,
      by simp [hstarting], hentries ▸ hu.fresh⟩
    rw [hup] at he
    rcases mem_cons.mp he with rfl | he
    · rw [hruns, update_self, hid]
    · exact hgrow (hu.up e he hhalted)
  · by_cases hne : j = id
    · subst hne
      rw [hruns, update_self, hid] at hj
      refine .inr (.inr ⟨u', List.mem_set_self hi, (j, name, d), ?_, rfl, Option.some.inj hj⟩)
      rw [hentries, DeployTrace.entries, hold]
      exact mem_cons_self
    · rw [hruns, update_of_ne hne] at hj
      exact h.sound_set hi hj fun e he _ => hentries ▸ he

omit hi in
lemma Ledger.reported (hservice : s'.serviceOf = s.serviceOf)
    (hruns : ∀ j, s'.runsFor j = s.runsFor j ∨ s'.runsFor j = none ∧ j ∈ halted) :
    Ledger before s' halted ts := by
  refine ⟨hkeyed, hnodes, fun v hv => ?_, fun j n hj hhalted => ?_, fun j n hj => ?_⟩
  · have hb := h.backed v hv
    refine ⟨fun k hk => hmono k (hb.located k hk), fun e he hhalted => ?_, hservice ▸ hb.starting,
      hb.fresh⟩
    rcases hruns e.1 with hsame | ⟨-, hmem⟩
    · rw [hsame]
      exact hb.up e he hhalted
    · exact absurd hmem hhalted
  · rcases hruns j with hsame | ⟨-, hmem⟩
    · rw [hsame]
      exact h.kept j n hj hhalted
    · exact absurd hmem hhalted
  · rcases hruns j with hsame | ⟨hnone, -⟩
    · exact h.sound j n (hsame ▸ hj)
    · rw [hnone] at hj
      cases hj

end

section

variable {before : FsmState} {halted : List AllocId} {ts : List DeployTrace} {i : Nat}
  {u t : DeployTrace} {w w' : World} {e : Effect} {r : e.Answer}

lemma World.Answered.unseen (ha : w.Answered e r w') (he : e.unseen = true) :
    w'.fsm.allocs = w.fsm.allocs ∧ w'.fsm.nodes = w.fsm.nodes ∧ w'.fsm.config = w.fsm.config := by
  cases ha with
  | applied c =>
    cases c with
    | volumeCreated | volumeDestroyed => exact ⟨rfl, rfl, rfl⟩
    | volumeDetached =>
      simp only [applyCommand]
      split <;> exact ⟨rfl, rfl, rfl⟩
    | volumeAttached =>
      simp only [applyCommand]
      split
      · exact ⟨rfl, rfl, rfl⟩
      · split <;> exact ⟨rfl, rfl, rfl⟩
    | _ => cases he
  | _ => exact ⟨rfl, rfl, rfl⟩

def Effect.stops (e : Effect) (r : e.Answer) : List AllocId :=
  match e, r with
  | .send _ (.stop id), .ok _ => [id]
  | _, _ => []

lemma Effect.stops_of_unseen (he : e.unseen = true) (r : e.Answer) : e.stops r = [] := by
  unfold stops
  split <;> first | rfl | cases he

def Effect.Fresh (s : FsmState) (ts : List DeployTrace) (e : Effect) : Prop :=
  match e with
  | .propose (.allocScheduled id _ _ _ _ _) =>
    s.runsFor id = none ∧ ∀ v ∈ ts, v.knows id = false
  | _ => True

def Effect.startFails : Effect → Bool
  | .propose (.allocStatus _ status) => status.isTerminal
  | _ => false

lemma Ledger.act (h : Ledger before w.fsm halted ts) (hi : ts[i]? = some u)
    (horderly : e.Orderly u) (ha : w.Answered e r w') (hrefused : e.refused r = false)
    (hfresh : e.Fresh w.fsm ts) (hhalted : ∃ v ∈ ts, v.halted = halted)
    (hfailed : e.startFails = false) :
    Ledger before w'.fsm (e.stops r ++ halted) (ts.set i (u.track e r)) := by
  have hu := h.backed u (mem_of_getElem? hi)
  have hsame {u' : DeployTrace} (hlocated : u'.located = u.located)
      (hstarting : u'.starting = u.starting) (hup : u'.up = u.up) :
      Ledger before w.fsm halted (ts.set i u') :=
    h.still hi h.keyed h.nodes (fun _ hk => hk) rfl rfl (hlocated ▸ hu.located) hstarting hup
  rcases unseen_or_seen horderly with he | he
  · obtain ⟨hallocs, hnodes, -⟩ := ha.unseen he
    rw [DeployTrace.track_of_unseen he, Effect.stops_of_unseen he, nil_append]
    refine h.still hi ?_ ?_ (fun k hk => hnodes ▸ hk) ?_ ?_ (hnodes ▸ hu.located) rfl rfl
    · exact fun j a hj => h.keyed j a (hallocs ▸ hj)
    · exact fun k n hk => h.nodes k n (hnodes ▸ hk)
    · funext j
      rw [FsmState.runsFor, hallocs, FsmState.runsFor]
    · funext j
      rw [FsmState.serviceOf, hallocs, FsmState.serviceOf]
  · cases he with
    | config | place name d | serviceAllocs name | spawn name d =>
      cases ha
      exact hsame rfl rfl rfl
    | raftIdFor =>
      cases ha with
      | read q v =>
        refine h.still hi h.keyed h.nodes (fun _ hk => hk) rfl rfl (fun k hk => ?_) rfl rfl
        have hmill := h.nodes.millIdAt_of_raftIdFor v hk
        obtain ⟨n, hn, -⟩ := map_eq_some_iff.mp hmill
        exact Finmap.mem_of_lookup_eq_some hn
    | commit =>
      cases ha with
      | refused => cases hrefused
      | applied => exact h.still hi h.keyed h.nodes (fun _ hk => hk) rfl rfl hu.located rfl rfl
    | schedule id node name kind address resources =>
      cases ha with
      | refused => cases hrefused
      | applied =>
        obtain ⟨rfl, hidle, hlocated, d, hplacing⟩ := horderly
        obtain ⟨hfree, hunknown⟩ := hfresh
        have hnode := hu.located node hlocated
        obtain ⟨v, hv, rfl⟩ := hhalted
        refine h.scheduled (d := d) hi (keyedById_applyCommand h.keyed _)
          (nodesKeyed_applyCommand h.nodes _)
          (fun k hk => mem_nodes_of_not_remove (fun _ => by simp) hk)
          (FsmState.runsFor_scheduled hnode id address resources)
          (FsmState.serviceOf_scheduled hnode id address resources) hfree
          (fun v hv => (DeployTrace.not_mem_of_knows (hunknown v hv)).1)
          (DeployTrace.not_mem_of_knows (hunknown v hv)).2.1 hidle rfl ?_ rfl
        simp only [DeployTrace.track, hplacing, map_some]
    | status id status =>
      cases ha with
      | refused => cases hrefused
      | applied =>
        obtain ⟨p, hstarting⟩ := horderly
        have hruns := FsmState.runsFor_status (s := w.fsm) id status
        have hterminal : status.isTerminal = false := hfailed
        rw [if_neg (by simp [hterminal])] at hruns
        refine h.healthy hi (keyedById_applyCommand h.keyed _) (nodesKeyed_applyCommand h.nodes _)
          (fun k hk => mem_nodes_of_not_remove (fun _ => by simp) hk) hruns
          (serviceOf_applyCommand (by simp) (by simp)) hstarting rfl rfl ?_
        simp [DeployTrace.track, hterminal, hstarting]
    | stop =>
      cases ha with
      | delivered => exact h.stopped hi rfl rfl rfl
      | undelivered => exact hsame rfl rfl rfl

lemma Ledger.told (h : Ledger before w.fsm halted ts) (hi : ts[i]? = some u)
    (horderly : e.Orderly u) (ha : w.Answered e r w') (hfresh : e.Fresh w.fsm ts)
    (hapart : u.task = .deploy → ∀ f ∈ u.up, f.1 ∉ halted) : e.Told u r := by
  have hmem := mem_of_getElem? hi
  rcases unseen_or_seen horderly with he | he
  · cases ha with
    | visitServices m order horder => exact horder
    | read q => cases q <;> trivial
    | applied c => cases c <;> trivial
    | refused c => cases c <;> trivial
    | _ => trivial
  · cases he with
    | schedule =>
      cases ha <;> exact hfresh.2 u hmem
    | serviceAllocs =>
      cases ha with
      | read q v =>
        intro f hf hne hlisted
        have hruns := (h.backed u hmem).up f hf (hapart horderly.1 f hf)
        obtain ⟨a, ha, -, hservice⟩ := FsmState.runsFor_eq_some.mp hruns
        obtain ⟨b, hb, hbname⟩ := (mem_serviceAllocs h.keyed v).mp hlisted
        obtain rfl := Option.some.inj (ha.symm.trans hb)
        exact hne ((Alloc.name_of_service hservice).symm.trans hbname)
    | commit => cases ha <;> trivial
    | status => cases ha <;> trivial
    | _ => trivial

structure Tidy (t : DeployTrace) : Prop where
  apart : ∀ e ∈ t.entries, e.1 ∉ t.halted
  distinct : (t.entries.map Prod.fst).Nodup

/-- What was listed for a service is what ran for it before, and nothing else that ran before
has been told to stop. -/
structure Stops (before : FsmState) (t : DeployTrace) : Prop where
  listed : ∀ l ∈ t.listings, ∀ id, before.runsFor id = some l.1 → id ∈ l.2 ∨ id ∈ t.halted
  only : ∀ l ∈ t.listings, ∀ id ∈ l.2, ∀ name, before.runsFor id = some name →
    name = l.1 ∨ id ∈ t.halted
  halted : ∀ id ∈ t.halted, ∀ name, before.runsFor id = some name → ∃ l ∈ t.listings, l.1 = name

structure Accounts (before s : FsmState) (t : DeployTrace) (rest : List DeployTrace) : Prop where
  ledger : Ledger before s t.halted (t :: rest)
  tidy : Tidy t
  stops : Stops before t
  config : s.config = t.commits.head?.or before.config
  old : ∀ c, t.old = some c → c = before.config

variable {rest : List DeployTrace}

lemma DeployTrace.halted_track (horderly : e.Orderly t) (r : e.Answer) :
    (t.track e r).halted = e.stops r ++ t.halted := by
  rcases unseen_or_seen horderly with he | he
  · rw [track_of_unseen he, Effect.stops_of_unseen he, nil_append]
  · cases he with
    | commit config | schedule id node name kind address resources | status id status
    | stop => cases r <;> rfl
    | _ => rfl

lemma Tidy.track (h : Tidy t) (horderly : e.Orderly t) (hrefused : e.refused r = false)
    (hfresh : ∀ id node name kind address resources,
      e = .propose (.allocScheduled id node name kind address resources) → t.knows id = false) :
    Tidy (t.track e r) := by
  rcases unseen_or_seen horderly with he | he
  · rw [DeployTrace.track_of_unseen he]
    exact h
  · cases he with
    | commit => cases r <;> exact ⟨h.apart, h.distinct⟩
    | schedule id node name kind address resources =>
      cases r with
      | error => cases hrefused
      | ok response =>
        obtain ⟨-, hidle, -, d, hplacing⟩ := horderly
        obtain ⟨hnew, hhalted, -⟩ := DeployTrace.not_mem_of_knows (hfresh _ _ _ _ _ _ rfl)
        have hentries : (t.track (.propose (.allocScheduled id node name kind address resources))
            (.ok response)).entries = (id, name, d) :: t.entries := by
          simp [DeployTrace.entries, DeployTrace.track, hplacing, hidle]
        refine ⟨fun f hf => ?_, ?_⟩
        · rw [hentries] at hf
          rcases mem_cons.mp hf with rfl | hf
          · exact hhalted
          · exact h.apart f hf
        · rw [hentries, map_cons]
          refine nodup_cons.mpr ⟨fun hmem => ?_, h.distinct⟩
          obtain ⟨f, hf, hid⟩ := List.mem_map.mp hmem
          exact hnew f hf hid
    | status id status =>
      cases r with
      | error => cases hrefused
      | ok response =>
        have hentries : (t.track (.propose (.allocStatus id status)) (.ok response)).entries =
            if status.isTerminal then t.up else t.entries := by
          cases hterminal : status.isTerminal <;>
            simp [DeployTrace.entries, DeployTrace.track, hterminal]
        have hsub : (t.track (.propose (.allocStatus id status)) (.ok response)).entries.Sublist
            t.entries := by
          rw [hentries]
          split_ifs
          · exact sublist_append_right _ _
          · exact List.Sublist.refl _
        exact ⟨fun f hf => h.apart f (hsub.subset hf), (hsub.map Prod.fst).nodup h.distinct⟩
    | stop node id =>
      cases r with
      | error => exact ⟨h.apart, h.distinct⟩
      | ok response =>
        have hentries : (t.track (.send node (.stop id)) (.ok response)).entries =
            t.entries.filter fun f => f.1 ≠ id := by
          simp [DeployTrace.entries, DeployTrace.track, horderly.2.1]
        refine ⟨fun f hf => ?_, ?_⟩
        · rw [hentries] at hf
          obtain ⟨hf, hne⟩ := mem_filter.mp hf
          have hne : f.1 ≠ id := by simpa using hne
          exact fun hmem => (mem_cons.mp hmem).elim hne (h.apart f hf)
        · rw [hentries]
          exact (filter_sublist.map Prod.fst).nodup h.distinct
    | _ => exact ⟨h.apart, h.distinct⟩

lemma Stops.track (h : Stops before t) (hledger : Ledger before w.fsm t.halted (t :: rest))
    (horderly : e.Orderly t) (ha : w.Answered e r w') : Stops before (t.track e r) := by
  rcases unseen_or_seen horderly with he | he
  · rw [DeployTrace.track_of_unseen he]
    exact h
  · cases he with
    | commit config | status id status => cases r <;> exact ⟨h.listed, h.only, h.halted⟩
    | schedule =>
      cases r <;> exact ⟨h.listed, h.only, h.halted⟩
    | serviceAllocs name =>
      cases ha with
      | read q v =>
        refine ⟨fun l hl id hid => ?_, fun l hl id hid n hn => ?_, fun id hid n hn => ?_⟩
        · rcases mem_cons.mp hl with rfl | hl
          · by_cases hhalted : id ∈ t.halted
            · exact .inr hhalted
            · obtain ⟨a, ha, -, hservice⟩ :=
                FsmState.runsFor_eq_some.mp (hledger.kept id name hid hhalted)
              exact .inl ((mem_serviceAllocs hledger.keyed v).mpr
                ⟨a, ha, Alloc.name_of_service hservice⟩)
          · exact h.listed l hl id hid
        · rcases mem_cons.mp hl with rfl | hl
          · by_cases hhalted : id ∈ t.halted
            · exact .inr hhalted
            · obtain ⟨a, ha, -, hservice⟩ :=
                FsmState.runsFor_eq_some.mp (hledger.kept id n hn hhalted)
              obtain ⟨b, hb, hbname⟩ := (mem_serviceAllocs hledger.keyed v).mp hid
              obtain rfl := Option.some.inj (ha.symm.trans hb)
              exact .inl ((Alloc.name_of_service hservice).symm.trans hbname)
          · exact h.only l hl id hid n hn
        · obtain ⟨l, hl, hln⟩ := h.halted id hid n hn
          exact ⟨l, mem_cons_of_mem _ hl, hln⟩
    | stop node id =>
      cases r with
      | error => exact ⟨h.listed, h.only, h.halted⟩
      | ok =>
        obtain ⟨-, hidle, hid⟩ := horderly
        refine ⟨fun l hl j hj => (h.listed l hl j hj).imp_right (mem_cons_of_mem id),
          fun l hl j hj n hn => (h.only l hl j hj n hn).imp_right (mem_cons_of_mem id),
          fun j hj n hn => ?_⟩
        rcases mem_cons.mp hj with rfl | hj
        · rcases hid with ⟨l, hl, hmem⟩ | ⟨f, hf, rfl⟩ | hmem
          · rcases h.only l hl j hmem n hn with rfl | hmem
            · exact ⟨l, hl, rfl⟩
            · exact h.halted j hmem n hn
          · have hfresh :=
              (hledger.backed t mem_cons_self).fresh f (mem_append_right _ hf)
            rw [hfresh] at hn
            cases hn
          · exact h.halted j hmem n hn
        · exact h.halted j hj n hn
    | _ => exact ⟨h.listed, h.only, h.halted⟩

lemma Effect.fresh_of_schedule {s : FsmState} {ts : List DeployTrace} (h : e.Fresh s ts)
    (ht : t ∈ ts) : ∀ id node name kind address resources,
      e = .propose (.allocScheduled id node name kind address resources) → t.knows id = false := by
  rintro id node name kind address resources rfl
  exact h.2 t ht

def Effect.commits (e : Effect) (r : e.Answer) : Option ClusterConfig :=
  match e.applied r with
  | some (.deploy config) => some config
  | _ => none

lemma World.Answered.config_eq (ha : w.Answered e r w') :
    w'.fsm.config = (e.commits r).or w.fsm.config := by
  rw [ha.fsm_eq, Effect.commits]
  cases e.applied r with
  | none => rfl
  | some c =>
    cases c with
    | deploy => rfl
    | _ => exact config_applyCommand (by simp)

lemma DeployTrace.commits_track (t : DeployTrace) (r : e.Answer) :
    (t.track e r).commits = (e.commits r).toList ++ t.commits := by
  cases e with
  | read q => cases q <;> rfl
  | propose c => cases c <;> cases r <;> rfl
  | send node cmd => cases cmd <;> cases r <;> rfl
  | _ => rfl

lemma DeployTrace.old_track (he : e ≠ .read .config) (t : DeployTrace) (r : e.Answer) :
    (t.track e r).old = t.old := by
  unfold track
  split <;> first | rfl | exact absurd rfl he

lemma Effect.stops_of_other (horderly : e.Orderly u) (htask : u.task ≠ .deploy)
    (r : e.Answer) : e.stops r = [] ∧ e.commits r = none := by
  cases e with
  | propose c =>
    cases c with
    | deploy => exact absurd horderly htask
    | _ => cases r <;> exact ⟨rfl, rfl⟩
  | send node cmd =>
    cases cmd with
    | stop => exact absurd horderly.1 htask
    | _ => cases r <;> exact ⟨rfl, rfl⟩
  | _ => exact ⟨rfl, rfl⟩

lemma Accounts.deploy (h : Accounts before w.fsm t rest) (horderly : e.Orderly t)
    (ha : w.Answered e r w') (hrefused : e.refused r = false) (hfresh : e.Fresh w.fsm (t :: rest))
    (hfailed : e.startFails = false) : Accounts before w'.fsm (t.track e r) rest := by
  have hledger := h.ledger.act (i := 0) rfl horderly ha hrefused hfresh
    ⟨t, mem_cons_self, rfl⟩ hfailed
  rw [← DeployTrace.halted_track horderly] at hledger
  refine ⟨hledger, h.tidy.track horderly hrefused (Effect.fresh_of_schedule hfresh
    mem_cons_self), h.stops.track h.ledger horderly ha, ?_, ?_⟩
  · rw [ha.config_eq, h.config, DeployTrace.commits_track]
    cases e.commits r <;> rfl
  · intro c hc
    by_cases hread : e = .read .config
    · subst hread
      cases ha with
      | read =>
        have hnone : t.commits = [] := horderly
        obtain rfl := Option.some.inj hc
        exact h.config.trans (by rw [hnone]; rfl)
    · exact h.old c (DeployTrace.old_track hread t r ▸ hc)

lemma Accounts.other (h : Accounts before w.fsm t rest) (hi : rest[i]? = some u)
    (htask : u.task ≠ .deploy) (horderly : e.Orderly u) (ha : w.Answered e r w')
    (hrefused : e.refused r = false) (hfresh : e.Fresh w.fsm (t :: rest))
    (hfailed : e.startFails = false) : Accounts before w'.fsm t (rest.set i (u.track e r)) := by
  have hledger := h.ledger.act (i := i + 1) hi horderly ha hrefused hfresh
    ⟨t, mem_cons_self, rfl⟩ hfailed
  obtain ⟨hstops, hcommits⟩ := Effect.stops_of_other horderly htask r
  rw [hstops, nil_append, set_cons_succ] at hledger
  refine ⟨hledger, h.tidy, h.stops, ?_, h.old⟩
  rw [ha.config_eq, hcommits, none_or, h.config]

lemma Accounts.report (h : Accounts before w.fsm t rest) {c : Command} (hc : c.reports = true)
    (hruns : ∀ j, (applyCommand w.fsm c).1.runsFor j = w.fsm.runsFor j ∨
      (applyCommand w.fsm c).1.runsFor j = none ∧ j ∈ t.halted) :
    Accounts before (applyCommand w.fsm c).1 t rest := by
  have hschedule : ∀ id node name kind address resources,
      c ≠ .allocScheduled id node name kind address resources := by
    rintro _ _ _ _ _ _ rfl
    cases hc
  have hremove : ∀ id, c ≠ .nodeRemove id := by
    rintro _ rfl
    cases hc
  have hdeploy : ∀ config, c ≠ .deploy config := by
    rintro _ rfl
    cases hc
  refine ⟨h.ledger.reported (keyedById_applyCommand h.ledger.keyed c)
    (nodesKeyed_applyCommand h.ledger.nodes c) (fun k hk => mem_nodes_of_not_remove hremove hk)
    (serviceOf_applyCommand hschedule hremove) hruns, h.tidy, h.stops, ?_, h.old⟩
  rw [config_applyCommand hdeploy, h.config]

lemma Accounts.spawned (h : Accounts before w.fsm t rest) (task : TaskKind) :
    Accounts before w.fsm t (rest ++ [.begin task]) :=
  ⟨h.ledger.spawned task, h.tidy, h.stops, h.config, h.old⟩

lemma accounts_begin {s : FsmState} (hkeyed : KeyedById s) (hnodes : s.NodesKeyed)
    {rest : List DeployTrace} (hrest : ∀ u ∈ rest, ∃ task, u = .begin task) :
    Accounts s s (.begin .deploy) rest := by
  refine ⟨⟨hkeyed, hnodes, fun u hu => ?_, fun _ _ h _ => h, fun _ _ h => .inr (.inl h)⟩,
    ⟨nofun, nodup_nil⟩,
    ⟨nofun, nofun, nofun⟩, rfl,
    nofun⟩
  obtain ⟨task, rfl⟩ : ∃ task, u = .begin task :=
    (mem_cons.mp hu).elim (fun h => ⟨_, h⟩) (hrest u)
  exact ⟨nofun, nofun, nofun,
    nofun⟩

end

def restartTask (ctx : DeployCtx) (name : String) (d : ServiceDef) : Action Bool := do
  restartReplica ctx name d
  pure true

abbrev ClusterTask := DeployTrace × Action Bool

abbrev Cluster := Machine.State Effect Effect.Answer DeployError Bool World DeployTrace

abbrev ClusterEvent := Machine.Event Choice Command

def cluster (ctx : DeployCtx) :
    Machine Effect Effect.Answer DeployError Bool World Choice Command DeployTrace where
  answer := World.answer
  starts
    | .spawnRestart name d => [(.begin (.restart name), restartTask ctx name d)]
    | _ => []
  outside w c :=
    if c.reports then some ({ w with fsm := (applyCommand w.fsm c).1 }, []) else none
  track _ t e r := t.track e r

def Cluster.traces (s : Cluster) : List DeployTrace := s.tasks.map Prod.fst

variable {ctx : DeployCtx} {s s' : Cluster} {t : DeployTrace} {e : Effect}

instance decidableFresh (s : FsmState) (ts : List DeployTrace) (e : Effect) :
    Decidable (e.Fresh s ts) := by
  unfold Effect.Fresh
  split <;> infer_instance

lemma DeployTrace.task_track (t : DeployTrace) (r : e.Answer) : (t.track e r).task = t.task := by
  unfold track
  split <;> rfl

lemma starts_of_deploy (horderly : e.Orderly t) (htask : t.task = .deploy) :
    (cluster ctx).starts e = [] := by
  cases e with
  | spawnRestart => cases htask.symm.trans horderly
  | _ => rfl

lemma cluster_outside {c : Command} (h : (cluster ctx).step s (.outside c) = some s') :
    c.reports = true ∧ s' = ⟨{ s.world with fsm := (applyCommand s.world.fsm c).1 }, s.tasks⟩ := by
  obtain ⟨w, tasks, hw, rfl⟩ := Machine.step_outside_eq_some.mp h
  simp only [cluster] at hw
  split_ifs at hw with hc
  cases hw
  exact ⟨hc, by rw [append_nil]⟩

end Mill
