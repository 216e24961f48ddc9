import Mill.Node.FsmWatcher
import Mill.Proxy.Routes

/-! From the replicated state to the backend of a request: the routes that the primary computes
for the proxy, and what the route table finds in them. -/

namespace Mill

open Transition

def serviceAddresses (allocs : List Alloc) (name : String) : List SocketAddr :=
  (allocs.filter fun a => a.name == name && a.status.isActive && a.address.isSome).filterMap
    Alloc.address

/-- One route for each pair of a route definition and a backend. `services` and `allocs` are the
services of the config and the allocations in the order in which the hash maps are visited. -/
def computeProxyRoutes (fsm : FsmState) (services : List (Σ _ : String, ServiceDef))
    (allocs : List Alloc) : List ProxyRoute :=
  match fsm.config with
  | none => []
  | some _ => services.flatMap fun ⟨name, d⟩ =>
    if d.routes.isEmpty then []
    else
      let addrs := serviceAddresses allocs name
      d.routes.flatMap fun routeDef => addrs.map fun backend =>
        ⟨routeDef.hostname, routeDef.path, backend, routeDef.websocket⟩

structure FsmState.Visits (fsm : FsmState) (services : List (Σ _ : String, ServiceDef))
    (allocs : List Alloc) : Prop where
  services : ∀ config, fsm.config = some config → config.services.entries = services
  allocs : fsm.allocs.values = allocs

def FsmState.Offers (fsm : FsmState) (route : RouteDef) (backend : SocketAddr) : Prop :=
  ∃ config name d i a, fsm.config = some config ∧ config.services.lookup name = some d ∧
    route ∈ d.routes ∧ fsm.allocs.lookup i = some a ∧ a.name = name ∧
    a.status.isActive = true ∧ a.address = some backend

def FsmState.Fits (fsm : FsmState) (hostname path : String) (route : RouteDef)
    (backend : SocketAddr) : Prop :=
  fsm.Offers route backend ∧ route.hostname = hostname ∧ startsWith path route.path = true

lemma mem_serviceAddresses {allocs : List Alloc} {name : String} {backend : SocketAddr} :
    backend ∈ serviceAddresses allocs name ↔ ∃ a ∈ allocs, a.name = name ∧
      a.status.isActive = true ∧ a.address = some backend := by
  simp only [serviceAddresses, List.mem_filterMap, List.mem_filter, Bool.and_eq_true, beq_iff_eq]
  constructor
  · rintro ⟨a, ⟨ha, ⟨hname, hactive⟩, -⟩, haddress⟩
    exact ⟨a, ha, hname, hactive, haddress⟩
  · rintro ⟨a, ha, hname, hactive, haddress⟩
    exact ⟨a, ⟨ha, ⟨hname, hactive⟩, by rw [haddress]; rfl⟩, haddress⟩

variable {fsm : FsmState} {services : List (Σ _ : String, ServiceDef)} {allocs : List Alloc}

lemma mem_computeProxyRoutes (hvisits : fsm.Visits services allocs) {r : ProxyRoute} :
    r ∈ computeProxyRoutes fsm services allocs ↔ ∃ route, fsm.Offers route r.backend ∧
      r = ⟨route.hostname, route.path, r.backend, route.websocket⟩ := by
  unfold computeProxyRoutes
  cases hconfig : fsm.config with
  | none =>
    simp only [List.not_mem_nil, false_iff, not_exists, not_and]
    rintro route ⟨config, _, _, _, _, hsome, _⟩
    rw [hconfig] at hsome
    cases hsome
  | some config =>
    have hservice {name : String} {d : ServiceDef} :
        ⟨name, d⟩ ∈ services ↔ config.services.lookup name = some d := by
      rw [← Option.mem_def, Finmap.mem_lookup_iff, hvisits.services config hconfig]
      exact Multiset.mem_coe.symm
    have halloc {a : Alloc} : a ∈ allocs ↔ ∃ i, fsm.allocs.lookup i = some a := by
      rw [← Finmap.mem_values, hvisits.allocs]
      exact Multiset.mem_coe.symm
    simp only [List.mem_flatMap, Sigma.exists]
    constructor
    · rintro ⟨name, d, hd, hr⟩
      split_ifs at hr
      · cases hr
      · obtain ⟨route, hroute, hr⟩ := List.mem_flatMap.mp hr
        obtain ⟨backend, hbackend, rfl⟩ := List.mem_map.mp hr
        obtain ⟨a, ha, hname, hactive, haddress⟩ := mem_serviceAddresses.mp hbackend
        obtain ⟨i, hi⟩ := halloc.mp ha
        exact ⟨route, ⟨config, name, d, i, a, hconfig, hservice.mp hd, hroute, hi, hname, hactive,
          haddress⟩, rfl⟩
    · rintro ⟨route, ⟨config', name, d, i, a, hconfig', hd, hroute, hi, hname, hactive, haddress⟩,
        hr⟩
      cases hconfig.symm.trans hconfig'
      refine ⟨name, d, hservice.mpr hd, ?_⟩
      have hne : d.routes.isEmpty = false :=
        List.isEmpty_eq_false_iff.mpr (List.ne_nil_of_mem hroute)
      have hbackend : r.backend ∈ serviceAddresses allocs name :=
        mem_serviceAddresses.mpr ⟨a, halloc.mpr ⟨i, hi⟩, hname, hactive, haddress⟩
      rw [hne, if_neg Bool.false_ne_true]
      exact List.mem_flatMap.mpr ⟨route, hroute, List.mem_map.mpr ⟨r.backend, hbackend, hr.symm⟩⟩

/-- A request is matched exactly if it fits a route that the state offers. The match is one of
these routes with one of its backends, and none of them has a longer path. -/
theorem ingress_lookup (hvisits : fsm.Visits services allocs) (hostname path : String) :
    (((RouteTable.new (computeProxyRoutes fsm services allocs)).lookup hostname path).isSome =
        true ↔ ∃ route backend, fsm.Fits hostname path route backend) ∧
      ∀ m, (RouteTable.new (computeProxyRoutes fsm services allocs)).lookup hostname path = some m →
        (∃ route, fsm.Fits hostname path route m.backend ∧ m.path = route.path ∧
          m.websocket = route.websocket) ∧
        ∀ route backend, fsm.Fits hostname path route backend →
          route.path.utf8ByteSize ≤ m.path.utf8ByteSize := by
  -- every fitting route is among the computed ones
  have hcomputed {route : RouteDef} {backend : SocketAddr} (hoffers : fsm.Offers route backend) :
      ⟨route.hostname, route.path, backend, route.websocket⟩ ∈
        computeProxyRoutes fsm services allocs :=
    (mem_computeProxyRoutes hvisits).mpr ⟨route, hoffers, rfl⟩
  constructor
  · rw [RouteTable.lookup_isSome_iff]
    constructor
    · rintro ⟨r, hr, hhost, hpath⟩
      obtain ⟨route, hoffers, heq⟩ := (mem_computeProxyRoutes hvisits).mp hr
      rw [heq] at hhost hpath
      exact ⟨route, r.backend, hoffers, hhost, hpath⟩
    · rintro ⟨route, backend, hoffers, hhost, hpath⟩
      exact ⟨_, hcomputed hoffers, hhost, hpath⟩
  · intro m hm
    obtain ⟨⟨r, hr, hhost, hpath, rfl⟩, hlongest⟩ := RouteTable.of_lookup_eq_some hm
    obtain ⟨route, hoffers, heq⟩ := (mem_computeProxyRoutes hvisits).mp hr
    constructor
    · refine ⟨route, ⟨hoffers, ?_, ?_⟩, ?_, ?_⟩
      · rw [← hhost, heq]
      · rw [heq] at hpath
        exact hpath
      · rw [heq]
      · rw [heq]
    · rintro route' backend ⟨hoffers', hhost', hpath'⟩
      exact hlongest _ (hcomputed hoffers') hhost' hpath'

/-- However writes, notifications and the steps of the watcher interleave: once it waits and nothing
is due, the proxy finds a backend exactly if the current state offers a route that fits, and only
such a backend. -/
theorem settled_routes_current {B : Type} (serde : Serde B) (compute : FsmState → RouteTable)
    (es : List (Watch.Event (StateWrite B))) {inner : StateMachineInner}
    {channel : Watch.Channel Nat} {s : Watch.State StateMachineInner Nat RouteTable}
    (hrun : run (Watch.step (fsmWatcher serde compute)) (Watch.init inner channel) es = some s)
    (hwaiting : s.phase = .waiting) (hdue : ¬ s.Due) (hvisits : s.state.fsm.Visits services allocs)
    (hcompute : compute s.state.fsm = .new (computeProxyRoutes s.state.fsm services allocs))
    (hostname path : String) : (∀ m ∈ s.applied.bind (·.lookup hostname path),
        ∃ route, s.state.fsm.Fits hostname path route m.backend) ∧
      ∀ route backend, s.state.fsm.Fits hostname path route backend →
        (s.applied.bind (·.lookup hostname path)).isSome = true := by
  have htable : s.applied = some (.new (computeProxyRoutes s.state.fsm services allocs)) :=
    (Watch.applied_of_waiting hrun hwaiting hdue).trans (congrArg some hcompute)
  rw [htable, Option.bind_some]
  constructor
  · intro m hm
    obtain ⟨⟨r, hr, hhost, hpath, rfl⟩, -⟩ := RouteTable.of_lookup_eq_some hm
    obtain ⟨route, hoffers, heq⟩ := (mem_computeProxyRoutes hvisits).mp hr
    rw [heq] at hhost hpath
    exact ⟨route, hoffers, hhost, hpath⟩
  · rintro route backend ⟨hoffers, hhost, hpath⟩
    exact RouteTable.lookup_isSome_iff.mpr ⟨⟨route.hostname, route.path, backend, route.websocket⟩,
      (mem_computeProxyRoutes hvisits).mpr ⟨route, hoffers, rfl⟩, hhost, hpath⟩

def demoRoutes : List RouteDef := [⟨"mill.test", "/", false⟩, ⟨"mill.test", "/ws", true⟩]

def demoService : ServiceDef := ⟨"web", 80, 1, ⟨1, 1024⟩, ∅, none, none, demoRoutes, []⟩

def demoBackend : SocketAddr := ⟨.v4 0x0A630001, 50000⟩

def demoServing : Alloc :=
  ⟨⟨"web-0"⟩, ⟨"n"⟩, "web", .service, .healthy, some demoBackend, ⟨1, 1024⟩, none⟩

def demoIngress : FsmState :=
  { (default : FsmState) with
    config := some ⟨Finmap.singleton "web" demoService, ∅⟩
    allocs := Finmap.singleton ⟨"web-0"⟩ demoServing }

lemma demoIngress_visits : demoIngress.Visits [⟨"web", demoService⟩] [demoServing] where
  services config h := by
    cases h
    rfl
  allocs := rfl

theorem ingress_lookup_longest :
    (RouteTable.new (computeProxyRoutes demoIngress [⟨"web", demoService⟩] [demoServing])).lookup
        "mill.test" "/ws/feed" = some ⟨demoBackend, true, "/ws"⟩ ∧
      ∃ route backend, demoIngress.Fits "mill.test" "/ws/feed" route backend := by
  have hfound : (RouteTable.new
      (computeProxyRoutes demoIngress [⟨"web", demoService⟩] [demoServing])).lookup
      "mill.test" "/ws/feed" = some ⟨demoBackend, true, "/ws"⟩ := by decide +kernel
  refine ⟨hfound, (ingress_lookup demoIngress_visits "mill.test" "/ws/feed").1.mp ?_⟩
  rw [hfound]
  rfl

def demoCompute (fsm : FsmState) : RouteTable :=
  .new (computeProxyRoutes fsm [⟨"web", demoService⟩] (fsm.allocs.lookup ⟨"web-0"⟩).toList)

def demoHealthy : List (Watch.Event (StateWrite Contents)) :=
  [.subscribe, .read, .write (.apply [⟨⟨⟨1, 1⟩, 1⟩, .normal (.allocStatus ⟨"web-0"⟩ .healthy)⟩]),
    .applied, .notify 0, .changed, .read, .applied]

theorem settled_routes_current_healthy :
    let before : FsmState := { demoIngress with
      allocs := Finmap.singleton ⟨"web-0"⟩ { demoServing with status := .running } }
    ∃ s, run (Watch.step (fsmWatcher Contents.serde demoCompute))
        (Watch.init ⟨before, none, default, 0⟩ ⟨0, 0⟩) demoHealthy = some s ∧
      s.applied.bind (·.lookup "mill.test" "/ws/feed") = some ⟨demoBackend, true, "/ws"⟩ ∧
      ∃ route, s.state.fsm.Fits "mill.test" "/ws/feed" route demoBackend := by
  intro before
  refine exists_end (p := fun s => (s.phase = .waiting ∧ s.notices = [] ∧
    s.seen = s.channel.version) ∧ s.state.fsm = demoIngress ∧
    s.applied.bind (·.lookup "mill.test" "/ws/feed") = some ⟨demoBackend, true, "/ws"⟩)
    (by decide +kernel) ?_
  rintro s hs ⟨⟨hphase, hnotices, hseen⟩, hfsm, hfound⟩
  have hdue : ¬ s.Due := by simp [Watch.State.Due, hnotices, hseen]
  have hcurrent := settled_routes_current Contents.serde demoCompute demoHealthy hs hphase hdue
    (hfsm ▸ demoIngress_visits) (by rw [hfsm]; rfl) "mill.test" "/ws/feed"
  exact ⟨hfound, hcurrent.1 _ hfound⟩

end Mill
