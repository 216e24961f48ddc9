import Mathlib.Data.List.Sort
import Mill.Config.Runtime
import Mill.Lib.Group

/-! The route table of the proxy. The routes of a hostname are sorted by the length of their
paths, the longest first, and the first one that fits a request is taken. -/

namespace Mill

open Option

structure ProxyRoute where
  hostname : String
  path : String
  backend : SocketAddr
  websocket : Bool
deriving DecidableEq

structure RouteEntry where
  path : String
  backend : SocketAddr
  websocket : Bool
deriving DecidableEq

structure RouteMatch where
  backend : SocketAddr
  websocket : Bool
  path : String
deriving DecidableEq

def startsWith (text start : String) : Bool := start.toList.isPrefixOf text.toList

def ProxyRoute.entry (r : ProxyRoute) : RouteEntry := ⟨r.path, r.backend, r.websocket⟩

namespace RouteEntry

def Before (a b : RouteEntry) : Prop := b.path.utf8ByteSize ≤ a.path.utf8ByteSize

instance : DecidableRel Before := fun a b =>
  inferInstanceAs (Decidable (b.path.utf8ByteSize ≤ a.path.utf8ByteSize))

instance : Std.Total Before := ⟨fun a b => Nat.le_total b.path.utf8ByteSize a.path.utf8ByteSize⟩

instance : IsTrans RouteEntry Before := ⟨fun _ _ _ hab hbc => Nat.le_trans hbc hab⟩

end RouteEntry

structure RouteTable where
  routes : Finmap fun _ : String => List RouteEntry
deriving DecidableEq

namespace RouteTable

/-- Sorting is stable: routes with paths of one length stay in the order in which they came. -/
def new (proxyRoutes : List ProxyRoute) : RouteTable where
  routes := (Finmap.groupBy ProxyRoute.hostname ProxyRoute.entry proxyRoutes).mapVals
    fun _ entries => entries.insertionSort RouteEntry.Before

def lookup (table : RouteTable) (hostname path : String) : Option RouteMatch := do
  let entries ← table.routes.lookup hostname
  let entry ← entries.find? fun e => startsWith path e.path
  some ⟨entry.backend, entry.websocket, entry.path⟩

variable {proxyRoutes : List ProxyRoute} {hostname path : String}

lemma routes_new {entries : List RouteEntry}
    (h : (new proxyRoutes).routes.lookup hostname = some entries) :
    entries.Pairwise RouteEntry.Before ∧
      ∀ e, e ∈ entries ↔ ∃ r ∈ proxyRoutes, r.hostname = hostname ∧ r.entry = e := by
  rw [new, Finmap.lookup_mapVals] at h
  obtain ⟨unsorted, hgroup, rfl⟩ := map_eq_some_iff.mp h
  obtain ⟨-, rfl⟩ := Finmap.lookup_groupBy_eq_some.mp hgroup
  refine ⟨List.pairwise_insertionSort .., fun e => ?_⟩
  rw [List.mem_insertionSort]
  simp only [List.mem_map, List.mem_filter, decide_eq_true_eq, and_assoc]

lemma lookup_isSome_iff : ((new proxyRoutes).lookup hostname path).isSome = true ↔
    ∃ r ∈ proxyRoutes, r.hostname = hostname ∧ startsWith path r.path = true := by
  unfold lookup
  cases hentries : (new proxyRoutes).routes.lookup hostname with
  | none =>
    rw [new, Finmap.lookup_mapVals, map_eq_none_iff, Finmap.lookup_groupBy_eq_none] at hentries
    simp only [bind_eq_bind, bind_none, isSome_none, Bool.false_eq_true,
      false_iff, not_exists, not_and]
    exact fun r hr hhost => absurd hhost (hentries r hr)
  | some =>
    obtain ⟨-, hmem⟩ := routes_new hentries
    simp only [bind_eq_bind, bind_some, isSome_bind, isSome_some, any_true, List.find?_isSome, hmem]
    constructor
    · rintro ⟨_, ⟨r, hr, hhost, rfl⟩, hpath⟩
      exact ⟨r, hr, hhost, hpath⟩
    · rintro ⟨r, hr, hhost, hpath⟩
      exact ⟨r.entry, ⟨r, hr, hhost, rfl⟩, hpath⟩

lemma of_lookup_eq_some {m : RouteMatch} (h : (new proxyRoutes).lookup hostname path = some m) :
    (∃ r ∈ proxyRoutes, r.hostname = hostname ∧ startsWith path r.path = true ∧
      m = ⟨r.backend, r.websocket, r.path⟩) ∧
    ∀ r ∈ proxyRoutes, r.hostname = hostname → startsWith path r.path = true →
      r.path.utf8ByteSize ≤ m.path.utf8ByteSize := by
  obtain ⟨entries, hentries, hfind⟩ := bind_eq_some_iff.mp h
  obtain ⟨entry, hentry, hm⟩ := bind_eq_some_iff.mp hfind
  cases hm
  obtain ⟨hsorted, hmem⟩ := routes_new hentries
  obtain ⟨hfits, before, after, rfl, hbefore⟩ := List.find?_eq_some_iff_append.mp hentry
  constructor
  · obtain ⟨r, hr, hhost, rfl⟩ := (hmem entry).mp (by simp)
    exact ⟨r, hr, hhost, hfits, rfl⟩
  · intro r hr hhost hpath
    -- a route that fits is the one found or comes after it
    rcases List.mem_append.mp ((hmem r.entry).mpr ⟨r, hr, hhost, rfl⟩) with hin | hin
    · have hmiss := hbefore _ hin
      simp only [ProxyRoute.entry, hpath, Bool.not_true, Bool.false_eq_true] at hmiss
    · rcases List.mem_cons.mp hin with heq | hin
      · rw [← heq]
        exact Nat.le_refl _
      · have hpairs := (List.pairwise_append.mp hsorted).2.1
        exact (List.pairwise_cons.mp hpairs).1 r.entry hin

end RouteTable

end Mill
