import Mathlib.Data.List.TakeWhile
import Mill.Net.Dns
import Mill.Proxy.Routes

/-! The host of a request, and the route that is taken for it. -/

namespace Mill

/-- A request: the value of its Host header, the host in its URI, and its path. -/
structure ProxyRequest where
  host : Option (List UInt8)
  uriHost : Option String
  path : String

/-- `HeaderValue::to_str`, which fails but for visible ASCII. -/
def headerText (value : List UInt8) : Option (List Char) :=
  if value.all fun b => 32 ≤ b && b < 127 || b = 9 then
    some (value.map fun b => Char.ofNat b.toNat)
  else none

def extractHost (req : ProxyRequest) : Option String :=
  match req.host.bind headerText with
  | some host =>
    let hostname := host.takeWhile (· ≠ ':')
    if hostname ≠ [] then some (String.ofList hostname) else req.uriHost
  | none => req.uriHost

def selectRoute (routes : List ProxyRoute) (req : ProxyRequest) : Option RouteMatch :=
  (extractHost req).bind fun hostname => (RouteTable.new routes).lookup hostname req.path

/-- A Host header: a name, an IPv4 address or an IPv6 address in brackets, and perhaps a port. -/
structure HostHeader where
  host : String
  port : Option (List Char)
  valid : (host ≠ "" ∧ ':' ∉ host.toList) ∨
    ∃ inner, ':' ∈ inner ∧ host.toList = '[' :: (inner ++ [']'])

namespace HostHeader

def text (h : HostHeader) : List Char := h.host.toList ++ (h.port.map (':' :: ·)).getD []

variable {h : HostHeader} {req : ProxyRequest}

lemma takeWhile_eq (hcolon : ':' ∉ h.host.toList) :
    h.host.toList.takeWhile (· ≠ ':') = h.host.toList := by
  rw [List.takeWhile_eq_self_iff]
  grind

lemma extractHost_eq (hreq : req.host.bind headerText = some h.text) :
    extractHost req = some (String.ofList (h.host.toList.takeWhile (· ≠ ':'))) := by
  have hcut : h.text.takeWhile (· ≠ ':') = h.host.toList.takeWhile (· ≠ ':') := by
    rw [text, List.takeWhile_append]
    split_ifs with hall
    · have hport : ((h.port.map (':' :: ·)).getD []).takeWhile (· ≠ ':') = [] := by
        cases h.port <;> simp
      rw [hport, List.append_nil]
      exact ((List.takeWhile_prefix _).eq_of_length hall).symm
    · rfl
  have hsome : h.host.toList.takeWhile (· ≠ ':') ≠ [] := by
    rcases h.valid with ⟨hne, hcolon⟩ | ⟨inner, -, heq⟩
    · rw [takeWhile_eq hcolon]
      exact fun h => hne (String.toList_inj.mp h)
    · simp [heq]
  rw [extractHost, hreq]
  simp only [hcut]
  rw [if_pos hsome]

end HostHeader

lemma SameUpToCase.colon {a b : String} (h : SameUpToCase a b) (ha : ':' ∈ a.toList) :
    ':' ∈ b.toList := by
  have hin : ':' ∈ b.toList.map Char.toLower := h ▸ List.mem_map.mpr ⟨':', ha, rfl⟩
  obtain ⟨c, hc, heq⟩ := List.mem_map.mp hin
  have hcolon : c = ':' := by
    unfold Char.toLower at heq
    split at heq
    · have hval : c.val + 32 = 58 := congrArg Char.val heq
      grind
    · exact heq
  exact hcolon ▸ hc

/-- Two Host headers for one host give one route, configured for it, in every route table exactly
if they spell the host alike and it is not an IPv6 address. -/
theorem host_matching_iff (h h' : HostHeader) (req req' : ProxyRequest)
    (hpath : req.path = req'.path) (hreq : req.host.bind headerText = some h.text)
    (hreq' : req'.host.bind headerText = some h'.text) (hsame : SameUpToCase h.host h'.host) :
    (∀ routes, selectRoute routes req = selectRoute routes req' ∧
      ∀ m ∈ selectRoute routes req, ∃ r ∈ routes, SameUpToCase r.hostname h.host ∧
        startsWith req.path r.path = true ∧ m = ⟨r.backend, r.websocket, r.path⟩) ↔
    h.host = h'.host ∧ ':' ∉ h.host.toList := by
  simp only [selectRoute, HostHeader.extractHost_eq hreq, HostHeader.extractHost_eq hreq', ← hpath,
    Option.bind_some]
  constructor
  · intro hall
    have hone (hostname : String) : ((RouteTable.new [⟨hostname, "", ⟨.v4 0, 0⟩, false⟩]).lookup
        hostname req.path).isSome = true :=
      RouteTable.lookup_isSome_iff.mpr ⟨_, List.mem_singleton_self _, rfl, rfl⟩
    have hcolon : ':' ∉ h.host.toList := by
      intro hin
      obtain ⟨m, hm⟩ := Option.isSome_iff_exists.mp (hone _)
      obtain ⟨r, hr, hhost, -⟩ := (hall _).2 m hm
      cases List.mem_singleton.mp hr
      -- the part before the colon is not the host
      have hcut := SameUpToCase.colon hhost.symm hin
      rw [String.toList_ofList] at hcut
      simpa using List.mem_takeWhile_imp hcut
    refine ⟨?_, hcolon⟩
    have hcolon' : ':' ∉ h'.host.toList := fun hin => hcolon (SameUpToCase.colon hsame.symm hin)
    simp only [HostHeader.takeWhile_eq hcolon, HostHeader.takeWhile_eq hcolon',
      String.ofList_toList] at hall
    have hfound := hone h.host
    rw [(hall _).1, RouteTable.lookup_isSome_iff] at hfound
    obtain ⟨r, hr, hhost, -⟩ := hfound
    cases List.mem_singleton.mp hr
    exact hhost
  · rintro ⟨heq, hcolon⟩ routes
    rw [← heq, HostHeader.takeWhile_eq hcolon, String.ofList_toList]
    refine ⟨rfl, fun m hm => ?_⟩
    obtain ⟨⟨r, hr, hhost, hfits, hm⟩, -⟩ := RouteTable.of_lookup_eq_some hm
    exact ⟨r, hr, by rw [hhost], hfits, hm⟩

def demoRoute : ProxyRoute := ⟨"example.com", "/", ⟨.v4 7, 80⟩, false⟩

def demoHostRequest (host : String) : ProxyRequest :=
  ⟨some (host.toList.map fun c => UInt8.ofNat c.toNat), none, "/"⟩

theorem host_matching_iff_port : selectRoute [demoRoute] (demoHostRequest "example.com") =
      selectRoute [demoRoute] (demoHostRequest "example.com:80") :=
  (((host_matching_iff ⟨"example.com", none, .inl (by decide)⟩
    ⟨"example.com", some "80".toList, .inl (by decide)⟩ (demoHostRequest "example.com")
    (demoHostRequest "example.com:80") rfl (by decide) (by decide) rfl).mpr (by decide))
      [demoRoute]).1

/-- Another spelling finds no route, and an IPv6 address is cut at its first colon. -/
theorem spelling_changes_route :
    (selectRoute [demoRoute] (demoHostRequest "example.com")).isSome = true ∧
    SameUpToCase "example.com" "Example.com" ∧
    selectRoute [demoRoute] (demoHostRequest "Example.com") = none ∧
    selectRoute [{ demoRoute with hostname := "[::1]" }] (demoHostRequest "[::1]:80") = none := by
  decide +kernel

end Mill
