import Mill.Net.Dns
import Mill.Raft.State

/-! From the replicated state to the answer of a DNS query: the records that the primary computes,
and what the DNS server makes of them. -/

namespace Mill

def activeAddress (a : Alloc) : Option (String × SocketAddr) :=
  if a.status.isActive then a.address.map fun addr => (a.name, addr) else none

/-- The addresses of the active allocations by name; `allocs` are the allocations in the order
in which the hash map is visited. -/
def dnsGroups (allocs : List Alloc) : Finmap fun _ : String => List SocketAddr :=
  Finmap.groupBy Prod.fst Prod.snd (allocs.filterMap activeAddress)

/-- One record for each group; `groups` are the groups in the order in which they are visited. -/
def computeDnsRecords (groups : List (Σ _ : String, List SocketAddr)) : List DnsRecord :=
  groups.map fun g => ⟨g.1, g.2⟩

namespace FsmState

def activeAddresses (fsm : FsmState) (name : String) : Multiset SocketAddr :=
  (fsm.allocs.values.filter fun a => a.name = name ∧ a.status.isActive = true).filterMap
    Alloc.address

end FsmState

lemma coe_filter_activeAddress (allocs : List Alloc) (name : String) :
    (((allocs.filterMap activeAddress).filter fun g => g.1 = name).map Prod.snd) =
      (allocs.filter fun a =>
        a.name = name ∧ a.status.isActive = true).filterMap Alloc.address := by
  induction allocs with
  | nil => rfl
  | cons a allocs ih =>
    by_cases hactive : a.status.isActive = true
    · by_cases hname : a.name = name
      · cases haddress : a.address with
        | none | some addr => simp [activeAddress, hactive, haddress, hname, ih]
      · cases haddress : a.address with
        | none | some addr => simp [activeAddress, hactive, haddress, hname, ih]
    · simp [activeAddress, hactive, ih]

variable {fsm : FsmState} {allocs : List Alloc} {groups : List (Σ _ : String, List SocketAddr)}

lemma activeAddresses_eq (hallocs : fsm.allocs.values = allocs) (name : String) :
    fsm.activeAddresses name =
      ((allocs.filterMap activeAddress).filter fun g => g.1 = name).map Prod.snd := by
  rw [coe_filter_activeAddress, FsmState.activeAddresses, hallocs]
  rfl

lemma lookup_setRecords (hgroups : (dnsGroups allocs).entries = groups) (name : String) :
    (setRecords (computeDnsRecords groups)).lookup name =
      ((dnsGroups allocs).lookup name).map fun addrs => addrs.map SocketAddr.ip := by
  rw [← Finmap.lookup_of_insertions hgroups, setRecords, computeDnsRecords, List.foldl_map]

lemma lookup_dnsGroups (hallocs : fsm.allocs.values = allocs) (name : String) :
    (fsm.activeAddresses name = 0 ∧ (dnsGroups allocs).lookup name = none) ∨
      fsm.activeAddresses name ≠ 0 ∧
        ∃ addrs : List SocketAddr, (dnsGroups allocs).lookup name = some addrs ∧
          fsm.activeAddresses name = addrs := by
  rw [activeAddresses_eq hallocs]
  cases hgroup : (dnsGroups allocs).lookup name with
  | none =>
    have hnone := Finmap.lookup_groupBy_eq_none.mp hgroup
    have hempty : (allocs.filterMap activeAddress).filter (fun g => g.1 = name) = [] :=
      List.filter_eq_nil_iff.mpr fun g hg => by simpa using hnone g hg
    rw [hempty]
    exact .inl ⟨rfl, rfl⟩
  | some =>
    obtain ⟨⟨g, hg, hname⟩, rfl⟩ := Finmap.lookup_groupBy_eq_some.mp hgroup
    refine .inr ⟨fun hzero => ?_, _, rfl, rfl⟩
    have hmem : g ∈ (allocs.filterMap activeAddress).filter fun g => g.1 = name :=
      List.mem_filter.mpr ⟨hg, decide_eq_true hname⟩
    rw [Multiset.coe_eq_zero, List.map_eq_nil_iff] at hzero
    rw [hzero] at hmem
    cases hmem

lemma activeAddresses_ne_zero {name : String} : fsm.activeAddresses name ≠ 0 ↔
    ∃ i a addr, fsm.allocs.lookup i = some a ∧ a.name = name ∧ a.status.isActive = true ∧
      a.address = some addr := by
  rw [← Multiset.card_pos, Multiset.card_pos_iff_exists_mem]
  simp only [FsmState.activeAddresses, Multiset.mem_filterMap, Multiset.mem_filter,
    Finmap.mem_values]
  constructor
  · rintro ⟨addr, a, ⟨⟨i, hi⟩, hname, hactive⟩, haddress⟩
    exact ⟨i, a, addr, hi, hname, hactive, haddress⟩
  · rintro ⟨i, a, addr, hi, hname, hactive, haddress⟩
    exact ⟨addr, a, ⟨⟨i, hi⟩, hname, hactive⟩, haddress⟩

/-- Once the records of a state are set, an A query for a name under `.mill.` is answered with
the IPv4 addresses of the active allocations of that name, and with NXDOMAIN exactly if no active
allocation of that name has an address, and every other name is forwarded, exactly if the library
reads the name back or there is no IPv4 address to give. -/
theorem service_discovery {N : Type} (names : NameText N) (hallocs : fsm.allocs.values = allocs)
    (hgroups : (dnsGroups allocs).entries = groups) {msg : DnsMessage N} {q : DnsQuery N}
    (hq : msg.queries.head? = some q) :
    ((∀ name, names.text q.name = name ++ ".mill." → WellFormedName (names.text q.name) →
      q.queryType = .a →
      ∃ resp, handleQuery names msg (setRecords (computeDnsRecords groups)) = .response resp ∧
        (resp.answers.map ARecord.address : Multiset (BitVec 32)) =
          (fsm.activeAddresses name).filterMap (fun addr => ipv4 addr.ip) ∧
        (resp.responseCode = .nxDomain ↔
          ¬ ∃ i a addr, fsm.allocs.lookup i = some a ∧ a.name = name ∧
            a.status.isActive = true ∧ a.address = some addr)) ∧
      (endsWith (names.text q.name) ".mill." = false →
        handleQuery names msg (setRecords (computeDnsRecords groups)) = .forward)) ↔
    ∀ name, names.text q.name = name ++ ".mill." → WellFormedName (names.text q.name) →
      q.queryType = .a → (names.fromUtf8 (names.text q.name)).isSome = true ∨
        (fsm.activeAddresses name).filterMap (fun addr => ipv4 addr.ip) = 0 := by
  rw [and_iff_left (handleQuery_forward hq)]
  refine forall₄_congr fun name hname hformed htype => ?_
  rw [handleQuery_mill hq htype hname hformed, lookup_setRecords hgroups, ← activeAddresses_ne_zero]
  simp only [QueryResult.response.injEq, exists_eq_left']
  rcases lookup_dnsGroups hallocs name with ⟨hzero, hnone⟩ | ⟨hne, addrs, hsome, haddrs⟩
  · rw [hnone, hzero]
    simp [answer, responseFrom]
  · have hfound : Multiset.filterMap (fun addr : SocketAddr => ipv4 addr.ip) addrs =
        (addrs.map SocketAddr.ip).filterMap ipv4 := by
      rw [List.filterMap_map]
      rfl
    rw [hsome, Option.map_some, answers_answer, haddrs, hfound, ← haddrs]
    split_ifs with hread
    · simp [hread, answer, hne]
    · simp [hread, answer, hne, eq_comm]

/-- Names as the library reads them: a label holds no underscore after its first letter. -/
def demoNames : NameText String where
  text := id
  fromUtf8 text := if (labels text).all (fun l => '_' ∉ l.tail) then some text else none

def demoWebAlloc (i : AllocId) (ip : IpAddr) (status : AllocStatus) : Alloc :=
  ⟨i, ⟨"n"⟩, "web", .service, status, some ⟨ip, 50000⟩, ⟨1, 1024⟩, none⟩

def demoWebAllocs : List Alloc :=
  [demoWebAlloc ⟨"web-0"⟩ (.v4 0x0A630001) .healthy, demoWebAlloc ⟨"web-1"⟩ (.v6 1) .running,
    demoWebAlloc ⟨"web-2"⟩ (.v4 0x0A630003) (.stopped 0)]

def demoDiscovery : FsmState :=
  { (default : FsmState) with
    allocs := demoWebAllocs.foldl (fun m a => m.insert a.id a) ∅ }

def demoGroups : List (Σ _ : String, List SocketAddr) :=
  [⟨"web", [⟨.v4 0x0A630001, 50000⟩, ⟨.v6 1, 50000⟩]⟩]

def demoQuery (name : String) (queryType : RecordType) : DnsMessage String :=
  ⟨1, .query, true, false, .noError, [⟨name, queryType⟩], []⟩

theorem service_discovery_web :
    ∃ resp, handleQuery demoNames (demoQuery "web.mill." .a)
        (setRecords (computeDnsRecords demoGroups)) = .response resp ∧
      (resp.answers.map ARecord.address : Multiset (BitVec 32)) = {0x0A630001} ∧
      ¬ resp.responseCode = .nxDomain := by
  have hallocs : demoDiscovery.allocs.values = demoWebAllocs := by decide +kernel
  have hgroups : (dnsGroups demoWebAllocs).entries = demoGroups := by decide +kernel
  have hq : (demoQuery "web.mill." .a).queries.head? = some ⟨"web.mill.", .a⟩ := rfl
  obtain ⟨resp, hresp, hanswers, hcode⟩ :=
    ((service_discovery demoNames hallocs hgroups hq).mpr fun _ _ _ _ => .inl (by decide +kernel)).1
      "web" (by decide +kernel) (by decide +kernel) rfl
  refine ⟨resp, hresp, ?_, ?_⟩
  · rw [hanswers]
    decide +kernel
  · rw [hcode, not_not]
    have hweb : demoDiscovery.allocs.lookup ⟨"web-0"⟩ =
        some (demoWebAlloc ⟨"web-0"⟩ (.v4 0x0A630001) .healthy) := by decide +kernel
    exact ⟨⟨"web-0"⟩, _, _, hweb, rfl, rfl, rfl⟩

/-- The one allocation of `my_svc` is healthy and has an address, and the answer to an A query for
it is empty. -/
theorem underscore_not_answered :
    let a : Alloc := { demoWebAlloc ⟨"my_svc-0"⟩ (.v4 0x0A630001) .healthy with name := "my_svc" }
    let fsm : FsmState := { (default : FsmState) with allocs := Finmap.singleton a.id a }
    let groups : List (Σ _ : String, List SocketAddr) := [⟨"my_svc", [⟨.v4 0x0A630001, 50000⟩]⟩]
    fsm.allocs.values = [a] ∧ (dnsGroups [a]).entries = groups ∧ WellFormedName "my_svc.mill." ∧
      fsm.activeAddresses "my_svc" = {⟨.v4 0x0A630001, 50000⟩} ∧
      ∃ resp, handleQuery demoNames (demoQuery "my_svc.mill." .a)
          (setRecords (computeDnsRecords groups)) = .response resp ∧
        resp.answers = [] ∧ resp.responseCode = .noError := by
  refine ⟨rfl, by decide +kernel, by decide +kernel, by decide +kernel, _, rfl, ?_, ?_⟩
  · decide +kernel
  · decide +kernel

variable {N : Type}

/-- What a client is told: whether its query is forwarded, and else the code and the addresses. -/
def QueryResult.decision : QueryResult N → Option (ResponseCode × List (BitVec 32))
  | .response resp => some (resp.responseCode, resp.answers.map ARecord.address)
  | .forward => none

lemma decision_handleQuery {names : NameText N} {msg : DnsMessage N} {q : DnsQuery N}
    {records : DnsRecords} (hq : msg.queries.head? = some q) :
    (handleQuery names msg records).decision =
      if endsWith (names.text q.name) ".mill." = false then none
      else if q.queryType = .a then
        match records.lookup (trimEndMatches (names.text q.name) ".mill.") with
        | some addrs => some (.noError,
          if (names.fromUtf8 (names.text q.name)).isSome then addrs.filterMap ipv4 else [])
        | none => some (.nxDomain, [])
      else some (.noError, []) := by
  simp only [handleQuery, hq, Bool.not_eq_true', ne_eq, ite_not]
  split_ifs with hend htype hread
  · rfl
  · cases records.lookup (trimEndMatches (names.text q.name) ".mill.") with
    | none => rfl
    | some addrs =>
      exact congrArg (fun l => some (ResponseCode.noError, l))
        ((answers_answer _ addrs).trans (if_pos hread))
  · cases records.lookup (trimEndMatches (names.text q.name) ".mill.") with
    | none => rfl
    | some addrs =>
      exact congrArg (fun l => some (ResponseCode.noError, l))
        ((answers_answer _ addrs).trans (if_neg hread))
  · rfl

/-- Of two spellings of a name that are cut to the same key, both are the same. -/
lemma eq_of_trimEndMatches {text text' : String} (hcase : SameUpToCase text text')
    (h : trimEndMatches text ".mill." = trimEndMatches text' ".mill.") : text = text' := by
  obtain ⟨k, hk⟩ := exists_trimEnd ".mill.".toList text.toList.length text.toList
  obtain ⟨k', hk'⟩ := exists_trimEnd ".mill.".toList text'.toList.length text'.toList
  have hsame := String.ofList_injective h
  have hlength := congrArg List.length hcase
  rw [List.length_map, List.length_map, hk, hk', hsame] at hlength
  have hcount : k = k' := by simpa using hlength
  apply String.toList_injective
  rw [hk, hk', hsame, hcount]

/-- Two queries, here for one name in two spellings, are told the same whatever the records are
exactly if neither is taken for a name in `.mill.`, or both are and an A query has one key. -/
theorem decisions_agree_iff (names : NameText N) (msg msg' : DnsMessage N) (q q' : DnsQuery N)
    (hq : msg.queries.head? = some q) (hq' : msg'.queries.head? = some q')
    (htype : q.queryType = q'.queryType)
    (hcase : SameUpToCase (names.text q.name) (names.text q'.name)) :
    (∀ records, (handleQuery names msg (setRecords records)).decision =
      (handleQuery names msg' (setRecords records)).decision) ↔
    endsWith (names.text q.name) ".mill." = endsWith (names.text q'.name) ".mill." ∧
      (endsWith (names.text q.name) ".mill." = true → q.queryType = .a →
        trimEndMatches (names.text q.name) ".mill." =
          trimEndMatches (names.text q'.name) ".mill.") := by
  simp only [decision_handleQuery hq, decision_handleQuery hq', ← htype]
  constructor
  · intro h
    have hone := h [⟨trimEndMatches (names.text q.name) ".mill.", [⟨.v4 0, 0⟩]⟩]
    simp only [setRecords, List.foldl_cons, List.foldl_nil, Finmap.lookup_insert] at hone
    cases hend : endsWith (names.text q.name) ".mill." <;>
      cases hend' : endsWith (names.text q'.name) ".mill." <;> rw [hend, hend'] at hone
    · exact ⟨rfl, nofun⟩
    · grind
    · grind
    · refine ⟨rfl, fun _ ha => ?_⟩
      by_contra hne
      rw [Finmap.lookup_insert_of_ne _ (Ne.symm hne)] at hone
      simp [ha] at hone
  · rintro ⟨hend, hkey⟩ records
    by_cases hmill : endsWith (names.text q.name) ".mill." = true
    · by_cases ha : q.queryType = .a
      · rw [eq_of_trimEndMatches hcase (hkey hmill ha)]
      · simp [← hend, hmill, ha]
    · simp [← hend, hmill]

theorem decisions_agree_iff_aaaa :
    let decision name := (handleQuery demoNames (demoQuery name .aaaa)
      (setRecords [⟨"web", [⟨.v4 7, 80⟩]⟩])).decision
    decision "web.mill." = decision "Web.mill." :=
  (decisions_agree_iff demoNames (demoQuery "web.mill." .aaaa) (demoQuery "Web.mill." .aaaa) _ _ rfl
    rfl rfl (by decide)).mpr (by decide) _

/-- A label, or the zone, in upper case. -/
theorem spelling_changes_decision :
    SameUpToCase "web.mill." "Web.mill." ∧ SameUpToCase "web.mill." "web.MILL." ∧
    let decision name := (handleQuery demoNames (demoQuery name .a)
      (setRecords [⟨"web", [⟨.v4 7, 80⟩]⟩])).decision
    decision "web.mill." = some (.noError, [7]) ∧ decision "Web.mill." = some (.nxDomain, []) ∧
      decision "web.MILL." = none := by
  decide +kernel

end Mill
