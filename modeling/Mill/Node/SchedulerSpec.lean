import Mill.Node.VolumeAffinity

/-! What the scheduler is for, said without lists and loops: a request that is not pinned by
a volume goes to a node with the least score among the ready nodes with room, where for a
service the nodes that do not carry it yet come first. -/

namespace Mill

open List

namespace ScheduleRequest

variable (request : ScheduleRequest) (nodes : Set FsmNode) (taken : Set NodeId)
  (available : Nat → Option NodeResources)

def Fits (n : FsmNode) : Prop :=
  n.status = .ready ∧ ∃ avail, available n.raftId = some avail ∧
    request.need.cpu ≤ avail.cpuAvailable ∧ request.need.memory ≤ avail.memoryAvailable

/-- A fitting node, and for a service one that does not carry it if there is such a node; `taken`
are the nodes that carry it. -/
def Preferred (n : FsmNode) : Prop :=
  n ∈ nodes ∧ request.Fits available n ∧ (request.kind = .service →
      (∃ n' ∈ nodes, request.Fits available n' ∧ n'.millId ∉ taken) → n.millId ∉ taken)

def Best (n : FsmNode) : Prop :=
  request.Preferred nodes taken available n ∧
    ∀ n' avail avail', request.Preferred nodes taken available n' →
      available n.raftId = some avail → available n'.raftId = some avail' →
        binPackScore avail ≤ binPackScore avail'

def takenBy (allocs : List (NodeId × String × AllocKind)) : Set NodeId :=
  { m | (m, request.name, .service) ∈ allocs }

end ScheduleRequest

section

variable {request : ScheduleRequest} {nodes : List FsmNode}
  {allocs : List (NodeId × String × AllocKind)} {volumes : List (String × FsmVolume)}
  {available : Nat → Option NodeResources} {n : FsmNode} {c : FsmNode × NodeResources} {m : NodeId}

lemma hasCapacity_eq_true {avail : Option NodeResources} {need : Resources} :
    hasCapacity avail need = true ↔
      ∃ a, avail = some a ∧ need.cpu ≤ a.cpuAvailable ∧ need.memory ≤ a.memoryAvailable := by
  cases avail with
  | none => simp [hasCapacity]
  | some => simp [hasCapacity]

lemma fits_iff_hasCapacity : request.Fits available n ↔
    n.status = .ready ∧ hasCapacity (available n.raftId) request.need = true := by
  rw [hasCapacity_eq_true]
  rfl

lemma mem_candidates_iff_fits : c ∈ request.candidates nodes available ↔
      c.1 ∈ nodes ∧ request.Fits available c.1 ∧ available c.1.raftId = some c.2 := by
  rw [mem_candidates, fits_iff_hasCapacity]
  constructor
  · rintro ⟨hn, hready, havail, hroom⟩
    exact ⟨hn, ⟨hready, havail ▸ hroom⟩, havail⟩
  · rintro ⟨hn, ⟨hready, hroom⟩, havail⟩
    exact ⟨hn, hready, havail, havail ▸ hroom⟩

lemma mem_nodesWithSame :
    m ∈ (allocs.filter fun a => a.2.1 == request.name && a.2.2 == .service).map Prod.fst ↔
      m ∈ request.takenBy allocs := by
  simp only [mem_map, mem_filter, Bool.and_eq_true, beq_iff_eq]
  constructor
  · rintro ⟨⟨node, name, kind⟩, ⟨ha, rfl, rfl⟩, rfl⟩
    exact ha
  · intro h
    exact ⟨_, ⟨h, rfl, rfl⟩, rfl⟩

lemma spread_eq_filter (allocs : List (NodeId × String × AllocKind))
    (cs : List (FsmNode × NodeResources)) : ∃ q, request.spread allocs cs = cs.filter q := by
  have hall : cs = cs.filter fun _ => true := (filter_eq_self.mpr fun _ _ => rfl).symm
  unfold ScheduleRequest.spread
  split_ifs
  · dsimp only
    split_ifs
    · exact ⟨_, hall⟩
    · exact ⟨_, rfl⟩
  · exact ⟨_, hall⟩

lemma mem_spread {cs : List (FsmNode × NodeResources)} :
    c ∈ request.spread allocs cs ↔ c ∈ cs ∧ (request.kind = .service →
      (∃ c' ∈ cs, c'.1.millId ∉ request.takenBy allocs) → c.1.millId ∉ request.takenBy allocs) := by
  unfold ScheduleRequest.spread
  split_ifs with hkind
  · dsimp only
    split_ifs with hempty
    · -- no candidate is free, so all of them are kept
      have hnone : ¬ ∃ c' ∈ cs, c'.1.millId ∉ request.takenBy allocs := by
        rintro ⟨c', hc', hfree⟩
        refine filter_eq_nil_iff.mp (List.isEmpty_iff.mp hempty) c' hc' ?_
        rw [decide_eq_true_eq, mem_nodesWithSame]
        exact hfree
      simp only [hkind, hnone, false_imp_iff, imp_true_iff, and_true]
    · obtain ⟨c', hc'⟩ := exists_mem_of_ne_nil _ (mt List.isEmpty_iff.mpr hempty)
      rw [mem_filter, decide_eq_true_eq, mem_nodesWithSame] at hc'
      rw [mem_filter, decide_eq_true_eq, mem_nodesWithSame]
      have hsome : ∃ c' ∈ cs, c'.1.millId ∉ request.takenBy allocs := ⟨c', hc'⟩
      simp only [hkind, hsome, true_imp_iff]
  · simp only [hkind, false_imp_iff, and_true]

lemma mem_spread_iff_preferred : c ∈ request.spread allocs (request.candidates nodes available) ↔
      request.Preferred { n | n ∈ nodes } (request.takenBy allocs) available c.1 ∧
        available c.1.raftId = some c.2 := by
  have hfree : (∃ c' ∈ request.candidates nodes available, c'.1.millId ∉ request.takenBy allocs) ↔
      ∃ n' ∈ nodes, request.Fits available n' ∧ n'.millId ∉ request.takenBy allocs := by
    constructor
    · rintro ⟨c', hc', hfree⟩
      obtain ⟨hn', hfits', -⟩ := mem_candidates_iff_fits.mp hc'
      exact ⟨c'.1, hn', hfits', hfree⟩
    · rintro ⟨n', hn', hfits', hfree⟩
      obtain ⟨avail', havail', -⟩ := hfits'.2
      exact ⟨(n', avail'), mem_candidates_iff_fits.mpr ⟨hn', hfits', havail'⟩, hfree⟩
  rw [mem_spread, hfree, mem_candidates_iff_fits]
  constructor
  · rintro ⟨⟨hn, hfits, havail⟩, hspread⟩
    exact ⟨⟨hn, hfits, hspread⟩, havail⟩
  · rintro ⟨⟨hn, hfits, hspread⟩, havail⟩
    exact ⟨⟨hn, hfits, havail⟩, hspread⟩

lemma schedule_of_not_attached (h : request.attachedTo volumes = none) :
    schedule request nodes allocs volumes available =
      ((request.spread allocs (request.candidates nodes available)).argmin
        fun c => binPackScore c.2).map fun c => c.1.millId := by
  rw [schedule, h]
  dsimp only
  split_ifs with hempty
  · have hnil : request.spread allocs (request.candidates nodes available) = [] := by
      rw [eq_nil_iff_forall_not_mem]
      intro c hc
      have hmem := mem_of_mem_spread hc
      rw [List.isEmpty_iff.mp hempty] at hmem
      exact absurd hmem not_mem_nil
    rw [hnil]
    rfl
  · rfl

lemma exists_best_of_schedule (h : request.attachedTo volumes = none)
    (hm : schedule request nodes allocs volumes available = some m) :
    ∃ n, request.Best { n | n ∈ nodes } (request.takenBy allocs) available n ∧ n.millId = m := by
  rw [schedule_of_not_attached h] at hm
  obtain ⟨c, hc, rfl⟩ := Option.map_eq_some_iff.mp hm
  obtain ⟨hpreferred, havail⟩ := mem_spread_iff_preferred.mp (argmin_mem hc)
  refine ⟨c.1, ⟨hpreferred, ?_⟩, rfl⟩
  intro n' avail avail' hn' ha ha'
  have hmem : (n', avail') ∈ request.spread allocs (request.candidates nodes available) :=
    mem_spread_iff_preferred.mpr ⟨hn', ha'⟩
  cases havail.symm.trans ha
  have hle := le_of_mem_argmin (f := fun c : FsmNode × NodeResources => binPackScore c.2) hmem hc
  dsimp only at hle
  exact hle

lemma schedule_isSome_iff (h : request.attachedTo volumes = none) :
    (∃ m, schedule request nodes allocs volumes available = some m) ↔
      ∃ n ∈ nodes, request.Fits available n := by
  constructor
  · rintro ⟨m, hm⟩
    obtain ⟨n, ⟨⟨hn, hfits, -⟩, -⟩, -⟩ := exists_best_of_schedule h hm
    exact ⟨n, hn, hfits⟩
  · rintro ⟨n, hn, hfits⟩
    obtain ⟨hready, hroom⟩ := fits_iff_hasCapacity.mp hfits
    exact exists_schedule_of_room h hn hready hroom allocs

lemma candidates_cons {avail : NodeResources} (hfits : request.Fits available n)
    (havail : available n.raftId = some avail) :
    request.candidates (n :: nodes) available =
      (n, avail) :: request.candidates nodes available := by
  obtain ⟨hready, hroom⟩ := fits_iff_hasCapacity.mp hfits
  rw [havail] at hroom
  simp [ScheduleRequest.candidates, hready, havail, hroom]

lemma schedule_of_best_head (h : request.attachedTo volumes = none)
    (hn : request.Best { n' | n' ∈ n :: nodes } (request.takenBy allocs) available n) :
    schedule request (n :: nodes) allocs volumes available = some n.millId := by
  obtain ⟨avail, havail, -⟩ := hn.1.2.1.2
  have hmem : (n, avail) ∈ request.spread allocs (request.candidates (n :: nodes) available) :=
    mem_spread_iff_preferred.mpr ⟨hn.1, havail⟩
  obtain ⟨rest, hrest⟩ : ∃ rest, request.spread allocs (request.candidates (n :: nodes) available) =
      (n, avail) :: rest := by
    obtain ⟨q, hq⟩ := spread_eq_filter allocs (request.candidates (n :: nodes) available)
    rw [hq] at hmem ⊢
    rw [candidates_cons hn.1.2.1 havail, filter_cons_of_pos (mem_filter.mp hmem).2]
    exact ⟨_, rfl⟩
  have hleast : ∀ c ∈ rest, ¬ binPackScore c.2 < binPackScore avail := by
    intro c hc
    have hspread : c ∈ request.spread allocs (request.candidates (n :: nodes) available) := by
      rw [hrest]
      exact mem_cons_of_mem _ hc
    obtain ⟨hpreferred, hc'⟩ := mem_spread_iff_preferred.mp hspread
    exact not_lt.mpr (hn.2 c.1 avail c.2 hpreferred havail hc')
  rw [schedule_of_not_attached h, hrest, argmin_cons]
  cases hmin : rest.argmin fun c => binPackScore c.2 with
  | none => rfl
  | some c => exact congrArg _ (if_neg (hleast c (argmin_mem hmin)))

lemma attachedTo_eq_some : request.attachedTo volumes = some m ↔
    ∃ v e, request.volume = some v ∧ volumes.find? (fun e => e.1 == v) = some e ∧
      e.2.state = .attached m := by
  simp only [ScheduleRequest.attachedTo, Option.bind_eq_bind, Option.bind_eq_some_iff]
  constructor
  · rintro ⟨v, hv, e, he, hm⟩
    refine ⟨v, e, hv, he, ?_⟩
    cases hstate : e.2.state with
    | attached =>
      rw [hstate] at hm
      cases hm
      rfl
    | ready =>
      rw [hstate] at hm
      cases hm
  · rintro ⟨v, e, hv, he, hm⟩
    refine ⟨v, hv, e, he, ?_⟩
    rw [hm]

lemma schedule_of_attached (h : request.attachedTo volumes = some m) :
    schedule request nodes allocs volumes available = some m ↔
      ∃ n ∈ nodes, n.millId = m ∧ request.Fits available n := by
  rw [schedule_of_attachedTo h, Option.ite_none_right_eq_some, List.any_eq_true]
  simp only [Bool.and_eq_true, beq_iff_eq, fits_iff_hasCapacity, and_true, and_assoc]

/-- The scheduler, whole: the node of an attached volume or none, and otherwise a best node. -/
theorem schedule_spec (request : ScheduleRequest) (nodes : List FsmNode)
    (allocs : List (NodeId × String × AllocKind)) (volumes : List (String × FsmVolume))
    (available : Nat → Option NodeResources) :
    (∀ v e m, request.volume = some v → volumes.find? (fun e => e.1 == v) = some e →
      e.2.state = .attached m → ((∃ n ∈ nodes, n.millId = m ∧ request.Fits available n) →
          schedule request nodes allocs volumes available = some m) ∧
        ((¬ ∃ n ∈ nodes, n.millId = m ∧ request.Fits available n) →
          schedule request nodes allocs volumes available = none)) ∧
    ((∀ v e m, request.volume = some v → volumes.find? (fun e => e.1 == v) = some e →
      e.2.state ≠ .attached m) → ((∃ m, schedule request nodes allocs volumes available = some m) ↔
          ∃ n ∈ nodes, request.Fits available n) ∧
        ∀ m, schedule request nodes allocs volumes available = some m →
          ∃ n, request.Best { n | n ∈ nodes } (request.takenBy allocs) available n ∧
            n.millId = m) := by
  constructor
  · intro v e m hv he hm
    have hattached : request.attachedTo volumes = some m :=
      attachedTo_eq_some.mpr ⟨v, e, hv, he, hm⟩
    refine ⟨(schedule_of_attached hattached).mpr, fun hnot => ?_⟩
    rw [schedule_of_attachedTo hattached, if_neg]
    intro hany
    apply hnot
    have hplaced : schedule request nodes allocs volumes available = some m := by
      rw [schedule_of_attachedTo hattached, if_pos hany]
    exact (schedule_of_attached hattached).mp hplaced
  · intro hnot
    have hfree : request.attachedTo volumes = none := by
      rw [Option.eq_none_iff_forall_ne_some]
      intro m hm
      obtain ⟨v, e, hv, he, hstate⟩ := attachedTo_eq_some.mp hm
      exact hnot v e m hv he hstate
    exact ⟨schedule_isSome_iff hfree, fun m hm => exists_best_of_schedule hfree hm⟩

end

/-- The nodes that `start_alloc` may choose for a replica: its first step is to run the scheduler on
the state, with the maps visited in any order. -/
def mayChoose (s : FsmState) (name : String) (d : ServiceDef) : Set NodeId :=
  { m | ∃ v : View s, Query.eval s v (.place name d) = some m }

def FsmState.nodeSet (s : FsmState) : Set FsmNode := { n | n ∈ s.nodes.values }

def FsmState.carriers (s : FsmState) (name : String) : Set NodeId :=
  { m | ∃ i a, s.allocs.lookup i = some a ∧ a.node = m ∧ a.name = name ∧ a.kind = .service }

variable {s t : FsmState} {name : String} {d : ServiceDef} {m : NodeId}

lemma takenBy_view (v : View s) (d : ServiceDef) :
    (d.request name).takenBy (v.allocs.map fun a => (a.node, a.name, a.kind)) =
      s.carriers name := by
  have hmem (a : Alloc) : a ∈ v.allocs ↔ ∃ i, s.allocs.lookup i = some a := by
    rw [← Finmap.mem_values, v.allocs_eq, Multiset.mem_coe]
  ext m
  simp only [ScheduleRequest.takenBy, FsmState.carriers, ServiceDef.request, Set.mem_ofPred_eq,
    mem_map, hmem, Prod.mk.injEq]
  constructor
  · rintro ⟨a, ⟨i, hi⟩, hnode, hname, hkind⟩
    exact ⟨i, a, hi, hnode, hname, hkind⟩
  · rintro ⟨i, a, hi, hnode, hname, hkind⟩
    exact ⟨a, ⟨i, hi⟩, hnode, hname, hkind⟩

lemma nodes_view (v : View s) : { n | n ∈ v.nodes } = s.nodeSet := by
  ext n
  rw [FsmState.nodeSet, Set.mem_ofPred_eq, Set.mem_ofPred_eq, v.nodes_eq, Multiset.mem_coe]

lemma exists_view_from {n : FsmNode} (hn : n ∈ s.nodeSet) :
    ∃ (v : View s) (rest : List FsmNode), v.nodes = n :: rest := by
  obtain ⟨rest, hrest⟩ := Multiset.exists_cons_of_mem hn
  induction rest using Quotient.inductionOn with
  | _ rest =>
    exact ⟨⟨n :: rest, s.allocs.values.toList, s.volumes.entries.toList, hrest,
      (Multiset.coe_toList _).symm, (Multiset.coe_toList _).symm⟩, rest, rfl⟩

/-- Which nodes may be chosen. The allocations matter in two ways: those that are not terminal
through what they reserve, and all of them through the nodes that carry the service. -/
lemma mem_mayChoose : m ∈ mayChoose s name d ↔ match pinnedTo d.volumes s.volumes with
    | some p => m = p ∧ ∃ n ∈ s.nodeSet, n.millId = p ∧
        (d.request name).Fits s.nodeAvailableResources n
    | none => ∃ n, (d.request name).Best s.nodeSet (s.carriers name) s.nodeAvailableResources n ∧
        n.millId = m := by
  cases hpin : pinnedTo d.volumes s.volumes with
  | some p =>
    have hplace (v : View s) : Query.eval s v (.place name d) = some p ↔
        ∃ n ∈ s.nodeSet, n.millId = p ∧ (d.request name).Fits s.nodeAvailableResources n := by
      rw [← nodes_view v]
      exact schedule_of_attached ((attachedTo_request v name d).trans hpin)
    constructor
    · rintro ⟨v, hv⟩
      obtain rfl := eq_of_place hpin hv
      exact ⟨rfl, (hplace v).mp hv⟩
    · rintro ⟨rfl, n, hn, hrest⟩
      obtain ⟨v, -⟩ := exists_view_from hn
      exact ⟨v, (hplace v).mpr ⟨n, hn, hrest⟩⟩
  | none =>
    have hfree (v : View s) := (attachedTo_request v name d).trans hpin
    constructor
    · rintro ⟨v, hv⟩
      have hbest := exists_best_of_schedule (hfree v) hv
      rwa [nodes_view v, takenBy_view v d] at hbest
    · rintro ⟨n, hbest, rfl⟩
      obtain ⟨v, rest, hv⟩ := exists_view_from hbest.1.1
      refine ⟨v, ?_⟩
      rw [← nodes_view v, ← takenBy_view v d, hv] at hbest
      have hplace := schedule_of_best_head (hfree v) hbest
      rwa [← hv] at hplace

lemma mem_mayChoose_of_free (hpin : pinnedTo d.volumes s.volumes = none) :
    m ∈ mayChoose s name d ↔ ∃ n, (d.request name).Best s.nodeSet (s.carriers name)
      s.nodeAvailableResources n ∧ n.millId = m := by
  rw [mem_mayChoose, hpin]

/-- The choice does not depend on the order in which the maps are visited exactly if a volume
pins it or there is one best node only. -/
theorem placement_order_free_iff (s : FsmState) (name : String) (d : ServiceDef) :
    (∀ v v' : View s, Query.eval s v (.place name d) = Query.eval s v' (.place name d)) ↔
      (pinnedTo d.volumes s.volumes = none → ∀ n n',
        (d.request name).Best s.nodeSet (s.carriers name) s.nodeAvailableResources n →
        (d.request name).Best s.nodeSet (s.carriers name) s.nodeAvailableResources n' →
          n.millId = n'.millId) := by
  constructor
  · intro hfree hpin n n' hn hn'
    obtain ⟨v, hv⟩ := (mem_mayChoose_of_free hpin).mpr ⟨n, hn, rfl⟩
    obtain ⟨v', hv'⟩ := (mem_mayChoose_of_free hpin).mpr ⟨n', hn', rfl⟩
    exact Option.some.inj (hv.symm.trans ((hfree v v').trans hv'))
  · intro hunique
    have himp (v v' : View s) (m : NodeId) (hm : Query.eval s v (.place name d) = some m) :
        Query.eval s v' (.place name d) = some m := by
      have hattached := attachedTo_request v' name d
      cases hpin : pinnedTo d.volumes s.volumes with
      | some p =>
        have hchosen := mem_mayChoose.mp ⟨v, hm⟩
        rw [hpin, ← nodes_view v'] at hchosen
        obtain ⟨rfl, hfits⟩ := hchosen
        exact (schedule_of_attached (hattached.trans hpin)).mpr hfits
      | none =>
        obtain ⟨n, hn, rfl⟩ := (mem_mayChoose_of_free hpin).mp ⟨v, hm⟩
        obtain ⟨m', hm'⟩ := (schedule_isSome_iff (hattached.trans hpin)).mpr
          ⟨n, (nodes_view v').ge hn.1.1, hn.1.2.1⟩
        obtain ⟨n', hn', rfl⟩ := (mem_mayChoose_of_free hpin).mp ⟨v', hm'⟩
        exact hm'.trans (congrArg some (hunique hpin n' n hn' hn))
    exact fun v v' => Option.ext fun m => ⟨himp v v' m, himp v' v m⟩

end Mill
