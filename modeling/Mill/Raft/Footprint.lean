import Mill.Lib.Footprint
import Mill.Raft.Effect

/-! Which part of the replicated state a command reads and writes. -/

namespace Mill

open Footprint

inductive Cell
  | config
  | node (id : Nat)
  | alloc (id : AllocId)
  | secret (name : String)
  | volume (name : String)
deriving DecidableEq

def Cell.Value : Cell → Type
  | config => Option ClusterConfig
  | node _ => Option FsmNode
  | alloc _ => Option Alloc
  | secret _ => Option EncryptedSecret
  | volume _ => Option FsmVolume

def Cell.get : (c : Cell) → FsmState → c.Value
  | config, s => s.config
  | node id, s => s.nodes.lookup id
  | alloc id, s => s.allocs.lookup id
  | secret name, s => s.secrets.lookup name
  | volume name, s => s.volumes.lookup name

lemma FsmState.ext_cells {s t : FsmState} (h : ∀ c : Cell, c.get s = c.get t) : s = t := by
  have hconfig : s.config = t.config := h .config
  have hnodes : s.nodes = t.nodes := Finmap.ext_lookup fun id => h (.node id)
  have hallocs : s.allocs = t.allocs := Finmap.ext_lookup fun id => h (.alloc id)
  have hsecrets : s.secrets = t.secrets := Finmap.ext_lookup fun name => h (.secret name)
  have hvolumes : s.volumes = t.volumes := Finmap.ext_lookup fun name => h (.volume name)
  cases s
  cases t
  simp only at hconfig hnodes hallocs hsecrets hvolumes
  rw [hconfig, hnodes, hallocs, hsecrets, hvolumes]

def Command.footprint : Command → Set Cell
  | .deploy _ => {.config}
  | .nodeRegister id .. => {.node id}
  | .nodeHeartbeat id allocStatuses => {.node id} ∪ {c | ∃ i ∈ allocStatuses, c = .alloc i}
  | .nodeDown id => {.node id}
  | .allocScheduled allocId nodeId .. => {.alloc allocId, .node nodeId}
  | .allocStatus allocId _ => {.alloc allocId}
  | .allocRunning allocId .. => {.alloc allocId}
  | .secretSet name .. => {.secret name}
  | .secretDelete name => {.secret name}
  | .volumeCreated name _ => {.volume name}
  | .volumeAttached name node => {.volume name, .node node}
  | .volumeDetached name => {.volume name}
  | .volumeDestroyed name => {.volume name}
  | .nodeDrain id => {.node id}
  | .nodeRemove id => {.node id} ∪ {c | ∃ i, c = .alloc i}

section

variable {s : FsmState} {c : Command}

lemma config_of_not_mem_footprint (h : Cell.config ∉ c.footprint) :
    (applyCommand s c).1.config = s.config := by
  apply config_applyCommand
  rintro config rfl
  exact h rfl

lemma node_of_not_mem_footprint {k : Nat} (h : Cell.node k ∉ c.footprint) :
    nodeAfter s k c = s.nodes.lookup k := by
  cases c with
  | nodeRegister id | nodeDown id | nodeDrain id => exact if_neg fun hk : k = id => h (hk ▸ rfl)
  | nodeHeartbeat id => exact if_neg fun hk : k = id => h (.inl (hk ▸ rfl))
  | nodeRemove id =>
    have hk : k ≠ id := fun hk => h (.inl (hk ▸ rfl))
    simp only [nodeAfter, if_neg hk, ite_self]
    split <;> rfl
  | _ => rfl

lemma alloc_of_not_mem_footprint {i : AllocId} (h : Cell.alloc i ∉ c.footprint) :
    allocAfter s i c = s.allocs.lookup i := by
  cases c with
  | nodeHeartbeat id statuses =>
    have hi : statuses.lookup i = none := by
      rw [Finmap.lookup_eq_none]
      exact fun hi => h (.inr ⟨i, hi, rfl⟩)
    simp only [allocAfter, report_of_lookup_none hi, Option.map_id', ite_self]
  | allocScheduled allocId =>
    have hi : i ≠ allocId := fun hi => h (.inl (hi ▸ rfl))
    simp only [allocAfter, if_neg hi]
    split <;> rfl
  | allocStatus allocId | allocRunning allocId => exact if_neg fun hi : i = allocId => h (hi ▸ rfl)
  | nodeRemove => exact absurd (.inr ⟨i, rfl⟩) h
  | _ => rfl

lemma secret_of_not_mem_footprint {n : String} (h : Cell.secret n ∉ c.footprint) :
    secretAfter s n c = s.secrets.lookup n := by
  cases c with
  | secretSet name | secretDelete name => exact if_neg fun hn : n = name => h (hn ▸ rfl)
  | _ => rfl

lemma volume_of_not_mem_footprint {v : String} (h : Cell.volume v ∉ c.footprint) :
    volumeAfter s v c = s.volumes.lookup v := by
  cases c with
  | volumeCreated name | volumeDetached name | volumeDestroyed name =>
    exact if_neg fun hv : v = name => h (hv ▸ rfl)
  | volumeAttached name =>
    have hv : v ≠ name := fun hv => h (.inl (hv ▸ rfl))
    simp only [volumeAfter, if_neg hv]
    split <;> rfl
  | _ => rfl

lemma get_of_not_mem_footprint (s : FsmState) {c : Command} {cell : Cell}
    (h : cell ∉ c.footprint) : cell.get (applyCommand s c).1 = cell.get s := by
  cases cell with
  | config => exact config_of_not_mem_footprint h
  | node k => exact (lookup_nodes_applyCommand s c k).trans (node_of_not_mem_footprint h)
  | alloc i => exact (lookup_allocs_applyCommand s c i).trans (alloc_of_not_mem_footprint h)
  | secret n => exact (lookup_secrets_applyCommand s c n).trans (secret_of_not_mem_footprint h)
  | volume v => exact (lookup_volumes_applyCommand s c v).trans (volume_of_not_mem_footprint h)

end

section

variable {s t : FsmState} {c : Command}

lemma agreeOn_singleton {cell : Cell} (h : cell.get s = cell.get t) :
    AgreeOn Cell.get {cell} s t := by
  rintro _ rfl
  exact h

lemma agreeOn_pair {a b : Cell} (ha : a.get s = a.get t) (hb : b.get s = b.get t) :
    AgreeOn Cell.get {a, b} s t := by
  rintro _ (rfl | rfl)
  · exact ha
  · exact hb

lemma response_of_agreeOn (h : AgreeOn Cell.get c.footprint s t) :
    (applyCommand s c).2 = (applyCommand t c).2 := by
  -- every branch is taken on entries of the footprint, and the texts name its ids
  cases c with
  | nodeHeartbeat id =>
    have hn : s.nodes.lookup id = t.nodes.lookup id := h (.node id) (.inl rfl)
    simp only [applyCommand, hn]
    split <;> rfl
  | nodeDown id | nodeDrain id =>
    have hn : s.nodes.lookup id = t.nodes.lookup id := h (.node id) rfl
    simp only [applyCommand, hn]
    split <;> rfl
  | allocScheduled allocId nodeId =>
    have hn : s.nodes.lookup nodeId = t.nodes.lookup nodeId := h (.node nodeId) (.inr rfl)
    simp only [applyCommand, hn]
    split <;> rfl
  | allocStatus allocId | allocRunning allocId =>
    have ha : s.allocs.lookup allocId = t.allocs.lookup allocId := h (.alloc allocId) rfl
    simp only [applyCommand, ha]
    split <;> rfl
  | secretDelete name =>
    have hs : s.secrets.lookup name = t.secrets.lookup name := h (.secret name) rfl
    simp only [applyCommand, hs]
    split <;> rfl
  | volumeAttached name node =>
    have hn : s.nodes.lookup node = t.nodes.lookup node := h (.node node) (.inr rfl)
    have hv : s.volumes.lookup name = t.volumes.lookup name := h (.volume name) (.inl rfl)
    simp only [applyCommand, hn, hv]
    split
    · rfl
    · split <;> rfl
  | volumeDetached name =>
    have hv : s.volumes.lookup name = t.volumes.lookup name := h (.volume name) rfl
    simp only [applyCommand, hv]
    split <;> rfl
  | nodeRemove id =>
    have hn : s.nodes.lookup id = t.nodes.lookup id := h (.node id) (.inl rfl)
    have ha : s.allocs = t.allocs :=
      Finmap.ext_lookup fun i => h (.alloc i) (.inr ⟨i, rfl⟩)
    simp only [applyCommand, hn, ha]
    split
    · rfl
    · split_ifs <;> rfl
  | _ => rfl

lemma agreeOn_applyCommand (h : AgreeOn Cell.get c.footprint s t) :
    AgreeOn Cell.get c.footprint (applyCommand s c).1 (applyCommand t c).1 := by
  -- an entry of the footprint after the command is read off entries of the footprint before it
  have hnode {k : Nat} (hk : nodeAfter s k c = nodeAfter t k c) :
      Cell.get (.node k) (applyCommand s c).1 = Cell.get (.node k) (applyCommand t c).1 :=
    (lookup_nodes_applyCommand s c k).trans (hk.trans (lookup_nodes_applyCommand t c k).symm)
  have halloc {i : AllocId} (hi : allocAfter s i c = allocAfter t i c) :
      Cell.get (.alloc i) (applyCommand s c).1 = Cell.get (.alloc i) (applyCommand t c).1 :=
    (lookup_allocs_applyCommand s c i).trans (hi.trans (lookup_allocs_applyCommand t c i).symm)
  have hsecret {n : String} (hn : secretAfter s n c = secretAfter t n c) :
      Cell.get (.secret n) (applyCommand s c).1 = Cell.get (.secret n) (applyCommand t c).1 :=
    (lookup_secrets_applyCommand s c n).trans (hn.trans (lookup_secrets_applyCommand t c n).symm)
  have hvolume {v : String} (hv : volumeAfter s v c = volumeAfter t v c) :
      Cell.get (.volume v) (applyCommand s c).1 = Cell.get (.volume v) (applyCommand t c).1 :=
    (lookup_volumes_applyCommand s c v).trans (hv.trans (lookup_volumes_applyCommand t c v).symm)
  cases c with
  | deploy => exact agreeOn_singleton rfl
  | nodeRegister =>
    apply agreeOn_singleton
    apply hnode
    simp only [nodeAfter, if_true]
  | nodeHeartbeat id =>
    have hn : s.nodes.lookup id = t.nodes.lookup id := h (.node id) (.inl rfl)
    have hmem : id ∈ s.nodes ↔ id ∈ t.nodes := by
      rw [← Finmap.lookup_isSome, ← Finmap.lookup_isSome, hn]
    rintro cell (rfl | ⟨i, hi, rfl⟩)
    · apply hnode
      simp only [nodeAfter, hn]
    · have ha : s.allocs.lookup i = t.allocs.lookup i := h (.alloc i) (.inr ⟨i, hi, rfl⟩)
      apply halloc
      simp only [allocAfter, hmem, ha]
  | nodeDown id | nodeDrain id =>
    have hn : s.nodes.lookup id = t.nodes.lookup id := h (.node id) rfl
    apply agreeOn_singleton
    apply hnode
    simp only [nodeAfter, hn]
  | allocScheduled allocId nodeId =>
    have hn : s.nodes.lookup nodeId = t.nodes.lookup nodeId := h (.node nodeId) (.inr rfl)
    have ha : s.allocs.lookup allocId = t.allocs.lookup allocId := h (.alloc allocId) (.inl rfl)
    apply agreeOn_pair
    · apply halloc
      simp only [allocAfter, hn, ha]
    · exact hnode hn
  | allocStatus allocId | allocRunning allocId =>
    have ha : s.allocs.lookup allocId = t.allocs.lookup allocId := h (.alloc allocId) rfl
    apply agreeOn_singleton
    apply halloc
    simp only [allocAfter, ha]
  | secretSet name | secretDelete name =>
    apply agreeOn_singleton
    apply hsecret
    simp only [secretAfter, if_true]
  | volumeCreated name | volumeDestroyed name =>
    apply agreeOn_singleton
    apply hvolume
    simp only [volumeAfter, if_true]
  | volumeAttached name node =>
    have hn : s.nodes.lookup node = t.nodes.lookup node := h (.node node) (.inr rfl)
    have hv : s.volumes.lookup name = t.volumes.lookup name := h (.volume name) (.inl rfl)
    apply agreeOn_pair
    · apply hvolume
      simp only [volumeAfter, hn, hv]
    · exact hnode hn
  | volumeDetached name =>
    have hv : s.volumes.lookup name = t.volumes.lookup name := h (.volume name) rfl
    apply agreeOn_singleton
    apply hvolume
    simp only [volumeAfter, hv]
  | nodeRemove id =>
    have hn : s.nodes.lookup id = t.nodes.lookup id := h (.node id) (.inl rfl)
    have ha : s.allocs = t.allocs :=
      Finmap.ext_lookup fun i => h (.alloc i) (.inr ⟨i, rfl⟩)
    rintro cell (rfl | ⟨i, rfl⟩)
    · apply hnode
      simp only [nodeAfter, hn, ha]
    · apply halloc
      simp only [allocAfter, hn, ha]

end

lemma localTo_applyCommand (c : Command) :
    LocalTo Cell.get c.footprint fun s => applyCommand s c where
  frame s _ h := get_of_not_mem_footprint s h
  reads _ _ h := ⟨response_of_agreeOn h, agreeOn_applyCommand h⟩

/-- Two commands with disjoint footprints give the same state and the same responses in either
order, and each leaves everything outside its footprint as it is. -/
theorem applyCommand_comm_of_disjoint (s : FsmState) (c d : Command)
    (h : Disjoint c.footprint d.footprint) :
    (applyCommand (applyCommand s c).1 d).1 = (applyCommand (applyCommand s d).1 c).1 ∧
      (applyCommand (applyCommand s d).1 c).2 = (applyCommand s c).2 ∧
      (applyCommand (applyCommand s c).1 d).2 = (applyCommand s d).2 ∧
      (∀ cell ∉ c.footprint, cell.get (applyCommand s c).1 = cell.get s) ∧
      ∀ cell ∉ d.footprint, cell.get (applyCommand s d).1 = cell.get s := by
  have hc : LocalTo Cell.get c.footprint fun s => applyCommand s c := localTo_applyCommand c
  have hd : LocalTo Cell.get d.footprint fun s => applyCommand s d := localTo_applyCommand d
  refine ⟨?_, ?_, ?_, hc.frame s, hd.frame s⟩
  · exact hc.commute (fun _ _ => FsmState.ext_cells) hd h s
  · exact hc.response_of_disjoint hd h s
  · exact hd.response_of_disjoint hc h.symm s

theorem applyCommand_comm_of_disjoint_demo :
    let s := applyAll default [.demoRegister 1 "a", .demoRegister 2 "b",
      .allocScheduled ⟨"api-0"⟩ 2 "api" .service none ⟨1, 64⟩]
    let c : Command := .allocScheduled ⟨"web-0"⟩ 1 "web" .service none ⟨1, 64⟩
    let d : Command := .nodeHeartbeat 2 (Finmap.singleton ⟨"api-0"⟩ .running)
    (applyCommand s c).1 ≠ s ∧ (applyCommand s d).1 ≠ s ∧
      (applyCommand (applyCommand s c).1 d).1 = (applyCommand (applyCommand s d).1 c).1 := by
  intro s c d
  have h : Disjoint c.footprint d.footprint := by
    rw [Set.disjoint_left]
    rintro _ (rfl | rfl) (hm | ⟨i, hi, hm⟩)
    · cases hm
    · cases hm
      simp at hi
    · cases hm
    · cases hm
  exact ⟨by decide +kernel, by decide +kernel, (applyCommand_comm_of_disjoint s c d h).1⟩

lemma Alloc.report_self (a : Alloc) (statuses : Finmap fun _ : AllocId => AllocStatus)
    (i : AllocId) : (a.report statuses i).report statuses i = a.report statuses i := by
  unfold report
  cases statuses.lookup i with
  | none => rfl
  | some status =>
    dsimp only [heartbeat]
    split_ifs <;> simp_all

lemma Alloc.run_self (a : Alloc) (address : Option SocketAddr) (startedAt : Option SystemTime) :
    (a.run address startedAt).run address startedAt = a.run address startedAt := by
  cases h : a.status.isPending <;> simp [run, h]

lemma applyCommand_self (s : FsmState) (c : Command) :
    (applyCommand (applyCommand s c).1 c).1 = (applyCommand s c).1 := by
  cases c with
  | nodeHeartbeat id statuses =>
    have hreport : (s.allocs.mapVals (Alloc.report statuses)).mapVals (Alloc.report statuses) =
        s.allocs.mapVals (Alloc.report statuses) := by
      refine Finmap.ext_lookup fun i => ?_
      simp [Function.comp_def, Alloc.report_self]
    cases hn : s.nodes.lookup id with
    | none => simp [applyCommand, hn]
    | some n => by_cases hdown : n.status = .down <;> simp [applyCommand, hn, hreport, hdown]
  | nodeRemove id =>
    cases hn : s.nodes.lookup id with
    | none => simp [applyCommand, hn]
    | some n =>
      -- a refused removal is refused again, and a node that is gone is unknown
      by_cases h : (s.allocs.any fun _ a => a.node == n.millId && !a.status.isTerminal) = true
      · simp only [applyCommand, hn, if_pos h]
      · simp only [applyCommand, hn, if_neg h, Finmap.lookup_erase]
  | secretDelete name => cases hsecret : s.secrets.lookup name <;> simp [applyCommand, hsecret]
  | nodeDown id | nodeDrain id | allocScheduled _ id =>
    cases hn : s.nodes.lookup id <;> simp [applyCommand, hn]
  | allocStatus id | allocRunning id =>
    cases ha : s.allocs.lookup id <;> simp [applyCommand, ha, Alloc.run_self]
  | volumeAttached name id =>
    cases hn : s.nodes.lookup id <;> cases hv : s.volumes.lookup name <;>
      simp [applyCommand, hn, hv]
  | volumeDetached name => cases hv : s.volumes.lookup name <;> simp [applyCommand, hv]
  | volumeDestroyed => simp [applyCommand, Finmap.erase_of_lookup_eq_none]
  | _ => simp [applyCommand]

lemma applyCommand_comm_applyAll {c : Command} {ds : List Command} (s : FsmState)
    (h : ∀ d ∈ ds, Disjoint c.footprint d.footprint) :
    (applyCommand (applyAll s ds) c).1 = applyAll (applyCommand s c).1 ds := by
  induction ds generalizing s with
  | nil => rfl
  | cons d ds ih =>
    obtain ⟨hd, hds⟩ := List.forall_mem_cons.mp h
    have hcomm := (localTo_applyCommand c).commute (fun _ _ => FsmState.ext_cells)
      (localTo_applyCommand d) hd s
    rw [applyAll_cons, ih _ hds, applyAll_cons, hcomm]

/-- A command that is committed twice has the effect of the first one, whatever the commands
between the two do outside its footprint. -/
theorem repeated_command_is_no_op (s : FsmState) (c : Command) (ds : List Command)
    (h : ∀ d ∈ ds, Disjoint c.footprint d.footprint) :
    applyAll s (c :: ds ++ [c]) = applyAll s (c :: ds) := by
  rw [applyAll_append, applyAll_cons, applyAll_cons, applyCommand_comm_applyAll _ h,
    applyCommand_self]
  rfl

theorem repeated_command_is_no_op_demo :
    let c : Command := .secretSet "key" [7] [1]
    let d : Command := .volumeCreated "data" "vol-1"
    Disjoint c.footprint d.footprint ∧ applyAll default [c, d, c] = applyAll default [c, d] := by
  intro c d
  have h : Disjoint c.footprint d.footprint := by simp [c, d, Command.footprint]
  exact ⟨h, repeated_command_is_no_op default c [d] (by simpa using h)⟩

end Mill
