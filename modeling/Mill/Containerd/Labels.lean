import Mill.Node.Restart

/-! The labels under which a container is created, from which a restarted daemon learns what it
runs. -/

namespace Mill

open Option

inductive Label
  | managed
  | allocId
  | hostPort
  | cpu
  | memory
  | volumes
  | kind
  | timeout
  | command
deriving DecidableEq

def Label.name : Label → String
  | managed => "mill.managed"
  | allocId => "mill.alloc-id"
  | hostPort => "mill.host-port"
  | cpu => "mill.cpu"
  | memory => "mill.memory"
  | volumes => "mill.volumes"
  | kind => "mill.kind"
  | timeout => "mill.timeout"
  | command => "mill.command"

lemma Label.name_injective {l l' : Label} (h : l.name = l'.name) : l = l' := by
  revert h
  cases l <;> cases l' <;> decide

abbrev Labels := Finmap fun _ : String => String

/-- The printing and parsing functions of the standard library and of `serde_json`. -/
structure LabelForms where
  printNat : Nat → String
  parseU16 : String → Option Nat
  parseU64 : String → Option Nat
  printF64 : ℚ → String
  parseF64 : String → Option ℚ
  volumesToString : List ContainerVolume → Except String String
  volumesFromStr : String → Except String (List ContainerVolume)
  commandToString : List String → Except String String
  commandFromStr : String → Except String (List String)

def AllocKind.toString : AllocKind → String
  | service => "service"
  | task => "task"

def asSecs (d : Duration) : Nat := d / 1000000000

def fromSecs (secs : Nat) : Duration := secs * 1000000000

def Labels.set (labels : Labels) (label : Label) : Option String → Labels
  | some value => labels.insert label.name value
  | none => labels

def buildLabels (f : LabelForms) (spec : ContainerSpec) : Labels :=
  let labels : Labels := ∅
  let labels := labels.set .managed (some "true")
  let labels := labels.set .allocId (some spec.allocId.val)
  let labels := labels.set .hostPort (spec.hostPort.map f.printNat)
  let labels := labels.set .cpu (some (f.printF64 spec.cpu))
  let labels := labels.set .memory (some (f.printNat spec.memory.toNat))
  let labels := labels.set .volumes
    (if spec.volumes.isEmpty then none else (f.volumesToString spec.volumes).toOption)
  let labels := labels.set .kind (some spec.kind.toString)
  let labels := labels.set .timeout (spec.timeout.map fun d => f.printNat (asSecs d))
  labels.set .command (spec.command.bind fun cmd => (f.commandToString cmd).toOption)

structure Container where
  image : String
  labels : Labels

def containerId (allocId : AllocId) : String := s!"mill-{allocId.val}"

/-- The container that `create_and_start` creates. -/
def Container.ofSpec (f : LabelForms) (spec : ContainerSpec) : Container :=
  ⟨spec.image, buildLabels f spec⟩

def recoverInfo (f : LabelForms) (containers : Finmap fun _ : String => Container)
    (allocId : AllocId) : Except String RecoveredContainer :=
  match containers.lookup (containerId allocId) with
  | none => .error s!"container not found: mill-{allocId.val}"
  | some container =>
    let get (label : Label) : Option String := container.labels.lookup label.name
    .ok
      { allocId
        kind :=
          ((get .kind).map fun s => if s = "task" then AllocKind.task else .service).getD .service
        timeout := ((get .timeout).bind f.parseU64).map fromSecs
        command := (get .command).bind fun s => (f.commandFromStr s).toOption
        hostPort := (get .hostPort).bind f.parseU16
        cpu := ((get .cpu).bind f.parseF64).getD 0
        memory := .ofNat (((get .memory).bind f.parseU64).getD 0)
        image := container.image
        volumes := ((get .volumes).bind fun s => (f.volumesFromStr s).toOption).getD [] }

structure LabelForms.RoundTrips (f : LabelForms) (spec : ContainerSpec) : Prop where
  hostPort : ∀ port, spec.hostPort = some port → f.parseU16 (f.printNat port) = some port
  cpu : f.parseF64 (f.printF64 spec.cpu) = some spec.cpu
  memory : f.parseU64 (f.printNat spec.memory.toNat) = some spec.memory.toNat
  timeout : ∀ d, spec.timeout = some d → f.parseU64 (f.printNat (asSecs d)) = some (asSecs d)
  volumes : ∃ s, f.volumesToString spec.volumes = .ok s ∧ f.volumesFromStr s = .ok spec.volumes
  command : ∀ cmd, spec.command = some cmd →
    ∃ s, f.commandToString cmd = .ok s ∧ f.commandFromStr s = .ok cmd

section

variable {f : LabelForms} {spec : ContainerSpec}

@[simp] lemma lookup_set (labels : Labels) (l l' : Label) (value : Option String) :
    (labels.set l value).lookup l'.name =
      if l' = l then value.or (labels.lookup l'.name) else labels.lookup l'.name := by
  cases value with
  | none => simp [Labels.set]
  | some =>
    rw [Labels.set, Finmap.lookup_insert_eq, some_or]
    by_cases h : l' = l
    · rw [if_pos h, if_pos (congrArg Label.name h)]
    · rw [if_neg h, if_neg (mt Label.name_injective h)]

lemma lookup_buildLabels (f : LabelForms) (spec : ContainerSpec) (l : Label) :
    (buildLabels f spec).lookup l.name = match l with
      | .managed => some "true"
      | .allocId => some spec.allocId.val
      | .hostPort => spec.hostPort.map f.printNat
      | .cpu => some (f.printF64 spec.cpu)
      | .memory => some (f.printNat spec.memory.toNat)
      | .volumes =>
        if spec.volumes.isEmpty then none else (f.volumesToString spec.volumes).toOption
      | .kind => some spec.kind.toString
      | .timeout => spec.timeout.map fun d => f.printNat (asSecs d)
      | .command => spec.command.bind fun cmd => (f.commandToString cmd).toOption := by
  unfold buildLabels
  cases l <;> simp [Finmap.lookup_empty]

variable {containers : Finmap fun _ : String => Container}

lemma recoverInfo_eq (h : f.RoundTrips spec)
    (hc : containers.lookup (containerId spec.allocId) = some (.ofSpec f spec)) :
    recoverInfo f containers spec.allocId = .ok
      { allocId := spec.allocId
        kind := spec.kind
        timeout := spec.timeout.map fun d => fromSecs (asSecs d)
        command := spec.command
        hostPort := spec.hostPort
        cpu := spec.cpu
        memory := spec.memory
        image := spec.image
        volumes := spec.volumes } := by
  have htimeout : ((spec.timeout.map fun d => f.printNat (asSecs d)).bind f.parseU64).map fromSecs =
      spec.timeout.map fun d => fromSecs (asSecs d) := by
    cases hd : spec.timeout with
    | none => rw [map_none, map_none, bind_none, map_none]
    | some d =>
      rw [map_some, map_some, bind_some, h.timeout d hd, map_some]
  have hport : (spec.hostPort.map f.printNat).bind f.parseU16 = spec.hostPort := by
    cases hp : spec.hostPort with
    | none => rfl
    | some port => rw [map_some, bind_some, h.hostPort port hp]
  have hcommand : ((spec.command.bind fun cmd => (f.commandToString cmd).toOption).bind
      fun s => (f.commandFromStr s).toOption) = spec.command := by
    cases hcmd : spec.command with
    | none => rfl
    | some cmd =>
      obtain ⟨s, hto, hfrom⟩ := h.command cmd hcmd
      rw [bind_some, hto]
      exact congrArg Except.toOption hfrom
  -- an empty list of volumes has no label, and no label means no volumes
  have hvolumes : (((if spec.volumes.isEmpty then none
      else (f.volumesToString spec.volumes).toOption).bind
        fun s => (f.volumesFromStr s).toOption).getD []) = spec.volumes := by
    obtain ⟨s, hto, hfrom⟩ := h.volumes
    split_ifs with hempty
    · exact (List.isEmpty_iff.mp hempty).symm
    · rw [hto]
      exact congrArg (fun e => (Except.toOption e).getD []) hfrom
  have hkind : (if spec.kind.toString = "task" then AllocKind.task else .service) = spec.kind := by
    cases spec.kind <;> rfl
  unfold recoverInfo
  rw [hc]
  dsimp only [Container.ofSpec]
  simp only [lookup_buildLabels, htimeout, hport, hcommand, hvolumes, map_some, hkind,
    getD_some, bind_some, h.cpu, h.memory, UInt64.ofNat_toNat]

lemma fromSecs_asSecs {d : Duration} : fromSecs (asSecs d) = d ↔ 1000000000 ∣ d :=
  ⟨fun h => ⟨asSecs d, by rw [Nat.mul_comm]; exact h.symm⟩, Nat.div_mul_cancel⟩

/-- The spec is recovered exactly if its timeout is a whole number of seconds. -/
theorem recover_keeps_spec_iff (f : LabelForms) (spec : ContainerSpec) (h : f.RoundTrips spec)
    (containers : Finmap fun _ : String => Container)
    (hc : containers.lookup (containerId spec.allocId) = some (.ofSpec f spec)) :
    (∃ r, recoverInfo f containers spec.allocId = .ok r ∧ r.kind = spec.kind ∧
      r.timeout = spec.timeout ∧ r.command = spec.command ∧ r.hostPort = spec.hostPort ∧
      r.cpu = spec.cpu ∧ r.memory = spec.memory ∧ r.volumes = spec.volumes ∧
      r.image = spec.image) ↔
    ∀ d, spec.timeout = some d → 1000000000 ∣ d := by
  have hiff : spec.timeout.map (fun d => fromSecs (asSecs d)) = spec.timeout ↔
      ∀ d, spec.timeout = some d → 1000000000 ∣ d := by
    cases spec.timeout with
    | none => simp
    | some => simp [fromSecs_asSecs]
  rw [recoverInfo_eq h hc, ← hiff]
  constructor
  · rintro ⟨r, hr, -, htimeout, -⟩
    cases hr
    exact htimeout
  · intro htimeout
    exact ⟨_, rfl, rfl, htimeout, rfl, rfl, rfl, rfl, rfl, rfl⟩

/-- What a restarted secondary holds for a container that still runs. Beside the fraction of a
second it has lost the environment and the port inside the container. -/
theorem lookup_rehydrate (h : f.RoundTrips spec)
    (hc : containers.lookup (containerId spec.allocId) = some (.ofSpec f spec))
    {running : List AllocId} (hrunning : spec.allocId ∈ running) {s : Secondary}
    (hnew : s.allocs.lookup spec.allocId = none) :
    (s.rehydrate running (recoverInfo f containers) spec.allocId).allocs.lookup spec.allocId = some
        { allocId := spec.allocId
          spec :=
            { spec with
              timeout := spec.timeout.map fun d => fromSecs (asSecs d)
              env := ∅
              port := spec.hostPort.map fun _ => 0 }
          status := .running
          hostPort := spec.hostPort } := by
  have hinsert (alloc : LocalAlloc) (halloc : alloc.allocId = spec.allocId) :
      s.allocs.insertNew alloc = .ok (s.allocs.insert spec.allocId alloc) := by
    rw [AllocationMap.insertNew, halloc, hnew]
    rfl
  unfold Secondary.rehydrate
  rw [if_neg (not_not.mpr hrunning), recoverInfo_eq h hc]
  dsimp only
  rw [hinsert _ rfl]
  exact Finmap.lookup_insert _

end

def demoNumbers : List (Nat × String) := [(1, "1"), (60, "60"), (1048576, "1048576")]

def demoParse (s : String) : Option Nat := (demoNumbers.find? fun e => e.2 = s).map Prod.fst

def demoForms : LabelForms where
  printNat n := (demoNumbers.lookup n).getD ""
  parseU16 := demoParse
  parseU64 := demoParse
  printF64 _ := "0.5"
  parseF64 s := if s = "0.5" then some (1 / 2) else none
  volumesToString _ := .ok "[]"
  volumesFromStr s := if s = "[]" then .ok [] else .error "expected value"
  commandToString cmd := .ok (if cmd = ["run"] then "[\"run\"]" else "")
  commandFromStr s := if s = "[\"run\"]" then .ok ["run"] else .error "expected value"

def demoTaskSpec (timeout : Duration) : ContainerSpec where
  allocId := ⟨"job-0"⟩
  kind := .task
  timeout := some timeout
  command := some ["run"]
  image := "job:1"
  env := ∅
  port := none
  hostPort := none
  cpu := 1 / 2
  memory := 1048576
  volumes := []

lemma demoForms_roundTrips {timeout : Duration} (h : asSecs timeout = 1 ∨ asSecs timeout = 60) :
    demoForms.RoundTrips (demoTaskSpec timeout) where
  hostPort _ hport := by cases hport
  cpu := rfl
  memory := by
    have hmemory : (demoTaskSpec timeout).memory.toNat = 1048576 := rfl
    rw [hmemory]
    decide
  timeout d hd := by
    cases hd
    rcases h with h | h
    · rw [h]
      decide
    · rw [h]
      decide
  volumes := ⟨_, rfl, rfl⟩
  command cmd hcmd := by
    cases hcmd
    exact ⟨_, rfl, rfl⟩

def demoContainers (timeout : Duration) : Finmap fun _ : String => Container :=
  Finmap.singleton (containerId ⟨"job-0"⟩) (.ofSpec demoForms (demoTaskSpec timeout))

theorem recover_keeps_spec_iff_minute :
    (∃ r, recoverInfo demoForms (demoContainers 60000000000) ⟨"job-0"⟩ = .ok r ∧
      r.kind = .task ∧ r.timeout = some 60000000000 ∧ r.command = some ["run"] ∧
      r.hostPort = none ∧ r.cpu = 1 / 2 ∧ r.memory = 1048576 ∧ r.volumes = [] ∧
      r.image = "job:1") := by
  refine (recover_keeps_spec_iff demoForms (demoTaskSpec 60000000000)
    (demoForms_roundTrips (.inr (by decide))) (demoContainers 60000000000)
    (Finmap.lookup_singleton_eq)).mpr ?_
  intro d hd
  cases hd
  decide

/-- A timeout of one and a half seconds is recovered as one second. -/
theorem recover_truncates_timeout : demoForms.RoundTrips (demoTaskSpec 1500000000) ∧
    ∃ r, recoverInfo demoForms (demoContainers 1500000000) ⟨"job-0"⟩ = .ok r ∧
      r.timeout = some 1000000000 ∧ (demoTaskSpec 1500000000).timeout = some 1500000000 := by
  have hforms : demoForms.RoundTrips (demoTaskSpec 1500000000) :=
    demoForms_roundTrips (.inl (by decide))
  have hc : (demoContainers 1500000000).lookup (containerId ⟨"job-0"⟩) =
      some (.ofSpec demoForms (demoTaskSpec 1500000000)) := Finmap.lookup_singleton_eq
  exact ⟨hforms, _, recoverInfo_eq hforms hc, rfl, rfl⟩

theorem lookup_rehydrate_minute :
    ∃ alloc, ((Secondary.init ⟨"n"⟩ none (.withRange 1 2 ∅)).rehydrate [⟨"job-0"⟩]
      (recoverInfo demoForms (demoContainers 60000000000)) ⟨"job-0"⟩).allocs.lookup ⟨"job-0"⟩ =
        some alloc ∧ alloc.spec.timeout = some 60000000000 :=
  ⟨_, lookup_rehydrate (demoForms_roundTrips (.inr (by decide))) Finmap.lookup_singleton_eq
    (List.mem_singleton.mpr rfl) rfl, rfl⟩

end Mill
