import Mill.Containerd.Labels

/-! Creating and starting a container: what `create_and_start` leaves in containerd and on disk when
one of its calls fails. A call that fails has no effect. -/

namespace Mill

inductive GrpcCode
  | alreadyExists
  | notFound
  | other
deriving DecidableEq

structure GrpcStatus where
  code : GrpcCode
  message : String
deriving DecidableEq

inductive ContainerdError
  | grpc (status : GrpcStatus)
  | imagePull (image reason : String)
  | alreadyExists (allocId : String)
  | specBuild (reason : String)
  | logIo (error : String)
deriving DecidableEq

inductive LogStream
  | stdout
  | stderr
deriving DecidableEq

/-- What fails on the way, call by call. `readerEnds` says of a log reader whether it has come to
its end by itself when `create_and_start` returns: its fifo was gone when it came to open it, or had
a writer that has closed it. -/
structure CreateFaults where
  imageInfo : Option ContainerdError
  ociSpec : Option ContainerdError
  json : Option String
  prepare : Option GrpcStatus
  mounts : Option GrpcStatus
  createContainer : Option GrpcStatus
  createDir : Option String
  removeStale : LogStream → Option String
  mkfifo : LogStream → Option String
  createTask : Option GrpcStatus
  startTask : Option GrpcStatus
  deleteTask : Option GrpcStatus
  deleteContainer : Option GrpcStatus
  deleteSnapshot : Option GrpcStatus
  removeDir : Option String
  readerEnds : LogStream → Bool

/-- Snapshots, containers and tasks are under their containerd id, the fifos of an allocation in a
directory of its own. -/
structure Host where
  snapshots : Finset String
  containers : Finset String
  tasks : Finset String
  logDirs : Finmap fun _ : AllocId => Finset LogStream
  readers : List (AllocId × LogStream)

namespace Host

variable (f : CreateFaults) (cid : String) (id : AllocId)

def prepare (m : Host) : Except GrpcStatus Host :=
  match f.prepare with
  | some status => .error status
  | none =>
    if cid ∈ m.snapshots then .error ⟨.alreadyExists, "snapshot already exists"⟩
    else .ok { m with snapshots := insert cid m.snapshots }

def mounts (m : Host) : Except GrpcStatus Host :=
  match f.mounts with
  | some status => .error status
  | none => if cid ∈ m.snapshots then .ok m else .error ⟨.notFound, "snapshot not found"⟩

def prepareRootfs (m : Host) : Except GrpcStatus Host :=
  match m.prepare f cid with
  | .ok m => .ok m
  | .error status => if status.code = .alreadyExists then m.mounts f cid else .error status

def createContainer (m : Host) : Except GrpcStatus Host :=
  match f.createContainer with
  | some status => .error status
  | none =>
    if cid ∈ m.containers then .error ⟨.alreadyExists, "container already exists"⟩
    else .ok { m with containers := insert cid m.containers }

def createTask (m : Host) : Except GrpcStatus Host :=
  match f.createTask with
  | some status => .error status
  | none => .ok { m with tasks := insert cid m.tasks }

def startTask (m : Host) : Except GrpcStatus Host :=
  match f.startTask with
  | some status => .error status
  | none => .ok m

def deleteTask (m : Host) : Host :=
  if f.deleteTask.isSome then m else { m with tasks := m.tasks.erase cid }

def deleteContainer (m : Host) : Host :=
  if f.deleteContainer.isSome then m else { m with containers := m.containers.erase cid }

def deleteSnapshot (m : Host) : Host :=
  if f.deleteSnapshot.isSome then m else { m with snapshots := m.snapshots.erase cid }

def fifos (m : Host) : Finset LogStream := (m.logDirs.lookup id).getD ∅

def createFifo (stream : LogStream) (m : Host) : Except ContainerdError Unit × Host :=
  match if stream ∈ m.fifos id then f.removeStale stream else none with
  | some error => (.error (.logIo error), m)
  | none =>
    match f.mkfifo stream with
    | some error =>
      (.error (.logIo error), { m with logDirs := m.logDirs.insert id ((m.fifos id).erase stream) })
    | none => (.ok (), { m with logDirs := m.logDirs.insert id (insert stream (m.fifos id)) })

def spawnReader (stream : LogStream) (m : Host) : Host :=
  if f.readerEnds stream then m else { m with readers := m.readers ++ [(id, stream)] }

def setupFifos (m : Host) : Except ContainerdError Unit × Host :=
  match f.createDir with
  | some error => (.error (.logIo error), m)
  | none =>
    match { m with logDirs := m.logDirs.insert id (m.fifos id) }.createFifo f id .stdout with
    | (.error e, m) => (.error e, m)
    | (.ok (), m) =>
      match m.createFifo f id .stderr with
      | (.error e, m) => (.error e, m)
      | (.ok (), m) => (.ok (), (m.spawnReader f id .stdout).spawnReader f id .stderr)

def cleanupFifos (m : Host) : Host :=
  if f.removeDir.isSome then m else { m with logDirs := m.logDirs.erase id }

end Host

def createAndStart (f : CreateFaults) (spec : ContainerSpec) (m : Host) :
    Except ContainerdError Unit × Host :=
  let cid := containerId spec.allocId
  match f.imageInfo, f.ociSpec, f.json with
  | some e, _, _ => (.error e, m)
  | none, some e, _ => (.error e, m)
  | none, none, some reason => (.error (.specBuild reason), m)
  | none, none, none =>
  match m.prepareRootfs f cid with
  | .error status => (.error (.grpc status), m)
  | .ok m =>
  match m.createContainer f cid with
  | .error status =>
    let e : ContainerdError :=
      if status.code = .alreadyExists then .alreadyExists spec.allocId.val else .grpc status
    (.error e, m)
  | .ok m =>
  match m.setupFifos f spec.allocId with
  -- the snapshot stays, and whatever there is of the fifos
  | (.error e, m) => (.error e, m.deleteContainer f cid)
  | (.ok (), m) =>
  match m.createTask f cid with
  -- the readers are not cancelled, here and below
  | .error status =>
    (.error (.grpc status),
      ((m.deleteContainer f cid).deleteSnapshot f cid).cleanupFifos f spec.allocId)
  | .ok m =>
  match m.startTask f with
  | .error status =>
    (.error (.grpc status),
      (((m.deleteTask f cid).deleteContainer f cid).deleteSnapshot f cid).cleanupFifos f
        spec.allocId)
  | .ok m => (.ok (), m)

namespace CreateFaults

variable (f : CreateFaults)

def CleansUp : Prop :=
  f.deleteTask = none ∧ f.deleteContainer = none ∧ f.deleteSnapshot = none ∧ f.removeDir = none

def Early : Prop := f.imageInfo ≠ none ∨ f.ociSpec ≠ none ∨ f.json ≠ none ∨ f.prepare ≠ none

def MakesFifos : Prop := f.createDir = none ∧ ∀ stream, f.mkfifo stream = none

end CreateFaults

namespace Host

structure Fresh (id : AllocId) (m : Host) : Prop where
  snapshot : containerId id ∉ m.snapshots
  container : containerId id ∉ m.containers
  task : containerId id ∉ m.tasks
  logDir : id ∉ m.logDirs
  readers : ∀ stream, (id, stream) ∉ m.readers

variable {f : CreateFaults} {id : AllocId} {m m' : Host} {e : ContainerdError}

lemma createFifo_eq {stream : LogStream} (h : stream ∉ m.fifos id) : m.createFifo f id stream =
    match f.mkfifo stream with
    | some error => (.error (.logIo error), { m with logDirs := m.logDirs.insert id (m.fifos id) })
    | none => (.ok (), { m with logDirs := m.logDirs.insert id (insert stream (m.fifos id)) }) := by
  rw [createFifo, if_neg h, Finset.erase_eq_of_notMem h]

lemma spawnReader_eq {stream : LogStream} : m.spawnReader f id stream =
    { m with readers := m.readers ++ if f.readerEnds stream then [] else [(id, stream)] } := by
  unfold spawnReader
  split_ifs
  · rw [List.append_nil]
  · rfl

lemma fifos_insert {logDirs : Finmap fun _ : AllocId => Finset LogStream}
    {streams : Finset LogStream} :
    { m with logDirs := logDirs.insert id streams }.fifos id = streams := by
  rw [fifos, Finmap.lookup_insert, Option.getD_some]

lemma setupFifos_eq (h : id ∉ m.logDirs) :
    (f.MakesFifos ∧ ∃ logDirs, m.setupFifos f id = (.ok (), { m with
      logDirs
      readers := m.readers ++ (if f.readerEnds .stdout then [] else [(id, .stdout)]) ++
        if f.readerEnds .stderr then [] else [(id, .stderr)] })) ∨
    ¬ f.MakesFifos ∧ ∃ e logDirs, m.setupFifos f id = (.error e, { m with logDirs }) := by
  have hnone : m.fifos id = ∅ := by rw [fifos, Finmap.lookup_eq_none.mpr h, Option.getD_none]
  unfold setupFifos
  cases hdir : f.createDir with
  | some => exact .inr ⟨fun hmade => by simp [hmade.1] at hdir, _, m.logDirs, rfl⟩
  | none =>
    rw [hnone, createFifo_eq (by rw [fifos_insert]; exact Finset.notMem_empty _), fifos_insert]
    cases hout : f.mkfifo .stdout with
    | some => exact .inr ⟨fun hmade => by simp [hmade.2] at hout, _, _, rfl⟩
    | none =>
      simp only
      rw [createFifo_eq (by rw [fifos_insert]; decide), fifos_insert]
      cases herr : f.mkfifo .stderr with
      | some => exact .inr ⟨fun hmade => by simp [hmade.2] at herr, _, _, rfl⟩
      | none =>
        simp only [spawnReader_eq]
        refine .inl ⟨⟨hdir, fun stream => ?_⟩, _, rfl⟩
        cases stream with
        | stdout => exact hout
        | stderr => exact herr

lemma fresh_cleaned {logDirs : Finmap fun _ : AllocId => Finset LogStream}
    {snapshots containers tasks : Finset String} (h : m.Fresh id)
    (htasks : containerId id ∉ tasks) :
    Fresh id ⟨snapshots.erase (containerId id), containers.erase (containerId id), tasks,
      logDirs.erase id, m.readers ++ (if f.readerEnds .stdout then [] else [(id, .stdout)]) ++
        if f.readerEnds .stderr then [] else [(id, .stderr)]⟩ ↔
      ∀ stream, f.readerEnds stream = true := by
  constructor
  · intro hfresh stream
    have hgone := hfresh.readers stream
    cases stream with
    | stdout | stderr =>
      by_contra hruns
      simp [hruns] at hgone
  · intro hends
    refine ⟨Finset.notMem_erase _ _, Finset.notMem_erase _ _, htasks, ?_, fun stream => ?_⟩
    · exact fun hin => (Finmap.mem_erase.mp hin).1 rfl
    · simp [hends, h.readers stream]

end Host

lemma prepareRootfs_early {f : CreateFaults} {m : Host} {cid : String} {status : GrpcStatus}
    (hprepare : f.prepare = some status) (hnone : cid ∉ m.snapshots) :
    ∃ status', m.prepareRootfs f cid = .error status' := by
  simp only [Host.prepareRootfs, Host.prepare, hprepare]
  split_ifs
  · unfold Host.mounts
    cases f.mounts with
    | some status' => exact ⟨status', rfl⟩
    | none => exact ⟨_, if_neg hnone⟩
  · exact ⟨status, rfl⟩

lemma host_of_early {f : CreateFaults} {spec : ContainerSpec} {m : Host}
    (hearly : f.Early) (hfresh : m.Fresh spec.allocId) : (createAndStart f spec m).2 = m := by
  unfold createAndStart
  cases himage : f.imageInfo with
  | some => rfl
  | none =>
    cases hoci : f.ociSpec with
    | some => rfl
    | none =>
      cases hjson : f.json with
      | some => rfl
      | none =>
        obtain ⟨status, hprepare⟩ : ∃ status, f.prepare = some status := by
          rcases hearly with h | h | h | h
          · exact absurd himage h
          · exact absurd hoci h
          · exact absurd hjson h
          · exact Option.ne_none_iff_exists'.mp h
        obtain ⟨status', hrootfs⟩ := prepareRootfs_early hprepare hfresh.snapshot
        simp only [hrootfs]

/-- Where there was nothing of the allocation before and the cleaning up succeeds, there is nothing
after a failure exactly if it fails before there is a snapshot, or if the container and the fifos
could be made and both log readers have come to their end by themselves. -/
theorem create_failed_clean_iff (f : CreateFaults) (spec : ContainerSpec) (m m' : Host)
    (e : ContainerdError) (hfresh : m.Fresh spec.allocId) (hclean : f.CleansUp)
    (hfailed : createAndStart f spec m = (.error e, m')) :
    m'.Fresh spec.allocId ↔ f.Early ∨
      f.createContainer = none ∧ f.MakesFifos ∧ ∀ stream, f.readerEnds stream = true := by
  by_cases hearly : f.Early
  · have hsame : m' = m := by rw [← host_of_early hearly hfresh, hfailed]
    exact iff_of_true (hsame ▸ hfresh) (.inl hearly)
  obtain ⟨htask, hcontainer, hsnapshot, hdir⟩ := hclean
  have hnone := hearly
  simp only [CreateFaults.Early, not_or, not_not] at hnone
  obtain ⟨himage, hoci, hjson, hprepare⟩ := hnone
  simp only [hearly, false_or]
  have hrootfs : m.prepareRootfs f (containerId spec.allocId) =
      .ok { m with snapshots := insert (containerId spec.allocId) m.snapshots } := by
    simp only [Host.prepareRootfs, Host.prepare, hprepare, if_neg hfresh.snapshot]
  simp only [createAndStart, himage, hoci, hjson, hrootfs, Host.createContainer] at hfailed
  -- whatever fails now, there is a snapshot
  cases hcreate : f.createContainer with
  | some =>
    simp only [hcreate, Prod.mk.injEq] at hfailed
    obtain ⟨-, rfl⟩ := hfailed
    exact iff_of_false (fun h => h.snapshot (Finset.mem_insert_self _ _)) (by simp)
  | none =>
    simp only [hcreate, if_neg hfresh.container] at hfailed
    obtain ⟨hmakes, logDirs, hfifos⟩ | ⟨hmakes, e', logDirs, hfifos⟩ :=
      Host.setupFifos_eq (f := f) (m := { m with
        snapshots := insert (containerId spec.allocId) m.snapshots
        containers := insert (containerId spec.allocId) m.containers }) hfresh.logDir
    · have hiff : m'.Fresh spec.allocId ↔ ∀ stream, f.readerEnds stream = true := by
        simp only [hfifos, Host.createTask, Host.startTask, Host.deleteTask,
          Host.deleteContainer, Host.deleteSnapshot, Host.cleanupFifos, htask, hcontainer,
          hsnapshot, hdir, Option.isSome_none, Bool.false_eq_true, if_false] at hfailed
        cases htasks : f.createTask with
        | some =>
          simp only [htasks, Prod.mk.injEq] at hfailed
          obtain ⟨-, rfl⟩ := hfailed
          exact Host.fresh_cleaned hfresh hfresh.task
        | none =>
          cases hstart : f.startTask with
          | some =>
            simp only [htasks, hstart, Prod.mk.injEq] at hfailed
            obtain ⟨-, rfl⟩ := hfailed
            exact Host.fresh_cleaned hfresh (Finset.notMem_erase _ _)
          | none =>
            simp only [htasks, hstart] at hfailed
            cases hfailed
      rw [hiff]
      exact ⟨fun hends => ⟨rfl, hmakes, hends⟩, fun h => h.2.2⟩
    · simp only [hfifos, Host.deleteContainer, hcontainer, Prod.mk.injEq] at hfailed
      obtain ⟨-, rfl⟩ := hfailed
      exact iff_of_false (fun h => h.snapshot (Finset.mem_insert_self _ _)) (by simp [hmakes])

def demoFaults : CreateFaults where
  imageInfo := none
  ociSpec := none
  json := none
  prepare := none
  mounts := none
  createContainer := none
  createDir := none
  removeStale := fun _ => none
  mkfifo := fun _ => none
  createTask := none
  startTask := none
  deleteTask := none
  deleteContainer := none
  deleteSnapshot := none
  removeDir := none
  readerEnds := fun _ => false

def demoHost : Host := ⟨∅, ∅, ∅, ∅, []⟩

lemma fresh_demoHost (id : AllocId) : demoHost.Fresh id :=
  ⟨Finset.notMem_empty _, Finset.notMem_empty _, Finset.notMem_empty _, Finmap.notMem_empty,
    fun _ => List.not_mem_nil⟩

def demoRefused : GrpcStatus := ⟨.other, "unavailable"⟩

theorem create_failed_clean_iff_ended :
    let f := { demoFaults with startTask := some demoRefused, readerEnds := fun _ => true }
    ∃ m' e, createAndStart f (demoTaskSpec 5) demoHost = (.error e, m') ∧
      m'.Fresh ⟨"job-0"⟩ := by
  intro f
  refine ⟨_, _, rfl, (create_failed_clean_iff f (demoTaskSpec 5) demoHost _ _
    (fresh_demoHost _) ?_ rfl).mpr (.inr ⟨rfl, ?_, fun _ => rfl⟩)⟩
  · exact ⟨rfl, rfl, rfl, rfl⟩
  · exact ⟨rfl, fun _ => rfl⟩

/-- The container is refused: its snapshot stays. And the task is refused: the readers stay. -/
theorem create_failed_leaves :
    (∃ m' e, createAndStart { demoFaults with createContainer := some demoRefused } (demoTaskSpec 5)
      demoHost = (.error e, m') ∧ m'.snapshots = {"mill-job-0"}) ∧
    ∃ m' e, createAndStart { demoFaults with createTask := some demoRefused } (demoTaskSpec 5)
      demoHost = (.error e, m') ∧
      m'.readers = [(⟨"job-0"⟩, .stdout), (⟨"job-0"⟩, .stderr)] :=
  ⟨⟨_, _, rfl, rfl⟩, ⟨_, _, rfl, rfl⟩⟩

end Mill
