import Mathlib.Data.Finset.Sort
import Mill.Lib.Run
import Mill.Raft.Disk

/-! The log store: entries live in memory only, the vote is also written to
disk. -/

namespace Mill

open FileSystem List

inductive Bound
  | included (n : Nat)
  | excluded (n : Nat)
  | unbounded

structure Range where
  start : Bound
  stop : Bound

def Range.contains (r : Range) (n : Nat) : Bool :=
  (match r.start with
    | .included a => a ≤ n
    | .excluded a => a < n
    | .unbounded => true) &&
  (match r.stop with
    | .included b => n ≤ b
    | .excluded b => n < b
    | .unbounded => true)

/-- On any other range `BTreeMap::range` panics. -/
def Range.Ordered (r : Range) : Prop :=
  match r.start, r.stop with
  | .excluded a, .excluded b => a < b
  | .included a, .included b | .included a, .excluded b | .excluded a, .included b => a ≤ b
  | _, _ => True

structure LogStore where
  vote : Option Vote
  log : Finmap fun _ : Nat => Entry
  lastPurged : Option LogId

structure LogState where
  lastPurgedLogId : Option LogId
  lastLogId : Option LogId
deriving DecidableEq

namespace LogStore

def withPersistence (vote : Option Vote) : LogStore := ⟨vote, ∅, none⟩

def entries (s : LogStore) : List Entry := (s.log.keys.sort (· ≤ ·)).filterMap s.log.lookup

def tryGetLogEntries (s : LogStore) (range : Range) : List Entry :=
  ((s.log.keys.sort (· ≤ ·)).filter range.contains).filterMap s.log.lookup

def getLogState (s : LogStore) : LogState where
  lastPurgedLogId := s.lastPurged
  lastLogId := (s.entries.getLast?.map Entry.logId).or s.lastPurged

/-- The vote is kept in memory and then written to disk. A failure to write it
is logged and not reported. -/
def saveVote {B : Type} (serde : Serde B) (io : Io B) (vote : Vote) (s : LogStore)
    (d : RaftDir B) : Except SnapshotError Unit × LogStore × RaftDir B :=
  (.ok (), { s with vote := some vote }, attempt io (Disk.writeVote serde vote) d)

def readVote (s : LogStore) : Option Vote := s.vote

def append (s : LogStore) (es : List Entry) : Except SnapshotError Unit × LogStore :=
  (.ok (), { s with log := es.foldl (fun m e => m.insert e.logId.index e) s.log })

def truncate (s : LogStore) (logId : LogId) : LogStore :=
  { s with log := s.log.retain fun k _ => k < logId.index }

def purge (s : LogStore) (logId : LogId) : LogStore :=
  { s with
    log := s.log.retain fun k _ => logId.index < k
    lastPurged := some logId }

lemma mem_tryGetLogEntries {s : LogStore} {range : Range} {e : Entry} :
    e ∈ s.tryGetLogEntries range ↔ ∃ k, range.contains k = true ∧ s.log.lookup k = some e := by
  simp only [tryGetLogEntries, mem_filterMap, mem_filter, Finset.mem_sort, Finmap.mem_keys]
  constructor
  · rintro ⟨k, ⟨-, hk⟩, he⟩
    exact ⟨k, hk, he⟩
  · rintro ⟨k, hk, he⟩
    exact ⟨k, ⟨Finmap.mem_of_lookup_eq_some he, hk⟩, he⟩

end LogStore

inductive LogOp
  | append (es : List Entry)
  | truncate (logId : LogId)
  | purge (logId : LogId)

def LogStore.perform (s : LogStore) : LogOp → LogStore
  | .append es => (s.append es).2
  | .truncate logId => s.truncate logId
  | .purge logId => s.purge logId

/-- The log as such: the entries that were appended and neither truncated nor purged. -/
structure RaftLog where
  lastPurged : Option LogId
  entries : List Entry

namespace RaftLog

def nextIndex : Option LogId → Nat
  | none => 0
  | some logId => logId.index + 1

def indexes (es : List Entry) : List Nat := es.map fun e => e.logId.index

def lastLogId (l : RaftLog) : Option LogId := (l.entries.getLast?.map Entry.logId).or l.lastPurged

def perform (l : RaftLog) : LogOp → RaftLog
  | .append es => { l with entries := l.entries ++ es }
  | .truncate logId => { l with entries := l.entries.filter fun e => e.logId.index < logId.index }
  | .purge logId => ⟨some logId, l.entries.filter fun e => logId.index < e.logId.index⟩

/-- The calls that openraft makes: entries are appended after the last one, nothing that was
purged is truncated, and purging goes forward, be it beyond the end. -/
def Admits (l : RaftLog) : LogOp → Prop
  | .append es => indexes es = List.range' (nextIndex l.lastLogId) es.length
  | .truncate logId => nextIndex l.lastPurged ≤ logId.index
  | .purge logId => nextIndex l.lastPurged ≤ logId.index + 1

instance (l : RaftLog) : ∀ op, Decidable (l.Admits op)
  | .append _ => inferInstanceAs (Decidable (_ = _))
  | .truncate _ | .purge _ => inferInstanceAs (Decidable (_ ≤ _))

def Contiguous (l : RaftLog) : Prop :=
  indexes l.entries = List.range' (nextIndex l.lastPurged) l.entries.length

variable {l : RaftLog} {es : List Entry} {a : Nat}

lemma mem_indexes {k : Nat} : k ∈ indexes es ↔ ∃ e ∈ es, e.logId.index = k := mem_map

lemma take_of_indexes (h : indexes es = List.range' a es.length) (k : Nat) :
    es.filter (fun e => e.logId.index < k) = es.take (k - a) := by
  induction es generalizing a with
  | nil => rw [take_nil, filter_nil]
  | cons e es ih =>
    obtain ⟨hidx, hrest⟩ : e.logId.index = a ∧ indexes es = List.range' (a + 1) es.length :=
      List.cons.inj h
    rw [filter_cons, ih hrest, hidx]
    by_cases hk : a < k
    · rw [if_pos (decide_eq_true hk), show k - a = k - (a + 1) + 1 by omega, take_succ_cons]
    · rw [if_neg (by simpa using hk), show k - a = 0 by omega, show k - (a + 1) = 0 by omega,
        take_zero, take_zero]

lemma drop_of_indexes (h : indexes es = List.range' a es.length) (k : Nat) :
    es.filter (fun e => k < e.logId.index) = es.drop (k + 1 - a) := by
  induction es generalizing a with
  | nil => rw [drop_nil, filter_nil]
  | cons e es ih =>
    obtain ⟨hidx, hrest⟩ : e.logId.index = a ∧ indexes es = List.range' (a + 1) es.length :=
      List.cons.inj h
    rw [filter_cons, ih hrest, hidx]
    by_cases hk : k < a
    · rw [if_pos (decide_eq_true hk), show k + 1 - a = 0 by omega,
        show k + 1 - (a + 1) = 0 by omega, drop_zero, drop_zero]
    · rw [if_neg (by simpa using hk), show k + 1 - a = k + 1 - (a + 1) + 1 by omega, drop_succ_cons]

lemma Contiguous.nextIndex_lastLogId (h : l.Contiguous) :
    nextIndex l.lastLogId = nextIndex l.lastPurged + l.entries.length := by
  unfold Contiguous at h
  rw [lastLogId]
  rcases eq_nil_or_concat l.entries with hnil | ⟨es, e, hlast⟩
  · rw [hnil]
    rfl
  · rw [hlast, concat_eq_append] at h ⊢
    rw [indexes, map_append, length_append, List.range'_append_1.symm] at h
    have hidx : e.logId.index = nextIndex l.lastPurged + es.length :=
      (List.cons.inj (append_inj' h rfl).2).1
    rw [List.getLast?_concat, length_append, ← Nat.add_assoc, ← hidx]
    rfl

lemma contiguous_perform (h : l.Contiguous) {op : LogOp} (hop : l.Admits op) :
    (l.perform op).Contiguous := by
  cases op with
  | append es =>
    have hes : indexes es = List.range' (nextIndex l.lastLogId) es.length := hop
    rw [h.nextIndex_lastLogId] at hes
    change indexes (l.entries ++ es) = List.range' _ (l.entries ++ es).length
    rw [indexes, map_append, length_append, ← List.range'_append_1]
    exact congrArg₂ _ h hes
  | truncate =>
    change indexes (l.entries.filter _) = List.range' _ (l.entries.filter _).length
    rw [take_of_indexes h, indexes, map_take, length_take]
    exact (congrArg _ h).trans (ext_getElem (by simp) fun _ _ _ => by simp [perform])
  | purge logId =>
    change indexes (l.entries.filter _) = List.range' (logId.index + 1) (l.entries.filter _).length
    rw [drop_of_indexes h, indexes, map_drop, length_drop]
    have hle : nextIndex l.lastPurged ≤ logId.index + 1 := hop
    refine (congrArg _ h).trans (drop_range'.trans ?_)
    rw [Nat.mul_one, Nat.add_sub_cancel' hle]

lemma Contiguous.nodup (h : l.Contiguous) : (indexes l.entries).Nodup := by
  rw [h]
  exact nodup_range'

/-- The store holds the log: each entry under its own index. -/
structure Holds (l : RaftLog) (s : LogStore) : Prop where
  purged : s.lastPurged = l.lastPurged
  lookup : ∀ k e, s.log.lookup k = some e ↔ e ∈ l.entries ∧ e.logId.index = k

lemma lookup_foldl_insert (h : (indexes es).Nodup) {m : Finmap fun _ : Nat => Entry} {k : Nat}
    {e : Entry} (hk : ∀ e ∈ es, m.lookup e.logId.index = none) :
    (es.foldl (fun m e => m.insert e.logId.index e) m).lookup k = some e ↔
      m.lookup k = some e ∨ e ∈ es ∧ e.logId.index = k := by
  induction es generalizing m with
  | nil => simp
  | cons a es ih =>
    obtain ⟨hnew, hnodup⟩ := nodup_cons.mp h
    have hne : ∀ x ∈ es, x.logId.index ≠ a.logId.index :=
      fun x hx heq => hnew (mem_indexes.mpr ⟨x, hx, heq⟩)
    have hrest : ∀ x ∈ es, (m.insert a.logId.index a).lookup x.logId.index = none := by
      intro x hx
      rw [Finmap.lookup_insert_of_ne _ (hne x hx), hk x (mem_cons_of_mem a hx)]
    have ha := hk a mem_cons_self
    rw [foldl_cons, ih hnodup hrest, Finmap.lookup_insert_eq_some, mem_cons]
    grind

lemma Holds.perform {s : LogStore} (h : l.Holds s) (hl : l.Contiguous) {op : LogOp}
    (hop : l.Admits op) : (l.perform op).Holds (s.perform op) := by
  cases op with
  | append =>
    have hnodup := (contiguous_perform hl hop).nodup
    simp only [RaftLog.perform, indexes, map_append, nodup_append] at hnodup
    obtain ⟨-, hes, hapart⟩ := hnodup
    refine ⟨h.purged, fun k e => ?_⟩
    refine (lookup_foldl_insert hes fun x hx => ?_).trans ?_
    · refine Option.eq_none_iff_forall_ne_some.mpr fun y hy => ?_
      obtain ⟨hin, hidx⟩ := (h.lookup _ y).mp hy
      exact hapart _ (mem_indexes.mpr ⟨y, hin, hidx⟩) _ (mem_indexes.mpr ⟨x, hx, rfl⟩) rfl
    · rw [h.lookup, RaftLog.perform, mem_append, or_and_right]
  | truncate =>
    refine ⟨h.purged, fun k e => Finmap.lookup_retain_eq_some.trans ?_⟩
    rw [h.lookup, RaftLog.perform, mem_filter]
    grind
  | purge =>
    refine ⟨rfl, fun k e => Finmap.lookup_retain_eq_some.trans ?_⟩
    rw [h.lookup, RaftLog.perform, mem_filter]
    grind

lemma Holds.sort_keys {s : LogStore} (h : l.Holds s) (hl : l.Contiguous) :
    s.log.keys.sort (· ≤ ·) = indexes l.entries := by
  have hkeys : s.log.keys = (indexes l.entries).toFinset := by
    ext k
    rw [Finmap.mem_keys, ← Finmap.lookup_isSome, Option.isSome_iff_exists, mem_toFinset,
      mem_indexes]
    simp only [h.lookup]
  rw [hkeys, (toFinset_sort _ hl.nodup).mpr]
  rw [hl]
  exact pairwise_le_range'

lemma Holds.tryGetLogEntries {s : LogStore} (h : l.Holds s) (hl : l.Contiguous) (range : Range) :
    s.tryGetLogEntries range = l.entries.filter fun e => range.contains e.logId.index := by
  rw [LogStore.tryGetLogEntries, h.sort_keys hl, indexes, filter_map, filterMap_map]
  refine (filterMap_congr fun e he => ?_).trans filterMap_some
  exact (h.lookup _ e).mpr ⟨mem_of_mem_filter he, rfl⟩

lemma Holds.getLogState {s : LogStore} (h : l.Holds s) (hl : l.Contiguous) :
    s.getLogState = ⟨l.lastPurged, l.lastLogId⟩ := by
  have hentries : s.entries = l.entries := by
    rw [LogStore.entries, h.sort_keys hl, indexes, filterMap_map]
    exact (filterMap_congr fun e he => (h.lookup _ e).mpr ⟨he, rfl⟩).trans filterMap_some
  rw [LogStore.getLogState, hentries, h.purged, lastLogId]

/-- After any calls that openraft may make, the store holds the entries that were appended and not
taken away, each under its index, without a gap after what was purged. -/
theorem log_store_represents (vote : Option Vote) (ops : List LogOp)
    (hops : Transition.Guarded (fun l op => some (perform l op)) Admits ⟨none, []⟩ ops) :
    let s := ops.foldl LogStore.perform (.withPersistence vote)
    let l := ops.foldl perform ⟨none, []⟩
    (∀ k e, s.log.lookup k = some e → e.logId.index = k) ∧
      (∃ n, s.log.keys.sort (· ≤ ·) = List.range' (nextIndex s.lastPurged) n) ∧
      s.getLogState = ⟨s.lastPurged, (l.entries.getLast?.map Entry.logId).or s.lastPurged⟩ ∧
      ∀ range : Range, range.Ordered → s.tryGetLogEntries range =
        l.entries.filter fun e => range.contains e.logId.index := by
  intro s l
  obtain ⟨hl, h⟩ : l.Contiguous ∧ l.Holds s := by
    have hrun : ∀ l₀ s₀, Transition.Guarded (fun l op => some (perform l op)) Admits l₀ ops →
        l₀.Contiguous ∧ l₀.Holds s₀ →
        (ops.foldl perform l₀).Contiguous ∧
          (ops.foldl perform l₀).Holds (ops.foldl LogStore.perform s₀) := by
      clear hops s l
      induction ops with
      | nil => exact fun _ _ _ h => h
      | cons op ops ih =>
        rintro l₀ s₀ ⟨hop, hrest⟩ ⟨hl, h⟩
        exact ih _ _ (hrest _ rfl) ⟨contiguous_perform hl hop, h.perform hl hop⟩
    refine hrun _ _ hops ⟨rfl, rfl, fun k e => ?_⟩
    exact iff_of_false (by simp [LogStore.withPersistence]) (by simp)
  refine ⟨fun k e he => ((h.lookup k e).mp he).2, ⟨l.entries.length, ?_⟩, ?_, ?_⟩
  · rw [h.sort_keys hl, h.purged, hl]
  · rw [h.getLogState hl, h.purged]
    rfl
  · exact fun range _ => h.tryGetLogEntries hl range

def entryAt (index : Nat) : Entry := ⟨⟨⟨1, 1⟩, index⟩, .blank⟩

theorem log_store_represents_purged :
    let s := [LogOp.append [entryAt 0, entryAt 1, entryAt 2], .truncate ⟨⟨1, 1⟩, 2⟩,
      .purge ⟨⟨1, 1⟩, 0⟩].foldl LogStore.perform (.withPersistence none)
    ∃ n, s.log.keys.sort (· ≤ ·) = List.range' (nextIndex s.lastPurged) n :=
  (log_store_represents none _ (by decide)).2.1

end RaftLog

end Mill
