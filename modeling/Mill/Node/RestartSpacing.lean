import Mill.Lib.Recording
import Mill.Node.Watchdog

/-! How far apart the restarts of a service are. -/

namespace Mill

open Finmap List Program Transition

section

structure RestartLog where
  now : Nat
  replicas : Option Nat
  /-- The dispatches since the service was first seen to lack replicas and then that first time,
  newest first. Empty once the backoff has been reset. -/
  stretch : List Nat
  dispatching : Bool
  dispatches : List (List Nat × Nat)

namespace RestartLog

def start : RestartLog := ⟨0, none, [], false, []⟩

def counted (g : RestartLog) (active nonTerminal : Nat) : RestartLog :=
  match g.replicas with
  | none => { g with dispatching := false }
  | some replicas =>
    if replicas ≤ active then { g with dispatching := false, stretch := [] }
    else if replicas ≤ nonTerminal then { g with dispatching := false }
    else if g.stretch = [] then { g with dispatching := false, stretch := [g.now] }
    else { g with dispatching := false }

@[simp] lemma now_counted (g : RestartLog) (active nonTerminal : Nat) :
    (g.counted active nonTerminal).now = g.now := by
  unfold counted
  split
  · rfl
  · split_ifs <;> rfl

@[simp] lemma replicas_counted (g : RestartLog) (active nonTerminal : Nat) :
    (g.counted active nonTerminal).replicas = g.replicas := by
  unfold counted
  split
  · rfl
  · split_ifs <;> rfl

@[simp] lemma dispatching_counted (g : RestartLog) (active nonTerminal : Nat) :
    (g.counted active nonTerminal).dispatching = false := by
  unfold counted
  split
  · rfl
  · split_ifs <;> rfl

lemma stretch_counted {g : RestartLog} {replicas : Nat} (h : g.replicas = some replicas)
    (active nonTerminal : Nat) : (g.counted active nonTerminal).stretch =
      if replicas ≤ active then []
      else if replicas ≤ nonTerminal then g.stretch
      else if g.stretch = [] then [g.now] else g.stretch := by
  unfold counted
  rw [h]
  dsimp only
  split_ifs <;> rfl

def dispatched (g : RestartLog) : RestartLog :=
  if g.dispatching then g
  else
    { g with
      dispatching := true
      stretch := g.now :: g.stretch
      dispatches := g.dispatches ++ [(g.stretch, g.now)] }

def note (name : String) (g : RestartLog) : (e : WatchdogEffect) → e.Answer → RestartLog
  | .now, t => { g with now := t }
  -- the allocations of a node that has failed
  | .nodeAllocs _, allocs =>
    if allocs.any fun a => a.2.1 == .service && a.2.2 == name then { g with stretch := [] } else g
  | .coord (.read .config), config =>
    match config.bind fun c => c.services.lookup name with
    | some d => { g with replicas := some d.replicas }
    | none => { g with replicas := none, stretch := [] }
  | .coord (.read (.serviceCounts n)), counts => if n = name then g.counted counts.1 counts.2 else g
  | .coord (.spawnRestart n _), _ => if n = name then g.dispatched else g
  | _, _ => g

/-- Every dispatch has one before it in its stretch, or else the first sight, and keeps the distance
from it; it is never in the same tick. The first sight and the dispatches before this one are
`t :: rest`, so it is the dispatch with the number `rest.length + 1` of its stretch. -/
def Spaced (g : RestartLog) : Prop :=
  ∀ x ∈ g.dispatches, ∃ t rest, x.1 = t :: rest ∧ t < x.2 ∧
    t + restartBackoffDelays.getD (min rest.length 3) 0 ≤ x.2

def Due (g : RestartLog) : Prop :=
  g.dispatching = true ∨ ∃ t rest, g.stretch = t :: rest ∧ t + restartDelay rest.length ≤ g.now

end RestartLog

def restartLog (name : String) (record : Record WatchdogEffect WatchdogEffect.Answer) :
    RestartLog := noted (RestartLog.note name) .start record

def spacingSpec (name : String) : Spec WatchdogEffect WatchdogEffect.Answer RestartLog where
  pre g e := ∀ d, e = .coord (.spawnRestart name d) → g.Due
  post g e r g' := g' = g.note name e r ∧ ∃ w w', WatchdogWorld.Answered w e r w'

variable {name : String} {g : RestartLog}

lemma restartDelay_pos (attempts : Nat) : (0 : Nat) < restartDelay attempts := by
  have hindex : min attempts 3 < 4 := by omega
  have hall : ∀ i < 4, 0 < restartBackoffDelays.getD i 0 := by decide
  exact hall (min attempts 3) hindex

lemma RestartLog.Spaced.note (hg : g.Spaced) {e : WatchdogEffect}
    (hpre : (spacingSpec name).pre g e) (r : e.Answer) : (g.note name e r).Spaced := by
  unfold RestartLog.note
  split
  · exact hg
  · split_ifs
    · exact hg
    · exact hg
  · split
    · exact hg
    · exact hg
  · split_ifs
    · unfold RestartLog.counted
      split
      · exact hg
      · split_ifs <;> exact hg
    · exact hg
  · rename_i n d _
    split_ifs with hname
    · subst hname
      unfold RestartLog.dispatched
      split_ifs with hdispatching
      · exact hg
      · intro x hx
        rcases mem_append.mp hx with hx | hx
        · exact hg x hx
        · obtain rfl := List.mem_singleton.mp hx
          rcases hpre d rfl with hyes | ⟨t, rest, hstretch, hdue⟩
          · exact absurd hyes hdispatching
          · have hpos := restartDelay_pos rest.length
            exact ⟨t, rest, hstretch, by omega, hdue⟩
    · exact hg
  · exact hg

end

section

variable {name : String} {g : RestartLog} {entry : Option RestartState}
  {restartBackoff : RestartBackoff}

def Tallies (entry : Option RestartState) (g : RestartLog) : Prop :=
  match entry with
  | none => g.stretch = []
  | some st => ∃ rest, g.stretch = st.lastAttemptAt :: rest ∧ rest.length = st.attempts

lemma Tallies.of_stretch {g' : RestartLog} (hg : Tallies entry g) (h : g'.stretch = g.stretch) :
    Tallies entry g' := by
  unfold Tallies at hg ⊢
  rwa [h]

structure Aside (name : String) (e : WatchdogEffect) : Prop where
  keeps : ∀ d, e ≠ .coord (.spawnRestart name d)
  stretch : ∀ g r, (RestartLog.note name g e r).stretch = g.stretch

lemma wp_aside {α : Type} {p : WatchdogAction α} (hp : p.Only (Aside name) fun _ => False)
    (hg : Tallies entry g) : p.wp (spacingSpec name) (Returns fun _ g' => Tallies entry g') g := by
  refine wp_of_only (I := fun g => Tallies entry g) hp hg ?_ (fun _ _ h => h) fun _ _ h _ => h
  intro e g he hg
  refine ⟨fun d h => absurd h (he.keeps d), ?_⟩
  rintro r g' ⟨rfl, -⟩
  exact hg.of_stretch (he.stretch g r)

def Hit (name : String) (allocs : List (AllocId × AllocKind × String)) : Prop :=
  ∃ a ∈ allocs, a.2.1 = .service ∧ a.2.2 = name

lemma stretch_note_nodeAllocs (g : RestartLog) (millId : NodeId)
    (allocs : List (AllocId × AllocKind × String)) :
    (Hit name allocs ∧ (g.note name (.nodeAllocs millId) allocs).stretch = []) ∨
      (¬ Hit name allocs ∧ (g.note name (.nodeAllocs millId) allocs).stretch = g.stretch) := by
  have hany : (allocs.any fun a => a.2.1 == .service && a.2.2 == name) = true ↔
      Hit name allocs := by
    simp only [List.any_eq_true, Bool.and_eq_true, beq_iff_eq, Hit]
  unfold RestartLog.note
  dsimp only
  split_ifs with h
  · exact .inl ⟨hany.mp h, rfl⟩
  · exact .inr ⟨fun hhit => h (hany.mpr hhit), rfl⟩

lemma wp_markNodeAllocsFailed_spacing
    (hg : Tallies (restartBackoff.lookup name) g) (millId : NodeId) :
    (markNodeAllocsFailed millId restartBackoff).wp (spacingSpec name)
      (Returns fun acc g' => Tallies (acc.lookup name) g') g := by
  refine wp_bind (wp_effect (fun d h => by cases h) ?_)
  rintro allocs g' ⟨rfl, -⟩
  -- until then the entry is that of before, although the stretch is over
  have hstart : (Hit name allocs → (g.note name (.nodeAllocs millId) allocs).stretch = []) ∧
      (Tallies (restartBackoff.lookup name) (g.note name (.nodeAllocs millId) allocs) ∨
        Hit name allocs) := by
    rcases stretch_note_nodeAllocs g millId allocs with ⟨hhit, hempty⟩ | ⟨hnot, hsame⟩
    · exact ⟨fun _ => hempty, .inr hhit⟩
    · exact ⟨fun hhit => absurd hhit hnot, .inl (hg.of_stretch hsame)⟩
  refine wp_mono (wp_foldEach_returns (fun left acc g => (Hit name left → g.stretch = []) ∧
    (Tallies (acc.lookup name) g ∨ Hit name left)) ?_ hstart) ?_
  · rintro a left acc g ⟨hempty, hacc⟩
    refine wp_bind (wp_effect (fun d h => by cases h) ?_)
    rintro r g ⟨rfl, -⟩
    have htail : Hit name left → g.stretch = [] := by
      rintro ⟨b, hb, hservice⟩
      exact hempty ⟨b, mem_cons_of_mem a hb, hservice⟩
    by_cases hself : a.2.1 = .service ∧ a.2.2 = name
    · rw [if_pos hself.1]
      refine ⟨htail, .inl ?_⟩
      rw [hself.2, lookup_erase]
      exact hempty ⟨a, mem_cons_self, hself⟩
    · have hacc' : Tallies (acc.lookup name) g ∨ Hit name left := by
        refine hacc.imp_right ?_
        rintro ⟨b, hb, hservice⟩
        rcases mem_cons.mp hb with rfl | hb
        · exact absurd hservice hself
        · exact ⟨b, hb, hservice⟩
      split_ifs with hservice
      · refine ⟨htail, ?_⟩
        have hname : name ≠ a.2.2 := fun h => hself ⟨hservice, h.symm⟩
        rw [lookup_erase_ne hname]
        exact hacc'
      · exact ⟨htail, hacc'⟩
  · rintro (_ | acc) g' h
    · exact h
    · rcases h.2 with hacc | ⟨b, hb, -⟩
      · exact hacc
      · exact absurd hb not_mem_nil

lemma wp_checkHeartbeat_spacing (hg : Tallies (restartBackoff.lookup name) g) (wireguard : Bool)
    (heartbeatTimeout now : Nat) (nodeDiscovered : Instants) (n : Nat × NodeId × NodeStatus) :
    (checkHeartbeat wireguard heartbeatTimeout now nodeDiscovered restartBackoff n).wp
      (spacingSpec name) (Returns fun acc g' => Tallies (acc.lookup name) g') g := by
  unfold checkHeartbeat
  split_ifs with hready
  · refine wp_bind_returns (wp_aside (.effect ⟨by simp, fun _ _ => rfl⟩) hg) fun seen g hg => ?_
    dsimp only
    split_ifs with hrecent
    · exact hg
    · refine wp_bind_returns (wp_aside (.effect ⟨by simp, fun _ _ => rfl⟩) hg)
        fun wgPubkey g hg => ?_
      refine wp_bind_returns (wp_aside (.effect ⟨by simp, fun _ _ => rfl⟩) hg) fun r g hg => ?_
      cases r with
      | error => exact hg
      | ok =>
        have hpeer := only_removeMeshPeer (P := Aside name) (fun _ => ⟨by simp, fun _ _ => rfl⟩)
          wireguard wgPubkey
        refine wp_bind_returns (wp_aside hpeer hg) fun _ g hg => ?_
        exact wp_markNodeAllocsFailed_spacing hg n.2.1
  · exact hg

lemma wp_checkHeartbeats_spacing (hg : Tallies (restartBackoff.lookup name) g) (wireguard : Bool)
    (heartbeatTimeout : Nat) (nodeDiscovered : Instants) :
    (checkHeartbeats wireguard heartbeatTimeout nodeDiscovered restartBackoff).wp
      (spacingSpec name) (Returns fun r g' => Tallies (r.2.lookup name) g') g := by
  refine wp_bind_returns (wp_aside (.effect ⟨by simp, fun _ _ => rfl⟩) hg) fun now g hg => ?_
  refine wp_bind_returns (wp_aside (.effect ⟨by simp, fun _ _ => rfl⟩) hg) fun nodes g hg => ?_
  refine wp_bind_returns (wp_aside (.effect ⟨by simp, fun _ _ => rfl⟩) hg) fun order g hg => ?_
  refine wp_bind_returns (wp_aside (.foldEach ?_ ()) hg) fun _ g hg => ?_
  · intro _ _ _
    exact .effect ⟨by simp, fun _ _ => rfl⟩
  refine wp_bind_returns (wp_foldEach_returns (fun _ (acc : RestartBackoff) g =>
    Tallies (acc.lookup name) g) ?_ hg) fun _ g hg => hg
  intro n left acc g hg
  exact wp_checkHeartbeat_spacing hg wireguard heartbeatTimeout now _ n

abbrev restartSpec (name : String) : Spec Effect Effect.Answer RestartLog :=
  (spacingSpec name).along WatchdogEffect.coord fun _ answer => answer

structure InRestarts (now : Nat) (replicas : Option Nat) (entry : Option RestartState)
    (g : RestartLog) : Prop where
  now_eq : g.now = now
  replicas_eq : g.replicas = replicas
  tallies : Tallies entry g

variable {now : Nat} {replicas : Option Nat}

lemma wp_spawnEach_other {other : String} (hother : other ≠ name) (d : ServiceDef) (missing : Nat) :
    (foldEach (fun _ _ => Action.act (.spawnRestart other d)) (List.range missing) ()).wp
      (restartSpec name) (Returns fun _ g' => g' = g) g := by
  refine wp_foldEach_returns (fun _ _ g' => g' = g) ?_ rfl
  rintro i left ⟨⟩ g' rfl
  refine wp_effect ?_ ?_
  · intro d' h
    cases h
    exact absurd rfl hother
  · rintro r g'' ⟨_, -, rfl, -⟩
    exact if_neg hother

lemma wp_spawnEach_spacing {last : Nat} {rest : List Nat} (hnow : g.now = now)
    (hreplicas : g.replicas = replicas) (hstretch : g.stretch = last :: rest)
    (hdispatching : g.dispatching = false) (hdue : last + restartDelay rest.length ≤ now)
    (d : ServiceDef) {missing : Nat} (hmissing : 0 < missing) :
    (foldEach (fun _ _ => Action.act (.spawnRestart name d)) (List.range missing) ()).wp
      (restartSpec name) (Returns fun _ g' => g'.now = now ∧ g'.replicas = replicas ∧
        g'.stretch = now :: last :: rest) g := by
  let first : RestartLog := g.dispatched
  have hfirst : first = { g with
      dispatching := true
      stretch := g.now :: g.stretch
      dispatches := g.dispatches ++ [(g.stretch, g.now)] } := by
    simp [first, RestartLog.dispatched, hdispatching]
  refine wp_mono (wp_foldEach_returns (fun left _ g' => (left.length = missing ∧ g' = g) ∨
    g' = first) ?_ (.inl ⟨length_range, rfl⟩)) ?_
  · rintro i left ⟨⟩ g' hg'
    refine wp_effect ?_ ?_
    · rintro d' -
      rcases hg' with ⟨-, rfl⟩ | rfl
      · exact .inr ⟨last, rest, hstretch, hnow ▸ hdue⟩
      · rw [hfirst]
        exact .inl rfl
    · rintro r g'' ⟨_, -, rfl, -⟩
      refine .inr ((if_pos rfl).trans ?_)
      rcases hg' with ⟨-, rfl⟩ | rfl
      · rfl
      · rw [hfirst]
        rfl
  · rintro (_ | _) g' h
    · exact h
    · rcases h with ⟨hlength, -⟩ | rfl
      · exact absurd hlength hmissing.ne
      · rw [hfirst]
        exact ⟨hnow, hreplicas, by rw [hnow, hstretch]⟩

lemma wp_checkServiceRestart_other {e : Σ _ : String, ServiceDef} (he : e.1 ≠ name)
    (hg : InRestarts now replicas (restartBackoff.lookup name) g) :
    (checkServiceRestart now restartBackoff e).wp (restartSpec name)
      (Returns fun acc g' => InRestarts now replicas (acc.lookup name) g') g := by
  have hnote (counts : Nat × Nat) :
      g.note name (.coord (.read (.serviceCounts e.1))) counts = g := if_neg he
  refine wp_bind (wp_effect (fun d h => by cases h) ?_)
  rintro counts g' ⟨_, rfl, rfl, -⟩
  rw [hnote]
  dsimp only
  split_ifs
  · rw [← lookup_erase_ne he.symm] at hg
    exact hg
  · exact hg
  · split
    · rw [← lookup_insert_of_ne _ he.symm] at hg
      exact hg
    · split_ifs
      · exact hg
      · refine wp_bind_returns (wp_spawnEach_other he e.2 _) ?_
        rintro _ g' rfl
        rw [← lookup_insert_of_ne _ he.symm] at hg
        exact hg

lemma wp_checkServiceRestart_spacing
    {e : Σ _ : String, ServiceDef} (he : e.1 = name → replicas = some e.2.replicas)
    (hg : InRestarts now replicas (restartBackoff.lookup name) g) :
    (checkServiceRestart now restartBackoff e).wp (restartSpec name)
      (Returns fun acc g' => InRestarts now replicas (acc.lookup name) g') g := by
  by_cases hname : e.1 = name
  · subst hname
    obtain ⟨hnow, hreplicas, htallies⟩ := hg
    refine wp_bind (wp_effect (fun d h => by cases h) ?_)
    rintro ⟨active, nonTerminal⟩ g' ⟨_, rfl, rfl, -⟩
    have hnote : g.note e.1 (.coord (.read (.serviceCounts e.1))) (active, nonTerminal) =
      g.counted active nonTerminal := if_pos rfl
    rw [hnote]
    have hstretch := RestartLog.stretch_counted (hreplicas.trans (he rfl)) active nonTerminal
    have hnow' : (g.counted active nonTerminal).now = now := by simpa using hnow
    have hreplicas' : (g.counted active nonTerminal).replicas = replicas := by simpa using hreplicas
    dsimp only
    split_ifs with hactive hstarting
    · rw [if_pos hactive] at hstretch
      refine ⟨hnow', hreplicas', ?_⟩
      rw [lookup_erase]
      exact hstretch
    · rw [if_neg hactive, if_pos hstarting] at hstretch
      exact ⟨hnow', hreplicas', htallies.of_stretch hstretch⟩
    · rw [if_neg hactive, if_neg hstarting] at hstretch
      cases hentry : restartBackoff.lookup e.1 with
      | none =>
        -- the service is seen to lack replicas for the first time
        rw [hentry] at htallies
        have hempty : g.stretch = [] := htallies
        rw [if_pos hempty, hnow] at hstretch
        refine ⟨hnow', hreplicas', ?_⟩
        rw [lookup_insert]
        exact ⟨[], hstretch, rfl⟩
      | some state =>
        rw [hentry] at htallies
        obtain ⟨rest, hrest, hattempts⟩ := htallies
        rw [if_neg (by rw [hrest]; exact cons_ne_nil _ _), hrest] at hstretch
        dsimp only
        split_ifs with hwait
        · refine ⟨hnow', hreplicas', ?_⟩
          rw [hentry]
          exact ⟨rest, hstretch, hattempts⟩
        · have hpos := restartDelay_pos state.attempts
          have hdue : state.lastAttemptAt + restartDelay rest.length ≤ now := by
            rw [hattempts]
            omega
          refine wp_bind_returns (wp_spawnEach_spacing hnow' hreplicas' hstretch
            (RestartLog.dispatching_counted g active nonTerminal) hdue e.2
            (Nat.sub_pos_of_lt (not_le.mp hactive))) ?_
          rintro _ g' ⟨hnow'', hreplicas'', hstretch''⟩
          refine ⟨hnow'', hreplicas'', ?_⟩
          rw [lookup_insert]
          exact ⟨_, hstretch'', by rw [length_cons, hattempts]⟩
  · exact wp_checkServiceRestart_other hname hg

lemma inRestarts_config (hnow : g.now = now) (hg : Tallies (restartBackoff.lookup name) g)
    {config : Option ClusterConfig} {services : Finmap fun _ : String => ServiceDef}
    (hservices : (config.map ClusterConfig.services).getD ∅ = services) :
    InRestarts now ((services.lookup name).map ServiceDef.replicas)
      ((restartBackoff.retain fun n _ => decide (n ∈ services)).lookup name)
      (g.note name (.coord (.read .config)) config) := by
  have hlookup : (config.bind fun c => c.services.lookup name) = services.lookup name := by
    subst hservices
    cases config with
    | none => rfl
    | some => rfl
  unfold RestartLog.note
  dsimp only
  rw [hlookup, Finmap.lookup_retain]
  cases hd : services.lookup name with
  | none =>
    have hmem : name ∉ services := lookup_eq_none.mp hd
    have hgone :
        (restartBackoff.lookup name).filter (fun _ => decide (name ∈ services)) = none := by
      rw [Option.filter_eq_none_iff]
      simp [hmem]
    refine ⟨hnow, rfl, ?_⟩
    rw [hgone]
    exact rfl
  | some =>
    have hmem : name ∈ services := mem_of_lookup_eq_some hd
    have hkept : (restartBackoff.lookup name).filter (fun _ => decide (name ∈ services)) =
        restartBackoff.lookup name := by
      cases restartBackoff.lookup name with
      | none => rfl
      | some => exact Option.filter_some_pos (decide_eq_true hmem)
    refine ⟨hnow, rfl, ?_⟩
    rw [hkept]
    exact hg

lemma wp_checkServiceRestarts_spacing (hnow : g.now = now)
    (hg : Tallies (restartBackoff.lookup name) g) :
    (checkServiceRestarts now restartBackoff).wp (restartSpec name)
      (Returns fun acc g' => Tallies (acc.lookup name) g') g := by
  refine wp_bind (wp_effect (fun d h => by cases h) ?_)
  rintro _ g' ⟨config, rfl, rfl, -⟩
  dsimp only
  generalize hservices : (config.map ClusterConfig.services).getD ∅ = services
  have hread := inRestarts_config hnow hg hservices
  refine wp_bind (wp_effect (fun d h => by cases h) ?_)
  rintro _ g' ⟨order, rfl, rfl, w, w', hvisit⟩
  have horder : services.entries = order := by
    cases hvisit with
    | coord _ _ _ h =>
      cases h with
      | visitServices _ _ h => exact h
  have hdefs : ∀ e ∈ order, e.1 = name →
      (services.lookup name).map ServiceDef.replicas = some e.2.replicas := by
    rintro ⟨n, d⟩ he rfl
    have hmem : (⟨n, d⟩ : Σ _ : String, ServiceDef) ∈ services.entries := by
      rw [horder]
      exact Multiset.mem_coe.mpr he
    rw [Finmap.lookup_eq_some_iff.mpr hmem, Option.map_some]
  refine wp_mono (wp_foldEach_returns (fun left (acc : RestartBackoff) g =>
    (∀ e ∈ left, e.1 = name → (services.lookup name).map ServiceDef.replicas = some e.2.replicas) ∧
    InRestarts now ((services.lookup name).map ServiceDef.replicas) (acc.lookup name) g)
    ?_ ⟨hdefs, hread⟩) ?_
  · rintro e left acc g ⟨hleft, hg⟩
    refine wp_mono (wp_checkServiceRestart_spacing (hleft e mem_cons_self) hg) ?_
    rintro (_ | _) g' h
    · exact h
    · exact ⟨fun e' he' => hleft e' (mem_cons_of_mem e he'), h⟩
  · rintro (_ | _) g' h
    · exact h
    · exact h.2.tallies

lemma wp_watchdogTick_spacing (wireguard : Bool) (heartbeatTimeout : Nat) {st : WatchdogState}
    (hg : Tallies (st.restartBackoff.lookup name) g) :
    (watchdogTick wireguard heartbeatTimeout st).wp (spacingSpec name)
      (Returns fun st' g' => Tallies (st'.restartBackoff.lookup name) g') g := by
  refine wp_bind_returns (wp_checkHeartbeats_spacing hg wireguard heartbeatTimeout
    st.nodeDiscovered) fun r g hg => ?_
  have hreconcile := only_reconcileWireguardPeers (P := Aside name)
    (fun _ => ⟨by simp, fun _ _ => rfl⟩) (fun _ => ⟨by simp, fun _ _ => rfl⟩)
    ⟨by simp, fun _ _ => rfl⟩ wireguard st.prevStatuses
  refine wp_bind_returns (wp_aside hreconcile hg) fun prevStatuses g hg => ?_
  refine wp_bind (wp_effect (fun d h => by cases h) ?_)
  rintro now g' ⟨rfl, -⟩
  have hrestarts : ((checkServiceRestarts now r.2).lift WatchdogEffect.coord
      fun _ answer => answer).wp (spacingSpec name)
      (Returns fun acc g' => Tallies (acc.lookup name) g') { g with now := now } :=
    wp_lift (wp_checkServiceRestarts_spacing rfl hg)
  exact wp_bind_returns hrestarts fun acc g hg => hg

lemma wp_spawnWatchdog_spacing (wireguard : Bool) (heartbeatTimeout ticks : Nat)
    {st : WatchdogState} (hg : Tallies (st.restartBackoff.lookup name) g) :
    (spawnWatchdog wireguard heartbeatTimeout ticks st).wp (spacingSpec name)
      (fun _ _ => True) g := by
  induction ticks generalizing st g with
  | zero => trivial
  | succ ticks ih =>
    refine wp_bind_returns (wp_aside (.effect ⟨by simp, fun _ _ => rfl⟩) hg) fun _ g hg => ?_
    exact wp_bind_returns (wp_watchdogTick_spacing wireguard heartbeatTimeout hg)
      fun st' g hg => ih hg

end

def anything (_ w' : WatchdogWorld) : Option WatchdogWorld := some w'

/-- However many ticks the watchdog makes and whatever happens in between, it restarts a service no
sooner than the backoff allows. -/
theorem restarts_spaced (name : String) (wireguard : Bool) (heartbeatTimeout ticks : Nat)
    {w w' : WatchdogWorld} {record : Record WatchdogEffect WatchdogEffect.Answer}
    {p' : WatchdogAction Unit} {es : List (WatchdogChoice ⊕ WatchdogWorld)}
    (hrun : run (stepBeside (recording WatchdogWorld.answer) (offRecord anything))
      ((w, []), spawnWatchdog wireguard heartbeatTimeout ticks default) es =
        some ((w', record), p')) :
    (restartLog name record).Spaced := by
  have hstart : Tallies ((default : WatchdogState).restartBackoff.lookup name) .start := by
    exact rfl
  refine (wp_of_run_recorded (I := fun _ g => g.Spaced) (S := spacingSpec name) ?_ ?_
    (wp_spawnWatchdog_spacing wireguard heartbeatTimeout ticks hstart) ?_ hrun).1
  · intro w g e c r w' hg hpre hanswer
    exact ⟨⟨rfl, w, w', WatchdogWorld.answered_of_answer hanswer⟩, hg.note hpre r⟩
  · intro w g v w' hg _
    exact hg
  · intro x hx
    exact absurd hx not_mem_nil

def spacingWorld : WatchdogWorld :=
  ⟨⟨⟨some ⟨Finmap.singleton "web" demoDef, ∅⟩, ∅, ∅, ∅, ∅⟩, [], [], 0⟩, ∅, ∅⟩

def spacingTick (now : Nat) : List (WatchdogChoice ⊕ WatchdogWorld) :=
  [.inl (.coord (.time now)), .inl (.time now), .inl (.nodes []), .inl (.discovered []),
    .inl (.nodes []), .inl (.time now), .inl (.coord (.order [] [] [])),
    .inl (.coord (.services [⟨"web", demoDef⟩])), .inl (.coord (.order [] [] []))]

def spacingTwice : List (WatchdogChoice ⊕ WatchdogWorld) :=
  spacingTick 10 ++ spacingTick 1000000009 ++ spacingTick 1000000010 ++ [.inl (.coord .proceed)] ++
    spacingTick 6000000009 ++ spacingTick 6000000010 ++ [.inl (.coord .proceed)]

theorem restarts_spaced_twice : ∃ w' record p', run (stepBeside
      (recording WatchdogWorld.answer) (offRecord anything))
      ((spacingWorld, []), spawnWatchdog false 5000000000 5 default) spacingTwice =
        some ((w', record), p') ∧
      (restartLog "web" record).dispatches.map Prod.snd = [1000000010, 6000000010] ∧
      (restartLog "web" record).Spaced := by
  have hobs : (run (stepBeside (recording WatchdogWorld.answer) (offRecord anything))
      ((spacingWorld, []), spawnWatchdog false 5000000000 5 default) spacingTwice).map
        (fun s => (restartLog "web" s.1.2).dispatches.map Prod.snd) =
          some [1000000010, 6000000010] := by
    decide +kernel
  obtain ⟨⟨⟨w', record⟩, p'⟩, hrun, hdispatches⟩ := Option.map_eq_some_iff.mp hobs
  exact ⟨w', record, p', hrun, hdispatches, restarts_spaced "web" false 5000000000 5 hrun⟩

end Mill
