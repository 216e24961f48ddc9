import Mill.Config.Resolved

/-! The wait for a service to become healthy: probes with a pause between them, until one succeeds,
too many have failed in a row or the time is up. Time passes only in the probes and the pauses. -/

namespace Mill

structure Probe where
  success : Bool
  took : Nat

structure HealthWait where
  healthy : Bool
  finished : Nat
  probes : List Nat

-- `probe` answers the probe that is started at a time
variable (probe : Nat → Probe) (health : HealthCheck)

def waitHealthyLoop (deadline now consecutiveFailures : Nat) (probes : List Nat) : HealthWait :=
  let p := probe now
  let probes := probes ++ [now]
  let now := now + p.took
  if p.success then ⟨true, now, probes⟩
  else
    let consecutiveFailures := consecutiveFailures + 1
    if health.failureThreshold ≤ consecutiveFailures then ⟨false, now, probes⟩
    else if deadline ≤ now then ⟨false, now, probes⟩
    else
      let now := now + min health.interval (deadline - now)
      if deadline ≤ now then ⟨false, now, probes⟩
      else waitHealthyLoop deadline now consecutiveFailures probes
termination_by health.failureThreshold - consecutiveFailures

def waitHealthy (timeout now : Nat) : HealthWait :=
  waitHealthyLoop probe health (now + timeout) now 0 []

def probeStart (start : Nat) : Nat → Nat
  | 0 => start
  | k + 1 => probeStart start k + (probe (probeStart start k)).took + health.interval

lemma probeStart_mono (start : Nat) : Monotone (probeStart probe health start) := by
  refine monotone_nat_of_le_succ fun k => ?_
  rw [probeStart, Nat.add_assoc]
  exact Nat.le_add_right _ _

variable {probe health}

lemma waitHealthyLoop_bound (deadline now failures : Nat) (probes : List Nat)
    (hnow : now ≤ deadline) :
    ((waitHealthyLoop probe health deadline now failures probes).healthy = true →
      ∃ a ∈ (waitHealthyLoop probe health deadline now failures probes).probes,
        (probe a).success = true) ∧
    ∃ a ∈ (waitHealthyLoop probe health deadline now failures probes).probes,
      (waitHealthyLoop probe health deadline now failures probes).finished ≤
        deadline + (probe a).took := by
  fun_induction waitHealthyLoop probe health deadline now failures probes with
  | case1 now failures probes p probes' now' hsuccess =>
    have hmem : now ∈ probes' := List.mem_append_right probes List.mem_cons_self
    exact ⟨fun _ => ⟨now, hmem, hsuccess⟩, now, hmem, Nat.add_le_add_right hnow _⟩
  | case2 now failures probes | case3 now failures probes =>
    exact ⟨fun h => absurd h Bool.false_ne_true, now,
      List.mem_append_right probes List.mem_cons_self, Nat.add_le_add_right hnow _⟩
  | case4 now failures probes p probes' now' hfail failures' hfew hearly now'' hlate =>
    refine ⟨fun h => absurd h Bool.false_ne_true, now,
      List.mem_append_right probes List.mem_cons_self, ?_⟩
    have hslept : now'' ≤ deadline := by omega
    exact hslept.trans (Nat.le_add_right _ _)
  | case5 now failures probes p probes' now' hfail failures' hfew hearly now'' hearly' ih =>
    exact ih (not_le.mp hearly').le

lemma waitHealthyLoop_healthy {start up took deadline : Nat}
    (hup : ∀ a, up ≤ a → (probe a).success = true) (htook : ∀ a, (probe a).took ≤ took)
    (htime : up + health.interval + took ≤ deadline)
    (hfew : up ≤ probeStart probe health start (health.failureThreshold - 1))
    (now failures : Nat) (probes : List Nat) (hnow : now = probeStart probe health start failures) :
    (waitHealthyLoop probe health deadline now failures probes).healthy = true := by
  fun_induction waitHealthyLoop probe health deadline now failures probes with
  | case1 now failures probes p probes' now' hsuccess => rfl
  | case2 now failures probes p probes' now' hfail failures' hmany =>
    -- the last probe that may fail is not started before the service is up
    have hlast := probeStart_mono probe health start
      (show health.failureThreshold - 1 ≤ failures by omega)
    exact absurd (hup now (hnow ▸ hfew.trans hlast)) hfail
  | case3 now failures probes p probes' now' hfail
  | case4 now failures probes p probes' now' hfail =>
    have hbefore : now < up := by
      by_contra hnot
      exact hfail (hup now (not_lt.mp hnot))
    have hp : p.took ≤ took := htook now
    omega
  | case5 now failures probes p probes' now' hfail failures' hmore hearly now'' hearly' ih =>
    refine ih ?_
    have hwhole : now'' = now' + health.interval := by omega
    rw [hwhole, probeStart, ← hnow]

lemma waitHealthyLoop_unhealthy {start up deadline : Nat}
    (hdown : ∀ a, a < up → (probe a).success = false)
    (hmany : probeStart probe health start (health.failureThreshold - 1) < up)
    (now failures : Nat) (probes : List Nat) (hnow : now = probeStart probe health start failures)
    (hfailures : failures ≤ health.failureThreshold - 1) :
    (waitHealthyLoop probe health deadline now failures probes).healthy = false := by
  fun_induction waitHealthyLoop probe health deadline now failures probes with
  | case1 now failures probes p probes' now' hsuccess =>
    have hbefore := hdown now (hnow ▸ (probeStart_mono probe health start hfailures).trans_lt hmany)
    exact absurd (hsuccess.symm.trans hbefore) Bool.noConfusion
  | case2 | case3 | case4 => rfl
  | case5 now failures probes p probes' now' hfail failures' hmore hearly now'' hearly' ih =>
    refine ih ?_ (by omega)
    have hwhole : now'' = now' + health.interval := by omega
    rw [hwhole, probeStart, ← hnow]

/-- A service that fails its probes until `t` and answers from then on is found healthy exactly if
the probe that would be one failure too many is not started before that. The other two facts hold
of every service. -/
theorem wait_healthy_honours_timeout (probe : Nat → Probe) (health : HealthCheck)
    (timeout start : Nat) :
    (∀ t took, (∀ a, a < start + t → (probe a).success = false) →
      (∀ a, start + t ≤ a → (probe a).success = true) → (∀ a, (probe a).took ≤ took) →
      t + health.interval + took ≤ timeout →
      ((waitHealthy probe health timeout start).healthy = true ↔
        start + t ≤ probeStart probe health start (health.failureThreshold - 1))) ∧
    ((waitHealthy probe health timeout start).healthy = true →
      ∃ a ∈ (waitHealthy probe health timeout start).probes, (probe a).success = true) ∧
    ∃ a ∈ (waitHealthy probe health timeout start).probes,
      (waitHealthy probe health timeout start).finished ≤ start + timeout + (probe a).took := by
  refine ⟨fun t took hdown hup htook htime => ⟨fun hhealthy => ?_, fun hfew => ?_⟩, ?_⟩
  · by_contra hmany
    have hfalse : (waitHealthy probe health timeout start).healthy = false :=
      waitHealthyLoop_unhealthy hdown (not_le.mp hmany) start 0 [] rfl (Nat.zero_le _)
    exact Bool.false_ne_true (hfalse.symm.trans hhealthy)
  · exact waitHealthyLoop_healthy hup htook (by omega) hfew start 0 [] rfl
  · exact waitHealthyLoop_bound (start + timeout) start 0 [] (Nat.le_add_right _ _)

def demoProbe (now : Nat) : Probe := ⟨5 ≤ now, 0⟩

theorem wait_healthy_gives_up_early :
    (∀ a, a < 5 → (demoProbe a).success = false) ∧ (∀ a, 5 ≤ a → (demoProbe a).success = true) ∧
    (∀ a, (demoProbe a).took = 0) ∧ (waitHealthy demoProbe ⟨"/", 1, 3⟩ 60 0).healthy = false ∧
    (waitHealthy demoProbe ⟨"/", 1, 3⟩ 60 0).finished = 2 := by
  refine ⟨fun a ha => decide_eq_false (by omega), fun a ha => decide_eq_true ha, fun a => rfl, ?_,
    ?_⟩
  · simp [waitHealthy, waitHealthyLoop, demoProbe]
  · simp [waitHealthy, waitHealthyLoop, demoProbe]

end Mill
