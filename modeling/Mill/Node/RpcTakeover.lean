import Mill.Node.RpcServer

/-! Which connection takes the reports of a secondary and whose commands it executes. -/

namespace Mill

open Transition

section

variable {C R : Type} {s s' : RpcServer C R} {e : ServerEvent C R} {h : Nat} {x : Handler C R}

/-- Every report was taken by the connection that was the newest then, and every command that was
executed had arrived on the connection that was the newest then. -/
def RpcServer.NewestOnly (s : RpcServer C R) : Prop :=
  (∀ t ∈ s.taken, t.2 = some t.1) ∧ ∀ t ∈ s.executed, t.2 = some t.1

def RpcServer.OneAtATime (s : RpcServer C R) : ServerEvent C R → Prop
  | .authenticated _ => ∀ x ∈ s.handlers, x.state.isActive = false ∧ x.reader.isActive = false
  | _ => True

instance RpcServer.decidableOneAtATime (s : RpcServer C R) :
    ∀ e, Decidable (s.OneAtATime e) := fun e => by
  unfold OneAtATime
  split <;> infer_instance

/-- What handler `k` may be like when `newest` is the newest connection: only the newest handler and
the newest reader run, and the command that a reader holds came when its connection was the
newest. -/
structure Handler.Sole (newest : Option Nat) (k : Nat) (x : Handler C R) : Prop where
  state : x.state.isActive = true → newest = some k
  reader : x.reader.isActive = true → newest = some k
  giving : ∀ c n, x.reader = .giving c n → n = some k

def RpcServer.Sole (s : RpcServer C R) : Prop :=
  ∀ k x, s.handlers[k]? = some x → Handler.Sole s.newest k x

lemma RpcServer.Sole.set {y : Handler C R} (hs : s.Sole)
    (hy : Handler.Sole s.newest h y) : (s.setHandler h y).Sole := by
  intro k x hx
  rcases List.of_getElem?_set hx with ⟨rfl, rfl⟩ | ⟨_, hx⟩
  · exact hy
  · exact hs k x hx

lemma RpcServer.Sole.congr (hs : s.Sole) (hhandlers : s'.handlers = s.handlers)
    (hnewest : s'.newest = s.newest) : s'.Sole := by
  intro k x hx
  rw [hnewest]
  exact hs k x (hhandlers ▸ hx)

lemma RpcServer.Sole.finish (hs : s.Sole) (hx : s.handlers[h]? = some x) : (s.finish h x).Sole := by
  have hset := hs.set (h := h) (y := { x with state := .ended, aborted := true })
    ⟨nofun, (hs h x hx).reader, (hs h x hx).giving⟩
  exact hset.congr rfl rfl

lemma RpcServer.Sole.readerEnded (hs : s.Sole)
    (hx : s.handlers[h]? = some x) : (s.setHandler h { x with reader := .ended }).Sole :=
  hs.set ⟨(hs h x hx).state, nofun, nofun⟩

lemma RpcServer.Sole.authenticated (hs : s.Sole) (hturn : s.OneAtATime (.authenticated h)) :
    RpcServer.Sole { s.setHandler h ⟨.queued, .waiting, false⟩ with
      waiters := s.waiters ++ [h], newest := some h } := by
  intro k x hx
  rcases List.of_getElem?_set hx with ⟨rfl, rfl⟩ | ⟨_, hx⟩
  · exact ⟨fun _ => rfl, fun _ => rfl, nofun⟩
  · obtain ⟨hidle, hended⟩ := hturn x (List.mem_of_getElem? hx)
    exact ⟨fun hactive => by simp [hidle] at hactive, fun hactive => by simp [hended] at hactive,
      (hs k x hx).giving⟩

lemma RpcServer.Sole.moved {state : HandlerState R} (hs : s.Sole)
    (hx : s.handlers[h]? = some x) (hactive : x.state.isActive = true) :
    (s.setHandler h { x with state }).Sole := by
  have hk := hs h x hx
  exact hs.set ⟨fun _ => hk.state hactive, hk.reader, hk.giving⟩

lemma RpcServer.Sole.step (hs : s.Sole) (hturn : s.OneAtATime e) (h : s.Does e s') : s'.Sole := by
  cases h with
  | accept =>
    intro k x hx
    rcases List.of_getElem?_concat hx with hx | ⟨_, rfl⟩
    · exact hs k x hx
    · exact ⟨nofun, nofun, nofun⟩
  | authFails hx hstate =>
    rename_i h x
    exact hs.set ⟨nofun, (hs h x hx).reader, (hs h x hx).giving⟩
  | authenticated => exact hs.authenticated hturn
  | acquire hx hstate hholder | take hx hstate hreports =>
    exact (hs.moved hx (by rw [hstate]; rfl)).congr rfl rfl
  | put r | stop | listenerEnds | closeCommands | closeReports => exact hs.congr rfl rfl
  | written hx hstate => exact hs.moved hx (by rw [hstate]; rfl)
  | writeFails hx hstate | reportsEnd hx hstate | cancelled hx hstate => exact hs.finish hx
  | arrive hx hreader =>
    rename_i h x c
    have hk := hs h x hx
    have hnewest : s.newest = some h := hk.reader (by rw [hreader]; rfl)
    refine hs.set ⟨hk.state, fun _ => hnewest, fun c' n hgiving => ?_⟩
    cases hgiving
    exact hnewest
  | give hx hreader =>
    rename_i h x c newest
    have hk := hs h x hx
    have hset : (s.setHandler h { x with reader := .waiting }).Sole :=
      hs.set ⟨hk.state, fun _ => hk.reader (by rw [hreader]; rfl), nofun⟩
    exact hset.congr rfl rfl
  | readerEnds hx => exact hs.readerEnded hx
  | abort hx => exact hs.readerEnded hx

lemma RpcServer.NewestOnly.step (hn : s.NewestOnly) (hs : s.Sole) (h : s.Does e s') :
    s'.NewestOnly := by
  cases h with
  | take hx hstate hreports =>
    rename_i h x r reports
    have hnewest : s.newest = some h := (hs h x hx).state (by rw [hstate]; rfl)
    exact ⟨List.forall_mem_cons.mpr ⟨hnewest, hn.1⟩, hn.2⟩
  | give hx hreader =>
    rename_i h x c newest
    exact ⟨hn.1, List.forall_mem_cons.mpr ⟨(hs h x hx).giving c newest hreader, hn.2⟩⟩
  | _ => exact hn

/-- In every run in which a connection is authenticated only when the handlers of the earlier ones
have returned and their readers have ended, the reports go to the newest connection and no other
is listened to. -/
theorem newest_connection_takes_over {es : List (ServerEvent C R)}
    (hturn : Guarded RpcServer.step RpcServer.OneAtATime .init es)
    (hrun : run RpcServer.step .init es = some s) : s.NewestOnly := by
  have hinit : (RpcServer.init : RpcServer C R).Sole := nofun
  have hinv := run_invariant (I := fun s => s.Sole ∧ s.NewestOnly) ?_
    ⟨hinit, nofun, nofun⟩ hturn hrun
  · exact hinv.2
  · rintro s e s' ⟨hs, hn⟩ hP hstep
    have hdoes := RpcServer.does_of_step hstep
    exact ⟨hs.step hP hdoes, hn.step hs hdoes⟩

end

namespace RpcServer

def demoConnect (h : Nat) : List (ServerEvent Nat Nat) := [.accept, .authenticated h, .acquire]

def demoTraffic (h : Nat) : List (ServerEvent Nat Nat) :=
  [.put 1, .take h, .written h, .arrive h 2, .give h]

def demoInTurn : List (ServerEvent Nat Nat) :=
  demoConnect 0 ++ demoTraffic 0 ++
    [.put 3, .take 0, .writeFails 0, .arrive 0 4, .give 0, .abort 0] ++ demoConnect 1 ++
    demoTraffic 1

theorem newest_connection_takes_over_inTurn :
    ∃ s : RpcServer Nat Nat, run RpcServer.step .init demoInTurn = some s ∧
      (1, some 1) ∈ s.taken ∧ (1, some 1) ∈ s.executed ∧ s.NewestOnly := by
  refine exists_end (p := fun s => (1, some 1) ∈ s.taken ∧ (1, some 1) ∈ s.executed)
    (by decide +kernel) fun s hs ⟨htaken, hexecuted⟩ => ?_
  exact ⟨htaken, hexecuted, newest_connection_takes_over (by decide +kernel) hs⟩

def demoTwo : List (ServerEvent Nat Nat) :=
  demoConnect 0 ++ [.accept, .authenticated 1] ++ demoTraffic 0

/-- The report is taken by the older connection, and the command that arrives on it is executed,
after the newer one was authenticated. -/
theorem older_connection_goes_on :
    ∃ s : RpcServer Nat Nat, run RpcServer.step .init demoTwo = some s ∧
      s.newest = some 1 ∧ s.taken = [(0, some 1)] ∧ s.executed = [(0, some 1)] ∧
      ¬ s.NewestOnly := by
  refine exists_end (p := fun s => s.newest = some 1 ∧ s.taken = [(0, some 1)] ∧
    s.executed = [(0, some 1)]) (by decide +kernel) fun s _ ⟨hnewest, htaken, hexecuted⟩ => ?_
  refine ⟨hnewest, htaken, hexecuted, fun hn => ?_⟩
  have hzero : some 1 = some 0 := hn.1 (0, some 1) (by simp [htaken])
  cases hzero

end RpcServer

end Mill
