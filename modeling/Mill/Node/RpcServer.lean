import Mill.Lib.List
import Mill.Lib.Run

/-! The RPC server of a secondary. -/

namespace Mill

variable {C R : Type}

inductive HandlerState (R : Type)
  | authenticating
  | queued
  | holding
  | writing (r : R)
  | ended
deriving DecidableEq

inductive ServerReader (C : Type)
  | unspawned
  | waiting
  | giving (c : C) (newest : Option Nat)
  | ended
deriving DecidableEq

structure Handler (C R : Type) where
  state : HandlerState R
  reader : ServerReader C
  aborted : Bool
deriving DecidableEq

def HandlerState.isActive : HandlerState R → Bool
  | authenticating => false
  | ended => false
  | _ => true

def ServerReader.isActive : ServerReader C → Bool
  | waiting => true
  | giving _ _ => true
  | _ => false

def HandlerState.isLocked : HandlerState R → Bool
  | holding => true
  | writing _ => true
  | _ => false

@[simp] def HandlerState.held : HandlerState R → List R
  | .authenticating => []
  | .queued => []
  | .holding => []
  | .writing r => [r]
  | .ended => []

@[simp] def ServerReader.held : ServerReader C → List C
  | .unspawned => []
  | .waiting => []
  | .giving c _ => [c]
  | .ended => []

structure RpcServer (C R : Type) where
  handlers : List (Handler C R)
  waiters : List Nat
  holder : Option Nat
  reports : List R
  listening : Bool
  stopping : Bool
  commandsClosed : Bool
  reportsClosed : Bool
  newest : Option Nat
  taken : List (Nat × Option Nat)
  executed : List (Nat × Option Nat)

inductive ServerEvent (C R : Type)
  | accept
  | authFails (h : Nat)
  | authenticated (h : Nat)
  | acquire
  | put (r : R)
  | take (h : Nat)
  | written (h : Nat)
  | writeFails (h : Nat)
  | reportsEnd (h : Nat)
  | cancelled (h : Nat)
  | arrive (h : Nat) (c : C)
  | give (h : Nat)
  | readerEnds (h : Nat)
  | abort (h : Nat)
  | stop
  | listenerEnds
  | closeCommands
  | closeReports

namespace RpcServer

def init : RpcServer C R where
  handlers := []
  waiters := []
  holder := none
  reports := []
  listening := true
  stopping := false
  commandsClosed := false
  reportsClosed := false
  newest := none
  taken := []
  executed := []

def setHandler (s : RpcServer C R) (h : Nat) (x : Handler C R) : RpcServer C R :=
  { s with handlers := s.handlers.set h x }

def withHandler (s : RpcServer C R) (h : Nat) (f : Handler C R → Option (RpcServer C R)) :
    Option (RpcServer C R) := s.handlers[h]?.bind f

def finish (s : RpcServer C R) (h : Nat) (x : Handler C R) : RpcServer C R :=
  { s.setHandler h { x with state := .ended, aborted := true } with holder := none }

def step (s : RpcServer C R) : ServerEvent C R → Option (RpcServer C R)
  | .accept =>
    if s.listening then
      some { s with handlers := s.handlers ++ [⟨.authenticating, .unspawned, false⟩] }
    else none
  | .authFails h => s.withHandler h fun x =>
    match x.state with
    | .authenticating => some (s.setHandler h { x with state := .ended })
    | _ => none
  | .authenticated h => s.withHandler h fun x =>
    match x.state, x.reader with
    | .authenticating, .unspawned =>
      some { s.setHandler h ⟨.queued, .waiting, false⟩ with
        waiters := s.waiters ++ [h], newest := some h }
    | _, _ => none
  | .acquire =>
    match s.holder, s.waiters with
    | none, h :: waiters => s.withHandler h fun x =>
      match x.state with
      | .queued =>
        some { s.setHandler h { x with state := .holding } with waiters, holder := some h }
      | _ => none
    | _, _ => none
  | .put r => if s.reportsClosed then none else some { s with reports := s.reports ++ [r] }
  | .take h => s.withHandler h fun x =>
    match x.state, s.reports with
    | .holding, r :: reports =>
      some { s.setHandler h { x with state := .writing r } with
        reports, taken := (h, s.newest) :: s.taken }
    | _, _ => none
  | .written h => s.withHandler h fun x =>
    match x.state with
    | .writing _ => some (s.setHandler h { x with state := .holding })
    | _ => none
  | .writeFails h => s.withHandler h fun x =>
    match x.state with
    | .writing _ => some (s.finish h x)
    | _ => none
  | .reportsEnd h => s.withHandler h fun x =>
    match x.state, s.reports, s.reportsClosed with
    | .holding, [], true => some (s.finish h x)
    | _, _, _ => none
  | .cancelled h => s.withHandler h fun x =>
    match x.state, s.stopping with
    | .holding, true => some (s.finish h x)
    | _, _ => none
  -- an abort does not interrupt a reader that runs: it may go on until it next has to wait
  | .arrive h c => s.withHandler h fun x =>
    match x.reader with
    | .waiting => some (s.setHandler h { x with reader := .giving c s.newest })
    | _ => none
  | .give h => s.withHandler h fun x =>
    match x.reader, s.commandsClosed with
    | .giving _ newest, false =>
      some { s.setHandler h { x with reader := .waiting } with
        executed := (h, newest) :: s.executed }
    | _, _ => none
  | .readerEnds h => s.withHandler h fun x =>
    match x.reader, s.commandsClosed with
    | .waiting, _ => some (s.setHandler h { x with reader := .ended })
    | .giving _ _, true => some (s.setHandler h { x with reader := .ended })
    | _, _ => none
  | .abort h => s.withHandler h fun x =>
    if x.aborted ∧ x.reader.isActive then some (s.setHandler h { x with reader := .ended })
    else none
  | .stop => some { s with stopping := true }
  | .listenerEnds => if s.stopping then some { s with listening := false } else none
  | .closeCommands => some { s with commandsClosed := true }
  | .closeReports => some { s with reportsClosed := true }

inductive Does (s : RpcServer C R) : ServerEvent C R → RpcServer C R → Prop
  | accept : Does s .accept
      { s with handlers := s.handlers ++ [⟨.authenticating, .unspawned, false⟩] }
  | authFails {h : Nat} {x : Handler C R} (hx : s.handlers[h]? = some x)
      (hstate : x.state = .authenticating) :
      Does s (.authFails h) (s.setHandler h { x with state := .ended })
  | authenticated {h : Nat} {x : Handler C R} (hx : s.handlers[h]? = some x)
      (hstate : x.state = .authenticating) (hreader : x.reader = .unspawned) :
      Does s (.authenticated h)
        { s.setHandler h ⟨.queued, .waiting, false⟩ with
          waiters := s.waiters ++ [h], newest := some h }
  | acquire {h : Nat} {waiters : List Nat} {x : Handler C R} (hx : s.handlers[h]? = some x)
      (hstate : x.state = .queued) (hholder : s.holder = none) : Does s .acquire
        { s.setHandler h { x with state := .holding } with waiters, holder := some h }
  | put (r : R) : Does s (.put r) { s with reports := s.reports ++ [r] }
  | take {h : Nat} {x : Handler C R} {r : R} {reports : List R} (hx : s.handlers[h]? = some x)
      (hstate : x.state = .holding) (hreports : s.reports = r :: reports) : Does s (.take h)
        { s.setHandler h { x with state := .writing r } with
          reports, taken := (h, s.newest) :: s.taken }
  | written {h : Nat} {x : Handler C R} {r : R} (hx : s.handlers[h]? = some x)
      (hstate : x.state = .writing r) :
      Does s (.written h) (s.setHandler h { x with state := .holding })
  | writeFails {h : Nat} {x : Handler C R} {r : R} (hx : s.handlers[h]? = some x)
      (hstate : x.state = .writing r) : Does s (.writeFails h) (s.finish h x)
  | reportsEnd {h : Nat} {x : Handler C R} (hx : s.handlers[h]? = some x)
      (hstate : x.state = .holding) : Does s (.reportsEnd h) (s.finish h x)
  | cancelled {h : Nat} {x : Handler C R} (hx : s.handlers[h]? = some x)
      (hstate : x.state = .holding) : Does s (.cancelled h) (s.finish h x)
  | arrive {h : Nat} {x : Handler C R} {c : C} (hx : s.handlers[h]? = some x)
      (hreader : x.reader = .waiting) :
      Does s (.arrive h c) (s.setHandler h { x with reader := .giving c s.newest })
  | give {h : Nat} {x : Handler C R} {c : C} {newest : Option Nat}
      (hx : s.handlers[h]? = some x) (hreader : x.reader = .giving c newest) : Does s (.give h)
        { s.setHandler h { x with reader := .waiting } with
          executed := (h, newest) :: s.executed }
  | readerEnds {h : Nat} {x : Handler C R} (hx : s.handlers[h]? = some x)
      (hreader : x.reader.isActive = true) :
      Does s (.readerEnds h) (s.setHandler h { x with reader := .ended })
  | abort {h : Nat} {x : Handler C R} (hx : s.handlers[h]? = some x)
      (hreader : x.reader.isActive = true) :
      Does s (.abort h) (s.setHandler h { x with reader := .ended })
  | stop : Does s .stop { s with stopping := true }
  | listenerEnds : Does s .listenerEnds { s with listening := false }
  | closeCommands : Does s .closeCommands { s with commandsClosed := true }
  | closeReports : Does s .closeReports { s with reportsClosed := true }

variable {s s' : RpcServer C R} {h : Nat}

lemma withHandler_eq_some {f : Handler C R → Option (RpcServer C R)} :
    s.withHandler h f = some s' ↔ ∃ x, s.handlers[h]? = some x ∧ f x = some s' :=
  Option.bind_eq_some_iff

lemma does_of_step {e : ServerEvent C R} (h : s.step e = some s') : Does s e s' := by
  cases e with
  | stop | closeCommands | closeReports =>
    cases h
    constructor
  | accept | put r | listenerEnds =>
    simp only [step, Option.ite_none_right_eq_some, Option.ite_none_left_eq_some] at h
    cases h.2
    constructor
  | acquire =>
    simp only [step] at h
    split at h
    · obtain ⟨x, hx, h⟩ := withHandler_eq_some.mp h
      split at h <;> cases h
      constructor <;> assumption
    · cases h
  | abort =>
    obtain ⟨x, hx, h⟩ := withHandler_eq_some.mp h
    rw [Option.ite_none_right_eq_some] at h
    cases h.2
    exact .abort hx h.1.2
  | readerEnds =>
    obtain ⟨x, hx, h⟩ := withHandler_eq_some.mp h
    split at h <;> cases h
    all_goals
      rename x.reader = _ => hreader
      exact .readerEnds hx (by rw [hreader, ServerReader.isActive])
  | _ =>
    -- a handler in the state that the event needs
    obtain ⟨x, hx, h⟩ := withHandler_eq_some.mp h
    split at h <;> cases h
    constructor <;> assumption

structure Locked (s : RpcServer C R) : Prop where
  holder : ∀ h, s.holder = some h → ∃ x, s.handlers[h]? = some x ∧ x.state.isLocked = true
  locked : ∀ (h : Nat) (x : Handler C R), s.handlers[h]? = some x → x.state.isLocked = true →
    s.holder = some h

lemma locked_init : (init : RpcServer C R).Locked := ⟨nofun, nofun⟩

lemma Locked.set {x y : Handler C R} (hs : s.Locked)
    (hx : s.handlers[h]? = some x) (hhandlers : s'.handlers = s.handlers.set h y)
    (hholder : s'.holder = s.holder) (hy : y.state.isLocked = x.state.isLocked) : s'.Locked := by
  refine ⟨fun k hk => ?_, fun k z hz hlocked => ?_⟩
  · have hold := hs.holder k (hholder ▸ hk)
    rw [hhandlers]
    exact List.exists_getElem?_set hx hold fun _ hlocked => hy.trans hlocked
  · rw [hhandlers] at hz
    rw [hholder]
    rcases List.of_getElem?_set hz with ⟨rfl, rfl⟩ | ⟨_, hz⟩
    · exact hs.locked k x hx (hy ▸ hlocked)
    · exact hs.locked k z hz hlocked

lemma Locked.finish {x : Handler C R} (hs : s.Locked) (hx : s.handlers[h]? = some x)
    (hlocked : x.state.isLocked = true) : (s.finish h x).Locked := by
  refine ⟨nofun, fun k z hz hk => ?_⟩
  rcases List.of_getElem?_set hz with ⟨rfl, rfl⟩ | ⟨hne, hz⟩
  · cases hk
  · -- there was one holder only
    have hh := hs.locked h x hx hlocked
    have hk' := hs.locked k z hz hk
    exact absurd (Option.some.inj (hk'.symm.trans hh)) hne

lemma Locked.step {e : ServerEvent C R} (hs : s.Locked) (hdoes : s.Does e s') : s'.Locked := by
  cases hdoes with
  | accept =>
    refine ⟨fun k hk => ?_, fun k z hz hlocked => ?_⟩
    · obtain ⟨z, hz, hlocked⟩ := hs.holder k hk
      exact ⟨z, List.getElem?_append_of_some hz, hlocked⟩
    · rcases List.of_getElem?_concat hz with hz | ⟨_, rfl⟩
      · exact hs.locked k z hz hlocked
      · cases hlocked
  | acquire hx hstate hholder =>
    rename_i h waiters x
    refine ⟨fun k hk => ?_, fun k z hz hlocked => ?_⟩
    · cases hk
      exact ⟨_, List.getElem?_set_of_some hx, rfl⟩
    · rcases List.of_getElem?_set hz with ⟨rfl, rfl⟩ | ⟨_, hz⟩
      · rfl
      · cases hholder.symm.trans (hs.locked k z hz hlocked)
  | authFails hx hstate | authenticated hx hstate hreader | take hx hstate hreports
  | written hx hstate => exact hs.set hx rfl rfl (by rw [hstate]; rfl)
  | writeFails hx hstate | reportsEnd hx hstate | cancelled hx hstate =>
    exact hs.finish hx (by rw [hstate]; rfl)
  | arrive hx hreader | give hx hreader | readerEnds hx hreader | abort hx hreader =>
    exact hs.set hx rfl rfl rfl
  | _ => exact ⟨hs.holder, hs.locked⟩

end RpcServer

end Mill
