import Mill.Lib.Account
import Mill.Node.RpcLink

/-! The messages between a primary and a secondary, as an account: what was sent is what was given
and what is still held, in a queue, in the hands of a task or in a stream, and what was dropped
on the way. -/

namespace Mill

open Message Option Transition

variable {C R : Type}

@[simp] lemma commands_nil : (commands [] : Multiset (Message C R)) = 0 := rfl

@[simp] lemma reports_nil : (reports [] : Multiset (Message C R)) = 0 := rfl

@[simp] lemma commands_append (l l' : List C) :
    (commands (l ++ l') : Multiset (Message C R)) = commands l + commands l' := by
  simp [commands]

@[simp] lemma reports_append (l l' : List R) :
    (reports (l ++ l') : Multiset (Message C R)) = reports l + reports l' := by
  simp [reports]

@[simp] lemma commands_cons (c : C) (l : List C) :
    (commands (c :: l) : Multiset (Message C R)) = {.command c} + commands l := rfl

@[simp] lemma reports_cons (r : R) (l : List R) :
    (reports (r :: l) : Multiset (Message C R)) = {.report r} + reports l := rfl

@[simp] lemma commands_eq_zero {l : List C} :
    (commands l : Multiset (Message C R)) = 0 ↔ l = [] := by
  simp [commands]

@[simp] lemma reports_eq_zero {l : List R} : (reports l : Multiset (Message C R)) = 0 ↔ l = [] := by
  simp [reports]

def Connection.commands (c : Connection C R) : Multiset (Message C R) :=
  if c.writer.isOpen then Message.commands (c.writer.held ++ c.queue) else 0

def Connection.held (node : NodeId) (c : Connection C R) : Multiset (Message C R) :=
  if c.nodeId = node then c.commands + reports c.reader.held else 0

def Handler.held (x : Handler C R) : Multiset (Message C R) :=
  commands x.reader.held + reports x.state.held

def Wire.held (w : Wire C R) : Multiset (Message C R) :=
  commands (w.toServer.getD []) + reports (w.toPrimary.getD [])

def Router.held (node : NodeId) (s : Router C R) : Multiset (Message C R) :=
  (s.conns.map (Connection.held node)).sum

def RpcServer.held (s : RpcServer C R) : Multiset (Message C R) :=
  Message.reports s.reports + (s.handlers.map Handler.held).sum

def Link.held (node : NodeId) (s : Link C R) : Multiset (Message C R) :=
  s.router.held node + (s.wires.map Wire.held).sum + s.server.held

/-- Every command for the node of which `send` returned Ok was given to the secondary or is still
held, and every report that was put was given to the primary or is still held. -/
def Link.NothingLost (node : NodeId) (s : Link C R) : Prop :=
  s.sent = s.given + s.held node

/-- What a step of a task of connection `c` drops: what the task holds when it ends and what is on
its way to it, and what it writes to a closed end. -/
def Connection.drops (c : Connection C R) (w : Wire C R) : ConnEvent R → Multiset (Message C R)
  | .written => if w.toServer.isSome then 0 else Message.commands c.writer.held
  | .writeFails => Message.commands (c.writer.held ++ c.queue)
  | .writerCancelled => Message.commands c.queue
  | .readerEnds => reports (c.reader.held ++ w.toPrimary.getD [])
  | .readerCancelled => reports (w.toPrimary.getD [])
  | _ => 0

def Handler.drops (x : Handler C R) (w : Wire C R) : ServerEvent C R → Multiset (Message C R)
  | .written _ => if w.toPrimary.isSome then 0 else reports x.state.held
  | .writeFails _ => reports x.state.held
  | .readerEnds _ => commands (x.reader.held ++ w.toServer.getD [])
  | .abort _ => commands (x.reader.held ++ w.toServer.getD [])
  | _ => 0

def Link.drops (node : NodeId) (s : Link C R) : LinkEvent C R → Multiset (Message C R)
  | .router (.conn i e) =>
    match s.router.conns[i]?, s.wireOf i with
    | some c, some (_, w) => if c.nodeId = node then c.drops w e else 0
    | _, _ => 0
  | .server e =>
    match e.handler? with
    | some h =>
      match s.server.handlers[h]?, s.wires[h]? with
      | some x, some w => x.drops w e
      | _, _ => 0
    | none => 0
  | .hangUp h => (s.wires[h]?).elim 0 fun w => reports (w.toPrimary.getD [])
  | _ => 0

/-- A task ends only when it holds nothing and nothing is on its way to it, no write fails, and
nothing is written to a closed end. -/
def Connection.spares (c : Connection C R) (w : Wire C R) : ConnEvent R → Bool
  | .written => w.toServer.isSome
  | .writeFails => false
  | .writerCancelled => c.queue.isEmpty
  | .readerEnds => c.reader.held.isEmpty && (w.toPrimary.getD []).isEmpty
  | .readerCancelled => (w.toPrimary.getD []).isEmpty
  | _ => true

def Handler.spares (x : Handler C R) (w : Wire C R) : ServerEvent C R → Bool
  | .written _ => w.toPrimary.isSome
  | .writeFails _ => false
  | .readerEnds _ => x.reader.held.isEmpty && (w.toServer.getD []).isEmpty
  | .abort _ => x.reader.held.isEmpty && (w.toServer.getD []).isEmpty
  | _ => true

def Link.spares (node : NodeId) (s : Link C R) : LinkEvent C R → Bool
  | .router (.conn i e) => s.router.conns[i]?.all fun c => (s.wireOf i).all fun p =>
    c.nodeId != node || c.spares p.2 e
  | .server e => e.handler?.all fun h => s.server.handlers[h]?.all fun x => s.wires[h]?.all fun w =>
    x.spares w e
  | .hangUp h => s.wires[h]?.all fun w => (w.toPrimary.getD []).isEmpty
  | _ => true

def Connection.out (c : Connection C R) : ConnEvent R → Multiset (Message C R)
  | .written => Message.commands c.writer.held
  | .writeFails => Message.commands (c.writer.held ++ c.queue)
  | .writerCancelled => Message.commands c.queue
  | .given => reports c.reader.held
  | .readerEnds => reports c.reader.held
  | _ => 0

def ConnEvent.into : ConnEvent R → Multiset (Message C R)
  | .read r => reports [r]
  | _ => 0

lemma Connection.held_step {node : NodeId} {c c' : Connection C R} {e : ConnEvent R}
    (hnode : c.nodeId = node) (h : c.step e = some c') :
    c'.held node + c.out e = c.held node + e.into := by
  obtain ⟨_, hdoes⟩ := does_of_step h
  cases hdoes with
  | take hwriter hqueue =>
    simp [held, commands, hnode, hwriter, hqueue, WriterState.isOpen, out, ConnEvent.into]
  | written hwriter | writeFails hwriter | writerCancelled hwriter _ =>
    simp [held, commands, hnode, hwriter, WriterState.isOpen, out, ConnEvent.into,
      -Multiset.singleton_add]
    abel
  | read _ hreader | given hreader | readerCancelled hreader _ =>
    simp [held, commands, hnode, hreader, out, ConnEvent.into]
  | readerEnds => simp [held, commands, hnode, out, ConnEvent.into]

def Handler.out (x : Handler C R) : ServerEvent C R → Multiset (Message C R)
  | .written _ => reports x.state.held
  | .writeFails _ => reports x.state.held
  | .give _ => Message.commands x.reader.held
  | .readerEnds _ => Message.commands x.reader.held
  | .abort _ => Message.commands x.reader.held
  | _ => 0

def ServerEvent.into : ServerEvent C R → Multiset (Message C R)
  | .arrive _ c => Message.commands [c]
  | _ => 0

lemma RpcServer.held_set {s s' : RpcServer C R} {h : Nat} {x y : Handler C R}
    {outflow inflow : Multiset (Message C R)} (hx : s.handlers[h]? = some x)
    (hreports : s'.reports = s.reports) (hhandlers : s'.handlers = s.handlers.set h y)
    (hy : y.held + outflow = x.held + inflow) : s'.held + outflow = s.held + inflow := by
  have hsum := List.sum_map_set_add Handler.held hx hy
  simp only [held, hreports, hhandlers]
  rw [add_assoc, hsum, add_assoc]

lemma RpcServer.held_handler {s s' : RpcServer C R} {e : ServerEvent C R} {h : Nat}
    {x : Handler C R} (he : e.handler? = some h) (hx : s.handlers[h]? = some x)
    (hdoes : s.Does e s') : s'.held + x.out e = s.held + e.into := by
  cases hdoes with
  | accept | acquire hy hstate hholder | put r | stop | listenerEnds | closeCommands
  | closeReports => cases he
  | take hy hstate hreports =>
    cases he
    cases hx.symm.trans hy
    rename_i r rest
    have hx' : Handler.held { x with state := .writing r } + 0 = x.held + {.report r} := by
      simp [Handler.held, hstate]
    have hsum := List.sum_map_set_add Handler.held hx hx'
    simp only [held, setHandler, hreports, Handler.out, ServerEvent.into, add_zero] at hsum ⊢
    rw [hsum, reports_cons]
    abel
  | authFails hy hstate | written hy hstate | writeFails hy hstate | reportsEnd hy hstate
  | cancelled hy hstate =>
    cases he
    cases hx.symm.trans hy
    exact held_set hx rfl rfl (by simp [Handler.held, Handler.out, ServerEvent.into, hstate])
  | authenticated hy hstate hreader =>
    cases he
    cases hx.symm.trans hy
    exact held_set hx rfl rfl
      (by simp [Handler.held, Handler.out, ServerEvent.into, hstate, hreader])
  | arrive hy hreader | give hy hreader =>
    cases he
    cases hx.symm.trans hy
    exact held_set hx rfl rfl
      (by simp [Handler.held, Handler.out, ServerEvent.into, hreader, add_comm])
  | readerEnds hy hreader | abort hy hreader =>
    cases he
    cases hx.symm.trans hy
    exact held_set hx rfl rfl (by simp [Handler.held, Handler.out, ServerEvent.into, add_comm])

lemma RpcServer.held_other {s s' : RpcServer C R} {e : ServerEvent C R}
    (he : e.handler? = none) (hdoes : s.Does e s') : s'.held = s.held + e.puts := by
  cases hdoes with
  | accept => simp [held, Handler.held, ServerEvent.puts]
  | acquire hx hstate hholder =>
    rename_i h waiters x
    have hx' : Handler.held { x with state := .holding } + 0 = x.held + 0 := by
      simp [Handler.held, hstate]
    exact (add_zero _).symm.trans (held_set hx rfl rfl hx')
  | put =>
    simp only [held, ServerEvent.puts, reports_append]
    abel
  | stop | listenerEnds | closeCommands | closeReports => exact (add_zero _).symm
  | _ => cases he

section

variable {w w' : Wire C R}

lemma Wire.held_connStep [DecidableEq R] {c : Connection C R} {e : ConnEvent R}
    (h : w.connStep c e = some w') :
    w'.held + (e.into + (c.gives e + c.drops w e)) = w.held + c.out e := by
  cases e with
  | written =>
    cases h
    cases hto : w.toServer with
    | none => simp [held, hto, ConnEvent.into, Connection.gives, Connection.drops, Connection.out]
    | some =>
      simp only [held, hto, ConnEvent.into, Connection.gives, Connection.drops, Connection.out,
        map_some, getD_some, isSome_some, if_true, commands_append]
      abel
  | read =>
    simp only [connStep] at h
    split at h
    · rename_i r' rest hto
      rw [ite_none_right_eq_some] at h
      obtain ⟨rfl, h⟩ := h
      cases h
      simp only [held, hto, ConnEvent.into, Connection.gives, Connection.drops, Connection.out,
        getD_some, reports_cons, reports_nil]
      abel
    · cases h
  | readerEnds =>
    cases h
    simp only [held, ConnEvent.into, Connection.gives, Connection.drops, Connection.out,
      getD_none, reports_append, reports_nil]
    abel
  | readerCancelled =>
    cases h
    simp [held, ConnEvent.into, Connection.gives, Connection.drops, Connection.out]
  | take => cases h; rfl
  | writeFails | writerCancelled | given =>
    cases h
    simp [ConnEvent.into, Connection.gives, Connection.drops, Connection.out]

lemma Wire.held_serverStep [DecidableEq C] {x : Handler C R} {e : ServerEvent C R}
    (h : w.serverStep x e = some w') :
    w'.held + (e.into + (x.gives e + x.drops w e)) = w.held + x.out e := by
  cases e with
  | written =>
    cases h
    cases hto : w.toPrimary with
    | none => simp [held, hto, ServerEvent.into, Handler.gives, Handler.drops, Handler.out]
    | some =>
      simp only [held, hto, ServerEvent.into, Handler.gives, Handler.drops, Handler.out,
        map_some, getD_some, isSome_some, if_true, reports_append]
      abel
  | arrive =>
    simp only [serverStep] at h
    split at h
    · rename_i c' rest hto
      rw [ite_none_right_eq_some] at h
      obtain ⟨rfl, h⟩ := h
      cases h
      simp only [held, hto, ServerEvent.into, Handler.gives, Handler.drops, Handler.out,
        getD_some, commands_cons, commands_nil]
      abel
    · cases h
  | readerEnds k | abort k =>
    cases h
    simp only [held, ServerEvent.into, Handler.gives, Handler.drops, Handler.out,
      getD_none, commands_append, commands_nil]
    abel
  | _ =>
    cases h
    simp [ServerEvent.into, Handler.gives, Handler.drops, Handler.out]

end

section

variable {node : NodeId} {i h : Nat} {e : RouterEvent C R}

lemma Router.held_conn (node : NodeId) {s s' : Router C R} {c : Connection C R} {e : ConnEvent R}
    (hc : s.conns[i]? = some c) (hdoes : s.Does (.conn i e) s') :
    s'.held node + (if c.nodeId = node then c.out e else 0) =
      s.held node + (if c.nodeId = node then e.into else 0) := by
  cases hdoes with
  | conn hd hstep =>
    cases hc.symm.trans hd
    refine List.sum_map_set_add (Connection.held node) hc ?_
    split_ifs with hnode
    · exact Connection.held_step hnode hstep
    · have hnode' : ¬ _ = node := (Connection.stepped_of_step hstep).nodeId ▸ hnode
      simp [Connection.held, hnode, hnode']

lemma Router.held_set {s s' : Router C R} {c c' : Connection C R}
    (hc : s.conns[i]? = some c) (hconns : s'.conns = s.conns.set i c')
    (hheld : c'.held node = c.held node) : s'.held node = s.held node := by
  have hsum := List.sum_map_set_add (Connection.held node) hc (congrArg (· + 0) hheld)
  simpa [held, hconns] using hsum

lemma Router.held_other (node : NodeId) {s s' : Router C R} (hs : s.Named)
    (hother : e.isConn = false) (hdoes : s.Does e s') :
    s'.held node = s.held node + e.sends node := by
  cases hdoes with
  | conn => cases hother
  | authenticated =>
    simp [held, Connection.create, Connection.held, Connection.commands, RouterEvent.sends]
  | insertSender hc hwiring | insertToken hc hwiring | disconnect hi hc =>
    refine (held_set hc rfl ?_).trans (add_zero _).symm
    rfl
  | send hi hc hopen =>
    rename_i nodeId x i c
    obtain ⟨d, hd, hnode⟩ := hs nodeId i hi
    cases hc.symm.trans hd
    refine (add_zero _).symm.trans (List.sum_map_set_add (Connection.held node) hc ?_)
    by_cases hn : nodeId = node
    · simp [Connection.held, Connection.commands, RouterEvent.sends, hnode, hn, hopen]
      abel
    · simp [Connection.held, RouterEvent.sends, hnode, hn]
  | closed hc hwiring hwriter hqueue =>
    refine (held_set hc rfl ?_).trans (add_zero _).symm
    simp [Connection.held, Connection.commands, hwriter, hqueue]
  | lose hc hwriter =>
    refine (held_set hc rfl ?_).trans (add_zero _).symm
    simp [Connection.held, Connection.commands, hwriter, WriterState.isOpen]
  | _ => exact (add_zero _).symm

variable {s s' : Link C R}

def Link.Balanced (node : NodeId) (s s' : Link C R) (drops : Multiset (Message C R)) : Prop :=
  s'.sent + (s.given + s.held node) = s.sent + (s'.given + s'.held node + drops)

lemma Link.balanced_conn [DecidableEq R] {e : ConnEvent R} (h : ConnDoes node s i e s') :
    Balanced node s s' (s.drops node (.router (.conn i e))) := by
  cases h with
  | task hc hnode hi hw hw' hstep =>
    have hrouter := Router.held_conn node hc (.conn hc hstep)
    rw [if_pos hnode, if_pos hnode] at hrouter
    have hwires := List.sum_map_set_add Wire.held hw (Wire.held_connStep hw')
    have hflow := Account.flow_balance hrouter hwires
    simp only [Balanced, drops, hc, hi, hnode, if_true, held, ← hflow]
    abel
  | other hc hnode hstep =>
    have hrouter := Router.held_conn node hc (.conn hc hstep)
    rw [if_neg hnode, if_neg hnode, add_zero, add_zero] at hrouter
    have hdrops : s.drops node (.router (.conn i e)) = 0 := by
      simp only [drops, hc]
      split
      · rename_i heq _
        cases heq
        exact if_neg hnode
      · rfl
    simp only [Balanced, hdrops, held, hrouter, add_zero]

lemma Link.balanced_handler [DecidableEq C] {e : ServerEvent C R} (he : e.handler? = some h)
    (hstep : s.handlerStep h e = some s') : Balanced node s s' (s.drops node (.server e)) := by
  obtain ⟨x, w, w', server, hx, hw, hw', hdoes, rfl⟩ := of_handlerStep hstep
  have hheld := RpcServer.held_handler he hx hdoes
  have hwires := List.sum_map_set_add Wire.held hw (Wire.held_serverStep hw')
  have hflow := Account.flow_balance hheld hwires
  have htotal : s.held node = s.router.held node + (s.server.held + (s.wires.map Wire.held).sum) :=
    by rw [held, add_right_comm, add_assoc]
  simp only [Balanced, drops, he, hx, hw, htotal, ← hflow]
  simp only [held]
  abel

lemma Link.balanced_router (hs : s.router.Named) (hother : e.isConn = false)
    (h : ((s.router.step e).map fun router =>
      { s with router, sent := e.sends node + s.sent }) = some s') :
    Balanced node s s' (s.drops node (.router e)) := by
  obtain ⟨router, hstep, rfl⟩ := map_eq_some_iff.mp h
  have hheld := Router.held_other node hs hother (Router.does_of_step hstep)
  have hdrops : s.drops node (.router e) = 0 := by
    cases e with
    | conn => cases hother
    | _ => rfl
  simp only [Balanced, held, hheld, hdrops]
  abel

lemma Link.balanced_authenticated {a : Nat} {router : Router C R} {peers : List (Option Nat)}
    (hs : s.router.Named) (hstep : s.router.step (.authenticated a) = some router) :
    Balanced node s { s with router, peers } 0 := by
  have hheld := Router.held_other node hs rfl (Router.does_of_step hstep)
  have hrouter : router.held node = s.router.held node := hheld.trans (add_zero _)
  simp only [Balanced, held, hrouter, add_zero]

lemma Link.balanced_server {e : ServerEvent C R} (he : e.handler? = none)
    (h : ((s.server.step e).map fun server =>
      { s with server, wires := s.wires ++ e.opens, sent := e.puts + s.sent }) = some s') :
    Balanced node s s' (s.drops node (.server e)) := by
  obtain ⟨server, hstep, rfl⟩ := map_eq_some_iff.mp h
  have hheld := RpcServer.held_other he (RpcServer.does_of_step hstep)
  have hopens : (e.opens.map Wire.held).sum = 0 := by
    unfold ServerEvent.opens
    split
    · simp [Wire.opened, Wire.held]
    · rfl
  simp only [Balanced, drops, he, held, hheld, List.map_append, List.sum_append, hopens]
  abel

lemma Link.balanced_hangUp {w : Wire C R} (hw : s.wires[h]? = some w) :
    Balanced node s { s with wires := s.wires.set h { w with toPrimary := none } }
      (s.drops node (.hangUp h)) := by
  have hclosed : Wire.held { w with toPrimary := none } + reports (w.toPrimary.getD []) =
      w.held + 0 := by
    simp [Wire.held]
  have hwires := List.sum_map_set_add Wire.held hw hclosed
  rw [add_zero] at hwires
  simp only [Balanced, drops, hw, elim_some, held, ← hwires]
  abel

lemma Link.balanced_routerStep [DecidableEq R] (hs : s.router.Named)
    (h : s.routerStep node e = some s') : Balanced node s s' (s.drops node (.router e)) := by
  cases e with
  | conn => exact balanced_conn (of_connStep h)
  | authenticated =>
    obtain ⟨t, _, h⟩ := bind_eq_some_iff.mp h
    split_ifs at h
    obtain ⟨router, hstep, rfl⟩ := map_eq_some_iff.mp h
    exact balanced_authenticated hs hstep
  | _ => exact balanced_router hs rfl h

lemma Link.balanced_serverStep [DecidableEq C] {e : ServerEvent C R}
    (h : s.serverStep e = some s') : Balanced node s s' (s.drops node (.server e)) := by
  cases e with
  | stop => cases h
  | accept | acquire | put r | listenerEnds | closeCommands | closeReports =>
    exact balanced_server rfl h
  | _ => exact balanced_handler rfl h

variable [DecidableEq C] [DecidableEq R]

lemma Link.balanced_step {e : LinkEvent C R} (hs : s.router.Named)
    (h : s.step node e = some s') : Balanced node s s' (s.drops node e) := by
  cases e with
  | router => exact balanced_routerStep hs h
  | server => exact balanced_serverStep h
  | connected =>
    obtain ⟨t, _, h⟩ := bind_eq_some_iff.mp h
    split_ifs at h
    obtain ⟨router, hstep, rfl⟩ := map_eq_some_iff.mp h
    exact balanced_authenticated hs hstep
  | hangUp =>
    simp only [step, ite_none_left_eq_some] at h
    obtain ⟨_, h⟩ := h
    obtain ⟨w, hw, rfl⟩ := map_eq_some_iff.mp h
    exact balanced_hangUp hw

lemma Link.nothingLost_step {e : LinkEvent C R} (hs : s.router.Named) (hlost : s.NothingLost node)
    (h : s.step node e = some s') : s'.NothingLost node ↔ s.drops node e = 0 := by
  have hbalance := balanced_step hs h
  rw [Balanced, ← hlost, add_comm, add_left_cancel_iff] at hbalance
  rw [NothingLost, hbalance]
  exact add_eq_left

end

section

variable {node : NodeId} {s s' : Link C R}

lemma Connection.drops_eq_zero_iff {c c' : Connection C R} {w : Wire C R} {e : ConnEvent R}
    (h : c.step e = some c') : c.drops w e = 0 ↔ c.spares w e = true := by
  obtain ⟨_, hdoes⟩ := does_of_step h
  cases hdoes with
  | written hwriter => simp [drops, spares, hwriter, isSome_iff_ne_none]
  | writeFails hwriter => simp [drops, spares, hwriter]
  | _ => simp [drops, spares]

lemma Handler.drops_eq_zero_iff {t t' : RpcServer C R} {h : Nat} {x : Handler C R} {w : Wire C R}
    {e : ServerEvent C R} (he : e.handler? = some h) (hx : t.handlers[h]? = some x)
    (hdoes : t.Does e t') : x.drops w e = 0 ↔ x.spares w e = true := by
  cases hdoes with
  | written hy hstate =>
    cases he
    cases hx.symm.trans hy
    simp [drops, spares, hstate, isSome_iff_ne_none]
  | writeFails hy hstate =>
    cases he
    cases hx.symm.trans hy
    simp [drops, spares, hstate]
  | _ => simp [drops, spares]

lemma Link.drops_conn_eq_zero_iff [DecidableEq R] {i : Nat} {e : ConnEvent R}
    (h : ConnDoes node s i e s') :
    s.drops node (.router (.conn i e)) = 0 ↔ s.spares node (.router (.conn i e)) = true := by
  cases h with
  | task hc hnode hi hw hw' hstep =>
    simpa [drops, spares, hc, hi, hnode] using Connection.drops_eq_zero_iff hstep
  | other hc hnode =>
    cases hi : s.wireOf i with
    | none => simp [drops, spares, hc, hi]
    | some => simp [drops, spares, hc, hi, hnode]

lemma Link.drops_handler_eq_zero_iff [DecidableEq C] {h : Nat} {e : ServerEvent C R}
    (he : e.handler? = some h) (hstep : s.handlerStep h e = some s') :
    s.drops node (.server e) = 0 ↔ s.spares node (.server e) = true := by
  obtain ⟨x, w, w', server, hx, hw, hw', hdoes, rfl⟩ := of_handlerStep hstep
  have hiff := Handler.drops_eq_zero_iff (w := w) he hx hdoes
  simpa [drops, spares, he, hx, hw] using hiff

variable [DecidableEq C] [DecidableEq R]

lemma Link.drops_eq_zero_iff {e : LinkEvent C R} (h : s.step node e = some s') :
    s.drops node e = 0 ↔ s.spares node e = true := by
  cases e with
  | router e =>
    cases e with
    | conn => exact drops_conn_eq_zero_iff (of_connStep h)
    | _ => exact iff_of_true rfl rfl
  | server e =>
    cases he : e.handler? with
    | none => simp [drops, spares, he]
    | some k =>
      have hstep : s.handlerStep k e = some s' := by
        cases e with
        | stop => cases h
        | _ =>
          cases he <;> exact h
      exact drops_handler_eq_zero_iff he hstep
  | connected => exact iff_of_true rfl rfl
  | hangUp k =>
    cases hw : s.wires[k]? with
    | none | some w => simp [drops, spares, hw]

end

section

variable {node : NodeId} {s s' : Link C R}

lemma Link.of_map_router {e : RouterEvent C R} {f : Router C R → Link C R}
    (h : (s.router.step e).map f = some s') (hf : ∀ router, (f router).router = router) :
    s.router.step e = some s'.router := by
  obtain ⟨router, hstep, rfl⟩ := map_eq_some_iff.mp h
  rw [hf, hstep]

lemma Link.router_routerStep [DecidableEq R] {e : RouterEvent C R}
    (h : s.routerStep node e = some s') : s.router.Does e s'.router := by
  unfold routerStep at h
  split at h
  · cases of_connStep h with
    | task hc hnode hi hw hw' hstep => exact .conn hc hstep
    | other hc hnode hstep => exact .conn hc hstep
  · obtain ⟨t, _, h⟩ := bind_eq_some_iff.mp h
    split_ifs at h
    exact Router.does_of_step (of_map_router h fun _ => rfl)
  · exact Router.does_of_step (of_map_router h fun _ => rfl)

lemma Link.router_serverStep [DecidableEq C] {e : ServerEvent C R}
    (h : s.serverStep e = some s') : s'.router = s.router := by
  unfold serverStep at h
  split at h
  · cases h
  · split at h
    · obtain ⟨x, w, w', server, _, _, _, _, rfl⟩ := of_handlerStep h
      rfl
    · obtain ⟨server, _, rfl⟩ := map_eq_some_iff.mp h
      rfl

variable [DecidableEq C] [DecidableEq R]

lemma Link.named_step {e : LinkEvent C R} (hs : s.router.Named)
    (h : s.step node e = some s') : s'.router.Named := by
  cases e with
  | router => exact Router.named_step hs (router_routerStep h)
  | server =>
    rw [router_serverStep h]
    exact hs
  | connected =>
    obtain ⟨t, _, h⟩ := bind_eq_some_iff.mp h
    split_ifs at h
    exact Router.named_step hs (Router.does_of_step (of_map_router h fun _ => rfl))
  | hangUp =>
    simp only [step, ite_none_left_eq_some] at h
    obtain ⟨_, h⟩ := h
    obtain ⟨w, _, rfl⟩ := map_eq_some_iff.mp h
    exact hs

lemma link_named {es : List (LinkEvent C R)}
    (hrun : run (Link.step node) .init es = some s) : s.router.Named := by
  have hany : Guarded (Link.step node) (fun _ _ => True) .init es :=
    guarded_of_forall Link.init fun _ _ _ => trivial
  exact run_invariant (I := fun s => s.router.Named)
    (fun s e s' hs _ hstep => Link.named_step hs hstep) Router.named_init hany hrun

/-- Along a run every message is given or still held exactly if the connections between the router
and the node break only when they are idle. -/
theorem messages_conserved_iff {es : List (LinkEvent C R)}
    (hrun : run (Link.step node) .init es = some s) :
    Guarded (Link.step node) (fun s e => s.spares node e = true) .init es ↔
      ∀ as t, as <+: es → run (Link.step node) .init as = some t → t.NothingLost node := by
  have hinit : (Link.init : Link C R).NothingLost node := rfl
  -- one step keeps the account even exactly if it spares the messages
  have hstep : ∀ (s : Link C R) e s', s.router.Named ∧ s.NothingLost node →
      s.step node e = some s' →
      (s'.router.Named ∧ s'.NothingLost node ↔ s.spares node e = true) := by
    rintro s e s' ⟨hs, hlost⟩ hstep
    rw [← Link.drops_eq_zero_iff hstep, ← Link.nothingLost_step hs hlost hstep]
    exact and_iff_right (Link.named_step hs hstep)
  rw [guarded_iff_forall_reached hstep ⟨Router.named_init, hinit⟩ hrun]
  constructor
  · intro h as t has ht
    exact (h as t has ht).2
  · intro h as t has ht
    exact ⟨link_named ht, h as t has ht⟩

end

namespace Link

open Router (demoNode)

def demoConnect (i h : Nat) : List (LinkEvent Nat Nat) :=
  [.server .accept, .server (.authenticated h), .connected 0 h, .router (.insertSender i),
    .router (.insertToken i)]

def demoCommand (i h c : Nat) : List (LinkEvent Nat Nat) :=
  [.router (.send demoNode c), .router (.conn i .take), .router (.conn i .written),
    .server (.arrive h c), .server (.give h)]

def demoReport (i h r : Nat) : List (LinkEvent Nat Nat) :=
  [.server (.put r), .server (.take h), .server (.written h), .router (.conn i (.read r)),
    .router (.conn i .given)]

/-- The node is disconnected while nothing is under way, and connected again. The report that
comes then stays where it is. -/
def demoIdle : List (LinkEvent Nat Nat) :=
  .router (.call demoNode) :: demoConnect 0 0 ++ [.server .acquire] ++ demoCommand 0 0 1 ++
    demoReport 0 0 2 ++ [.router (.disconnect demoNode), .router (.deregister 0),
      .router (.conn 0 .writerCancelled), .router (.conn 0 .readerCancelled),
      .server (.readerEnds 0), .router (.call demoNode)] ++ demoConnect 1 1 ++
    demoCommand 1 1 3 ++ [.server (.put 4)]

theorem messages_conserved_idle :
    ∃ s : Link Nat Nat, run (Link.step demoNode) .init demoIdle = some s ∧
      s.given = {.command 1, .report 2, .command 3} ∧ s.held demoNode = {.report 4} ∧
      ∀ as t, as <+: demoIdle → run (Link.step demoNode) .init as = some t →
        t.NothingLost demoNode := by
  refine exists_end (p := fun s => s.given = {.command 1, .report 2, .command 3} ∧
    s.held demoNode = {.report 4}) (by decide +kernel) fun s hs ⟨hgiven, hheld⟩ => ?_
  exact ⟨hgiven, hheld, (messages_conserved_iff hs).mp (by decide +kernel)⟩

/-- Two commands are sent and a report is put. The connection breaks while the first command is
being written and the report too, and the router makes a new one. -/
def demoBreak : List (LinkEvent Nat Nat) :=
  .router (.call demoNode) :: demoConnect 0 0 ++ [.server .acquire,
    .router (.send demoNode 1), .router (.send demoNode 2), .router (.conn 0 .take),
    .server (.put 3), .server (.take 0), .router (.conn 0 .writeFails),
    .router (.conn 0 .readerEnds), .server (.writeFails 0), .server (.abort 0),
    .router (.lose 0), .router (.slept 0)] ++ demoConnect 1 1 ++ [.server .acquire]

/-- The new connection is up and nothing is held anywhere, and nothing was given. -/
theorem messages_lost : ∃ s : Link Nat Nat, run (Link.step demoNode) .init demoBreak = some s ∧
      s.router.inner.lookup demoNode = some 1 ∧ s.server.holder = some 1 ∧
      s.sent = {.command 1, .command 2, .report 3} ∧ s.given = 0 ∧ s.held demoNode = 0 ∧
      ¬ s.NothingLost demoNode := by
  refine exists_end (p := fun s => s.router.inner.lookup demoNode = some 1 ∧
    s.server.holder = some 1 ∧ s.sent = {.command 1, .command 2, .report 3} ∧ s.given = 0 ∧
    s.held demoNode = 0) (by decide +kernel) ?_
  rintro s - ⟨hinner, hholder, hsent, hgiven, hheld⟩
  refine ⟨hinner, hholder, hsent, hgiven, hheld, fun hlost => ?_⟩
  rw [NothingLost, hsent, hgiven, hheld] at hlost
  cases congrArg Multiset.card hlost

end Link

end Mill
