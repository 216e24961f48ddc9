import Mill.Node.DeploySheet

/-! The turn of one service in a deploy whose containers start: whether it succeeds, and what it
leaves behind, in terms of which allocations have an address. -/

namespace Mill

open Mill.Action Program

def EnvPart.Resolvable (ctx : DeployCtx) (s₀ : FsmState) (book : AllocId → Option AllocEntry) :
    EnvPart → Prop
  | .literal _ => True
  | .serviceAddress service => Sheet.Addressed book service
  | .secret name => ∃ secret plaintext value, s₀.secrets.lookup name = some secret ∧
      ctx.decryptSecret secret.encryptedValue secret.nonce = .ok plaintext ∧
      ctx.fromUtf8 plaintext = .ok value

def EnvValue.Resolvable (ctx : DeployCtx) (s₀ : FsmState) (book : AllocId → Option AllocEntry) :
    EnvValue → Prop
  | .literal _ => True
  | .interpolated parts => ∀ part ∈ parts, part.Resolvable ctx s₀ book

namespace Sheet

section

def EnvResolvable (ctx : DeployCtx) (s₀ : FsmState) (book : AllocId → Option AllocEntry)
    (env : Finmap fun _ : String => EnvValue) : Prop :=
  ∀ key value, env.lookup key = some value → value.Resolvable ctx s₀ book

variable {ctx : DeployCtx} {s₀ : FsmState} {φ : Sheet} {α β σ : Type}

lemma wp_fine {e : Effect} {Q : Except DeployError e.Answer → Sheet → Prop} (hpre : Proposes s₀ e)
    (h : ∀ r, φ.Fine s₀ e r → Q (.ok r) (φ.after e)) : (act e).wp (spec s₀) Q φ := by
  refine wp_effect hpre ?_
  rintro r φ' ⟨hr, rfl⟩
  exact h r hr

/-- The sheet stays, and the outcome is a success exactly if `P`. -/
def Decides (φ : Sheet) (P : Prop) (o : Except DeployError α) (φ' : Sheet) : Prop :=
  φ' = φ ∧ (o.isOk = true ↔ P)

lemma wp_foldEach_decides {body : σ → β → Action σ} {P : β → Prop}
    (hbody : ∀ acc x, (body acc x).wp (spec s₀) (Decides φ (P x)) φ) (xs : List β) (acc : σ) :
    (foldEach body xs acc).wp (spec s₀) (Decides φ (∀ x ∈ xs, P x)) φ := by
  refine wp_foldEach (fun rest _ φ' => φ' = φ ∧ ((∀ x ∈ xs, P x) ↔ ∀ x ∈ rest, P x)) ?_ ?_
    ⟨rfl, Iff.rfl⟩
  · rintro x rest acc φ' ⟨rfl, hall⟩
    refine wp_mono (hbody acc x) ?_
    rintro (y | acc') φ'' ⟨rfl, hx⟩
    · refine ⟨rfl, iff_of_false Bool.false_ne_true fun h => ?_⟩
      exact Bool.false_ne_true (hx.mpr (hall.mp h x List.mem_cons_self))
    · refine ⟨rfl, hall.trans ?_⟩
      rw [List.forall_mem_cons]
      exact and_iff_right (hx.mp rfl)
  · rintro acc φ' ⟨rfl, hall⟩
    exact ⟨rfl, iff_of_true rfl (hall.mpr fun x hx => absurd hx List.not_mem_nil)⟩

lemma wp_resolveEnvPart (part : EnvPart) :
    (resolveEnvPart ctx part).wp (spec s₀) (Decides φ (part.Resolvable ctx s₀ φ.book)) φ := by
  cases part with
  | literal => exact ⟨rfl, iff_of_true rfl trivial⟩
  | serviceAddress =>
    refine wp_bind (wp_fine trivial fun address haddress => ?_)
    cases address with
    | none | some address => exact ⟨rfl, haddress⟩
  | secret name =>
    refine wp_readSecret trivial ?_
    rintro secret _ ⟨hsecret, rfl⟩
    obtain rfl : secret = s₀.secrets.lookup name := hsecret
    refine ⟨fun s plaintext value hs hplain hvalue => ?_, fun _ hnot => ?_⟩
    · exact ⟨rfl, iff_of_true rfl ⟨s, plaintext, value, hs, hplain, hvalue⟩⟩
    · exact ⟨rfl, iff_of_false Bool.false_ne_true hnot⟩

lemma wp_bind_decides {p : Action α} {f : α → β} {P : Prop} (hp : p.wp (spec s₀) (Decides φ P) φ) :
    (p >>= fun a => pure (f a)).wp (spec s₀) (Decides φ P) φ := by
  refine wp_bind (wp_mono hp ?_)
  rintro (x | a) φ' h
  · exact h
  · exact h

lemma wp_resolveEnvValue (value : EnvValue) :
    (resolveEnvValue ctx value).wp (spec s₀) (Decides φ (value.Resolvable ctx s₀ φ.book)) φ := by
  cases value with
  | literal => exact ⟨rfl, iff_of_true rfl trivial⟩
  | interpolated parts =>
    exact wp_foldEach_decides (fun _ part => wp_bind_decides (wp_resolveEnvPart part)) parts ""

lemma wp_resolveEnv (env : Finmap fun _ : String => EnvValue) :
    (resolveEnv ctx env).wp (spec s₀) (Decides φ (EnvResolvable ctx s₀ φ.book env)) φ := by
  refine wp_bind (wp_fine trivial fun order horder => ?_)
  have hentries : env.entries = order := horder
  have hall : EnvResolvable ctx s₀ φ.book env ↔ ∀ e ∈ order, e.2.Resolvable ctx s₀ φ.book := by
    unfold EnvResolvable
    constructor
    · rintro h ⟨key, value⟩ he
      apply h key value
      exact (Finmap.mem_iff_of_entries hentries).mp he
    · intro h key value hvalue
      exact h ⟨key, value⟩ ((Finmap.mem_iff_of_entries hentries).mpr hvalue)
  rw [hall]
  exact wp_foldEach_decides (fun _ e => wp_bind_decides (wp_resolveEnvValue e.2)) order ∅

end

section

def AgreeBut (name : String) (book book' : AllocId → Option AllocEntry) : Prop :=
  ∀ id e, e.name ≠ name → (book' id = some e ↔ book id = some e)

def EnvRefers (env : Finmap fun _ : String => EnvValue) (service : String) : Prop :=
  ∃ key parts, env.lookup key = some (.interpolated parts) ∧ .serviceAddress service ∈ parts

variable {ctx : DeployCtx} {s₀ : FsmState} {name service : String}
  {book book' book'' : AllocId → Option AllocEntry} {env : Finmap fun _ : String => EnvValue}

lemma AgreeBut.refl (name : String) (book : AllocId → Option AllocEntry) :
    AgreeBut name book book := fun _ _ _ => Iff.rfl

lemma AgreeBut.trans (h : AgreeBut name book book') (h' : AgreeBut name book' book'') :
    AgreeBut name book book'' := fun id e he => (h' id e he).trans (h id e he)

lemma AgreeBut.set {φ : Sheet} (h : AgreeBut name book φ.book) {id : AllocId} {e : AllocEntry}
    (hname : e.name = name) (hid : ∀ e ∈ φ.book id, e.name = name) :
    AgreeBut name book (φ.set id (some e)).book := by
  apply h.trans
  intro i e' hne
  by_cases hi : i = id
  · subst hi
    rw [book_set_self]
    constructor
    · intro heq
      cases heq
      exact absurd hname hne
    · intro heq
      exact absurd (hid e' heq) hne
  · rw [book_set_of_ne hi]

lemma AgreeBut.addressed_iff (h : AgreeBut name book book') (hne : service ≠ name) :
    Addressed book' service ↔ Addressed book service := by
  constructor
  · rintro ⟨id, e, he, hservice, haddressed⟩
    exact ⟨id, e, (h id e (hservice ▸ hne)).mp he, hservice, haddressed⟩
  · rintro ⟨id, e, he, hservice, haddressed⟩
    exact ⟨id, e, (h id e (hservice ▸ hne)).mpr he, hservice, haddressed⟩

lemma envResolvable_congr
    (h : ∀ service, EnvRefers env service → (Addressed book' service ↔ Addressed book service)) :
    EnvResolvable ctx s₀ book' env ↔ EnvResolvable ctx s₀ book env := by
  unfold EnvResolvable
  refine forall_congr' fun key => forall_congr' fun value => forall_congr' fun hvalue => ?_
  cases value with
  | literal => rfl
  | interpolated parts =>
    refine forall_congr' fun part => forall_congr' fun hpart => ?_
    cases part with
    | literal => rfl
    | serviceAddress service => exact h service ⟨key, parts, hvalue, hpart⟩
    | secret => rfl

lemma AgreeBut.envResolvable_iff (h : AgreeBut name book book') (ctx : DeployCtx)
    (s₀ : FsmState) (hown : ¬ EnvRefers env name) :
    EnvResolvable ctx s₀ book' env ↔ EnvResolvable ctx s₀ book env := by
  apply envResolvable_congr
  intro service hrefers
  apply h.addressed_iff
  rintro rfl
  exact hown hrefers

end

variable {ctx : DeployCtx} {s₀ : FsmState} {φ : Sheet} {name : String} {d : ServiceDef}
  {id : AllocId}

lemma wp_propose_fine {cmd : Command} {Q : Except DeployError Response → Sheet → Prop}
    (hpre : Proposes s₀ (.propose cmd))
    (h : ∀ response, φ.Fine s₀ (.propose cmd) (.ok response) →
      Q (.ok response) (φ.after (.propose cmd))) : (propose cmd).wp (spec s₀) Q φ := by
  refine wp_propose hpre ?_ ?_
  · rintro response φ' ⟨hfine, rfl⟩
    exact h response hfine
  · rintro message φ' ⟨⟨⟨response, heq⟩, _⟩, _⟩
    cases heq

lemma wp_send_fine {node : NodeId} {cmd : NodeCommand}
    {Q : Except DeployError Unit → Sheet → Prop} (h : Q (.ok ()) φ) :
    (send node cmd).wp (spec s₀) Q φ := by
  refine wp_bind (wp_fine trivial fun r hr => ?_)
  have hok : r = .ok () := hr
  rw [hok]
  exact h

lemma wp_ofExcept_ok {α ε : Type} {wrap : ε → DeployError} {a : α}
    {Q : Except DeployError α → Sheet → Prop} (h : Q (.ok a) φ) :
    (ofExcept wrap (.ok a)).wp (spec s₀) Q φ := h

/-- A success with the sheet `up` if `P` holds, else a failure with `down`. -/
def StartsIf {α : Type} (P : Prop) (up down : Sheet) (o : Except DeployError α) (φ' : Sheet) :
    Prop :=
  (P ∧ o.isOk = true ∧ φ' = up) ∨ (¬ P ∧ o.isOk = false ∧ φ' = down)

lemma StartsIf.congr {α β : Type} {P : Prop} {up down φ' : Sheet} {o : Except DeployError α}
    {o' : Except DeployError β} (h : StartsIf P up down o φ') (ho : o.isOk = o'.isOk) :
    StartsIf P up down o' φ' := by
  unfold StartsIf at h
  rwa [ho] at h

lemma wp_runScheduledAlloc {e : AllocEntry} (he : φ.book id = some e)
    (hpending : e.pending = true) (nodeId : NodeId) :
    (runScheduledAlloc ctx name d id nodeId).wp (spec s₀)
      (StartsIf (EnvResolvable ctx s₀ φ.book d.env)
        (φ.set id (some { e with addressed := true, pending := false })) φ) φ := by
  refine wp_bind (wp_mono (wp_resolveEnv d.env) ?_)
  rintro (x | env) φ' ⟨rfl, hok⟩
  · exact .inr ⟨fun h => Bool.false_ne_true (hok.mpr h), rfl, rfl⟩
  · refine wp_bind (wp_send_fine ?_)
    refine wp_bind (wp_fine trivial fun status hstatus => ?_)
    have hrunning : status = .ok () := hstatus e he hpending
    subst hrunning
    have hup : φ'.after (.waitForStatus id) =
        φ'.set id (some { e with addressed := true, pending := false }) := by
      simp only [after, he, Option.map_some, hpending, if_true]
    rw [hup]
    refine wp_bind (wp_ofExcept_ok ?_)
    refine wp_bind (wp_fine trivial fun address haddress => ?_)
    obtain ⟨address, rfl⟩ := Option.isSome_iff_exists.mp (haddress _ (book_set_self ..) rfl)
    dsimp only
    refine wp_bind (wp_fine trivial fun healthy hhealthy => ?_)
    have htrue : healthy = true := hhealthy
    subst htrue
    refine wp_bind (wp_propose_fine trivial fun response _ => .inl ⟨hok.mp rfl, rfl, ?_⟩)
    simp only [after, book_set_self, Option.map_some, set_set]
    rfl

lemma wp_startAlloc (hown : ¬ EnvRefers d.env name) (replica : Nat) :
    (startAlloc ctx name d id replica).wp (spec s₀) (fun o φ' =>
      (∀ e ∈ φ.book id, e.name = name) ∧ StartsIf (EnvResolvable ctx s₀ φ.book d.env)
        (φ.set id (some ⟨name, true, false⟩)) (φ.set id (some ⟨name, false, false⟩)) o φ') φ := by
  refine wp_bind (wp_fine trivial fun node hnode => ?_)
  obtain ⟨nodeId, rfl, hregistered⟩ := hnode
  refine wp_bind (wp_fine trivial fun raftId hraftId => ?_)
  obtain ⟨raftNodeId, rfl, hin⟩ := hraftId hregistered
  refine wp_bind (wp_propose_fine ⟨hin, rfl⟩ fun response hresponse => ?_)
  have hsame : ∀ e ∈ φ.book id, e.name = name := hresponse.2 _ _ _ _ _ _ rfl
  have hagree : AgreeBut name φ.book (φ.set id (some ⟨name, false, true⟩)).book :=
    (AgreeBut.refl name φ.book).set rfl hsame
  have hresolvable := hagree.envResolvable_iff ctx s₀ hown
  have hscheduled := book_set_self φ id (some ⟨name, false, true⟩)
  refine wp_bind (wp_attempt (wp_mono (wp_runScheduledAlloc hscheduled rfl nodeId) ?_))
  rintro (x | u) φ' (⟨hres, hok, rfl⟩ | ⟨hres, hok, rfl⟩)
  · cases hok
  · refine wp_bind (wp_fine trivial fun r _ => ?_)
    refine ⟨hsame, .inr ⟨fun h => hres (hresolvable.mpr h), rfl, ?_⟩⟩
    simp only [after, book_set_self, Option.map_some, set_set]
    rfl
  · exact ⟨hsame, .inl ⟨hresolvable.mp hres, rfl, set_set ..⟩⟩
  · cases hok

lemma wp_attachCloud (vol : String) (raftNodeId : Nat) :
    (attachCloud ctx vol raftNodeId).wp (spec s₀) (Returns fun _ φ' => φ' = φ) φ := by
  unfold attachCloud
  split
  · refine wp_bind (wp_fine trivial fun instanceId _ => ?_)
    cases instanceId with
    | none => rfl
    | some =>
      refine wp_bind (wp_fine trivial fun attached hattached => ?_)
      have hok : attached = .ok () := hattached
      rw [hok]
      rfl
  · rfl

lemma wp_detachCloud (vol : String) :
    (detachCloud ctx vol).wp (spec s₀) (Returns fun _ φ' => φ' = φ) φ := by
  unfold detachCloud
  split
  · refine wp_bind (wp_fine trivial fun detached hdetached => ?_)
    have hok : detached = .ok () := hdetached
    rw [hok]
    rfl
  · rfl

lemma wp_attachVolume (vol : String) (raftNodeId : Nat) :
    (attachVolume ctx vol raftNodeId).wp (spec s₀) (Returns fun _ φ' => φ' = φ) φ := by
  refine wp_bind_returns (wp_attachCloud vol raftNodeId) ?_
  rintro _ φ' rfl
  exact wp_bind (wp_propose_fine trivial fun _ _ => rfl)

lemma wp_createVolumeIfNeeded (raftNodeId : Nat) (vol : VolumeDef) :
    (createVolumeIfNeeded ctx raftNodeId vol).wp (spec s₀) (Returns fun _ φ' => φ' = φ) φ := by
  unfold createVolumeIfNeeded
  split
  · rfl
  refine wp_bind (wp_fine trivial fun state _ => ?_)
  refine wp_bind (wp_fine trivial fun target _ => ?_)
  cases state with
  | none =>
    dsimp only
    split
    · refine wp_bind (wp_fine trivial fun created hcreated => ?_)
      obtain ⟨cloudId, rfl⟩ := hcreated
      refine wp_bind (wp_ofExcept_ok ?_)
      refine wp_bind (wp_propose_fine trivial fun _ _ => ?_)
      exact wp_attachVolume vol.name raftNodeId
    · rfl
  | some state =>
    cases state with
    | ready => exact wp_attachVolume vol.name raftNodeId
    | attached =>
      dsimp only
      split
      · rfl
      · refine wp_bind_returns (wp_detachCloud vol.name) ?_
        rintro _ φ' rfl
        refine wp_bind (wp_propose_fine trivial fun _ _ => ?_)
        exact wp_attachVolume vol.name raftNodeId

lemma wp_createVolumesIfNeeded (raftNodeId : Nat) :
    (createVolumesIfNeeded ctx d raftNodeId).wp (spec s₀) (Returns fun _ φ' => φ' = φ) φ := by
  apply wp_foldEach_returns (fun _ _ φ' => φ' = φ) ?_ rfl
  rintro vol rest acc φ' rfl
  exact wp_createVolumeIfNeeded raftNodeId vol

/-- The start of a replica under an id of which `T` holds: if it succeeds the allocation has an
address, if it fails there is none. -/
def ReplicaTurn (ctx : DeployCtx) (s₀ : FsmState) (name : String) (d : ServiceDef)
    (T : AllocId → Prop) (φ : Sheet) {α : Type} (o : Except DeployError α) (φ' : Sheet) : Prop :=
  ∃ id, T id ∧ (∀ e ∈ φ.book id, e.name = name) ∧
    StartsIf (EnvResolvable ctx s₀ φ.book d.env) (φ.set id (some ⟨name, true, false⟩))
      (φ.set id (some ⟨name, false, false⟩)) o φ'

inductive ReplicasTurn (ctx : DeployCtx) (s₀ : FsmState) (name : String) (d : ServiceDef)
    (T : AllocId → Prop) (φ : Sheet) {α : Type} : Except DeployError α → Sheet → Prop
  | none (a : α) (h : d.replicas = 0) : ReplicasTurn ctx s₀ name d T φ (.ok a) φ
  | started (a : α) {φ'} (h : 0 < d.replicas) (henv : EnvResolvable ctx s₀ φ.book d.env)
      (hagree : AgreeBut name φ.book φ'.book) (haddressed : Addressed φ'.book name) :
      ReplicasTurn ctx s₀ name d T φ (.ok a) φ'
  | failed (x : DeployError) {id} (h : 0 < d.replicas) (henv : ¬ EnvResolvable ctx s₀ φ.book d.env)
      (hid : T id) (hname : ∀ e ∈ φ.book id, e.name = name) :
      ReplicasTurn ctx s₀ name d T φ (.error x) (φ.set id (some ⟨name, false, false⟩))

lemma wp_replicas {σ : Type} {body : σ → Nat → Action σ} {T : Nat → Sheet → AllocId → Prop}
    (hown : ¬ EnvRefers d.env name)
    (hbody : ∀ acc replica φ,
      (body acc replica).wp (spec s₀) (ReplicaTurn ctx s₀ name d (T replica φ) φ) φ) (acc : σ) :
    (foldEach body (List.range d.replicas) acc).wp (spec s₀)
      (ReplicasTurn ctx s₀ name d (T 0 φ) φ) φ := by
  -- before the first replica nothing has changed; after it the environment is known to resolve
  let Inv (rest : List Nat) (_ : σ) (φ' : Sheet) : Prop :=
    (rest = List.range d.replicas ∧ φ' = φ) ∨ (0 < d.replicas ∧ EnvResolvable ctx s₀ φ.book d.env ∧
      AgreeBut name φ.book φ'.book ∧ Addressed φ'.book name)
  apply wp_foldEach Inv
  · rintro replica rest acc φ' (⟨hrest, rfl⟩ | ⟨hpos, henv, hagree, haddressed⟩)
    · have hpos : 0 < d.replicas := by
        apply Nat.pos_of_ne_zero
        intro hzero
        rw [hzero] at hrest
        cases hrest
      have hfirst : replica = 0 := by
        have hhead := congrArg List.head? hrest
        rw [List.head?_cons, List.head?_range, if_neg hpos.ne'] at hhead
        exact Option.some.inj hhead
      subst hfirst
      refine wp_mono (hbody acc 0 φ') ?_
      rintro (x | acc') φ'' ⟨id, hid, hname, ⟨henv, hok, rfl⟩ | ⟨henv, hok, rfl⟩⟩
      · cases hok
      · exact .failed x hpos henv hid hname
      · have hagree : AgreeBut name φ'.book (φ'.set id (some ⟨name, true, false⟩)).book :=
          (AgreeBut.refl name φ'.book).set rfl hname
        exact .inr ⟨hpos, henv, hagree, id, _, book_set_self .., rfl, rfl⟩
      · cases hok
    · refine wp_mono (hbody acc replica φ') ?_
      have henv' := (hagree.envResolvable_iff ctx s₀ hown).mpr henv
      rintro (x | acc') φ'' ⟨id, hid, hname, ⟨-, hok, rfl⟩ | ⟨hnot, hok, rfl⟩⟩
      · cases hok
      · exact absurd henv' hnot
      · exact .inr ⟨hpos, henv, hagree.set rfl hname, id, _, book_set_self .., rfl, rfl⟩
      · cases hok
  · rintro acc φ' (⟨hrest, rfl⟩ | ⟨hpos, henv, hagree, haddressed⟩)
    · exact .none acc (List.range_eq_nil.mp hrest.symm)
    · exact .started acc hpos henv hagree haddressed
  · exact .inl ⟨rfl, rfl⟩

def AnyReady (s₀ : FsmState) : Prop := ∃ n ∈ s₀.nodes.values, n.status = .ready

/-- The service has an address after its turn: it was started, or one of its allocations had an
address and was not taken over by the start that failed. -/
def Left (s₀ : FsmState) (added : Bool) (name : String) (d : ServiceDef)
    (book : AllocId → Option AllocEntry) (o : Bool) : Prop :=
  (o = true ∧ 0 < d.replicas) ∨ ∃ id e, book id = some e ∧ e.name = name ∧ e.addressed = true ∧
    ¬ (added = true ∧ o = false ∧ AnyReady s₀ ∧ id = ⟨s!"{name}-{0}"⟩)

structure ServiceTurn (ctx : DeployCtx) (s₀ : FsmState) (added : Bool) (name : String)
    (d : ServiceDef) (book : AllocId → Option AllocEntry) (o : Bool)
    (book' : AllocId → Option AllocEntry) : Prop where
  outcome : o = true ↔ AnyReady s₀ ∧ (d.replicas = 0 ∨ EnvResolvable ctx s₀ book d.env)
  frame : AgreeBut name book book'
  own : Addressed book' name ↔ Left s₀ added name d book o

lemma serviceTurn_of_not_ready (h : ¬ AnyReady s₀) (added : Bool)
    (book : AllocId → Option AllocEntry) :
    ServiceTurn ctx s₀ added name d book false book where
  outcome := iff_of_false Bool.false_ne_true fun hready => h hready.1
  frame := AgreeBut.refl name book
  own := by
    simp only [Left, h, Bool.false_eq_true, false_and, and_false, not_false_eq_true, and_true,
      false_or, Addressed]

lemma addressed_set_failed {id : AllocId} :
    Addressed (φ.set id (some ⟨name, false, false⟩)).book name ↔
      ∃ i e, φ.book i = some e ∧ e.name = name ∧ e.addressed = true ∧ i ≠ id := by
  constructor
  · rintro ⟨i, e, he, hname, haddressed⟩
    have hne : i ≠ id := by
      rintro rfl
      rw [book_set_self] at he
      cases he
      cases haddressed
    rw [book_set_of_ne hne] at he
    exact ⟨i, e, he, hname, haddressed, hne⟩
  · rintro ⟨i, e, he, hname, haddressed, hne⟩
    exact ⟨i, e, (book_set_of_ne hne φ _).trans he, hname, haddressed⟩

lemma ReplicasTurn.serviceTurn {T : AllocId → Prop} {α : Type} {o : Except DeployError α}
    {φ' : Sheet} (h : ReplicasTurn ctx s₀ name d T φ o φ') (hready : AnyReady s₀) {added : Bool}
    (hT : ∀ id, T id → ∀ i e, φ.book i = some e →
      (i ≠ id ↔ ¬ (added = true ∧ i = ⟨s!"{name}-{0}"⟩))) :
    ServiceTurn ctx s₀ added name d φ.book o.isOk φ'.book := by
  cases h with
  | none a hzero =>
    refine ⟨iff_of_true rfl ⟨hready, .inl hzero⟩, AgreeBut.refl name φ.book, ?_⟩
    simp [Left, hzero, Addressed, Except.isOk, Except.toBool]
  | started a hpos henv hagree haddressed =>
    refine ⟨iff_of_true rfl ⟨hready, .inr henv⟩, hagree, ?_⟩
    exact iff_of_true haddressed (.inl ⟨rfl, hpos⟩)
  | @failed x id hpos henv hid hname =>
    refine ⟨iff_of_false Bool.false_ne_true ?_, (AgreeBut.refl name φ.book).set rfl hname, ?_⟩
    · rintro ⟨_, hzero | henv'⟩
      · exact hpos.ne' hzero
      · exact henv henv'
    · rw [addressed_set_failed]
      constructor
      · rintro ⟨i, e, he, hservice, haddressed, hne⟩
        refine .inr ⟨i, e, he, hservice, haddressed, fun hlost => ?_⟩
        exact (hT id hid i e he).mp hne ⟨hlost.1, hlost.2.2.2⟩
      · rintro (⟨hfalse, _⟩ | ⟨i, e, he, hservice, haddressed, hkept⟩)
        · cases hfalse
        · refine ⟨i, e, he, hservice, haddressed, (hT id hid i e he).mpr fun hlost => ?_⟩
          exact hkept ⟨hlost.1, rfl, hready, hlost.2⟩

lemma wp_deployService (hown : ¬ EnvRefers d.env name) : (deployService ctx name d).wp (spec s₀)
      (fun o φ' => ServiceTurn ctx s₀ true name d φ.book o.isOk φ'.book) φ := by
  refine wp_bind (wp_fine trivial fun node hnode => ?_)
  cases node with
  | none =>
    have hnot : ¬ AnyReady s₀ := fun h => Bool.false_ne_true (hnode.mpr h)
    exact serviceTurn_of_not_ready hnot true φ.book
  | some raftNodeId =>
    refine wp_bind_returns (wp_createVolumesIfNeeded raftNodeId) ?_
    rintro _ φ' rfl
    have hreplica (acc : Unit) (replica : Nat) (φ : Sheet) :
        (startAlloc ctx name d ⟨s!"{name}-{replica}"⟩ replica).wp (spec s₀)
          (ReplicaTurn ctx s₀ name d (fun id => id = ⟨s!"{name}-{replica}"⟩) φ) φ :=
      wp_mono (wp_startAlloc hown replica) fun o φ' h => ⟨_, rfl, h⟩
    refine wp_mono (wp_replicas (T := fun replica _ id => id = ⟨s!"{name}-{replica}"⟩) hown
      hreplica ()) fun o φ'' h => ?_
    apply h.serviceTurn (hnode.mp rfl)
    rintro id rfl i e _
    simp

lemma wp_stopQuietly (allocs : List (AllocId × NodeId)) :
    (stopQuietly allocs).wp (spec s₀) (Returns fun _ φ' => φ' = φ) φ := by
  apply wp_foldEach_returns (fun _ _ φ' => φ' = φ) ?_ rfl
  rintro a rest acc φ' rfl
  exact wp_bind (wp_fine trivial fun _ _ => rfl)

lemma wp_startReplica (hown : ¬ EnvRefers d.env name) (newAllocs : List (AllocId × NodeId))
    (replica : Nat) : (startReplica ctx name d newAllocs replica).wp (spec s₀)
      (ReplicaTurn ctx s₀ name d (fun id => φ.book id = none) φ) φ := by
  refine wp_bind (wp_bind (wp_fine trivial fun suffix hsuffix => ?_))
  have hnew : φ.book ⟨s!"{name}-{suffix}"⟩ = none := hsuffix name
  refine wp_bind (wp_attempt (wp_mono (wp_startAlloc hown replica) ?_))
  rintro (x | u) φ' ⟨hname, hstarts⟩
  · refine wp_bind_returns (wp_stopQuietly newAllocs) ?_
    rintro _ φ'' rfl
    exact ⟨_, hnew, hname, hstarts.congr rfl⟩
  · refine wp_bind (wp_fine trivial fun node _ => ?_)
    cases node with
    | none | some nodeId => exact ⟨_, hnew, hname, hstarts.congr rfl⟩

lemma wp_stopOlds (allocs : List (AllocId × NodeId)) : (foldEach stopOld allocs none).wp (spec s₀)
      (Returns fun stopErr φ' => stopErr = none ∧ φ' = φ) φ := by
  apply wp_foldEach_returns (fun _ stopErr φ' => stopErr = none ∧ φ' = φ) ?_ ⟨rfl, rfl⟩
  rintro a rest acc φ' ⟨rfl, rfl⟩
  refine wp_bind (wp_fine trivial fun r hr => ?_)
  have hok : r = .ok () := hr
  rw [hok]
  exact ⟨rfl, rfl⟩

lemma wp_rollingUpdate (hown : ¬ EnvRefers d.env name) : (rollingUpdate ctx name d).wp (spec s₀)
      (fun o φ' => ServiceTurn ctx s₀ false name d φ.book o.isOk φ'.book) φ := by
  refine wp_bind (wp_fine trivial fun node hnode => ?_)
  cases node with
  | none =>
    have hnot : ¬ AnyReady s₀ := fun h => Bool.false_ne_true (hnode.mpr h)
    exact serviceTurn_of_not_ready hnot false φ.book
  | some raftNodeId =>
    refine wp_bind_returns (wp_createVolumesIfNeeded raftNodeId) ?_
    rintro _ φ' rfl
    refine wp_bind (wp_fine trivial fun oldAllocs _ => ?_)
    refine wp_bind (wp_mono (wp_replicas (T := fun _ φ id => φ.book id = none) hown
      (fun newAllocs replica φ => wp_startReplica hown newAllocs replica) []) ?_)
    intro o φ'' h
    -- the new ids are nobody's, so no allocation is lost
    have hturn : ServiceTurn ctx s₀ false name d φ'.book o.isOk φ''.book := by
      apply h.serviceTurn (hnode.mp rfl)
      intro id hid i e he
      refine iff_of_true ?_ (by simp)
      rintro rfl
      cases he.symm.trans hid
    cases o with
    | error => exact hturn
    | ok =>
      refine wp_bind_returns (wp_stopOlds oldAllocs) ?_
      rintro _ _ ⟨rfl, rfl⟩
      exact hturn

end Sheet

end Mill
