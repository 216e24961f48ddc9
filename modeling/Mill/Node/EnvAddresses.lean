import Mill.Lib.Recording
import Mill.Node.VolumeAffinity

/-! What `resolve_env` puts in place of the references of an environment, and when it fails. -/

namespace Mill

open Mill.Action Program

def addressRead (service : String) (address : Option SocketAddr) : Σ e, Effect.Answer e :=
  ⟨.read (.serviceAddress service), address⟩

/-- What a part of a value becomes, an address being one that was read. -/
inductive Resolves (ctx : DeployCtx) (s : FsmState) (record : Record Effect Effect.Answer) :
    EnvPart → String → Prop
  | literal (text : String) : Resolves ctx s record (.literal text) text
  | address {service : String} {address : SocketAddr}
      (h : addressRead service (some address) ∈ record) :
      Resolves ctx s record (.serviceAddress service) (ctx.showAddress address)
  | secret {name text : String} {secret : EncryptedSecret} {plaintext : List UInt8}
      (hsecret : s.secrets.lookup name = some secret)
      (hdecrypt : ctx.decryptSecret secret.encryptedValue secret.nonce = .ok plaintext)
      (htext : ctx.fromUtf8 plaintext = .ok text) : Resolves ctx s record (.secret name) text

inductive ValueResolves (ctx : DeployCtx) (s : FsmState) (record : Record Effect Effect.Answer) :
    EnvValue → String → Prop
  | literal (text : String) : ValueResolves ctx s record (.literal text) text
  | interpolated {parts : List EnvPart} {texts : List String}
      (h : List.Forall₂ (Resolves ctx s record) parts texts) :
      ValueResolves ctx s record (.interpolated parts) (texts.foldl (· ++ ·) "")

def EnvResolves (ctx : DeployCtx) (s : FsmState) (record : Record Effect Effect.Answer)
    (env : Finmap fun _ : String => EnvValue) (resolved : Finmap fun _ : String => String) : Prop :=
  ∀ key value, env.lookup key = some value →
    ∃ text, resolved.lookup key = some text ∧ ValueResolves ctx s record value text

def Refers (env : Finmap fun _ : String => EnvValue) (part : EnvPart) : Prop :=
  ∃ key parts, env.lookup key = some (.interpolated parts) ∧ part ∈ parts

def Resolvable (ctx : DeployCtx) (s : FsmState) : EnvPart → Prop
  | .literal _ => True
  | .serviceAddress service =>
    ∃ i a, s.allocs.lookup i = some a ∧ a.name = service ∧ a.address ≠ none
  | .secret name => ∃ secret plaintext text, s.secrets.lookup name = some secret ∧
      ctx.decryptSecret secret.encryptedValue secret.nonce = .ok plaintext ∧
      ctx.fromUtf8 plaintext = .ok text

/-- An address of an active allocation of the service. -/
def FsmState.LiveAddress (s : FsmState) (service : String) (address : SocketAddr) : Prop :=
  ∃ i a, s.allocs.lookup i = some a ∧ a.name = service ∧ a.kind = .service ∧
    a.status.isActive = true ∧ a.address = some address

section

variable {ctx : DeployCtx} {s : FsmState} {record record' : Record Effect Effect.Answer}

lemma Resolves.mono (h : record ⊆ record') {part : EnvPart} {text : String}
    (hpart : Resolves ctx s record part text) : Resolves ctx s record' part text := by
  cases hpart with
  | literal => exact .literal text
  | address hread => exact .address (h hread)
  | secret hsecret hdecrypt htext => exact .secret hsecret hdecrypt htext

lemma ValueResolves.mono (h : record ⊆ record') {value : EnvValue} {text : String}
    (hvalue : ValueResolves ctx s record value text) : ValueResolves ctx s record' value text := by
  cases hvalue with
  | literal => exact .literal text
  | interpolated hparts => exact .interpolated (hparts.imp fun _ _ hpart => hpart.mono h)

lemma eval_serviceAddress_eq_some {v : View s} {service : String} {address : SocketAddr}
    (h : Query.eval s v (.serviceAddress service) = some address) :
    ∃ i a, s.allocs.lookup i = some a ∧ a.name = service ∧ a.address = some address := by
  obtain ⟨a, hfound, ha⟩ := List.exists_of_findSome?_eq_some h
  obtain ⟨hin, hname⟩ := List.mem_filter.mp hfound
  rw [← Multiset.mem_coe, ← v.allocs_eq, Finmap.mem_values] at hin
  obtain ⟨i, hi⟩ := hin
  exact ⟨i, a, hi, by simpa using hname, ha⟩

lemma eval_serviceAddress_eq_none {v : View s} {service : String}
    (h : Query.eval s v (.serviceAddress service) = none) {i : AllocId} {a : Alloc}
    (ha : s.allocs.lookup i = some a) (hname : a.name = service) : a.address = none := by
  have hin : a ∈ v.allocs := by
    rw [← Multiset.mem_coe, ← v.allocs_eq, Finmap.mem_values]
    exact ⟨i, ha⟩
  exact List.findSome?_eq_none_iff.mp h a (List.mem_filter.mpr ⟨hin, by simp [hname]⟩)

end

/-- Every address read so far is one that the state has for a service that the environment refers
to. -/
def EnvRead (s : FsmState) (env : Finmap fun _ : String => EnvValue)
    (record : Record Effect Effect.Answer) : Prop :=
  ∀ service address, addressRead service address ∈ record →
    Refers env (.serviceAddress service) ∧
      ∃ v : View s, Query.eval s v (.serviceAddress service) = address

def recordedSpec : Spec Effect Effect.Answer (World × Record Effect Effect.Answer) where
  pre _ _ := True
  post u e r u' := World.Answered u.1 e r u'.1 ∧ u'.2 = u.2 ++ [⟨e, r⟩]

variable {ctx : DeployCtx} {w : World} {env : Finmap fun _ : String => EnvValue}
  {record : Record Effect Effect.Answer}

lemma EnvRead.concat (h : EnvRead w.fsm env record) {e : Effect} {r : e.Answer}
    (he : ∀ service address, addressRead service address = ⟨e, r⟩ →
      Refers env (.serviceAddress service) ∧
        ∃ v : View w.fsm, Query.eval w.fsm v (.serviceAddress service) = address) :
    EnvRead w.fsm env (record ++ [⟨e, r⟩]) := by
  intro service address hread
  rcases List.mem_append.mp hread with hread | hread
  · exact h service address hread
  · exact he service address (List.mem_singleton.mp hread)

lemma wp_resolveEnvPart (h : EnvRead w.fsm env record) (part : EnvPart) (hpart : Refers env part) :
    (resolveEnvPart ctx part).wp recordedSpec (fun o u => ∃ record', u = (w, record') ∧
      EnvRead w.fsm env record' ∧ record ⊆ record' ∧ match o with
        | .ok text => Resolves ctx w.fsm record' part text
        | .error _ => ¬ Resolvable ctx w.fsm part) (w, record) := by
  cases part with
  | literal text => exact ⟨record, rfl, h, List.Subset.refl _, .literal text⟩
  | serviceAddress service =>
    refine wp_bind (wp_effect trivial ?_)
    rintro address ⟨_, _⟩ ⟨hanswered, rfl⟩
    cases hanswered with
    | read _ v =>
      have hread := h.concat (e := .read (.serviceAddress service))
        (r := Query.eval w.fsm v (.serviceAddress service)) fun service' address heq => by
          cases heq
          exact ⟨hpart, v, rfl⟩
      dsimp only
      cases haddress : Query.eval w.fsm v (.serviceAddress service) with
      | none =>
        rw [haddress] at hread
        refine ⟨_, rfl, hread, List.subset_append_left _ _, ?_⟩
        rintro ⟨i, a, ha, hname, hne⟩
        exact hne (eval_serviceAddress_eq_none haddress ha hname)
      | some address =>
        rw [haddress] at hread
        exact ⟨_, rfl, hread, List.subset_append_left _ _, .address (by simp [addressRead])⟩
  | secret name =>
    refine wp_readSecret trivial ?_
    rintro secret ⟨_, _⟩ ⟨hanswered, rfl⟩
    cases hanswered with
    | read _ v =>
      have hread := h.concat (e := .read (.secret name)) (r := Query.eval w.fsm v (.secret name))
        fun _ _ heq => nomatch congrArg Sigma.fst heq
      exact ⟨fun s plaintext text hs hdecrypt htext =>
          ⟨_, rfl, hread, List.subset_append_left _ _, .secret hs hdecrypt htext⟩,
        fun _ hnot => ⟨_, rfl, hread, List.subset_append_left _ _, hnot⟩⟩

lemma wp_resolveEnvValue (h : EnvRead w.fsm env record) {key : String} (value : EnvValue)
    (hvalue : env.lookup key = some value) :
    (resolveEnvValue ctx value).wp recordedSpec (fun o u => ∃ record', u = (w, record') ∧
      EnvRead w.fsm env record' ∧ record ⊆ record' ∧ match o with
        | .ok text => ValueResolves ctx w.fsm record' value text
        | .error _ => ∃ part, Refers env part ∧ ¬ Resolvable ctx w.fsm part) (w, record) := by
  cases value with
  | literal text => exact ⟨record, rfl, h, List.Subset.refl _, .literal text⟩
  | interpolated parts =>
    refine wp_foldEach (fun left text u => ∃ record', u = (w, record') ∧
      EnvRead w.fsm env record' ∧ record ⊆ record' ∧ ∃ begun texts, parts = begun ++ left ∧
        List.Forall₂ (Resolves ctx w.fsm record') begun texts ∧ text = texts.foldl (· ++ ·) "")
      ?_ ?_ ⟨record, rfl, h, List.Subset.refl _, [], [], rfl, .nil, rfl⟩
    · rintro part left _ _ ⟨record₁, rfl, h₁, hsub₁, begun, texts, rfl, htexts, rfl⟩
      have hpart : Refers env part := ⟨key, _, hvalue, by simp⟩
      refine wp_bind (wp_mono (wp_resolveEnvPart h₁ part hpart) ?_)
      rintro (x | text) _ ⟨record₂, rfl, h₂, hsub₂, hresolved⟩
      · exact ⟨record₂, rfl, h₂, List.Subset.trans hsub₁ hsub₂, part, hpart, hresolved⟩
      · refine ⟨record₂, rfl, h₂, List.Subset.trans hsub₁ hsub₂, begun ++ [part], texts ++ [text],
          by simp, ?_, by simp⟩
        exact List.rel_append (htexts.imp fun _ _ hold => hold.mono hsub₂) (.cons hresolved .nil)
    · rintro _ _ ⟨record₁, rfl, h₁, hsub₁, begun, texts, hparts, htexts, rfl⟩
      rw [List.append_nil] at hparts
      subst hparts
      exact ⟨record₁, rfl, h₁, hsub₁, .interpolated htexts⟩

def EnvOutcome (ctx : DeployCtx) (s : FsmState) (env : Finmap fun _ : String => EnvValue)
    (record : Record Effect Effect.Answer) :
    Except DeployError (Finmap fun _ : String => String) → Prop
  | .ok resolved => EnvResolves ctx s record env resolved
  | .error _ => ∃ part, Refers env part ∧ ¬ Resolvable ctx s part

lemma wp_resolveEnv : (resolveEnv ctx env).wp recordedSpec (fun o u =>
    EnvRead w.fsm env u.2 ∧ EnvOutcome ctx w.fsm env u.2 o) (w, []) := by
  refine wp_bind (wp_effect trivial ?_)
  rintro order ⟨_, _⟩ ⟨hanswered, rfl⟩
  cases hanswered with
  | visitEnv _ _ horder =>
    have hmem : ∀ e ∈ order, env.lookup e.1 = some e.2 :=
      fun e he => (Finmap.mem_iff_of_entries horder).mp he
    have hstart : EnvRead w.fsm env ([] ++ [⟨.visitEnv env, order⟩]) :=
      EnvRead.concat (fun _ _ hread => absurd hread List.not_mem_nil)
        fun _ _ heq => nomatch congrArg Sigma.fst heq
    refine wp_foldEach (fun left resolved u => ∃ record, u = (w, record) ∧
      EnvRead w.fsm env record ∧ left ⊆ order ∧ ∀ e ∈ order, e ∈ left ∨
        ∃ text, resolved.lookup e.1 = some text ∧ ValueResolves ctx w.fsm record e.2 text) ?_ ?_
      ⟨_, rfl, hstart, List.Subset.refl _, fun _ he => .inl he⟩
    · rintro e left resolved _ ⟨record, rfl, h, hleft, hdone⟩
      obtain ⟨he, hleft⟩ := List.cons_subset.mp hleft
      refine wp_bind (wp_mono (wp_resolveEnvValue h e.2 (hmem e he)) ?_)
      rintro (x | text) _ ⟨record₁, rfl, h₁, hsub, hvalue⟩
      · exact ⟨h₁, hvalue⟩
      · refine ⟨record₁, rfl, h₁, hleft, fun e' he' => ?_⟩
        by_cases hkey : e'.1 = e.1
        · have heq : e'.2 = e.2 :=
            Option.some.inj ((hmem e' he').symm.trans (hkey ▸ hmem e he))
          exact .inr ⟨text, by rw [hkey, Finmap.lookup_insert], heq ▸ hvalue⟩
        · refine (hdone e' he').imp (fun hin => ?_) fun ⟨text', htext', h'⟩ => ?_
          · exact (List.mem_cons.mp hin).resolve_left fun heq => hkey (heq ▸ rfl)
          · exact ⟨text', by rw [Finmap.lookup_insert_of_ne _ hkey, htext'], h'.mono hsub⟩
    · rintro resolved _ ⟨record, rfl, h, -, hdone⟩
      refine ⟨h, fun key value hvalue => ?_⟩
      exact (hdone ⟨key, value⟩ ((Finmap.mem_iff_of_entries horder).mpr hvalue)).resolve_left
        List.not_mem_nil

lemma recorded_of_reaches {w' : World} {p : Action (Finmap fun _ : String => String)}
    {o : Except DeployError (Finmap fun _ : String => String)}
    (h : Reaches (recording World.answer) ((w, []), resolveEnv ctx env) ((w', record), p))
    (ho : p.outcome = some o) : EnvRead w.fsm env record ∧ EnvOutcome ctx w.fsm env record o := by
  refine of_wp_outcome (wp_of_reaches wp_resolveEnv (fun _ _ _ _ _ hans => ?_) h) ho
  obtain ⟨hans, hrecord⟩ := recording_eq_some.mp hans
  exact ⟨World.answered_of_answer hans, hrecord⟩

lemma EnvResolves.exists_of_refers {resolved : Finmap fun _ : String => String}
    (h : EnvResolves ctx w.fsm record env resolved) {part : EnvPart} (hpart : Refers env part) :
    ∃ text, Resolves ctx w.fsm record part text := by
  obtain ⟨key, parts, hvalue, hpart⟩ := hpart
  obtain ⟨_, -, hresolved⟩ := h key _ hvalue
  clear hvalue
  cases hresolved with
  | interpolated hparts =>
    induction hparts with
    | nil => cases hpart
    | cons hfirst _ ih =>
      rcases List.mem_cons.mp hpart with rfl | hpart
      · exact ⟨_, hfirst⟩
      · exact ih hpart

lemma Resolves.resolvable (h : EnvRead w.fsm env record) {part : EnvPart} {text : String}
    (hpart : Resolves ctx w.fsm record part text) : Resolvable ctx w.fsm part := by
  cases hpart with
  | literal => trivial
  | address hread =>
    obtain ⟨-, v, hv⟩ := h _ _ hread
    obtain ⟨i, a, ha, hname, haddress⟩ := eval_serviceAddress_eq_some hv
    exact ⟨i, a, ha, hname, by simp [haddress]⟩
  | secret hsecret hdecrypt htext => exact ⟨_, _, _, hsecret, hdecrypt, htext⟩

/-- Whichever allocation has an address, some order of reading lets that address be taken. -/
lemma exists_resolveEnv_run (hresolvable : ∀ part, Refers env part → Resolvable ctx w.fsm part)
    {i : AllocId} {a : Alloc} {address : SocketAddr} (ha : w.fsm.allocs.lookup i = some a)
    (hrefers : Refers env (.serviceAddress a.name)) (haddress : a.address = some address) :
    ∃ record resolved, Reaches (recording World.answer) ((w, []), resolveEnv ctx env)
      ((w, record), .done resolved) ∧ addressRead a.name (some address) ∈ record := by
  obtain ⟨others, hothers⟩ := Multiset.exists_cons_of_mem (Finmap.mem_values.mpr ⟨i, ha⟩)
  obtain ⟨rest, rfl⟩ := Quot.exists_rep others
  obtain ⟨nodes, hnodes⟩ := Quot.exists_rep w.fsm.nodes.values
  obtain ⟨volumes, hvolumes⟩ := Quot.exists_rep w.fsm.volumes.entries
  obtain ⟨order, horder⟩ := Quot.exists_rep env.entries
  let v : View w.fsm := ⟨nodes, a :: rest, volumes, hnodes.symm, hothers, hvolumes.symm⟩
  have honly : (resolveEnv ctx env).Only (fun e => e = .visitEnv env ∨ ∃ q, e = .read q)
      fun _ => True :=
    only_resolveEnv ctx (.inl rfl) (fun _ => .inr ⟨_, rfl⟩) fun _ => .inr ⟨_, rfl⟩
  have hanswer : ∀ e, (e = .visitEnv env ∨ ∃ q, e = .read q) → ∃ c r,
      w.answer e c = some (r, w) ∧ ∀ service address', addressRead service address' = ⟨e, r⟩ →
        address' = Query.eval w.fsm v (.serviceAddress service) := by
    rintro e (rfl | ⟨q, rfl⟩)
    · refine ⟨.env order, order, dif_pos horder.symm, fun _ _ heq => ?_⟩
      exact nomatch congrArg Sigma.fst heq
    · refine ⟨.order v.nodes v.allocs v.volumes, q.eval w.fsm v,
        dif_pos ⟨v.nodes_eq, v.allocs_eq, v.volumes_eq⟩, fun _ _ heq => ?_⟩
      cases heq
      rfl
  obtain ⟨record, p, o, hreach, ho, hreads⟩ := honly.exists_ended hanswer []
  obtain ⟨-, hend⟩ := recorded_of_reaches hreach ho
  cases p with
  | fail =>
    cases ho
    obtain ⟨part, hpart, hnot⟩ := hend
    exact absurd (hresolvable part hpart) hnot
  | perform => cases ho
  | done resolved =>
    cases ho
    refine ⟨record, resolved, hreach, ?_⟩
    obtain ⟨_, hpart⟩ := EnvResolves.exists_of_refers hend hrefers
    cases hpart with
    | address hread =>
      have heval := (hreads _ hread).resolve_left List.not_mem_nil _ _ rfl
      have hfirst : Query.eval w.fsm v (.serviceAddress a.name) = some address := by
        simp [Query.eval, v, haddress]
      rw [← hfirst, ← heval]
      exact hread

/-- In every order of reading an environment is resolved to live addresses exactly if it cannot be
resolved, or each address that an allocation of a service it refers to has, in whatever status, is
one of an active allocation of that service too; and an address is missing only where no allocation
has one. -/
theorem env_addresses_live (ctx : DeployCtx) (env : Finmap fun _ : String => EnvValue) (w : World) :
    ((∀ w' record resolved, Reaches (recording World.answer) ((w, []), resolveEnv ctx env)
        ((w', record), .done resolved) → EnvResolves ctx w.fsm record env resolved ∧
          ∀ service address, addressRead service (some address) ∈ record →
            w.fsm.LiveAddress service address) ↔
      ((∀ part, Refers env part → Resolvable ctx w.fsm part) → ∀ i a address,
        w.fsm.allocs.lookup i = some a → Refers env (.serviceAddress a.name) →
          a.address = some address → w.fsm.LiveAddress a.name address)) ∧
    ∀ w' record p o, Reaches (recording World.answer) ((w, []), resolveEnv ctx env)
      ((w', record), p) → p.outcome = some o → ∀ service, addressRead service none ∈ record →
        ∀ i a, w.fsm.allocs.lookup i = some a → a.name = service → a.address = none := by
  refine ⟨⟨fun hlive hresolvable i a address ha hrefers haddress => ?_,
    fun hlive w' record resolved hreach => ?_⟩, fun w' record p o hreach ho service hread => ?_⟩
  · obtain ⟨record, resolved, hreach, hread⟩ :=
      exists_resolveEnv_run hresolvable ha hrefers haddress
    exact (hlive w record resolved hreach).2 a.name address hread
  · obtain ⟨hreads, hresolved⟩ : _ ∧ EnvResolves ctx w.fsm record env resolved :=
      recorded_of_reaches hreach rfl
    refine ⟨hresolved, fun service address hread => ?_⟩
    obtain ⟨hrefers, v, hv⟩ := hreads service _ hread
    obtain ⟨i, a, ha, rfl, haddress⟩ := eval_serviceAddress_eq_some hv
    refine hlive (fun part hpart => ?_) i a address ha hrefers haddress
    obtain ⟨_, hpart⟩ := hresolved.exists_of_refers hpart
    exact hpart.resolvable hreads
  · obtain ⟨-, v, hv⟩ := (recorded_of_reaches hreach ho).1 service none hread
    exact fun i a ha hname => eval_serviceAddress_eq_none hv ha hname

def envAlloc (status : AllocStatus) (port : Nat) : Alloc :=
  ⟨⟨toString port⟩, ⟨"n"⟩, "db", .service, status, some ⟨.v4 1, port⟩, ⟨1, 1024⟩, none⟩

def envWorld : World :=
  ⟨⟨none, ∅, (Finmap.singleton ⟨"2"⟩ (envAlloc .running 2)).insert ⟨"1"⟩ (envAlloc (.stopped 0) 1),
    ∅, ∅⟩, [], [], 0⟩

def envMap : Finmap fun _ : String => EnvValue :=
  Finmap.singleton "URL" (.interpolated [.serviceAddress "db"])

/-- The address is that of an allocation that has stopped, though another one runs. -/
theorem env_address_of_stopped :
    (∃ record resolved, Reaches (recording World.answer) ((envWorld, []), resolveEnv demoCtx envMap)
      ((envWorld, record), .done resolved) ∧ addressRead "db" (some ⟨.v4 1, 1⟩) ∈ record) ∧
    envWorld.fsm.LiveAddress "db" ⟨.v4 1, 2⟩ ∧ ¬ envWorld.fsm.LiveAddress "db" ⟨.v4 1, 1⟩ := by
  have hstopped : envWorld.fsm.allocs.lookup ⟨"1"⟩ = some (envAlloc (.stopped 0) 1) :=
    Finmap.lookup_insert _
  have hrunning : envWorld.fsm.allocs.lookup ⟨"2"⟩ = some (envAlloc .running 2) :=
    (Finmap.lookup_insert_of_ne _ (by decide)).trans Finmap.lookup_singleton_eq
  refine ⟨?_, ⟨_, _, hrunning, rfl, rfl, rfl, rfl⟩, ?_⟩
  · refine exists_resolveEnv_run (fun part hpart => ?_) hstopped
      ⟨"URL", _, Finmap.lookup_singleton_eq, List.mem_singleton_self _⟩ rfl
    obtain ⟨key, parts, hvalue, hpart⟩ := hpart
    obtain ⟨-, hparts⟩ := Finmap.of_lookup_singleton hvalue
    cases hparts
    obtain rfl := List.mem_singleton.mp hpart
    exact ⟨_, _, hrunning, rfl, nofun⟩
  · rintro ⟨i, a, ha, -, -, hactive, haddress⟩
    rcases Finmap.lookup_insert_eq_some.mp ha with ⟨-, rfl⟩ | ⟨-, ha⟩
    · cases hactive
    · obtain ⟨-, rfl⟩ := Finmap.of_lookup_singleton ha
      cases haddress

end Mill
