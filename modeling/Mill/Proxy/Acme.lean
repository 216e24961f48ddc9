import Mathlib.Data.Finmap

/-! A certificate by ACME: the tokens of the challenges are in the store while the order is under
way. -/

namespace Mill

inductive Authorization
  | error (e : String)
  | noChallenge
  | challenge (token keyAuthorization : String) (setReady : Except String Unit)

inductive OrderStatus
  | pending
  | ready
  | processing
  | valid
  | invalid
deriving DecidableEq

def OrderStatus.debug : OrderStatus → String
  | .pending => "Pending"
  | .ready => "Ready"
  | .processing => "Processing"
  | .valid => "Valid"
  | .invalid => "Invalid"

/-- What comes of the steps of an order, as far as it gets to them. -/
structure AcmeOrder where
  newOrder : Except String Unit
  authorizations : List Authorization
  pollReady : Except String OrderStatus
  finalize : Except String String
  pollCertificate : Except String String

abbrev ChallengeStore := Finmap fun _ : String => String

namespace ChallengeStore

def removeAll (store : ChallengeStore) (tokens : List String) : ChallengeStore :=
  tokens.foldl (fun store t => store.erase t) store

lemma mem_removeAll {tokens : List String} {store : ChallengeStore} {t : String} :
    t ∈ store.removeAll tokens ↔ t ∈ store ∧ t ∉ tokens := by
  unfold removeAll
  induction tokens generalizing store with
  | nil => simp
  | cons a tokens ih =>
    rw [List.foldl_cons, ih, Finmap.mem_erase, List.mem_cons]
    grind

end ChallengeStore

/-- The loop over the authorizations, with the tokens that were inserted. -/
def authorize (hostname : String) : List Authorization → List String → ChallengeStore →
    Except String Unit × List String × ChallengeStore
  | [], tokens, store => (.ok (), tokens, store)
  | .error e :: _, tokens, store => (.error s!"authorization for {hostname}: {e}", tokens, store)
  | .noChallenge :: _, tokens, store =>
    (.error s!"no HTTP-01 challenge for {hostname}", tokens, store)
  | .challenge token keyAuthorization setReady :: rest, tokens, store =>
    let store : ChallengeStore := store.insert token keyAuthorization
    let tokens := tokens ++ [token]
    match setReady with
    | .ok () => authorize hostname rest tokens store
    | .error e => (.error s!"set_ready for {hostname}: {e}", tokens, store.removeAll tokens)

/-- `acquire_certificate`, with the tokens that it has inserted. -/
def acquireCertificate {P : Type} (pemToCertPair : String → String → Except String P)
    (hostname : String) (order : AcmeOrder) (store : ChallengeStore) :
    Except String P × List String × ChallengeStore :=
  match order.newOrder with
  | .error e => (.error s!"new order for {hostname}: {e}", [], store)
  | .ok () =>
    let (authorized, tokens, store) := authorize hostname order.authorizations [] store
    match authorized with
    | .error e => (.error e, tokens, store)
    | .ok () =>
      match order.pollReady with
      | .error e => (.error s!"poll_ready for {hostname}: {e}", tokens, store)
      | .ok status =>
        if status ≠ .ready then
          (.error (s!"order for {hostname} not ready: " ++ status.debug), tokens,
            store.removeAll tokens)
        else
          match order.finalize, order.pollCertificate with
          | .error e, _ => (.error s!"finalize for {hostname}: {e}", tokens, store)
          | .ok _, .error e => (.error s!"poll_certificate for {hostname}: {e}", tokens, store)
          | .ok privateKeyPem, .ok certChainPem =>
            (pemToCertPair certChainPem privateKeyPem, tokens, store.removeAll tokens)

/-- How the loop ends: with all challenges ready, with one that could not be set ready, or with
an error before that. -/
def authorizeEnd : List Authorization → Option Bool
  | [] => none
  | .error _ :: _ | .noChallenge :: _ => some false
  | .challenge _ _ (.ok ()) :: rest => authorizeEnd rest
  | .challenge _ _ (.error _) :: _ => some true

def AcmeOrder.CleansUp (order : AcmeOrder) : Prop :=
  authorizeEnd order.authorizations = some true ∨ authorizeEnd order.authorizations = none ∧
    ∃ status, order.pollReady = .ok status ∧ (status ≠ .ready ∨
      (∃ key, order.finalize = .ok key) ∧ ∃ chain, order.pollCertificate = .ok chain)

lemma authorize_spec (hostname : String) (as : List Authorization) {tokens : List String}
    {store : ChallengeStore} (h : ∀ t ∈ tokens, t ∈ store) :
    let r := authorize hostname as tokens store
    match authorizeEnd as with
    | none => r.1 = .ok () ∧ ∀ t ∈ r.2.1, t ∈ r.2.2
    | some true => (∃ e, r.1 = .error e) ∧ ∀ t ∈ r.2.1, t ∉ r.2.2
    | some false => (∃ e, r.1 = .error e) ∧ ∀ t ∈ r.2.1, t ∈ r.2.2 := by
  fun_induction authorize hostname as tokens store with
  | case1 tokens store => exact ⟨rfl, h⟩
  | case2 tokens store e _ | case3 tokens store _ => exact ⟨⟨_, rfl⟩, h⟩
  | case4 tokens store token keyAuthorization rest store' tokens' ih =>
    refine ih fun t ht => Finmap.mem_insert.mpr ?_
    rcases List.mem_append.mp ht with ht | ht
    · exact .inr (h t ht)
    · exact .inl (List.mem_singleton.mp ht)
  | case5 =>
    exact ⟨⟨_, rfl⟩, fun t ht hin => (ChallengeStore.mem_removeAll.mp hin).2 ht⟩

lemma authorize_tokens_ne_nil (hostname : String) (as : List Authorization) {tokens : List String}
    (store : ChallengeStore) (h : tokens ≠ []) : (authorize hostname as tokens store).2.1 ≠ [] := by
  fun_induction authorize hostname as tokens store with
  | case1 | case2 | case3 => exact h
  | case4 _ _ _ _ _ _ _ ih => exact ih (List.append_ne_nil_of_right_ne_nil _ (List.cons_ne_nil _ _))
  | case5 => exact List.append_ne_nil_of_right_ne_nil _ (List.cons_ne_nil _ _)

/-- The order gets as far as a first challenge. -/
def AcmeOrder.Inserts (order : AcmeOrder) : Prop :=
  order.newOrder = .ok () ∧ ∃ token key ready, order.authorizations.head? =
    some (.challenge token key ready)

lemma acquireCertificate_tokens_eq_nil {P : Type}
    (pemToCertPair : String → String → Except String P) (hostname : String) (order : AcmeOrder)
    (store : ChallengeStore) :
    (acquireCertificate pemToCertPair hostname order store).2.1 = [] ↔ ¬ order.Inserts := by
  obtain ⟨newOrder, authorizations, pollReady, finalize, pollCertificate⟩ := order
  unfold acquireCertificate AcmeOrder.Inserts
  cases newOrder with
  | error => simp
  | ok =>
    have htokens : (authorize hostname authorizations [] store).2.1 = [] ↔
        ¬ ∃ token key ready, authorizations.head? = some (.challenge token key ready) := by
      rcases authorizations with _ | ⟨_ | _ | ⟨token, key, _ | _⟩, rest⟩
      · simp [authorize]
      · simp [authorize]
      · simp [authorize]
      · simp [authorize]
      · simpa [authorize] using authorize_tokens_ne_nil hostname rest _ (by simp)
    generalize authorize hostname authorizations [] store = a at htokens ⊢
    obtain ⟨authorized, tokens, store⟩ := a
    cases authorized with
    | error => simpa using htokens
    | ok =>
      simp only [true_and]
      rw [← htokens]
      split
      · rfl
      · split_ifs
        · rfl
        · split <;> rfl

lemma tokens_removed_iff_of_tokens {P : Type} (pemToCertPair : String → String → Except String P)
    (hostname : String) (order : AcmeOrder) (store : ChallengeStore) :
    let r := acquireCertificate pemToCertPair hostname order store
    (∀ t ∈ r.2.1, t ∉ r.2.2) ↔ r.2.1 = [] ∨ order.CleansUp := by
  intro r
  have hnone {tokens : List String} {store : ChallengeStore} (h : ∀ t ∈ tokens, t ∈ store) :
      (∀ t ∈ tokens, t ∉ store) ↔ tokens = [] :=
    ⟨fun hnot => List.eq_nil_iff_forall_not_mem.mpr fun t ht => hnot t ht (h t ht),
      fun hnil t ht => absurd (hnil ▸ ht) List.not_mem_nil⟩
  have hremoved {tokens : List String} {store : ChallengeStore} :
      ∀ t ∈ tokens, t ∉ store.removeAll tokens :=
    fun t ht hin => (ChallengeStore.mem_removeAll.mp hin).2 ht
  have hspec := authorize_spec hostname order.authorizations
    (fun t ht => absurd ht List.not_mem_nil : ∀ t ∈ [], t ∈ store)
  simp only [r, acquireCertificate, AcmeOrder.CleansUp]
  cases order.newOrder with
  | error => simp
  | ok =>
    generalize authorize hostname order.authorizations [] store = a at hspec ⊢
    obtain ⟨authorized, tokens, store⟩ := a
    rcases hend : authorizeEnd order.authorizations with _ | _ | _
    · rw [hend] at hspec
      obtain ⟨rfl, hin⟩ := hspec
      cases order.pollReady with
      | error e => simpa using hnone hin
      | ok status =>
        by_cases hstatus : status = .ready
        · cases order.finalize with
          | error e => simpa [hstatus] using hnone hin
          | ok key =>
            cases order.pollCertificate with
            | error e => simpa [hstatus] using hnone hin
            | ok chain => simpa [hstatus] using hremoved
        · simpa [hstatus] using hremoved
    · rw [hend] at hspec
      obtain ⟨⟨e, rfl⟩, hin⟩ := hspec
      simpa using hnone hin
    · rw [hend] at hspec
      obtain ⟨⟨e, rfl⟩, hout⟩ := hspec
      simpa using hout

/-- None of the tokens stays exactly if none was inserted or the call ends where it removes them;
otherwise all of them stay. -/
theorem tokens_removed_iff {P : Type} (pemToCertPair : String → String → Except String P)
    (hostname : String) (order : AcmeOrder) (store : ChallengeStore) :
    let r := acquireCertificate pemToCertPair hostname order store
    (∀ t ∈ r.2.1, t ∉ r.2.2) ↔ ¬ order.Inserts ∨ order.CleansUp := by
  intro r
  rw [← acquireCertificate_tokens_eq_nil pemToCertPair hostname order store]
  exact tokens_removed_iff_of_tokens pemToCertPair hostname order store

/-- The order could not be polled, and the token that it has inserted stays. -/
theorem token_outlives_order :
    let order : AcmeOrder := ⟨.ok (), [.challenge "token" "key" (.ok ())], .error "timeout",
      .error "", .error ""⟩
    let r := acquireCertificate (fun _ _ => .ok ()) "a.example" order ∅
    r.1 = .error "poll_ready for a.example: timeout" ∧ r.2.1 = ["token"] ∧
      r.2.2.lookup "token" = some "key" := by
  exact ⟨rfl, rfl, rfl⟩

end Mill
