import Mill.Config.Runtime
import Mill.Lib.Group

/-! The DNS server of a node. -/

namespace Mill

structure DnsRecord where
  name : String
  addresses : List SocketAddr
deriving DecidableEq

/-- The names of the DNS library. It may refuse to read a name back that it has written. -/
structure NameText (N : Type) where
  text : N → String
  fromUtf8 : String → Option N

inductive RecordType
  | a
  | aaaa
  | other (code : Nat)
deriving DecidableEq

inductive MessageType
  | query
  | response
deriving DecidableEq

inductive ResponseCode
  | noError
  | formErr
  | nxDomain
deriving DecidableEq

structure DnsQuery (N : Type) where
  name : N
  queryType : RecordType
deriving DecidableEq

structure ARecord (N : Type) where
  name : N
  ttl : Nat
  address : BitVec 32
deriving DecidableEq

structure DnsMessage (N : Type) where
  id : Nat
  messageType : MessageType
  recursionDesired : Bool
  recursionAvailable : Bool
  responseCode : ResponseCode
  queries : List (DnsQuery N)
  answers : List (ARecord N)
deriving DecidableEq

inductive QueryResult (N : Type)
  | response (resp : DnsMessage N)
  | forward
deriving DecidableEq

abbrev DnsRecords := Finmap fun _ : String => List IpAddr

def setRecords (dnsRecords : List DnsRecord) : DnsRecords :=
  dnsRecords.foldl (fun map r => map.insert r.name (r.addresses.map SocketAddr.ip)) ∅

def endsWith (text ending : String) : Bool := ending.toList.isSuffixOf text.toList

def trimEnd (pat : List Char) : Nat → List Char → List Char
  | 0, text => text
  | fuel + 1, text =>
    if pat.isSuffixOf text then trimEnd pat fuel (text.take (text.length - pat.length)) else text

/-- `text.trim_end_matches(pat)`, which takes `pat` away as often as it is there. -/
def trimEndMatches (text pat : String) : String :=
  String.ofList (trimEnd pat.toList text.toList.length text.toList)

def labels (text : String) : List (List Char) := text.toList.dropLast.splitOn '.'

def WellFormedName (text : String) : Prop :=
  text.toList.getLast? = some '.' ∧ [] ∉ labels text

instance (text : String) : Decidable (WellFormedName text) :=
  inferInstanceAs (Decidable (_ ∧ _))

def ipv4 : IpAddr → Option (BitVec 32)
  | .v4 bits => some bits
  | .v6 _ => none

variable {N : Type}

def responseFrom (query : DnsMessage N) : DnsMessage N where
  id := query.id
  messageType := .response
  recursionDesired := query.recursionDesired
  recursionAvailable := true
  responseCode := .noError
  queries := query.queries
  answers := []

/-- The response to an A query for `name`, by what is found under its key. -/
def answer (names : NameText N) (msg : DnsMessage N) (name : String) :
    Option (List IpAddr) → DnsMessage N
  | some addrs =>
    { responseFrom msg with
      responseCode := .noError
      answers := addrs.filterMap fun addr => do
        let bits ← ipv4 addr
        let rrName ← names.fromUtf8 name
        some ⟨rrName, 5, bits⟩ }
  | none => { responseFrom msg with responseCode := .nxDomain }

def handleQuery (names : NameText N) (msg : DnsMessage N) (records : DnsRecords) : QueryResult N :=
  match msg.queries.head? with
  | none => .response { responseFrom msg with responseCode := .formErr }
  | some query =>
    let name := names.text query.name
    if !endsWith name ".mill." then .forward
    else if query.queryType ≠ .a then
      .response { responseFrom msg with responseCode := .noError }
    else .response (answer names msg name (records.lookup (trimEndMatches name ".mill.")))

lemma endsWith_append (name ending : String) : endsWith (name ++ ending) ending = true := by
  rw [endsWith, List.isSuffixOf_iff_suffix, String.toList_append]
  exact List.suffix_append ..

lemma not_suffix_of_wellFormed {name : String} (h : WellFormedName (name ++ ".mill.")) :
    ¬ ".mill.".toList <:+ name.toList := by
  rintro ⟨rest, hrest⟩
  apply h.2
  have htext : (name ++ ".mill.").toList.dropLast =
      (rest ++ ['.', 'm', 'i', 'l', 'l']) ++ '.' :: ([] ++ '.' :: ['m', 'i', 'l', 'l']) := by
    rw [String.toList_append, ← hrest]
    have hdrop : (rest ++ ".mill.".toList ++ ".mill.".toList).dropLast =
        rest ++ ".mill.".toList ++ ".mill.".toList.dropLast :=
      List.dropLast_append_of_ne_nil (by decide)
    rw [hdrop]
    simp
  rw [labels, htext, List.splitOn_eq_splitOnP, List.splitOnP_append_cons _ _ (by decide),
    List.splitOnP_append_cons ([] : List Char) _ (by decide)]
  simp

lemma trimEndMatches_append {name : String} (h : WellFormedName (name ++ ".mill.")) :
    trimEndMatches (name ++ ".mill.") ".mill." = name := by
  have hlength : (name ++ ".mill.").toList.length = (name.toList.length + 5) + 1 := by
    rw [String.toList_append, List.length_append]
    rfl
  have htake : (name ++ ".mill.").toList.take
      ((name ++ ".mill.").toList.length - ".mill.".toList.length) = name.toList := by
    rw [String.toList_append, List.length_append, Nat.add_sub_cancel, List.take_left]
  have hend : ".mill.".toList.isSuffixOf (name ++ ".mill.").toList = true := endsWith_append ..
  have hstop : ".mill.".toList.isSuffixOf name.toList = false := by
    rw [← Bool.not_eq_true, List.isSuffixOf_iff_suffix]
    exact not_suffix_of_wellFormed h
  unfold trimEndMatches
  nth_rewrite 1 [hlength]
  rw [trimEnd, if_pos hend, htake, trimEnd, if_neg (by rw [hstop]; exact Bool.false_ne_true)]
  exact String.ofList_toList

section

variable {names : NameText N} {msg : DnsMessage N} {q : DnsQuery N} {records : DnsRecords}

lemma handleQuery_forward (hq : msg.queries.head? = some q)
    (hname : endsWith (names.text q.name) ".mill." = false) :
    handleQuery names msg records = .forward := by
  simp only [handleQuery, hq, hname, Bool.not_false, if_true]

lemma handleQuery_mill (hq : msg.queries.head? = some q) (htype : q.queryType = .a)
    {name : String} (hname : names.text q.name = name ++ ".mill.")
    (hformed : WellFormedName (names.text q.name)) :
    handleQuery names msg records =
      .response (answer names msg (names.text q.name) (records.lookup name)) := by
  have hend : endsWith (names.text q.name) ".mill." = true := by
    rw [hname]
    exact endsWith_append ..
  have hkey : trimEndMatches (names.text q.name) ".mill." = name := by
    rw [hname] at hformed ⊢
    exact trimEndMatches_append hformed
  simp only [handleQuery, hq, htype, hend, Bool.not_true, Bool.false_eq_true, if_false, ne_eq,
    not_true_eq_false]
  rw [hkey]

lemma answers_answer (name : String) (addrs : List IpAddr) :
    (answer names msg name (some addrs)).answers.map ARecord.address =
      if (names.fromUtf8 name).isSome then addrs.filterMap ipv4 else [] := by
  rw [answer, List.map_filterMap]
  cases hname : names.fromUtf8 name with
  | none => simp
  | some rrName =>
    rw [Option.isSome_some, if_pos rfl]
    congr 1
    funext addr
    cases ipv4 addr with
    | none => rfl
    | some => rfl

end

lemma exists_trimEnd (pat : List Char) (fuel : Nat) (text : List Char) :
    ∃ k, text = trimEnd pat fuel text ++ (List.replicate k pat).flatten := by
  induction fuel generalizing text with
  | zero => exact ⟨0, (List.append_nil _).symm⟩
  | succ fuel ih =>
    rw [trimEnd]
    split_ifs with hend
    · obtain ⟨rest, rfl⟩ := List.isSuffixOf_iff_suffix.mp hend
      rw [List.length_append, Nat.add_sub_cancel, List.take_left]
      obtain ⟨k, hk⟩ := ih rest
      refine ⟨k + 1, ?_⟩
      rw [List.replicate_succ', List.flatten_append, List.flatten_singleton, ← List.append_assoc,
        ← hk]
    · exact ⟨0, (List.append_nil _).symm⟩

abbrev SameUpToCase (a b : String) : Prop :=
  a.toList.map Char.toLower = b.toList.map Char.toLower

end Mill
