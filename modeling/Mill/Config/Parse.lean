import Mathlib.Data.List.DropRight
import Mill.Config.Raw
import Mill.Lib.Visit

/-! Parsing the values of a raw config. -/

namespace Mill

/-- The parsers of other crates, for sizes such as `512M` and for durations such as `10s`. -/
structure Parsers where
  byteSize : String → Except String ByteSize
  duration : String → Except String Duration

def parseByteSize (p : Parsers) (path value : String) : ByteSize × List ConfigError :=
  match p.byteSize value with
  | .ok size => (size, [])
  | .error e => (0, [.invalidField path s!"invalid byte size '{value}': {e}"])

def parseDuration (p : Parsers) (path value : String) : Duration × List ConfigError :=
  match p.duration value with
  | .ok d => (d, [])
  | .error e => (0, [.invalidField path s!"invalid duration '{value}': {e}"])

lemma single_parseByteSize (p : Parsers) (path value : String) :
    ∀ e ∈ (parseByteSize p path value).2, e.Single := by
  intro e he
  unfold parseByteSize at he
  split at he
  · cases he
  · rw [List.mem_singleton.mp he]
    trivial

lemma single_parseDuration (p : Parsers) (path value : String) :
    ∀ e ∈ (parseDuration p path value).2, e.Single := by
  intro e he
  unfold parseDuration at he
  split at he
  · cases he
  · rw [List.mem_singleton.mp he]
    trivial

/-- Unicode white space, which `str::trim` takes off. -/
def isWhiteSpace (c : Char) : Bool :=
  let n := c.toNat
  (9 ≤ n && n ≤ 13) || n == 0x20 || n == 0x85 || n == 0xA0 || n == 0x1680 ||
    (0x2000 ≤ n && n ≤ 0x200A) || n == 0x2028 || n == 0x2029 || n == 0x202F || n == 0x205F ||
    n == 0x3000

def trim (cs : List Char) : List Char := (cs.dropWhile isWhiteSpace).rdropWhile isWhiteSpace

def findOpen : List Char → Option (List Char × List Char)
  | [] => none
  | [_] => none
  | c :: d :: cs =>
    if c = '$' ∧ d = '\x7b' then some ([], cs)
    else (findOpen (d :: cs)).map fun (before, after) => (c :: before, after)

def findClose : List Char → Option (List Char × List Char)
  | [] => none
  | c :: cs =>
    if c = '\x7d' then some ([], cs)
    else (findClose cs).map fun (before, after) => (c :: before, after)

def parseInterpolationExpr (path fullValue : String) (expr : List Char) :
    EnvPart × List ConfigError :=
  match ("secret(".toList.isPrefixOf? expr).bind fun s => [')'].isSuffixOf? s with
  | some inner =>
    let name := trim inner
    (.secret (String.ofList name),
      if name = [] then [.invalidField path s!"empty secret name in '{fullValue}'"] else [])
  | none =>
    match ("service.".toList.isPrefixOf? expr).bind fun s => ".address".toList.isSuffixOf? s with
    | some name =>
      (.serviceAddress (String.ofList name),
        if name = [] then [.invalidField path s!"empty service name in '{fullValue}'"] else [])
    | none =>
      let text := String.ofList expr
      (.literal s!"$\x7b{text}\x7d",
        [.invalidField path s!"unknown interpolation '$\x7b{text}\x7d' in '{fullValue}'"])

def EnvValue.ofParts (parts : List EnvPart) : EnvValue :=
  if parts = [] then .literal "" else .interpolated parts

/-- The loop of `parse_env_value` over what is left of the string. Each turn takes at least the
three characters of an expression, so fuel for one turn per character is enough. -/
def parseEnvLoop (path value : String) :
    Nat → List Char → List EnvPart → EnvValue × List ConfigError
  | 0, _, parts => (.ofParts parts, [])
  | fuel + 1, rest, parts =>
    match findOpen rest with
    | none =>
      if rest = [] then (.ofParts parts, [])
      else if parts = [] then (.literal (String.ofList rest), [])
      else (.ofParts (parts ++ [.literal (String.ofList rest)]), [])
    | some (before, after) =>
      let parts := if before = [] then parts else parts ++ [.literal (String.ofList before)]
      match findClose after with
      | none =>
        (.ofParts (parts ++ [.literal (String.ofList ('$' :: '\x7b' :: after))]),
          [.invalidField path s!"unclosed interpolation in '{value}'"])
      | some (expr, rest) =>
        let (part, errors) := parseInterpolationExpr path value expr
        let (result, more) := parseEnvLoop path value fuel rest (parts ++ [part])
        (result, errors ++ more)

def parseEnvValue (path value : String) : EnvValue × List ConfigError :=
  parseEnvLoop path value (value.length + 1) value.toList []

def parseEnvMap (parentPath : String) (raw : Finmap fun _ : String => String)
    (order : List String) : (Finmap fun _ : String => EnvValue) × List ConfigError :=
  Finmap.collect (fun key value =>
    let (parsed, errors) := parseEnvValue s!"{parentPath}.env.{key}" value
    (some parsed, errors)) (raw.visit order)

lemma lookup_parseEnvMap {raw : Finmap fun _ : String => String} {order : List String}
    (h : Finmap.Enumerates order raw) (parentPath key : String) :
    (parseEnvMap parentPath raw order).1.lookup key =
      (raw.lookup key).map fun value => (parseEnvValue s!"{parentPath}.env.{key}" value).1 := by
  rw [parseEnvMap, h.lookup_collect]
  cases raw.lookup key <;> rfl

lemma single_parseInterpolationExpr (path fullValue : String) (expr : List Char) :
    ∀ e ∈ (parseInterpolationExpr path fullValue expr).2, e.Single := by
  intro e he
  unfold parseInterpolationExpr at he
  split at he
  · dsimp only at he
    split_ifs at he
    · rw [List.mem_singleton.mp he]
      trivial
    · cases he
  · split at he
    · split_ifs at he
      · rw [List.mem_singleton.mp he]
        trivial
      · cases he
    · rw [List.mem_singleton.mp he]
      trivial

lemma single_parseEnvLoop (path value : String) (fuel : Nat) (rest : List Char)
    (parts : List EnvPart) : ∀ e ∈ (parseEnvLoop path value fuel rest parts).2, e.Single := by
  induction fuel generalizing rest parts with
  | zero =>
    intro e he
    cases he
  | succ fuel ih =>
    intro e he
    rw [parseEnvLoop] at he
    split at he
    · split_ifs at he <;> cases he
    · dsimp only at he
      split at he
      · rw [List.mem_singleton.mp he]
        trivial
      · rename_i expr rest' _
        rcases List.mem_append.mp he with he | he
        · exact single_parseInterpolationExpr path value expr e he
        · exact ih rest' _ e he

lemma single_parseEnvMap (parentPath : String) (raw : Finmap fun _ : String => String)
    (order : List String) : ∀ e ∈ (parseEnvMap parentPath raw order).2, e.Single := by
  intro e he
  rw [parseEnvMap, Finmap.collect_errors] at he
  obtain ⟨⟨key, value⟩, -, he⟩ := List.mem_flatMap.mp he
  exact single_parseEnvLoop _ value _ _ _ e he

lemma parseEnvMap_eq {raw : Finmap fun _ : String => String} {order order' : List String}
    (h : Finmap.Enumerates order raw) (h' : Finmap.Enumerates order' raw) (parentPath : String) :
    (parseEnvMap parentPath raw order).1 = (parseEnvMap parentPath raw order').1 := by
  apply Finmap.ext_lookup
  intro key
  rw [lookup_parseEnvMap h, lookup_parseEnvMap h']

example : parseEnvLoop "p" "v" 9 ['a', '$', '\x7b', 's', '\x7d', 'b'] [] =
    (.interpolated [.literal "a", .literal "$\x7bs\x7d", .literal "b"],
      [.invalidField "p" "unknown interpolation '$\x7bs\x7d' in 'v'"]) := rfl

end Mill
