import Mathlib.Data.List.DropRight
import Mill.Config.Runtime
import Mill.Lib.Run

/-! The suffixes of allocation ids. -/

namespace Mill

open List Transition

/-- A number as `{:x}` prints it. -/
def hex (n : Nat) : List Char := Nat.toDigits 16 n

lemma hex_eq (n : Nat) :
    hex n = if n < 16 then [n.digitChar] else hex (n / 16) ++ [(n % 16).digitChar] :=
  Nat.toDigits_eq_if (by decide)

lemma dash_not_mem_hex (n : Nat) : '-' ∉ hex n := by
  have hdigit : ∀ d < 16, '-' ≠ Nat.digitChar d := by decide
  induction n using Nat.strongRecOn with
  | ind n ih =>
    rw [hex_eq]
    split_ifs with hn
    · exact fun h => hdigit n hn (mem_singleton.mp h)
    · rw [mem_append, not_or]
      exact ⟨ih _ (by omega), fun h => hdigit _ (n.mod_lt (by decide)) (mem_singleton.mp h)⟩

lemma hex_injective : Function.Injective hex := by
  have hdigit : ∀ d < 16, ∀ d' < 16, Nat.digitChar d = Nat.digitChar d' → d = d' := by decide
  intro n
  induction n using Nat.strongRecOn with
  | ind n ih =>
    intro m h
    have hne (k : Nat) : hex k ≠ [] := Nat.toDigits_ne_nil
    rw [hex_eq n, hex_eq m] at h
    split_ifs at h with hn hm hm
    · exact hdigit n hn m hm (singleton_inj.mp h)
    · simp [singleton_eq_append_iff, hne] at h
    · simp [append_eq_singleton_iff, hne] at h
    · obtain ⟨hdiv, hmod⟩ := append_inj' h rfl
      have hlast := hdigit _ (n.mod_lt (by decide)) _ (m.mod_lt (by decide)) (singleton_inj.mp hmod)
      have hrest := ih _ (by omega) hdiv
      omega

/-- The clock readings of the calls of `rand_suffix` under way, the counter, and the results. -/
structure Suffixes where
  readings : List Nat
  counter : Nat
  returned : List String

inductive SuffixEvent
  | now (nanos : Nat)
  | fetchAdd (call : Nat)

namespace Suffixes

def step (s : Suffixes) : SuffixEvent → Option Suffixes
  | .now nanos => some { s with readings := s.readings ++ [nanos] }
  | .fetchAdd call =>
    s.readings[call]?.map fun nanos =>
      { readings := s.readings.eraseIdx call
        counter := (s.counter + 1) % 2 ^ 64
        returned := s.returned ++ [String.ofList (hex (nanos % 2 ^ 32) ++ hex s.counter)] }

structure Numbered (width : Nat) (s : Suffixes) : Prop where
  readings : ∀ nanos ∈ s.readings, (hex (nanos % 2 ^ 32)).length = width
  counter : s.counter = s.returned.length % 2 ^ 64
  returned : ∀ i (h : i < s.returned.length), '-' ∉ s.returned[i].toList ∧
    s.returned[i].toList.drop width = hex (i % 2 ^ 64)

variable {width : Nat} {s s' : Suffixes}

lemma numbered_step {e : SuffixEvent} (h : s.Numbered width)
    (he : ∀ nanos, e = .now nanos → (hex (nanos % 2 ^ 32)).length = width)
    (hs : s.step e = some s') : s'.Numbered width := by
  cases e with
  | now nanos =>
    cases hs
    refine ⟨forall_mem_append.mpr ⟨h.readings, ?_⟩, h.counter, h.returned⟩
    exact forall_mem_singleton.mpr (he nanos rfl)
  | fetchAdd =>
    obtain ⟨nanos, hnanos, rfl⟩ := Option.map_eq_some_iff.mp hs
    refine ⟨fun n hn => h.readings n (mem_of_mem_eraseIdx hn), ?_, fun i hi => ?_⟩
    · rw [length_append, length_singleton, h.counter, Nat.mod_add_mod]
    · rw [length_append, length_singleton] at hi
      rcases Nat.lt_succ_iff_lt_or_eq.mp hi with hi | rfl
      · simp only [getElem_append_left hi]
        exact h.returned i hi
      · simp only [getElem_concat_length, String.toList_ofList]
        rw [← h.readings nanos (mem_of_getElem? hnanos), drop_left, ← h.counter, mem_append, not_or]
        exact ⟨⟨dash_not_mem_hex _, dash_not_mem_hex _⟩, rfl⟩

lemma suffix_of_id {name name' : String} {a b : String} (ha : '-' ∉ a.toList)
    (hb : '-' ∉ b.toList) (h : name ++ "-" ++ a = name' ++ "-" ++ b) : a = b := by
  have hcut (n : String) {c : String} (hc : '-' ∉ c.toList) :
      (n ++ "-" ++ c).toList.rtakeWhile (· ≠ '-') = c.toList := by
    simp only [String.toList_append, List.rtakeWhile, reverse_append]
    rw [takeWhile_append_of_pos (by grind)]
    simp
  rw [← String.toList_inj, ← hcut name ha, h, hcut name' hb]

/-- If all clock readings print at one width, the suffixes of at most `2 ^ 64` calls are
distinct, and so are the ids that are built with them. -/
theorem suffixes_distinct (width : Nat) (s : Suffixes) (es : List SuffixEvent)
    (hes : ∀ nanos, .now nanos ∈ es → (hex (nanos % 2 ^ 32)).length = width)
    (hr : run step ⟨[], 0, []⟩ es = some s) (hfew : s.returned.length ≤ 2 ^ 64) :
    s.returned.Pairwise fun a b => a ≠ b ∧ ∀ name name' : String,
      name ++ "-" ++ a ≠ name' ++ "-" ++ b := by
  have hs : s.Numbered width := run_invariant (fun _ _ _ h he => numbered_step h he)
    ⟨by simp, rfl, by simp⟩ (guarded_of_forall _ fun e he _ nanos h => hes nanos (h ▸ he)) hr
  rw [pairwise_iff_getElem]
  intro i j hi hj hij
  obtain ⟨hi', hdropi⟩ := hs.returned i hi
  obtain ⟨hj', hdropj⟩ := hs.returned j hj
  have hne : s.returned[i] ≠ s.returned[j] := by
    intro heq
    rw [heq, hdropj, Nat.mod_eq_of_lt (hi.trans_le hfew), Nat.mod_eq_of_lt (hj.trans_le hfew)]
      at hdropi
    exact hij.ne' (hex_injective hdropi)
  exact ⟨hne, fun name name' h => hne (suffix_of_id hi' hj' h)⟩

def demoCalls (readings : List Nat) : List SuffixEvent :=
  readings.flatMap fun nanos => [.now nanos, .fetchAdd 0]

theorem suffixes_distinct_two : ["30", "51"].Pairwise fun a b => a ≠ b ∧ ∀ name name' : String,
    name ++ "-" ++ a ≠ name' ++ "-" ++ b :=
  suffixes_distinct 1 ⟨[], 2, ["30", "51"]⟩ (demoCalls [3, 5]) (by simp [demoCalls]; decide) rfl
    (by decide)

/-- The calls with the numbers 1 and 17. -/
theorem suffix_returned_twice : (run step ⟨[], 0, []⟩ (demoCalls (0 :: 0x11 ::
    List.replicate 16 1))).map (fun s => (s.returned[1]?, s.returned[17]?)) =
      some (some "111", some "111") := by
  decide +kernel

end Suffixes

end Mill
