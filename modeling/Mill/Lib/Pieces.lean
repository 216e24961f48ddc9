import Mathlib.Data.List.Basic

/-! A stream that arrives in pieces. A read takes what is there of the first piece, so a
reader that wants a fixed number of elements may have to read several times. -/

/-- What is still to come. A piece is not empty: a read that comes back with nothing means
that the stream has ended. -/
abbrev Pieces (α : Type*) := List { p : List α // p ≠ [] }

namespace Pieces

variable {α : Type*}

def elements (s : Pieces α) : List α := s.flatMap Subtype.val

/-- Read until there are `n` elements; nothing if the stream ends before. -/
def readExact : Nat → Pieces α → Option (List α × Pieces α)
  | 0, s => some ([], s)
  | _ + 1, [] => none
  | n + 1, p :: s =>
    if h : p.val.length ≤ n + 1 then
      (readExact (n + 1 - p.val.length) s).map fun r => (p.val ++ r.1, r.2)
    else
      -- the rest of the piece stays for the next read
      some (p.val.take (n + 1), ⟨p.val.drop (n + 1), by
        rw [Ne, List.drop_eq_nil_iff]
        exact h⟩ :: s)

@[simp] lemma elements_cons (p : { p : List α // p ≠ [] }) (s : Pieces α) :
    elements (p :: s) = p.val ++ elements s := List.flatMap_cons

lemma readExact_of_le {n : Nat} {s : Pieces α} (h : n ≤ s.elements.length) :
    ∃ rest, readExact n s = some (s.elements.take n, rest) ∧ rest.elements = s.elements.drop n := by
  induction s generalizing n with
  | nil =>
    obtain rfl : n = 0 := Nat.le_zero.mp h
    exact ⟨[], rfl, rfl⟩
  | cons p s ih =>
    cases n with
    | zero => exact ⟨p :: s, rfl, rfl⟩
    | succ n =>
      rw [elements_cons, List.length_append] at h
      rw [elements_cons, readExact, List.take_append, List.drop_append]
      split_ifs with hp
      · obtain ⟨rest, hread, hrest⟩ := ih (n := n + 1 - p.val.length) (by omega)
        refine ⟨rest, ?_, ?_⟩
        · rw [hread, List.take_of_length_le hp, Option.map_some]
        · rw [List.drop_of_length_le hp, List.nil_append, hrest]
      · have hzero : n + 1 - p.val.length = 0 := by omega
        rw [hzero, List.take_zero, List.append_nil, List.drop_zero]
        exact ⟨_, rfl, elements_cons _ s⟩

lemma readExact_of_lt {n : Nat} {s : Pieces α} (h : s.elements.length < n) :
    readExact n s = none := by
  induction s generalizing n with
  | nil =>
    cases n with
    | zero => cases h
    | succ => rfl
  | cons p s ih =>
    rw [elements_cons, List.length_append] at h
    cases n with
    | zero => cases h
    | succ n =>
      have hp : p.val.length ≤ n + 1 := by omega
      have hs : (elements s).length < n + 1 - p.val.length := by omega
      rw [readExact, dif_pos hp, ih hs, Option.map_none]

lemma elements_of_readExact {n : Nat} {s rest : Pieces α} {xs : List α}
    (h : readExact n s = some (xs, rest)) : s.elements = xs ++ rest.elements ∧ xs.length = n := by
  rcases Nat.lt_or_ge s.elements.length n with hlt | hle
  · rw [readExact_of_lt hlt] at h
    cases h
  · obtain ⟨rest', hread, hrest⟩ := readExact_of_le hle
    rw [hread] at h
    cases h
    rw [hrest, List.take_append_drop, List.length_take_of_le hle]
    exact ⟨rfl, rfl⟩

lemma readExact_append {s : Pieces α} {xs ys : List α} (h : s.elements = xs ++ ys) :
    ∃ rest, readExact xs.length s = some (xs, rest) ∧ rest.elements = ys := by
  have hle : xs.length ≤ s.elements.length := by
    rw [h, List.length_append]
    exact Nat.le_add_right _ _
  obtain ⟨rest, hread, hrest⟩ := readExact_of_le hle
  rw [h, List.take_left] at hread
  rw [h, List.drop_left] at hrest
  exact ⟨rest, hread, hrest⟩

end Pieces
