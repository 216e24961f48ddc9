import Mathlib.Data.List.Basic
import Mathlib.Logic.Function.Basic

/-! Files of one directory under crashes and I/O errors. A written file is lost
or damaged by a crash until it is synced; a rename replaces its target at
once. -/

namespace FileSystem

variable {N β : Type*}

structure File (β : Type*) where
  contents : β
  synced : Bool
deriving DecidableEq

abbrev Dir (N β : Type*) := N → Option (File β)

inductive Op (N β : Type*)
  | write (name : N) (contents : β)
  | sync (name : N)
  | rename (source target : N)

/-- How far a sequence of operations gets: `steps` of them succeed. When the next
one is a write, `torn` is what it leaves in its file if it fails half way. -/
structure Io (β : Type*) where
  steps : Nat
  torn : Option β

def readFile (d : Dir N β) (n : N) : Option β := (d n).map File.contents

/-- After a crash the synced files are as they were, and of every other file
there is what `lost` says. -/
def crash (lost : N → Option β) (d : Dir N β) : Dir N β := fun n =>
  match d n with
  | some ⟨b, true⟩ => some ⟨b, true⟩
  | some ⟨_, false⟩ => (lost n).map fun b => ⟨b, true⟩
  | none => none

def Settled (d : Dir N β) (n : N) : Prop := ∀ f, d n = some f → f.synced = true

lemma crash_of_settled {d : Dir N β} {n : N} (h : Settled d n) (lost : N → Option β) :
    crash lost d n = d n := by
  unfold crash
  rcases hd : d n with _ | ⟨b, synced⟩
  · rfl
  · have hs : synced = true := h _ hd
    rw [hs]

lemma crash_of_synced {α : Type*} {d : Dir N β} {n : N} {o : Option α} {g : α → β}
    (h : d n = o.map fun a => ⟨g a, true⟩) (lost : N → Option β) : crash lost d n = d n := by
  refine crash_of_settled ?_ lost
  intro f hf
  rw [h, Option.map_eq_some_iff] at hf
  obtain ⟨a, -, rfl⟩ := hf
  rfl

variable [DecidableEq N]

def Op.exec : Op N β → Dir N β → Option (Dir N β)
  | write n b, d => some (Function.update d n (some ⟨b, false⟩))
  | sync n, d => (d n).map fun f => Function.update d n (some ⟨f.contents, true⟩)
  | rename source target, d =>
    (d source).map fun f => Function.update (Function.update d source none) target (some f)

def perform : List (Op N β) → Dir N β → Dir N β
  | [], d => d
  | op :: ops, d =>
    match op.exec d with
    | some d' => perform ops d'
    | none => d

def attempt (io : Io β) (ops : List (Op N β)) (d : Dir N β) : Dir N β :=
  match ops[io.steps]?, io.torn with
  | some (.write n _), some b =>
    Function.update (perform (ops.take io.steps) d) n (some ⟨b, false⟩)
  | _, _ => perform (ops.take io.steps) d

lemma attempt_torn (steps : Nat) (torn : Option β) (ops : List (Op N β)) (d : Dir N β) :
    attempt ⟨steps, torn⟩ ops d = match ops[steps]?, torn with
      | some (.write n _), some b =>
        Function.update (attempt ⟨steps, none⟩ ops d) n (some ⟨b, false⟩)
      | _, _ => attempt ⟨steps, none⟩ ops d := by
  have hclean : attempt ⟨steps, none⟩ ops d = perform (ops.take steps) d := by
    unfold attempt
    split <;> simp_all
  rw [hclean]
  rfl

def replace (tmp path : N) (b : β) : List (Op N β) :=
  [.write tmp b, .sync tmp, .rename tmp path]

def replaced (tmp path : N) (b : β) (d : Dir N β) : Dir N β :=
  Function.update (Function.update d tmp none) path (some ⟨b, true⟩)

lemma perform_replace_append (tmp path : N) (b : β) (ops : List (Op N β)) (d : Dir N β) :
    perform (replace tmp path b ++ ops) d = perform ops (replaced tmp path b d) := by
  simp [replace, perform, Op.exec, replaced]

lemma attempt_replace_append (io : Io β) (tmp path : N) (b : β) (ops : List (Op N β))
    (d : Dir N β) : attempt io (replace tmp path b ++ ops) d =
      if io.steps < 3 then attempt io (replace tmp path b) d
      else attempt ⟨io.steps - 3, io.torn⟩ ops (replaced tmp path b d) := by
  have hlen : (replace tmp path b).length = 3 := rfl
  split_ifs with h
  · unfold attempt
    rw [List.take_append_of_le_length (by omega), List.getElem?_append_left (by omega)]
  · have hle : 3 ≤ io.steps := by omega
    unfold attempt
    rw [List.getElem?_append_right (by omega), List.take_append, hlen,
      List.take_of_length_le (by omega), perform_replace_append]

lemma attempt_replace_path {tmp path : N} (hne : path ≠ tmp) (io : Io β) (b : β)
    (d : Dir N β) : attempt io (replace tmp path b) d path =
      if io.steps < 3 then d path else some ⟨b, true⟩ := by
  rcases io with ⟨steps, torn⟩
  match steps with
  | 0 => cases torn <;> simp [attempt, replace, perform, hne]
  | 1 => simp [attempt, replace, perform, Op.exec, hne]
  | 2 => simp [attempt, replace, perform, Op.exec, hne]
  | n + 3 =>
    have h : ¬ n + 3 < 3 := by omega
    simp [attempt, replace, perform, Op.exec, h]

lemma attempt_replace_other {tmp path n : N} (ht : n ≠ tmp) (hp : n ≠ path) (io : Io β)
    (b : β) (d : Dir N β) : attempt io (replace tmp path b) d n = d n := by
  rcases io with ⟨steps, torn⟩
  match steps with
  | 0 => cases torn <;> simp [attempt, replace, perform, ht]
  | 1 => simp [attempt, replace, perform, Op.exec, ht]
  | 2 => simp [attempt, replace, perform, Op.exec, ht]
  | n + 3 => simp [attempt, replace, perform, Op.exec, ht, hp]

end FileSystem
