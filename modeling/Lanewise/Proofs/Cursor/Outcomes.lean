import Lanewise.Cursor
import Mathlib.Data.List.Basic

namespace Lanewise

abbrev Outcome :=
  Except Fault UInt64

namespace Outcome

def fault? : Outcome → Option Fault
  | .ok _ => none
  | .error fault => some fault

def isFault (outcome : Outcome) : Bool :=
  outcome.fault?.isSome

def collect (outcomes : List Outcome) : Except Fault (List UInt64) :=
  match outcomes.findSome? fault? with
  | none => .ok (outcomes.filterMap Except.toOption)
  | some fault => .error fault

-- How many of the wanted outcomes are met: all of them, but none behind the first fault.
def reach (wanted : List Outcome) : Nat :=
  match wanted.findIdx? isFault with
  | none => wanted.length
  | some index => index + 1

@[simp] theorem collect_nil : collect [] = .ok [] :=
  rfl

@[simp] theorem collect_ok (word : UInt64) (rest : List Outcome) :
    collect (.ok word :: rest) = (collect rest).map (word :: ·) := by
  have hword : fault? (.ok word) = none := rfl
  simp only [collect, List.findSome?_cons, hword]
  cases rest.findSome? fault? with
  | none => rfl
  | some fault => rfl

@[simp] theorem collect_error (fault : Fault) (rest : List Outcome) :
    collect (.error fault :: rest) = .error fault :=
  rfl

@[simp] theorem reach_nil : reach [] = 0 :=
  rfl

@[simp] theorem reach_ok (word : UInt64) (rest : List Outcome) :
    reach (.ok word :: rest) = reach rest + 1 := by
  have hword : isFault (.ok word) = false := rfl
  simp only [reach, List.findIdx?_cons, hword]
  cases rest.findIdx? isFault with
  | none => rfl
  | some index => rfl

@[simp] theorem reach_error (fault : Fault) (rest : List Outcome) :
    reach (.error fault :: rest) = 1 := by
  have hfault : isFault (.error fault) = true := rfl
  simp [reach, List.findIdx?_cons, hfault]

-- The one asked for by its index, unless a fault stands before it.
def nth? (outcomes : List Outcome) (n : Nat) : Option Outcome :=
  ((outcomes.take (n + 1)).find? isFault).or outcomes[n]?

@[simp] theorem nth?_nil (n : Nat) : nth? [] n = none := by
  simp [nth?]

theorem nth?_cons_zero (outcome : Outcome) (rest : List Outcome) :
    nth? (outcome :: rest) 0 = some outcome := by
  cases hfault : outcome.isFault <;> simp [nth?, hfault]

@[simp] theorem nth?_ok (word : UInt64) (rest : List Outcome) (n : Nat) :
    nth? (.ok word :: rest) (n + 1) = nth? rest n := by
  have hword : isFault (.ok word) = false := rfl
  simp [nth?, hword]

@[simp] theorem nth?_error (fault : Fault) (rest : List Outcome) (n : Nat) :
    nth? (.error fault :: rest) n = some (.error fault) := by
  have hfault : isFault (.error fault) = true := rfl
  simp [nth?, hfault]

theorem reach_singleton (outcome : Outcome) : reach [outcome] = 1 := by
  cases outcome <;> simp

end Outcome

namespace Cursor

variable {U : Type} [CodeUnit U]

-- What is still to come of the tail, and of the whole string, one outcome for each block.
def tailOutcomes (build : Build) (cursor : Cursor U) : List Outcome :=
  if cursor.tail.isEmpty then []
  else
    (if cursor.tailPacked then none else tailHead? cursor.tail).toList.map
        (CodeUnit.loadHead build cursor.packer) ++
      [CodeUnit.loadTail build cursor.tail]

def outcomes (build : Build) (cursor : Cursor U) : List Outcome :=
  cursor.full.map (CodeUnit.loadGroup build cursor.packer) ++ cursor.tailOutcomes build

-- All that a call of `next` can do: stay at the end, or give the first outcome to come and go
-- to a place where the others are still to come.
theorem next_cases (build : Build) (cursor : Cursor U) :
    (cursor.outcomes build = [] ∧ cursor.next build = (none, cursor)) ∨
      ∃ outcome after, cursor.next build = (some outcome, after) ∧
        cursor.outcomes build = outcome :: after.outcomes build := by
  unfold next
  cases hfull : cursor.full with
  | cons group groups =>
    exact .inr ⟨_, _, rfl, by simp [outcomes, tailOutcomes, hfull]⟩
  | nil =>
    by_cases htail : cursor.tail.isEmpty
    · exact .inl (by simp [outcomes, tailOutcomes, hfull, htail])
    · right
      cases hhead : if cursor.tailPacked then none else tailHead? cursor.tail with
      | some head =>
        refine ⟨CodeUnit.loadHead build cursor.packer head, { cursor with tailPacked := true },
          ?_, ?_⟩
        · simp [htail, hfull]
        · simp [outcomes, tailOutcomes, hfull, htail, hhead]
      | none =>
        refine ⟨CodeUnit.loadTail build cursor.tail, cursor.afterTail, ?_, ?_⟩
        · simp [htail]
        · simp [outcomes, tailOutcomes, afterTail, hfull, htail, hhead]

theorem outcomes_of_next_some {build : Build} {cursor after : Cursor U} {outcome : Outcome}
    (h : cursor.next build = (some outcome, after)) :
    cursor.outcomes build = outcome :: after.outcomes build := by
  obtain ⟨-, hnext⟩ | ⟨_, _, hnext, hcome⟩ := cursor.next_cases build
  · simp [hnext] at h
  · cases hnext.symm.trans h
    exact hcome

theorem outcomes_of_next_none {build : Build} {cursor after : Cursor U}
    (h : cursor.next build = (none, after)) : cursor.outcomes build = [] ∧ after = cursor := by
  obtain ⟨hdone, hnext⟩ | ⟨_, _, hnext, -⟩ := cursor.next_cases build
  · cases hnext.symm.trans h
    exact ⟨hdone, rfl⟩
  · simp [hnext] at h

theorem next_fst (build : Build) (cursor : Cursor U) :
    (cursor.next build).1 = (cursor.outcomes build).head? := by
  obtain ⟨hdone, hnext⟩ | ⟨outcome, after, hnext, hcome⟩ := cursor.next_cases build
  · rw [hnext, hdone]
    rfl
  · rw [hnext, hcome]
    rfl

theorem outcomes_next (build : Build) (cursor : Cursor U) :
    (cursor.next build).2.outcomes build = (cursor.outcomes build).tail := by
  obtain ⟨hdone, hnext⟩ | ⟨outcome, after, hnext, hcome⟩ := cursor.next_cases build
  · rw [hnext, hdone]
    rfl
  · rw [hnext, hcome]
    rfl

theorem length_tailOutcomes (build : Build) (cursor : Cursor U) :
    (cursor.tailOutcomes build).length = cursor.tailBlocks := by
  unfold tailOutcomes tailBlocks
  by_cases htail : cursor.tail.isEmpty
  · simp [htail]
  · have hhead := @tailHead?_isSome_iff U cursor.tail
    cases cursor.tailPacked with
    | true => simp [htail]
    | false =>
      cases hcase : tailHead? cursor.tail with
      | none =>
        have hshort : cursor.tail.length < 4 := by simp_all
        simp [htail, hshort]
      | some head =>
        have hlong : ¬ cursor.tail.length < 4 := by simp_all
        simp [htail, hlong]

-- The count of blocks to come, which is computed apart from them, agrees with them everywhere.
theorem length_outcomes (build : Build) (cursor : Cursor U) :
    (cursor.outcomes build).length = cursor.remaining := by
  simp [outcomes, remaining, length_tailOutcomes]

def skip (build : Build) (cursor : Cursor U) : Nat → Cursor U
  | 0 => cursor
  | count + 1 => ((cursor.skip build count).next build).2

def entry (build : Build) (cursor : Cursor U) (index : Nat) : Option Outcome :=
  ((cursor.skip build index).next build).1

theorem skip_add (build : Build) (cursor : Cursor U) (first second : Nat) :
    cursor.skip build (first + second) = (cursor.skip build first).skip build second := by
  induction second with
  | zero => rfl
  | succ second ih => rw [← Nat.add_assoc, skip, ih, skip]

theorem skip_succ_of_next {build : Build} {cursor after : Cursor U} {block : Option Outcome}
    (h : cursor.next build = (block, after)) (count : Nat) :
    cursor.skip build (count + 1) = after.skip build count := by
  rw [Nat.add_comm, skip_add, skip, skip, h]

theorem outcomes_skip (build : Build) (cursor : Cursor U) (count : Nat) :
    (cursor.skip build count).outcomes build = (cursor.outcomes build).drop count := by
  induction count with
  | zero => rfl
  | succ count ih => rw [skip, outcomes_next, ih, List.tail_drop]

theorem entry_eq (build : Build) (cursor : Cursor U) (index : Nat) :
    cursor.entry build index = (cursor.outcomes build)[index]? := by
  rw [entry, next_fst, outcomes_skip, List.head?_drop]

theorem skip_of_outcomes_eq_nil {build : Build} {cursor : Cursor U}
    (h : cursor.outcomes build = []) (count : Nat) : cursor.skip build count = cursor := by
  induction count with
  | zero => rfl
  | succ count ih =>
    obtain ⟨-, hnext⟩ | ⟨outcome, after, -, hcome⟩ := cursor.next_cases build
    · rw [skip, ih, hnext]
    · simp [h] at hcome

theorem nth_eq (build : Build) (n : Nat) (cursor : Cursor U) :
    nth build n cursor =
      (Outcome.nth? (cursor.outcomes build) n,
        cursor.skip build (Outcome.reach ((cursor.outcomes build).take (n + 1)))) := by
  induction n generalizing cursor with
  | zero =>
    obtain ⟨hdone, hnext⟩ | ⟨outcome, after, hnext, hcome⟩ := cursor.next_cases build
    · simp [nth, hnext, hdone, skip]
    · simp [nth, hnext, hcome, Outcome.nth?_cons_zero, Outcome.reach_singleton,
        skip_succ_of_next hnext, skip]
  | succ n ih =>
    obtain ⟨hdone, hnext⟩ | ⟨outcome, after, hnext, hcome⟩ := cursor.next_cases build
    · simp [nth, hnext, hdone, skip]
    · cases outcome with
      | ok word => simp [nth, hnext, hcome, ih, skip_succ_of_next hnext]
      | error fault => simp [nth, hnext, hcome, skip_succ_of_next hnext, skip]

theorem drain_eq (build : Build) (cursor : Cursor U) :
    cursor.drain build =
      (Outcome.collect (cursor.outcomes build),
        cursor.skip build (Outcome.reach (cursor.outcomes build))) := by
  fun_induction drain build cursor with
  | case1 cursor word after hnext hfewer words last hdrain ih =>
    obtain ⟨rfl, rfl⟩ := Prod.mk.inj (hdrain.symm.trans ih)
    simp [outcomes_of_next_some hnext, skip_succ_of_next hnext]
  | case2 cursor fault after hnext =>
    simp [outcomes_of_next_some hnext, skip_succ_of_next hnext, skip]
  | case3 cursor after hnext =>
    obtain ⟨hdone, rfl⟩ := outcomes_of_next_none hnext
    simp [hdone, skip]

theorem words_eq (build : Build) (cursor : Cursor U) :
    cursor.words build = Outcome.collect (cursor.outcomes build) := by
  rw [words, drain_eq]

end Cursor

end Lanewise
