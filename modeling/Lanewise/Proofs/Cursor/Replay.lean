import Lanewise.Cursor
import Lanewise.Proofs.Cursor.Outcomes

namespace Lanewise

namespace CursorStep

-- How many of the outcomes still to come a step consumes. A step that asks about the stream, or
-- that works on a copy of the place, consumes none.
def consumed (left : List Outcome) : CursorStep → Nat
  | .next => min 1 left.length
  | .nth n => Outcome.reach (left.take (n + 1))
  | .drain => Outcome.reach left
  | .length | .sizeBounds | .count | .last | .peek | .peekAll | .describe => 0

def reading (left : List Outcome) (text : String) : CursorStep → CursorAnswer
  | .next | .peek => .ofBlock left.head?
  | .nth n => .ofBlock (Outcome.nth? left n)
  | .length => .number left.length
  | .sizeBounds => .bounds left.length left.length
  | .drain | .peekAll => .ofExcept .blocks (Outcome.collect left)
  | .count => .ofExcept .number ((Outcome.collect left).map List.length)
  | .last => .ofExcept .block ((Outcome.collect left).map List.getLast?)
  | .describe => .shown text

end CursorStep

namespace Cursor

variable {U : Type} [CodeUnit U]

-- What the calls of `next` from a place on give, as many as there are blocks to come.
def entries (build : Build) (start : Cursor U) : List Outcome :=
  (List.range start.remaining).filterMap (start.entry build)

-- The answers to a series of steps, read off the entries of a stream. Of the stream itself only
-- the count of entries behind is kept: each step reads on where the one before it stopped.
def replay (build : Build) (start : Cursor U) : Nat → List CursorStep → List (CursorAnswer × Nat)
  | _, [] => []
  | behind, step :: steps =>
    let left := (start.entries build).drop behind
    let after := behind + step.consumed left
    (step.reading left (start.skip build behind).debugText, start.remaining - after) ::
      start.replay build after steps

theorem entries_eq (build : Build) (start : Cursor U) :
    start.entries build = start.outcomes build := by
  rw [entries, ← length_outcomes build start]
  generalize houtcomes : start.outcomes build = outcomes
  have hentry : start.entry build = fun index => outcomes[index]? := by
    funext index
    rw [entry_eq, houtcomes]
  rw [hentry]
  clear houtcomes hentry
  induction outcomes with
  | nil => rfl
  | cons outcome rest ih =>
    simp [List.range_succ_eq_map, List.filterMap_map, ih]

-- One step from any place: the answer is read off what is still to come, and the place moves on
-- by what the step consumes.
theorem answer_eq (build : Build) (cursor : Cursor U) (step : CursorStep) :
    cursor.answer build step =
      (step.reading (cursor.outcomes build) cursor.debugText,
        cursor.skip build (step.consumed (cursor.outcomes build))) := by
  cases step with
  | next =>
    obtain ⟨hdone, hnext⟩ | ⟨outcome, after, hnext, hcome⟩ := cursor.next_cases build
    · simp [answer, CursorStep.reading, CursorStep.consumed, hnext, hdone, skip]
    · simp [answer, CursorStep.reading, CursorStep.consumed, hnext, hcome,
        skip_succ_of_next hnext, skip]
  | nth n => rw [answer, nth_eq]; rfl
  | drain => rw [answer, drain_eq]; rfl
  | length => simp [answer, CursorStep.reading, CursorStep.consumed, length_outcomes, skip]
  | sizeBounds =>
    simp [answer, sizeBounds, CursorStep.reading, CursorStep.consumed, length_outcomes, skip]
  | count => rw [answer, count, words_eq]; rfl
  | last => rw [answer, last, words_eq]; rfl
  | peek => rw [answer, next_fst]; rfl
  | peekAll => rw [answer, words_eq]; rfl
  | describe => rfl

theorem remaining_skip (build : Build) (cursor : Cursor U) (count : Nat) :
    (cursor.skip build count).remaining = cursor.remaining - count := by
  rw [← length_outcomes build, ← length_outcomes build, outcomes_skip, List.length_drop]

theorem run_skip_eq_replay (build : Build) (start : Cursor U) (behind : Nat)
    (steps : List CursorStep) :
    run build steps (start.skip build behind) = start.replay build behind steps := by
  induction steps generalizing behind with
  | nil => rfl
  | cons step steps ih =>
    have hleft : (start.entries build).drop behind = (start.skip build behind).outcomes build := by
      rw [entries_eq, outcomes_skip]
    simp only [run, replay, answer_eq, hleft, ← skip_add, remaining_skip, ih]

-- A stream is its list of entries, and any series of steps reads that list once from its start to
-- its end. Entry `index` is what call number `index` of `next` gives, there are as many as the
-- fresh place counts, and behind the last one the place stays the same for ever. Each step is
-- answered from the entries that are left and leaves that many fewer: a fault is consumed like a
-- block, and the steps after it go on behind it.
theorem run_eq_replay (build : Build) (packer : Packer) (units : List U) :
    let fresh := ofUnits packer units
    (∀ index, fresh.entry build index = (fresh.entries build)[index]?) ∧
      (fresh.entries build).length = fresh.remaining ∧
      (∀ count, fresh.skip build (fresh.remaining + count) = fresh.skip build fresh.remaining) ∧
      ∀ steps, run build steps fresh = fresh.replay build 0 steps := by
  intro fresh
  refine ⟨fun index => ?_, ?_, fun count => ?_, fun steps => ?_⟩
  · rw [entries_eq, entry_eq]
  · rw [entries_eq, length_outcomes]
  · have hdone : (fresh.skip build fresh.remaining).outcomes build = [] := by
      rw [outcomes_skip, ← length_outcomes build, List.drop_length]
    rw [skip_add, skip_of_outcomes_eq_nil hdone]
  · exact run_skip_eq_replay build fresh 0 steps

end Cursor

end Lanewise
