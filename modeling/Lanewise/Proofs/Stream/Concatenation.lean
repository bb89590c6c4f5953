import Lanewise.Proofs.Cursor.Replay
import Lanewise.Proofs.Stream.Blocks

namespace Lanewise

section Groups

variable {U : Type}

-- A string of whole groups is empty, or a group with such a string behind it.
theorem whole_induction {motive : List U → Prop} (nil : motive [])
    (group : ∀ (head : Vector U 8) rest, motive rest → motive (head.toList ++ rest))
    {s : List U} (h : 8 ∣ s.length) : motive s := by
  induction s using group_induction with
  | short s hshort =>
    have hnil : s = [] := List.eq_nil_of_length_eq_zero (Nat.eq_zero_of_dvd_of_lt h hshort)
    rw [hnil]
    exact nil
  | group head rest ih =>
    rw [List.length_append, Vector.length_toList] at h
    exact group head rest (ih (by omega))

variable {s : List U}

theorem fullGroups_append_of_dvd (h : 8 ∣ s.length) (t : List U) :
    fullGroups (s ++ t) = fullGroups s ++ fullGroups t := by
  refine whole_induction (motive := fun s => fullGroups (s ++ t) = fullGroups s ++ fullGroups t)
    rfl (fun head rest ih => ?_) h
  rw [List.append_assoc, fullGroups_append, fullGroups_append, ih, List.cons_append]

theorem tailUnits_append_of_dvd (h : 8 ∣ s.length) (t : List U) :
    tailUnits (s ++ t) = tailUnits t := by
  refine whole_induction (motive := fun s => tailUnits (s ++ t) = tailUnits t)
    rfl (fun head rest ih => ?_) h
  rw [List.append_assoc, tailUnits_append, ih]

theorem tailUnits_of_dvd (h : 8 ∣ s.length) : tailUnits s = [] := by
  apply List.eq_nil_of_length_eq_zero
  rw [length_tailUnits]
  exact Nat.mod_eq_zero_of_dvd h

end Groups

namespace Cursor

-- A place behind the groups of the first string is the fresh place of the second one.
theorem ofUnits_append_with_full {U : Type} {s : List U} (h : 8 ∣ s.length) (packer : Packer)
    (t : List U) :
    { ofUnits packer (s ++ t) with full := fullGroups t } = ofUnits packer t := by
  simp only [ofUnits, tailUnits_append_of_dvd h t]

theorem remaining_ofUnits_of_dvd {U : Type} {s : List U} (h : 8 ∣ s.length) (packer : Packer) :
    (ofUnits packer s).remaining = s.length / 8 := by
  simp only [remaining, tailBlocks, ofUnits, tailUnits_of_dvd h, length_fullGroups,
    List.isEmpty_nil, if_true, Nat.add_zero]

variable {U : Type} [CodeUnit U]

-- As many calls of `next` as there are groups pass over these groups and over nothing else, even
-- where some of them fault.
theorem skip_groups (build : Build) (groups rest : List (Vector U 8)) (cursor : Cursor U)
    (hfull : cursor.full = groups ++ rest) :
    cursor.skip build groups.length = { cursor with full := rest } := by
  induction groups generalizing cursor with
  | nil =>
    obtain ⟨full, tail, tailPacked, packer, tail_short⟩ := cursor
    cases hfull
    rfl
  | cons group groups ih =>
    have hnext : cursor.next build =
        (some (CodeUnit.loadGroup build cursor.packer group),
          { cursor with full := groups ++ rest }) := by
      simp only [next, hfull, List.cons_append]
    rw [List.length_cons, skip_succ_of_next hnext, ih _ rfl]

theorem outcomes_groups (build : Build) (groups rest : List (Vector U 8)) (cursor : Cursor U)
    (hfull : cursor.full = groups ++ rest) :
    cursor.outcomes build =
      groups.map (CodeUnit.loadGroup build cursor.packer) ++
        { cursor with full := rest }.outcomes build := by
  simp only [outcomes, tailOutcomes, hfull, List.map_append, List.append_assoc]

theorem outcomes_ofUnits_of_dvd {s : List U} (h : 8 ∣ s.length) (build : Build)
    (packer : Packer) :
    (ofUnits packer s).outcomes build = (fullGroups s).map (CodeUnit.loadGroup build packer) := by
  simp only [outcomes, tailOutcomes, ofUnits, tailUnits_of_dvd h, List.isEmpty_nil, if_true,
    List.append_nil]

-- Behind whole groups a stream starts afresh. The calls of `next` over a string of whole groups
-- with another string behind it give what they give over the first string, faults included, and
-- then what they give over the second one. The place after the first string is the fresh place of
-- the second one, so that nothing asked of it later can tell the two apart.
theorem entries_ofUnits_append {s : List U} (h : 8 ∣ s.length) (t : List U) (build : Build)
    (packer : Packer) :
    let first := ofUnits packer s
    let second := ofUnits packer t
    let whole := ofUnits packer (s ++ t)
    whole.entries build = first.entries build ++ second.entries build ∧
      (∀ index, whole.entry build index =
        if index < s.length / 8 then first.entry build index
        else second.entry build (index - s.length / 8)) ∧
      whole.remaining = first.remaining + second.remaining ∧
      first.remaining = s.length / 8 ∧
      whole.skip build (s.length / 8) = second := by
  intro first second whole
  have hfull : whole.full = fullGroups s ++ fullGroups t := fullGroups_append_of_dvd h t
  have hsecond : { whole with full := fullGroups t } = second := ofUnits_append_with_full h packer t
  have houtcomes : whole.outcomes build = first.outcomes build ++ second.outcomes build := by
    rw [outcomes_groups build _ _ whole hfull, hsecond, outcomes_ofUnits_of_dvd h]
    rfl
  have hremaining : first.remaining = s.length / 8 := remaining_ofUnits_of_dvd h packer
  refine ⟨?_, fun index => ?_, ?_, hremaining, ?_⟩
  · rw [entries_eq, entries_eq, entries_eq, houtcomes]
  · rw [entry_eq, entry_eq, entry_eq, houtcomes, List.getElem?_append, length_outcomes, hremaining]
  · rw [← length_outcomes build, ← length_outcomes build, ← length_outcomes build, houtcomes,
      List.length_append]
  · rw [← length_fullGroups, skip_groups build _ _ whole hfull, hsecond]

theorem entries_append_behind_wide_group :
    let s : List UInt16 := [1, 2, 3, 4, 5, 6, 7, 0x100]
    8 ∣ s.length ∧
      (ofUnits .sse2 (s ++ [9, 10])).entries .checked =
        [.error (.wideUnits s), .ok 0x0900000A0000000A] ∧
      (ofUnits .sse2 (s ++ [9, 10])).skip .checked 1 = ofUnits .sse2 [9, 10] := by
  intro s
  have hdvd : 8 ∣ s.length := by decide
  obtain ⟨hentries, -, -, -, hskip⟩ := entries_ofUnits_append hdvd [9, 10] .checked .sse2
  refine ⟨hdvd, ?_, by simpa [s] using hskip⟩
  rw [hentries]
  decide

end Cursor

end Lanewise
