import Lanewise.Text.Characters
import Mathlib.Data.List.DropRight

namespace Lanewise.Text

def Blanks (text : List Char) : Prop :=
  ∀ c ∈ text, isBlank c = true

-- Whether a text neither starts nor ends with a blank. An empty one does not.
structure Bare (text : List Char) : Prop where
  head : ∀ c ∈ text.head?, isBlank c = false
  last : ∀ c ∈ text.getLast?, isBlank c = false

theorem trimRight_eq_rdropWhile (text : List Char) : trimRight text = text.rdropWhile isBlank :=
  rfl

theorem trimRight_append_blanks (text : List Char) {after : List Char} (h : Blanks after) :
    trimRight (text ++ after) = trimRight text := by
  rw [trimRight, List.reverse_append, List.dropWhile_append_of_pos]
  · rfl
  · intro c hc
    exact h c (List.mem_reverse.mp hc)

theorem trim_append_blanks {before after : List Char} (hbefore : Blanks before)
    (hafter : Blanks after) (text : List Char) :
    trim (before ++ text ++ after) = trim text := by
  rw [trim, trim, List.append_assoc, List.dropWhile_append_of_pos hbefore, List.dropWhile_append]
  by_cases hempty : (text.dropWhile isBlank).isEmpty = true
  · rw [if_pos hempty, List.dropWhile_eq_nil_iff.mpr hafter, List.isEmpty_iff.mp hempty]
  · rw [if_neg hempty, trimRight_append_blanks _ hafter]

theorem trim_of_bare {word : List Char} (h : Bare word) : trim word = word := by
  have hleft : word.dropWhile isBlank = word := by
    cases word with
    | nil => rfl
    | cons c rest =>
      have hc : ¬ isBlank c = true := by
        rw [h.head c rfl]
        decide
      exact List.dropWhile_cons_of_neg hc
  rw [trim, hleft, trimRight_eq_rdropWhile, List.rdropWhile_eq_self_iff]
  intro hne
  rw [h.last _ (List.getLast_mem_getLast? hne)]
  decide

-- Trimming takes nothing but blanks, and only at the two ends.
theorem exists_blanks_trim (text : List Char) :
    ∃ before after, Blanks before ∧ Blanks after ∧ text = before ++ trim text ++ after := by
  refine ⟨text.takeWhile isBlank, (text.dropWhile isBlank).rtakeWhile isBlank, ?_, ?_, ?_⟩
  · exact fun c hc => List.mem_takeWhile_imp hc
  · exact fun c hc => List.mem_rtakeWhile_imp hc
  · rw [trim, trimRight_eq_rdropWhile, List.append_assoc, List.rdropWhile_append_rtakeWhile,
      List.takeWhile_append_dropWhile]

theorem bare_trim (text : List Char) : Bare (trim text) := by
  have hright : trim text ++ (text.dropWhile isBlank).rtakeWhile isBlank =
      text.dropWhile isBlank :=
    List.rdropWhile_append_rtakeWhile
  constructor
  case head =>
    intro c hc
    have hfirst : (text.dropWhile isBlank).head? = some c := by
      rw [← hright, List.head?_append, Option.mem_def.mp hc]
      rfl
    have hnot := List.head?_dropWhile_not isBlank text
    rwa [hfirst] at hnot
  case last =>
    intro c hc
    obtain ⟨hne, rfl⟩ := List.mem_getLast?_eq_getLast hc
    exact Bool.eq_false_iff.mpr (List.rdropWhile_last_not isBlank _ hne)

-- The word in a text is what is left of it without blanks at its ends.
structure Trimmed (text word : List Char) : Prop where
  split : ∃ before after, Blanks before ∧ Blanks after ∧ text = before ++ word ++ after
  bare : Bare word

-- Every text has one such word, which is what trimming gives.
theorem trim_eq_iff {text word : List Char} : trim text = word ↔ Trimmed text word := by
  constructor
  · rintro rfl
    exact ⟨exists_blanks_trim text, bare_trim text⟩
  · rintro ⟨⟨before, after, hbefore, hafter, rfl⟩, hbare⟩
    rw [trim_append_blanks hbefore hafter, trim_of_bare hbare]

theorem toNat_toLower (c : Char) :
    c.toLower.toNat = if 65 ≤ c.toNat ∧ c.toNat ≤ 90 then c.toNat + 32 else c.toNat := by
  have hupper : (c.val ≥ 'A'.val ∧ c.val ≤ 'Z'.val) ↔ 65 ≤ c.toNat ∧ c.toNat ≤ 90 :=
    and_congr UInt32.le_iff_toNat_le UInt32.le_iff_toNat_le
  delta Char.toLower
  by_cases h : 65 ≤ c.toNat ∧ c.toNat ≤ 90
  · have hsum : (c.val + ('a'.val - 'A'.val)).toNat = c.toNat + 32 := by
      rw [UInt32.toNat_add]
      exact Nat.mod_eq_of_lt (by simp; omega)
    rw [dif_pos (hupper.mpr h), if_pos h]
    exact hsum
  · rw [dif_neg (mt hupper.mp h), if_neg h]

theorem isBlank_of_printable {c : Char} (hlow : 33 ≤ c.toNat) (hhigh : c.toNat ≤ 126) :
    isBlank c = false := by
  rw [Bool.eq_false_iff]
  simp only [isBlank, ne_eq, Bool.or_eq_true, Bool.and_eq_true, decide_eq_true_eq, beq_iff_eq]
  omega

-- The case of an ASCII letter does not make it a blank, nor the other way round.
theorem isBlank_toLower (c : Char) : isBlank c.toLower = isBlank c := by
  have hlower := toNat_toLower c
  split_ifs at hlower with h
  · rw [isBlank_of_printable (by omega) (by omega), isBlank_of_printable (by omega) (by omega)]
  · have hsame : c.toLower = c := Char.toNat_inj.mp hlower
    rw [hsame]

theorem trim_map_toLower (text : List Char) :
    trim (text.map Char.toLower) = (trim text).map Char.toLower := by
  have hblank : isBlank ∘ Char.toLower = isBlank := funext isBlank_toLower
  rw [trim, trimRight, List.dropWhile_map, hblank, ← List.map_reverse, List.dropWhile_map, hblank,
    ← List.map_reverse]
  rfl

end Lanewise.Text
