import Lanewise.Preference
import Lanewise.Proofs.Text.Trim

namespace Lanewise.Preference

-- The words that name a preference, in lower case.
def keywords : List (String × Preference) :=
  [("", .auto), ("auto", .auto), ("none", .disabled), ("scalar", .disabled), ("off", .disabled),
    ("sse2", .force .sse2), ("neon", .force .neon), ("3dnow", .force .threeDNow),
    ("3dnow!", .force .threeDNow), ("mmx", .force .threeDNow), ("altivec", .force .altiVec),
    ("vmx", .force .altiVec)]

theorem ofKeyword?_eq_some_iff {word : String} {preference : Preference} :
    ofKeyword? word = some preference ↔ (word, preference) ∈ keywords := by
  constructor
  · intro h
    unfold ofKeyword? at h
    split at h <;> cases h <;> decide
  · have hall : ∀ entry ∈ keywords, ofKeyword? entry.1 = some entry.2 := by decide
    exact hall (word, preference)

-- A keyword has no blank in it and no character beyond ASCII.
theorem plain_of_mem_keywords {entry : String × Preference} (h : entry ∈ keywords) {c : Char}
    (hc : c ∈ entry.1.toList) : Text.isBlank c = false ∧ c.toNat < 128 := by
  -- a test of each character, as a bounded statement would be decided over all characters
  have hplain : keywords.all (fun entry =>
      entry.1.toList.all fun c => !Text.isBlank c && decide (c.toNat < 128)) = true := by
    decide
  have hentry := List.all_eq_true.mp (List.all_eq_true.mp hplain entry h) c hc
  simpa using hentry

-- No keyword asks for plain code, or for nothing yet, by name.
theorem vector_of_mem_keywords :
    ∀ entry ∈ keywords, entry.2 ≠ .force .unresolved ∧ entry.2 ≠ .force .scalar := by
  decide

-- The word with its ASCII capitals in lower case and all else as it was.
def folded (word : List Char) : String :=
  String.ofList (word.map Char.toLower)

theorem parse_eq_ok_iff {text : List Char} {preference : Preference} :
    parse text = .ok preference ↔ (folded (Text.trim text), preference) ∈ keywords := by
  rw [← ofKeyword?_eq_some_iff, folded, parse]
  cases ofKeyword? (String.ofList ((Text.trim text).map Char.toLower)) <;> simp

theorem parse_eq_error_iff {text : List Char} {unknown : UnknownPreference} :
    parse text = .error unknown ↔
      (∀ preference, (folded (Text.trim text), preference) ∉ keywords) ∧
        unknown = ⟨String.ofList (Text.trim text)⟩ := by
  simp only [← ofKeyword?_eq_some_iff, folded, parse]
  cases ofKeyword? (String.ofList ((Text.trim text).map Char.toLower)) <;> simp [eq_comm]

theorem parse_congr {text other : List Char} (h : Text.trim text = Text.trim other) :
    parse text = parse other := by
  rw [parse, parse, h]

theorem mem_of_mem_word {word : List Char} {preference : Preference}
    (h : (folded word, preference) ∈ keywords) {c : Char} (hc : c ∈ word) :
    Text.isBlank c = false ∧ c.toNat < 128 := by
  have hlower : c.toLower ∈ (folded word).toList := by
    rw [folded, String.toList_ofList]
    exact List.mem_map_of_mem hc
  obtain ⟨hblank, hascii⟩ := plain_of_mem_keywords h hlower
  rw [Text.isBlank_toLower] at hblank
  rw [Text.toNat_toLower] at hascii
  split_ifs at hascii <;> exact ⟨hblank, by omega⟩

-- How a text with a given word in it is read: by that word in lower case, or else it is reported.
-- What is reported is the word with its case, which is reported again if it is read itself. Blanks
-- at the ends never matter, and the case of ASCII letters never matters to what is accepted. A word
-- with a blank in it or with a character beyond ASCII, however alike a letter, is never accepted.
structure Reading (text word : List Char) : Prop where
  ok_iff : ∀ preference, parse text = .ok preference ↔ (folded word, preference) ∈ keywords
  error_iff : ∀ unknown, parse text = .error unknown ↔
    (∀ preference, (folded word, preference) ∉ keywords) ∧ unknown.value = String.ofList word
  again : ∀ unknown, parse text = .error unknown →
    word ≠ [] ∧ parse unknown.value.toList = .error unknown
  blanks : ∀ before after, Text.Blanks before → Text.Blanks after →
    parse (before ++ text ++ after) = parse text
  letterCase : ∀ other, other.map Char.toLower = text.map Char.toLower →
    ∀ preference, parse other = .ok preference ↔ parse text = .ok preference
  rejected : (∃ c ∈ word, Text.isBlank c = true ∨ 128 ≤ c.toNat) →
    ∃ unknown, parse text = .error unknown
  vector : ∀ preference, parse text = .ok preference →
    preference ≠ .force .unresolved ∧ preference ≠ .force .scalar

-- Every text has one word in it, and is read by that word.
theorem reading_of_trimmed (text : List Char) :
    (∃! word, Text.Trimmed text word) ∧ ∀ word, Text.Trimmed text word → Reading text word := by
  refine ⟨⟨Text.trim text, Text.trim_eq_iff.mp rfl, ?_⟩, ?_⟩
  · intro word hword
    exact (Text.trim_eq_iff.mpr hword).symm
  intro word hword
  obtain rfl := Text.trim_eq_iff.mpr hword
  constructor
  case ok_iff => exact fun preference => parse_eq_ok_iff
  case error_iff =>
    rintro ⟨value⟩
    rw [parse_eq_error_iff, UnknownPreference.mk.injEq]
  case again =>
    intro unknown hunknown
    obtain ⟨hnone, rfl⟩ := parse_eq_error_iff.mp hunknown
    constructor
    · intro hempty
      rw [hempty] at hnone
      exact hnone .auto (by decide)
    · rw [String.toList_ofList, ← hunknown]
      exact parse_congr (Text.trim_of_bare hword.bare)
  case blanks =>
    intro before after hbefore hafter
    exact parse_congr (Text.trim_append_blanks hbefore hafter text)
  case letterCase =>
    intro other hother preference
    have hfolded : folded (Text.trim other) = folded (Text.trim text) := by
      rw [folded, folded, ← Text.trim_map_toLower, ← Text.trim_map_toLower, hother]
    rw [parse_eq_ok_iff, parse_eq_ok_iff, hfolded]
  case rejected =>
    rintro ⟨c, hc, hstrange⟩
    refine ⟨_, parse_eq_error_iff.mpr ⟨fun preference hmem => ?_, rfl⟩⟩
    obtain ⟨hblank, hascii⟩ := mem_of_mem_word hmem hc
    obtain hstrange | hstrange := hstrange
    · exact absurd hblank (by rw [hstrange]; decide)
    · omega
  case vector =>
    intro preference hpreference
    exact vector_of_mem_keywords _ (parse_eq_ok_iff.mp hpreference)

end Lanewise.Preference
