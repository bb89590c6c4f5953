import Lanewise.Text.Utf8
import Mathlib.Data.List.Basic

namespace Lanewise.Text.Utf8

def encode (text : List Char) : List UInt8 :=
  text.flatMap String.utf8EncodeChar

namespace Pending

theorem accepts_iff (p : Pending) (b : UInt8) :
    p.accepts b = true ↔ p.low.toNat ≤ b.toNat ∧ b.toNat ≤ p.high.toNat := by
  simp [accepts, UInt8.le_iff_toNat_le]

-- The bytes that end a begun character, with the number that they give it.
inductive Ends : Pending → List UInt8 → Nat → Prop where
  | last {bits n : Nat} {low high b : UInt8} (h : accepts ⟨bits, 0, low, high⟩ b = true)
    (hn : n = push ⟨bits, 0, low, high⟩ b) : Ends ⟨bits, 0, low, high⟩ [b] n
  | next {bits due : Nat} {low high b : UInt8} {ending : List UInt8} {n : Nat}
    (h : accepts ⟨bits, due + 1, low, high⟩ b = true)
    (hends : Ends ⟨push ⟨bits, due + 1, low, high⟩ b, due, 0x80, 0xBF⟩ ending n) :
    Ends ⟨bits, due + 1, low, high⟩ (b :: ending) n

end Pending

theorem resume_of_ends {p : Pending} {ending : List UInt8} {n : Nat} (h : p.Ends ending n)
    (rest : List UInt8) : resume p (ending ++ rest) = some (Char.ofNat n) :: segments rest := by
  induction h with
  | last h hn => rw [List.cons_append, resume, if_pos h, hn, List.nil_append]
  | next h _ ih => rw [List.cons_append, resume, if_pos h, ← ih]

theorem exists_ends_of_resume {p : Pending} {bytes : List UInt8} {c : Char}
    {segmented : List (Option Char)} (h : resume p bytes = some c :: segmented) :
    ∃ ending rest n, bytes = ending ++ rest ∧ p.Ends ending n ∧ c = Char.ofNat n ∧
      segments rest = segmented := by
  induction bytes generalizing p with
  | nil => simp [resume] at h
  | cons b bytes ih =>
    obtain ⟨bits, due, low, high⟩ := p
    rw [resume] at h
    split at h
    case isFalse => simp at h
    case isTrue haccepts =>
      cases due with
      | zero =>
        simp only [List.cons.injEq, Option.some.injEq] at h
        exact ⟨[b], bytes, _, rfl, .last haccepts rfl, h.1.symm, h.2⟩
      | succ due =>
        obtain ⟨ending, rest, n, rfl, hends, hc, hrest⟩ := ih h
        exact ⟨b :: ending, rest, n, rfl, .next haccepts hends, hc, hrest⟩

section Bytes

variable {b0 b1 b2 b3 : UInt8} {n : Nat}

theorem toNat_ofNat_of_valid (h : n.isValidChar) : (Char.ofNat n).val.toNat = n := by
  rw [Char.ofNat, dif_pos h]
  rfl

theorem ofNat_eq_of_toNat {b : UInt8} {m : Nat} (h : b.toNat = m) : UInt8.ofNat m = b := by
  subst h
  simp

theorem encodeChar_one (h0 : b0.toNat < 0x80) :
    String.utf8EncodeChar (Char.ofNat b0.toNat) = [b0] := by
  have hval := toNat_ofNat_of_valid (show b0.toNat.isValidChar by unfold Nat.isValidChar; omega)
  simp only [String.utf8EncodeChar, hval]
  rw [if_pos (by omega), ofNat_eq_of_toNat rfl]

theorem encodeChar_two (h0 : 0xC2 ≤ b0.toNat ∧ b0.toNat < 0xE0)
    (h1 : 0x80 ≤ b1.toNat ∧ b1.toNat ≤ 0xBF)
    (hn : n = (b0.toNat - 0xC0) * 64 + (b1.toNat - 0x80)) :
    String.utf8EncodeChar (Char.ofNat n) = [b0, b1] := by
  have hval := toNat_ofNat_of_valid (show n.isValidChar by unfold Nat.isValidChar; omega)
  have hfirst : b0.toNat = n / 64 % 32 + 192 := by omega
  have hsecond : b1.toNat = n % 64 + 128 := by omega
  simp only [String.utf8EncodeChar, hval]
  rw [if_neg (by omega), if_pos (by omega), ofNat_eq_of_toNat hfirst, ofNat_eq_of_toNat hsecond]

theorem encodeChar_three (h0 : 0xE0 ≤ b0.toNat ∧ b0.toNat < 0xF0)
    (h1 : 0x80 ≤ b1.toNat ∧ b1.toNat ≤ 0xBF) (h2 : 0x80 ≤ b2.toNat ∧ b2.toNat ≤ 0xBF)
    (hn : n = ((b0.toNat - 0xE0) * 64 + (b1.toNat - 0x80)) * 64 + (b2.toNat - 0x80))
    (hlong : 0x800 ≤ n) (hvalid : n.isValidChar) :
    String.utf8EncodeChar (Char.ofNat n) = [b0, b1, b2] := by
  have hval := toNat_ofNat_of_valid hvalid
  have hfirst : b0.toNat = n / 4096 % 16 + 224 := by omega
  have hsecond : b1.toNat = n / 64 % 64 + 128 := by omega
  have hthird : b2.toNat = n % 64 + 128 := by omega
  simp only [String.utf8EncodeChar, hval]
  rw [if_neg (by omega), if_neg (by omega), if_pos (by omega), ofNat_eq_of_toNat hfirst,
    ofNat_eq_of_toNat hsecond, ofNat_eq_of_toNat hthird]

theorem encodeChar_four (h0 : 0xF0 ≤ b0.toNat ∧ b0.toNat < 0xF8)
    (h1 : 0x80 ≤ b1.toNat ∧ b1.toNat ≤ 0xBF) (h2 : 0x80 ≤ b2.toNat ∧ b2.toNat ≤ 0xBF)
    (h3 : 0x80 ≤ b3.toNat ∧ b3.toNat ≤ 0xBF)
    (hn : n = (((b0.toNat - 0xF0) * 64 + (b1.toNat - 0x80)) * 64 + (b2.toNat - 0x80)) * 64 +
      (b3.toNat - 0x80))
    (hlong : 0x10000 ≤ n) (hvalid : n.isValidChar) :
    String.utf8EncodeChar (Char.ofNat n) = [b0, b1, b2, b3] := by
  have hval := toNat_ofNat_of_valid hvalid
  have hfirst : b0.toNat = n / 262144 % 8 + 240 := by omega
  have hsecond : b1.toNat = n / 4096 % 64 + 128 := by omega
  have hthird : b2.toNat = n / 64 % 64 + 128 := by omega
  have hfourth : b3.toNat = n % 64 + 128 := by omega
  simp only [String.utf8EncodeChar, hval]
  rw [if_neg (by omega), if_neg (by omega), if_neg (by omega), ofNat_eq_of_toNat hfirst,
    ofNat_eq_of_toNat hsecond, ofNat_eq_of_toNat hthird, ofNat_eq_of_toNat hfourth]

end Bytes

namespace Pending

variable {bits : Nat} {low high : UInt8} {ending : List UInt8} {n : Nat}

theorem ends_one_iff : Ends ⟨bits, 0, low, high⟩ ending n ↔
    ∃ b, ending = [b] ∧ (low.toNat ≤ b.toNat ∧ b.toNat ≤ high.toNat) ∧
      n = bits * 64 + (b.toNat - 0x80) := by
  constructor
  · intro h
    cases h with
    | last haccepts hn => exact ⟨_, rfl, (accepts_iff _ _).mp haccepts, hn⟩
  · rintro ⟨b, rfl, hb, hn⟩
    exact .last ((accepts_iff _ _).mpr hb) hn

theorem ends_more_iff {due : Nat} : Ends ⟨bits, due + 1, low, high⟩ ending n ↔
    ∃ b rest, ending = b :: rest ∧ (low.toNat ≤ b.toNat ∧ b.toNat ≤ high.toNat) ∧
      Ends ⟨bits * 64 + (b.toNat - 0x80), due, 0x80, 0xBF⟩ rest n := by
  constructor
  · intro h
    cases h with
    | next haccepts hends => exact ⟨_, _, rfl, (accepts_iff _ _).mp haccepts, hends⟩
  · rintro ⟨b, rest, rfl, hb, hends⟩
    exact .next ((accepts_iff _ _).mpr hb) hends

theorem ends_two_iff : Ends ⟨bits, 1, low, high⟩ ending n ↔
    ∃ b c, ending = [b, c] ∧ (low.toNat ≤ b.toNat ∧ b.toNat ≤ high.toNat) ∧
      (0x80 ≤ c.toNat ∧ c.toNat ≤ 0xBF) ∧
      n = (bits * 64 + (b.toNat - 0x80)) * 64 + (c.toNat - 0x80) := by
  rw [ends_more_iff]
  constructor
  · rintro ⟨b, rest, rfl, hb, hends⟩
    obtain ⟨c, rfl, hc, hn⟩ := ends_one_iff.mp hends
    exact ⟨b, c, rfl, hb, hc, hn⟩
  · rintro ⟨b, c, rfl, hb, hc, hn⟩
    exact ⟨b, [c], rfl, hb, ends_one_iff.mpr ⟨c, rfl, hc, hn⟩⟩

theorem ends_three_iff : Ends ⟨bits, 2, low, high⟩ ending n ↔
    ∃ b c d, ending = [b, c, d] ∧ (low.toNat ≤ b.toNat ∧ b.toNat ≤ high.toNat) ∧
      (0x80 ≤ c.toNat ∧ c.toNat ≤ 0xBF) ∧ (0x80 ≤ d.toNat ∧ d.toNat ≤ 0xBF) ∧
      n = ((bits * 64 + (b.toNat - 0x80)) * 64 + (c.toNat - 0x80)) * 64 + (d.toNat - 0x80) := by
  rw [ends_more_iff]
  constructor
  · rintro ⟨b, rest, rfl, hb, hends⟩
    obtain ⟨c, d, rfl, hc, hd, hn⟩ := ends_two_iff.mp hends
    exact ⟨b, c, d, rfl, hb, hc, hd, hn⟩
  · rintro ⟨b, c, d, rfl, hb, hc, hd, hn⟩
    exact ⟨b, [c, d], rfl, hb, ends_two_iff.mpr ⟨c, d, rfl, hc, hd, hn⟩⟩

end Pending

section Lead

variable {b : UInt8}

theorem lead_one (h : b.toNat < 0x80) : lead b = .whole (Char.ofNat b.toNat) := by
  simp only [lead]
  rw [if_pos h]

theorem lead_two (h : 0xC2 ≤ b.toNat ∧ b.toNat < 0xE0) :
    lead b = .pending ⟨b.toNat - 0xC0, 0, 0x80, 0xBF⟩ := by
  simp only [lead]
  rw [if_neg (by omega), if_neg (by omega), if_pos h.2]

-- The bounds of the second byte keep out what two bytes can write, and surrogates.
theorem lead_three (h : 0xE0 ≤ b.toNat ∧ b.toNat < 0xF0) :
    ∃ low high, lead b = .pending ⟨b.toNat - 0xE0, 1, low, high⟩ ∧
      ∀ m, low.toNat ≤ m ∧ m ≤ high.toNat ↔
        (0x80 ≤ m ∧ m ≤ 0xBF) ∧ (b.toNat = 0xE0 → 0xA0 ≤ m) ∧ (b.toNat = 0xED → m < 0xA0) := by
  simp only [lead]
  rw [if_neg (by omega), if_neg (by omega), if_neg (by omega)]
  by_cases hE0 : b.toNat = 0xE0
  · refine ⟨0xA0, 0xBF, by rw [if_pos hE0, hE0], fun m => ?_⟩
    simp only [UInt8.reduceToNat]
    omega
  · by_cases hED : b.toNat = 0xED
    · refine ⟨0x80, 0x9F, by rw [if_neg hE0, if_pos hED, hED], fun m => ?_⟩
      simp only [UInt8.reduceToNat]
      omega
    · refine ⟨0x80, 0xBF, by rw [if_neg hE0, if_neg hED, if_pos h.2], fun m => ?_⟩
      simp only [UInt8.reduceToNat]
      omega

-- They also keep out what three bytes can write, and numbers above all code points.
theorem lead_four (h : 0xF0 ≤ b.toNat ∧ b.toNat ≤ 0xF4) :
    ∃ low high, lead b = .pending ⟨b.toNat - 0xF0, 2, low, high⟩ ∧
      ∀ m, low.toNat ≤ m ∧ m ≤ high.toNat ↔
        (0x80 ≤ m ∧ m ≤ 0xBF) ∧ (b.toNat = 0xF0 → 0x90 ≤ m) ∧ (b.toNat = 0xF4 → m < 0x90) := by
  simp only [lead]
  rw [if_neg (by omega), if_neg (by omega), if_neg (by omega), if_neg (by omega),
    if_neg (by omega), if_neg (by omega)]
  by_cases hF0 : b.toNat = 0xF0
  · refine ⟨0x90, 0xBF, by rw [if_pos hF0, hF0], fun m => ?_⟩
    simp only [UInt8.reduceToNat]
    omega
  · by_cases hF4 : b.toNat = 0xF4
    · refine ⟨0x80, 0x8F, by rw [if_neg hF0, if_neg (by omega), if_pos hF4, hF4], fun m => ?_⟩
      simp only [UInt8.reduceToNat]
      omega
    · refine ⟨0x80, 0xBF, by rw [if_neg hF0, if_pos (by omega)], fun m => ?_⟩
      simp only [UInt8.reduceToNat]
      omega

theorem lead_illFormed (h : (0x80 ≤ b.toNat ∧ b.toNat < 0xC2) ∨ 0xF4 < b.toNat) :
    lead b = .illFormed := by
  simp only [lead]
  rcases h with h | h
  · rw [if_neg (by omega), if_pos h.2]
  · rw [if_neg (by omega), if_neg (by omega), if_neg (by omega), if_neg (by omega),
      if_neg (by omega), if_neg (by omega), if_neg (by omega), if_neg (by omega),
      if_neg (by omega)]

theorem lead_cases (b : UInt8) :
    (b.toNat < 0x80 ∧ lead b = .whole (Char.ofNat b.toNat)) ∨
      ((0xC2 ≤ b.toNat ∧ b.toNat ≤ 0xF4) ∧ ∃ p, lead b = .pending p) ∨ lead b = .illFormed := by
  by_cases hone : b.toNat < 0x80
  · exact .inl ⟨hone, lead_one hone⟩
  · by_cases hrange : 0xC2 ≤ b.toNat ∧ b.toNat ≤ 0xF4
    · refine .inr (.inl ⟨hrange, ?_⟩)
      by_cases htwo : b.toNat < 0xE0
      · exact ⟨_, lead_two ⟨hrange.1, htwo⟩⟩
      · by_cases hthree : b.toNat < 0xF0
        · obtain ⟨low, high, hlead, -⟩ := @lead_three b (by omega)
          exact ⟨_, hlead⟩
        · obtain ⟨low, high, hlead, -⟩ := @lead_four b (by omega)
          exact ⟨_, hlead⟩
    · exact .inr (.inr (lead_illFormed (by omega)))

theorem encodeChar_of_whole {c : Char} (h : lead b = .whole c) :
    String.utf8EncodeChar c = [b] := by
  rcases lead_cases b with ⟨hone, hlead⟩ | ⟨-, p, hlead⟩ | hlead
  · obtain rfl := Lead.whole.inj (hlead.symm.trans h)
    exact encodeChar_one hone
  · exact absurd (hlead.symm.trans h) (by simp)
  · exact absurd (hlead.symm.trans h) (by simp)

theorem range_of_lead {p : Pending} (h : lead b = .pending p) :
    0xC2 ≤ b.toNat ∧ b.toNat ≤ 0xF4 := by
  rcases lead_cases b with ⟨-, hlead⟩ | ⟨hrange, -⟩ | hlead
  · exact absurd (hlead.symm.trans h) (by simp)
  · exact hrange
  · exact absurd (hlead.symm.trans h) (by simp)

theorem encodeChar_of_ends {p : Pending} {ending : List UInt8} {n : Nat}
    (hlead : lead b = .pending p) (hends : p.Ends ending n) :
    String.utf8EncodeChar (Char.ofNat n) = b :: ending := by
  have hvalid : n < 0xD800 ∨ (0xDFFF < n ∧ n < 0x110000) → n.isValidChar := id
  obtain ⟨hfirst, hlast⟩ := range_of_lead hlead
  by_cases htwo : b.toNat < 0xE0
  · obtain rfl := Lead.pending.inj ((lead_two ⟨hfirst, htwo⟩).symm.trans hlead)
    obtain ⟨b1, rfl, h1, hn⟩ := Pending.ends_one_iff.mp hends
    exact encodeChar_two ⟨hfirst, htwo⟩ h1 hn
  · by_cases hthree : b.toNat < 0xF0
    · obtain ⟨low, high, hpending, hbounds⟩ := @lead_three b ⟨by omega, hthree⟩
      obtain rfl := Lead.pending.inj (hpending.symm.trans hlead)
      obtain ⟨b1, b2, rfl, h1, h2, hn⟩ := Pending.ends_two_iff.mp hends
      obtain ⟨h1, hlong, hgap⟩ := (hbounds b1.toNat).mp h1
      exact encodeChar_three ⟨by omega, hthree⟩ h1 h2 hn (by omega) (hvalid (by omega))
    · obtain ⟨low, high, hpending, hbounds⟩ := @lead_four b ⟨by omega, hlast⟩
      obtain rfl := Lead.pending.inj (hpending.symm.trans hlead)
      obtain ⟨b1, b2, b3, rfl, h1, h2, h3, hn⟩ := Pending.ends_three_iff.mp hends
      obtain ⟨h1, hlong, hbelow⟩ := (hbounds b1.toNat).mp h1
      exact encodeChar_four (by omega) h1 h2 h3 hn (by omega) (hvalid (by omega))

end Lead

theorem segments_of_ends {b : UInt8} {p : Pending} {ending : List UInt8} {n : Nat}
    (hlead : lead b = .pending p) (hends : p.Ends ending n) (rest : List UInt8) :
    segments (b :: ending ++ rest) = some (Char.ofNat n) :: segments rest := by
  rw [List.cons_append, segments, hlead]
  exact resume_of_ends hends rest

theorem toNat_ofNat {m : Nat} (h : m < 256) : (UInt8.ofNat m).toNat = m := by
  rw [UInt8.toNat_ofNat']
  exact Nat.mod_eq_of_lt h

theorem segments_encodeChar (c : Char) (rest : List UInt8) :
    segments (String.utf8EncodeChar c ++ rest) = some c :: segments rest := by
  have hvalid : c.val.toNat < 0xD800 ∨ (0xDFFF < c.val.toNat ∧ c.val.toNat < 0x110000) := c.valid
  have hc : Char.ofNat c.val.toNat = c := Char.ofNat_toNat c
  simp only [String.utf8EncodeChar]
  generalize c.val.toNat = n at hvalid hc ⊢
  subst hc
  have hlast := @toNat_ofNat (n % 64 + 128) (by omega)
  split_ifs with hone htwo hthree
  · have hb := @toNat_ofNat n (by omega)
    rw [List.cons_append, segments, lead_one (by omega), hb]
    rfl
  · have hb := @toNat_ofNat (n / 64 % 32 + 192) (by omega)
    refine segments_of_ends (lead_two (by omega)) (Pending.ends_one_iff.mpr ?_) rest
    refine ⟨_, rfl, ?_, ?_⟩
    · simp only [UInt8.reduceToNat]
      omega
    · omega
  · have hb := @toNat_ofNat (n / 4096 % 16 + 224) (by omega)
    have hb1 := @toNat_ofNat (n / 64 % 64 + 128) (by omega)
    obtain ⟨low, high, hlead, hbounds⟩ := @lead_three (UInt8.ofNat (n / 4096 % 16 + 224)) (by omega)
    refine segments_of_ends hlead (Pending.ends_two_iff.mpr ?_) rest
    exact ⟨_, _, rfl, (hbounds _).mpr (by omega), by omega, by omega⟩
  · have hb := @toNat_ofNat (n / 262144 % 8 + 240) (by omega)
    have hb1 := @toNat_ofNat (n / 4096 % 64 + 128) (by omega)
    have hb2 := @toNat_ofNat (n / 64 % 64 + 128) (by omega)
    obtain ⟨low, high, hlead, hbounds⟩ := @lead_four (UInt8.ofNat (n / 262144 % 8 + 240)) (by omega)
    refine segments_of_ends hlead (Pending.ends_three_iff.mpr ?_) rest
    exact ⟨_, _, _, rfl, (hbounds _).mpr (by omega), by omega, by omega, by omega⟩

theorem segments_encode (text : List Char) : segments (encode text) = text.map some := by
  induction text with
  | nil => simp [encode, segments]
  | cons c text ih => rw [encode, List.flatMap_cons, segments_encodeChar, ← encode, ih]; rfl

theorem resume_ne_nil (p : Pending) (bytes : List UInt8) : resume p bytes ≠ [] := by
  induction bytes generalizing p with
  | nil => simp [resume]
  | cons b rest ih =>
    rw [resume]
    split
    · split
      · simp
      · exact ih _
    · simp

theorem segments_cons_ne_nil (b : UInt8) (rest : List UInt8) : segments (b :: rest) ≠ [] := by
  rw [segments]
  cases lead b with
  | whole c => simp
  | pending p => exact resume_ne_nil p rest
  | illFormed => simp

theorem eq_encode_of_segments {bytes : List UInt8} {text : List Char}
    (h : segments bytes = text.map some) : bytes = encode text := by
  induction text generalizing bytes with
  | nil =>
    cases bytes with
    | nil => rfl
    | cons b rest => exact absurd h (segments_cons_ne_nil b rest)
  | cons c text ih =>
    cases bytes with
    | nil => simp [segments] at h
    | cons b rest =>
      rw [segments] at h
      cases hlead : lead b with
      | whole first =>
        simp only [hlead, List.map_cons, List.cons.injEq, Option.some.injEq] at h
        obtain ⟨rfl, hrest⟩ := h
        rw [encode, List.flatMap_cons, encodeChar_of_whole hlead, ← encode, ← ih hrest]
        rfl
      | pending p =>
        rw [hlead, List.map_cons] at h
        obtain ⟨ending, rest, n, rfl, hends, rfl, hrest⟩ := exists_ends_of_resume h
        rw [encode, List.flatMap_cons, encodeChar_of_ends hlead hends, ← encode, ← ih hrest]
        rfl
      | illFormed => simp [hlead] at h

theorem mapM_id_eq_some_iff {α : Type} {list : List (Option α)} {values : List α} :
    list.mapM id = some values ↔ list = values.map some := by
  induction list generalizing values with
  | nil => cases values <;> simp
  | cons a list ih => cases values <;> simp [List.mapM_cons, Option.bind_eq_some_iff, ih]

theorem decode?_eq_some_iff {bytes : List UInt8} {text : List Char} :
    decode? bytes = some text ↔ bytes = encode text := by
  rw [decode?, mapM_id_eq_some_iff]
  constructor
  · exact eq_encode_of_segments
  · rintro rfl
    exact segments_encode text

end Lanewise.Text.Utf8
