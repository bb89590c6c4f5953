import Lanewise.Proofs.Hash.Width

namespace Lanewise

theorem Packer.sampleWord_bytes_inj (first middle last first' middle' last' : UInt8) :
    sampleWord first.toUInt64 middle.toUInt64 last.toUInt64 =
        sampleWord first'.toUInt64 middle'.toUInt64 last'.toUInt64 ↔
      first = first' ∧ middle = middle' ∧ last = last' := by
  have hinj := @Word.ofBytes_inj [last, 0, 0, 0, middle, 0, 0, first]
    [last', 0, 0, 0, middle', 0, 0, first'] rfl (Nat.le_refl 8)
  rw [sampleWord_bytes, sampleWord_bytes, hinj]
  simp only [List.cons.injEq, and_true, true_and]
  constructor
  · rintro ⟨hlast, hmiddle, hfirst⟩
    exact ⟨hfirst, hmiddle, hlast⟩
  · rintro ⟨hfirst, hmiddle, hlast⟩
    exact ⟨hlast, hmiddle, hfirst⟩

theorem Window.byteWord_map_eq_iff {n : Nat} (f g : Fin n → UInt8) (window : Window (Fin n)) :
    (window.map f).byteWord = (window.map g).byteWord ↔
      window.looked.map f = window.looked.map g := by
  cases window with
  | packed positions fits =>
    simp only [map, byteWord, word, List.map_id, looked_packed]
    exact Word.ofBytes_inj (by simp) (by simpa using fits)
  | sampled positions nonempty =>
    simp only [map, byteWord, word, Packer.sampleWord_bytes_inj]
    simp [looked]

-- Strings of one length have the same blocks where they agree off the unsampled positions, and
-- only there.
theorem map_byteWord_windows_eq_iff {s t : List UInt8} (hlength : s.length = t.length) :
    (windows s).map Window.byteWord = (windows t).map Window.byteWord ↔
      ∀ i, ¬ Unsampled s.length i → s[i]? = t[i]? := by
  rw [windows_eq_map_finRange s rfl, windows_eq_map_finRange t hlength.symm, List.map_map,
    List.map_map, List.map_inj_left]
  simp only [Function.comp_apply, Window.byteWord_map_eq_iff]
  rw [looked_map_eq_iff]
  constructor
  · intro h i hshown
    by_cases hi : i < s.length
    · have := h ⟨i, hi⟩ hshown
      simpa [hi, hlength ▸ hi] using this
    · rw [List.getElem?_eq_none (by omega), List.getElem?_eq_none (by omega)]
  · intro h i hshown
    have hi : i.val < t.length := by omega
    simpa [hi] using h i hshown

namespace Hash

def Units.values : Units → List UInt16
  | .bytes units => units.map UInt8.toUInt16
  | .words units => units

-- Whether all units fit in a byte, as bytes always do.
def Units.Narrow : Units → Prop
  | .bytes _ => True
  | .words units => ∀ unit ∈ units, unit ≤ 0xFF

-- Whether two strings have the same length and differ at unsampled positions at most.
def Units.SampledAlike (a b : Units) : Prop :=
  a.length = b.length ∧ ∀ i, ¬ Unsampled a.length i → a.values[i]? = b.values[i]?

def Units.text : Units → List UInt8
  | .bytes units => units
  | .words units => units.map UInt16.toUInt8

theorem Units.length_text (a : Units) : a.text.length = a.length := by
  cases a <;> simp [text, length]

theorem Units.values_of_narrow {a : Units} (h : a.Narrow) :
    a.values = a.text.map UInt8.toUInt16 := by
  cases a with
  | bytes units => rfl
  | words units => exact (Packer.map_toUInt16_map_toUInt8 h).symm

theorem Hasher.frame_of_narrow (hasher : Hasher) (build : Build) {a : Units} (h : a.Narrow) :
    hasher.frame build a = .ok (.ofText hasher.seed hasher.secret a.text) := by
  cases a with
  | bytes units => exact hasher.frame_bytes build units
  | words units =>
    have hframe := hasher.frame_widen build (units.map UInt16.toUInt8)
    rwa [Units.widen, Packer.map_toUInt16_map_toUInt8 h] at hframe

theorem Units.sampledAlike_iff_text {a b : Units} (ha : a.Narrow) (hb : b.Narrow) :
    a.SampledAlike b ↔ a.text.length = b.text.length ∧
      ∀ i, ¬ Unsampled a.text.length i → a.text[i]? = b.text[i]? := by
  have hinj : Function.Injective (Option.map UInt8.toUInt16) :=
    Option.map_injective fun x y h => UInt8.toUInt16_inj.mp h
  simp only [SampledAlike, values_of_narrow ha, values_of_narrow hb, List.getElem?_map,
    hinj.eq_iff, length_text]

-- The count of blocks bounds the length so closely that the length modulo the size of a word is
-- enough to tell it.
theorem length_eq_of_length_windows {s t : List UInt8}
    (hcount : (windows s).length = (windows t).length)
    (hword : s.length.toUInt64 = t.length.toUInt64) : s.length = t.length := by
  have hmod : s.length % 2 ^ 64 = t.length % 2 ^ 64 := by
    simpa using congrArg UInt64.toNat hword
  rw [length_windows, length_windows] at hcount
  split_ifs at hcount <;> omega

theorem Framed.words_ofText_eq_iff (seed seed' : UInt64) (secret secret' : Secret)
    (s t : List UInt8) :
    (ofText seed secret s).words = (ofText seed' secret' t).words ↔
      secret = secret' ∧ s.length = t.length ∧ ∀ i, ¬ Unsampled s.length i → s[i]? = t[i]? := by
  simp only [words, ofText]
  constructor
  · intro h
    obtain ⟨hfront, hlast⟩ := List.append_inj' h rfl
    obtain ⟨hsecret, hblocks⟩ := List.append_inj hfront rfl
    have hcount := congrArg List.length hblocks
    rw [List.length_map, List.length_map] at hcount
    have hlength := length_eq_of_length_windows hcount (List.singleton_inj.mp hlast)
    refine ⟨?_, hlength, (map_byteWord_windows_eq_iff hlength).mp hblocks⟩
    cases secret
    cases secret'
    simpa [Secret.words] using hsecret
  · rintro ⟨rfl, hlength, hunits⟩
    rw [(map_byteWord_windows_eq_iff hlength).mpr hunits, hlength]

end Hash

end Lanewise
