import Lanewise.Proofs.Cursor.Outcomes
import Lanewise.Proofs.Packer.Narrowing
import Lanewise.Proofs.Packer.Sample
import Lanewise.Proofs.Stream.Window

namespace Lanewise

section Units

variable {U : Type}

theorem fullGroups_of_short {units : List U} (h : units.length < 8) : fullGroups units = [] := by
  unfold fullGroups
  split
  · simp only [List.length_cons] at h
    omega
  · rfl

theorem tailUnits_of_short {units : List U} (h : units.length < 8) : tailUnits units = units := by
  unfold tailUnits
  split
  · simp only [List.length_cons] at h
    omega
  · rfl

theorem fullGroups_append (group : Vector U 8) (rest : List U) :
    fullGroups (group.toList ++ rest) = group :: fullGroups rest := by
  obtain ⟨⟨units⟩, hunits⟩ := group
  match units, hunits with
  | [a, b, c, d, e, f, g, h], _ => rfl

theorem tailUnits_append (group : Vector U 8) (rest : List U) :
    tailUnits (group.toList ++ rest) = tailUnits rest := by
  obtain ⟨⟨units⟩, hunits⟩ := group
  match units, hunits with
  | [a, b, c, d, e, f, g, h], _ => rfl

theorem length_fullGroups (units : List U) : (fullGroups units).length = units.length / 8 := by
  induction units using group_induction with
  | short units hshort => rw [fullGroups_of_short hshort, Nat.div_eq_of_lt hshort, List.length_nil]
  | group head rest ih =>
    rw [fullGroups_append, List.length_cons, ih, List.length_append, Vector.length_toList]
    omega

theorem length_tailUnits (units : List U) : (tailUnits units).length = units.length % 8 := by
  induction units using group_induction with
  | short units hshort => rw [tailUnits_of_short hshort, Nat.mod_eq_of_lt hshort]
  | group head rest ih =>
    rw [tailUnits_append, ih, List.length_append, Vector.length_toList, Nat.add_mod_left]

theorem toList_tailHead? (tail : List U) :
    (Cursor.tailHead? tail).map Vector.toList =
      if 4 ≤ tail.length then some (tail.take 4) else none := by
  match tail with
  | [] | [_] | [_, _] | [_, _, _] => rfl
  | a :: b :: c :: d :: rest => simp [Cursor.tailHead?]

end Units

namespace Cursor

-- A fresh place counts one block for each window, whatever its units are.
theorem remaining_ofUnits {U : Type} (packer : Packer) (units : List U) :
    (ofUnits packer units).remaining = (windows units).length := by
  simp only [remaining, tailBlocks, ofUnits, length_windows, length_fullGroups, length_tailUnits,
    List.isEmpty_iff_length_eq_zero, Bool.or_false, decide_eq_true_eq]
  split_ifs <;> omega

variable {U : Type} [CodeUnit U]

-- Where the loads of a width are one function of windows, the stream of a string is that
-- function of its windows.
theorem outcomes_ofUnits_eq {build : Build} {packer : Packer} {load : Window U → Outcome}
    (hgroup : ∀ group : Vector U 8,
      CodeUnit.loadGroup build packer group = load (.packed group.toList (by simp)))
    (hhead : ∀ head : Vector U 4,
      CodeUnit.loadHead build packer head = load (.packed head.toList (by simp)))
    (htail : ∀ (tail : List U) (hpos : 0 < tail.length), tail.length < 8 →
      CodeUnit.loadTail build tail = load (.sampled tail hpos))
    (units : List U) : (ofUnits packer units).outcomes build = (windows units).map load := by
  induction units using group_induction with
  | short units hshort =>
    rw [windows_of_short hshort]
    simp only [outcomes, ofUnits, fullGroups_of_short hshort, tailOutcomes,
      tailUnits_of_short hshort, tailWindows]
    have hprefix := toList_tailHead? units
    by_cases hpos : 0 < units.length
    · have hempty : units.isEmpty = false := by
        simpa using List.ne_nil_of_length_pos hpos
      cases hcase : tailHead? units with
      | none =>
        have hfew : ¬ 4 ≤ units.length := by
          intro hfour
          simp [hcase, hfour] at hprefix
        simp [hempty, hpos, hfew, htail units hpos hshort]
      | some head =>
        have hfour : 4 ≤ units.length := tailHead?_isSome_iff.mp (by rw [hcase]; rfl)
        have htake : head.toList = units.take 4 := by simpa [hcase, hfour] using hprefix
        simp [hempty, hpos, hfour, htail units hpos hshort, hhead, htake]
    · have hnil : units = [] := List.eq_nil_of_length_eq_zero (by omega)
      simp [hnil]
  | group head rest ih =>
    rw [windows_append (by simp), List.map_cons, ← ih, ← hgroup]
    simp only [outcomes, ofUnits, fullGroups_append, tailOutcomes, tailUnits_append]
    rfl

end Cursor

namespace Window

def byteWord (window : Window UInt8) : UInt64 :=
  window.word id UInt8.toUInt64

def unitWord (packer : Packer) (window : Window UInt16) : UInt64 :=
  window.word packer.narrow UInt16.toUInt64

def showsWide (window : Window UInt16) : Bool :=
  window.looked.any Packer.isWide

-- What a checked build reports when the block shows a unit that does not fit in a byte.
def fault : Window UInt16 → Fault
  | packed units _ => .wideUnits units
  | sampled tail _ => .wideSample tail

def load (build : Build) (packer : Packer) (window : Window UInt16) : Outcome :=
  if build.checks && window.showsWide then .error window.fault else .ok (window.unitWord packer)

-- Units that fit in a byte are loaded alike by all packers in all builds.
theorem load_map_toUInt16 (build : Build) (packer : Packer) (window : Window UInt8) :
    (window.map UInt8.toUInt16).load build packer = .ok window.byteWord := by
  have hnarrow : packer.narrow ∘ UInt8.toUInt16 = id := funext packer.narrow_toUInt16
  have hwiden : UInt16.toUInt64 ∘ UInt8.toUInt16 = UInt8.toUInt64 := by
    funext b
    simp
  have hfits : (window.map UInt8.toUInt16).showsWide = false := by
    rw [showsWide, looked_map, List.any_map, List.any_eq_false]
    intro b _
    have hb : b.toNat < 256 := b.toNat_lt
    simp only [Function.comp_apply, Packer.isWide, decide_eq_true_eq, UInt16.lt_iff_toNat_lt,
      UInt8.toNat_toUInt16, UInt16.reduceToNat]
    omega
  simp [load, hfits, unitWord, byteWord, word_map, hnarrow, hwiden]

end Window

theorem Packer.tryPack8_eq_load (build : Build) (packer : Packer) (group : Vector UInt16 8) :
    tryPack8 build packer group = (Window.packed group.toList (by simp)).load build packer := by
  simp only [tryPack8, guardUnits, Window.load, Window.showsWide, Window.looked_packed,
    Window.fault, Window.unitWord, Window.word, ← pack8_eq]
  split <;> rfl

theorem Packer.tryPack4_eq_load (build : Build) (packer : Packer) (head : Vector UInt16 4) :
    tryPack4 build packer head = (Window.packed head.toList (by simp)).load build packer := by
  simp only [tryPack4, guardUnits, Window.load, Window.showsWide, Window.looked_packed,
    Window.fault, Window.unitWord, Window.word, ← pack4_eq]
  split <;> rfl

theorem outcomes_ofUnits_bytes (build : Build) (packer : Packer) (units : List UInt8) :
    (Cursor.ofUnits packer units).outcomes build =
      (windows units).map fun window => .ok window.byteWord := by
  apply Cursor.outcomes_ofUnits_eq
  · intro group
    simp [CodeUnit.loadGroup, Window.byteWord, Window.word]
  · intro head
    simp [CodeUnit.loadHead, Window.byteWord, Window.word]
  · intro tail hpos hshort
    have hlength := Packer.toNat_length_of_short hshort
    simp only [CodeUnit.loadTail, Window.byteWord, Window.word]
    rw [Packer.sample_of_le _ (by omega) (by omega)]
    simp only [hlength]

theorem outcomes_ofUnits_words (build : Build) (packer : Packer) (units : List UInt16) :
    (Cursor.ofUnits packer units).outcomes build =
      (windows units).map (Window.load build packer) := by
  apply Cursor.outcomes_ofUnits_eq
  · exact packer.tryPack8_eq_load build
  · exact packer.tryPack4_eq_load build
  · intro tail hpos hshort
    exact Packer.trySample_of_short hpos hshort build

theorem outcomes_ofUnits_map_toUInt16 (build : Build) (packer : Packer) (units : List UInt8) :
    (Cursor.ofUnits packer (units.map UInt8.toUInt16)).outcomes build =
      (windows units).map fun window => .ok window.byteWord := by
  rw [outcomes_ofUnits_words, windows_map, List.map_map]
  congr 1
  funext window
  exact window.load_map_toUInt16 build packer

theorem Outcome.collect_map_ok {α : Type} (word : α → UInt64) (list : List α) :
    collect (list.map fun a => .ok (word a)) = .ok (list.map word) := by
  induction list with
  | nil => rfl
  | cons a list ih => simp [ih, Except.map]

theorem blocks_bytes (build : Build) (packer : Packer) (units : List UInt8) :
    blocks build packer units = .ok ((windows units).map Window.byteWord) := by
  rw [blocks, Cursor.words_eq, outcomes_ofUnits_bytes, Outcome.collect_map_ok]

theorem blocks_map_toUInt16 (build : Build) (packer : Packer) (units : List UInt8) :
    blocks build packer (units.map UInt8.toUInt16) =
      .ok ((windows units).map Window.byteWord) := by
  rw [blocks, Cursor.words_eq, outcomes_ofUnits_map_toUInt16, Outcome.collect_map_ok]

end Lanewise
