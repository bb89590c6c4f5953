import Lanewise.Proofs.Packer.Reference
import Lanewise.Proofs.Stream.Blocks

namespace Lanewise

-- The blocks of a string of narrow units by positions: the reference pack of each full group,
-- then that of the first four units of a tail that has as many, then a word with the first unit of
-- the tail in its highest byte, the middle one in byte 4 and the last one in byte 0.
def referenceBlocks (units : List UInt16) : List Outcome :=
  (List.range (units.length / 8)).map
      (fun i => Packer.packNarrow ((units.drop (8 * i)).take 8)) ++
    (if 4 ≤ units.length % 8 then
      [Packer.packNarrow ((units.drop (8 * (units.length / 8))).take 4)]
    else []) ++
    (if h : 1 ≤ units.length % 8 then
      [.ok (Word.ofBytes
        [units[8 * (units.length / 8) + units.length % 8 - 1].toUInt8, 0, 0, 0,
          units[8 * (units.length / 8) + units.length % 8 / 2].toUInt8, 0, 0,
          units[8 * (units.length / 8)].toUInt8])]
    else [])

theorem packNarrow_slice {units : List UInt16} (hnarrow : ∀ unit ∈ units, unit ≤ 0xFF)
    (start : Nat) {count : Nat} (hcount : count ≤ 8) :
    Packer.packNarrow ((units.drop start).take count) =
      .ok (Word.ofBytes (((units.map UInt16.toUInt8).drop start).take count)) := by
  have hfits : ((units.drop start).take count).length ≤ 8 :=
    (List.length_take_le count _).trans hcount
  rw [Packer.packNarrow_of_narrow hfits fun unit hunit =>
    hnarrow unit (List.mem_of_mem_drop (List.mem_of_mem_take hunit)), List.map_take, List.map_drop]

theorem map_byteWord_windows {units : List UInt16} (hnarrow : ∀ unit ∈ units, unit ≤ 0xFF) :
    ((windows (units.map UInt16.toUInt8)).map Window.byteWord).map Except.ok =
      referenceBlocks units := by
  have hrest : units.length - 8 * (units.length / 8) = units.length % 8 := by omega
  simp only [windows, tailWindows, referenceBlocks, List.length_map, List.length_drop, hrest,
    List.map_append, List.map_map, List.append_assoc]
  congr 1
  · apply List.map_congr_left
    intro i _
    rw [packNarrow_slice hnarrow _ (Nat.le_refl 8)]
    simp [Window.byteWord, Window.word]
  congr 1
  · split
    case isTrue =>
      rw [packNarrow_slice hnarrow _ (by decide)]
      simp [Window.byteWord, Window.word]
    case isFalse => rfl
  · by_cases hpos : 0 < units.length % 8
    · have hlast : 8 * (units.length / 8) + (units.length % 8 - 1) =
          8 * (units.length / 8) + units.length % 8 - 1 := by omega
      simp [hpos, Nat.succ_le_of_lt hpos, Window.byteWord, Window.word, hrest, hlast,
        ← Packer.sampleWord_bytes, -UInt16.toUInt64_toUInt8]
    · have hnone : units.length % 8 = 0 := Nat.eq_zero_of_not_pos hpos
      simp [hnone]

-- The blocks of narrow units are given in every build, by every packer and for both widths, and
-- they are those of the closed form. The count that a fresh place announces is theirs.
theorem blocks_eq_referenceBlocks (build : Build) (packer : Packer) {units : List UInt16}
    (hnarrow : ∀ unit ∈ units, unit ≤ 0xFF) :
    let bytes := units.map UInt16.toUInt8
    ∃ words : List UInt64,
      blocks build packer units = .ok words ∧ blocks build packer bytes = .ok words ∧
        words.map Except.ok = referenceBlocks units ∧
        words.length = units.length / 8 + (if 1 ≤ units.length % 8 then 1 else 0) +
          (if 4 ≤ units.length % 8 then 1 else 0) ∧
        (Cursor.ofUnits packer units).remaining = words.length ∧
        (Cursor.ofUnits packer bytes).remaining = words.length := by
  intro bytes
  have hwide : bytes.map UInt8.toUInt16 = units := Packer.map_toUInt16_map_toUInt8 hnarrow
  have hlength : (windows bytes).length = (windows units).length := by
    rw [windows_map, List.length_map]
  refine ⟨(windows bytes).map Window.byteWord, ?_, blocks_bytes build packer bytes,
    map_byteWord_windows hnarrow, ?_, ?_, ?_⟩
  · rw [← blocks_map_toUInt16 build packer bytes, hwide]
  · rw [List.length_map, hlength, length_windows]
    exact Nat.add_right_comm _ _ _
  · rw [Cursor.remaining_ofUnits, List.length_map, hlength]
  · rw [Cursor.remaining_ofUnits, List.length_map]

theorem blocks_eq_at_fifteen_units :
    (∀ unit ∈ ([1, 2, 3, 4, 5, 6, 7, 8, 9, 10, 11, 12, 13, 14, 0xFF] : List UInt16),
        unit ≤ 0xFF) ∧
      blocks (U := UInt16) .checked .altiVec
          [1, 2, 3, 4, 5, 6, 7, 8, 9, 10, 11, 12, 13, 14, 0xFF] =
        .ok [0x0807060504030201, 0x0C0B0A09, 0x0900000C000000FF] := by
  have hnarrow : ∀ unit ∈ ([1, 2, 3, 4, 5, 6, 7, 8, 9, 10, 11, 12, 13, 14, 0xFF] : List UInt16),
      unit ≤ 0xFF := by simp
  obtain ⟨words, hblocks, -, hwords, -⟩ := blocks_eq_referenceBlocks .checked .altiVec hnarrow
  have hvalue :
      referenceBlocks [1, 2, 3, 4, 5, 6, 7, 8, 9, 10, 11, 12, 13, 14, 0xFF] =
        [.ok 0x0807060504030201, .ok 0x0C0B0A09, .ok 0x0900000C000000FF] := rfl
  have hinj : Function.Injective (List.map (Except.ok : UInt64 → Outcome)) :=
    List.map_injective_iff.mpr fun _ _ => Except.ok.inj
  have hlist : words = [0x0807060504030201, 0x0C0B0A09, 0x0900000C000000FF] :=
    hinj (hwords.trans hvalue)
  rw [hblocks, hlist]
  exact ⟨hnarrow, rfl⟩

end Lanewise
