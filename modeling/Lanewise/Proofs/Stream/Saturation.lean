import Lanewise.Proofs.Hash.Faults

namespace Lanewise

-- The units for which saturation gives the low byte.
def KeepsLowByte (unit : UInt16) : Prop :=
  unit ≤ 0xFF ∨ (0x100 ≤ unit ∧ unit ≤ 0x7FFF ∧ unit % 256 = 0xFF) ∨
    (0x8000 ≤ unit ∧ unit % 256 = 0)

instance (unit : UInt16) : Decidable (KeepsLowByte unit) :=
  inferInstanceAs (Decidable (_ ∨ _))

theorem Mmx.saturate_eq_toUInt8_iff (unit : UInt16) :
    saturate unit = unit.toUInt8 ↔ KeepsLowByte unit := by
  have hunit : unit.toNat < 65536 := unit.toNat_lt
  have hlow : unit.toUInt8.toNat = unit.toNat % 256 := UInt16.toNat_toUInt8 unit
  simp only [KeepsLowByte, ← UInt16.toNat_inj, UInt16.le_iff_toNat_le, UInt16.toNat_mod,
    UInt16.reduceToNat]
  rw [← UInt8.toNat_inj, hlow, saturate]
  simp only [UInt16.le_iff_toNat_le, UInt16.lt_iff_toNat_lt, UInt16.reduceToNat]
  by_cases hsign : 32768 ≤ unit.toNat
  · rw [if_pos hsign]
    simp only [UInt8.toNat_zero]
    omega
  · rw [if_neg hsign]
    by_cases hwide : 255 < unit.toNat
    · rw [if_pos hwide]
      simp only [UInt8.reduceToNat]
      omega
    · rw [if_neg hwide, hlow]
      omega

theorem Packer.narrow_eq_iff (facility other : Facility) (unit : UInt16) :
    (ofFacility facility).narrow unit = (ofFacility other).narrow unit ↔
      facility.saturates = other.saturates ∨ KeepsLowByte unit := by
  rw [narrow_ofFacility, narrow_ofFacility, ← Mmx.saturate_eq_toUInt8_iff]
  cases facility.saturates <;> cases other.saturates <;> simp [eq_comm]

namespace Window

variable {U : Type}

def packedUnits : Window U → List U
  | packed units _ => units
  | sampled _ _ => []

theorem unitWord_eq_iff (packer other : Packer) (window : Window UInt16) :
    window.unitWord packer = window.unitWord other ↔
      ∀ unit ∈ window.packedUnits, packer.narrow unit = other.narrow unit := by
  cases window with
  | packed units fits =>
    have hinj := @Word.ofBytes_inj (units.map packer.narrow) (units.map other.narrow) (by simp)
      (by simpa using fits)
    rw [unitWord, unitWord, word, word, hinj, List.map_inj_left, packedUnits]
  | sampled tail nonempty => simp [unitWord, word, packedUnits]

end Window

-- Whether the unit at a position is packed: it belongs to a full group, or to the four units in
-- front of a long tail.
def Packed (length position : Nat) : Prop :=
  position < 8 * (length / 8) ∨ (4 ≤ length % 8 ∧ position < 8 * (length / 8) + 4)

instance (length position : Nat) : Decidable (Packed length position) :=
  inferInstanceAs (Decidable (_ ∨ _))

def packedLength (length : Nat) : Nat :=
  8 * (length / 8) + if 4 ≤ length % 8 then 4 else 0

theorem packed_iff {length position : Nat} :
    Packed length position ↔ position < packedLength length := by
  unfold Packed packedLength
  split <;> omega

section Units

variable {U : Type}

theorem flatMap_packedUnits (units : List U) :
    (windows units).flatMap Window.packedUnits = units.take (packedLength units.length) := by
  induction units using group_induction with
  | short units hshort =>
    have hlength : packedLength units.length = if 4 ≤ units.length then 4 else 0 := by
      rw [packedLength, Nat.mod_eq_of_lt hshort, Nat.div_eq_of_lt hshort, Nat.mul_zero,
        Nat.zero_add]
    have hsample : (if h : 0 < units.length then [Window.sampled units h] else []).flatMap
        Window.packedUnits = [] := by
      split <;> rfl
    rw [windows_of_short hshort, tailWindows, List.flatMap_append, hsample, List.append_nil,
      hlength]
    by_cases hfour : 4 ≤ units.length
    · simp [hfour, Window.packedUnits]
    · simp [hfour]
  | group head rest ih =>
    have hlength : packedLength (head.toList ++ rest).length =
        head.toList.length + packedLength rest.length := by
      simp only [packedLength, List.length_append, Vector.length_toList, Nat.add_mod_left]
      omega
    rw [windows_append (by simp), List.flatMap_cons, ih, hlength, List.take_length_add_append]
    rfl

theorem forall_packedUnits_iff (units : List U) (p : U → Prop) :
    (∀ window ∈ windows units, ∀ unit ∈ window.packedUnits, p unit) ↔
      ∀ i : Fin units.length, Packed units.length i → p (units.get i) := by
  have hflat : (∀ window ∈ windows units, ∀ unit ∈ window.packedUnits, p unit) ↔
      ∀ unit ∈ units.take (packedLength units.length), p unit := by
    rw [← flatMap_packedUnits]
    simp only [List.mem_flatMap, forall_exists_index, and_imp]
    exact ⟨fun h unit window hwindow hunit => h window hwindow unit hunit,
      fun h window hwindow unit hunit => h unit window hwindow hunit⟩
  rw [hflat]
  simp only [packed_iff]
  constructor
  · intro h i hi
    exact h _ (List.mem_take_iff_getElem.mpr ⟨i, by omega, rfl⟩)
  · intro h unit hunit
    obtain ⟨i, hi, rfl⟩ := List.mem_take_iff_getElem.mp hunit
    have hbound := Nat.lt_min.mp hi
    exact h ⟨i, hbound.2⟩ hbound.1

end Units

-- The last block of a string with a tail, whatever packs the blocks in front of it.
def sampleBlock? (units : List UInt16) : Option UInt64 :=
  let tail := units.drop (8 * (units.length / 8))
  if h : 0 < tail.length then
    some (Packer.sampleWord tail[0].toUInt64 tail[tail.length / 2].toUInt64
      tail[tail.length - 1].toUInt64)
  else none

theorem exists_map_unitWord_eq (packer : Packer) (units : List UInt16) :
    ∃ packed : List UInt64,
      packed.length = units.length / 8 + (if 4 ≤ units.length % 8 then 1 else 0) ∧
        (windows units).map (Window.unitWord packer) = packed ++ (sampleBlock? units).toList := by
  have hrest : units.length - 8 * (units.length / 8) = units.length % 8 := by omega
  simp only [windows, tailWindows, ← List.append_assoc]
  rw [List.map_append]
  refine ⟨_, ?_, congrArg _ ?_⟩
  · simp only [List.length_map, List.length_append, List.length_range, List.length_drop, hrest]
    split <;> rfl
  · unfold sampleBlock?
    by_cases hpos : 0 < (units.drop (8 * (units.length / 8))).length
    · simp only [hpos, ↓reduceDIte]
      rfl
    · simp only [hpos, ↓reduceDIte]
      rfl

theorem blocks_of_unchecked {build : Build} (hbuild : build.checks = false) (packer : Packer)
    (units : List UInt16) :
    blocks build packer units = .ok ((windows units).map (Window.unitWord packer)) := by
  have hnone : firstFault? build units = none := by
    simp [firstFault?, hbuild]
  rw [blocks_words, hnone]
  rfl

-- Without checks, packers of two facilities make the same blocks of a string exactly if both or
-- neither saturate, or if saturation gives the low byte of every packed unit. Units that do not fit
-- in a byte do no harm elsewhere: the sampled block is the same for all.
theorem blocks_eq_blocks_iff {build : Build} (hbuild : build.checks = false)
    (units : List UInt16) :
    let stream facility := blocks build (Packer.ofFacility facility) units
    (∀ facility other, stream facility = stream other ↔
        facility.saturates = other.saturates ∨
          ∀ i : Fin units.length, Packed units.length i → KeepsLowByte (units.get i)) ∧
      ∀ facility, ∃ packed : List UInt64,
        packed.length = units.length / 8 + (if 4 ≤ units.length % 8 then 1 else 0) ∧
          stream facility = .ok (packed ++ (sampleBlock? units).toList) := by
  intro stream
  have hstream (facility : Facility) : stream facility =
      .ok ((windows units).map (Window.unitWord (.ofFacility facility))) :=
    blocks_of_unchecked hbuild _ units
  constructor
  · intro facility other
    rw [hstream, hstream, Except.ok.injEq, List.map_inj_left]
    simp only [Window.unitWord_eq_iff]
    rw [forall_packedUnits_iff]
    simp only [Packer.narrow_eq_iff]
    by_cases hsame : facility.saturates = other.saturates
    · simp [hsame]
    · simp [hsame]
  · intro facility
    obtain ⟨packed, hlength, hwords⟩ := exists_map_unitWord_eq (.ofFacility facility) units
    exact ⟨packed, hlength, by rw [hstream, hwords]⟩

theorem blocks_eq_blocks_at_wide_units :
    let kept : List UInt16 := [0x1FF, 0x8100, 0x41, 0x41, 0x1234, 0x1234]
    let lost : List UInt16 := [0x1FF, 0x8100, 0x41, 0x1234]
    blocks .unchecked (.ofFacility .sse2) kept = blocks .unchecked (.ofFacility .altiVec) kept ∧
      blocks .unchecked (.ofFacility .threeDNow) lost ≠
        blocks .unchecked (.ofFacility .neon) lost := by
  intro kept lost
  constructor
  · exact ((@blocks_eq_blocks_iff .unchecked rfl kept).1 .sse2 .altiVec).mpr (.inr (by decide))
  · exact mt ((@blocks_eq_blocks_iff .unchecked rfl lost).1 .threeDNow .neon).mp (by decide)

end Lanewise
