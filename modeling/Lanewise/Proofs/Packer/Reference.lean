import Lanewise.Proofs.Packer.Narrowing

namespace Lanewise

-- The number in the byte that a facility makes of a unit: the nearest one from 0 to 255 to the
-- unit read with its sign, or the remainder modulo 256.
def Facility.byteOf (facility : Facility) (unit : UInt16) : Nat :=
  if facility.saturates then (max 0 (min 255 unit.toInt16.toInt)).toNat else unit.toNat % 256

namespace Packer

theorem toNat_narrow_ofFacility (facility : Facility) (unit : UInt16) :
    ((ofFacility facility).narrow unit).toNat = facility.byteOf unit := by
  rw [narrow_ofFacility, Facility.byteOf]
  by_cases h : facility.saturates = true
  · rw [if_pos h, if_pos h, Mmx.toNat_saturate]
  · rw [if_neg h, if_neg h, UInt16.toNat_toUInt8]

theorem narrow_of_le {unit : UInt16} (h : unit ≤ 0xFF) (packer : Packer) :
    packer.narrow unit = unit.toUInt8 := by
  have hunit := List.singleton_inj.mp (@map_toUInt16_map_toUInt8 [unit] (by simpa using h))
  calc
    packer.narrow unit = packer.narrow unit.toUInt8.toUInt16 := by rw [hunit]
    _ = unit.toUInt8 := packer.narrow_toUInt16 unit.toUInt8

theorem packNarrow_of_narrow {units : List UInt16} (hfits : units.length ≤ 8)
    (h : ∀ unit ∈ units, unit ≤ 0xFF) :
    packNarrow units = .ok (Word.ofBytes (units.map UInt16.toUInt8)) := by
  have hnone : units.any (0xFF < ·) = false := by
    simpa using h
  rw [packNarrow, if_neg (by omega), hnone, if_neg (by decide)]
  congr 1
  clear hfits hnone
  induction units with
  | nil => rfl
  | cons unit rest ih =>
    have hunit : unit.toUInt8.toUInt64 = unit.toUInt64 := by
      have hbyte : unit.toNat ≤ 255 := UInt16.le_iff_toNat_le.mp (h unit List.mem_cons_self)
      apply UInt64.toNat_inj.mp
      rw [UInt8.toNat_toUInt64, UInt16.toNat_toUInt8, UInt16.toNat_toUInt64]
      omega
    have hrest := ih fun unit hmem => h unit (List.mem_cons_of_mem _ hmem)
    rw [List.foldr_cons, hrest, List.map_cons, Word.ofBytes, hunit, UInt64.or_comm]

theorem guardUnits_of_unchecked {build : Build} (h : build.checks = false) (units : List UInt16) :
    guardUnits build units = .ok () := by
  simp [guardUnits, h]

theorem guardUnits_checked (units : List UInt16) :
    guardUnits .checked units =
      if ∀ unit ∈ units, unit ≤ 0xFF then .ok () else .error (.wideUnits units) := by
  by_cases h : ∀ unit ∈ units, unit ≤ 0xFF
  · have hnone : units.any isWide = false := by simpa [isWide] using h
    rw [if_pos h, guardUnits, hnone, Bool.and_false]
    rfl
  · have hsome : units.any isWide = true := by simpa [isWide] using h
    rw [if_neg h, guardUnits, hsome]
    rfl

-- How a word holds the units that a packer of a facility was given. Byte `i` is what the facility
-- makes of unit `i`, and all bytes above the units are zero. Without checks the word is always
-- given. A checked build gives the same word, and refuses units that do not fit in a byte. Units
-- that do are packed like the reference, and read back byte by byte.
structure Holds (facility : Facility) {n : Nat} (pack : Build → Except Fault UInt64)
    (units : Vector UInt16 n) (word : UInt64) : Prop where
  bytes_eq : (Word.toBytes 8 word).map UInt8.toNat =
    units.toList.map facility.byteOf ++ List.replicate (8 - n) 0
  unchecked : ∀ build, build.checks = false → pack build = .ok word
  checked : pack .checked =
    if ∀ unit ∈ units.toList, unit ≤ 0xFF then .ok word else .error (.wideUnits units.toList)
  narrow : (∀ unit ∈ units.toList, unit ≤ 0xFF) → packNarrow units.toList = .ok word ∧
    ((Word.toBytes 8 word).take n).map UInt8.toUInt16 = units.toList

theorem holds_of_guardUnits (facility : Facility) {n : Nat} (hn : n ≤ 8) (units : Vector UInt16 n)
    {pack : Build → Except Fault UInt64} {word : UInt64}
    (hpack : ∀ build, pack build = (guardUnits build units.toList).map fun _ => word)
    (hword : word = Word.ofBytes (units.toList.map (ofFacility facility).narrow)) :
    Holds facility pack units word := by
  have hbytes : Word.toBytes 8 word =
      units.toList.map (ofFacility facility).narrow ++ List.replicate (8 - n) 0 := by
    have hround := @Word.toBytes_eight_ofBytes (units.toList.map (ofFacility facility).narrow)
      (by simpa using hn)
    rw [hword, hround, List.length_map, Vector.length_toList]
  constructor
  case bytes_eq =>
    have hbyte : UInt8.toNat ∘ (ofFacility facility).narrow = facility.byteOf :=
      funext (toNat_narrow_ofFacility facility)
    rw [hbytes, List.map_append, List.map_map, hbyte, List.map_replicate]
    rfl
  case unchecked =>
    intro build hbuild
    rw [hpack, guardUnits_of_unchecked hbuild]
    rfl
  case checked =>
    rw [hpack, guardUnits_checked]
    split <;> rfl
  case narrow =>
    intro hnarrow
    have hlow : units.toList.map (ofFacility facility).narrow = units.toList.map UInt16.toUInt8 :=
      List.map_congr_left fun unit hunit => narrow_of_le (hnarrow unit hunit) _
    constructor
    · rw [packNarrow_of_narrow (by simpa using hn) hnarrow, hword, hlow]
    · have hlength : (units.toList.map UInt16.toUInt8).length = n := by simp
      rw [hbytes, hlow, List.take_left' hlength, map_toUInt16_map_toUInt8 hnarrow]

-- The closed form of both packs of every facility, for all units.
theorem exists_holds_tryPack (facility : Facility) :
    (∀ units : Vector UInt16 8, ∃ word,
        Holds facility (fun build => tryPack8 build (ofFacility facility) units) units word) ∧
      ∀ units : Vector UInt16 4, ∃ word,
        Holds facility (fun build => tryPack4 build (ofFacility facility) units) units word := by
  refine ⟨fun units => ⟨(ofFacility facility).pack8 units, ?_⟩,
    fun units => ⟨(ofFacility facility).pack4 units, ?_⟩⟩
  · exact holds_of_guardUnits facility (by decide) units (fun build => rfl) (pack8_eq _ units)
  · exact holds_of_guardUnits facility (by decide) units (fun build => rfl) (pack4_eq _ units)

example : tryPack4 .unchecked .sse2 #v[0x1FF, 0x8100, 0x80, 0xFF] = .ok 0xFF8000FF := by decide

end Packer

end Lanewise
