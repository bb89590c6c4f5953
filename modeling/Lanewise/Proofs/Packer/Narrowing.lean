import Lanewise.Packer
import Lanewise.Register.Lemmas
import Lanewise.Word.Lemmas

namespace Lanewise

namespace Mmx

theorem word_ofWords (w0 w1 w2 w3 : UInt16) (i : Quarter) :
    (ofWords w0 w1 w2 w3).word i = #v[w0, w1, w2, w3].get i := by
  match i with
  | 0 =>
    apply UInt16.toBitVec_inj.mp
    ext j hj
    simp [ofWords, word, Vector.get]
  | 1 | 2 | 3 =>
    apply UInt16.toBitVec_inj.mp
    ext j hj
    simp [ofWords, word, Vector.get]
    grind

theorem word_zero (i : Quarter) : zero.word i = 0 := by
  simp [zero, word]

-- The thresholds amount to the clamp of the number that the unit is with its sign.
theorem toNat_saturate (unit : UInt16) :
    (saturate unit).toNat = (max 0 (min 255 unit.toInt16.toInt)).toNat := by
  have hunit : unit.toNat < 65536 := unit.toNat_lt
  have hsigned : unit.toInt16.toInt = unit.toBitVec.toInt := rfl
  rw [hsigned, BitVec.toInt_eq_toNat_cond, UInt16.toNat_toBitVec, saturate]
  simp only [UInt16.le_iff_toNat_le, UInt16.lt_iff_toNat_lt, UInt16.reduceToNat]
  split_ifs <;> simp <;> omega

theorem packSaturating_bits (a b : Mmx) :
    (packSaturating a b).bits =
      Word.ofBytes [saturate (a.word 0), saturate (a.word 1), saturate (a.word 2),
        saturate (a.word 3), saturate (b.word 0), saturate (b.word 1), saturate (b.word 2),
        saturate (b.word 3)] := by
  rw [Word.ofBytes_eight]
  simp only [packSaturating, List.finRange_succ, List.finRange_zero, List.map_cons, List.map_nil,
    List.foldl_cons, List.foldl_nil]
  apply UInt64.toBitVec_inj.mp
  ext j hj
  simp
  grind

end Mmx

namespace Vmx

theorem reverseBytes_firstDoubleword (r : Vmx) :
    Word.reverseBytes r.firstDoubleword = Word.ofBytes (r.bytes.toList.take 8) := by
  rw [firstDoubleword, Word.reverseBytes_ofBytes (by simp), List.reverse_reverse]

theorem reverseBytes_firstWord (r : Vmx) :
    Word.reverseBytes (r.word .first).toUInt64 >>> 32 =
      Word.ofBytes (r.bytes.toList.take 4) := by
  obtain ⟨⟨bytes⟩, hbytes⟩ := r
  match bytes, hbytes with
  | b0 :: b1 :: b2 :: b3 :: rest, hbytes =>
    rw [word, Vec128.toUInt64_laneOfBytes, ← Word.ofBytes_append_zeros _ 4,
      Word.reverseBytes_ofBytes rfl]
    exact Word.ofBytes_shiftRight_half b0 b1 b2 b3

theorem getElem_ofHalfwords_odd (f : Fin 8 → UInt16) (i : Nat) (hi : i < 8) :
    (ofHalfwords f).bytes[2 * i + 1] = (f ⟨i, hi⟩).toUInt8 := by
  have hhalf : (2 * i + 1) / 2 = i := by omega
  simp [ofHalfwords, hhalf]

theorem take_packModular_ofHalfwords (f : Fin 8 → UInt16) (b : Vmx) :
    (packModular (ofHalfwords f) b).bytes.toList.take 8 =
      List.ofFn fun i => (f i).toUInt8 := by
  apply List.ext_getElem
  · simp
  · intro i hi _
    have h8 : i < 8 := by simpa using hi
    rw [List.getElem_ofFn, List.getElem_take, Vector.getElem_toList]
    simp [packModular, h8, Nat.mod_eq_of_lt h8, getElem_ofHalfwords_odd]

end Vmx

namespace Xmm

theorem saturate_toBitVec (unit : UInt16) :
    saturate unit.toBitVec = (Mmx.saturate unit).toBitVec := by
  have hvalue := Mmx.toNat_saturate unit
  have hsigned : unit.toInt16.toInt = unit.toBitVec.toInt := rfl
  apply BitVec.eq_of_toNat_eq
  rw [saturate, BitVec.toNat_ofInt, UInt8.toNat_toBitVec, hvalue, hsigned]
  omega

theorem lowQword_ofDwords (f : Quarter → BitVec 32) :
    (ofDwords f).lowQword = f .second ++ f .first := by
  ext j hj
  simp [ofDwords, lowQword]
  grind

theorem lowQword_ofBytes (f : Fin 16 → BitVec 8) :
    (ofBytes f).lowQword =
      (Word.ofBytes [⟨f 0⟩, ⟨f 1⟩, ⟨f 2⟩, ⟨f 3⟩, ⟨f 4⟩, ⟨f 5⟩, ⟨f 6⟩, ⟨f 7⟩]).toBitVec := by
  rw [Word.ofBytes_eight, ofBytes, ofWords, lowQword_ofDwords]
  ext j hj
  simp
  grind

theorem firstDword_ofBytes (f : Fin 16 → BitVec 8) :
    ((ofBytes f).dword .first).setWidth 64 =
      (Word.ofBytes [⟨f 0⟩, ⟨f 1⟩, ⟨f 2⟩, ⟨f 3⟩]).toBitVec := by
  rw [Word.ofBytes_four]
  ext j hj
  simp [ofBytes, ofWords]
  grind

end Xmm

-- Whether the packer of a facility saturates. All others keep the low byte, that of plain code
-- included, which stands in for a facility without code.
def Facility.saturates : Facility → Bool
  | .sse2 | .threeDNow => true
  | .scalar | .altiVec | .unresolved | .neon => false

namespace Packer

-- What a packer makes of one unit. All keep a unit that fits in a byte. Of others some keep the
-- low byte, and some take the nearest byte to the unit read with its sign.
def narrow : Packer → UInt16 → UInt8
  | .scalar, unit | .altiVec, unit => unit.toUInt8
  | .sse2, unit | .threeDNow, unit => Mmx.saturate unit

theorem narrow_toUInt16 (packer : Packer) (b : UInt8) : packer.narrow b.toUInt16 = b := by
  have hb : b.toNat < 256 := b.toNat_lt
  cases packer with
  | scalar | altiVec => simp [narrow]
  | sse2 | threeDNow =>
    have hlow : ¬ 0x8000 ≤ b.toUInt16 := by
      simp only [UInt16.le_iff_toNat_le, UInt8.toNat_toUInt16, UInt16.reduceToNat]
      omega
    have hfits : ¬ 0xFF < b.toUInt16 := by
      simp only [UInt16.lt_iff_toNat_lt, UInt8.toNat_toUInt16, UInt16.reduceToNat]
      omega
    simp [narrow, Mmx.saturate, hlow, hfits]

theorem narrow_ofFacility (facility : Facility) (unit : UInt16) :
    (ofFacility facility).narrow unit =
      if facility.saturates then Mmx.saturate unit else unit.toUInt8 := by
  cases facility <;> rfl

-- Units that fit in a byte are told by their low bytes.
theorem map_toUInt16_map_toUInt8 {units : List UInt16} (h : ∀ unit ∈ units, unit ≤ 0xFF) :
    (units.map UInt16.toUInt8).map UInt8.toUInt16 = units := by
  rw [List.map_map]
  refine (List.map_congr_left fun unit hunit => ?_).trans (List.map_id units)
  have hfits : unit.toNat ≤ 255 := UInt16.le_iff_toNat_le.mp (h unit hunit)
  apply UInt16.toNat_inj.mp
  simp only [Function.comp_apply, UInt8.toNat_toUInt16, UInt16.toNat_toUInt8, id]
  omega

theorem toUInt64_lowByte (unit : UInt16) : (unit &&& 0xFF).toUInt64 = unit.toUInt8.toUInt64 := by
  apply UInt64.toNat_inj.mp
  simp only [UInt16.toNat_toUInt64, UInt16.toNat_and, UInt8.toNat_toUInt64, UInt16.toNat_toUInt8,
    UInt16.reduceToNat]
  exact Nat.and_two_pow_sub_one_eq_mod unit.toNat 8

-- The word of eight units holds what the packer makes of each of them, in their order.
theorem pack8_eq (packer : Packer) (units : Vector UInt16 8) :
    packer.pack8 units = Word.ofBytes (units.toList.map packer.narrow) := by
  obtain ⟨⟨units⟩, hunits⟩ := units
  match units, hunits with
  | [a, b, c, d, e, f, g, h], _ =>
    cases packer with
    | scalar =>
      simp [pack8, narrow, maskUnits, toUInt64_lowByte, Word.ofBytes_eight, List.finRange_succ,
        Vector.get, -UInt16.toUInt64_and, -UInt16.toUInt64_toUInt8]
    | sse2 =>
      simp [pack8, narrow, Xmm.packSaturating, Xmm.lowQword_ofBytes, Xmm.saturate_toBitVec,
        Vector.get]
    | threeDNow =>
      simp [pack8, narrow, Mmx.packSaturating_bits, Mmx.word_ofWords, Vector.get]
    | altiVec =>
      simp [pack8, narrow, Vmx.reverseBytes_firstDoubleword, Vmx.take_packModular_ofHalfwords,
        List.ofFn_succ, Vector.get]

theorem pack4_eq (packer : Packer) (units : Vector UInt16 4) :
    packer.pack4 units = Word.ofBytes (units.toList.map packer.narrow) := by
  obtain ⟨⟨units⟩, hunits⟩ := units
  match units, hunits with
  | [a, b, c, d], _ =>
    cases packer with
    | scalar =>
      simp [pack4, narrow, maskUnits, toUInt64_lowByte, Word.ofBytes_four, List.finRange_succ,
        Vector.get, -UInt16.toUInt64_and, -UInt16.toUInt64_toUInt8]
    | sse2 =>
      simp [pack4, narrow, Xmm.packSaturating, Xmm.firstDword_ofBytes, Xmm.saturate_toBitVec]
    | threeDNow =>
      have hzero : Mmx.saturate 0 = 0 := rfl
      rw [← Word.ofBytes_append_zeros _ 4]
      simp [pack4, narrow, Mmx.packSaturating_bits, Mmx.word_ofWords, Mmx.word_zero, hzero,
        Vector.get]
    | altiVec =>
      have htake (r : Vmx) : r.bytes.toList.take 4 = (r.bytes.toList.take 8).take 4 := by
        rw [List.take_take]
        rfl
      simp only [pack4, Vmx.reverseBytes_firstWord]
      rw [htake, Vmx.take_packModular_ofHalfwords]
      simp [narrow, List.ofFn_succ]

end Packer

end Lanewise
