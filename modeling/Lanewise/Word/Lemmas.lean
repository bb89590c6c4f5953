import Lanewise.Basic
import Mathlib.Algebra.Order.Group.Nat
import Mathlib.Data.Nat.Digits.Defs

namespace Lanewise.Word

@[simp] theorem length_toBytes (count : Nat) (word : UInt64) :
    (toBytes count word).length = count := by
  induction count generalizing word with
  | zero => rfl
  | succ count ih => simp [toBytes, ih]

-- A byte below a word that leaves room for it is added to the word.
theorem toNat_or_shiftLeft {word : UInt64} (b : UInt8) (h : word.toNat < 2 ^ 56) :
    (b.toUInt64 ||| (word <<< 8)).toNat = b.toNat + 256 * word.toNat := by
  have hshift : (word <<< 8).toNat = word.toNat * 2 ^ 8 := by
    simp only [UInt64.toNat_shiftLeft, Nat.shiftLeft_eq]
    exact Nat.mod_eq_of_lt (by simp; omega)
  have hb : b.toNat < 2 ^ 8 := b.toNat_lt
  rw [UInt64.toNat_or, hshift, UInt8.toNat_toUInt64, Nat.or_comm, ← Nat.shiftLeft_eq,
    ← Nat.shiftLeft_add_eq_or_of_lt hb, Nat.shiftLeft_eq]
  omega

theorem toNat_ofBytes_lt {bytes : List UInt8} (h : bytes.length ≤ 8) :
    (ofBytes bytes).toNat < 2 ^ (8 * bytes.length) := by
  induction bytes with
  | nil => simp [ofBytes]
  | cons b rest ih =>
    simp only [List.length_cons] at h ⊢
    have hrest := ih (by omega)
    have hroom : 2 ^ (8 * rest.length) ≤ 2 ^ 56 := Nat.pow_le_pow_right (by decide) (by omega)
    have hb : b.toNat < 256 := b.toNat_lt
    rw [ofBytes, toNat_or_shiftLeft b (by omega), Nat.mul_succ, Nat.pow_add]
    omega

theorem toNat_ofBytes_cons {b : UInt8} {rest : List UInt8} (h : rest.length ≤ 7) :
    (ofBytes (b :: rest)).toNat = b.toNat + 256 * (ofBytes rest).toNat := by
  have hrest := @toNat_ofBytes_lt rest (by omega)
  have hroom : 2 ^ (8 * rest.length) ≤ 2 ^ 56 := Nat.pow_le_pow_right (by decide) (by omega)
  exact toNat_or_shiftLeft b (by omega)

-- The number of a word has its bytes for digits, the lowest first.
theorem toNat_ofBytes {bytes : List UInt8} (h : bytes.length ≤ 8) :
    (ofBytes bytes).toNat = Nat.ofDigits 256 (bytes.map UInt8.toNat) := by
  induction bytes with
  | nil => rfl
  | cons b rest ih =>
    simp only [List.length_cons] at h
    rw [toNat_ofBytes_cons (by omega), ih (by omega), List.map_cons, Nat.ofDigits_cons]

-- A word gives back the bytes that it was made of.
theorem toBytes_ofBytes {bytes : List UInt8} (h : bytes.length ≤ 8) :
    toBytes bytes.length (ofBytes bytes) = bytes := by
  induction bytes with
  | nil => rfl
  | cons b rest ih =>
    simp only [List.length_cons] at h
    have hcons := @toNat_ofBytes_cons b rest (by omega)
    have hb : b.toNat < 256 := b.toNat_lt
    simp only [List.length_cons, toBytes]
    congr 1
    · apply UInt8.toNat_inj.mp
      rw [UInt64.toNat_toUInt8, hcons]
      omega
    · have hshift : ofBytes (b :: rest) >>> 8 = ofBytes rest := by
        apply UInt64.toNat_inj.mp
        rw [UInt64.toNat_shiftRight, hcons]
        simp only [Nat.shiftRight_eq_div_pow, UInt64.reduceToNat, Nat.reduceMod, Nat.reducePow]
        omega
      rw [hshift, ih (by omega)]

theorem toNat_ofBytes_toBytes {count : Nat} (h : count ≤ 8) (word : UInt64) :
    (ofBytes (toBytes count word)).toNat = word.toNat % 2 ^ (8 * count) := by
  induction count generalizing word with
  | zero => simp [ofBytes, toBytes, Nat.mod_one]
  | succ count ih =>
    rw [toBytes, toNat_ofBytes_cons (by simp; omega), ih (by omega), UInt64.toNat_toUInt8,
      UInt64.toNat_shiftRight]
    simp only [Nat.shiftRight_eq_div_pow, UInt64.reduceToNat, Nat.reduceMod]
    rw [show 8 * (count + 1) = 8 + 8 * count by omega, Nat.pow_add, Nat.mod_mul]

theorem ofBytes_toBytes (word : UInt64) : ofBytes (toBytes 8 word) = word := by
  apply UInt64.toNat_inj.mp
  rw [toNat_ofBytes_toBytes (by decide)]
  exact Nat.mod_eq_of_lt word.toNat_lt

theorem ofBytes_four (b0 b1 b2 b3 : UInt8) :
    ofBytes [b0, b1, b2, b3] =
      b0.toUInt64 ||| (b1.toUInt64 <<< 8) ||| (b2.toUInt64 <<< 16) ||| (b3.toUInt64 <<< 24) := by
  apply UInt64.toBitVec_inj.mp
  ext j hj
  simp [ofBytes]
  grind

theorem ofBytes_eight (b0 b1 b2 b3 b4 b5 b6 b7 : UInt8) :
    ofBytes [b0, b1, b2, b3, b4, b5, b6, b7] =
      b0.toUInt64 ||| (b1.toUInt64 <<< 8) ||| (b2.toUInt64 <<< 16) ||| (b3.toUInt64 <<< 24) |||
        (b4.toUInt64 <<< 32) ||| (b5.toUInt64 <<< 40) ||| (b6.toUInt64 <<< 48) |||
        (b7.toUInt64 <<< 56) := by
  apply UInt64.toBitVec_inj.mp
  ext j hj
  simp [ofBytes]
  grind

-- Words of the same number of bytes differ where their bytes differ.
theorem ofBytes_inj {bytes others : List UInt8} (hlength : bytes.length = others.length)
    (hfits : bytes.length ≤ 8) : ofBytes bytes = ofBytes others ↔ bytes = others := by
  constructor
  · intro h
    have hbytes := toBytes_ofBytes hfits
    rw [h, hlength, toBytes_ofBytes (by omega)] at hbytes
    exact hbytes.symm
  · rintro rfl
    rfl

theorem reverseBytes_ofBytes {bytes : List UInt8} (h : bytes.length = 8) :
    reverseBytes (ofBytes bytes) = ofBytes bytes.reverse := by
  rw [reverseBytes, ← h, toBytes_ofBytes (by omega)]

theorem ofBytes_append_zeros (bytes : List UInt8) (count : Nat) :
    ofBytes (bytes ++ List.replicate count 0) = ofBytes bytes := by
  induction bytes with
  | nil =>
    induction count with
    | zero => rfl
    | succ count ih =>
      simp only [List.nil_append] at ih
      simp only [List.replicate_succ, List.nil_append, ofBytes, ih]
      rfl
  | cons b rest ih => simp only [List.cons_append, ofBytes, ih]

-- Bytes that do not fill a word leave zeros above them.
theorem toBytes_eight_ofBytes {bytes : List UInt8} (h : bytes.length ≤ 8) :
    toBytes 8 (ofBytes bytes) = bytes ++ List.replicate (8 - bytes.length) 0 := by
  have hfull : (bytes ++ List.replicate (8 - bytes.length) 0).length = 8 := by
    rw [List.length_append, List.length_replicate]
    omega
  have hround := toBytes_ofBytes hfull.le
  rwa [hfull, ofBytes_append_zeros] at hround

theorem ofBytes_shiftRight_half (b0 b1 b2 b3 : UInt8) :
    ofBytes [0, 0, 0, 0, b0, b1, b2, b3] >>> 32 = ofBytes [b0, b1, b2, b3] := by
  rw [ofBytes_eight, ofBytes_four]
  apply UInt64.toBitVec_inj.mp
  ext j hj
  simp
  grind

end Lanewise.Word
