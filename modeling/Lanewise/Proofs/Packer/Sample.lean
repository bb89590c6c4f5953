import Lanewise.Packer
import Lanewise.Word.Lemmas
import Mathlib.Data.List.Basic

namespace Lanewise.Packer

variable {U : Type}

theorem unitAt_of_lt {units : List U} {index : Nat} (h : index < units.length) :
    unitAt units index = .ok units[index] := by
  simp [unitAt, h]

theorem toNat_half (k : UInt64) : (k >>> 1).toNat = k.toNat / 2 := by
  rw [UInt64.toNat_shiftRight]
  rfl

theorem toNat_pred {k : UInt64} (h : 0 < k.toNat) : (k - 1).toNat = k.toNat - 1 := by
  have hone : (1 : UInt64) ≤ k := UInt64.le_iff_toNat_le.mpr h
  rw [UInt64.toNat_sub_of_le _ _ hone]
  rfl

theorem sample_of_le (widen : U → UInt64) {units : List U} {k : UInt64} (hpos : 0 < k.toNat)
    (hle : k.toNat ≤ units.length) :
    sample widen units k =
      .ok (sampleWord (widen units[0]) (widen units[k.toNat / 2])
        (widen units[k.toNat - 1])) := by
  simp only [sample, toNat_half, toNat_pred hpos]
  rw [unitAt_of_lt (by omega), unitAt_of_lt (by omega), unitAt_of_lt (by omega)]
  rfl

theorem sampleIndices_of_pos {k : UInt64} (hpos : 0 < k.toNat) :
    sampleIndices k = [0, k.toNat / 2, k.toNat - 1] := by
  rw [sampleIndices, toNat_half, toNat_pred hpos]

theorem toNat_length_of_short {tail : List U} (hshort : tail.length < 8) :
    tail.length.toUInt64.toNat = tail.length := by
  simp only [Nat.toUInt64_eq, UInt64.toNat_ofNat']
  exact Nat.mod_eq_of_lt (by omega)

theorem guardSample_of_short {tail : List UInt16} (hpos : 0 < tail.length)
    (hshort : tail.length < 8) (build : Build) :
    guardSample build tail tail.length.toUInt64 =
      if build.checks && [tail[0], tail[tail.length / 2], tail[tail.length - 1]].any isWide then
        .error (.wideSample tail)
      else .ok () := by
  have hlength := toNat_length_of_short hshort
  have hlower : 1 ≤ tail.length.toUInt64 := by
    rw [UInt64.le_iff_toNat_le, hlength]
    exact hpos
  have hupper : tail.length.toUInt64 < 8 := by
    rw [UInt64.lt_iff_toNat_lt, hlength]
    exact hshort
  have hhalf : tail.length / 2 < tail.length := by omega
  have hlast : tail.length - 1 < tail.length := by omega
  have hindices : sampleIndices tail.length.toUInt64 = [0, tail.length / 2, tail.length - 1] := by
    rw [sampleIndices_of_pos (by omega), hlength]
  unfold guardSample
  rw [hindices]
  cases build.checks with
  | false => simp
  | true => simp [hlower, hupper, hlength, hpos, hhalf, hlast]

theorem trySample_of_short {tail : List UInt16} (hpos : 0 < tail.length)
    (hshort : tail.length < 8) (build : Build) :
    trySample build tail tail.length.toUInt64 =
      if build.checks && [tail[0], tail[tail.length / 2], tail[tail.length - 1]].any isWide then
        .error (.wideSample tail)
      else
        .ok (sampleWord tail[0].toUInt64 tail[tail.length / 2].toUInt64
          tail[tail.length - 1].toUInt64) := by
  have hlength := toNat_length_of_short hshort
  rw [trySample, guardSample_of_short hpos hshort, sample_of_le _ (by omega) (by omega)]
  simp only [hlength]
  split <;> rfl

theorem sampleWord_bytes (first middle last : UInt8) :
    sampleWord first.toUInt64 middle.toUInt64 last.toUInt64 =
      Word.ofBytes [last, 0, 0, 0, middle, 0, 0, first] := by
  have hzero : (0 : UInt8).toUInt64 = 0 := rfl
  rw [Word.ofBytes_eight, sampleWord]
  simp only [hzero, UInt64.zero_shiftLeft, UInt64.or_zero]
  rw [UInt64.or_comm _ last.toUInt64, UInt64.or_comm (first.toUInt64 <<< 56), UInt64.or_assoc]

end Lanewise.Packer
