import Lanewise.Proofs.Text.Digits
import Lanewise.Vec128.Lemmas
import Mathlib.Data.List.Basic
import Mathlib.Data.List.TFAE

namespace Lanewise.Vec128

theorem get_lanes (v : Vec128) (i : Quarter) : v.lanes.get i = v.lane i := by
  rw [lanes, get_ofFn]

theorem slice_bytes (v : Vec128) (i : Quarter) :
    (v.bytes.toList.drop (4 * i.val)).take 4 =
      [v.bytes.get (i.byte .first), v.bytes.get (i.byte .second), v.bytes.get (i.byte .third),
        v.bytes.get (i.byte .fourth)] := by
  apply List.ext_getElem
  · simp only [List.length_take, List.length_drop, Vector.length_toList, List.length_cons,
      List.length_nil]
    omega
  · intro j hj hj'
    match j with
    | 0 | 1 | 2 | 3 =>
      rw [List.getElem_take, List.getElem_drop, Vector.getElem_toList]
      rfl

theorem toNat_lane (v : Vec128) (i : Quarter) :
    (v.lane i).toNat =
      Nat.ofDigits 256 (((v.bytes.toList.drop (4 * i.val)).take 4).map UInt8.toNat) := by
  have hbytes := slice_bytes v i
  rw [hbytes, lane, ← UInt32.toNat_toUInt64, toUInt64_laneOfBytes, Word.toNat_ofBytes (by simp)]

theorem ofLanes_lanes (v : Vec128) : ofLanes v.lanes = v := by
  have hlanes : v.lanes.get = v.lane := funext (get_lanes v)
  rw [ofLanes, hlanes, ofLaneFn_lane]

theorem lanes_ofLanes (words : Vector UInt32 4) : (ofLanes words).lanes = words := by
  apply eq_of_get_eq
  intro i
  rw [get_lanes, ofLanes, lane_ofLaneFn]

section Reading

-- A view of the lanes reads each word as something that gives the word back.
variable {α : Type} {read : UInt32 → α} {write : α → UInt32}

theorem leftInverse_map_lanes (h : Function.LeftInverse write read) :
    Function.LeftInverse (fun items : Vector α 4 => ofLanes (items.map write))
      (fun v => v.lanes.map read) := by
  intro v
  simp only [Vector.map_map, h.comp_eq_id, Vector.map_id, ofLanes_lanes]

theorem rightInverse_map_lanes (h : Function.RightInverse write read) :
    Function.RightInverse (fun items : Vector α 4 => ofLanes (items.map write))
      (fun v => v.lanes.map read) := by
  intro items
  simp only [lanes_ofLanes, Vector.map_map, h.comp_eq_id, Vector.map_id]

theorem get_map (f : UInt32 → α) (words : Vector UInt32 4) (i : Quarter) :
    (words.map f).get i = f (words.get i) :=
  Vector.getElem_map f i.isLt

end Reading

theorem leftInverse_signedLanes : Function.LeftInverse ofSignedLanes signedLanes :=
  leftInverse_map_lanes UInt32.toUInt32_toInt32

theorem rightInverse_signedLanes : Function.RightInverse ofSignedLanes signedLanes :=
  rightInverse_map_lanes Int32.toInt32_toUInt32

theorem leftInverse_floatLanes : Function.LeftInverse ofFloatLanes floatLanes :=
  leftInverse_map_lanes fun _ => rfl

theorem rightInverse_floatLanes : Function.RightInverse ofFloatLanes floatLanes :=
  rightInverse_map_lanes fun _ => rfl

theorem toInt_toInt32 (word : UInt32) : word.toInt32.toInt = Int.bmod word.toNat (2 ^ 32) :=
  BitVec.toInt_eq_toNat_bmod word.toBitVec

-- A lane as the text of a vector shows it.
def laneText (lane : UInt32) : String :=
  "0x" ++ Text.fixedHex 8 lane.toNat

theorem length_laneText (lane : UInt32) : (laneText lane).length = 10 := by
  rw [laneText, String.length_append, Text.length_fixedHex]
  rfl

theorem laneText_injective : Function.Injective laneText := by
  intro m n h
  have hm : m.toNat < 16 ^ 8 := m.toNat_lt
  have hn : n.toNat < 16 ^ 8 := n.toNat_lt
  exact UInt32.toNat_inj.mp ((Text.fixedHex_eq_iff hm hn).mp ((String.append_right_inj "0x").mp h))

theorem debugText_eq_iff {v w : Vec128} : v.debugText = w.debugText ↔ v.lanes = w.lanes := by
  have hwidth : ∀ u : Vec128, ∀ item ∈ u.lanes.toList.map laneText, item.length = 10 := by
    intro u item hitem
    obtain ⟨lane, -, rfl⟩ := List.mem_map.mp hitem
    exact length_laneText lane
  calc
    v.debugText = w.debugText ↔
        Text.bracketed (v.lanes.toList.map laneText) =
          Text.bracketed (w.lanes.toList.map laneText) := by
      rw [debugText, debugText, String.append_left_inj, String.append_right_inj]
      rfl
    _ ↔ v.lanes.toList.map laneText = w.lanes.toList.map laneText :=
      Text.bracketed_eq_iff (by simp) (hwidth v) (hwidth w)
    _ ↔ v.lanes.toList = w.lanes.toList := laneText_injective.list_map.eq_iff
    _ ↔ v.lanes = w.lanes := Vector.toList_inj

theorem get_poke (v : Vec128) (p q : Fin 16) (byte : UInt8) :
    (v.poke p byte).bytes.get q = if q = p then byte else v.bytes.get q := by
  refine (Vector.getElem_set p.isLt q.isLt).trans ?_
  by_cases h : q = p
  · rw [if_pos h, if_pos (congrArg Fin.val h).symm]
  · rw [if_neg h, if_neg fun heq => h (Fin.ext heq.symm)]
    rfl

-- A byte stands in one place of one lane.
theorem byte_eq_iff {i r : Quarter} {p : Fin 16} :
    i.byte r = p ↔ i = .ofByte p ∧ r.val = p.val % 4 := by
  simp only [Quarter.byte, Quarter.ofByte, Fin.ext_iff]
  omega

theorem laneByte_lane_poke (v : Vec128) (p : Fin 16) (byte : UInt8) (i r : Quarter) :
    laneByte ((v.poke p byte).lane i) r.val =
      if i = .ofByte p ∧ r.val = p.val % 4 then byte else laneByte (v.lane i) r.val := by
  simp only [laneByte_lane, get_poke, byte_eq_iff]

theorem lane_poke_of_ne (v : Vec128) {p : Fin 16} (byte : UInt8) {i : Quarter}
    (h : i ≠ .ofByte p) : (v.poke p byte).lane i = v.lane i := by
  simp only [lane, get_poke, byte_eq_iff, h, false_and, if_false]

theorem eq_tfae (v w : Vec128) :
    [v = w, v.bytes = w.bytes, v.lanes = w.lanes, v.signedLanes = w.signedLanes,
      v.floatLanes = w.floatLanes, v.debugText = w.debugText].TFAE := by
  tfae_have 1 ↔ 2 := ⟨congrArg bytes, congrArg Vec128.mk⟩
  tfae_have 1 ↔ 3 := (Function.LeftInverse.injective ofLanes_lanes).eq_iff.symm
  tfae_have 1 ↔ 4 := leftInverse_signedLanes.injective.eq_iff.symm
  tfae_have 1 ↔ 5 := leftInverse_floatLanes.injective.eq_iff.symm
  tfae_have 3 ↔ 6 := debugText_eq_iff.symm
  tfae_finish

-- A vector is one value in all its views. Each view can be turned back, and all hold the same bits:
-- a lane is the number whose digits are its four bytes, the lowest first, a signed lane is that
-- number read with its sign, and a float lane is the pattern. Vectors are equal if they look alike
-- in any view, or in their texts. A byte that is written shows in its own place of its own lane,
-- and nowhere else.
theorem views_of_one_value :
    (Function.LeftInverse Vec128.mk bytes ∧ Function.RightInverse Vec128.mk bytes) ∧
      (Function.LeftInverse ofLanes lanes ∧ Function.RightInverse ofLanes lanes) ∧
      (Function.LeftInverse ofSignedLanes signedLanes ∧
        Function.RightInverse ofSignedLanes signedLanes) ∧
      (Function.LeftInverse ofFloatLanes floatLanes ∧
        Function.RightInverse ofFloatLanes floatLanes) ∧
      (∀ (v : Vec128) (i : Quarter),
        (v.lanes.get i).toNat =
            Nat.ofDigits 256 (((v.bytes.toList.drop (4 * i.val)).take 4).map UInt8.toNat) ∧
          (v.signedLanes.get i).toInt = Int.bmod (v.lanes.get i).toNat (2 ^ 32) ∧
          (v.floatLanes.get i).pattern = v.lanes.get i) ∧
      (∀ v w : Vec128,
        [v = w, v.bytes = w.bytes, v.lanes = w.lanes, v.signedLanes = w.signedLanes,
          v.floatLanes = w.floatLanes, v.debugText = w.debugText].TFAE) ∧
      ∀ (v : Vec128) (p : Fin 16) (byte : UInt8),
        let poked := v.poke p byte
        let place := Quarter.ofByte p
        (∀ r : Quarter, laneByte (poked.lanes.get place) r.val =
            if r.val = p.val % 4 then byte else laneByte (v.lanes.get place) r.val) ∧
          ∀ i, i ≠ place → poked.lanes.get i = v.lanes.get i := by
  refine ⟨⟨fun _ => rfl, fun _ => rfl⟩, ⟨ofLanes_lanes, lanes_ofLanes⟩,
    ⟨leftInverse_signedLanes, rightInverse_signedLanes⟩,
    ⟨leftInverse_floatLanes, rightInverse_floatLanes⟩, fun v i => ⟨?_, ?_, ?_⟩, eq_tfae,
    fun v p byte => ⟨fun r => ?_, fun i hi => ?_⟩⟩
  · rw [get_lanes, toNat_lane]
  · rw [signedLanes, get_map, toInt_toInt32]
  · rw [floatLanes, get_map]
  · simp only [get_lanes, laneByte_lane_poke, true_and]
  · rw [get_lanes, get_lanes, lane_poke_of_ne v byte hi]

end Lanewise.Vec128
