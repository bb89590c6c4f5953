import Lanewise.Proofs.Cursor.Outcomes
import Lanewise.Proofs.Packer.Sample

namespace Lanewise.Packer

-- The places that a sample looks at, in this order. The last one wraps around when `k` is zero.
def places (k : UInt64) : List Nat :=
  [0, k.toNat / 2, (k.toNat + (2 ^ 64 - 1)) % 2 ^ 64]

def firstOutside? (length : Nat) (k : UInt64) : Option Nat :=
  (places k).find? fun place => decide (length ≤ place)

theorem sampleIndices_eq_places (k : UInt64) : sampleIndices k = places k := by
  have hlast : (k - 1).toNat = (k.toNat + (2 ^ 64 - 1)) % 2 ^ 64 := by
    rw [UInt64.toNat_sub, Nat.add_comm]
    rfl
  rw [sampleIndices, toNat_half, hlast, places]

-- A sample that lies within the units looks at no place outside them, and any other one does: at
-- the last place if nowhere else, which is out of reach of every slice where it wraps around.
theorem firstOutside?_eq_none_iff {length : Nat} (hlength : length < 2 ^ 63) (k : UInt64) :
    firstOutside? length k = none ↔ 1 ≤ k.toNat ∧ k.toNat ≤ length := by
  have hk : k.toNat < 2 ^ 64 := k.toNat_lt
  simp only [firstOutside?, places, List.find?_eq_none, List.forall_mem_cons, List.not_mem_nil,
    decide_eq_true_eq, Nat.not_le]
  constructor
  · rintro ⟨hfirst, hmiddle, hlast, -⟩
    omega
  · rintro ⟨hpos, hle⟩
    exact ⟨by omega, by omega, by omega, fun _ h => h.elim⟩

theorem unitAt_of_le {U : Type} {units : List U} {index : Nat} (h : units.length ≤ index) :
    unitAt units index = .error (.outOfBounds units.length index) := by
  rw [unitAt, List.getElem?_eq_none h]

theorem sample_of_outside {U : Type} (widen : U → UInt64) {units : List U} {k : UInt64}
    {index : Nat} (h : firstOutside? units.length k = some index) :
    sample widen units k = .error (.outOfBounds units.length index) := by
  rw [firstOutside?, ← sampleIndices_eq_places, sampleIndices] at h
  by_cases hfirst : units.length ≤ 0
  · rw [List.find?_cons_of_pos (by simpa using hfirst)] at h
    cases h
    rw [sample, unitAt_of_le hfirst]
    rfl
  rw [List.find?_cons_of_neg (by simpa using hfirst)] at h
  by_cases hmiddle : units.length ≤ (k >>> 1).toNat
  · rw [List.find?_cons_of_pos (by simpa using hmiddle)] at h
    cases h
    rw [sample, unitAt_of_lt (by omega), unitAt_of_le hmiddle]
    rfl
  rw [List.find?_cons_of_neg (by simpa using hmiddle)] at h
  by_cases hlast : units.length ≤ (k - 1).toNat
  · rw [List.find?_cons_of_pos (by simpa using hlast)] at h
    cases h
    rw [sample, unitAt_of_lt (by omega), unitAt_of_lt (by omega), unitAt_of_le hlast]
    rfl
  · rw [List.find?_cons_of_neg (by simpa using hlast)] at h
    cases h

theorem toNat_sampleWord (first middle last : UInt16) :
    (sampleWord first.toUInt64 middle.toUInt64 last.toUInt64).toNat =
      first.toNat % 256 * 2 ^ 56 + middle.toNat * 2 ^ 32 + last.toNat := by
  have hfirst : first.toNat < 2 ^ 16 := first.toNat_lt
  have hmiddle : middle.toNat < 2 ^ 16 := middle.toNat_lt
  have hlast : last.toNat < 2 ^ 16 := last.toNat_lt
  have htop : (first.toUInt64 <<< 56).toNat = (first.toNat % 256) <<< 56 := by
    simp only [UInt64.toNat_shiftLeft, UInt16.toNat_toUInt64, Nat.shiftLeft_eq,
      UInt64.reduceToNat, Nat.reduceMod]
    omega
  have hcentre : (middle.toUInt64 <<< 32).toNat = middle.toNat <<< 32 := by
    simp only [UInt64.toNat_shiftLeft, UInt16.toNat_toUInt64, Nat.shiftLeft_eq,
      UInt64.reduceToNat, Nat.reduceMod]
    omega
  have hlower : middle.toNat <<< 32 ||| last.toNat = middle.toNat * 2 ^ 32 + last.toNat := by
    rw [← Nat.shiftLeft_add_eq_or_of_lt (by omega), Nat.shiftLeft_eq]
  rw [sampleWord, UInt64.or_assoc, UInt64.toNat_or, UInt64.toNat_or, htop, hcentre,
    UInt16.toNat_toUInt64, hlower, ← Nat.shiftLeft_add_eq_or_of_lt (by omega), Nat.shiftLeft_eq]
  omega

-- The word of a sample that lies within the units. Its three fields stand apart, whatever the units
-- are: eight bits of the first one, all of the middle one and all of the last one.
structure Sampled (units : List UInt16) (k word : UInt64) : Prop where
  pos : 1 ≤ k.toNat
  le_length : k.toNat ≤ units.length
  word_eq : word = (units[0].toUInt64 <<< 56) ||| (units[k.toNat / 2].toUInt64 <<< 32) |||
    units[k.toNat - 1].toUInt64
  toNat_eq : word.toNat = units[0].toNat % 256 * 2 ^ 56 + units[k.toNat / 2].toNat * 2 ^ 32 +
    units[k.toNat - 1].toNat

theorem trySample_of_unchecked {build : Build} (h : build ≠ .checked) (units : List UInt16)
    (k : UInt64) : trySample build units k = sample UInt16.toUInt64 units k := by
  cases build with
  | checked => exact absurd rfl h
  | unchecked | scalarOnly => rfl

theorem exists_sampled {units : List UInt16} {k : UInt64} (hpos : 1 ≤ k.toNat)
    (hle : k.toNat ≤ units.length) :
    ∃ word, sample UInt16.toUInt64 units k = .ok word ∧ Sampled units k word :=
  ⟨_, sample_of_le _ hpos hle, hpos, hle, rfl, toNat_sampleWord _ _ _⟩

def InRange (units : List UInt16) (k : UInt64) : Prop :=
  1 ≤ k.toNat ∧ k.toNat < 8 ∧ k.toNat ≤ units.length

instance (units : List UInt16) (k : UInt64) : Decidable (InRange units k) :=
  inferInstanceAs (Decidable (_ ∧ _))

def ShowsWide (units : List UInt16) (k : UInt64) : Prop :=
  ∃ place ∈ places k, ∃ unit ∈ units[place]?, 0xFF < unit

theorem rangeTest_iff (units : List UInt16) (k : UInt64) :
    (1 ≤ k && k < 8 && k.toNat ≤ units.length) = true ↔ InRange units k := by
  simp [InRange, UInt64.le_iff_toNat_le, UInt64.lt_iff_toNat_lt, and_assoc]

theorem wideTest_iff (units : List UInt16) (k : UInt64) :
    ((sampleIndices k).any fun index => (units[index]?).any isWide) = true ↔
      ShowsWide units k := by
  simp [ShowsWide, sampleIndices_eq_places, Option.any_eq_true, isWide]

theorem guardSample_of_not_inRange {units : List UInt16} {k : UInt64} (h : ¬ InRange units k) :
    guardSample .checked units k = .error (.sampleRange k units.length) := by
  rw [← rangeTest_iff, Bool.not_eq_true] at h
  simp [guardSample, Build.checks, h]

theorem guardSample_of_showsWide {units : List UInt16} {k : UInt64} (hrange : InRange units k)
    (h : ShowsWide units k) :
    guardSample .checked units k = .error (.wideSample (units.take k.toNat)) := by
  rw [← rangeTest_iff] at hrange
  rw [← wideTest_iff] at h
  simp [guardSample, Build.checks, hrange, h]

theorem guardSample_of_not_showsWide {units : List UInt16} {k : UInt64} (hrange : InRange units k)
    (h : ¬ ShowsWide units k) : guardSample .checked units k = .ok () := by
  rw [← rangeTest_iff] at hrange
  rw [← wideTest_iff, Bool.not_eq_true] at h
  simp [guardSample, Build.checks, hrange, h]

theorem trySample_of_not_inRange {units : List UInt16} {k : UInt64} (h : ¬ InRange units k) :
    trySample .checked units k = .error (.sampleRange k units.length) := by
  rw [trySample, guardSample_of_not_inRange h]
  rfl

theorem trySample_of_showsWide {units : List UInt16} {k : UInt64} (hrange : InRange units k)
    (h : ShowsWide units k) :
    trySample .checked units k = .error (.wideSample (units.take k.toNat)) := by
  rw [trySample, guardSample_of_showsWide hrange h]
  rfl

theorem trySample_of_not_showsWide {units : List UInt16} {k : UInt64} (hrange : InRange units k)
    (h : ¬ ShowsWide units k) :
    trySample .checked units k = sample UInt16.toUInt64 units k := by
  rw [trySample, guardSample_of_not_showsWide hrange h]
  rfl

theorem inRange_of_trySample_eq_ok {units : List UInt16} {k word : UInt64}
    (h : trySample .checked units k = .ok word) : InRange units k ∧ ¬ ShowsWide units k := by
  by_cases hrange : InRange units k
  · refine ⟨hrange, fun hwide => ?_⟩
    rw [trySample_of_showsWide hrange hwide] at h
    cases h
  · rw [trySample_of_not_inRange hrange] at h
    cases h

-- What can stop a checked build on its way: a fault, or a difference that would be below zero.
inductive Trap where
  | fault (fault : Fault)
  | belowZero
  deriving DecidableEq, Repr

@[simp] theorem Trap.ok_bind {α β : Type} (value : α) (next : α → Except Trap β) :
    (Except.ok value >>= next) = next value :=
  rfl

def lastPlace (k : UInt64) : Except Trap Nat :=
  if k = 0 then .error .belowZero else .ok (k - 1).toNat

def unitOrTrap (units : List UInt16) (place : Nat) : Except Trap UInt16 :=
  (unitAt units place).mapError .fault

def firstUnits (units : List UInt16) (count : Nat) : Except Trap (List UInt16) :=
  if count ≤ units.length then .ok (units.take count)
  else .error (.fault (.outOfBounds units.length count))

-- Whether the units at some places fit in a byte, as far as the first one that does not.
def allNarrow (units : List UInt16) : List Nat → Except Trap Bool
  | [] => .ok true
  | place :: places => do
    let unit ← unitOrTrap units place
    if isWide unit then return false else allNarrow units places

-- A checked sample step by step. The test of its units, and the list of units in its report, are
-- themselves made of differences and accesses that could fail.
def sampleSteps (units : List UInt16) (k : UInt64) : Except Trap UInt64 :=
  if InRange units k then do
    let narrow ← allNarrow units [0, (k >>> 1).toNat, ← lastPlace k]
    if narrow then
      let first ← unitOrTrap units 0
      let middle ← unitOrTrap units (k >>> 1).toNat
      let last ← unitOrTrap units (← lastPlace k)
      return sampleWord first.toUInt64 middle.toUInt64 last.toUInt64
    else
      throw (.fault (.wideSample (← firstUnits units k.toNat)))
  else .error (.fault (.sampleRange k units.length))

theorem lastPlace_of_pos {k : UInt64} (h : 1 ≤ k.toNat) : lastPlace k = .ok (k - 1).toNat := by
  have hk : k ≠ 0 := by
    rintro rfl
    exact absurd h (by decide)
  exact if_neg hk

theorem unitOrTrap_of_lt {units : List UInt16} {place : Nat} (h : place < units.length) :
    unitOrTrap units place = .ok units[place] := by
  rw [unitOrTrap, unitAt_of_lt h]
  rfl

theorem allNarrow_eq {units : List UInt16} {places : List Nat}
    (h : ∀ place ∈ places, place < units.length) :
    allNarrow units places = .ok !(places.any fun place => (units[place]?).any isWide) := by
  induction places with
  | nil => rfl
  | cons place places ih =>
    have hplace := h place List.mem_cons_self
    have hplaces := ih fun other hother => h other (List.mem_cons_of_mem place hother)
    have hstep : allNarrow units (place :: places) =
        if isWide units[place] then .ok false else allNarrow units places := by
      rw [allNarrow, unitOrTrap_of_lt hplace]
      rfl
    rw [hstep, hplaces]
    cases hwide : isWide units[place] <;> simp [hplace, hwide]

theorem sampleSteps_of_inRange {units : List UInt16} {k : UInt64} (h : InRange units k) :
    sampleSteps units k =
      if (sampleIndices k).any fun index => (units[index]?).any isWide then
        .error (.fault (.wideSample (units.take k.toNat)))
      else (sample UInt16.toUInt64 units k).mapError Trap.fault := by
  obtain ⟨hpos, -, hle⟩ := id h
  have hfirst : 0 < units.length := by omega
  have hmiddle : (k >>> 1).toNat < units.length := by
    rw [toNat_half]
    omega
  have hlast : (k - 1).toNat < units.length := by
    rw [toNat_pred hpos]
    omega
  have hlisted : firstUnits units k.toNat = .ok (units.take k.toNat) := if_pos hle
  have hnarrow := @allNarrow_eq units (sampleIndices k) (by
    simp only [sampleIndices, List.forall_mem_cons]
    exact ⟨hfirst, hmiddle, hlast, fun _ hnone => absurd hnone List.not_mem_nil⟩)
  have hsteps : sampleSteps units k = (do
      let narrow ← allNarrow units (sampleIndices k)
      if narrow then (sample UInt16.toUInt64 units k).mapError Trap.fault
      else .error (.fault (.wideSample (units.take k.toNat)))) := by
    rw [sample, unitAt_of_lt hfirst, unitAt_of_lt hmiddle, unitAt_of_lt hlast]
    simp only [sampleSteps, if_pos h, lastPlace_of_pos hpos, unitOrTrap_of_lt hfirst,
      unitOrTrap_of_lt hmiddle, unitOrTrap_of_lt hlast, hlisted, Trap.ok_bind]
    rfl
  rw [hsteps, hnarrow]
  cases (sampleIndices k).any fun index => (units[index]?).any isWide <;> rfl

-- A difference below zero and an access outside the units cannot happen: what stops a checked
-- build is what it reports.
theorem sampleSteps_eq (units : List UInt16) (k : UInt64) :
    sampleSteps units k = (trySample .checked units k).mapError .fault := by
  by_cases hrange : InRange units k
  · rw [sampleSteps_of_inRange hrange]
    by_cases hwide : ShowsWide units k
    · rw [if_pos ((wideTest_iff units k).mpr hwide), trySample_of_showsWide hrange hwide]
      rfl
    · rw [if_neg (mt (wideTest_iff units k).mp hwide), trySample_of_not_showsWide hrange hwide]
  · rw [sampleSteps, if_neg hrange, trySample_of_not_inRange hrange]
    rfl

-- A sample of a build that does not check: it is given exactly if it lies within the units, and
-- else the first place outside them is at fault.
structure FreeSample (units : List UInt16) (k : UInt64) (outcome : Outcome) : Prop where
  ok_iff : (∃ word, outcome = .ok word) ↔ 1 ≤ k.toNat ∧ k.toNat ≤ units.length
  sampled : ∀ word, outcome = .ok word → Sampled units k word
  outside : ∀ fault, outcome = .error fault →
    ∃ index, firstOutside? units.length k = some index ∧ fault = .outOfBounds units.length index

-- A sample of a build that checks, beside the one of a build that does not.
structure GuardedSample (units : List UInt16) (k : UInt64) (free outcome : Outcome) : Prop where
  ok_iff : (∃ word, outcome = .ok word) ↔ InRange units k ∧ ¬ ShowsWide units k
  ok_eq : ∀ word, outcome = .ok word → free = .ok word
  range : ¬ InRange units k → outcome = .error (.sampleRange k units.length)
  wide : InRange units k → ShowsWide units k →
    outcome = .error (.wideSample (units.take k.toNat))
  steps : sampleSteps units k = outcome.mapError .fault

theorem freeSample_sample {units : List UInt16} (hlength : units.length < 2 ^ 63) (k : UInt64) :
    FreeSample units k (sample UInt16.toUInt64 units k) := by
  have hnone := firstOutside?_eq_none_iff hlength k
  cases hplace : firstOutside? units.length k with
  | none =>
    have hwithin := hnone.mp hplace
    obtain ⟨word, hword, hsampled⟩ := exists_sampled hwithin.1 hwithin.2
    rw [hword]
    constructor
    case ok_iff => exact iff_of_true ⟨word, rfl⟩ hwithin
    case sampled =>
      rintro _ ⟨⟩
      exact hsampled
    case outside =>
      rintro _ ⟨⟩
  | some index =>
    have hwithout : ¬ (1 ≤ k.toNat ∧ k.toNat ≤ units.length) := by
      rw [← hnone, hplace]
      exact Option.some_ne_none index
    rw [sample_of_outside _ hplace]
    constructor
    case ok_iff =>
      refine iff_of_false ?_ hwithout
      rintro ⟨_, ⟨⟩⟩
    case sampled =>
      rintro _ ⟨⟩
    case outside =>
      rintro _ ⟨⟩
      exact ⟨index, hplace, rfl⟩

theorem guardedSample_trySample {units : List UInt16} {k : UInt64}
    (hfree : FreeSample units k (sample UInt16.toUInt64 units k)) :
    GuardedSample units k (sample UInt16.toUInt64 units k) (trySample .checked units k) := by
  constructor
  case ok_iff =>
    constructor
    · rintro ⟨word, hword⟩
      exact inRange_of_trySample_eq_ok hword
    · rintro ⟨hrange, hnarrow⟩
      rw [trySample_of_not_showsWide hrange hnarrow]
      exact hfree.ok_iff.mpr ⟨hrange.1, hrange.2.2⟩
  case ok_eq =>
    intro word hword
    obtain ⟨hrange, hnarrow⟩ := inRange_of_trySample_eq_ok hword
    rwa [trySample_of_not_showsWide hrange hnarrow] at hword
  case range => exact trySample_of_not_inRange
  case wide => exact trySample_of_showsWide
  case steps => exact sampleSteps_eq units k

-- A sample of any size of any slice that fits in memory, in all builds.
theorem trySample_outcomes {units : List UInt16} (hlength : units.length < 2 ^ 63) (k : UInt64) :
    (∀ build, build ≠ .checked → FreeSample units k (trySample build units k)) ∧
      GuardedSample units k (trySample .unchecked units k) (trySample .checked units k) := by
  have hfree := freeSample_sample hlength k
  refine ⟨fun build hbuild => ?_, ?_⟩
  · rw [trySample_of_unchecked hbuild]
    exact hfree
  · rw [trySample_of_unchecked (by decide) units k]
    exact guardedSample_trySample hfree

theorem trySample_outcomes_of_three_units :
    let units : List UInt16 := [0x1FF, 0xABCD, 2]
    units.length < 2 ^ 63 ∧ Sampled units 3 0xFF00ABCD00000002 ∧
      trySample .scalarOnly units 0 = .error (.outOfBounds 3 (2 ^ 64 - 1)) ∧
      trySample .checked units 0 = .error (.sampleRange 0 3) ∧
      trySample .checked units 3 = .error (.wideSample units) := by
  intro units
  have hlength : units.length < 2 ^ 63 := by decide
  obtain ⟨hfree, hguarded⟩ := trySample_outcomes hlength 3
  obtain ⟨hfreeNone, hguardedNone⟩ := trySample_outcomes hlength 0
  refine ⟨hlength, ?_, ?_, ?_, ?_⟩
  · exact (hfree .scalarOnly (by decide)).sampled _ (by decide)
  · have hzero := hfreeNone .scalarOnly (by decide)
    cases hsample : trySample .scalarOnly units 0 with
    | ok word => exact absurd (hzero.ok_iff.mp ⟨word, hsample⟩) (by decide)
    | error fault =>
      obtain ⟨index, hindex, rfl⟩ := hzero.outside fault hsample
      have hwrapped : firstOutside? units.length 0 = some (2 ^ 64 - 1) := by decide
      cases hindex.symm.trans hwrapped
      rfl
  · exact hguardedNone.range (by decide)
  · exact hguarded.wide (by decide) ⟨0, List.mem_cons_self, 0x1FF, rfl, by decide⟩

end Lanewise.Packer
