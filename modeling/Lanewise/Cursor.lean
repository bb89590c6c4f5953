import Lanewise.Packer

namespace Lanewise

-- A unit of a string. Strings hold one byte for each unit, or two bytes for each unit while every
-- unit still fits in one. Only the units of two bytes go through a packer.
class CodeUnit (U : Type) where
  loadGroup : Build → Packer → Vector U 8 → Except Fault UInt64
  loadHead : Build → Packer → Vector U 4 → Except Fault UInt64
  loadTail : Build → List U → Except Fault UInt64
  text : U → String

instance : CodeUnit UInt8 where
  loadGroup := fun _ _ units => .ok (Word.ofBytes units.toList)
  loadHead := fun _ _ units => .ok (Word.ofBytes units.toList)
  loadTail := fun _ units => Packer.sample UInt8.toUInt64 units units.length.toUInt64
  text := fun unit => toString unit.toNat

instance : CodeUnit UInt16 where
  loadGroup := Packer.tryPack8
  loadHead := Packer.tryPack4
  loadTail := fun build units => Packer.trySample build units units.length.toUInt64
  text := fun unit => toString unit.toNat

-- The units of a string in groups of eight, as far as they go.
def fullGroups {U : Type} : List U → List (Vector U 8)
  | a :: b :: c :: d :: e :: f :: g :: h :: rest => #v[a, b, c, d, e, f, g, h] :: fullGroups rest
  | _ => []

def tailUnits {U : Type} : List U → List U
  | _ :: _ :: _ :: _ :: _ :: _ :: _ :: _ :: rest => tailUnits rest
  | units => units

theorem length_tailUnits_lt {U : Type} (units : List U) : (tailUnits units).length < 8 := by
  fun_induction tailUnits units with
  | case1 _ _ _ _ _ _ _ _ rest ih => exact ih
  | case2 units h =>
    match units, h with
    | [], _ | [_], _ | [_, _], _ | [_, _, _], _ | [_, _, _, _], _ | [_, _, _, _, _], _
    | [_, _, _, _, _, _], _ | [_, _, _, _, _, _, _], _ => simp
    | a :: b :: c :: d :: e :: f :: g :: h' :: rest, h => exact absurd rfl (h a b c d e f g h' rest)

theorem length_nil_lt (U : Type) : ([] : List U).length < 8 :=
  Nat.zero_lt_succ 7

-- A place in the block stream of a string. The blocks are one packed word for each full group,
-- then one packed word for the first four units of a tail that has as many, then one sampled
-- word for a tail that is not empty. `tailPacked` says that the packed word of the tail, where
-- there is one, is behind.
structure Cursor (U : Type) where
  full : List (Vector U 8)
  tail : List U
  tailPacked : Bool
  packer : Packer
  tail_short : tail.length < 8

namespace Cursor

variable {U : Type}

def ofUnits (packer : Packer) (units : List U) : Cursor U where
  full := fullGroups units
  tail := tailUnits units
  tailPacked := false
  packer := packer
  tail_short := length_tailUnits_lt units

def tailBlocks (cursor : Cursor U) : Nat :=
  if cursor.tail.isEmpty then 0
  else if cursor.tail.length < 4 || cursor.tailPacked then 1
  else 2

def remaining (cursor : Cursor U) : Nat :=
  cursor.full.length + cursor.tailBlocks

-- The count of blocks is known at every place, so both bounds are that count.
def sizeBounds (cursor : Cursor U) : Nat × Nat :=
  (cursor.remaining, cursor.remaining)

def tailHead? : List U → Option (Vector U 4)
  | a :: b :: c :: d :: _ => some #v[a, b, c, d]
  | _ => none

-- The place behind the sample of the tail, which is the end.
def afterTail (cursor : Cursor U) : Cursor U :=
  { cursor with tail := [], tailPacked := true, tail_short := length_nil_lt U }

-- The next block, or the fault of loading it, with the place behind it. A block that cannot be
-- loaded is passed over all the same, and the end of the stream is never left.
def next [CodeUnit U] (build : Build) (cursor : Cursor U) :
    Option (Except Fault UInt64) × Cursor U :=
  match cursor.full with
  | group :: groups =>
    (some (CodeUnit.loadGroup build cursor.packer group), { cursor with full := groups })
  | [] =>
    if cursor.tail.isEmpty then (none, cursor)
    else
      match if cursor.tailPacked then none else tailHead? cursor.tail with
      | some head =>
        (some (CodeUnit.loadHead build cursor.packer head), { cursor with tailPacked := true })
      | none => (some (CodeUnit.loadTail build cursor.tail), cursor.afterTail)

theorem tailHead?_isSome_iff {tail : List U} :
    (tailHead? tail).isSome = true ↔ 4 ≤ tail.length := by
  match tail with
  | [] | [_] | [_, _] | [_, _, _] => simp [tailHead?]
  | _ :: _ :: _ :: _ :: _ => simp [tailHead?]

theorem remaining_next [CodeUnit U] {build : Build} {cursor after : Cursor U}
    {block : Except Fault UInt64} (h : cursor.next build = (some block, after)) :
    after.remaining + 1 = cursor.remaining := by
  unfold next at h
  split at h
  case h_1 group groups hfull =>
    cases h
    simp only [remaining, tailBlocks, hfull, List.length_cons]
    omega
  case h_2 hfull =>
    split at h
    case isTrue => simp at h
    case isFalse htail =>
      split at h
      case h_1 head hhead =>
        cases h
        cases hpacked : cursor.tailPacked with
        | true => simp [hpacked] at hhead
        | false =>
          have hlength : 4 ≤ cursor.tail.length :=
            tailHead?_isSome_iff.mp (by simp_all)
          simp [remaining, tailBlocks, hfull, htail, hpacked, Nat.not_lt.mpr hlength]
      case h_2 hhead =>
        cases h
        cases hpacked : cursor.tailPacked with
        | true => simp [remaining, tailBlocks, afterTail, hfull, htail, hpacked]
        | false =>
          have hlength : cursor.tail.length < 4 := by
            have hnone : ¬ (tailHead? cursor.tail).isSome = true := by simp_all
            rw [tailHead?_isSome_iff] at hnone
            omega
          simp [remaining, tailBlocks, afterTail, hfull, htail, hlength]

theorem remaining_lt_of_next [CodeUnit U] {build : Build} {cursor after : Cursor U}
    {block : Except Fault UInt64} (h : cursor.next build = (some block, after)) :
    after.remaining < cursor.remaining := by
  have hnext := remaining_next h
  omega

-- Passes over `n` blocks and gives the one behind them. The first block that cannot be loaded,
-- or the end of the stream, stops it.
def nth [CodeUnit U] (build : Build) : Nat → Cursor U → Option (Except Fault UInt64) × Cursor U
  | 0, cursor => cursor.next build
  | n + 1, cursor =>
    match cursor.next build with
    | (some (.ok _), after) => nth build n after
    | (some (.error fault), after) => (some (.error fault), after)
    | (none, after) => (none, after)

-- All blocks to come, or the first fault among them, with the place behind the last one loaded.
def drain [CodeUnit U] (build : Build) (cursor : Cursor U) :
    Except Fault (List UInt64) × Cursor U :=
  match h : cursor.next build with
  | (some (.ok word), after) =>
    have : after.remaining < cursor.remaining := remaining_lt_of_next h
    let (words, last) := drain build after
    (words.map (word :: ·), last)
  | (some (.error fault), after) => (.error fault, after)
  | (none, after) => (.ok [], after)
  termination_by cursor.remaining

-- All blocks to come. The place is the caller's and stays where it is.
def words [CodeUnit U] (build : Build) (cursor : Cursor U) : Except Fault (List UInt64) :=
  (cursor.drain build).1

def count [CodeUnit U] (build : Build) (cursor : Cursor U) : Except Fault Nat :=
  (cursor.words build).map List.length

def last [CodeUnit U] (build : Build) (cursor : Cursor U) : Except Fault (Option UInt64) :=
  (cursor.words build).map List.getLast?

def debugText [CodeUnit U] (cursor : Cursor U) : String :=
  let listing (units : List U) := Text.bracketed (units.map CodeUnit.text)
  "Blocks \x7b full: Iter(" ++
    Text.bracketed (cursor.full.map fun group => listing group.toList) ++
    "), tail: " ++ listing cursor.tail ++
    ", tail_packed: " ++ (if cursor.tailPacked then "true" else "false") ++
    ", reader: " ++ cursor.packer.label ++ " \x7d"

end Cursor

-- The blocks of a string from its start, or the first fault among them.
def blocks {U : Type} [CodeUnit U] (build : Build) (packer : Packer) (units : List U) :
    Except Fault (List UInt64) :=
  (Cursor.ofUnits packer units).words build

-- What can be asked of a place in a block stream. `count`, `last`, `peek` and `peekAll` go on from
-- a copy of it, so that they leave it where it is, as the questions about its length do.
inductive CursorStep where
  | next
  | nth (n : Nat)
  | length
  | sizeBounds
  | drain
  | count
  | last
  | peek
  | peekAll
  | describe
  deriving DecidableEq, Repr

inductive CursorAnswer where
  | block (word : Option UInt64)
  | blocks (words : List UInt64)
  | number (n : Nat)
  | bounds (lower upper : Nat)
  | shown (text : String)
  | failed (fault : Fault)
  deriving DecidableEq, Repr

namespace CursorAnswer

def ofExcept {α : Type} (answer : α → CursorAnswer) : Except Fault α → CursorAnswer
  | .ok value => answer value
  | .error fault => .failed fault

def ofBlock : Option (Except Fault UInt64) → CursorAnswer
  | none => .block none
  | some outcome => ofExcept (fun word => .block (some word)) outcome

end CursorAnswer

namespace Cursor

variable {U : Type} [CodeUnit U]

def answer (build : Build) (cursor : Cursor U) : CursorStep → CursorAnswer × Cursor U
  | .next =>
    let (block, after) := cursor.next build
    (.ofBlock block, after)
  | .nth n =>
    let (block, after) := nth build n cursor
    (.ofBlock block, after)
  | .length => (.number cursor.remaining, cursor)
  | .sizeBounds => (.bounds cursor.sizeBounds.1 cursor.sizeBounds.2, cursor)
  | .drain =>
    let (words, after) := cursor.drain build
    (.ofExcept .blocks words, after)
  | .count => (.ofExcept .number (cursor.count build), cursor)
  | .last => (.ofExcept .block (cursor.last build), cursor)
  | .peek => (.ofBlock (cursor.next build).1, cursor)
  | .peekAll => (.ofExcept .blocks (cursor.words build), cursor)
  | .describe => (.shown cursor.debugText, cursor)

-- The answer to each step, with the count of blocks to come after it. A fault is an answer like
-- any other, and the steps after it go on from the place that it left.
def run (build : Build) : List CursorStep → Cursor U → List (CursorAnswer × Nat)
  | [], _ => []
  | step :: steps, cursor =>
    let (given, after) := cursor.answer build step
    (given, after.remaining) :: run build steps after

end Cursor

end Lanewise
