import Lanewise.Basic

namespace Lanewise

-- The hash function XXH64, over a byte string at once and over one that comes in pieces.
namespace Xxh64

def prime1 : UInt64 := 0x9E3779B185EBCA87
def prime2 : UInt64 := 0xC2B2AE3D27D4EB4F
def prime3 : UInt64 := 0x165667B19E3779F9
def prime4 : UInt64 := 0x85EBCA77C2B2AE63
def prime5 : UInt64 := 0x27D4EB2F165667C5

def rotate (word : UInt64) (count : UInt64) : UInt64 :=
  (word <<< count) ||| (word >>> (64 - count))

def round (accumulator word : UInt64) : UInt64 :=
  rotate (accumulator + word * prime2) 31 * prime1

-- Four accumulators, each of which takes every fourth word of the input.
structure Lanes where
  a : UInt64
  b : UInt64
  c : UInt64
  d : UInt64
  deriving DecidableEq, Repr

namespace Lanes

def ofSeed (seed : UInt64) : Lanes :=
  ⟨seed + prime1 + prime2, seed + prime2, seed, seed - prime1⟩

def stripe (lanes : Lanes) (bytes : List UInt8) : Lanes :=
  ⟨round lanes.a (Word.ofBytes (bytes.take 8)),
    round lanes.b (Word.ofBytes ((bytes.drop 8).take 8)),
    round lanes.c (Word.ofBytes ((bytes.drop 16).take 8)),
    round lanes.d (Word.ofBytes ((bytes.drop 24).take 8))⟩

-- All whole stripes of a byte string, and the bytes that are left.
def stripes (lanes : Lanes) (bytes : List UInt8) : Lanes × List UInt8 :=
  if 32 ≤ bytes.length then stripes (lanes.stripe bytes) (bytes.drop 32)
  else (lanes, bytes)
  termination_by bytes.length
  decreasing_by simp only [List.length_drop]; omega

def mergeRound (hash lane : UInt64) : UInt64 :=
  (hash ^^^ round 0 lane) * prime1 + prime4

def merge (lanes : Lanes) : UInt64 :=
  let start := rotate lanes.a 1 + rotate lanes.b 7 + rotate lanes.c 12 + rotate lanes.d 18
  mergeRound (mergeRound (mergeRound (mergeRound start lanes.a) lanes.b) lanes.c) lanes.d

end Lanes

def absorbWord (hash word : UInt64) : UInt64 :=
  rotate (hash ^^^ round 0 word) 27 * prime1 + prime4

def absorbHalf (hash word : UInt64) : UInt64 :=
  rotate (hash ^^^ (word * prime1)) 23 * prime2 + prime3

def absorbByte (hash : UInt64) (byte : UInt8) : UInt64 :=
  rotate (hash ^^^ (byte.toUInt64 * prime5)) 11 * prime1

-- The bytes after the last whole stripe: whole words, then a half word, then single bytes.
def absorbRest (hash : UInt64) (bytes : List UInt8) : UInt64 :=
  if 8 ≤ bytes.length then
    absorbRest (absorbWord hash (Word.ofBytes (bytes.take 8))) (bytes.drop 8)
  else if 4 ≤ bytes.length then
    (bytes.drop 4).foldl absorbByte (absorbHalf hash (Word.ofBytes (bytes.take 4)))
  else bytes.foldl absorbByte hash
  termination_by bytes.length
  decreasing_by simp only [List.length_drop]; omega

def avalanche (hash : UInt64) : UInt64 :=
  let h := (hash ^^^ (hash >>> 33)) * prime2
  let h := (h ^^^ (h >>> 29)) * prime3
  h ^^^ (h >>> 32)

-- The hash from the accumulators, the bytes that no stripe took and the length of the input.
-- The accumulators count only once a stripe went into them.
def finish (seed : UInt64) (lanes : Lanes) (rest : List UInt8) (length : Nat) : UInt64 :=
  let start := if 32 ≤ length then lanes.merge else seed + prime5
  avalanche (absorbRest (start + length.toUInt64) rest)

def hash (seed : UInt64) (bytes : List UInt8) : UInt64 :=
  let (lanes, rest) := (Lanes.ofSeed seed).stripes bytes
  finish seed lanes rest bytes.length

-- A hash in progress: the input so far is cut into stripes, and what does not fill one waits.
structure State where
  seed : UInt64
  lanes : Lanes
  pending : List UInt8
  length : Nat
  deriving DecidableEq, Repr

namespace State

def start (seed : UInt64) : State :=
  ⟨seed, Lanes.ofSeed seed, [], 0⟩

def update (state : State) (bytes : List UInt8) : State :=
  let (lanes, pending) := state.lanes.stripes (state.pending ++ bytes)
  ⟨state.seed, lanes, pending, state.length + bytes.length⟩

-- A word goes in as its eight bytes, the lowest first.
def updateWord (state : State) (word : UInt64) : State :=
  state.update (Word.toBytes 8 word)

def digest (state : State) : UInt64 :=
  finish state.seed state.lanes state.pending state.length

end State

end Xxh64

end Lanewise
