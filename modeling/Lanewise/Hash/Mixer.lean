import Lanewise.Xxh64

namespace Lanewise.Hash

structure Secret where
  first : UInt64
  second : UInt64
  third : UInt64
  deriving DecidableEq, Repr

namespace Secret

def standard : Secret :=
  ⟨0x2D358DCCAA6C78A5, 0x8BB84B93962EACC9, 0x4B33A62ED433D4A3⟩

def words (secret : Secret) : List UInt64 :=
  [secret.first, secret.second, secret.third]

end Secret

-- What a mixer is told of a string apart from its blocks: how many of them there are, the length
-- in units, and what the hasher is keyed with.
structure Header where
  count : Nat
  length : UInt64
  seed : UInt64
  secret : Secret
  deriving DecidableEq, Repr

-- All that stands for one string: its blocks, its length in units, and what the hasher is keyed
-- with.
structure Framed where
  blocks : List UInt64
  length : UInt64
  seed : UInt64
  secret : Secret
  deriving DecidableEq, Repr

namespace Framed

def header (framed : Framed) : Header :=
  ⟨framed.blocks.length, framed.length, framed.seed, framed.secret⟩

-- The words that stand for a string, in the order in which they are absorbed. The length at the
-- end tells apart strings whose blocks are the same.
def words (framed : Framed) : List UInt64 :=
  framed.secret.words ++ framed.blocks ++ [framed.length]

def bytes (framed : Framed) : List UInt8 :=
  framed.words.flatMap (Word.toBytes 8)

end Framed

-- A function that mixes a stream of blocks into a hash. It asks for one block after the other, and
-- nothing makes it ask for all of them. Its steps may have effects of the monad `m`, such as
-- keeping a record of what it was handed.
structure Mixer (m : Type → Type) where
  State : Type
  start : Header → m State
  wants : State → Bool
  absorb : State → UInt64 → m State
  finish : Header → State → m UInt64

namespace Mixer

variable {m : Type → Type} [Monad m]

-- The state behind the blocks of a list, as far as the mixer asks for them.
def absorbAll (mixer : Mixer m) : mixer.State → List UInt64 → m mixer.State
  | state, [] => pure state
  | state, word :: words =>
    if mixer.wants state then do
      let next ← mixer.absorb state word
      absorbAll mixer next words
    else pure state

-- The hash of a string whose blocks are all at hand.
def mix (mixer : Mixer m) (framed : Framed) : m UInt64 := do
  let start ← mixer.start framed.header
  let state ← mixer.absorbAll start framed.blocks
  mixer.finish framed.header state

-- The mixer that takes all blocks before it acts on them.
def collecting (act : Framed → m UInt64) : Mixer m where
  State := List UInt64
  start _ := pure []
  wants _ := true
  absorb words word := pure (words ++ [word])
  finish header words := act ⟨words, header.length, header.seed, header.secret⟩

end Mixer

-- The mixer that hashers use unless they are given another one.
def xxh64Mixer : Mixer Id where
  State := Xxh64.State
  start header :=
    pure (header.secret.words.foldl Xxh64.State.updateWord (Xxh64.State.start header.seed))
  wants _ := true
  absorb state word := pure (state.updateWord word)
  finish header state := pure (state.updateWord header.length).digest

def xxh64 (framed : Framed) : UInt64 :=
  Id.run (xxh64Mixer.mix framed)

-- The mixer that records what it is handed and answers with the number of records so far.
def recorder : Mixer (StateM (List Framed)) :=
  .collecting fun framed => do
    modify (· ++ [framed])
    return (← get).length.toUInt64

end Lanewise.Hash
