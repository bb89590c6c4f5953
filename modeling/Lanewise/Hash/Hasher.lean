import Lanewise.Cursor
import Lanewise.Hash.Mixer

namespace Lanewise.Hash

namespace Mixer

variable {m : Type → Type} [Monad m] {U : Type} [CodeUnit U]

-- The state behind the blocks from a place in a stream on, as far as the mixer asks for them. A
-- block is loaded when it is asked for and not before. One that cannot be loaded stops the mixer,
-- whose effects up to there remain.
def pull (mixer : Mixer m) (build : Build) (state : mixer.State) (cursor : Cursor U) :
    m (Except Fault mixer.State) :=
  if mixer.wants state then
    match h : cursor.next build with
    | (some (.ok word), after) => do
      have : after.remaining < cursor.remaining := Cursor.remaining_lt_of_next h
      let next ← mixer.absorb state word
      mixer.pull build next after
    | (some (.error fault), _) => pure (.error fault)
    | (none, _) => pure (.ok state)
  else pure (.ok state)
  termination_by cursor.remaining

-- The hash of the state that a mixer has reached, if no fault stopped it.
def conclude (mixer : Mixer m) (header : Header) :
    Except Fault mixer.State → m (Except Fault UInt64)
  | .ok state => Except.ok <$> mixer.finish header state
  | .error fault => pure (.error fault)

def run (mixer : Mixer m) (build : Build) (header : Header) (cursor : Cursor U) :
    m (Except Fault UInt64) := do
  let start ← mixer.start header
  let reached ← mixer.pull build start cursor
  mixer.conclude header reached

end Mixer

-- The settings of a hasher. Its mixer stands beside it, as the settings do not depend on it.
structure Hasher where
  seed : UInt64
  secret : Secret
  packer : Packer
  deriving DecidableEq, Repr

inductive Units where
  | bytes (units : List UInt8)
  | words (units : List UInt16)
  deriving DecidableEq, Repr

namespace Units

def length : Units → Nat
  | .bytes units => units.length
  | .words units => units.length

def blocks (build : Build) (packer : Packer) : Units → Except Fault (List UInt64)
  | .bytes units => Lanewise.blocks build packer units
  | .words units => Lanewise.blocks build packer units

end Units

namespace Hasher

def ofSeed (seed : UInt64) (packer : Packer) : Hasher :=
  ⟨seed, .standard, packer⟩

def withSecret (hasher : Hasher) (secret : Secret) : Hasher :=
  { hasher with secret := secret }

def withPacker (hasher : Hasher) (packer : Packer) : Hasher :=
  { hasher with packer := packer }

-- What stands for a string under the hasher, unless a block of it cannot be loaded.
def frame (hasher : Hasher) (build : Build) (units : Units) : Except Fault Framed :=
  (units.blocks build hasher.packer).map fun blocks =>
    ⟨blocks, units.length.toUInt64, hasher.seed, hasher.secret⟩

section Mixing

variable {m : Type → Type} [Monad m]

def header (hasher : Hasher) (count length : Nat) : Header :=
  ⟨count, length.toUInt64, hasher.seed, hasher.secret⟩

-- The mixer is handed the stream of a string at its start.
def mixUnits {U : Type} [CodeUnit U] (hasher : Hasher) (mixer : Mixer m) (build : Build)
    (units : List U) : m (Except Fault UInt64) :=
  let stream := Cursor.ofUnits hasher.packer units
  mixer.run build (hasher.header stream.remaining units.length) stream

def hashWith (hasher : Hasher) (mixer : Mixer m) (build : Build) :
    Units → m (Except Fault UInt64)
  | .bytes units => hasher.mixUnits mixer build units
  | .words units => hasher.mixUnits mixer build units

end Mixing

def hash (hasher : Hasher) (build : Build) (units : Units) : Except Fault UInt64 :=
  Id.run (hasher.hashWith xxh64Mixer build units)

-- The hashes of many strings in their order. One string that cannot be hashed stops them all.
def hashAll (hasher : Hasher) (build : Build) (strings : List Units) :
    Except Fault (List UInt64) :=
  strings.mapM (hasher.hash build)

-- The settings of a hasher with the standard mixer. The secret is not shown.
def debugText (hasher : Hasher) : String :=
  "StringHasher \x7b seed: " ++ toString hasher.seed.toNat ++ ", mixer: Xxh64Mixer, reader: " ++
    hasher.packer.facility.label ++ ", .. \x7d"

end Hasher

inductive SessionStep where
  | configure (secret : Option Secret) (packer : Option Packer)
  | describe
  | hash (units : Units)
  | blocks (units : Units)
  deriving DecidableEq, Repr

inductive SessionAnswer where
  | settings (hasher : Hasher)
  | word (outcome : Except Fault UInt64)
  | words (outcome : Except Fault (List UInt64))

namespace Hasher

def configured (hasher : Hasher) (secret : Option Secret) (packer : Option Packer) : Hasher :=
  let keyed := secret.elim hasher hasher.withSecret
  packer.elim keyed keyed.withPacker

section Sessions

variable {m : Type → Type} [Monad m]

def answer (hasher : Hasher) (mixer : Mixer m) (build : Build) :
    SessionStep → m (SessionAnswer × Hasher)
  | .configure secret packer =>
    let after := hasher.configured secret packer
    pure (.settings after, after)
  | .describe => pure (.settings hasher, hasher)
  | .hash units => do
    let outcome ← hasher.hashWith mixer build units
    return (.word outcome, hasher)
  | .blocks units => pure (.words (units.blocks build hasher.packer), hasher)

def session (mixer : Mixer m) (build : Build) :
    List SessionStep → Hasher → m (List SessionAnswer)
  | [], _ => pure []
  | step :: steps, hasher => do
    let (given, after) ← hasher.answer mixer build step
    return given :: (← session mixer build steps after)

end Sessions

end Hasher

end Lanewise.Hash
