import Lanewise.ProcessState
import Lanewise.Proofs.Hash.Mixing
import Lanewise.Proofs.Stream.Blocks

namespace Lanewise.Hash

def Units.widen (text : List UInt8) : Units :=
  .words (text.map UInt8.toUInt16)

-- What stands for a text of bytes, whoever hashes it.
def Framed.ofText (seed : UInt64) (secret : Secret) (text : List UInt8) : Framed :=
  ⟨(windows text).map Window.byteWord, text.length.toUInt64, seed, secret⟩

namespace Hasher

theorem frame_bytes (hasher : Hasher) (build : Build) (text : List UInt8) :
    hasher.frame build (.bytes text) = .ok (.ofText hasher.seed hasher.secret text) := by
  rw [frame, Units.blocks, blocks_bytes]
  rfl

theorem frame_widen (hasher : Hasher) (build : Build) (text : List UInt8) :
    hasher.frame build (.widen text) = .ok (.ofText hasher.seed hasher.secret text) := by
  rw [frame, Units.widen, Units.blocks, blocks_map_toUInt16, Units.length, List.length_map]
  rfl

theorem run_hashWith_of_frame {hasher : Hasher} {build : Build} {units : Units} {framed : Framed}
    (mixer : Mixer Id) (h : hasher.frame build units = .ok framed) :
    Id.run (hasher.hashWith mixer build units) = .ok (Id.run (mixer.mix framed)) := by
  rw [hashWith_of_frame mixer h]
  rfl

end Hasher

-- The hasher that a process makes, with a secret and, if one is pinned, the packer of a facility
-- in the place of that of the process.
def hasherIn (process : ProcessState) (seed : UInt64) (secret : Secret)
    (pinned : Option Facility) : Hasher :=
  ((ProcessState.newHasher seed).run process).1.configured (some secret)
    (pinned.map Packer.ofFacility)

theorem seed_hasherIn (process : ProcessState) (seed : UInt64) (secret : Secret)
    (pinned : Option Facility) : (hasherIn process seed secret pinned).seed = seed := by
  cases pinned <;> rfl

theorem secret_hasherIn (process : ProcessState) (seed : UInt64) (secret : Secret)
    (pinned : Option Facility) : (hasherIn process seed secret pinned).secret = secret := by
  cases pinned <;> rfl

-- The hash of a text depends on the text, the seed, the secret and the mixer, and on nothing
-- else: not on the width of its units, nor on the process with its build, its environment and its
-- host, nor on the packer. It is always given, and it is what the mixer makes of the blocks of the
-- text when they are all at hand, however many of them it asks for. The hash of a process without
-- further settings is the one with the standard secret and the standard mixer.
theorem hash_eq_mixer_ofText (text : List UInt8) (seed : UInt64) :
    (∀ (mixer : Mixer Id) (secret : Secret) (process : ProcessState) (pinned : Option Facility),
      let hasher := hasherIn process seed secret pinned
      Id.run (hasher.hashWith mixer process.build (.widen text)) =
          .ok (Id.run (mixer.mix (.ofText seed secret text))) ∧
        Id.run (hasher.hashWith mixer process.build (.bytes text)) =
          .ok (Id.run (mixer.mix (.ofText seed secret text)))) ∧
      ∀ process : ProcessState,
        ((ProcessState.hash seed (.widen text)).run process).1 =
            .ok (xxh64 (.ofText seed .standard text)) ∧
          ((ProcessState.hash seed (.bytes text)).run process).1 =
            .ok (xxh64 (.ofText seed .standard text)) := by
  refine ⟨fun mixer secret process pinned => ?_, fun process => ?_⟩
  · intro hasher
    have hwide := hasher.frame_widen process.build text
    have hbytes := hasher.frame_bytes process.build text
    rw [seed_hasherIn, secret_hasherIn] at hwide hbytes
    exact ⟨Hasher.run_hashWith_of_frame mixer hwide, Hasher.run_hashWith_of_frame mixer hbytes⟩
  · have hrun (units : Units) :
        ((ProcessState.hash seed units).run process).1 =
          ((ProcessState.newHasher seed).run process).1.hash
            ((ProcessState.newHasher seed).run process).2.build units :=
      rfl
    have hhasher : ((ProcessState.newHasher seed).run process).1 =
        .ofSeed seed (ProcessState.packer.run process).1 :=
      rfl
    rw [hrun, hrun, hhasher]
    exact ⟨Hasher.run_hashWith_of_frame xxh64Mixer (Hasher.frame_widen _ _ text),
      Hasher.run_hashWith_of_frame xxh64Mixer (Hasher.frame_bytes _ _ text)⟩

end Lanewise.Hash
