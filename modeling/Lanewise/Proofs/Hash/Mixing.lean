import Lanewise.Hash.Hasher
import Lanewise.Proofs.Cursor.Replay

namespace Lanewise

-- A list of outcomes is a list of words, or it has a first fault behind some words.
theorem Outcome.collect_cases (outcomes : List Outcome) :
    (∃ words : List UInt64, outcomes = words.map .ok ∧ collect outcomes = .ok words) ∨
      ∃ (words : List UInt64) (fault : Fault) (rest : List Outcome),
        outcomes = words.map .ok ++ .error fault :: rest ∧ collect outcomes = .error fault := by
  induction outcomes with
  | nil => exact .inl ⟨[], rfl, rfl⟩
  | cons outcome outcomes ih =>
    cases outcome with
    | error fault => exact .inr ⟨[], fault, outcomes, rfl, rfl⟩
    | ok word =>
      obtain ⟨words, rfl, hcollect⟩ | ⟨words, fault, rest, rfl, hcollect⟩ := ih
      · exact .inl ⟨word :: words, rfl, by rw [collect_ok, hcollect]; rfl⟩
      · exact .inr ⟨word :: words, fault, rest, rfl, by rw [collect_ok, hcollect]; rfl⟩

namespace Hash

namespace Mixer

variable {m : Type → Type} [Monad m]

-- The state behind the outcomes of a list, as far as the mixer asks for them. The first fault that
-- it asks for stops it.
def takeAll (mixer : Mixer m) : mixer.State → List Outcome → m (Except Fault mixer.State)
  | state, [] => pure (.ok state)
  | state, outcome :: rest =>
    if mixer.wants state then
      match outcome with
      | .ok word => do
        let next ← mixer.absorb state word
        takeAll mixer next rest
      | .error fault => pure (.error fault)
    else pure (.ok state)

-- What a mixer makes of the outcomes of a stream.
def mixOutcomes (mixer : Mixer m) (header : Header) (outcomes : List Outcome) :
    m (Except Fault UInt64) := do
  let start ← mixer.start header
  let reached ← mixer.takeAll start outcomes
  mixer.conclude header reached

section Streams

variable {U : Type} [CodeUnit U]

-- A mixer that pulls from a place in a stream reads the outcomes that are still to come.
theorem pull_eq (mixer : Mixer m) (build : Build) (state : mixer.State) (cursor : Cursor U) :
    mixer.pull build state cursor = mixer.takeAll state (cursor.outcomes build) := by
  fun_induction pull mixer build state cursor with
  | case1 state cursor hwants word after hnext hfewer ih =>
    simp [Cursor.outcomes_of_next_some hnext, takeAll, hwants, ih]
  | case2 state cursor hwants fault after hnext =>
    simp [Cursor.outcomes_of_next_some hnext, takeAll, hwants]
  | case3 state cursor hwants after hnext =>
    rw [(Cursor.outcomes_of_next_none hnext).1, takeAll]
  | case4 state cursor hwants =>
    cases cursor.outcomes build with
    | nil => rfl
    | cons outcome rest =>
      rw [takeAll.eq_def]
      simp only [if_neg hwants]

theorem run_eq (mixer : Mixer m) (build : Build) (header : Header) (cursor : Cursor U) :
    mixer.run build header cursor = mixer.mixOutcomes header (cursor.outcomes build) := by
  simp only [run, mixOutcomes, pull_eq]

end Streams

section Laws

variable [LawfulMonad m]

-- Words in front of a list are absorbed as they would be alone. A mixer that stops among them does
-- not see the rest of the list.
theorem takeAll_append (mixer : Mixer m) (state : mixer.State) (words : List UInt64)
    (rest : List Outcome) :
    mixer.takeAll state (words.map .ok ++ rest) =
      mixer.absorbAll state words >>= fun reached => mixer.takeAll reached rest := by
  induction words generalizing state with
  | nil => simp [absorbAll]
  | cons word words ih =>
    cases hwants : mixer.wants state with
    | true => simp [takeAll, absorbAll, hwants, ih]
    | false => cases rest <;> simp [takeAll, absorbAll, hwants]

theorem mixOutcomes_map_ok (mixer : Mixer m) (framed : Framed) :
    mixer.mixOutcomes framed.header (framed.blocks.map .ok) = Except.ok <$> mixer.mix framed := by
  have htake (state : mixer.State) :
      mixer.takeAll state (framed.blocks.map .ok) =
        Except.ok <$> mixer.absorbAll state framed.blocks := by
    simpa [takeAll] using mixer.takeAll_append state framed.blocks []
  simp [mixOutcomes, htake, mix, conclude]

-- The effects of the mixer on the words before a fault remain, and it meets the fault only if it
-- asks for one more block.
theorem mixOutcomes_fault (mixer : Mixer m) (header : Header) (words : List UInt64)
    (fault : Fault) (rest : List Outcome) :
    mixer.mixOutcomes header (words.map .ok ++ .error fault :: rest) = (do
      let start ← mixer.start header
      let reached ← mixer.absorbAll start words
      if mixer.wants reached then pure (.error fault)
      else Except.ok <$> mixer.finish header reached) := by
  simp only [mixOutcomes, takeAll_append, takeAll, bind_assoc]
  congr 1
  funext start
  congr 1
  funext reached
  cases mixer.wants reached <;> simp [conclude]

theorem absorbAll_collecting (act : Framed → m UInt64) (before blocks : List UInt64) :
    (collecting act).absorbAll before blocks = pure (before ++ blocks) := by
  induction blocks generalizing before with
  | nil =>
    rw [List.append_nil]
    rfl
  | cons word words ih =>
    have hstep : (collecting act).absorbAll before (word :: words) =
        (pure (before ++ [word]) : m (List UInt64)) >>= fun next =>
          (collecting act).absorbAll next words :=
      rfl
    rw [hstep, pure_bind, ih, List.append_assoc]
    rfl

-- A mixer that collects the blocks acts on exactly what it was handed.
theorem mix_collecting (act : Framed → m UInt64) (framed : Framed) :
    (collecting act).mix framed = act framed := by
  have hmix : (collecting act).mix framed =
      (pure [] : m (List UInt64)) >>= fun start =>
        (collecting act).absorbAll start framed.blocks >>= fun words =>
          act ⟨words, framed.length, framed.seed, framed.secret⟩ :=
    rfl
  rw [hmix, pure_bind, absorbAll_collecting]
  exact pure_bind framed.blocks _

-- It does not act at all on blocks with a fault among them.
theorem mixOutcomes_collecting_fault (act : Framed → m UInt64) (header : Header)
    (words : List UInt64) (fault : Fault) (rest : List Outcome) :
    (collecting act).mixOutcomes header (words.map .ok ++ .error fault :: rest) =
      pure (.error fault) := by
  have hmix : (collecting act).mixOutcomes header (words.map .ok ++ .error fault :: rest) =
      (pure [] : m (List UInt64)) >>= fun start =>
        (collecting act).absorbAll start words >>= fun _ => pure (.error fault) :=
    mixOutcomes_fault (collecting act) header words fault rest
  rw [hmix, pure_bind, absorbAll_collecting]
  exact pure_bind words _

end Laws

theorem run_mixOutcomes (mixer : Mixer Id) (header : Header) (outcomes : List Outcome) :
    Id.run (mixer.mixOutcomes header outcomes) =
      Id.run (mixer.conclude header
        (Id.run (mixer.takeAll (Id.run (mixer.start header)) outcomes))) :=
  rfl

-- How many of the blocks at hand a mixer without effects asks for.
def askedFrom (mixer : Mixer Id) : mixer.State → List UInt64 → Nat
  | _, [] => 0
  | state, word :: words =>
    if mixer.wants state then askedFrom mixer (Id.run (mixer.absorb state word)) words + 1 else 0

def asked (mixer : Mixer Id) (framed : Framed) : Nat :=
  mixer.askedFrom (Id.run (mixer.start framed.header)) framed.blocks

-- Whether a mixer asks for every block of every string, as it has to if its hash is to depend on
-- all of them.
def Drains (mixer : Mixer Id) : Prop :=
  ∀ framed, mixer.asked framed = framed.blocks.length

theorem drains_of_wants {mixer : Mixer Id} (h : ∀ state, mixer.wants state = true) :
    mixer.Drains := by
  intro framed
  rw [asked]
  generalize Id.run (mixer.start framed.header) = state
  induction framed.blocks generalizing state with
  | nil => rfl
  | cons word words ih => rw [askedFrom, if_pos (h state), ih, List.length_cons]

theorem drains_xxh64Mixer : xxh64Mixer.Drains :=
  drains_of_wants fun _ => rfl

theorem drains_collecting (act : Framed → Id UInt64) : (collecting act).Drains :=
  drains_of_wants fun _ => rfl

-- A mixer that asks for all of some words still asks for a block behind the first ones of them.
theorem wants_of_askedFrom (mixer : Mixer Id) (state : mixer.State) (words : List UInt64)
    (word : UInt64) (rest : List UInt64)
    (h : mixer.askedFrom state (words ++ word :: rest) = (words ++ word :: rest).length) :
    mixer.wants (Id.run (mixer.absorbAll state words)) = true := by
  induction words generalizing state with
  | nil =>
    rw [List.nil_append, askedFrom] at h
    split at h
    case isTrue hwants => exact hwants
    case isFalse => simp at h
  | cons first words ih =>
    rw [List.cons_append, askedFrom] at h
    split at h
    case isTrue hwants =>
      have hrest : mixer.askedFrom (Id.run (mixer.absorb state first)) (words ++ word :: rest) =
          (words ++ word :: rest).length := by
        simpa using h
      rw [absorbAll, if_pos hwants]
      exact ih _ hrest
    case isFalse => simp at h

end Mixer

-- What the calls of `next` on the stream of a string give.
def Units.entries (build : Build) (packer : Packer) : Units → List Outcome
  | .bytes units => (Cursor.ofUnits packer units).entries build
  | .words units => (Cursor.ofUnits packer units).entries build

theorem Units.blocks_eq_collect (build : Build) (packer : Packer) (units : Units) :
    units.blocks build packer = Outcome.collect (units.entries build packer) := by
  cases units <;>
    simp only [blocks, entries, Lanewise.blocks, Cursor.words_eq, Cursor.entries_eq]

namespace Hasher

section Streams

variable {m : Type → Type} [Monad m]

-- A hash is what the mixer makes of the entries of the string under the packer of the hasher, with
-- their count, the length in units, the seed and the secret.
theorem hashWith_eq (hasher : Hasher) (mixer : Mixer m) (build : Build) (units : Units) :
    hasher.hashWith mixer build units =
      let entries := units.entries build hasher.packer
      mixer.mixOutcomes (hasher.header entries.length units.length) entries := by
  cases units <;>
    simp only [hashWith, mixUnits, Mixer.run_eq, Units.entries, Units.length, Cursor.entries_eq,
      Cursor.length_outcomes]

-- The entries of a string are the blocks that stand for it, or one of them is the fault for which
-- nothing stands for it.
theorem frame_cases (hasher : Hasher) (build : Build) (units : Units) :
    (∃ words : List UInt64, units.entries build hasher.packer = words.map .ok ∧
        hasher.frame build units =
          .ok ⟨words, units.length.toUInt64, hasher.seed, hasher.secret⟩) ∨
      ∃ (words : List UInt64) (fault : Fault) (rest : List Outcome),
        units.entries build hasher.packer = words.map .ok ++ .error fault :: rest ∧
          hasher.frame build units = .error fault := by
  rw [frame, Units.blocks_eq_collect]
  obtain ⟨words, hentries, hcollect⟩ | ⟨words, fault, rest, hentries, hcollect⟩ :=
    Outcome.collect_cases (units.entries build hasher.packer)
  · exact .inl ⟨words, hentries, by rw [hcollect]; rfl⟩
  · exact .inr ⟨words, fault, rest, hentries, by rw [hcollect]; rfl⟩

variable [LawfulMonad m] {hasher : Hasher} {build : Build} {units : Units}

theorem hashWith_of_frame {framed : Framed} (mixer : Mixer m)
    (h : hasher.frame build units = .ok framed) :
    hasher.hashWith mixer build units = Except.ok <$> mixer.mix framed := by
  obtain ⟨words, hentries, hframe⟩ | ⟨words, fault, rest, -, hframe⟩ :=
    hasher.frame_cases build units
  · cases hframe.symm.trans h
    simp only [hashWith_eq, hentries, List.length_map]
    exact mixer.mixOutcomes_map_ok ⟨words, units.length.toUInt64, hasher.seed, hasher.secret⟩
  · cases hframe.symm.trans h

theorem hashWith_of_fault {words : List UInt64} {fault : Fault} {rest : List Outcome}
    (mixer : Mixer m)
    (h : units.entries build hasher.packer = words.map .ok ++ .error fault :: rest) :
    let header := hasher.header (units.entries build hasher.packer).length units.length
    hasher.hashWith mixer build units = (do
      let start ← mixer.start header
      let reached ← mixer.absorbAll start words
      if mixer.wants reached then pure (.error fault)
      else Except.ok <$> mixer.finish header reached) := by
  intro header
  have hmix := mixer.mixOutcomes_fault header words fault rest
  rw [← h] at hmix
  rw [hashWith_eq, ← hmix]

end Streams

-- A mixer that asks for every block sees exactly the collected blocks, and it meets the fault that
-- collecting them meets.
theorem hashWith_of_drains (hasher : Hasher) {mixer : Mixer Id} (h : mixer.Drains) (build : Build)
    (units : Units) :
    Id.run (hasher.hashWith mixer build units) =
      (hasher.frame build units).map fun framed => Id.run (mixer.mix framed) := by
  obtain ⟨words, -, hframe⟩ | ⟨words, fault, rest, hentries, hframe⟩ :=
    hasher.frame_cases build units
  · rw [hashWith_of_frame mixer hframe, hframe]
    rfl
  · -- the mixer cannot tell the string from one of as many blocks that begins with the same words
    let header := hasher.header (units.entries build hasher.packer).length units.length
    let blocks := words ++ 0 :: List.replicate rest.length 0
    have hcount : (units.entries build hasher.packer).length = blocks.length := by
      simp [hentries, blocks]
    have hheader : Framed.header ⟨blocks, header.length, header.seed, header.secret⟩ = header := by
      simp only [Framed.header, ← hcount]
      rfl
    have hasked := h ⟨blocks, header.length, header.seed, header.secret⟩
    rw [Mixer.asked, hheader] at hasked
    have hwants := mixer.wants_of_askedFrom _ words 0 (List.replicate rest.length 0) hasked
    rw [hashWith_of_fault mixer hentries, hframe]
    exact if_pos hwants

-- A record holds what stands for the string. A string with a fault leaves none.
theorem hashWith_recorder (hasher : Hasher) (build : Build) (units : Units)
    (records : List Framed) :
    (hasher.hashWith recorder build units).run records =
      match hasher.frame build units with
      | .ok framed => (.ok (records.length + 1).toUInt64, records ++ [framed])
      | .error fault => (.error fault, records) := by
  obtain ⟨words, -, hframe⟩ | ⟨words, fault, rest, hentries, hframe⟩ :=
    hasher.frame_cases build units
  · rw [hashWith_of_frame recorder hframe, hframe, recorder, Mixer.mix_collecting]
    simp only [map_bind, map_pure, StateT.run_bind, StateT.run_modify, StateT.run_get, pure_bind,
      StateT.run_pure, List.length_append, List.length_singleton]
    rfl
  · rw [hashWith_eq, hframe, recorder]
    simp only [hentries, Mixer.mixOutcomes_collecting_fault]
    rfl

end Hasher

end Hash

end Lanewise
