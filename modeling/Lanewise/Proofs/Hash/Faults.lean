import Lanewise.Proofs.Hash.Width

namespace Lanewise

theorem Build.checks_iff {build : Build} : build.checks = true ↔ build = .checked := by
  cases build <;> simp [checks]

def unlessFault {α : Type} (value : α) : Option Fault → Except Fault α
  | some fault => .error fault
  | none => .ok value

theorem exists_unlessFault_eq_error_iff {α : Type} (value : α) (fault? : Option Fault) :
    (∃ fault, unlessFault value fault? = .error fault) ↔ fault?.isSome = true := by
  cases fault? <;> simp [unlessFault]

theorem Outcome.collect_map_unlessFault {α : Type} (refused : α → Bool) (fault : α → Fault)
    (word : α → UInt64) (list : List α) :
    collect (list.map fun a => if refused a then .error (fault a) else .ok (word a)) =
      unlessFault (list.map word) ((list.find? refused).map fault) := by
  induction list with
  | nil => rfl
  | cons a list ih =>
    by_cases ha : refused a = true
    · rw [List.map_cons, List.find?_cons_of_pos ha, if_pos ha, collect_error]
      rfl
    · rw [List.map_cons, List.find?_cons_of_neg ha, if_neg ha, collect_ok, ih]
      cases list.find? refused <;> rfl

-- What a build reports for the first blocks of a string: the fault of the first one of them that
-- shows a unit which does not fit in a byte, if the build checks at all.
def faultWithin? (build : Build) (count : Nat) (units : List UInt16) : Option Fault :=
  (((windows units).take count).find? fun window =>
    build.checks && window.showsWide).map Window.fault

def firstFault? (build : Build) (units : List UInt16) : Option Fault :=
  ((windows units).find? fun window => build.checks && window.showsWide).map Window.fault

theorem Window.showsWide_iff {window : Window UInt16} :
    window.showsWide = true ↔ ∃ unit ∈ window.looked, 0xFF < unit := by
  simp [showsWide, Packer.isWide]

theorem firstFault?_isSome_iff (build : Build) (units : List UInt16) :
    (firstFault? build units).isSome = true ↔
      build = .checked ∧
        ∃ i : Fin units.length, 0xFF < units[i] ∧ ¬ Unsampled units.length i := by
  rw [firstFault?, Option.isSome_map, List.find?_isSome, ← exists_looked_iff,
    ← Build.checks_iff]
  simp only [Bool.and_eq_true, Window.showsWide_iff]
  constructor
  · rintro ⟨window, hwindow, hchecks, hwide⟩
    exact ⟨hchecks, window, hwindow, hwide⟩
  · rintro ⟨hchecks, window, hwindow, hwide⟩
    exact ⟨window, hwindow, hchecks, hwide⟩

theorem blocks_words (build : Build) (packer : Packer) (units : List UInt16) :
    blocks build packer units =
      unlessFault ((windows units).map (Window.unitWord packer)) (firstFault? build units) := by
  rw [blocks, Cursor.words_eq, outcomes_ofUnits_words]
  exact Outcome.collect_map_unlessFault _ Window.fault (Window.unitWord packer) (windows units)

namespace Hash

-- A mixer without effects gets as far as the first refused block that it asks for.
theorem Mixer.takeAll_map_unlessFault {α : Type} (mixer : Mixer Id) (refused : α → Bool)
    (fault : α → Fault) (word : α → UInt64) (list : List α) (state : mixer.State) :
    Id.run (mixer.takeAll state
        (list.map fun a => if refused a then .error (fault a) else .ok (word a))) =
      unlessFault (Id.run (mixer.absorbAll state (list.map word)))
        (((list.take (mixer.askedFrom state (list.map word))).find? refused).map fault) := by
  induction list generalizing state with
  | nil => rfl
  | cons a list ih =>
    simp only [List.map_cons, absorbAll, askedFrom]
    cases hwants : mixer.wants state with
    | false =>
      rw [takeAll.eq_def]
      simp only [hwants]
      rfl
    | true =>
      rw [if_pos rfl, if_pos rfl, List.take_succ_cons]
      by_cases ha : refused a = true
      · rw [List.find?_cons_of_pos ha, if_pos ha, takeAll, if_pos hwants]
        rfl
      · rw [List.find?_cons_of_neg ha, if_neg ha, takeAll, if_pos hwants]
        exact ih (Id.run (mixer.absorb state (word a)))

theorem Mixer.mixOutcomes_map_unlessFault {α : Type} (mixer : Mixer Id) (refused : α → Bool)
    (fault : α → Fault) (word : α → UInt64) (list : List α) {framed : Framed}
    (h : framed.blocks = list.map word) :
    Id.run (mixer.mixOutcomes framed.header
        (list.map fun a => if refused a then .error (fault a) else .ok (word a))) =
      unlessFault (Id.run (mixer.mix framed))
        (((list.take (mixer.asked framed)).find? refused).map fault) := by
  have htake := mixer.takeAll_map_unlessFault refused fault word list
    (Id.run (mixer.start framed.header))
  rw [← h] at htake
  rw [run_mixOutcomes, htake, asked]
  cases (list.take _).find? refused <;> rfl

namespace Hasher

def framed (hasher : Hasher) (units : List UInt16) : Framed :=
  ⟨(windows units).map (Window.unitWord hasher.packer), units.length.toUInt64, hasher.seed,
    hasher.secret⟩

theorem header_framed (hasher : Hasher) (units : List UInt16) :
    (hasher.framed units).header = hasher.header (windows units).length units.length := by
  simp [Framed.header, framed, header]

theorem frame_words (hasher : Hasher) (build : Build) (units : List UInt16) :
    hasher.frame build (.words units) =
      unlessFault (hasher.framed units) (firstFault? build units) := by
  rw [frame, Units.blocks, blocks_words]
  cases firstFault? build units <;> rfl

-- Only the blocks that a mixer asks for can stop it.
theorem hashWith_words (hasher : Hasher) (mixer : Mixer Id) (build : Build)
    (units : List UInt16) :
    let framed := hasher.framed units
    Id.run (hasher.hashWith mixer build (.words units)) =
      unlessFault (Id.run (mixer.mix framed)) (faultWithin? build (mixer.asked framed) units) := by
  intro framed
  have hentries : (Units.words units).entries build hasher.packer =
      (windows units).map (Window.load build hasher.packer) := by
    rw [Units.entries, Cursor.entries_eq, outcomes_ofUnits_words]
  have hblocks : framed.blocks = (windows units).map (Window.unitWord hasher.packer) := rfl
  simp only [hashWith_eq, hentries, List.length_map, Units.length, ← hasher.header_framed units]
  exact mixer.mixOutcomes_map_unlessFault (fun window => build.checks && window.showsWide)
    Window.fault (Window.unitWord hasher.packer) (windows units) hblocks

-- A mixer that asks for every block is stopped exactly if the blocks cannot be collected.
theorem hashWith_words_of_drains (hasher : Hasher) {mixer : Mixer Id} (h : mixer.Drains)
    (build : Build) (units : List UInt16) :
    Id.run (hasher.hashWith mixer build (.words units)) =
      unlessFault (Id.run (mixer.mix (hasher.framed units))) (firstFault? build units) := by
  rw [hasher.hashWith_of_drains h, frame_words]
  cases firstFault? build units <;> rfl

end Hasher

-- A mixer that asks for no block does not meet the fault that collecting the blocks meets.
example :
    let lengthMixer : Mixer Id :=
      ⟨Unit, fun _ => pure (), fun _ => false, fun _ _ => pure (),
        fun header _ => pure header.length⟩
    let hasher := Hasher.ofSeed 0 .scalar
    (hasher.frame .checked (.words [0x100])).isOk = false ∧
      (Id.run (hasher.hashWith lengthMixer .checked (.words [0x100]))).toOption = some 1 := by
  cbv

end Hash

end Lanewise
