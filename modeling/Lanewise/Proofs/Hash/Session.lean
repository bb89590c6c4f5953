import Lanewise.Proofs.Hash.Collision

namespace Lanewise.Hash

namespace SessionStep

def secret? : SessionStep → Option Secret
  | .configure secret _ => secret
  | .describe | .hash _ | .blocks _ => none

def packer? : SessionStep → Option Packer
  | .configure _ packer => packer
  | .describe | .hash _ | .blocks _ => none

def hashed? : SessionStep → Option Units
  | .hash units => some units
  | .configure _ _ | .describe | .blocks _ => none

end SessionStep

-- What the steps of a session have set last, searched from the latest step on.
def latestSecret (past : List SessionStep) : Secret :=
  (past.reverse.findSome? SessionStep.secret?).getD .standard

def latestPacker (active : Packer) (past : List SessionStep) : Packer :=
  (past.reverse.findSome? SessionStep.packer?).getD active

def latestSettings (seed : UInt64) (active : Packer) (past : List SessionStep) : Hasher :=
  ⟨seed, latestSecret past, latestPacker active past⟩

namespace SessionStep

variable {m : Type → Type} [Monad m]

-- The answer to a step under given settings. A string is hashed by handing the mixer the entries
-- of its stream, with their count, the length in units and what the settings hold.
def reply (mixer : Mixer m) (build : Build) (settings : Hasher) : SessionStep → m SessionAnswer
  | .configure _ _ | .describe => pure (.settings settings)
  | .blocks units => pure (.words (units.blocks build settings.packer))
  | .hash units =>
    let entries := units.entries build settings.packer
    SessionAnswer.word <$>
      mixer.mixOutcomes (settings.header entries.length units.length) entries

theorem reply_hash (mixer : Mixer m) (build : Build) (settings : Hasher) (units : Units) :
    (hash units).reply mixer build settings =
      SessionAnswer.word <$> settings.hashWith mixer build units := by
  rw [settings.hashWith_eq, reply]

variable [LawfulMonad m]

theorem reply_hash_of_frame (mixer : Mixer m) {build : Build} {settings : Hasher} {units : Units}
    {framed : Framed} (h : settings.frame build units = .ok framed) :
    (hash units).reply mixer build settings =
      (fun word => SessionAnswer.word (.ok word)) <$> mixer.mix framed := by
  rw [reply_hash, Hasher.hashWith_of_frame mixer h, Functor.map_map]

theorem reply_hash_of_blocks (mixer : Mixer m) {build : Build} {settings : Hasher}
    {units : Units} {words : List UInt64} (h : units.blocks build settings.packer = .ok words) :
    (hash units).reply mixer build settings =
      (fun word => SessionAnswer.word (.ok word)) <$>
        mixer.mix ⟨words, units.length.toUInt64, settings.seed, settings.secret⟩ := by
  apply reply_hash_of_frame
  rw [Hasher.frame, h]
  rfl

theorem reply_hash_of_narrow (mixer : Mixer m) (build : Build) (settings : Hasher) {units : Units}
    (h : units.Narrow) :
    (hash units).reply mixer build settings =
      (fun word => SessionAnswer.word (.ok word)) <$>
        mixer.mix (.ofText settings.seed settings.secret units.text) :=
  reply_hash_of_frame mixer (settings.frame_of_narrow build h)

end SessionStep

-- The strings that a session hashes, each with the secret that was set last.
def hashCalls (steps : List SessionStep) : List (Secret × Units) :=
  steps.zipIdx.filterMap fun placed =>
    placed.1.hashed?.map fun units => (latestSecret (steps.take (placed.2 + 1)), units)

def SessionAnswer.outcome? : SessionAnswer → Option (Except Fault UInt64)
  | .word outcome => some outcome
  | .settings _ | .words _ => none

def outcomes (answers : List SessionAnswer) : List (Except Fault UInt64) :=
  answers.filterMap SessionAnswer.outcome?

theorem latestSettings_append (seed : UInt64) (active : Packer) (past : List SessionStep)
    (step : SessionStep) :
    latestSettings seed active (past ++ [step]) =
      (latestSettings seed active past).configured step.secret? step.packer? := by
  cases hsecret : step.secret? <;> cases hpacker : step.packer? <;>
    simp [latestSettings, latestSecret, latestPacker, Hasher.configured, Hasher.withSecret,
      Hasher.withPacker, hsecret, hpacker]

section Runs

variable {m : Type → Type} [Monad m] [LawfulMonad m]

-- Whatever a step does, the settings that it leaves are those that it is answered from.
theorem Hasher.answer_eq (hasher : Hasher) (mixer : Mixer m) (build : Build)
    (step : SessionStep) :
    let after := hasher.configured step.secret? step.packer?
    hasher.answer mixer build step =
      (fun given => (given, after)) <$> step.reply mixer build after := by
  intro after
  cases step with
  | configure secret packer =>
    simp [answer, SessionStep.reply, after, SessionStep.secret?, SessionStep.packer?]
  | describe | blocks _ =>
    have hafter : after = hasher := rfl
    simp [answer, SessionStep.reply, hafter]
  | hash units =>
    have hafter : after = hasher := rfl
    simp [answer, SessionStep.reply_hash, hafter]

theorem Hasher.session_cons (mixer : Mixer m) (build : Build) (step : SessionStep)
    (steps : List SessionStep) (hasher : Hasher) :
    session mixer build (step :: steps) hasher = do
      let given ← step.reply mixer build (hasher.configured step.secret? step.packer?)
      let rest ← session mixer build steps (hasher.configured step.secret? step.packer?)
      return given :: rest := by
  rw [session, answer_eq, bind_map_left]

-- A session from any place in it on. The steps behind count only for what they have set last.
theorem Hasher.session_latestSettings (mixer : Mixer m) (build : Build) (seed : UInt64)
    (active : Packer) (past steps : List SessionStep) :
    session mixer build steps (latestSettings seed active past) =
      (steps.zipIdx past.length).mapM fun placed =>
        placed.1.reply mixer build
          (latestSettings seed active ((past ++ steps).take (placed.2 + 1))) := by
  induction steps generalizing past with
  | nil => rfl
  | cons step steps ih =>
    have hthrough : (past ++ step :: steps).take (past.length + 1) = past ++ [step] := by
      simp [List.take_append]
    have hrest := ih (past ++ [step])
    rw [List.length_append, List.append_assoc] at hrest
    rw [session_cons, ← latestSettings_append, hrest, List.zipIdx_cons, List.mapM_cons, hthrough]
    rfl

-- Where each action of a traversal gives at most one of the wanted results, all of them are those
-- of a traversal of the wanted calls alone.
theorem map_filterMap_mapM {α β γ δ : Type} {act : α → m β} {wanted : β → Option δ}
    {call : α → Option γ} {give : γ → m δ} {list : List α}
    (h : ∀ a ∈ list, wanted <$> act a =
      (call a).elim (pure none) fun c => some <$> give c) :
    List.filterMap wanted <$> list.mapM act = (list.filterMap call).mapM give := by
  induction list with
  | nil => simp
  | cons a list ih =>
    have hhead := h a List.mem_cons_self
    have hrest := ih fun b hb => h b (List.mem_cons_of_mem _ hb)
    have hsplit : List.filterMap wanted <$> (a :: list).mapM act = do
        let found ← wanted <$> act a
        let rest ← List.filterMap wanted <$> list.mapM act
        return found.toList ++ rest := by
      simp only [List.mapM_cons, map_bind, map_pure, bind_map_left]
      congr 1
      funext b
      congr 1
      funext bs
      cases hb : wanted b <;> simp [hb]
    rw [hsplit, hrest, hhead]
    cases hcall : call a with
    | none => simp [hcall]
    | some c => simp [hcall]

theorem outcomes_session (mixer : Mixer m) (build : Build) (seed : UInt64) (active : Packer)
    {steps : List SessionStep} (h : ∀ call ∈ hashCalls steps, call.2.Narrow) :
    outcomes <$> Hasher.session mixer build steps (latestSettings seed active []) =
      (hashCalls steps).mapM fun call =>
        Except.ok <$> mixer.mix (.ofText seed call.1 call.2.text) := by
  rw [Hasher.session_latestSettings]
  apply map_filterMap_mapM
  rintro ⟨step, index⟩ hplaced
  cases step with
  | configure _ _ | describe | blocks _ =>
    simp [SessionStep.reply, SessionStep.hashed?, SessionAnswer.outcome?]
  | hash units =>
    have hmem : (latestSecret (steps.take (index + 1)), units) ∈ hashCalls steps :=
      List.mem_filterMap.mpr ⟨_, hplaced, rfl⟩
    simp only [SessionStep.reply_hash_of_narrow _ _ _ (h _ hmem)]
    simp [SessionStep.hashed?, SessionAnswer.outcome?, latestSettings]

-- A session of a new hasher depends on its steps through the settings alone, and on those only as
-- far as they matter. Each step is answered from the seed, from the secret and the packer that were
-- set last, and from the standard secret and the packer of the process before that. A string is
-- hashed by handing the mixer its entries. These are exactly its blocks where they can be
-- collected. Where one of them cannot be loaded, the mixer acts on those before it and meets the
-- fault if it asks for one more. A hash of narrow units needs neither the packer nor the build. So
-- two sessions that hash the same narrow strings, each under the same secret, get the same hashes,
-- and leave the same effects of the mixer.
theorem session_newHasher (mixer : Mixer m) (seed : UInt64) :
    let run (process : ProcessState) (steps : List SessionStep) :=
      Hasher.session mixer process.build steps ((ProcessState.newHasher seed).run process).1
    (∀ process steps, run process steps =
        steps.zipIdx.mapM fun placed =>
          placed.1.reply mixer process.build
            (latestSettings seed (ProcessState.packer.run process).1
              (steps.take (placed.2 + 1)))) ∧
      (∀ build settings, ∀ (units : Units) words, units.blocks build settings.packer = .ok words →
        (SessionStep.hash units).reply mixer build settings =
          (fun word => .word (.ok word)) <$>
            mixer.mix ⟨words, units.length.toUInt64, settings.seed, settings.secret⟩) ∧
      (∀ build settings, ∀ (units : Units) words fault rest,
        let entries := units.entries build settings.packer
        let header := settings.header entries.length units.length
        entries = words.map .ok ++ .error fault :: rest →
        (SessionStep.hash units).reply mixer build settings =
          SessionAnswer.word <$> do
            let start ← mixer.start header
            let reached ← mixer.absorbAll start words
            if mixer.wants reached then pure (.error fault)
            else Except.ok <$> mixer.finish header reached) ∧
      (∀ build settings, ∀ units : Units, units.Narrow →
        (SessionStep.hash units).reply mixer build settings =
          (fun word => .word (.ok word)) <$>
            mixer.mix (.ofText settings.seed settings.secret units.text)) ∧
      ∀ process other steps others, hashCalls steps = hashCalls others →
        (∀ call ∈ hashCalls steps, call.2.Narrow) →
        outcomes <$> run process steps = outcomes <$> run other others := by
  intro run
  have hrun (process : ProcessState) (steps : List SessionStep) : run process steps =
      Hasher.session mixer process.build steps
        (latestSettings seed (ProcessState.packer.run process).1 []) :=
    rfl
  refine ⟨fun process steps => ?_, fun build settings units words h => ?_,
    fun build settings units words fault rest => ?_, fun build settings units h => ?_,
    fun process other steps others hcalls hnarrow => ?_⟩
  · rw [hrun, Hasher.session_latestSettings]
    rfl
  · exact SessionStep.reply_hash_of_blocks mixer h
  · intro entries header hentries
    rw [SessionStep.reply_hash, Hasher.hashWith_of_fault mixer hentries]
  · exact SessionStep.reply_hash_of_narrow mixer build settings h
  · have hothers : ∀ call ∈ hashCalls others, call.2.Narrow := hcalls ▸ hnarrow
    rw [hrun, hrun, outcomes_session mixer _ _ _ hnarrow, outcomes_session mixer _ _ _ hothers,
      hcalls]

end Runs

theorem session_recorder_of_reordered :
    let unchecked := ProcessState.launch .unchecked .sse2Only none
    let checked := ProcessState.launch .checked .bare none
    let run (process : ProcessState) (steps : List SessionStep) :=
      Hasher.session recorder process.build steps ((ProcessState.newHasher 5).run process).1
    let steps : List SessionStep :=
      [.configure (some ⟨1, 2, 3⟩) (some .threeDNow), .hash (.words [0x61, 0xE9])]
    let others : List SessionStep :=
      [.configure (some ⟨7, 8, 9⟩) none, .configure none (some .altiVec), .describe,
        .configure (some ⟨1, 2, 3⟩) none, .hash (.words [0x61, 0xE9])]
    hashCalls steps = [(⟨1, 2, 3⟩, .words [0x61, 0xE9])] ∧ hashCalls others = hashCalls steps ∧
      Units.Narrow (.words [0x61, 0xE9]) ∧
      outcomes <$> run unchecked steps = outcomes <$> run checked others := by
  intro unchecked checked run steps others
  have hsteps : hashCalls steps = [(⟨1, 2, 3⟩, .words [0x61, 0xE9])] := rfl
  have hothers : hashCalls others = hashCalls steps := rfl
  have hnarrow : Units.Narrow (.words [0x61, 0xE9]) := by simp [Units.Narrow]
  refine ⟨hsteps, hothers, hnarrow, ?_⟩
  refine (session_newHasher recorder 5).2.2.2.2 unchecked checked steps others hothers.symm ?_
  intro call hcall
  rw [hsteps] at hcall
  rw [List.mem_singleton.mp hcall]
  exact hnarrow

end Lanewise.Hash
