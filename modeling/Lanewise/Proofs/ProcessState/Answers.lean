import Lanewise.ProcessState
import Lanewise.Proofs.Resolver.Choice
import Mathlib.Data.List.Basic

namespace Lanewise.ProcessState

-- An action gives an answer in every state with a property, and leaves a state with another one.
def Gives {α : Type} (before : ProcessState → Prop) (action : Running α) (answer : α)
    (after : ProcessState → Prop) : Prop :=
  ∀ state, before state → (action.run state).1 = answer ∧ after (action.run state).2

section Gives

variable {α β : Type} {before between after : ProcessState → Prop}

theorem Gives.pure (answer : α) : Gives before (pure answer) answer before :=
  fun _ hbefore => ⟨rfl, hbefore⟩

theorem Gives.bind {action : Running α} {next : α → Running β} {answer : α} {final : β}
    (haction : Gives before action answer between)
    (hnext : Gives between (next answer) final after) :
    Gives before (action >>= next) final after := by
  intro state hbefore
  obtain ⟨hanswer, hbetween⟩ := haction state hbefore
  have hfinal := hnext _ hbetween
  rw [← hanswer] at hfinal
  exact hfinal

theorem Gives.map {action : Running α} {answer : α} (f : α → β)
    (haction : Gives before action answer after) :
    Gives before (f <$> action) (f answer) after := by
  intro state hbefore
  obtain ⟨hanswer, hafter⟩ := haction state hbefore
  exact ⟨congrArg f hanswer, hafter⟩

-- A kept answer is the one that would be made, and making one keeps it.
theorem Gives.keeping {kept : ProcessState → Option α} {keep : α → ProcessState → ProcessState}
    {make : Running α} {answer : α}
    (hkept : ∀ state, before state → ∀ found, kept state = some found →
      found = answer ∧ after state)
    (hmake : Gives (fun state => before state ∧ kept state = none) make answer between)
    (hkeep : ∀ state, between state → after (keep answer state)) :
    Gives before (keeping kept keep make) answer after := by
  intro state hbefore
  cases hfound : kept state with
  | some found =>
    have hrun : (ProcessState.keeping kept keep make).run state = (found, state) := by
      simp [ProcessState.keeping, hfound]
      rfl
    rw [hrun]
    exact hkept state hbefore found hfound
  | none =>
    have hrun : (ProcessState.keeping kept keep make).run state =
        ((make.run state).1, keep (make.run state).1 (make.run state).2) := by
      simp [ProcessState.keeping, hfound]
      rfl
    obtain ⟨hanswer, hbetween⟩ := hmake state ⟨hbefore, hfound⟩
    rw [hrun, hanswer]
    exact ⟨rfl, hkeep _ hbetween⟩

end Gives

-- What a resolver made at some moment would choose.
def freshChoice (build : Build) (host : Host) (value : Option (List UInt8)) : Facility :=
  (Resolver.mk (Preference.ofEnvironment build value).1 host).choice

theorem canRun_freshChoice (build : Build) (host : Host) (value : Option (List UInt8)) :
    host.canRun (freshChoice build host value) = true :=
  Resolver.canRun_choice ⟨(Preference.ofEnvironment build value).1, host⟩

-- Where a process stands, its log apart: the value of the variable and the facility chosen so far.
-- The other kept answers follow from the host and the facility.
structure Stands (build : Build) (host : Host) (value : Option (List UInt8))
    (chosen : Option Facility) (state : ProcessState) : Prop where
  build_eq : state.build = build
  host_eq : state.host = host
  environment_eq : state.environment = value
  chosen_eq : state.chosen = chosen
  canRun_chosen : ∀ facility, chosen = some facility → host.canRun facility = true
  probed_eq : ∀ found, state.probed = some found → found = host
  bound_eq : ∀ found, state.bound = some found → chosen.map Bindings.ofFacility = some found
  packing_eq : ∀ found, state.packing = some found → chosen.map Packer.ofFacility = some found

theorem stands_launch (build : Build) (host : Host) (value : Option (List UInt8)) :
    Stands build host value none (launch build host value) where
  build_eq := rfl
  host_eq := rfl
  environment_eq := rfl
  chosen_eq := rfl
  canRun_chosen _ h := nomatch h
  probed_eq _ h := nomatch h
  bound_eq _ h := nomatch h
  packing_eq _ h := nomatch h

section Actions

variable {build : Build} {host : Host} {value : Option (List UInt8)} {chosen : Option Facility}

theorem Stands.canRun_getD {state : ProcessState} (h : Stands build host value chosen state) :
    host.canRun (chosen.getD (freshChoice build host value)) = true := by
  cases chosen with
  | none => exact canRun_freshChoice build host value
  | some facility => exact h.canRun_chosen facility rfl

theorem gives_report (events : List Event) :
    Gives (Stands build host value chosen) (report events) () (Stands build host value chosen) :=
  fun _ h => ⟨rfl, { h with }⟩

theorem gives_setVariable (written : Option (List UInt8)) :
    Gives (Stands build host value chosen) (setVariable written) ()
      (Stands build host written chosen) :=
  fun _ h => ⟨rfl, { h with environment_eq := rfl }⟩

theorem gives_probedHost :
    Gives (Stands build host value chosen) probedHost host (Stands build host value chosen) := by
  apply Gives.keeping
  · intro state h found hfound
    exact ⟨h.probed_eq found hfound, h⟩
  · rintro state ⟨h, -⟩
    exact ⟨h.host_eq, (gives_report [.probed state.host] state h).2⟩
  · intro state h
    exact { h with probed_eq := fun found hfound => (Option.some.inj hfound).symm }

theorem gives_presentPreference :
    Gives (Stands build host value chosen) presentPreference
      (Preference.ofEnvironment build value).1 (Stands build host value chosen) := by
  intro state h
  have hreported := gives_report (Preference.ofEnvironment state.build state.environment).2 state h
  refine ⟨?_, hreported.2⟩
  rw [← h.build_eq, ← h.environment_eq]
  rfl

theorem gives_chooseAfresh :
    Gives (Stands build host value chosen) chooseAfresh (freshChoice build host value)
      (Stands build host value chosen) := by
  refine Gives.bind (Gives.bind gives_presentPreference
    (Gives.bind gives_probedHost (Gives.pure _))) ?_
  exact Gives.bind (gives_report _) (Gives.pure _)

theorem gives_bind (facility : Facility) :
    Gives (Stands build host value chosen) (bind facility) (Bindings.ofFacility facility)
      (Stands build host value chosen) :=
  Gives.bind (gives_report _) (Gives.pure _)

-- The facility of the process: the one that is kept, or else the one that would be chosen now.
theorem gives_facility :
    Gives (Stands build host value chosen) facility (chosen.getD (freshChoice build host value))
      (Stands build host value (some (chosen.getD (freshChoice build host value)))) := by
  have hmake : Gives (fun state => Stands build host value chosen state ∧ state.chosen = none)
      chooseAfresh (chosen.getD (freshChoice build host value))
      (fun state => Stands build host value chosen state ∧ chosen = none) := by
    rintro state ⟨h, hnone⟩
    obtain rfl : chosen = none := h.chosen_eq.symm.trans hnone
    obtain ⟨hanswer, hafter⟩ := gives_chooseAfresh state h
    exact ⟨hanswer, hafter, rfl⟩
  refine Gives.keeping (fun state h found hfound => ?_) hmake ?_
  · obtain rfl : chosen = some found := h.chosen_eq.symm.trans hfound
    exact ⟨rfl, h⟩
  · -- nothing is bound or packed yet, as either would have needed the choice
    rintro state ⟨h, rfl⟩
    exact
      { h with
        chosen_eq := rfl
        canRun_chosen := fun found hfound => Option.some.inj hfound ▸ h.canRun_getD
        bound_eq := fun found hfound => nomatch h.bound_eq found hfound
        packing_eq := fun found hfound => nomatch h.packing_eq found hfound }

-- What is kept beside the facility was made from it, so making it from the settled one gives the
-- same again.
theorem gives_keeping_ofFacility {α : Type} {kept : ProcessState → Option α}
    {keep : α → ProcessState → ProcessState} {make : Running α} {ofFacility : Facility → α}
    {settled : Facility} (hsettled : settled = chosen.getD (freshChoice build host value))
    (hkept : ∀ state, Stands build host value chosen state →
      ∀ found, kept state = some found → chosen.map ofFacility = some found)
    (hmake : Gives (Stands build host value chosen) make (ofFacility settled)
      (Stands build host value (some settled)))
    (hkeep : ∀ state, Stands build host value (some settled) state →
      Stands build host value (some settled) (keep (ofFacility settled) state)) :
    Gives (Stands build host value chosen) (keeping kept keep make) (ofFacility settled)
      (Stands build host value (some settled)) := by
  refine Gives.keeping (fun state h found hfound => ?_) (fun state h => hmake state h.1) hkeep
  obtain ⟨facility, rfl, rfl⟩ := Option.map_eq_some_iff.mp (hkept state h found hfound)
  obtain rfl : settled = facility := hsettled
  exact ⟨rfl, h⟩

theorem gives_bindings :
    Gives (Stands build host value chosen) bindings
      (Bindings.ofFacility (chosen.getD (freshChoice build host value)))
      (Stands build host value (some (chosen.getD (freshChoice build host value)))) := by
  have hmake := Gives.bind (@gives_facility build host value chosen) (gives_bind _)
  refine gives_keeping_ofFacility rfl (fun state h => h.bound_eq) hmake fun state h => ?_
  exact { h with bound_eq := fun found hfound => hfound }

-- The facility of the bindings is the one that they were asked for, since there is code for it.
theorem gives_boundFacility :
    Gives (Stands build host value chosen) boundFacility
      (chosen.getD (freshChoice build host value))
      (Stands build host value (some (chosen.getD (freshChoice build host value)))) := by
  intro state h
  have hcode := Host.hasCode_of_canRun h.canRun_getD
  obtain ⟨hanswer, hafter⟩ := Gives.map Bindings.facility gives_bindings state h
  exact ⟨hanswer.trans (Bindings.facility_ofFacility hcode), hafter⟩

theorem gives_packer :
    Gives (Stands build host value chosen) packer
      (Packer.ofFacility (chosen.getD (freshChoice build host value)))
      (Stands build host value (some (chosen.getD (freshChoice build host value)))) := by
  have hmake := Gives.map Packer.ofFacility (@gives_facility build host value chosen)
  refine gives_keeping_ofFacility rfl (fun state h => h.packing_eq) hmake fun state h => ?_
  exact { h with packing_eq := fun found hfound => hfound }

end Actions

namespace Call

-- Whether the answer hangs on the facility of the process.
def settles : Call → Bool
  | .facility | .boundFacility | .bindings | .packer | .newHasher _ => true
  | .setVariable _ | .canRun _ | .probedHost | .chooseAfresh => false

def variableAfter (value : Option (List UInt8)) : Call → Option (List UInt8)
  | .setVariable written => written
  | .facility | .boundFacility | .bindings | .packer | .newHasher _ | .canRun _ | .probedHost
  | .chooseAfresh => value

-- The answer to a call of a process with a host and a settled facility, where a resolver made
-- now would choose the facility that is given last.
def expected (host : Host) (settled fresh : Facility) : Call → Answer
  | .setVariable _ => .done
  | .facility | .boundFacility => .facility settled
  | .bindings => .bindings (Bindings.ofFacility settled)
  | .packer => .packer (Packer.ofFacility settled)
  | .newHasher seed => .hasher (Hash.Hasher.ofSeed seed (Packer.ofFacility settled))
  | .canRun asked => .truth (host.canRun asked)
  | .probedHost => .host host
  | .chooseAfresh => .facility fresh

end Call

def variableAfter (value : Option (List UInt8)) (calls : List Call) : Option (List UInt8) :=
  calls.foldl Call.variableAfter value

-- The facility that a process settles on: the choice with the value that the variable has before
-- the first call that needs one.
def settledChoice (build : Build) (host : Host) (value : Option (List UInt8))
    (calls : List Call) : Facility :=
  freshChoice build host (variableAfter value (calls.takeWhile fun call => !call.settles))

section Calls

variable {build : Build} {host : Host} {value : Option (List UInt8)} {chosen : Option Facility}

theorem gives_answer (call : Call) :
    let fresh := freshChoice build host value
    Gives (Stands build host value chosen) call.answer
      (call.expected host (chosen.getD fresh) fresh)
      (Stands build host (call.variableAfter value)
        (if call.settles then some (chosen.getD fresh) else chosen)) := by
  intro fresh
  cases call with
  | setVariable written => exact Gives.bind (gives_setVariable written) (Gives.pure _)
  | facility => exact Gives.map Answer.facility gives_facility
  | boundFacility => exact Gives.map Answer.facility gives_boundFacility
  | bindings => exact Gives.map Answer.bindings gives_bindings
  | packer => exact Gives.map Answer.packer gives_packer
  | newHasher seed =>
    exact Gives.map (fun packer => Answer.hasher (.ofSeed seed packer)) gives_packer
  | canRun asked => exact Gives.map (fun host => Answer.truth (host.canRun asked)) gives_probedHost
  | probedHost => exact Gives.map Answer.host gives_probedHost
  | chooseAfresh => exact Gives.map Answer.facility gives_chooseAfresh

-- The rest of the calls settles on the facility of all of them: it is settled by the first call,
-- or else that call plays no part.
theorem getD_settledChoice_cons (call : Call) (rest : List Call) :
    (if call.settles then some (chosen.getD (freshChoice build host value)) else chosen).getD
        (settledChoice build host (call.variableAfter value) rest) =
      chosen.getD (settledChoice build host value (call :: rest)) := by
  rw [settledChoice, settledChoice]
  cases hsettles : call.settles with
  | true => simp [hsettles, variableAfter]
  | false => simp [hsettles, variableAfter]

theorem expected_getD_settledChoice (call : Call) (rest : List Call) (fresh : Facility) :
    call.expected host (chosen.getD (freshChoice build host value)) fresh =
      call.expected host (chosen.getD (settledChoice build host value (call :: rest))) fresh := by
  cases hsettles : call.settles with
  | true =>
    have hfirst : settledChoice build host value (call :: rest) = freshChoice build host value := by
      simp [settledChoice, hsettles, variableAfter]
    rw [hfirst]
  | false =>
    cases call with
    | setVariable _ | canRun _ | probedHost | chooseAfresh => rfl
    | facility | boundFacility | bindings | packer | newHasher _ =>
      exact absurd hsettles (by simp [Call.settles])

theorem gives_answers (calls : List Call) :
    Gives (Stands build host value chosen) (answers calls)
      (calls.mapIdx fun index call =>
        call.expected host (chosen.getD (settledChoice build host value calls))
          (freshChoice build host (variableAfter value (calls.take index))))
      (fun _ => True) := by
  induction calls generalizing value chosen with
  | nil => exact fun _ _ => ⟨rfl, trivial⟩
  | cons call rest ih =>
    have hrest := @ih (call.variableAfter value)
      (if call.settles then some (chosen.getD (freshChoice build host value)) else chosen)
    rw [getD_settledChoice_cons] at hrest
    rw [answers, List.mapM_cons, List.mapIdx_cons, ← expected_getD_settledChoice]
    exact Gives.bind (gives_answer call) (Gives.bind hrest (Gives.pure _))

end Calls

-- Every sequence of calls of a process is answered from one facility, whichever call needs it
-- first: the choice with the value that the variable has at that moment. Later values of the
-- variable, questions for what can run and resolvers made in between do not change it. It can
-- run, and neither the bindings nor the packer give way to plain code.
theorem answers_launch (build : Build) (host : Host) (value : Option (List UInt8))
    (calls : List Call) :
    let settled := settledChoice build host value calls
    ((answers calls).run (launch build host value)).1 =
        (calls.mapIdx fun index call =>
          call.expected host settled
            (freshChoice build host (variableAfter value (calls.take index)))) ∧
      settled ≠ .unresolved ∧ host.canRun settled = true ∧
      (Bindings.ofFacility settled).facility = settled ∧
      (Packer.ofFacility settled).facility = settled := by
  intro settled
  have hruns : host.canRun settled = true := canRun_freshChoice build host _
  have hcode := Host.hasCode_of_canRun hruns
  refine ⟨?_, Resolver.choice_ne_unresolved _, hruns, Bindings.facility_ofFacility hcode,
    Packer.facility_ofFacility hcode⟩
  exact (gives_answers calls _ (stands_launch build host value)).1

end Lanewise.ProcessState
