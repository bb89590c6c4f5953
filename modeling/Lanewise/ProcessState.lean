import Lanewise.Bindings
import Lanewise.Hash.Hasher
import Lanewise.Resolver

namespace Lanewise

-- What a running process knows: how it was built, its host, the present value of the environment
-- variable, and four answers that are kept once they were given. The log holds the events in
-- the order in which they were reported.
structure ProcessState where
  build : Build
  host : Host
  environment : Option (List UInt8)
  probed : Option Host
  chosen : Option Facility
  bound : Option Bindings
  packing : Option Packer
  log : List Event

namespace ProcessState

-- A process at its start: nothing is known yet.
def launch (build : Build) (host : Host) (value : Option (List UInt8)) : ProcessState :=
  ⟨build, host, value, none, none, none, none, []⟩

-- An action of the process, which may report events and keep answers.
abbrev Running :=
  StateM ProcessState

def report (events : List Event) : Running Unit :=
  modify fun state => { state with log := state.log ++ events }

def setVariable (value : Option (List UInt8)) : Running Unit :=
  modify fun state => { state with environment := value }

-- The answer that is kept, or else one that is made now and kept from now on.
def keeping {α : Type} (kept : ProcessState → Option α) (keep : α → ProcessState → ProcessState)
    (make : Running α) : Running α := do
  match kept (← get) with
  | some answer => return answer
  | none =>
    let answer ← make
    modify (keep answer)
    return answer

def probe : Running Host := do
  let host := (← get).host
  report [.probed host]
  return host

-- The host, which is probed the first time that it is asked for.
def probedHost : Running Host :=
  keeping probed (fun host state => { state with probed := some host }) probe

def presentPreference : Running Preference := do
  let state ← get
  let (preference, events) := Preference.ofEnvironment state.build state.environment
  report events
  return preference

-- What there is to choose from at present. The environment is read first.
def presentResolver : Running Resolver := do
  let preference ← presentPreference
  let host ← probedHost
  return ⟨preference, host⟩

-- A choice is reported with what led to it.
def choose (resolver : Resolver) : Running Facility := do
  report resolver.events
  return resolver.choice

def chooseAfresh : Running Facility := do
  choose (← presentResolver)

-- The facility of the process, chosen the first time that it is asked for.
def facility : Running Facility :=
  keeping chosen (fun facility state => { state with chosen := some facility }) chooseAfresh

def bind (facility : Facility) : Running Bindings := do
  let bindings := Bindings.ofFacility facility
  report bindings.fallbacks
  return bindings

-- The bindings of the process, made the first time that they are asked for.
def bindings : Running Bindings :=
  keeping bound (fun bindings state => { state with bound := some bindings })
    (do bind (← facility))

def boundFacility : Running Facility := do
  return (← bindings).facility

-- The packer of the process, found the first time that it is asked for.
def packer : Running Packer :=
  keeping packing (fun packer state => { state with packing := some packer })
    (do return Packer.ofFacility (← facility))

def newHasher (seed : UInt64) : Running Hash.Hasher := do
  return Hash.Hasher.ofSeed seed (← packer)

def hash (seed : UInt64) (units : Hash.Units) : Running (Except Fault UInt64) := do
  let hasher ← newHasher seed
  return hasher.hash (← get).build units

def canRun (facility : Facility) : Running Bool := do
  return (← probedHost).canRun facility

inductive Call where
  | setVariable (value : Option (List UInt8))
  | facility
  | boundFacility
  | bindings
  | packer
  | newHasher (seed : UInt64)
  | canRun (facility : Facility)
  | probedHost
  | chooseAfresh

inductive Answer where
  | done
  | facility (facility : Facility)
  | bindings (bindings : Bindings)
  | packer (packer : Packer)
  | hasher (hasher : Hash.Hasher)
  | truth (value : Bool)
  | host (host : Host)

def Call.answer : Call → Running Answer
  | .setVariable value => do
    ProcessState.setVariable value
    return .done
  | .facility => .facility <$> ProcessState.facility
  | .boundFacility => .facility <$> ProcessState.boundFacility
  | .bindings => .bindings <$> ProcessState.bindings
  | .packer => .packer <$> ProcessState.packer
  | .newHasher seed => .hasher <$> ProcessState.newHasher seed
  | .canRun asked => .truth <$> ProcessState.canRun asked
  | .probedHost => .host <$> ProcessState.probedHost
  | .chooseAfresh => .facility <$> ProcessState.chooseAfresh

def answers (calls : List Call) : Running (List Answer) :=
  calls.mapM Call.answer

end ProcessState

end Lanewise
