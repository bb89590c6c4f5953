import Lanewise.Cursor
import Lanewise.Hash.Hasher
import Lanewise.ProcessState
import Lanewise.Program
import Lanewise.Register.Lemmas
import Lanewise.Word.Lemmas
import Lanewise.Proofs.Packer.Narrowing
import Lanewise.Proofs.Cursor.Outcomes
import Lanewise.Proofs.Cursor.Replay
import Lanewise.Proofs.Stream.Window
import Lanewise.Proofs.Stream.Blocks
import Lanewise.Proofs.Hash.Mixing
import Lanewise.Proofs.Hash.Width
import Lanewise.Proofs.Hash.Collision
import Lanewise.Proofs.Hash.Faults
import Lanewise.Proofs.Program.Rebind
import Lanewise.Proofs.ProcessState.Answers
import Lanewise.Proofs.Resolver.Environment
import Lanewise.Proofs.Stream.Saturation
import Lanewise.Proofs.Packer.Reference
import Lanewise.Proofs.Stream.Reference
import Lanewise.Proofs.Bindings.Algebra
import Lanewise.Proofs.Hash.Session
import Lanewise.Proofs.Packer.SampleSteps
import Lanewise.Proofs.Preference.Keywords
import Lanewise.Proofs.Hash.Streaming
import Lanewise.Proofs.Stream.Concatenation
import Lanewise.Proofs.Vector.Views
