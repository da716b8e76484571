import Mathlib
import Pagecraft.Proofs.Bundle.Archive
import Pagecraft.Proofs.Command.Reading
import Pagecraft.Proofs.Disk.Writing

/-! What a command does to the files. Nothing is changed unless the command succeeds, and then only
by rendering and packing, which replace or make one file; what is printed tells of what is in it. -/
namespace Pagecraft

section
variable {m : Type → Type} [Monad m] (host : Host m) (source : Source m) (settings : Settings)
  (content : Text)

end

section
variable {ω : Type} (transport : Transport (StateM ω)) (stamp : StateM ω Stamp)

end

end Pagecraft
