import Pagecraft.Command.Run
import Pagecraft.Proofs.Export.Supply

/-! What only reads. A machine has a disk and, beside it, whatever the network and the clock depend
on; all that a command does before it writes its result leaves the disk as it is. -/
namespace Pagecraft

section
variable {ω α β : Type}

def onDisk (action : StateM Disk α) : StateM (Disk × ω) α := fun (disk, rest) =>
  ((action.run disk).1, (action.run disk).2, rest)

def beside (action : StateM ω α) : StateM (Disk × ω) α := fun (disk, rest) =>
  ((action.run rest).1, disk, (action.run rest).2)

def Reads (action : StateM (Disk × ω) α) : Prop := ∀ state, (action.run state).2.1 = state.1

namespace Reads

theorem pure (a : α) : Reads (pure a : StateM (Disk × ω) α) := fun _ => rfl

theorem bind {action : StateM (Disk × ω) α} {next : α → StateM (Disk × ω) β}
    (first : Reads action) (others : ∀ a, Reads (next a)) : Reads (action >>= next) := by
  intro state
  have step := run_bind_of_run_eq (Prod.eta (action.run state)).symm next
  rw [step, others, first]

theorem map {action : StateM (Disk × ω) α} (reads : Reads action) (f : α → β) :
    Reads (f <$> action) := by
  rw [map_eq_pure_bind]
  exact reads.bind fun a => pure (f a)

theorem beside (action : StateM ω α) : Reads (beside action) := fun _ => rfl

theorem mapM {action : β → StateM (Disk × ω) α} (reads : ∀ b, Reads (action b)) (items : List β) :
    Reads (items.mapM action) := by
  induction items with
  | nil =>
    rw [List.mapM_nil]
    exact pure []
  | cons item items ih =>
    rw [List.mapM_cons]
    exact (reads item).bind fun a => ih.bind fun rest => pure (a :: rest)

end Reads
end

section
variable {ω : Type} (transport : Transport (StateM ω)) (stamp : StateM ω Stamp)

/-! Files, settings and projects -/

end

section
variable {ω : Type} {source : Source (StateM (Disk × ω))} (fetches : ∀ path, Reads (source.fetch path))
include fetches

end
end Pagecraft
