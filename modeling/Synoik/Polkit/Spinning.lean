import Synoik.Polkit.Crossing

/-!
# Helper after helper

The agent starts a helper for each initiate. The dialog sends one by itself when a request is
put to it, and again whenever a helper fails.
-/

namespace Synoik.Polkit

open List

/-- What the user or polkit does. -/
def Op.isOutside : Op → Bool
  | .begin _ _ | .cancel _ | .type _ | .authenticate | .dismiss => true
  | _ => false

namespace System

/-- Whether the agent goes about starting a helper. -/
def starts (system : System) : Op → Bool
  | .take _ =>
    match system.toAgent with
    | ⟨_, .initiate _⟩ :: _ => system.agent.current.isSome
    | _ => false
  | _ => false

/-- Whether a helper ends, or could not be started. -/
def ends (system : System) : Op → Bool
  | .take spawned => system.starts (.take spawned) && !spawned
  | .helper _ (.completed _) => true
  | _ => false

/-- A step, with how often a helper was started and how often one ended. -/
def tally (state : System × Nat × Nat) (op : Op) : Option (System × Nat × Nat) :=
  (state.1.step op).map fun after =>
    (after, state.2.1 + (state.1.starts op).toNat, state.2.2 + (state.1.ends op).toNat)

def Inside (_ : System × Nat × Nat) (op : Op) : Prop := op.isOutside = false

end System

/-- Whether the dialog answers the message with an initiate or a done. -/
def ToSynoik.stirs : ToSynoik → Bool
  | begin _ _ | completed _ => true
  | _ => false

namespace System

variable {system after middle finish : System} {op action : Op} {ops : List Op}

/-- A request is put to the dialog. -/
def asked : System :=
  { agent := { current := some ⟨rootRequest, "1", 0⟩ }, arrived := 1
    toDialog := [.begin 0 rootRequest] }

/-- An initiate is on its way, and nothing to the dialog. -/
def Asking (system : System) : Prop :=
  ∃ current call name, system.agent.current = some current ∧ system.toDialog = [] ∧
    system.toAgent = [⟨call, .initiate name⟩]

lemma Asking.again (asking : system.Asking) (starts ended : Nat) :
    ∃ mid next, tally (system, starts, ended) (.take false) = some mid ∧
      tally mid .deliver = some (next, starts + 1, ended + 1) ∧ next.Asking := by
  obtain ⟨⟨_, _, _, _⟩, _, _, _, _, _, _⟩ := system
  obtain ⟨_, _, _, ⟨⟩, ⟨⟩, ⟨⟩⟩ := asking
  exact ⟨_, _, rfl, rfl, _, _, _, rfl, rfl, rfl⟩

end System

end Synoik.Polkit
