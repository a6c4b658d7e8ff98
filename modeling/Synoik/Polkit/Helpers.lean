import Synoik.Polkit.Agent
import Synoik.Support.Runs

/-!
# The helpers as processes

A helper's reader passes on what it says and then waits for its end, while the agent ends it by
dropping its session. Neither waits for the other.
-/

namespace Synoik.Polkit

/-- A helper that was started. -/
structure Child where
  epoch : Nat
  /-- Its reader has started. -/
  read : Bool
  /-- Its reader has passed on how it ended. -/
  announced : Bool := false
  exited : Bool := false
  reaped : Bool := false
  /-- It was sent SIGTERM. -/
  told : Bool := false

structure Helpers where
  agent : Agent := {}
  /-- All that were started, in this order. -/
  children : List Child := []
  /-- The one under the agent's session. -/
  pid : Option Nat := none
  messages : List (Nat × HelperMessage) := []
  /-- Whether one was started while another had not been told to die. -/
  crowded : Bool := false
  /-- Whether a signal was sent to one that was reaped. -/
  stray : Bool := false

inductive HelperOp where
  | event (event : Event) (started : Bool)
  | hear
  | say (pid : Nat) (message : HelperMessage)
  | exit (pid : Nat)
  | reap (pid : Nat)

namespace Helpers

variable {helpers after : Helpers} {op : HelperOp} {ops : List HelperOp}

def spawn (helpers : Helpers) (epoch : Nat) (read : Bool) : Helpers :=
  { helpers with
    children := helpers.children ++ [{ epoch, read }]
    crowded := helpers.crowded || helpers.children.any fun child => !child.told && !child.reaped }

def drop (helpers : Helpers) : Helpers :=
  match helpers.pid with
  | none => helpers
  | some pid =>
    { helpers with
      pid := none
      children := helpers.children.modify pid fun child => { child with told := true }
      stray := helpers.stray || helpers.children[pid]?.any Child.reaped }

/-- The agent takes a step. A spawn may fail after the helper was started. -/
def handle (helpers : Helpers) (event : Event) (started : Bool) : Helpers :=
  let agent := (helpers.agent.step event).1
  match event, helpers.agent.current with
  | .request (.initiate _) spawned, some _ =>
    -- The new helper is started before the old one's session is dropped.
    { (if spawned || started then helpers.spawn agent.epoch spawned else helpers).drop with
      agent
      pid := if spawned then some helpers.children.length else none }
  | _, _ => { if agent.session.isNone then helpers.drop else helpers with agent }

def step (helpers : Helpers) : HelperOp → Option Helpers
  | .event (.helper _ _) _ => none
  | .event event started => some (helpers.handle event started)
  | .hear =>
    match helpers.messages with
    | [] => none
    | (epoch, message) :: rest =>
      some ({ helpers with messages := rest }.handle (.helper epoch message) false)
  | .say pid message => do
    let child ← helpers.children[pid]?
    if child.read && !child.announced then
      some { helpers with
        messages := helpers.messages ++ [(child.epoch, message)]
        children := helpers.children.set pid
          { child with announced := message matches .completed _ } }
    else none
  | .exit pid => do
    let child ← helpers.children[pid]?
    some { helpers with children := helpers.children.set pid { child with exited := true } }
  | .reap pid => do
    let child ← helpers.children[pid]?
    if child.announced && child.exited then
      some { helpers with children := helpers.children.set pid { child with reaped := true } }
    else none

/-- An initiate is taken when no session is open, and a spawn that fails leaves no process. -/
def Alone (helpers : Helpers) : HelperOp → Prop
  | .event (.request (.initiate _) spawned) started =>
    helpers.pid = none ∧ (started = true → spawned = true)
  | _ => True

/-- No helper exits before its session is dropped. -/
def Outlives (helpers : Helpers) : HelperOp → Prop
  | .exit pid => helpers.pid ≠ some pid
  | _ => True

/-- A helper that has not been told to die. -/
def Untold (helpers : Helpers) (pid : Nat) : Prop :=
  ∃ child, helpers.children[pid]? = some child ∧ child.told = false

structure Tidy (helpers : Helpers) : Prop where
  alone : helpers.crowded = false
  untold : ∀ {pid}, helpers.Untold pid → helpers.pid = some pid

structure Attached (helpers : Helpers) : Prop where
  hits : helpers.stray = false
  running : ∀ {pid}, helpers.pid = some pid →
    ∃ child, helpers.children[pid]? = some child ∧ child.exited = false ∧ child.reaped = false

section

attribute [local grind] spawn drop Alone Outlives Untold Tidy Attached

lemma Tidy.told (tidy : helpers.Tidy) (none : helpers.pid = none) :
    ∀ child ∈ helpers.children, child.told = true := by
  intro child mem
  obtain ⟨_, has⟩ := List.mem_iff_getElem?.mp mem
  by_contra untold
  have held := tidy.untold ⟨child, has, Bool.eq_false_iff.mpr untold⟩
  rw [none] at held
  cases held

variable {event : Event} {started : Bool}

lemma Tidy.handle (tidy : helpers.Tidy)
    (alone : helpers.Alone (.event event started)) : (helpers.handle event started).Tidy := by
  unfold Helpers.handle
  split
  · have told := tidy.told alone.1
    constructor
    all_goals grind
  · grind

/-- The old session is not that of the new helper. -/
lemma Attached.newest (attached : helpers.Attached) (epoch : Nat) (read : Bool) :
    (helpers.spawn epoch read).drop.children[helpers.children.length]? = some { epoch, read } := by
  grind

lemma Attached.handle (attached : helpers.Attached) : (helpers.handle event started).Attached := by
  unfold Helpers.handle
  split
  next spawned _ _ =>
    constructor
    · grind
    · intro pid _
      obtain ⟨rfl, rfl⟩ : spawned = true ∧ pid = helpers.children.length := by grind
      exact ⟨_, attached.newest _ true, rfl, rfl⟩
  · grind

lemma Tidy.step (tidy : helpers.Tidy) (alone : helpers.Alone op)
    (ran : helpers.step op = some after) : after.Tidy := by
  unfold Helpers.step at ran
  split at ran
  · cases ran
  · cases ran
    exact tidy.handle alone
  · grind [Tidy.handle]
  -- What a helper does itself tells none.
  all_goals grind

lemma Attached.step (attached : helpers.Attached) (outlives : helpers.Outlives op)
    (ran : helpers.step op = some after) : after.Attached := by
  unfold Helpers.step at ran
  split at ran
  · cases ran
  · cases ran
    exact attached.handle
  · grind [Attached.handle]
  all_goals grind

end

/-- One helper is told to die before the next is started, if the dialog asks for the next when
the session of the one has ended and no spawn fails halfway. -/
theorem one_helper_at_a_time (run : Runs step Alone {} ops helpers) :
    helpers.crowded = false ∧ ∀ one other, helpers.Untold one → helpers.Untold other →
      one = other := by
  have tidy : helpers.Tidy :=
    run.invariant Tidy (fun alone ran tidy => tidy.step alone ran) ⟨rfl, by simp [Untold]⟩
  refine ⟨tidy.alone, fun one other first second => ?_⟩
  have same := (tidy.untold first).symm.trans (tidy.untold second)
  exact Option.some.inj same

/-- A request is put up and a helper started for it. -/
def started : List HelperOp :=
  [.event (.begin ⟨⟨"root", true⟩, "1", 0⟩) false, .event (.request (.initiate "root") true) false]

/-- The helper fails, and another is started when the agent has heard of that. -/
theorem one_helper_at_a_time_started : ∃ helpers, Runs step Alone {} (started ++
      [.say 0 (.completed false), .hear, .event (.request (.initiate "root") true) false]) helpers ∧
    helpers.children.map Child.told = [true, false] ∧ helpers.crowded = false := by
  have run : Runs step Alone {} (started ++ [.say 0 (.completed false), .hear,
      .event (.request (.initiate "root") true) false]) _ :=
    .cons trivial rfl (.cons ⟨rfl, nofun⟩ rfl (.cons trivial rfl (.cons trivial rfl
      (.cons ⟨rfl, nofun⟩ rfl (.nil _)))))
  exact ⟨_, run, rfl, (one_helper_at_a_time run).1⟩

/-- Asked to authenticate twice, the agent starts the second helper over the first. -/
theorem two_helpers_at_a_time : ∃ helpers, Runs step (fun _ _ => True) {}
      (started ++ [.event (.request (.initiate "root") true) false]) helpers ∧
    helpers.crowded = true :=
  ⟨_, runs_of_runUnder rfl, rfl⟩

/-- A signal goes to a helper that is not reaped, if no helper exits on its own. -/
theorem signal_hits_own_child (run : Runs step Outlives {} ops helpers) :
    helpers.stray = false := by
  have attached : helpers.Attached :=
    run.invariant Attached (fun outlives ran attached => attached.step outlives ran) ⟨rfl, nofun⟩
  exact attached.hits

/-- A helper is dismissed, exits and is reaped. -/
theorem signal_hits_own_child_dismissed : ∃ helpers, Runs step Outlives {}
      (started ++ [.event (.request (.done true) false) false, .exit 0,
        .say 0 (.completed false), .reap 0]) helpers ∧
    helpers.children.all (fun child => child.told && child.reaped) ∧ helpers.stray = false := by
  have run : Runs step Outlives {} (started ++ [.event (.request (.done true) false) false,
      .exit 0, .say 0 (.completed false), .reap 0]) _ :=
    .cons trivial rfl (.cons trivial rfl (.cons trivial rfl (.cons nofun rfl
      (.cons trivial rfl (.cons trivial rfl (.nil _))))))
  exact ⟨_, run, rfl, signal_hits_own_child run⟩

/-- A helper fails, and its reader reaps it before the agent hears of it. -/
theorem signal_hits_reaped_child : ∃ helpers, Runs step (fun _ _ => True) {}
      (started ++ [.say 0 (.completed false), .exit 0, .reap 0, .hear]) helpers ∧
    helpers.stray = true :=
  ⟨_, runs_of_runUnder rfl, rfl⟩

end Helpers

end Synoik.Polkit
