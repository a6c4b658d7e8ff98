import Synoik.Hotplug.Conservation

/-!
# Every window in one place

A mapped window is on one workspace, laid out or minimized, or in the air under an
interactive move, and nowhere else. The books of a step say which windows it maps and
unmaps; along a run they add up to the windows mapped by then.
-/

namespace Synoik

open List

/-- The windows mapped after an operation. -/
def Op.mapping (mapped : List WindowId) : Op → List WindowId
  | .addWindow window _ _ _ => window.id :: mapped
  | .removeWindow window _ => mapped.erase window
  | _ => mapped

def mappedBy (ops : List Op) : List WindowId := ops.foldl Op.mapping []

namespace Layout

variable {layout layout' : Layout} {next next' : Nat} {mapped : List WindowId}

/-- A window is mapped once at a time. -/
def MapsNew (layout : Layout) : Op → Prop
  | .addWindow window _ _ _ => window.id ∉ layout.holdings
  | _ => True

instance (layout : Layout) : ∀ op, Decidable (layout.MapsNew op) := by
  rintro ⟨⟩ <;> dsimp only [MapsNew] <;> infer_instance

/-- The layout holds these windows, each once. -/
structure Places (layout : Layout) (mapped : List WindowId) : Prop where
  parked : layout.ParkedUnused
  held : layout.holdings.Perm mapped
  once : mapped.Nodup

lemma ParkedUnused.holdings_perm (idle : layout.ParkedUnused) :
    layout.holdings.Perm layout.heldWindows := by
  have empty : windowsOf layout.parkedWorkspaces = [] := by
    unfold windowsOf
    rw [flatMap_eq_nil_iff.mpr fun ws mem =>
      Workspace.keys_of_unused (idle ws mem).1]
    rfl
  unfold holdings heldWindows allWorkspaces
  rw [windowsOf_append, empty, append_nil]

lemma Places.step {op : Op} (places : layout.Places mapped) (new : layout.MapsNew op)
    (effect : Effect layout next layout' next' op) : layout'.Places (op.mapping mapped) := by
  obtain ⟨_, unmaps, books⟩ := effect.books
  have parked := books.parked places.parked
  have held := books.held.trans (places.held.append_left op.gained)
  cases op
  case addWindow win dest isFloating activate =>
    cases unmaps
    refine ⟨parked, held, nodup_cons.mpr ⟨?_, places.once⟩⟩
    exact fun already => new (places.held.mem_iff.mpr already)
  case removeWindow win landed =>
    refine ⟨parked, ?_, places.once.erase win⟩
    rcases unmaps with ⟨rfl, lack⟩ | rfl
    · -- the window is nowhere, so nothing is erased
      have unknown : win ∉ mapped := fun mem =>
        lack (places.parked.holdings_perm.mem_iff.mp (places.held.mem_iff.mpr mem))
      rw [show Op.mapping mapped (.removeWindow win landed) = mapped from
        erase_of_not_mem unknown]
      exact held
    · have rest := held.erase win
      rw [singleton_append, erase_cons_head] at rest
      exact rest
  all_goals
    cases unmaps
    exact ⟨parked, held, places.once⟩

lemma start_places (mode : WindowingMode) : (start mode).1.Places [] :=
  ⟨forall_mem_nil _, .refl _, nodup_nil⟩

lemma runs_places {mode : WindowingMode} {ops : List Op}
    (run : Runs step (fun st op => st.1.MapsNew op) (start mode) ops (layout, next)) :
    layout.Places (mappedBy ops) := by
  refine run.follow (fun st mapped => st.1.Places mapped) Op.mapping ?_
    (start_places mode)
  intro _ _ _ _ new ran places
  exact places.step new (apply_effect ran)

/-- In every layout reached, each window that is mapped is held exactly once by the
workspaces and the interactive move together, no other window is held, and removing a window
leaves it nowhere. -/
theorem windows_placed_once {windowingMode : WindowingMode} {ops : List Op}
    (run : Runs step (fun state op => state.1.MapsNew op) (start windowingMode) ops
      (layout, next)) :
    (∀ window, layout.holdings.count window = if window ∈ mappedBy ops then 1 else 0) ∧
    ∀ window landed layout' next',
      step (layout, next) (.removeWindow window landed) = some (layout', next') →
        window ∉ layout'.holdings := by
  have places := runs_places run
  constructor
  · intro window
    rw [places.held.count_eq, places.once.count]
  · intro window landed _ _ removed
    have unconditional : layout.MapsNew (.removeWindow window landed) := trivial
    have after := places.step unconditional (apply_effect removed)
    rw [after.held.mem_iff]
    exact Nodup.not_mem_erase places.once

/-- Two windows, one of them floating and the other minimized. -/
theorem windows_placed_once_minimized :
    ∃ layout next, Runs step (fun state op => state.1.MapsNew op) (start .scrolling)
        [.addOutput displayA .scrolling, .addWindow { id := 7 } .auto false .yes,
          .addWindow { id := 8 } .auto true .yes, .minimizeWindow 7] (layout, next) ∧
      layout.holdings.count 7 = 1 ∧ layout.holdings.count 8 = 1 ∧ layout.holdings.count 9 = 0 := by
  exact ⟨_, _, runs_get_pair (by decide +kernel), (windows_placed_once (runs_get_pair _)).1 7,
    (windows_placed_once (runs_get_pair _)).1 8, (windows_placed_once (runs_get_pair _)).1 9⟩

end Layout

end Synoik
