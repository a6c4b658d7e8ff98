import Synoik.Invariants.Stacking

/-!
# A raise carries the family

A raised window comes to the top of its layer with the descendants that are in that layer
right over it, and nothing else changes its order. A descendant that is always on top itself
stays in the band when an ordinary window is raised.
-/

namespace Synoik

open List

namespace Stack

variable {α : Type} {child : α → α → Bool} {pre rest : List α} {item lo : α}

lemma mem_brood_or_strangers (mem : lo ∈ rest) :
    lo ∈ brood child item rest ∨ lo ∈ strangers child item rest := by
  induction rest with
  | nil => cases mem
  | cons _ _ _ =>
    unfold brood strangers
    split <;> grind

/-- All that descend from the item are found, if the stack was in order. -/
lemma mem_brood (ordered : rest.Pairwise fun above lt => child lt above = false)
    (acyclic : ¬ Descends child (item :: rest) item item)
    (descends : Descends child (item :: rest) lo item) : lo ∈ brood child item rest := by
  induction descends using Relation.TransGen.head_induction_on with
  | single link =>
    rcases mem_cons.mp link.1 with rfl | inRest
    · exact absurd (.single link) acyclic
    · refine (mem_brood_or_strangers inRest).resolve_right fun stranger => ?_
      simp [strangers_child_item stranger] at link
  | head link later ih =>
    rcases mem_cons.mp link.1 with rfl | inRest
    · exact absurd (.head link later) acyclic
    · refine (mem_brood_or_strangers inRest).resolve_right fun stranger => ?_
      simp [strangers_child_brood ordered stranger ih] at link

/-- Links lead down, so none leads from below a place to above it. -/
lemma Stacked.descends_below (stacked : Stacked child (pre ++ rest)) (outside : lo ∉ pre)
    (descends : Descends child (pre ++ rest) lo item) : Descends child rest lo item := by
  have across := (pairwise_append.mp stacked.ordered).2.2
  have link_below {lo hi : α} (outside : lo ∉ pre) (link : lo ∈ pre ++ rest ∧
      hi ∈ pre ++ rest ∧ child lo hi = true) :
      hi ∉ pre ∧ lo ∈ rest ∧ hi ∈ rest ∧ child lo hi = true := by
    have lowerIn := (mem_append.mp link.1).resolve_left outside
    have upperOutside : hi ∉ pre := fun inFront => by
      simp [across hi inFront lo lowerIn] at link
    exact ⟨upperOutside, lowerIn, (mem_append.mp link.2.1).resolve_left upperOutside, link.2.2⟩
  induction descends using Relation.TransGen.head_induction_on with
  | single link => exact .single (link_below outside link).2
  | head link _ ih =>
    obtain ⟨upperOutside, link⟩ := link_below outside link
    exact .head link (ih upperOutside)

end Stack

namespace FloatingSpace

open Stack

variable {space : FloatingSpace} {id : WindowId} {idx : Nat}

/-- The band is the top of the stack. -/
def Settled (space : FloatingSpace) : Prop :=
  ∀ idx < space.tiles.length, space.isInAboveBand idx = decide (idx < space.bandLen)

lemma Settled.raiseTarget_le (settled : space.Settled) (inside : idx < space.tiles.length) :
    space.raiseTarget idx ≤ idx := by
  unfold raiseTarget
  split
  · exact Nat.zero_le _
  next plain =>
  rw [settled idx inside, decide_eq_true_eq] at plain
  exact Nat.le_of_not_lt plain

/-- Raising and activating a window put it at the top of its layer, with its descendants that
are not above that, in their order, right over it. All other windows keep their order. -/
theorem raised_family (inOrder : space.InOrder) (settled : space.Settled)
    (found : space.idxOf id = some idx) : ∃ tile family others,
      let front := space.tiles.take (space.raiseTarget idx)
      let tiles := front ++ (family ++ tile :: others)
      tile.id = id ∧ space.activateWindow id = some ⟨tiles, some id⟩ ∧
        space.raiseWindowOnly id = some ⟨tiles, space.activeWindowId⟩ ∧
        tiles.Perm space.tiles ∧ family.Sublist space.tiles ∧
        (front ++ others).Sublist space.tiles ∧ ∀ other, other ∈ family ↔
          Descends Tile.childOf space.tiles other tile ∧ other ∉ front := by
  obtain ⟨tile, tileAt, named⟩ := getElem?_of_idxOf found
  have inside := Vec.lt_length tileAt
  have upward := settled.raiseTarget_le inside
  obtain ⟨tiles, active⟩ := space
  generalize target : raiseTarget ⟨tiles, active⟩ idx = height at upward
  change idx < tiles.length at inside
  obtain ⟨front, middle, rest, rfl, rfl, rfl⟩ : ∃ front middle rest,
      tiles = front ++ (middle ++ tile :: rest) ∧ height = front.length ∧
        idx = front.length + middle.length := by
    refine ⟨tiles.take height, (tiles.take idx).drop height, tiles.drop (idx + 1), ?_, ?_, ?_⟩
    · have cut := take_append_drop height (tiles.take idx)
      rw [take_take, Nat.min_eq_left upward] at cut
      rw [← append_assoc, cut, ← Vec.eq_append_of_getElem? tileAt]
    all_goals
      simp
      omega
  have activated : activateWindow ⟨front ++ (middle ++ tile :: rest), active⟩ id =
      some ⟨front ++ (brood Tile.childOf tile (middle ++ rest) ++
        tile :: strangers Tile.childOf tile (middle ++ rest)), some id⟩ := by
    simp [activateWindow, found, target, raiseWindow_append, bringUpDescendantsOf_append]
  have raised : raiseWindowOnly ⟨front ++ (middle ++ tile :: rest), active⟩ id =
      some ⟨front ++ (brood Tile.childOf tile (middle ++ rest) ++
        tile :: strangers Tile.childOf tile (middle ++ rest)), active⟩ := by
    simp [raiseWindowOnly, found, target, raiseWindow_append, bringUpDescendantsOf_append]
  have within : (middle ++ rest).Sublist (middle ++ tile :: rest) :=
    (Sublist.refl _).append (sublist_cons_self _ _)
  have stacked := inOrder.stacked
  have same : ∀ other, other ∈ middle ++ tile :: rest ↔ other ∈ tile :: (middle ++ rest) :=
    fun other => perm_middle.mem_iff
  have ordered := (stacked.sublist (sublist_append_right front _)).sublist within
  have acyclic : ¬ Descends Tile.childOf (tile :: (middle ++ rest)) tile tile := fun cycle =>
    stacked.acyclic tile (cycle.mono fun other member =>
      mem_append_right _ ((same other).mpr member))
  refine ⟨tile, brood Tile.childOf tile (middle ++ rest),
    strangers Tile.childOf tile (middle ++ rest), ?_⟩
  rw [take_left]
  refine ⟨named, activated, raised, activateWindow_perm activated,
    (brood_sublist.trans within).trans (sublist_append_right _ _),
    (Sublist.refl _).append (strangers_sublist.trans within), fun other => ⟨fun relative => ?_, ?_⟩⟩
  · have below := within.subset (brood_sublist.subset relative)
    refine ⟨(brood_descends relative).mono fun item member =>
      mem_append_right _ ((same item).mpr member), fun above => ?_⟩
    exact (nodup_append.mp inOrder.distinct.of_map).2.2 other above other below rfl
  · rintro ⟨descends, outside⟩
    exact mem_brood ordered.ordered acyclic
      ((stacked.descends_below outside descends).mono fun item => (same item).mp)

/-- A window with two children, one of them always on top, under two others. -/
def pinnedChild : FloatingSpace :=
  { tiles := [{ window := { id := 2, parent := some 1 }, isAbove := true },
      { window := { id := 3 }, isAbove := true }, { window := { id := 4 } },
      { window := { id := 5, parent := some 1 } }, { window := { id := 1 } }] }

lemma pinnedChild_inOrder : pinnedChild.InOrder ∧ pinnedChild.Settled :=
  ⟨⟨by decide, by decide, by decide⟩, by unfold Settled; decide⟩

theorem raised_family_pinned : ∃ tiles, pinnedChild.activateWindow 1 = some ⟨tiles, some 1⟩ ∧
    tiles.map Tile.id = [2, 3, 5, 1, 4] := by
  obtain ⟨_, _, _, _, activated, _⟩ := raised_family pinnedChild_inOrder.1 pinnedChild_inOrder.2
    (show pinnedChild.idxOf 1 = some 4 from rfl)
  have ids := congrArg (Option.map fun space => space.tiles.map Tile.id) activated
  exact ⟨_, activated, Option.some.inj (ids.symm.trans rfl)⟩

/-- The child keeps its place in the band, with another window between it and its parent. -/
theorem raised_apart_from_child : pinnedChild.InOrder ∧ pinnedChild.Settled ∧
    (pinnedChild.raiseWindowOnly 1).map (fun space => space.tiles.map Tile.id) =
      some [2, 3, 5, 1, 4] ∧ Descends Tile.childOf pinnedChild.tiles
        { window := { id := 2, parent := some 1 }, isAbove := true } { window := { id := 1 } } :=
  ⟨pinnedChild_inOrder.1, pinnedChild_inOrder.2, rfl, .single (by decide)⟩

end FloatingSpace

end Synoik
