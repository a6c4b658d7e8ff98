import Synoik.Support.Vec

/-!
# Favourite apps

The stored ids are seen through the catalog: an id that does not resolve, or is hidden, is no
favourite, and is dropped by the next change.
-/

namespace Synoik.Favorites

open List

structure AppEntry where
  id : String
  shouldShow : Bool

/-- The installed apps, in the order they were listed, and the stored favourites. -/
structure AppSystem where
  installed : List AppEntry
  stored : List String

namespace AppSystem

/-- The first entry of an id wins. -/
def lookup (apps : AppSystem) (id : String) : Option AppEntry :=
  apps.installed.find? fun entry => entry.id == id

/-- An id that resolves to an entry to be shown. -/
def resolves (apps : AppSystem) (id : String) : Bool :=
  (apps.lookup id).any fun entry => entry.shouldShow

def resolvedIds (apps : AppSystem) : List String := apps.stored.filter apps.resolves

def isFavorite (apps : AppSystem) (id : String) : Bool :=
  apps.resolvedIds.any fun favorite => favorite == id

/-- Whether the favourite was added, and what is stored then. -/
def addFavoriteAtPos (apps : AppSystem) (id : String) (pos : Option Nat) : Bool × AppSystem :=
  if apps.isFavorite id then (false, apps)
  else if !apps.resolves id then (false, apps)
  else
    let ids := apps.resolvedIds
    let place := min (pos.getD ids.length) ids.length
    (true, { apps with stored := ids.insertIdx place id })

def removeFavorite (apps : AppSystem) (id : String) : Bool × AppSystem :=
  if !apps.isFavorite id then (false, apps)
  else (true, { apps with stored := apps.resolvedIds.filter fun favorite => favorite != id })

def moveFavoriteToPos (apps : AppSystem) (id : String) (pos : Nat) : AppSystem :=
  ((apps.removeFavorite id).2.addFavoriteAtPos id (some pos)).2

variable {apps : AppSystem} {id : String} {ids : List String} {pos : Option Nat}

lemma isFavorite_iff : apps.isFavorite id = true ↔ id ∈ apps.resolvedIds := by
  simp [isFavorite]

lemma filter_of_not_mem (lack : id ∉ ids) : ids.filter (fun favorite => favorite != id) = ids := by
  refine filter_eq_self.mpr ?_
  intro _ mem
  exact bne_iff_ne.mpr (ne_of_mem_of_not_mem mem lack)

lemma resolvedIds_removeFavorite (apps : AppSystem) (id : String) :
    (apps.removeFavorite id).2.resolvedIds =
      apps.resolvedIds.filter fun favorite => favorite != id := by
  unfold removeFavorite
  split
  next lack =>
    rw [filter_of_not_mem]
    rw [← isFavorite_iff]
    simpa using lack
  · refine filter_eq_self.mpr ?_
    intro _ mem
    exact of_mem_filter (mem_of_mem_filter mem)

section

variable (lack : apps.isFavorite id = false)
include lack

lemma resolvedIds_addFavoriteAtPos (resolves : apps.resolves id = true) :
    (apps.addFavoriteAtPos id pos).2.resolvedIds = apps.resolvedIds.insertIdx
      (min (pos.getD apps.resolvedIds.length) apps.resolvedIds.length) id := by
  unfold addFavoriteAtPos
  rw [lack, resolves]
  refine filter_eq_self.mpr ?_
  intro _ mem
  rcases eq_or_mem_of_mem_insertIdx mem with rfl | mem
  · exact resolves
  · exact of_mem_filter mem

lemma addFavoriteAtPos_of_hidden (hidden : apps.resolves id = false) :
    (apps.addFavoriteAtPos id pos).2 = apps := by
  unfold addFavoriteAtPos
  rw [lack, hidden]
  rfl

lemma removeFavorite_addFavoriteAtPos :
    ((apps.addFavoriteAtPos id pos).2.removeFavorite id).2.resolvedIds = apps.resolvedIds := by
  have unlisted : id ∉ apps.resolvedIds := by simp [← isFavorite_iff, lack]
  rw [resolvedIds_removeFavorite]
  cases resolves : apps.resolves id with
  | false =>
    rw [addFavoriteAtPos_of_hidden lack resolves]
    exact filter_of_not_mem unlisted
  | true =>
    rw [resolvedIds_addFavoriteAtPos lack resolves,
      Vec.insertIdx_eq_append id (Nat.min_le_right _ _), filter_append,
      filter_cons_of_neg (by simp), ← filter_append, take_append_drop]
    exact filter_of_not_mem unlisted

end

lemma removeFavorite_addFavoriteAtPos_iff :
    ((apps.addFavoriteAtPos id pos).2.removeFavorite id).2.resolvedIds = apps.resolvedIds ↔
      apps.isFavorite id = false := by
  refine ⟨fun same => ?_, removeFavorite_addFavoriteAtPos⟩
  by_contra favorite
  have listed := isFavorite_iff.mp ((Bool.not_eq_false _).mp favorite)
  rw [resolvedIds_removeFavorite] at same
  rw [← same] at listed
  simpa using of_mem_filter listed

lemma moveFavoriteToPos_eq_self {pos : Nat} (lack : apps.isFavorite id = false) :
    apps.moveFavoriteToPos id pos = apps ↔ apps.resolves id = false := by
  have kept : (apps.removeFavorite id).2 = apps := by simp [removeFavorite, lack]
  unfold moveFavoriteToPos
  rw [kept]
  constructor
  · intro same
    by_contra resolves
    have added := congrArg resolvedIds same
    rw [resolvedIds_addFavoriteAtPos lack ((Bool.not_eq_false _).mp resolves)] at added
    have listed : id ∈ apps.resolvedIds :=
      added ▸ (mem_insertIdx (Nat.min_le_right _ _)).mpr (.inl rfl)
    rw [← isFavorite_iff, lack] at listed
    cases listed
  · exact addFavoriteAtPos_of_hidden lack

section

variable (uniq : apps.stored.Nodup)
include uniq

lemma resolvedIds_moveFavoriteToPos {pos : Nat} (favorite : apps.isFavorite id = true) :
    (apps.moveFavoriteToPos id pos).resolvedIds =
      (apps.resolvedIds.filter fun favorite => favorite != id).insertIdx
        (min pos (apps.resolvedIds.length - 1)) id := by
  have mem := isFavorite_iff.mp favorite
  have nodup : apps.resolvedIds.Nodup := uniq.filter _
  have left := apps.resolvedIds_removeFavorite id
  have lack : (apps.removeFavorite id).2.isFavorite id = false := by
    simp [← Bool.not_eq_true, isFavorite_iff, left]
  have resolves : (apps.removeFavorite id).2.resolves id = true := by
    rw [removeFavorite, favorite]
    exact of_mem_filter mem
  unfold moveFavoriteToPos
  rw [resolvedIds_addFavoriteAtPos lack resolves, left, Option.getD_some,
    ← nodup.erase_eq_filter, length_erase_of_mem mem]

lemma nodup_removeFavorite : (apps.removeFavorite id).2.stored.Nodup := by
  unfold removeFavorite
  split
  · exact uniq
  · exact (uniq.filter _).filter _

lemma nodup_addFavoriteAtPos : (apps.addFavoriteAtPos id pos).2.stored.Nodup := by
  unfold addFavoriteAtPos
  split
  · exact uniq
  next lack =>
  split
  · exact uniq
  · rw [(perm_insertIdx _ _ (Nat.min_le_right _ _)).nodup_iff, nodup_cons]
    exact ⟨mt isFavorite_iff.mpr lack, uniq.filter _⟩

end

/-- A move of a favourite is a move in the list, and an id can be added and removed again just
when it is none. Moving such an id changes nothing exactly when the catalog would not show it. -/
theorem favorites_laws (distinct : apps.stored.Nodup) (id : String) (place : Nat)
    (pos : Option Nat) :
    (apps.isFavorite id = true → (apps.moveFavoriteToPos id place).resolvedIds =
        (apps.resolvedIds.filter fun favorite => favorite != id).insertIdx
          (min place (apps.resolvedIds.length - 1)) id) ∧
      (apps.isFavorite id = false →
        (apps.moveFavoriteToPos id place = apps ↔ apps.resolves id = false)) ∧
      (((apps.addFavoriteAtPos id pos).2.removeFavorite id).2.resolvedIds = apps.resolvedIds ↔
        apps.isFavorite id = false) ∧ (apps.addFavoriteAtPos id pos).2.stored.Nodup ∧
      (apps.moveFavoriteToPos id place).stored.Nodup ∧ (apps.removeFavorite id).2.stored.Nodup :=
  ⟨resolvedIds_moveFavoriteToPos distinct, moveFavoriteToPos_eq_self,
    removeFavorite_addFavoriteAtPos_iff, nodup_addFavoriteAtPos distinct,
    nodup_addFavoriteAtPos (nodup_removeFavorite distinct), nodup_removeFavorite distinct⟩

/-- Two apps to be shown, one of them a favourite. -/
def twoApps : AppSystem := ⟨[⟨"a.desktop", true⟩, ⟨"b.desktop", true⟩], ["a.desktop"]⟩

def bothFavorites : AppSystem := { twoApps with stored := ["a.desktop", "b.desktop"] }

theorem favorites_laws_two : bothFavorites.stored.Nodup ∧
    (bothFavorites.moveFavoriteToPos "b.desktop" 0).resolvedIds = ["b.desktop", "a.desktop"] ∧
    ((twoApps.addFavoriteAtPos "b.desktop" none).2.removeFavorite "b.desktop").2.resolvedIds =
      ["a.desktop"] :=
  ⟨by decide, ((favorites_laws (by decide) _ 0 none).1 (by decide)).trans (by decide),
    ((favorites_laws (by decide) _ 0 none).2.2.1.mpr (by decide)).trans (by decide)⟩

/-- An app that is no favourite is moved into the favourites. -/
theorem moved_in : twoApps.isFavorite "b.desktop" = false ∧
    (twoApps.moveFavoriteToPos "b.desktop" 0).stored = ["b.desktop", "a.desktop"] := by
  decide

end AppSystem

end Synoik.Favorites
