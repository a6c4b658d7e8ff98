import Synoik.Notifications.Store

/-!
# What holds of the notification store

Ids and source keys are distinct, no source is empty or too full, and what is shown or
queued as a banner is there. While this holds, closing notifications is leaving them
out.
-/

namespace Synoik

open List

open Keyed

variable {note : Notification} {sender : Option String} {change : Source → Source} {key : SourceKey}

def Source.without (source : Source) (ids : List Nat) : Source :=
  { source with
    notifications := source.notifications.filter fun notification => notification.id ∉ ids }

namespace NotificationStore

variable {st post : NotificationStore} {id : Nat} {ids : List Nat}

structure Sound (store : NotificationStore) : Prop where
  distinct : (store.notifications.map Notification.id).Nodup
  bounded : ∀ {notification}, notification ∈ store.notifications → notification.id < store.nextId
  limit : store.nextId ≤ maxId
  keys : (store.sources.map Source.key).Nodup
  filled : ∀ {source}, source ∈ store.sources → source.notifications ≠ [] ∧
    source.notifications.length ≤ maxNotificationsPerSource
  shown : ∀ {id}, store.currentBanner = some id →
    ∃ notification ∈ store.notifications, notification.id = id
  queued : ∀ {id}, id ∈ store.bannerQueue → ∃ notification ∈ store.notifications,
    notification.id = id ∧ notification.acknowledged = false
  queueDistinct : store.bannerQueue.Nodup
  waiting : ∀ {id}, id ∈ store.bannerQueue → store.currentBanner ≠ some id

variable {sources : List Source}

lemma Sound.find_eq_some_iff (inv : st.Sound) :
    st.find id = some note ↔ note ∈ st.notifications ∧ note.id = id :=
  Keyed.find?_eq_some_iff inv.distinct

lemma find_eq_none_iff : st.find id = none ↔ id ∉ st.notifications.map Notification.id :=
  Keyed.find?_eq_none_iff

variable {source : Source}

lemma holds_iff : source.holds id = true ↔ id ∈ source.notifications.map Notification.id := by
  simp [Source.holds]

lemma flatMap_changeFirst (sources : List Source) (change : Notification → Notification) :
    (changeFirst (fun source => source.holds id) (fun source => { source with
      notifications := changeFirst (fun note => note.id == id) change source.notifications })
      sources).flatMap Source.notifications =
    changeFirst (fun note => note.id == id) change (sources.flatMap Source.notifications) := by
  induction sources with
  | nil => rfl
  | cons source _ ih =>
    rw [flatMap_cons, changeFirst_cons]
    by_cases here : source.holds id = true
    · rw [if_pos here, flatMap_cons, changeFirst_append_of_any here]
    · rw [if_neg here, flatMap_cons, ih, changeFirst_append_of_not_any]
      exact Bool.eq_false_iff.mpr here

lemma Sound.change_notifications (inv : st.Sound) (change : Notification → Notification) :
    (st.change id change).notifications = st.notifications.map fun note =>
      if note.id = id then change note else note := by
  rw [← Keyed.changeFirst_eq_map inv.distinct]
  exact flatMap_changeFirst st.sources change

/-- Every notification is changed in its place. -/
structure Remaps (change : Notification → Notification) (store after : NotificationStore) :
    Prop where
  notifications : after.notifications = store.notifications.map change
  nextId : after.nextId = store.nextId
  keys : after.sources.map Source.key = store.sources.map Source.key
  lengths : (after.sources.map fun source => source.notifications.length) =
    store.sources.map fun source => source.notifications.length

lemma Remaps.trans {one last : Notification → Notification}
    {mid : NotificationStore} (early : Remaps one st mid)
    (late : Remaps last mid post) : Remaps (last ∘ one) st post where
  notifications := by rw [late.notifications, early.notifications, map_map]
  nextId := late.nextId.trans early.nextId
  keys := late.keys.trans early.keys
  lengths := late.lengths.trans early.lengths

lemma changeSource_remaps (key : ∀ source, (change source).key = source.key)
    (kept : ∀ source, (change source).notifications = source.notifications) :
    Remaps (fun note => note) st (st.changeSource id change) where
  notifications := by
    unfold notifications changeSource
    rw [flatMap_def, flatMap_def, map_changeFirst kept, map_id']
  nextId := rfl
  keys := map_changeFirst key
  lengths := map_changeFirst fun source => by rw [kept]

lemma Sound.change_remaps (inv : st.Sound) (change : Notification → Notification) :
    Remaps (fun note => if note.id = id then change note else note) st (st.change id change) where
  notifications := inv.change_notifications change
  nextId := rfl
  keys := map_changeFirst fun _ => rfl
  lengths := map_changeFirst fun _ => length_changeFirst

lemma map_remaps {inner : Notification → Notification}
    (sources : post.sources = st.sources.map change)
    (key : ∀ source, (change source).key = source.key)
    (kept : ∀ source, (change source).notifications = source.notifications.map inner)
    (nextId : post.nextId = st.nextId) : Remaps inner st post where
  notifications := by
    unfold notifications
    rw [sources, flatMap_map, map_flatMap]
    exact flatMap_congr fun source _ => kept source
  nextId := nextId
  keys := by
    rw [sources, map_map]
    exact map_congr_left fun source _ => key source
  lengths := by
    rw [sources, map_map]
    refine map_congr_left fun source _ => ?_
    rw [Function.comp_apply, kept, length_map]

/-- A change of notifications that keeps their ids and leaves those unseen that are
queued. -/
lemma Sound.remap (inv : st.Sound) {change : Notification → Notification}
    (remaps : Remaps change st post) (keeps : ∀ note, (change note).id = note.id)
    (fewer : post.bannerQueue.Sublist st.bannerQueue) (unseen : ∀ note, note.id ∈ post.bannerQueue →
      note.acknowledged = false → (change note).acknowledged = false)
    (shown : ∀ {id}, post.currentBanner = some id → (∃ note ∈ st.notifications, note.id = id) ∧
        id ∉ post.bannerQueue) : post.Sound where
  distinct := by
    have same : Notification.id ∘ change = Notification.id := funext keeps
    rw [remaps.notifications, map_map, same]
    exact inv.distinct
  bounded := by
    intro note mem
    rw [remaps.notifications] at mem
    obtain ⟨old, has, rfl⟩ := mem_map.mp mem
    rw [keeps, remaps.nextId]
    exact inv.bounded has
  limit := by
    rw [remaps.nextId]
    exact inv.limit
  keys := by
    rw [remaps.keys]
    exact inv.keys
  filled := by
    intro source mem
    have length : source.notifications.length ∈
        post.sources.map fun source => source.notifications.length := mem_map_of_mem mem
    rw [remaps.lengths] at length
    obtain ⟨old, has, same⟩ := mem_map.mp length
    have filled := inv.filled has
    rw [← length_pos_iff, same, length_pos_iff] at filled
    exact filled
  shown := by
    intro id cur
    obtain ⟨note, mem, rfl⟩ := (shown cur).1
    refine ⟨change note, ?_, keeps note⟩
    rw [remaps.notifications]
    exact mem_map_of_mem mem
  queued := by
    intro _ queued
    obtain ⟨note, mem, rfl, old⟩ := inv.queued (fewer.subset queued)
    refine ⟨change note, ?_, keeps note, unseen note queued old⟩
    rw [remaps.notifications]
    exact mem_map_of_mem mem
  queueDistinct := inv.queueDistinct.sublist fewer
  waiting := fun queued cur => (shown cur).2 queued

/-- The sources without some notifications, those that would be empty left out. -/
def purge (ids : List Nat) (sources : List Source) : List Source :=
  (sources.map fun source => source.without ids).filter fun source =>
    !source.notifications.isEmpty

def without (store : NotificationStore) (ids : List Nat) : NotificationStore :=
  { store with
    sources := purge ids store.sources
    bannerQueue := store.bannerQueue.filter fun id => id ∉ ids
    currentBanner := store.currentBanner.filter fun id => id ∉ ids }

lemma purge_cons (ids : List Nat) (source : Source) (rest : List Source) :
    purge ids (source :: rest) = if (source.without ids).notifications.isEmpty then purge ids rest
      else source.without ids :: purge ids rest := by
  unfold purge
  rw [map_cons, filter_cons]
  cases (source.without ids).notifications.isEmpty <;> rfl

lemma flatMap_purge (ids : List Nat) (sources : List Source) :
    (purge ids sources).flatMap Source.notifications =
      (sources.flatMap Source.notifications).filter fun note => note.id ∉ ids := by
  induction sources with
  | nil => rfl
  | cons source _ ih =>
    rw [purge_cons, flatMap_cons, filter_append, ← ih]
    split
    next empty =>
      have nothing := isEmpty_iff.mp empty
      rw [show source.notifications.filter (fun note => note.id ∉ ids) = [] from nothing]
      rfl
    · rfl

lemma without_notifications (st : NotificationStore) (ids : List Nat) :
    (st.without ids).notifications = st.notifications.filter fun note => note.id ∉ ids :=
  flatMap_purge ids st.sources

lemma mem_without_notifications :
    note ∈ (st.without ids).notifications ↔ note ∈ st.notifications ∧ note.id ∉ ids := by
  rw [without_notifications]
  simp

lemma purge_append (one last : List Nat) (sources : List Source) :
    purge last (purge one sources) = purge (one ++ last) sources := by
  have twice (source : Source) :
      (source.without one).without last = source.without (one ++ last) := by
    simp [Source.without, filter_filter, Bool.and_comm]
  induction sources with
  | nil => rfl
  | cons _ _ ih =>
    rw [purge_cons, purge_cons]
    split
    next empty =>
      have nothing := isEmpty_iff.mp empty
      rw [ih, ← twice, if_pos]
      rw [Source.without, nothing]
      rfl
    · rw [purge_cons, ih, twice]

lemma without_append (st : NotificationStore) (one last : List Nat) :
    (st.without one).without last = st.without (one ++ last) := by
  unfold without
  rw [purge_append, filter_filter]
  congr 1
  · simp [Bool.and_comm]
  · cases st.currentBanner with
    | none => rfl
    | some id => by_cases mem : id ∈ one <;> simp [Option.filter, mem]

lemma purge_eq_self (filled : ∀ source ∈ sources, source.notifications ≠ [])
    (lack : ∀ note ∈ sources.flatMap Source.notifications, note.id ∉ ids) :
    purge ids sources = sources := by
  induction sources with
  | nil => rfl
  | cons source _ ih =>
    have whole : source.without ids = source := by
      unfold Source.without
      rw [filter_eq_self.mpr]
      intro note mem
      simpa using lack note (mem_append_left _ mem)
    rw [purge_cons, whole, if_neg, ih]
    · exact fun source mem => filled source (.tail _ mem)
    · exact fun note mem =>
        lack note (mem_append_right _ mem)
    · simpa using filled source mem_cons_self

lemma takeFrom_eq_purge
    (uniq : ((sources.flatMap Source.notifications).map Notification.id).Nodup)
    (filled : ∀ source ∈ sources, source.notifications ≠ []) :
    takeFrom id sources = purge [id] sources := by
  induction sources with
  | nil => rfl
  | cons source rest ih =>
    have later : ∀ source ∈ rest, source.notifications ≠ [] :=
      fun source mem => filled source (.tail _ mem)
    rw [flatMap_cons, map_append, nodup_append] at uniq
    obtain ⟨here, has, ne⟩ := uniq
    unfold takeFrom
    rw [purge_cons]
    by_cases holds : source.holds id = true
    · have elsewhere : purge [id] rest = rest := by
        apply purge_eq_self later
        intro note mem same
        rw [mem_singleton] at same
        exact ne id (holds_iff.mp holds) note.id (mem_map_of_mem mem) same.symm
      have remaining : source.notifications.eraseP (fun note =>
          note.id == id) = (source.without [id]).notifications := by
        rw [Keyed.eraseP_eq_filter here]
        apply filter_congr
        intro note _
        by_cases same : note.id = id <;> simp [same]
      rw [if_pos holds]
      rw [remaining, elsewhere]
      rfl
    · have whole : source.without [id] = source := by
        unfold Source.without
        rw [filter_eq_self.mpr]
        intro _ mem
        rw [decide_eq_true_iff, mem_singleton]
        rintro rfl
        exact holds (holds_iff.mpr (mem_map_of_mem mem))
      rw [if_neg holds, whole, if_neg, ih has later]
      simpa using filled source mem_cons_self

lemma Sound.without (inv : st.Sound) (ids : List Nat) : (st.without ids).Sound where
  distinct := by
    rw [without_notifications]
    exact inv.distinct.sublist (filter_sublist.map _)
  bounded := fun mem => inv.bounded (mem_without_notifications.mp mem).1
  limit := inv.limit
  keys := by
    have sublist : ((st.without ids).sources.map Source.key).Sublist
        ((st.sources.map fun source => source.without ids).map Source.key) :=
      filter_sublist.map _
    rw [map_map] at sublist
    exact inv.keys.sublist sublist
  filled := by
    intro _ mem
    obtain ⟨mem, nonempty⟩ := mem_filter.mp mem
    obtain ⟨_, has, rfl⟩ := mem_map.mp mem
    refine ⟨by simpa using nonempty, ?_⟩
    exact Nat.le_trans (length_filter_le _ _) (inv.filled has).2
  shown := by
    intro id shown
    obtain ⟨shown, kept⟩ := Option.filter_eq_some_iff.mp shown
    obtain ⟨note, mem, rfl⟩ := inv.shown shown
    exact ⟨note, mem_without_notifications.mpr ⟨mem, by simpa using kept⟩, rfl⟩
  queued := by
    intro id queued
    obtain ⟨queued, kept⟩ := mem_filter.mp queued
    obtain ⟨note, mem, rfl, unseen⟩ := inv.queued queued
    exact ⟨note, mem_without_notifications.mpr ⟨mem, by simpa using kept⟩, rfl, unseen⟩
  queueDistinct := inv.queueDistinct.filter _
  waiting := by
    intro _ queued shown
    exact inv.waiting (mem_filter.mp queued).1 (Option.filter_eq_some_iff.mp shown).1

lemma filter_currentBanner (out : ∀ id ∈ ids, st.currentBanner ≠ some id) :
    st.currentBanner.filter (fun id => id ∉ ids) = st.currentBanner := by
  cases shown : st.currentBanner with
  | none => rfl
  | some id =>
    have out : id ∉ ids := fun mem => out id mem shown
    simp [Option.filter, out]

lemma filter_bannerQueue (out : ∀ id ∈ ids, id ∉ st.bannerQueue) :
    st.bannerQueue.filter (fun id => id ∉ ids) = st.bannerQueue := by
  rw [filter_eq_self]
  intro id queued
  simpa using fun mem => out id mem queued

lemma Sound.without_of_absent (inv : st.Sound)
    (lack : ∀ id ∈ ids, st.find id = none) : st.without ids = st := by
  have missing {note : Notification} (mem : note ∈ st.notifications) : note.id ∉ ids := by
    intro has
    exact find_eq_none_iff.mp (lack _ has) (mem_map_of_mem mem)
  unfold NotificationStore.without
  rw [purge_eq_self (fun _ mem => (inv.filled mem).1) fun _ => missing,
    filter_bannerQueue, filter_currentBanner]
  · intro id has shown
    obtain ⟨_, mem, rfl⟩ := inv.shown shown
    exact missing mem has
  · intro _ has queued
    obtain ⟨_, mem, rfl, -⟩ := inv.queued queued
    exact missing mem has

lemma Sound.close_fst (inv : st.Sound) (why : CloseReason) :
    (st.close id why).1 = st.without [id] := by
  unfold close
  cases got : st.find id with
  | none => exact (inv.without_of_absent (by simpa using got)).symm
  | some =>
    have sources : takeFrom id st.sources = purge [id] st.sources :=
      takeFrom_eq_purge inv.distinct fun _ mem => (inv.filled mem).1
    dsimp only [NotificationStore.without]
    rw [sources]
    by_cases shown : st.currentBanner = some id
    · rw [if_pos shown, filter_bannerQueue, shown]
      · simp [Option.filter]
      · intro other mem queued
        exact inv.waiting queued (mem_singleton.mp mem ▸ shown)
    · rw [if_neg shown, filter_currentBanner (by simpa using shown)]
      by_cases queued : id ∈ st.bannerQueue
      · rw [if_pos queued, inv.queueDistinct.erase_eq_filter]
        have same : st.bannerQueue.filter (fun other => other != id) =
            st.bannerQueue.filter fun other => other ∉ [id] := by
          apply filter_congr
          intro other _
          by_cases same : other = id <;> simp [same]
        rw [same]
      · rw [if_neg queued, filter_bannerQueue (by simpa using queued)]

lemma Sound.closeAll_fst (inv : st.Sound) (why : CloseReason) (ids : List Nat)
    (effs : Effects) : (closeAll why ids (st, effs)).1 = st.without ids := by
  induction ids generalizing st effs with
  | nil => exact (inv.without_of_absent (by simp)).symm
  | cons id _ ih =>
    dsimp only [closeAll]
    rw [inv.close_fst, ih (inv.without [id]), without_append]
    rfl

lemma excess_room :
    (source.without (excess source)).notifications.length < maxNotificationsPerSource := by
  have shorter : (source.without (excess source)).notifications.length ≤ (source.notifications.drop
        (source.notifications.length + 1 - maxNotificationsPerSource)).length := by
    unfold Source.without
    conv =>
      lhs
      rw [← take_append_drop
        (source.notifications.length + 1 - maxNotificationsPerSource) source.notifications]
    rw [filter_append, filter_eq_nil_iff.mpr, nil_append]
    · exact length_filter_le _ _
    · intro note mem
      have has : note.id ∈ excess source := mem_map_of_mem mem
      simpa using has
  rw [length_drop] at shorter
  unfold maxNotificationsPerSource at shorter ⊢
  omega

/-- Which notifications a new one of a source pushes out. -/
def pushedOut (store : NotificationStore) (key : SourceKey) : List Nat :=
  ((store.sources.find? fun source => source.key == key).map excess).getD []

lemma Sound.evict_fst (inv : st.Sound) (key : SourceKey) :
    (st.evict key).1 = st.without (st.pushedOut key) := by
  unfold evict pushedOut
  cases st.sources.find? fun source => source.key == key with
  | none => exact (inv.without_of_absent (by simp)).symm
  | some => exact inv.closeAll_fst _ _ _

lemma Sound.evict_room (inv : st.Sound)
    (mem : source ∈ (st.without (st.pushedOut key)).sources) (same : source.key = key) :
    source.notifications.length < maxNotificationsPerSource := by
  obtain ⟨mem, -⟩ := mem_filter.mp mem
  obtain ⟨_, has, rfl⟩ := mem_map.mp mem
  have got := (Keyed.find?_eq_some_iff inv.keys).mpr ⟨has, same⟩
  unfold pushedOut
  rw [got]
  exact excess_room

/-- One notification is added to a source, which comes first. -/
structure Adds (notification : Notification) (store after : NotificationStore) : Prop where
  notifications : after.notifications.Perm (notification :: store.notifications)
  nextId : after.nextId = store.nextId
  bannerQueue : after.bannerQueue = store.bannerQueue
  currentBanner : after.currentBanner = store.currentBanner

lemma place_found (got : st.sources.find? (fun source => source.key == key) = some source) :
    (st.place key sender change).sources =
      change source :: st.sources.eraseP fun source => source.key == key := by
  unfold place
  rw [got]

lemma place_absent (lack : st.sources.find? (fun source => source.key == key) = none) :
    (st.place key sender change).sources = change (.empty key sender) :: st.sources := by
  unfold place
  rw [lack]

structure Pushes (notification : Notification) (change : Source → Source) : Prop where
  key : ∀ source, (change source).key = source.key
  notifications : ∀ source, (change source).notifications = source.notifications ++ [notification]

lemma place_adds (pushes : Pushes note change) : Adds note st (st.place key sender change) := by
  refine ⟨?_, rfl, rfl, rfl⟩
  unfold notifications
  cases got : st.sources.find? fun source => source.key == key with
  | none =>
    rw [place_absent got, flatMap_cons, pushes.notifications]
    rfl
  | some =>
    rw [place_found got, flatMap_cons, pushes.notifications, append_assoc]
    refine perm_middle.trans (.cons _ ?_)
    exact ((Keyed.perm_cons_eraseP got).flatMap_right _).symm

lemma Sound.place_keys (inv : st.Sound) (pushes : Pushes note change) :
    ((st.place key sender change).sources.map Source.key).Nodup := by
  cases got : st.sources.find? fun source => source.key == key with
  | none =>
    rw [place_absent got, map_cons, nodup_cons, pushes.key]
    exact ⟨Keyed.find?_eq_none_iff.mp got, inv.keys⟩
  | some =>
    rw [place_found got, map_cons, pushes.key, ← map_cons]
    exact ((Keyed.perm_cons_eraseP got).map _).nodup_iff.mp inv.keys

lemma Sound.place_filled (inv : st.Sound) (pushes : Pushes note change)
    (room : ∀ {source}, source ∈ st.sources → source.key = key →
      source.notifications.length < maxNotificationsPerSource)
    (mem : source ∈ (st.place key sender change).sources) : source.notifications ≠ [] ∧
      source.notifications.length ≤ maxNotificationsPerSource := by
  have pushed {old : Source} (less : old.notifications.length < maxNotificationsPerSource) :
      (change old).notifications ≠ [] ∧
        (change old).notifications.length ≤ maxNotificationsPerSource := by
    rw [pushes.notifications]
    refine ⟨by simp, ?_⟩
    rw [length_append]
    exact less
  cases got : st.sources.find? fun source => source.key == key with
  | none =>
    rw [place_absent got] at mem
    rcases mem_cons.mp mem with rfl | mem
    · exact pushed (Nat.succ_pos 9)
    · exact inv.filled mem
  | some =>
    rw [place_found got] at mem
    rcases mem_cons.mp mem with rfl | mem
    · obtain ⟨has, same⟩ := (Keyed.find?_eq_some_iff inv.keys).mp got
      exact pushed (room has same)
    · exact inv.filled (mem_of_mem_eraseP mem)

lemma Sound.place (inv : st.Sound) (pushes : Pushes note change)
    (fresh : note.id ∉ st.notifications.map Notification.id) (allocated : note.id < st.nextId)
    (room : ∀ {source}, source ∈ st.sources → source.key = key →
      source.notifications.length < maxNotificationsPerSource) :
    (st.place key sender change).Sound := by
  have adds : Adds note st (st.place key sender change) := place_adds pushes
  have old {other : Notification} (mem : other ∈ st.notifications) :
      other ∈ (st.place key sender change).notifications :=
    adds.notifications.mem_iff.mpr (.tail _ mem)
  constructor
  · rw [(adds.notifications.map _).nodup_iff, map_cons, nodup_cons]
    exact ⟨fresh, inv.distinct⟩
  · intro other mem
    rcases mem_cons.mp (adds.notifications.mem_iff.mp mem) with rfl | mem
    · exact allocated
    · exact inv.bounded mem
  · exact inv.limit
  · exact inv.place_keys pushes
  · exact inv.place_filled pushes room
  · intro id shown
    obtain ⟨other, mem, same⟩ := inv.shown shown
    exact ⟨other, old mem, same⟩
  · intro _ queued
    obtain ⟨other, mem, same, unseen⟩ := inv.queued queued
    exact ⟨other, old mem, same, unseen⟩
  · exact inv.queueDistinct
  · exact inv.waiting

end NotificationStore

end Synoik
