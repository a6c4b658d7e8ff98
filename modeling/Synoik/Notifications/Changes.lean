import Mathlib.Data.List.Flatten
import Synoik.Notifications.Steps

/-!
# What a change of the notification store can be

Notifications are left out, one is replaced in place, one is added, or the banner moves
on. Every result about a run is a case analysis over these.
-/

namespace Synoik.NotificationStore

open List
open Option (map_eq_some_iff)

variable {st post placed replaced : NotificationStore} {id : Nat} {banners : Bool}
  {key : SourceKey} {sender : Option String} {change : Source → Source}
  {note : Notification} {effs : Effects} {op : StoreOp} {urgency : Urgency}

/-- A new notification has the next id and pushes the oldest of its source out. -/
structure Posts (store : NotificationStore) (key : SourceKey) (notification : Notification)
    (placed : NotificationStore) (effects : Effects) : Prop where
  fresh : notification.id = store.nextId
  adds : Adds notification
    ({ store with nextId := store.nextId + 1 }.without (store.pushedOut key)) placed
  sound : placed.Sound
  closings : Closings store .expired (store.pushedOut key) effects

lemma Sound.next (sound : st.Sound) (room : st.nextId < maxId) :
    Sound { st with nextId := st.nextId + 1 } :=
  { sound with
    bounded := fun mem => Nat.lt_succ_of_lt (sound.bounded mem)
    limit := room }

lemma Sound.not_live_nextId (sound : st.Sound) : ¬ st.Live st.nextId := by
  intro live
  obtain ⟨_, mem, same⟩ := mem_map.mp live
  exact Nat.ne_of_lt (sound.bounded mem) same

lemma pushedOut_sublist (st : NotificationStore) (key : SourceKey) :
    (st.pushedOut key).Sublist (st.notifications.map Notification.id) := by
  unfold pushedOut
  cases got : st.sources.find? fun source => source.key == key with
  | none => exact nil_sublist _
  | some =>
    have mem := mem_of_find?_eq_some got
    refine .map _ ((take_sublist _ _).trans ?_)
    exact sublist_flatten_of_mem (mem_map_of_mem mem)

lemma pushedOut_live (mem : id ∈ st.pushedOut key) : st.Live id :=
  (pushedOut_sublist st key).subset mem

lemma Sound.pushedOut_nodup (sound : st.Sound) : (st.pushedOut key).Nodup :=
  sound.distinct.sublist (pushedOut_sublist st key)

lemma Sound.evict_closings (sound : st.Sound) (key : SourceKey) :
    Closings st .expired (st.pushedOut key) (st.evict key).2 := by
  have live : ∀ id ∈ st.pushedOut key, st.Live id := fun _ => pushedOut_live
  have uniq : (st.pushedOut key).Nodup := sound.pushedOut_nodup
  unfold evict
  unfold pushedOut at live uniq ⊢
  cases got : st.sources.find? fun source => source.key == key with
  | none => exact ⟨rfl, nofun, by simp⟩
  | some =>
    rw [got] at live uniq
    exact sound.closeAll_closings live uniq .expired

lemma Sound.posts (sound : st.Sound) (room : st.nextId < maxId)
    (pushes : Pushes note change) (fresh : note.id = st.nextId) : Posts st key note
      (({ st with nextId := st.nextId + 1 }.evict key).1.place key sender change)
      ({ st with nextId := st.nextId + 1 }.evict key).2 := by
  have next := sound.next room
  have evicted := next.evict_fst key
  have closings := next.evict_closings key
  refine ⟨fresh, ?_, ?_, closings.closed, closings.hides, closings.stale⟩
  · rw [evicted]
    exact place_adds pushes
  · rw [evicted]
    refine (next.without _).place pushes ?_ ?_ ?_
    · intro live
      exact sound.not_live_nextId (fresh ▸ (live_without.mp live).1)
    · exact fresh ▸ Nat.lt_succ_self _
    · exact fun mem same => next.evict_room mem same

variable {source : Source} {allocated : Nat × NotificationStore}

/-- A source keeps a notification when room is made in it. -/
lemma excess_rest (uniq : (source.notifications.map Notification.id).Nodup)
    (filled : source.notifications ≠ []) : (source.without (excess source)).notifications ≠ [] := by
  have split := take_append_drop
    (source.notifications.length + 1 - maxNotificationsPerSource) source.notifications
  have some : source.notifications.drop
      (source.notifications.length + 1 - maxNotificationsPerSource) ≠ [] := by
    rw [← length_pos_iff] at filled ⊢
    rw [length_drop]
    unfold maxNotificationsPerSource
    omega
  obtain ⟨_, mem⟩ := exists_mem_of_ne_nil _ some
  refine ne_nil_of_mem (mem_filter.mpr ⟨mem_of_mem_drop mem, ?_⟩)
  rw [decide_eq_true_iff]
  intro early
  rw [← split, map_append, nodup_append] at uniq
  exact uniq.2.2 _ early _ (mem_map_of_mem mem) rfl

lemma Sound.source_distinct (sound : st.Sound) (mem : source ∈ st.sources) :
    (source.notifications.map Notification.id).Nodup :=
  sound.distinct.sublist ((sublist_flatten_of_mem (mem_map_of_mem mem)).map _)

lemma Sound.evict_any (sound : st.Sound)
    (here : (st.sources.any fun source => source.key == key) = true) :
    ((st.evict key).1.sources.any fun source => source.key == key) = true := by
  obtain ⟨source, mem, same⟩ := any_eq_true.mp here
  rw [beq_iff_eq] at same
  have got := (Keyed.find?_eq_some_iff sound.keys).mpr ⟨mem, same⟩
  have room := excess_rest (sound.source_distinct mem) (sound.filled mem).1
  rw [sound.evict_fst, any_eq_true]
  refine ⟨source.without (st.pushedOut key), mem_filter.mpr ⟨?_, ?_⟩, ?_⟩
  · exact mem_map_of_mem mem
  · unfold pushedOut
    rw [got]
    simpa using room
  · exact beq_iff_eq.mpr same

/-- The empty source that a shell's notification starts with changes nothing. -/
lemma evict_empty {sources : List Source} :
    evict { st with sources := .empty key sender :: sources } key =
      ({ st with sources := .empty key sender :: sources }, {}) := by
  unfold evict
  rw [find?_cons_of_pos (by simp [Source.empty])]
  rfl

section

variable (lack : st.sources.find? (fun source => source.key == key) = none)
include lack

lemma place_empty : place { st with sources := .empty key sender :: st.sources } key sender change =
      st.place key sender change := by
  unfold place
  rw [lack, find?_cons_of_pos (by simp [Source.empty]), eraseP_cons_of_pos (by simp [Source.empty])]

lemma evict_absent : st.evict key = (st, {}) := by
  unfold evict
  rw [lack]

end

lemma allocate_eq_some (sound : st.Sound) (res : st.allocate = some allocated) :
    st.nextId < maxId ∧ allocated = (st.nextId, { st with nextId := st.nextId + 1 }) := by
  unfold allocate at res
  split at res
  · cases res
  next differs =>
  exact ⟨Nat.lt_of_le_of_ne sound.limit differs, (Option.some.inj res).symm⟩

/-- What a shell's notification does to its source. -/
def pushShell (id : Nat) (req : ShellNotifyRequest) (now : Nat) (source : Source) : Source :=
  { source with
    title := req.sourceTitle
    icon := req.sourceIcon
    notifications := source.notifications ++ [shellNotification id req now] }

lemma Sound.addShell_eq (sound : st.Sound) (req : ShellNotifyRequest)
    (banners : Bool) (now : Nat) : st.addShell req banners now = st.allocate.map fun (id, st) =>
      let res := ((st.evict (.shell req.source)).1.place (.shell req.source) none
        (pushShell id req now)).announce id banners (st.evict (.shell req.source)).2
      (res.1, id, res.2) := by
  unfold addShell
  cases allocated : st.allocate with
  | none => rfl
  | some pair =>
    have sound : pair.2.Sound := by
      obtain ⟨room, rfl⟩ := allocate_eq_some sound allocated
      exact sound.next room
    obtain ⟨_, next⟩ := pair
    rw [Option.bind_some, Option.map_some]
    dsimp only at sound ⊢
    by_cases here : (next.sources.any fun source => source.key == .shell req.source) = true
    · rw [if_pos here, if_pos (sound.evict_any here)]
      rfl
    · have lack : next.sources.find? (fun source => source.key == .shell req.source) = none := by
        rw [find?_eq_none]
        intro source mem same
        exact here (any_eq_true.mpr ⟨source, mem, same⟩)
      rw [if_neg here, evict_empty, evict_absent lack]
      rw [if_pos (by simp [Source.empty])]
      exact congrArg (fun placed : NotificationStore =>
        some ((placed.announce _ _ _).1, _, (placed.announce _ _ _).2)) (place_empty lack)

/-- A notification gets a new text and urgency in its place and is unseen again. -/
structure Replaces (store : NotificationStore) (id : Nat) (urgency : Urgency)
    (change : Notification → Notification) (replaced : NotificationStore) : Prop where
  live : store.Live id
  remaps : Remaps (fun notification =>
    if notification.id = id then change notification else notification) store replaced
  bannerQueue : replaced.bannerQueue = store.bannerQueue
  currentBanner : replaced.currentBanner = store.currentBanner
  keeps : ∀ notification, (change notification).id = notification.id
  unseen : ∀ notification, (change notification).acknowledged = false
  urgency : ∀ notification, (change notification).urgency = urgency

/-- Which notification a change replaces, and its new urgency. -/
def replacement (store : NotificationStore) : StoreOp → Option (Nat × Urgency)
  | .notify req _ =>
    match store.replaceId req with
    | .ok (some id) => some (id, req.urgency)
    | _ => none
  | .addGtk req _ =>
    (store.findGtk req.appId req.gtkId).map fun existing => (existing.id, req.urgency)
  | _ => none

lemma replaceId_live {req : NotifyRequest} (swaps : st.replaceId req = .ok (some id)) :
    st.Live id := by
  unfold replaceId at swaps
  split at swaps
  · cases swaps
  · split at swaps
    · cases swaps
    next _ got =>
    split at swaps
    · cases swaps
      exact mem_map_of_mem (mem_of_find?_eq_some got)
    · cases swaps

section

variable (sound : st.Sound)
include sound

section

variable (live : st.Live id)
include live

lemma Sound.replaces {change : Notification → Notification} {here : Source → Source}
    (keeps : ∀ note, (change note).id = note.id)
    (unseen : ∀ note, (change note).acknowledged = false)
    (urgent : ∀ note, (change note).urgency = urgency)
    (key : ∀ source, (here source).key = source.key)
    (kept : ∀ source, (here source).notifications = source.notifications) :
    Replaces st id urgency change ((st.change id change).changeSource id here) where
  live := live
  remaps := (sound.change_remaps change).trans (changeSource_remaps key kept)
  bannerQueue := rfl
  currentBanner := rfl
  keeps := keeps
  unseen := unseen
  urgency := urgent

lemma Sound.replaceFdo_replaces (req : NotifyRequest) (now : Nat) :
    ∃ change, Replaces st id req.urgency change (st.replaceFdo id req now) := by
  exact ⟨_, sound.replaces live (fun _ => rfl) (fun _ => rfl) (fun _ => rfl) (fun _ => rfl)
    fun _ => rfl⟩

lemma Sound.replaceGtk_replaces (req : GtkNotifyRequest) (now : Nat) :
    ∃ change, Replaces st id req.urgency change (st.replaceGtk id req now) := by
  exact ⟨_, sound.replaces live (fun _ => rfl) (fun _ => rfl) (fun _ => rfl) (fun _ => rfl)
    fun _ => rfl⟩

end

lemma Sound.step_replaces (swaps : st.replacement op = some (id, urgency)) :
    ∃ change replaced, Replaces st id urgency change replaced ∧
      st.step banners op = some (replaced.announce id banners {}) := by
  cases op with
  | notify req now =>
    dsimp only [replacement] at swaps
    split at swaps
    next existing got =>
      cases swaps
      obtain ⟨change, swaps⟩ := sound.replaceFdo_replaces (replaceId_live got) req now
      refine ⟨change, _, swaps, ?_⟩
      dsimp only [step, notify]
      rw [got]
      rfl
    · cases swaps
  | addGtk req now =>
    obtain ⟨existing, got, same⟩ := map_eq_some_iff.mp swaps
    cases same
    have live : st.Live existing.id := mem_map_of_mem (mem_of_find?_eq_some got)
    obtain ⟨change, swaps⟩ := sound.replaceGtk_replaces live req now
    refine ⟨change, _, swaps, ?_⟩
    dsimp only [step, addGtk]
    rw [got]
  | _ => cases swaps

/-- What a change that replaces nothing does. -/
inductive Changes (showBanners : Bool) (store : NotificationStore) :
    StoreOp → NotificationStore × Effects → Prop
  | rests {op : StoreOp} : Changes showBanners store op (store, {})
  | closes {op : StoreOp} {ids : List Nat} {reason : CloseReason} {effects : Effects}
      (live : ∀ id ∈ ids, store.Live id) (distinct : ids.Nodup)
      (closings : Closings store reason ids effects) :
      Changes showBanners store op (store.without ids, effects)
  | posts {op : StoreOp} {key : SourceKey} {notification : Notification}
      {placed : NotificationStore} {effects : Effects}
      (posted : Posts store key notification placed effects) :
      Changes showBanners store op (placed.announce notification.id showBanners effects)
  | vanishes {sender : String} {ids : List Nat} {effects : Effects}
      (live : ∀ id ∈ ids, store.Live id) (distinct : ids.Nodup)
      (closings : Closings store .appClosed ids effects) :
      Changes showBanners store (.senderVanished sender)
        ({ store.without ids with
          sources := (store.without ids).sources.map (untrack sender) }, effects)
  | acknowledges : Changes showBanners store .acknowledgeAll store.acknowledgeAll
  | pops {id : Nat} {rest : List Nat} (hidden : store.currentBanner = none)
      (queue : store.bannerQueue = id :: rest) :
      Changes showBanners store .popNextBanner
        ({ store.change id fun notification => { notification with acknowledged := true } with
          bannerQueue := rest
          currentBanner := some id }, {})
  | hides {id : Nat} (shown : store.currentBanner = some id) :
      Changes showBanners store .bannerHidden ({ store with currentBanner := none }, {})
  | drops {id : Nat} {effects : Effects} (shown : store.currentBanner = some id)
      (closings : effects.closed = [store.signal .expired id]) :
      Changes showBanners store .bannerHidden (store.without [id], effects)

lemma Sound.close_changes (why : CloseReason) : Changes banners st op (st.close id why) := by
  by_cases live : st.Live id
  · have closed : st.close id why = (st.without [id], (st.close id why).2) :=
      Prod.ext (sound.close_fst why) rfl
    rw [closed]
    exact .closes (by simpa using live) (nodup_singleton id) (close_closings live why)
  · have lack : st.find id = none := find_eq_none_iff.mpr live
    unfold close
    rw [lack]
    exact .rests

lemma Sound.closeAll_changes {ids : List Nat}
    (sublist : ids.Sublist (st.notifications.map Notification.id)) (why : CloseReason) :
    Changes banners st op (closeAll why ids (st, {})) := by
  have live : ∀ id ∈ ids, st.Live id := fun _ mem => sublist.subset mem
  have uniq : ids.Nodup := sound.distinct.sublist sublist
  have closed : closeAll why ids (st, {}) =
      (st.without ids, (closeAll why ids (st, {})).2) :=
    Prod.ext (sound.closeAll_fst why ids {}) rfl
  rw [closed]
  exact .closes live uniq (sound.closeAll_closings live uniq why)

lemma Sound.post_changes (res : st.allocate = some allocated) (pushes : Pushes note change)
    (fresh : note.id = allocated.1) :
    Changes banners st op (((allocated.2.evict key).1.place key sender change).announce
      allocated.1 banners (allocated.2.evict key).2) := by
  obtain ⟨room, rfl⟩ := allocate_eq_some sound res
  have posted : Posts st key note
      (({ st with nextId := st.nextId + 1 }.evict key).1.place key sender change)
      ({ st with nextId := st.nextId + 1 }.evict key).2 :=
    sound.posts room pushes fresh
  generalize NotificationStore.evict _ key = evicted at posted ⊢
  rw [← fresh]
  exact .posts posted

lemma Sound.popNextBanner_head {rest : List Nat}
    (hidden : st.currentBanner = none) (q : st.bannerQueue = id :: rest) :
    st.popNextBanner.1 = { st.change id fun note => { note with acknowledged := true } with
        bannerQueue := rest
        currentBanner := some id } := by
  obtain ⟨_, mem, same, unseen⟩ := sound.queued (q ▸ mem_cons_self)
  have got := sound.find_eq_some_iff.mpr ⟨mem, same⟩
  unfold popNextBanner
  rw [if_neg (by simp [hidden]), q]
  unfold popFrom
  rw [got]
  dsimp only
  rw [if_neg (by simp [unseen])]

lemma Sound.popNextBanner_changes : Changes banners st .popNextBanner (st.popNextBanner.1, {}) := by
  cases hidden : st.currentBanner with
  | some =>
    unfold popNextBanner
    rw [if_pos (by simp [hidden])]
    exact .rests
  | none =>
    cases q : st.bannerQueue with
    | nil =>
      have same : st = { st with bannerQueue := [] } := by rw [← q]
      unfold popNextBanner
      rw [if_neg (by simp [hidden]), q]
      unfold popFrom
      rw [← same]
      exact .rests
    | cons =>
      rw [sound.popNextBanner_head hidden q]
      exact .pops hidden q

lemma Sound.hide : Sound { st with currentBanner := none } :=
  { sound with
    shown := nofun
    waiting := fun _ => by simp }

lemma Sound.bannerHidden_changes : Changes banners st .bannerHidden st.bannerHidden := by
  unfold bannerHidden
  cases shown : st.currentBanner with
  | none => exact .rests
  | some id =>
    dsimp only
    split
    next _ got =>
      split
      · have live := live_of_find got
        have closings := close_closings live .expired
        have same : NotificationStore.without { st with currentBanner := none } [id] =
            st.without [id] := by
          unfold NotificationStore.without
          simp [shown, Option.filter]
        have closed := (sound.hide.close_fst .expired).trans same
        rw [show NotificationStore.close { st with currentBanner := none } id .expired =
          (st.without [id], _) from Prod.ext closed rfl]
        exact .drops shown closings.closed
      · exact .hides shown
    · exact .hides shown

lemma Sound.senderVanished_changes (sender : String) :
    Changes banners st (.senderVanished sender) (st.senderVanished sender) := by
  dsimp only [senderVanished]
  generalize ids : ((st.sources.filter fun source =>
    isDesktopEntry source.key && decide (source.sender = some sender)).flatMap fun source =>
      source.notifications.map Notification.id) = gone
  have sublist : gone.Sublist (st.notifications.map Notification.id) := by
    unfold notifications
    rw [← ids, map_flatMap]
    exact filter_sublist.flatMap _
  have live : ∀ id ∈ gone, st.Live id := fun _ mem => sublist.subset mem
  have uniq : gone.Nodup := sound.distinct.sublist sublist
  rw [sound.closeAll_fst]
  exact .vanishes live uniq (sound.closeAll_closings live uniq .appClosed)

lemma Sound.step_changes {res : NotificationStore × Effects} (ran : st.step banners op = some res)
    (new : st.replacement op = none) : Changes banners st op res := by
  cases op with
  | notify =>
    unfold replacement at new
    unfold step notify at ran
    dsimp only at new ran
    split at ran
    · cases ran
      exact .rests
    next swaps => simp [swaps] at new
    · obtain ⟨_, posted, same⟩ := map_eq_some_iff.mp ran
      obtain ⟨_, res, rfl⟩ := map_eq_some_iff.mp posted
      rw [← same]
      exact sound.post_changes res ⟨fun _ => rfl, fun _ => rfl⟩ rfl
  | addGtk =>
    dsimp only [step, addGtk] at ran
    rw [replacement, Option.map_eq_none_iff] at new
    rw [new] at ran
    obtain ⟨_, res, rfl⟩ := map_eq_some_iff.mp ran
    exact sound.post_changes res ⟨fun _ => rfl, fun _ => rfl⟩ rfl
  | addShell =>
    dsimp only [step] at ran
    rw [sound.addShell_eq] at ran
    obtain ⟨_, posted, same⟩ := map_eq_some_iff.mp ran
    obtain ⟨_, res, rfl⟩ := map_eq_some_iff.mp posted
    rw [← same]
    exact sound.post_changes res ⟨fun _ => rfl, fun _ => rfl⟩ rfl
  | removeGtk =>
    cases ran
    unfold removeGtk
    split
    · exact sound.close_changes .appClosed
    · exact .rests
  | close _ why =>
    cases ran
    exact sound.close_changes why
  | closeChecked id =>
    dsimp only [step, closeChecked] at ran
    cases got : st.find id with
    | none =>
      rw [got] at ran
      cases ran
      exact .rests
    | some =>
      rw [got] at ran
      dsimp only at ran
      split at ran
      next same =>
        split at same
        · cases same
          cases ran
          exact sound.close_changes .appClosed
        · cases same
      next same =>
      split at same
      · cases same
      · cases same
        cases ran
        exact .rests
  | senderVanished sender =>
    cases ran
    exact sound.senderVanished_changes sender
  | acknowledgeAll =>
    cases ran
    exact .acknowledges
  | clearAll =>
    cases ran
    exact sound.closeAll_changes (Sublist.refl _) .dismissed
  | popNextBanner =>
    cases ran
    exact sound.popNextBanner_changes
  | activate =>
    cases ran
    unfold activate
    split
    · split
      · exact .rests
      · exact sound.close_changes .dismissed
    · exact .rests
  | activateSource =>
    cases ran
    unfold activateSource
    split
    · exact .rests
    next _ got =>
    have mem := mem_of_find?_eq_some got
    refine sound.closeAll_changes (Sublist.map _ ?_) .dismissed
    exact filter_sublist.trans (sublist_flatten_of_mem (mem_map_of_mem mem))
  | bannerHidden =>
    cases ran
    exact sound.bannerHidden_changes

end

end Synoik.NotificationStore
