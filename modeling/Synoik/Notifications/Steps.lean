import Synoik.Notifications.Sound

/-!
# What a change of the notification store keeps

Each change is one of a few: notifications are left out, changed in place or added, and
then a banner may be requested, shown or hidden.
-/

namespace Synoik.NotificationStore

open List

variable {st post : NotificationStore} {id : Nat} {banners : Bool}

/-- The gate turns a notification away. -/
def turnedAway (showBanners : Bool) (urgency : Urgency) : Bool :=
  urgency = .low || (!showBanners && urgency ≠ .critical)

/-- What a request for a banner does: nothing, the banner that is shown is refreshed, or
the notification is in the queue, which is sorted. -/
inductive Requests (store : NotificationStore) (id : Nat) (showBanners : Bool) :
    NotificationStore × Option BannerEffect → Prop
  | rests (away : ∀ {notification}, store.find id = some notification →
        notification.acknowledged = true ∨ turnedAway showBanners notification.urgency = true ∨
          (store.currentBanner ≠ some id ∧ id ∉ store.bannerQueue)) :
      Requests store id showBanners (store, none)
  | refreshes {notification : Notification} (found : store.find id = some notification)
      (lets : turnedAway showBanners notification.urgency = false)
      (shown : store.currentBanner = some id) :
      Requests store id showBanners
        (store.change id fun notification => { notification with acknowledged := true },
          some .refreshCurrent)
  | sorts {notification : Notification} (found : store.find id = some notification)
      (lets : turnedAway showBanners notification.urgency = false)
      (hidden : store.currentBanner ≠ some id) (queued : id ∈ store.bannerQueue) :
      Requests store id showBanners (store.sortQueue, some .queueChanged)
  | queues {notification : Notification} (found : store.find id = some notification)
      (unseen : notification.acknowledged = false)
      (lets : turnedAway showBanners notification.urgency = false)
      (hidden : store.currentBanner ≠ some id) (absent : id ∉ store.bannerQueue) :
      Requests store id showBanners
        (sortQueue { store with bannerQueue := store.bannerQueue ++ [id] }, some .queueChanged)

lemma requestBanner_requests (st : NotificationStore) (id : Nat) (banners : Bool) :
    Requests st id banners (st.requestBanner id banners) := by
  unfold requestBanner
  cases got : st.find id with
  | none =>
    refine .rests fun {note} same => ?_
    rw [got] at same
    cases same
  | some note =>
    have same {other : Notification} (has : st.find id = some other) :
        other = note := by
      rw [got] at has
      exact (Option.some.inj has).symm
    dsimp only
    by_cases seen : note.acknowledged = true
    · rw [if_pos seen]
      exact .rests fun has => .inl (same has ▸ seen)
    rw [if_neg seen]
    by_cases low : note.urgency = .low
    · rw [if_pos low]
      refine .rests fun has => .inr (.inl ?_)
      rw [same has, low]
      rfl
    rw [if_neg low]
    by_cases quiet : (!banners && decide (note.urgency ≠ .critical)) = true
    · rw [if_pos quiet]
      refine .rests fun has => .inr (.inl ?_)
      rw [same has]
      unfold turnedAway
      rw [quiet, Bool.or_true]
    rw [if_neg quiet]
    have lets : turnedAway banners note.urgency = false := by
      unfold turnedAway
      rw [Bool.eq_false_iff.mpr quiet]
      simpa using low
    by_cases shown : st.currentBanner = some id
    · rw [if_pos shown]
      exact .refreshes got lets shown
    rw [if_neg shown]
    by_cases queued : id ∈ st.bannerQueue
    · rw [if_pos queued]
      exact .sorts got lets shown queued
    rw [if_neg queued]
    split
    · exact .rests fun has => .inr (.inr ⟨shown, queued⟩)
    · exact .queues got (by simpa using seen) lets shown queued

section

variable (inv : st.Sound)
include inv

lemma Sound.requeue {q : List Nat}
    (same : q.Perm st.bannerQueue) : Sound { st with bannerQueue := q } :=
  { inv with
    queued := fun queued => inv.queued (same.mem_iff.mp queued)
    queueDistinct := same.nodup_iff.mpr inv.queueDistinct
    waiting := fun queued => inv.waiting (same.mem_iff.mp queued) }

lemma Sound.sortQueue : st.sortQueue.Sound := inv.requeue (perm_insertionSort _ _)

lemma Sound.acknowledge (out : id ∉ st.bannerQueue) :
    (st.change id fun note => { note with acknowledged := true }).Sound := by
  refine inv.remap (inv.change_remaps _) ?_ (Sublist.refl _) ?_ ?_
  · intro note
    split <;> rfl
  · intro note queued unseen
    have ne : note.id ≠ id := fun same => out (same ▸ queued)
    rw [if_neg ne]
    exact unseen
  · intro _ shown
    exact ⟨inv.shown shown, fun queued => inv.waiting queued shown⟩

lemma Sound.requestBanner (id : Nat) (banners : Bool) : (st.requestBanner id banners).1.Sound := by
  have requests := requestBanner_requests st id banners
  generalize st.requestBanner id banners = res at requests
  cases requests with
  | rests => exact inv
  | refreshes _ _ shown => exact inv.acknowledge fun queued => inv.waiting queued shown
  | sorts => exact inv.sortQueue
  | @queues note got unseen lets hidden lack =>
    obtain ⟨mem, same⟩ := inv.find_eq_some_iff.mp got
    apply Sound.sortQueue
    refine { inv with queued := ?_, queueDistinct := ?_, waiting := ?_ }
    · intro other queued
      rcases mem_append.mp queued with queued | last
      · exact inv.queued queued
      · exact ⟨note, mem, (mem_singleton.mp last) ▸ same, unseen⟩
    · rw [nodup_append]
      refine ⟨inv.queueDistinct, by simp, ?_⟩
      rintro other queued _ last rfl
      exact lack (mem_singleton.mp last ▸ queued)
    · intro _ queued
      rcases mem_append.mp queued with queued | last
      · exact inv.waiting queued
      · exact (mem_singleton.mp last) ▸ hidden

end

lemma announce_fst (st : NotificationStore) (id : Nat) (banners : Bool) (effs : Effects) :
    (st.announce id banners effs).1 = (st.requestBanner id banners).1 := by
  unfold announce
  rcases st.requestBanner id banners with ⟨_, _ | _⟩ <;> rfl

lemma announce_closed (st : NotificationStore) (id : Nat) (banners : Bool)
    (effs : Effects) : (st.announce id banners effs).2.closed = effs.closed := by
  unfold announce
  rcases st.requestBanner id banners with ⟨_, _ | _⟩ <;> rfl

/-- A banner that is gone is not brought back by another notification. -/
lemma announce_hides {effs : Effects} (other : st.currentBanner ≠ some id)
    (hides : effs.banner = some .hideCurrent) :
    (st.announce id banners effs).2.banner = some .hideCurrent := by
  have requests := requestBanner_requests st id banners
  unfold announce
  generalize st.requestBanner id banners = res at requests
  cases requests with
  | rests => exact hides
  | refreshes _ _ shown => exact absurd shown other
  | sorts | queues => exact if_pos ⟨hides, by decide⟩

abbrev Live (store : NotificationStore) (id : Nat) : Prop :=
  id ∈ store.notifications.map Notification.id

def signal (store : NotificationStore) (reason : CloseReason) (id : Nat) : ClosedSignal :=
  { id, reason, sender := (store.find id).bind Notification.sender }

/-- Each notification is reported with its sender, and the banner that is shown is hidden
with its notification. -/
structure Closings (store : NotificationStore) (reason : CloseReason) (ids : List Nat)
    (effects : Effects) : Prop where
  closed : effects.closed = ids.map (store.signal reason)
  hides : ∀ {id}, id ∈ ids → store.currentBanner = some id → effects.banner = some .hideCurrent
  stale : effects.banner ≠ some .refreshCurrent

lemma Live.find (live : st.Live id) : ∃ note, st.find id = some note := by
  cases got : st.find id with
  | none => exact absurd live (find_eq_none_iff.mp got)
  | some note => exact ⟨note, rfl⟩

lemma live_of_find {note : Notification} (got : st.find id = some note) : st.Live id := by
  refine mem_map.mpr ⟨note, mem_of_find?_eq_some got, ?_⟩
  simpa using find?_some got

variable {ids : List Nat} {one last : Effects}

lemma live_without : (st.without ids).Live id ↔ st.Live id ∧ id ∉ ids := by
  unfold Live
  rw [without_notifications, mem_map, mem_map]
  constructor
  · rintro ⟨note, mem, rfl⟩
    rw [mem_filter, decide_eq_true_iff] at mem
    exact ⟨⟨note, mem.1, rfl⟩, mem.2⟩
  · rintro ⟨⟨note, mem, rfl⟩, out⟩
    exact ⟨note, mem_filter.mpr ⟨mem, decide_eq_true out⟩, rfl⟩

lemma find_without (out : id ∉ ids) : (st.without ids).find id = st.find id := by
  unfold find
  rw [without_notifications, find?_filter]
  congr 1
  funext note
  by_cases same : note.id = id <;> simp [same, out]

lemma signal_without {why : CloseReason} (out : id ∉ ids) :
    (st.without ids).signal why id = st.signal why id := by
  unfold signal
  rw [find_without out]

lemma close_closings (live : st.Live id) (why : CloseReason) :
    Closings st why [id] (st.close id why).2 := by
  obtain ⟨note, got⟩ := live.find
  unfold close
  rw [got]
  dsimp only
  have told : ({ id, reason := why, sender := note.sender } : ClosedSignal) =
      st.signal why id := by
    unfold signal
    rw [got]
    rfl
  rw [told]
  by_cases shown : st.currentBanner = some id
  · rw [if_pos shown]
    exact ⟨rfl, fun _ _ => rfl, by simp⟩
  · rw [if_neg shown]
    have hidden {other : Nat} (mem : other ∈ [id]) : st.currentBanner ≠ some other :=
      mem_singleton.mp mem ▸ shown
    split <;> exact ⟨rfl, fun mem cur => absurd cur (hidden mem), by simp⟩

lemma merge_hides (hides : one.banner = some .hideCurrent ∨ last.banner = some .hideCurrent) :
    (one.merge last).banner = some .hideCurrent := by
  unfold Effects.merge
  rcases hides with hides | hides
  · rw [hides]
    cases last.banner <;> simp
  · rw [hides]
    dsimp only
    split
    · assumption
    · rfl

lemma merge_stale (firstStale : one.banner ≠ some .refreshCurrent)
    (secondStale : last.banner ≠ some .refreshCurrent) :
    (one.merge last).banner ≠ some .refreshCurrent := by
  unfold Effects.merge
  split
  · exact firstStale
  next banner got =>
  split
  · exact firstStale
  · exact got ▸ secondStale

lemma Sound.closeAll_snd (inv : st.Sound) (live : ∀ id ∈ ids, st.Live id)
    (uniq : ids.Nodup) (why : CloseReason) (effs : Effects) :
    (closeAll why ids (st, effs)).2.closed =
        effs.closed ++ ids.map (st.signal why) ∧ ((effs.banner = some .hideCurrent ∨
          ∃ id ∈ ids, st.currentBanner = some id) →
        (closeAll why ids (st, effs)).2.banner = some .hideCurrent) ∧
      (effs.banner ≠ some .refreshCurrent →
        (closeAll why ids (st, effs)).2.banner ≠ some .refreshCurrent) := by
  induction ids generalizing st effs with
  | nil => simp [closeAll]
  | cons id ids ih =>
    obtain ⟨lack, uniq⟩ := nodup_cons.mp uniq
    have closings := close_closings (live id (.head _)) why
    have ne {other : Nat} (mem : other ∈ ids) : other ∉ [id] := by
      rw [mem_singleton]
      rintro rfl
      exact lack mem
    have one : (st.close id why).1 = st.without [id] := inv.close_fst why
    dsimp only [closeAll]
    rw [one]
    obtain ⟨closed, hides, stale⟩ := ih (inv.without [id])
      (fun other mem => live_without.mpr ⟨live other (.tail _ mem), ne mem⟩)
      uniq (effs.merge (st.close id why).2)
    refine ⟨?_, ?_, fun old => stale (merge_stale old closings.stale)⟩
    · have later : ids.map ((st.without [id]).signal why) = ids.map (st.signal why) :=
        map_congr_left fun other mem => signal_without (ne mem)
      rw [closed, later, map_cons, append_cons]
      exact congrArg (· ++ _) (congrArg (effs.closed ++ ·) closings.closed)
    · intro gone
      apply hides
      rcases gone with gone | ⟨other, mem, shown⟩
      · exact .inl (merge_hides (.inl gone))
      rcases mem_cons.mp mem with rfl | mem
      · exact .inl (merge_hides (.inr (closings.hides (.head _) shown)))
      · refine .inr ⟨other, mem, Option.filter_eq_some_iff.mpr ⟨shown, ?_⟩⟩
        exact decide_eq_true (ne mem)

lemma Sound.closeAll_closings (inv : st.Sound) (live : ∀ id ∈ ids, st.Live id)
    (uniq : ids.Nodup) (why : CloseReason) : Closings st why ids (closeAll why ids (st, {})).2 := by
  obtain ⟨closed, hides, stale⟩ := inv.closeAll_snd live uniq why {}
  exact ⟨closed, fun mem shown => hides (.inr ⟨_, mem, shown⟩), stale (by simp)⟩

end Synoik.NotificationStore
