import Synoik.Notifications.Queue

/-!
# What is reported closed

A change reports exactly the notifications that leave the store with it, so along a run
every id is in the store or reported once. The banner that is shown is hidden with its
notification, but where the surface itself says that it has hidden it.
-/

namespace Synoik

open List

open NotificationStore

namespace NotificationStore

variable {store post placed : NotificationStore} {id : Nat} {banners : Bool}
  {op : StoreOp} {effects : Effects} {res : NotificationStore × Effects}

lemma Remaps.live_iff {change : Notification → Notification} (remaps : Remaps change store post)
    (keeps : ∀ note, (change note).id = note.id) : post.Live id ↔ store.Live id := by
  have same : Notification.id ∘ change = Notification.id := funext keeps
  unfold Live
  rw [remaps.notifications, map_map, same]

variable {other : Nat} {key : SourceKey} {note : Notification}

lemma Sound.acknowledge_live_iff (inv : store.Sound) : (store.change other fun note =>
      { note with acknowledged := true }).Live id ↔ store.Live id := by
  apply (inv.change_remaps _).live_iff
  intro _
  split <;> rfl

lemma Sound.announce_live_iff (inv : store.Sound) :
    (store.announce other banners effects).1.Live id ↔ store.Live id := by
  rw [announce_fst]
  have reqs := requestBanner_requests store other banners
  generalize store.requestBanner other banners = res at reqs
  cases reqs with
  | rests => rfl
  | refreshes => exact inv.acknowledge_live_iff
  | sorts | queues => rfl

lemma announce_nextId (store : NotificationStore) (other : Nat) (banners : Bool)
    (effects : Effects) : (store.announce other banners effects).1.nextId = store.nextId := by
  rw [announce_fst]
  have reqs := requestBanner_requests store other banners
  generalize store.requestBanner other banners = res at reqs
  cases reqs <;> rfl

lemma Posts.live_iff (posted : Posts store key note placed effects) :
    placed.Live id ↔ id = store.nextId ∨ (store.Live id ∧ id ∉ store.pushedOut key) := by
  unfold Live
  rw [(posted.adds.notifications.map _).mem_iff, map_cons, mem_cons, posted.fresh]
  exact or_congr_right live_without

lemma Sound.live_lt (inv : store.Sound) (live : store.Live id) : id < store.nextId := by
  obtain ⟨_, mem, rfl⟩ := mem_map.mp live
  exact inv.bounded mem

/-- Exactly what leaves the store is reported, with the sender it had. -/
structure Reports (store : NotificationStore) (result : NotificationStore × Effects) : Prop where
  distinct : (result.2.closed.map ClosedSignal.id).Nodup
  live : ∀ {signal}, signal ∈ result.2.closed → store.Live signal.id ∧
    signal.sender = (store.find signal.id).bind Notification.sender
  kept : ∀ {id}, id < store.nextId →
    (result.1.Live id ↔ store.Live id ∧ id ∉ result.2.closed.map ClosedSignal.id)
  fresh : ∀ {id}, store.nextId ≤ id → (result.1.Live id ↔ id < result.1.nextId)
  grows : store.nextId ≤ result.1.nextId

lemma map_signal (why : CloseReason) (ids : List Nat) :
    (ids.map (store.signal why)).map ClosedSignal.id = ids := by
  rw [map_map]
  exact map_id _

lemma Sound.reports (inv : store.Sound) {why : CloseReason} {ids : List Nat}
    (live : ∀ id ∈ ids, store.Live id) (uniq : ids.Nodup)
    (closed : res.2.closed = ids.map (store.signal why))
    (kept : ∀ {id}, res.1.Live id ↔ store.Live id ∧ id ∉ ids)
    (nextId : res.1.nextId = store.nextId) : Reports store res where
  distinct := by
    rw [closed, map_signal]
    exact uniq
  live := by
    intro _ mem
    rw [closed] at mem
    obtain ⟨id, has, rfl⟩ := mem_map.mp mem
    exact ⟨live id has, rfl⟩
  kept := by
    intro id _
    rw [closed, map_signal]
    exact kept
  fresh := by
    intro _ above
    rw [nextId, kept]
    constructor
    · exact fun both => inv.live_lt both.1
    · exact fun lt => absurd above (Nat.not_le_of_lt lt)
  grows := Nat.le_of_eq nextId.symm

lemma Sound.reports_nothing (inv : store.Sound) (closed : res.2.closed = [])
    (kept : ∀ {id}, res.1.Live id ↔ store.Live id)
    (nextId : res.1.nextId = store.nextId) : Reports store res := by
  have none : res.2.closed = [].map (store.signal .undefined) := closed
  refine inv.reports (by simp) nodup_nil none ?_ nextId
  intro _
  simpa using kept

lemma Posts.reports (inv : store.Sound) (posted : Posts store key note placed effects) :
    Reports store (placed.announce note.id banners effects) where
  distinct := by
    rw [announce_closed, posted.closings.closed, map_signal]
    exact inv.pushedOut_nodup
  live := by
    intro _ mem
    rw [announce_closed, posted.closings.closed] at mem
    obtain ⟨id, has, rfl⟩ := mem_map.mp mem
    exact ⟨pushedOut_live has, rfl⟩
  kept := by
    intro id old
    rw [announce_closed, posted.closings.closed, map_signal, posted.sound.announce_live_iff,
      posted.live_iff, or_iff_right (Nat.ne_of_lt old)]
  fresh := by
    intro _ above
    rw [announce_nextId, posted.sound.announce_live_iff, posted.live_iff, posted.adds.nextId]
    constructor
    · rintro (rfl | ⟨live, -⟩)
      · exact Nat.lt_succ_self _
      · exact absurd (inv.live_lt live) (Nat.not_lt_of_le above)
    · exact fun lt => .inl (Nat.le_antisymm (Nat.le_of_lt_succ lt) above)
  grows := by
    rw [announce_nextId, posted.adds.nextId]
    exact Nat.le_succ _

lemma Changes.reports (changes : Changes banners store op res)
    (inv : store.Sound) : Reports store res := by
  cases changes with
  | rests | hides => exact inv.reports_nothing rfl .rfl rfl
  | closes live uniq closings =>
    exact inv.reports live uniq closings.closed live_without rfl
  | posts posted => exact posted.reports inv
  | @vanishes sender ids effects live uniq closings =>
    have remaps := untrack_remaps (store.without ids) sender
    refine inv.reports live uniq closings.closed ((remaps.live_iff ?_).trans live_without)
      remaps.nextId
    intro note
    split <;> rfl
  | acknowledges =>
    have remaps : Remaps (fun note => { note with acknowledged := true })
        store store.acknowledgeAll.1 := map_remaps rfl (fun _ => rfl) (fun _ => rfl) rfl
    refine inv.reports_nothing ?_ (remaps.live_iff fun _ => rfl) rfl
    unfold acknowledgeAll
    split <;> rfl
  | pops => exact inv.reports_nothing rfl inv.acknowledge_live_iff rfl
  | @drops gone effects shown closed =>
    obtain ⟨note, mem, same⟩ := inv.shown shown
    have live : store.Live gone := mem_map.mpr ⟨note, mem, same⟩
    exact inv.reports (by simpa using live) (nodup_singleton gone) closed live_without rfl

lemma Sound.step_reports (inv : store.Sound)
    (ran : store.step banners op = some res) : Reports store res := by
  cases swaps : store.replacement op with
  | none => exact (inv.step_changes ran swaps).reports inv
  | some =>
    obtain ⟨_, _, swaps, announced⟩ := inv.step_replaces swaps
    rw [announced, Option.some.injEq] at ran
    rw [← ran]
    refine inv.reports_nothing (announce_closed _ _ _ _) ?_ ?_
    · intro _
      refine (swaps.sound inv).announce_live_iff.trans (swaps.remaps.live_iff ?_)
      intro note
      split
      · exact swaps.keeps note
      · rfl
    · rw [announce_nextId]
      exact swaps.remaps.nextId

lemma Changes.hides_current (changes : Changes banners store op res) (inv : store.Sound)
    (surface : op ≠ .bannerHidden) (shown : store.currentBanner = some id)
    (gone : ¬ res.1.Live id) : res.2.banner = some .hideCurrent := by
  obtain ⟨note, mem, same⟩ := inv.shown shown
  have live : store.Live id := mem_map.mpr ⟨note, mem, same⟩
  have told : id ∈ res.2.closed.map ClosedSignal.id := by
    by_contra out
    exact gone (((changes.reports inv).kept (inv.live_lt live)).mpr ⟨live, out⟩)
  cases changes with
  | rests | pops => cases told
  | closes _ _ closings | vanishes _ _ closings =>
    rw [closings.closed, map_signal] at told
    exact closings.hides told shown
  | posts posted =>
    rw [announce_closed, posted.closings.closed, map_signal] at told
    refine announce_hides ?_ (posted.closings.hides told shown)
    intro new
    rw [posted.adds.currentBanner, posted.fresh] at new
    have cur := (Option.filter_eq_some_iff.mp new).1
    rw [shown, Option.some.injEq] at cur
    exact inv.not_live_nextId (cur ▸ live)
  | acknowledges =>
    unfold acknowledgeAll at told
    split at told <;> cases told
  | hides | drops => exact absurd rfl surface

lemma Sound.step_hides_current (inv : store.Sound) (ran : store.step banners op = some res)
    (surface : op ≠ .bannerHidden) (shown : store.currentBanner = some id)
    (gone : ¬ res.1.Live id) : res.2.banner = some .hideCurrent := by
  cases swaps : store.replacement op with
  | none => exact (inv.step_changes ran swaps).hides_current inv surface shown gone
  | some =>
    obtain ⟨_, _, swaps, announced⟩ := inv.step_replaces swaps
    rw [announced, Option.some.injEq] at ran
    rw [← ran, (swaps.sound inv).announce_live_iff] at gone
    obtain ⟨note, mem, same⟩ := (swaps.sound inv).shown (swaps.currentBanner.trans shown)
    exact absurd (mem_map.mpr ⟨note, mem, same⟩) gone

end NotificationStore

/-- The store, and what was reported so far. -/
structure Journal where
  store : NotificationStore := {}
  closed : List ClosedSignal := []

namespace Journal

variable {journal post : Journal} {entry : Bool × StoreOp}

def step (journal : Journal) (entry : Bool × StoreOp) : Option Journal :=
  (journal.store.step entry.1 entry.2).map fun (store, effects) =>
    { store, closed := journal.closed ++ effects.closed }

/-- Every id that was given out is in the store or was reported, and this once. -/
structure Faithful (journal : Journal) : Prop where
  sound : journal.store.Sound
  once : (journal.closed.map ClosedSignal.id).Nodup
  reported : ∀ {id}, id ∈ journal.closed.map ClosedSignal.id ↔
    1 ≤ id ∧ id < journal.store.nextId ∧ ¬ journal.store.Live id
  started : 1 ≤ journal.store.nextId
  positive : ∀ {id}, journal.store.Live id → 1 ≤ id

lemma Faithful.step (faithful : journal.Faithful) (ran : journal.step entry = some post) :
    post.Faithful := by
  obtain ⟨res, done, rfl⟩ := Option.map_eq_some_iff.mp ran
  have reports := faithful.sound.step_reports done
  have signal_of {id : Nat} (mem : id ∈ res.2.closed.map ClosedSignal.id) :
      journal.store.Live id := by
    obtain ⟨_, has, rfl⟩ := mem_map.mp mem
    exact (reports.live has).1
  refine ⟨faithful.sound.step done, ?_, ?_, Nat.le_trans faithful.started reports.grows, ?_⟩
  · rw [map_append, nodup_append]
    refine ⟨faithful.once, reports.distinct, ?_⟩
    rintro id early _ late rfl
    exact (faithful.reported.mp early).2.2 (signal_of late)
  · intro id
    rw [map_append, mem_append, faithful.reported]
    by_cases old : id < journal.store.nextId
    · have bound : id < res.1.nextId := Nat.lt_of_lt_of_le old reports.grows
      rw [reports.kept old]
      constructor
      · rintro (⟨one, -, lack⟩ | told)
        · exact ⟨one, bound, fun both => lack both.1⟩
        · exact ⟨faithful.positive (signal_of told), bound, fun both => both.2 told⟩
      · rintro ⟨one, -, lack⟩
        by_cases live : journal.store.Live id
        · exact .inr (not_not.mp fun out => lack ⟨live, out⟩)
        · exact .inl ⟨one, old, live⟩
    · have above := Nat.le_of_not_lt old
      rw [reports.fresh above]
      constructor
      · rintro (⟨-, lt, -⟩ | told)
        · exact absurd lt old
        · exact absurd (faithful.sound.live_lt (signal_of told)) old
      · rintro ⟨-, lt, lack⟩
        exact absurd lt lack
  · intro id live
    by_cases old : id < journal.store.nextId
    · exact faithful.positive ((reports.kept old).mp live).1
    · exact Nat.le_trans faithful.started (Nat.le_of_not_lt old)

lemma faithful_initially : Faithful {} where
  sound := sound_initially
  once := nodup_nil
  reported := by
    intro _
    refine ⟨nofun, ?_⟩
    rintro ⟨one, lt, -⟩
    exact absurd lt (Nat.not_lt_of_le one)
  started := Nat.le_refl 1
  positive := nofun

/-- Along every run, the ids that were given out and are not in the store are reported, each
once and with its sender, and no id in the store is. A change that removes the shown
notification hides the banner, unless the surface has hidden it itself. -/
theorem closed_exactly_once {ops : List (Bool × StoreOp)}
    (run : Runs step (fun _ _ => True) {} ops journal) :
    (journal.closed.map ClosedSignal.id).Nodup ∧ (∀ id, id ∈ journal.closed.map ClosedSignal.id ↔
        1 ≤ id ∧ id < journal.store.nextId ∧ ¬ journal.store.Live id) ∧
      ∀ ⦃showBanners op result⦄, journal.store.step showBanners op = some result →
        (∀ signal ∈ result.2.closed, journal.store.Live signal.id ∧ ¬ result.1.Live signal.id ∧
          signal.sender = (journal.store.find signal.id).bind Notification.sender) ∧
        (op ≠ .bannerHidden → ∀ id, journal.store.currentBanner = some id →
          ¬ result.1.Live id → result.2.banner = some .hideCurrent) := by
  have faithful := run.invariant Faithful
    (fun _ stepped faithful => faithful.step stepped) faithful_initially
  refine ⟨faithful.once, fun _ => faithful.reported, ?_⟩
  intro _ _ _ stepped
  have reports := faithful.sound.step_reports stepped
  constructor
  · intro _ member
    obtain ⟨live, sender⟩ := reports.live member
    refine ⟨live, ?_, sender⟩
    rw [reports.kept (faithful.sound.live_lt live)]
    exact fun both => both.2 (mem_map_of_mem member)
  · exact fun surface _ shown gone =>
      faithful.sound.step_hides_current stepped surface shown gone

/-- A banner is shown, and its notification closed. -/
def closedRun : List (Bool × StoreOp) :=
  [(true, .notify (plainRequest "mail" 0 .normal) 0), (true, .popNextBanner),
    (true, .close 1 .dismissed), (true, .notify (plainRequest "mail" 0 .normal) 1)]

theorem closed_exactly_once_in_closedRun :
    ∃ journal : Journal, journal.closed.map ClosedSignal.id = [1] ∧
      (∀ id, id ∈ journal.closed.map ClosedSignal.id ↔
        1 ≤ id ∧ id < journal.store.nextId ∧ ¬ journal.store.Live id) := by
  have run : Runs step (fun _ _ => True) {} closedRun _ := runs_get (by decide +kernel)
  exact ⟨_, by decide +kernel, (closed_exactly_once run).2.1⟩

/-- A transient notification leaves with its banner, and the surface that has hidden it is
not told to. -/
theorem transient_dropped : ∃ (journal : Journal) (result : NotificationStore × Effects),
      Runs step (fun _ _ => True) {}
        [(true, .notify { plainRequest "mail" 0 .normal with transient := true } 0),
          (true, .popNextBanner)] journal ∧ journal.store.step true .bannerHidden = some result ∧
      journal.store.currentBanner = some 1 ∧ ¬ result.1.Live 1 ∧
      result.2.closed.map ClosedSignal.id = [1] ∧ result.2.banner = none := by
  refine ⟨_, (_, _), runs_get (by decide +kernel), rfl, ?_⟩
  decide +kernel

end Journal

end Synoik
