import Synoik.Notifications.Queue

/-!
# What a client's call leaves alone

A call names a notification by its id. It reaches a notification of another sender only
by pushing it out of a source that is full.
-/

namespace Synoik.NotificationStore

variable {store st post replaced : NotificationStore} {id : Nat} {banners : Bool}
  {note : Notification} {effs : Effects} {urgency : Urgency}

/-- A request that names another notification, or one of another sender. -/
def Foreign (replacesId : Nat) (sender : Option String) (notification : Notification) : Prop :=
  replacesId ≠ notification.id ∨ (notification.sender.isSome = true ∧ notification.sender ≠ sender)

/-- The notification of another sender. -/
def OfAnother (sender : Option String) (notification : Notification) : Prop :=
  notification.sender.isSome = true ∧ notification.sender ≠ sender

lemma OfAnother.not_own {sender : Option String} (other : OfAnother sender note) :
    ¬ (note.sender.isNone || decide (note.sender = sender)) = true := by
  simp [Option.isSome_iff_ne_none.mp other.1, other.2]

lemma Remaps.mem_iff {change : Notification → Notification} (remaps : Remaps (fun note =>
      if note.id = id then change note else note) st post)
    (keeps : ∀ note, (change note).id = note.id) (other : note.id ≠ id) :
    note ∈ post.notifications ↔ note ∈ st.notifications := by
  rw [remaps.notifications, List.mem_map]
  constructor
  · rintro ⟨old, mem, same⟩
    split at same
    next here =>
      subst same
      exact absurd ((keeps old).trans here) other
    · exact same ▸ mem
  · intro mem
    exact ⟨note, mem, if_neg other⟩

section

variable (inv : st.Sound)
include inv

lemma Sound.announce_mem_iff (other : note.id ≠ id) :
    note ∈ (st.announce id banners effs).1.notifications ↔ note ∈ st.notifications := by
  rw [announce_fst]
  have reqs := requestBanner_requests st id banners
  generalize st.requestBanner id banners = res at reqs
  cases reqs with
  | rests => rfl
  | refreshes => exact (inv.change_remaps _).mem_iff (fun _ => rfl) other
  | sorts | queues => rfl

section

variable (mem : note ∈ st.notifications)
include mem

variable {req : NotifyRequest}

/-- A request replaces what it names, and this is its own or nobody's. -/
lemma Sound.replaceId_apart (foreign : Foreign req.replacesId req.sender note)
    (swaps : st.replaceId req = .ok (some id)) : note.id ≠ id := by
  unfold replaceId at swaps
  split at swaps
  · cases swaps
  split at swaps
  · cases swaps
  next existing got =>
  obtain ⟨has, named⟩ := inv.find_eq_some_iff.mp got
  split at swaps
  next own =>
    cases swaps
    intro same
    have same : note = existing := List.inj_on_of_nodup_map inv.distinct mem has same
    subst same
    rcases foreign with ne | ⟨owned, ne⟩
    · exact ne named.symm
    · simp [ne] at own
      simp [own] at owned
  · cases swaps

/-- What a client's notification does to its source. -/
def pushFdo (id : Nat) (req : NotifyRequest) (now : Nat) (source : Source) : Source :=
  { presentFdo req source with
    notifications := source.notifications ++ [fdoNotification id req now] }

/-- A notification that a request does not reach stays as it is, unless the request adds to
a full source and this was the oldest there. -/
lemma Sound.notify_mem_iff {now : Nat} {res : Except InvalidId (Nat × Effects)}
    (foreign : Foreign req.replacesId req.sender note)
    (notified : st.notify req banners now = some (post, res)) : note ∈ post.notifications ↔
      ¬ (st.replaceId req = .ok none ∧ note.id ∈ st.pushedOut (fdoKey req)) := by
  unfold notify at notified
  cases swaps : st.replaceId req with
  | error =>
    rw [swaps] at notified
    cases notified
    simpa using mem
  | ok replaced =>
    rw [swaps] at notified
    cases replaced with
    | some =>
      have other := inv.replaceId_apart mem foreign swaps
      obtain ⟨_, inPlace⟩ := inv.replaceFdo_replaces (replaceId_live swaps) req now
      cases notified
      apply ((inPlace.sound inv).announce_mem_iff other).trans
      rw [inPlace.remaps.mem_iff inPlace.keeps other]
      simpa using mem
    | none =>
      obtain ⟨_, taken, same⟩ := Option.map_eq_some_iff.mp notified
      obtain ⟨room, rfl⟩ := allocate_eq_some inv taken
      cases same
      have pushes : Pushes (fdoNotification st.nextId req now)
          (pushFdo st.nextId req now) := ⟨fun _ => rfl, fun _ => rfl⟩
      have posted : Posts st (fdoKey req) (fdoNotification st.nextId req now)
          (({ st with nextId := st.nextId + 1 }.evict (fdoKey req)).1.place
            (fdoKey req) req.sender (pushFdo st.nextId req now)) _ :=
        inv.posts room pushes rfl
      have other := Nat.ne_of_lt (inv.bounded mem)
      have old : note ≠ fdoNotification st.nextId req now :=
        fun same => other (congrArg Notification.id same)
      apply (posted.sound.announce_mem_iff other).trans
      rw [posted.adds.notifications.mem_iff, List.mem_cons, or_iff_right old,
        mem_without_notifications]
      have has : note ∈ notifications { st with nextId := st.nextId + 1 } := mem
      simp [has]

lemma Sound.closeChecked_mem {sender : String} (foreign : Foreign id (some sender) note) :
    note ∈ (st.closeChecked id sender).1.notifications := by
  unfold closeChecked
  cases got : st.find id with
  | none => exact mem
  | some existing =>
    obtain ⟨has, named⟩ := inv.find_eq_some_iff.mp got
    dsimp only
    split
    next own =>
      rw [inv.close_fst]
      refine mem_without_notifications.mpr ⟨mem, ?_⟩
      rw [List.mem_singleton]
      intro same
      have same : note = existing :=
        List.inj_on_of_nodup_map inv.distinct mem has (same.trans named.symm)
      subst same
      rcases foreign with ne | ⟨owned, ne⟩
      · exact ne named.symm
      · simp [ne] at own
        simp [own] at owned
    · exact mem

lemma Sound.notify_refused {now : Nat} (named : req.replacesId = note.id)
    (names : req.replacesId ≠ 0) (other : OfAnother req.sender note) :
    st.notify req banners now = some (st, .error ⟨⟩) := by
  have got : st.find req.replacesId = some note := inv.find_eq_some_iff.mpr ⟨mem, named.symm⟩
  have refused : st.replaceId req = .error ⟨⟩ := by
    unfold replaceId
    rw [if_neg names, got]
    exact if_neg other.not_own
  unfold notify
  rw [refused]

lemma Sound.closeChecked_refused {sender : String} (other : OfAnother (some sender) note) :
    st.closeChecked note.id sender = (st, .error ⟨⟩) := by
  have got : st.find note.id = some note := inv.find_eq_some_iff.mpr ⟨mem, rfl⟩
  unfold closeChecked
  rw [got]
  exact if_neg other.not_own

end

end

/-- In every reachable store, a client's call leaves a notification alone that it does not
name or that belongs to another sender. A new notification may push it out of a full
source. A call that names the notification of another sender is refused, and a call that is
refused changes nothing. -/
theorem foreign_kept {ops : List (Bool × StoreOp)}
    (run : Runs storeStep (fun _ _ => True) {} ops store)
    (member : notification ∈ store.notifications) :
    (∀ ⦃req showBanners now after result⦄, Foreign req.replacesId req.sender notification →
      store.notify req showBanners now = some (after, result) →
      (notification ∈ after.notifications ↔ ¬ (store.replaceId req = .ok none ∧
        notification.id ∈ store.pushedOut (fdoKey req))) ∧
      ∀ invalid, result = .error invalid → after = store) ∧
    (∀ ⦃req showBanners now⦄, req.replacesId = notification.id → req.replacesId ≠ 0 →
      OfAnother req.sender notification →
      store.notify req showBanners now = some (store, .error ⟨⟩)) ∧
    (∀ ⦃sender⦄, OfAnother (some sender) notification →
      store.closeChecked notification.id sender = (store, .error ⟨⟩)) ∧
    ∀ ⦃id sender⦄, Foreign id (some sender) notification →
      notification ∈ (store.closeChecked id sender).1.notifications ∧
        ∀ invalid, (store.closeChecked id sender).2 = .error invalid →
          (store.closeChecked id sender).1 = store := by
  have sound := runs_sound run
  refine ⟨?_, fun _ _ _ named names other => sound.notify_refused member named names other,
    fun _ other => sound.closeChecked_refused member other, ?_⟩
  · intro _ _ _ _ _ foreign notified
    refine ⟨sound.notify_mem_iff member foreign notified, ?_⟩
    rintro invalid rfl
    unfold notify at notified
    split at notified
    · cases notified
      rfl
    · cases notified
    · obtain ⟨_, -, same⟩ := Option.map_eq_some_iff.mp notified
      cases same
  · intro _ _ foreign
    refine ⟨sound.closeChecked_mem member foreign, ?_⟩
    intro _ refused
    unfold closeChecked at refused ⊢
    split
    · rfl
    next found =>
    rw [found] at refused
    dsimp only at refused ⊢
    split
    next own =>
      rw [if_pos own] at refused
      cases refused
    · rfl

/-- Two clients notify. -/
def twoClients : List (Bool × StoreOp) :=
  [(true, .notify (plainRequest "mail" 0 .normal) 0),
    (true, .notify (plainRequest "chat" 0 .normal) 1)]

theorem foreign_kept_of_two :
    ∃ store notification, Runs storeStep (fun _ _ => True) {} twoClients store ∧
      notification ∈ store.notifications ∧ notification.sender = some "mail" ∧
      store.notify (plainRequest "chat" 1 .low) true 2 = some (store, .error ⟨⟩) ∧
      store.closeChecked 1 "chat" = (store, .error ⟨⟩) ∧
      notification ∈ (store.closeChecked 2 "chat").1.notifications := by
  have run : Runs storeStep (fun _ _ => True) {} twoClients _ := runs_get (by decide +kernel)
  have here : fdoNotification 1 (plainRequest "mail" 0 .normal) 0 ∈ ((runUnder storeStep
      (fun _ _ => True) twoClients {}).get (by decide +kernel)).notifications := by decide +kernel
  have kept := foreign_kept run here
  exact ⟨_, _, run, here, rfl, kept.2.1 rfl (by decide) ⟨rfl, by decide⟩,
    kept.2.2.1 ⟨rfl, by decide⟩, (kept.2.2.2 (.inl (by decide))).1⟩

/-- Another client takes over the notification of a sender that left, pushes the oldest
notification out of a source that it shares, and closes the notification of a Gtk
application. -/
theorem foreign_reached : (∃ store result, Runs storeStep (fun _ _ => True) {}
        [(true, .notify (plainRequest "mail" 0 .normal) 0), (true, .senderVanished "mail")]
        store ∧ store.notify (plainRequest "chat" 1 .low) true 1 = some result ∧
      (result.1.find 1).map Notification.sender = some (some "chat")) ∧
    (∃ store result, Runs storeStep (fun _ _ => True) {}
        (List.replicate 10 (true, .notify (plainRequest "mail" 0 .normal) 0)) store ∧
      (store.find 1).map Notification.sender = some (some "mail") ∧
      store.notify { plainRequest "mail" 0 .normal with sender := some "chat" } true 1 =
        some result ∧ result.1.find 1 = none) ∧ ∃ store, Runs storeStep (fun _ _ => True) {}
        [(true, .addGtk ⟨"org.gnome.Maps", "route", "Maps", none, "", "", none, [], none,
          .normal⟩ 0)] store ∧ store.Live 1 ∧ (store.closeChecked 1 "chat").1.find 1 = none := by
  exact ⟨⟨_, (_, _), runs_get (by decide +kernel), rfl,
      by decide +kernel⟩,
    ⟨_, (_, _), runs_get (by decide +kernel),
      by decide +kernel, rfl, by decide +kernel⟩,
    ⟨_, runs_get (by decide +kernel), by decide +kernel,
      by decide +kernel⟩⟩

end Synoik.NotificationStore
