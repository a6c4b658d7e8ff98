import Synoik.Notifications.Changes
import Synoik.Support.Runs

/-!
# The order of the banner queue

Every change keeps what holds of the store. The order of the queue it keeps too, but for
a queued notification that is replaced by one which the gate turns away: the gate answers
before the queue is sorted.
-/

namespace Synoik.NotificationStore

open List

variable {st post placed replaced : NotificationStore} {id : Nat} {banners : Bool}
  {note : Notification} {effs : Effects} {op : StoreOp} {urgency : Urgency}
  {change : Notification → Notification} {res : NotificationStore × Effects}

lemma Replaces.sound (inv : st.Sound)
    (swaps : Replaces st id urgency change replaced) : replaced.Sound := by
  refine inv.remap swaps.remaps ?_ ?_ ?_ ?_
  · intro note
    split
    · exact swaps.keeps note
    · rfl
  · rw [swaps.bannerQueue]
  · intro note _ unseen
    split
    · exact swaps.unseen note
    · exact unseen
  · intro _ shown
    rw [swaps.currentBanner] at shown
    rw [swaps.bannerQueue]
    exact ⟨inv.shown shown, fun queued => inv.waiting queued shown⟩

lemma untrack_remaps (st : NotificationStore) (sender : String) : Remaps (fun note =>
      if note.sender = some sender then { note with sender := none } else note) st
      { st with sources := st.sources.map (untrack sender) } :=
  map_remaps rfl (fun _ => rfl) (fun _ => rfl) rfl

section

variable (inv : st.Sound)
include inv

lemma Sound.untrack (sender : String) :
    Sound { st with sources := st.sources.map (NotificationStore.untrack sender) } := by
  refine inv.remap (untrack_remaps st sender) ?_ (Sublist.refl _) ?_ ?_
  · intro note
    split <;> rfl
  · intro _ _ unseen
    split <;> exact unseen
  · intro _ shown
    exact ⟨inv.shown shown, fun queued => inv.waiting queued shown⟩

lemma Sound.acknowledgeAll : st.acknowledgeAll.1.Sound := by
  have remaps : Remaps (fun note => { note with acknowledged := true }) st
      st.acknowledgeAll.1 :=
    map_remaps rfl (fun _ => rfl) (fun _ => rfl) rfl
  refine inv.remap remaps (fun _ => rfl) (nil_sublist _) ?_ ?_
  · intro _ queued
    cases queued
  · intro _ shown
    exact ⟨inv.shown shown, not_mem_nil⟩

lemma Sound.pop {rest : List Nat} (q : st.bannerQueue = id :: rest) :
    Sound { st.change id fun note => { note with acknowledged := true } with
      bannerQueue := rest
      currentBanner := some id } := by
  have remaps : Remaps (fun note =>
      if note.id = id then { note with acknowledged := true }
      else note) st (st.change id _) := inv.change_remaps _
  have uniq := inv.queueDistinct
  rw [q, nodup_cons] at uniq
  refine inv.remap ⟨remaps.notifications, remaps.nextId, remaps.keys, remaps.lengths⟩ ?_ ?_ ?_ ?_
  · intro note
    split <;> rfl
  · rw [q]
    exact sublist_cons_self id rest
  · intro note queued unseen
    have ne : note.id ≠ id := fun same => uniq.1 (same ▸ queued)
    rw [if_neg ne]
    exact unseen
  · intro _ shown
    cases shown
    obtain ⟨note, mem, same, -⟩ := inv.queued (q ▸ mem_cons_self)
    exact ⟨⟨note, mem, same⟩, uniq.1⟩

lemma Sound.changes (changes : Changes banners st op res) : res.1.Sound := by
  cases changes with
  | rests => exact inv
  | closes => exact inv.without _
  | posts posted =>
    rw [announce_fst]
    exact posted.sound.requestBanner _ _
  | vanishes => exact (inv.without _).untrack _
  | acknowledges => exact inv.acknowledgeAll
  | pops _ q => exact inv.pop q
  | hides => exact inv.hide
  | drops => exact inv.without _

lemma Sound.step (ran : st.step banners op = some res) : res.1.Sound := by
  cases swaps : st.replacement op with
  | none => exact inv.changes (inv.step_changes ran swaps)
  | some =>
    obtain ⟨_, _, swaps, replaced_eq⟩ := inv.step_replaces swaps
    rw [replaced_eq] at ran
    cases ran
    rw [announce_fst]
    exact (swaps.sound inv).requestBanner _ _

/-- The store panics only when the ids are used up. -/
lemma Sound.step_goes (room : st.nextId < maxId)
    (banners : Bool) (op : StoreOp) : ∃ res, st.step banners op = some res := by
  have allocated : st.allocate =
      some (st.nextId, { st with nextId := st.nextId + 1 }) := if_neg (Nat.ne_of_lt room)
  cases op with
  | notify =>
    dsimp only [NotificationStore.step, notify]
    split
    · exact ⟨_, rfl⟩
    · exact ⟨_, rfl⟩
    · rw [allocated]
      exact ⟨_, rfl⟩
  | addGtk =>
    dsimp only [NotificationStore.step, addGtk]
    split
    · exact ⟨_, rfl⟩
    · rw [allocated]
      exact ⟨_, rfl⟩
  | addShell =>
    dsimp only [NotificationStore.step]
    rw [inv.addShell_eq, allocated]
    exact ⟨_, rfl⟩
  | closeChecked =>
    dsimp only [NotificationStore.step]
    split <;> exact ⟨_, rfl⟩
  | _ => exact ⟨_, rfl⟩

end

lemma Remaps.find (remaps : Remaps change st post)
    (keeps : ∀ note, (change note).id = note.id) (id : Nat) :
    post.find id = (st.find id).map change := by
  unfold NotificationStore.find
  rw [remaps.notifications, find?_map]
  congr 2
  funext note
  rw [Function.comp_apply, keeps]

lemma Remaps.urgencyOf (remaps : Remaps change st post)
    (keeps : ∀ note, (change note).id = note.id)
    (urgent : ∀ note, (change note).urgency = note.urgency)
    (id : Nat) : post.urgencyOf id = st.urgencyOf id := by
  unfold NotificationStore.urgencyOf
  rw [remaps.find keeps, Option.map_map]
  congr 2
  funext note
  exact urgent note

lemma Sound.acknowledge_urgencyOf (inv : st.Sound) (id other : Nat) : (st.change id fun note =>
      { note with acknowledged := true }).urgencyOf other = st.urgencyOf other := by
  refine (inv.change_remaps _).urgencyOf ?_ ?_ other
  all_goals
    intro _
    split <;> rfl

lemma urgencyOf_without {ids : List Nat} (out : id ∉ ids) :
    (st.without ids).urgencyOf id = st.urgencyOf id := by
  unfold urgencyOf
  rw [find_without out]

lemma Replaces.urgencyOf (swaps : Replaces st id urgency change replaced) (other : Nat) :
    replaced.urgencyOf other = if other = id then urgency else st.urgencyOf other := by
  have keeps (note : Notification) : (if note.id = id then change note else note).id =
        note.id := by
    split
    · exact swaps.keeps note
    · rfl
  unfold NotificationStore.urgencyOf
  rw [swaps.remaps.find keeps]
  cases got : st.find other with
  | none =>
    have ne : other ≠ id := by
      rintro rfl
      exact find_eq_none_iff.mp got swaps.live
    rw [if_neg ne]
    rfl
  | some note =>
    have same : note.id = other := by simpa using find?_some got
    rw [Option.map_some, Option.map_some, Option.getD_some, same]
    split
    · exact swaps.urgency note
    · rfl

lemma Posts.find {key : SourceKey} (inv : st.Sound)
    (posted : Posts st key note placed effs) {other : Nat} (old : other ≠ st.nextId) :
    placed.find other = (st.without (st.pushedOut key)).find other := by
  refine Keyed.find?_eq_of_mem_iff (inv.without _).distinct posted.sound.distinct ?_
  intro _ same
  rw [posted.adds.notifications.mem_iff, mem_cons]
  constructor
  · rintro (rfl | mem)
    · exact absurd (same ▸ posted.fresh) old
    · exact mem
  · exact .inr

/-- What depends on the urgencies in the queue only, and is kept by a request for a banner,
is kept by every change that replaces nothing. -/
lemma Changes.keeps {holds : NotificationStore → Prop}
    (changes : Changes banners st op res) (inv : st.Sound)
    (keep : ∀ {st post : NotificationStore}, holds st → post.bannerQueue.Sublist st.bannerQueue →
      (∀ id ∈ post.bannerQueue, post.urgencyOf id = st.urgencyOf id) → holds post)
    (req : ∀ {st : NotificationStore} {id : Nat}, st.Sound → holds st →
      holds (st.requestBanner id banners).1) (first : holds st) : holds res.1 := by
  have left (ids : List Nat) : holds (st.without ids) := by
    apply keep first filter_sublist
    intro id queued
    exact urgencyOf_without (by simpa using (mem_filter.mp queued).2)
  cases changes with
  | rests => exact first
  | closes => exact left _
  | @posts _ key note placed effs posted =>
    rw [announce_fst]
    refine req posted.sound (keep (left (st.pushedOut key)) ?_ ?_)
    · rw [posted.adds.bannerQueue]
      exact .refl _
    · intro id queued
      rw [posted.adds.bannerQueue] at queued
      unfold NotificationStore.urgencyOf
      rw [posted.find inv]
      rintro rfl
      obtain ⟨note, mem, same, -⟩ := inv.queued (mem_filter.mp queued).1
      exact inv.not_live_nextId (mem_map.mpr ⟨note, mem, same⟩)
  | @vanishes sender ids effs =>
    refine keep (left ids) (Sublist.refl _) ?_
    intro id _
    refine (untrack_remaps (st.without ids) sender).urgencyOf ?_ ?_ id
    all_goals
      intro _
      split <;> rfl
  | acknowledges => exact keep first (nil_sublist _) nofun
  | @pops id rest hidden q =>
    refine keep first ?_ ?_
    · rw [q]
      exact sublist_cons_self id rest
    · exact fun other _ => inv.acknowledge_urgencyOf id other
  | hides => exact keep first (Sublist.refl _) fun _ _ => rfl
  | drops => exact left _

abbrev Ordered (store : NotificationStore) : Prop := store.bannerQueue.Pairwise store.precedes

lemma Ordered.keep (ordered : st.Ordered) (fewer : post.bannerQueue.Sublist st.bannerQueue)
    (same : ∀ id ∈ post.bannerQueue, post.urgencyOf id = st.urgencyOf id) : post.Ordered := by
  apply (ordered.sublist fewer).imp_of_mem
  intro first last firstQueued secondQueued precedes
  unfold NotificationStore.precedes
  rw [same first firstQueued, same last secondQueued]
  exact precedes

lemma sortQueue_ordered (st : NotificationStore) : st.sortQueue.Ordered := by
  have total : Std.Total st.precedes := ⟨fun _ _ => Nat.le_total _ _⟩
  have transitive : IsTrans Nat st.precedes := ⟨fun _ _ _ first last => Nat.le_trans last first⟩
  exact pairwise_insertionSort st.precedes st.bannerQueue

lemma Ordered.requestBanner (ordered : st.Ordered) (inv : st.Sound) (id : Nat)
    (banners : Bool) : (st.requestBanner id banners).1.Ordered := by
  have reqs := requestBanner_requests st id banners
  generalize st.requestBanner id banners = res at reqs
  cases reqs with
  | rests => exact ordered
  | refreshes =>
    exact ordered.keep (Sublist.refl _) fun other _ =>
    inv.acknowledge_urgencyOf id other
  | sorts | queues => exact sortQueue_ordered _

/-- The urgencies in the queue, one of them replaced. -/
def rankWith (store : NotificationStore) (id : Nat) (urgency : Urgency) (other : Nat) : Nat :=
  (if other = id then urgency else store.urgencyOf other).rank

/-- The notification may stay at its place in the queue. -/
abbrev Fits (store : NotificationStore) (id : Nat) (urgency : Urgency) : Prop :=
  store.bannerQueue.Pairwise fun first second =>
    store.rankWith id urgency second ≤ store.rankWith id urgency first

/-- A queued notification is replaced by one that the gate turns away, and has to move. -/
def misplaces (store : NotificationStore) (showBanners : Bool) (op : StoreOp) : Bool :=
  match store.replacement op with
  | some (id, urgency) => turnedAway showBanners urgency && !decide (store.Fits id urgency)
  | none => false

lemma Replaces.ordered_iff (swaps : Replaces st id urgency change replaced) :
    replaced.Ordered ↔ st.Fits id urgency := by
  have same : replaced.precedes = fun first last =>
      st.rankWith id urgency last ≤ st.rankWith id urgency first := by
    funext first last
    unfold precedes rankWith
    rw [swaps.urgencyOf, swaps.urgencyOf]
  unfold Ordered Fits
  rw [same, swaps.bannerQueue]

lemma Ordered.fits (ordered : st.Ordered) (out : id ∉ st.bannerQueue)
    (urgency : Urgency) : st.Fits id urgency := by
  have other {queued : Nat} (mem : queued ∈ st.bannerQueue) :
      st.rankWith id urgency queued = (st.urgencyOf queued).rank :=
    congrArg Urgency.rank (if_neg fun same : queued = id => out (same ▸ mem))
  apply ordered.imp_of_mem
  intro _ _ firstQueued secondQueued precedes
  rw [other firstQueued, other secondQueued]
  exact precedes

lemma Replaces.find (swaps : Replaces st id urgency change replaced) :
    ∃ note, replaced.find id = some note ∧ note.acknowledged = false ∧ note.urgency = urgency := by
  obtain ⟨old, got⟩ := swaps.live.find
  have same : old.id = id := by simpa using find?_some got
  refine ⟨change old, ?_, swaps.unseen old, swaps.urgency old⟩
  rw [swaps.remaps.find, got, Option.map_some, if_pos same]
  intro note
  split
  · exact swaps.keeps note
  · rfl

/-- A replacement keeps the order, unless the gate turns it away at a wrong place. -/
lemma Replaces.announced (inv : st.Sound) (ordered : st.Ordered)
    (swaps : Replaces st id urgency change replaced) :
    (replaced.requestBanner id banners).1.Ordered ↔
      ¬ (turnedAway banners urgency = true ∧ ¬ st.Fits id urgency) := by
  obtain ⟨_, got, unseen, urgent⟩ := swaps.find
  have sound' := swaps.sound inv
  have old {other : Notification} (has : replaced.find id = some other) :
      other.urgency = urgency := by
    rw [got] at has
    cases has
    exact urgent
  have reqs := requestBanner_requests replaced id banners
  generalize replaced.requestBanner id banners = res at reqs
  cases reqs with
  | rests away =>
    rw [swaps.ordered_iff]
    rcases away got with seen | turned | ⟨-, out⟩
    · rw [unseen] at seen
      cases seen
    · rw [urgent] at turned
      simp [turned]
    · rw [swaps.bannerQueue] at out
      simp [ordered.fits out urgency]
  | refreshes has lets shown =>
    have out : id ∉ replaced.bannerQueue := fun queued => sound'.waiting queued shown
    rw [swaps.bannerQueue] at out
    have kept := swaps.ordered_iff.mpr (ordered.fits out urgency)
    rw [old has] at lets
    simp only [lets, Bool.false_eq_true, false_and, not_false_eq_true, iff_true]
    exact kept.keep (Sublist.refl _) fun other _ =>
      sound'.acknowledge_urgencyOf id other
  | sorts has lets | queues has _ lets =>
    rw [old has] at lets
    simp [lets, sortQueue_ordered]

lemma Ordered.step_iff (ordered : st.Ordered) (inv : st.Sound)
    (ran : st.step banners op = some res) : res.1.Ordered ↔ ¬ st.misplaces banners op = true := by
  unfold misplaces
  cases swaps : st.replacement op with
  | none =>
    have changes := inv.step_changes ran swaps
    have kept : res.1.Ordered := changes.keeps inv Ordered.keep
      (fun inv ordered => ordered.requestBanner inv _ _) ordered
    simpa using kept
  | some =>
    obtain ⟨_, _, swaps, replaced_eq⟩ := inv.step_replaces swaps
    rw [replaced_eq] at ran
    cases ran
    rw [announce_fst, swaps.announced inv ordered]
    simp

def storeStep (store : NotificationStore) (entry : Bool × StoreOp) : Option NotificationStore :=
  (store.step entry.1 entry.2).map Prod.fst

lemma sound_initially : Sound {} where
  distinct := nodup_nil
  bounded := nofun
  limit := by decide
  keys := nodup_nil
  filled := nofun
  shown := nofun
  queued := nofun
  queueDistinct := nodup_nil
  waiting := nofun

lemma Sound.storeStep (inv : st.Sound) {entry : Bool × StoreOp}
    (ran : st.storeStep entry = some post) : post.Sound := by
  obtain ⟨_, done, rfl⟩ := Option.map_eq_some_iff.mp ran
  exact inv.step done

lemma runs_sound {allowed : NotificationStore → Bool × StoreOp → Prop}
    {ops : List (Bool × StoreOp)} (run : Runs storeStep allowed {} ops st) : st.Sound :=
  run.invariant Sound (fun _ ran inv => inv.storeStep ran) sound_initially

/-- Every run keeps the store sound, and goes on while there are ids. It keeps the queue
ordered while it misplaces nothing, and a change that misplaces breaks the order. -/
theorem kept_along_runs {ops : List (Bool × StoreOp)}
    (run : Runs storeStep (fun _ _ => True) {} ops store) : store.Sound ∧
      (store.nextId < maxId → ∀ entry, ∃ after, store.storeStep entry = some after) ∧
      (Runs storeStep (fun store entry => ¬ store.misplaces entry.1 entry.2 = true)
        {} ops store → store.Ordered) ∧
      (store.Ordered → ∀ {entry after}, store.storeStep entry = some after →
        (after.Ordered ↔ ¬ store.misplaces entry.1 entry.2 = true)) := by
  have sound := runs_sound run
  have exact_step {store after : NotificationStore} {entry : Bool × StoreOp}
      (sound : store.Sound) (ordered : store.Ordered)
      (stepped : store.storeStep entry = some after) :
      after.Ordered ↔ ¬ store.misplaces entry.1 entry.2 = true := by
    obtain ⟨result, done, rfl⟩ := Option.map_eq_some_iff.mp stepped
    exact ordered.step_iff sound done
  refine ⟨sound, ?_, ?_, ?_⟩
  · intro room entry
    obtain ⟨result, stepped⟩ := sound.step_goes room entry.1 entry.2
    exact ⟨result.1, Option.map_eq_some_iff.mpr ⟨result, stepped, rfl⟩⟩
  · intro fitting
    have both := fitting.invariant (fun store => store.Sound ∧ store.Ordered)
      (fun may stepped ⟨sound, ordered⟩ =>
        ⟨sound.storeStep stepped, (exact_step sound ordered stepped).mpr may⟩)
      ⟨sound_initially, Pairwise.nil⟩
    exact both.2
  · exact fun ordered _ _ stepped => exact_step sound ordered stepped

/-- A request with nothing in it but its sender, the id it replaces and its urgency. -/
def plainRequest (sender : String) (replacesId : Nat) (urgency : Urgency) : NotifyRequest where
  sender := some sender
  pid := 0
  appName := sender
  replacesId := replacesId
  desktopEntry := none
  sourceIcon := none
  appIcon := none
  title := ""
  body := ""
  icon := none
  actions := []
  hasDefaultAction := false
  urgency := urgency
  resident := false
  transient := false

/-- Two notifications are queued and the first is shown. -/
def shownRun : List (Bool × StoreOp) :=
  [(true, .notify (plainRequest "mail" 0 .normal) 0),
    (true, .notify (plainRequest "power" 0 .critical) 1), (true, .popNextBanner)]

theorem kept_along_shownRun :
    ∃ store : NotificationStore, store.currentBanner = some 2 ∧ store.bannerQueue = [1] ∧
      store.Sound ∧ store.Ordered := by
  have fitting : Runs storeStep (fun store entry => ¬ store.misplaces entry.1 entry.2 = true)
      {} shownRun _ := runs_get (by decide +kernel)
  have kept := kept_along_runs (fitting.mono fun _ => trivial)
  exact ⟨_, by decide +kernel, by decide +kernel, kept.1, kept.2.2.1 fitting⟩

/-- A queued critical notification becomes a low one and stays before a normal one. -/
theorem replaced_out_of_order : ∃ store : NotificationStore, Runs storeStep (fun _ _ => True) {}
        [(true, .notify (plainRequest "power" 0 .critical) 0),
          (true, .notify (plainRequest "mail" 0 .normal) 1),
          (true, .notify (plainRequest "power" 1 .low) 2)] store ∧
      store.bannerQueue = [1, 2] ∧ store.urgencyOf 1 = .low ∧ store.urgencyOf 2 = .normal ∧
      ¬ store.Ordered := by
  refine ⟨_, runs_get (by decide +kernel), ?_⟩
  decide +kernel

end Synoik.NotificationStore
