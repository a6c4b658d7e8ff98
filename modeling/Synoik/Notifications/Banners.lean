import Synoik.Notifications.Queue

/-!
# Which notifications banner

The gate is asked when a banner is requested and not when it is shown. So what is shown
passes the gate as long as nothing in the queue is replaced by a notification that the
gate turns away, and do not disturb is not switched on past a queued notification.
-/

namespace Synoik

open List

open NotificationStore

variable {store later : NotificationStore} {banners : Bool} {effs : Effects}

/-- The store, and whether banners are held back. -/
structure Tray where
  store : NotificationStore := {}
  doNotDisturb : Bool := false

inductive TrayOp where
  | change (op : StoreOp)
  | setDoNotDisturb (on : Bool)

namespace Tray

variable {tray post : Tray} {id : Nat} {op : TrayOp}

def step (tray : Tray) : TrayOp → Option Tray
  | .change op =>
    (tray.store.step (!tray.doNotDisturb) op).map fun (store, _) => { tray with store }
  | .setDoNotDisturb on => some { tray with doNotDisturb := on }

/-- A change makes a notification the current banner: it was not, or it is shown anew. -/
structure Shows (tray : Tray) (op : StoreOp) (id : Nat)
    (result : NotificationStore × Effects) : Prop where
  stepped : tray.store.step (!tray.doNotDisturb) op = some result
  shown : result.1.currentBanner = some id
  made : tray.store.currentBanner ≠ some id ∨ result.2.banner = some .refreshCurrent

/-- Everything in the queue passes the gate. -/
def Clear (showBanners : Bool) (store : NotificationStore) : Prop :=
  ∀ id ∈ store.bannerQueue, turnedAway showBanners (store.urgencyOf id) = false

/-- Something in the queue is replaced by what the gate turns away, or banners are held
back past something in the queue. -/
def silences (tray : Tray) : TrayOp → Bool
  | .change op =>
    match tray.store.replacement op with
    | some (id, urgency) =>
      turnedAway (!tray.doNotDisturb) urgency && decide (id ∈ tray.store.bannerQueue)
    | none => false
  | .setDoNotDisturb on =>
    tray.store.bannerQueue.any fun id => turnedAway (!on) (tray.store.urgencyOf id)

section Queue

variable {replaced : NotificationStore} {urgency : Urgency} {change : StoreOp}

lemma Clear.keep (clear : Clear banners store)
    (fewer : later.bannerQueue.Sublist store.bannerQueue)
    (same : ∀ id ∈ later.bannerQueue, later.urgencyOf id = store.urgencyOf id) :
    Clear banners later := by
  intro id queued
  rw [same id queued]
  exact clear id (fewer.subset queued)

lemma Clear.sortQueue (clear : Clear banners store) : Clear banners store.sortQueue :=
  fun id queued => clear id ((perm_insertionSort _ _).mem_iff.mp queued)

lemma urgencyOf_of_find {note : Notification}
    (got : store.find id = some note) : store.urgencyOf id = note.urgency := by
  unfold urgencyOf
  rw [got]
  rfl

lemma Clear.requestBanner (clear : Clear banners store) (inv : store.Sound) :
    Clear banners (store.requestBanner id banners).1 := by
  have reqs := requestBanner_requests store id banners
  generalize store.requestBanner id banners = res at reqs
  cases reqs with
  | rests => exact clear
  | refreshes =>
    exact clear.keep (Sublist.refl _) fun other _ =>
    inv.acknowledge_urgencyOf id other
  | sorts => exact clear.sortQueue
  | queues got _ lets =>
    apply Clear.sortQueue
    intro other queued
    rcases mem_append.mp queued with queued | last
    · exact clear other queued
    · rw [mem_singleton.mp last]
      exact (congrArg (turnedAway banners) (urgencyOf_of_find got)).trans lets

/-- A replacement keeps the queue clear exactly if it passes the gate or is not queued. -/
lemma Clear.replace_iff {inner : Notification → Notification} (clear : Clear banners store)
    (inv : store.Sound) (swaps : Replaces store id urgency inner replaced) :
    Clear banners (replaced.requestBanner id banners).1 ↔
      ¬ (turnedAway banners urgency = true ∧ id ∈ store.bannerQueue) := by
  have rest {other : Nat} (ne : other ≠ id) :
      replaced.urgencyOf other = store.urgencyOf other := by
    rw [swaps.urgencyOf, if_neg ne]
  have own : replaced.urgencyOf id = urgency := by rw [swaps.urgencyOf, if_pos rfl]
  constructor
  · rintro kept ⟨turned, queued⟩
    obtain ⟨_, _, -, _⟩ := swaps.find
    have reqs := requestBanner_requests replaced id banners
    generalize replaced.requestBanner id banners = res at reqs kept
    have stays {other : Notification} (has : replaced.find id = some other) :
        turnedAway banners other.urgency = true := by
      rw [← urgencyOf_of_find has, own]
      exact turned
    cases reqs with
    | rests =>
      have passes := kept id (swaps.bannerQueue ▸ queued)
      rw [own, turned] at passes
      cases passes
    | refreshes has lets | sorts has lets | queues has _ lets => simp [stays has] at lets
  · intro passes
    refine .requestBanner ?_ (swaps.sound inv)
    intro other queued
    rw [swaps.bannerQueue] at queued
    by_cases same : other = id
    · subst same
      rw [own]
      simpa [queued] using passes
    · rw [rest same]
      exact clear other queued

lemma Clear.step_iff (clear : Clear (!tray.doNotDisturb) tray.store)
    (inv : tray.store.Sound) (ran : tray.step op = some post) :
    Clear (!post.doNotDisturb) post.store ↔ ¬ tray.silences op = true := by
  cases op with
  | change op =>
    obtain ⟨_, done, rfl⟩ := Option.map_eq_some_iff.mp ran
    dsimp only [silences]
    cases swaps : tray.store.replacement op with
    | none =>
      have changes := inv.step_changes done swaps
      have kept := changes.keeps inv Clear.keep
        (fun inv clear => clear.requestBanner inv) clear
      simpa using kept
    | some =>
      obtain ⟨_, _, swaps, announced⟩ := inv.step_replaces swaps
      rw [announced] at done
      cases done
      rw [announce_fst, clear.replace_iff inv swaps]
      simp
  | setDoNotDisturb =>
    cases ran
    unfold silences Clear
    simp

end Queue

section Shown

/-- A request shows nothing but the banner that is shown already, and this if it passes
the gate. -/
lemma announce_shows (inv : store.Sound) {other : Nat}
    (stale : effs.banner ≠ some .refreshCurrent)
    (shown : (store.announce id banners effs).1.currentBanner = some other)
    (made : store.currentBanner ≠ some other ∨
      (store.announce id banners effs).2.banner = some .refreshCurrent) :
    store.currentBanner = some id ∧ turnedAway banners
      ((store.announce id banners effs).1.urgencyOf other) = false := by
  rw [announce_fst] at shown ⊢
  have reqs := requestBanner_requests store id banners
  unfold announce at made
  generalize store.requestBanner id banners = res at reqs shown made
  cases reqs with
  | rests =>
    rcases made with made | made
    · exact absurd shown made
    · exact absurd made stale
  | refreshes got lets cur =>
    refine ⟨cur, ?_⟩
    have same : other = id := Option.some.inj (shown.symm.trans cur)
    rw [inv.acknowledge_urgencyOf, same, urgencyOf_of_find got]
    exact lets
  | sorts | queues =>
    rcases made with made | made
    · exact absurd shown made
    · dsimp only at made
      split at made <;> cases made

lemma currentBanner_of_without {ids : List Nat}
    (shown : (store.without ids).currentBanner = some id) : store.currentBanner = some id :=
  (Option.filter_eq_some_iff.mp shown).1

variable {op : StoreOp} {res : NotificationStore × Effects}

lemma Changes.shows (changes : Changes banners store op res) (inv : store.Sound)
    (shown : res.1.currentBanner = some id)
    (made : store.currentBanner ≠ some id ∨ res.2.banner = some .refreshCurrent) :
    op = .popNextBanner ∧ store.bannerQueue.head? = some id ∧
      res.1.urgencyOf id = store.urgencyOf id := by
  -- Nothing but a pop sets the banner, and nothing here shows it anew.
  have absurd_of (kept : store.currentBanner = some id)
      (stale : res.2.banner ≠ some .refreshCurrent) : False := by
    rcases made with made | made
    · exact made kept
    · exact stale made
  cases changes with
  | rests => exact (absurd_of shown (by simp)).elim
  | closes _ _ closings | vanishes _ _ closings =>
    exact (absurd_of (currentBanner_of_without shown) closings.stale).elim
  | @posts _ key note placed effs posted =>
    have cur {other : Nat} (cur : placed.currentBanner = some other) :
        store.currentBanner = some other := by
      rw [posted.adds.currentBanner] at cur
      exact currentBanner_of_without cur
    have made := made.imp_left fun made => fun kept => made (cur kept)
    obtain ⟨kept, -⟩ := announce_shows posted.sound posted.closings.stale shown made
    obtain ⟨old, mem, same⟩ := inv.shown (cur kept)
    refine absurd ?_ inv.not_live_nextId
    exact mem_map.mpr ⟨old, mem, same.trans posted.fresh⟩
  | acknowledges =>
    refine (absurd_of shown ?_).elim
    unfold acknowledgeAll
    split <;> simp
  | pops _ q =>
    cases shown
    exact ⟨rfl, by rw [q]; rfl, inv.acknowledge_urgencyOf _ _⟩
  | hides => cases shown
  | @drops gone effs cur =>
    have kept := Option.filter_eq_some_iff.mp shown
    have same : gone = id := Option.some.inj (cur.symm.trans kept.1)
    simp [same] at kept

/-- What is shown passes the gate, or is the first of the queue. -/
lemma Shows.passes_or_pops (inv : tray.store.Sound) (shows_ : tray.Shows op id res) :
    turnedAway (!tray.doNotDisturb) (res.1.urgencyOf id) = false ∨
      (op = .popNextBanner ∧ tray.store.bannerQueue.head? = some id ∧
        res.1.urgencyOf id = tray.store.urgencyOf id) := by
  obtain ⟨ran, shown, made⟩ := shows_
  cases swaps : tray.store.replacement op with
  | some =>
    obtain ⟨_, _, swaps, announced⟩ := inv.step_replaces swaps
    rw [announced, Option.some.injEq] at ran
    rw [← ran] at shown made ⊢
    rw [← swaps.currentBanner] at made
    exact .inl (announce_shows (swaps.sound inv) (by simp) shown made).2
  | none => exact .inr (Changes.shows (inv.step_changes ran swaps) inv shown made)

end Shown

lemma step_sound (inv : tray.store.Sound) (ran : tray.step op = some post) : post.store.Sound := by
  cases op with
  | change =>
    obtain ⟨_, done, rfl⟩ := Option.map_eq_some_iff.mp ran
    exact inv.step done
  | setDoNotDisturb =>
    cases ran
    exact inv

section Draining

lemma bannerHidden_queue (inv : store.Sound) : store.bannerHidden.1.currentBanner = none ∧
      store.bannerHidden.1.bannerQueue = store.bannerQueue ∧ ∀ id ∈ store.bannerQueue,
        store.bannerHidden.1.urgencyOf id = store.urgencyOf id := by
  unfold bannerHidden
  cases cur : store.currentBanner with
  | none => exact ⟨cur, rfl, fun _ _ => rfl⟩
  | some shown =>
    have out : shown ∉ store.bannerQueue := fun queued => inv.waiting queued cur
    have hidden := inv.hide
    dsimp only
    split
    · split
      · rw [hidden.close_fst]
        refine ⟨rfl, filter_bannerQueue (by simpa using out), ?_⟩
        intro _ queued
        apply urgencyOf_without
        rw [mem_singleton]
        rintro rfl
        exact out queued
      · exact ⟨rfl, rfl, fun _ _ => rfl⟩
    · exact ⟨rfl, rfl, fun _ _ => rfl⟩

/-- What is in the queue is shown in the end, if nothing but banners happens. -/
lemma shown_from_queue (inv : tray.store.Sound) (queued : id ∈ tray.store.bannerQueue) :
    ∃ ops later res, Runs step (fun _ _ => True) tray ops later ∧
      later.Shows .popNextBanner id res ∧ later.doNotDisturb = tray.doNotDisturb ∧
      res.1.urgencyOf id = tray.store.urgencyOf id := by
  generalize waits : tray.store.bannerQueue = q at queued
  induction q generalizing tray with
  | nil => cases queued
  | cons first rest ih =>
    -- The banner that is shown is hidden first.
    obtain ⟨none_shown, kept, urgent⟩ := bannerHidden_queue inv
    let idle : Tray := { tray with store := tray.store.bannerHidden.1 }
    have hidden : tray.step (.change .bannerHidden) = some idle := rfl
    have idleSound : idle.store.Sound := step_sound inv hidden
    have popped := idleSound.popNextBanner_head none_shown (kept.trans waits)
    have same {other : Nat} (has : other ∈ first :: rest) :
        idle.store.popNextBanner.1.urgencyOf other = tray.store.urgencyOf other := by
      rw [popped]
      exact (idleSound.acknowledge_urgencyOf first other).trans (urgent other (waits ▸ has))
    by_cases here : id = first
    · subst here
      refine ⟨[.change .bannerHidden], idle, (idle.store.popNextBanner.1, {}),
        .cons trivial hidden (.nil _), ⟨rfl, ?_, .inl ?_⟩, rfl, same (.head _)⟩
      · rw [popped]
      · rw [none_shown]
        simp
    · have later : id ∈ rest := (mem_cons.mp queued).resolve_left here
      let shown : Tray := { tray with store := idle.store.popNextBanner.1 }
      have pops : idle.step (.change .popNextBanner) = some shown := rfl
      have rest_waits : shown.store.bannerQueue = rest := by
        show idle.store.popNextBanner.1.bannerQueue = rest
        rw [popped]
      obtain ⟨ops, last, res, run, shows_, held, last_same⟩ :=
        ih (step_sound idleSound pops) rest_waits later
      exact ⟨.change .bannerHidden :: .change .popNextBanner :: ops, last, res,
        .cons trivial hidden (.cons trivial pops run), shows_, held,
        last_same.trans (same (.tail _ later))⟩

end Draining

lemma turnedAway_not_iff (doNotDisturb : Bool) (urgency : Urgency) :
    turnedAway (!doNotDisturb) urgency = false ↔
      urgency ≠ .low ∧ (doNotDisturb = true → urgency = .critical) := by
  cases doNotDisturb <;> cases urgency <;> decide

/-- In every run that silences nothing, what becomes the current banner is not low, and
critical if banners are held back. A change that silences leads to a banner that is not,
if what is queued is then shown. -/
theorem shown_passes_gate {ops : List TrayOp}
    (run : Runs step (fun tray op => ¬ tray.silences op = true) {} ops tray) :
    (∀ {op id result}, tray.Shows op id result → result.1.urgencyOf id ≠ .low ∧
        (tray.doNotDisturb = true → result.1.urgencyOf id = .critical)) ∧
      ∀ {op after}, tray.step op = some after → tray.silences op = true →
        ∃ ops later id result, Runs step (fun _ _ => True) after ops later ∧
          later.Shows .popNextBanner id result ∧ ¬ (result.1.urgencyOf id ≠ .low ∧
            (later.doNotDisturb = true → result.1.urgencyOf id = .critical)) := by
  have kept := run.invariant (fun tray => tray.store.Sound ∧ Clear (!tray.doNotDisturb) tray.store)
    (fun may stepped ⟨sound, clear⟩ =>
      ⟨step_sound sound stepped, (clear.step_iff sound stepped).mpr may⟩)
    ⟨sound_initially, nofun⟩
  obtain ⟨sound, clear⟩ := kept
  constructor
  · intro op id result shows_
    apply (turnedAway_not_iff _ _).mp
    rcases shows_.passes_or_pops sound with passes | ⟨-, first, same⟩
    · exact passes
    · rw [same]
      exact clear id (mem_of_mem_head? first)
  · intro _ after stepped silences
    have unclear : ¬ Clear (!after.doNotDisturb) after.store :=
      fun clear' => (clear.step_iff sound stepped).mp clear' silences
    unfold Clear at unclear
    push Not at unclear
    obtain ⟨id, queued, quiet⟩ := unclear
    obtain ⟨ops, later, result, drained, shows_, held, same⟩ :=
      shown_from_queue (step_sound sound stepped) queued
    refine ⟨ops, later, id, result, drained, shows_, fun passes => quiet ?_⟩
    rw [← held, ← same]
    exact (turnedAway_not_iff _ _).mpr passes

/-- A notification is shown, and another is queued while banners are held back. -/
def criticalRun : List TrayOp :=
  [.setDoNotDisturb true, .change (.notify (plainRequest "power" 0 .critical) 0),
    .change (.notify (plainRequest "mail" 0 .normal) 1)]

theorem shown_passes_gate_held_back : ∃ (tray : Tray) (result : NotificationStore × Effects),
      tray.Shows .popNextBanner 1 result ∧ tray.doNotDisturb = true ∧
        result.1.urgencyOf 1 = .critical := by
  let tray := (runUnder step (fun tray op => ¬ tray.silences op = true) criticalRun {}).get
    (by decide +kernel)
  have run : Runs step (fun tray op => ¬ tray.silences op = true) {} criticalRun tray := runs_get _
  have shows_ : tray.Shows .popNextBanner 1 (tray.store.popNextBanner.1, {}) :=
    ⟨rfl, by decide +kernel, .inl (by decide +kernel)⟩
  exact ⟨tray, _, shows_, by decide +kernel,
    ((shown_passes_gate run).1 shows_).2 (by decide +kernel)⟩

/-- A queued notification that becomes a low one is shown, and so is a normal one after do
not disturb is switched on. -/
theorem quiet_shown : (∃ tray result, Runs step (fun _ _ => True) {}
        [.change (.notify (plainRequest "mail" 0 .normal) 0),
          .change (.notify (plainRequest "mail" 1 .low) 1)] tray ∧
      tray.Shows .popNextBanner 1 result ∧ result.1.urgencyOf 1 = .low) ∧
    ∃ tray result, Runs step (fun _ _ => True) {}
        [.change (.notify (plainRequest "mail" 0 .normal) 0), .setDoNotDisturb true] tray ∧
      tray.Shows .popNextBanner 1 result ∧ tray.doNotDisturb = true ∧
        result.1.urgencyOf 1 = .normal := by
  constructor
  · refine ⟨_, (_, {}), runs_get (by decide +kernel), ⟨rfl, ?_, .inl ?_⟩, ?_⟩ <;> decide +kernel
  · refine ⟨_, (_, {}), runs_get (by decide +kernel), ⟨rfl, ?_, .inl ?_⟩, ?_, ?_⟩ <;> decide +kernel

end Tray

end Synoik
