import Synoik.Login.Roll

/-!
# Whose session is started, and whose sessions are stopped

A channel starts the session of its winner and stops the other sessions of its user.
It keeps the winner's service and session, but not which conversation they are from,
and the user whom the last call named. Both stay when the winner's session has been
started. As long as the record is that of the conversation it is used for, only a
worker that verified and opened its session is told to start it, and only sessions of
the user it verified are stopped.
-/

namespace Synoik

open List
open Option (some_get)

variable {channel after chan post : Channel} {roll : Roll} {op : ChannelOp}

namespace Channel

/-- The winner's record is taken for another conversation's: a start is asked for while
another conversation runs under the winner's service, or another worker's session is
noted as the winner's. -/
def misattributes (channel : Channel) : ChannelOp → Bool
  | .startSessionWhenReady service shouldStartSession =>
    shouldStartSession && channel.winner.any fun winner =>
    winner.service == service && winner.session.isSome &&
      (channel.conversations service).any (· != winner.worker)
  | .pump worker =>
    match (channel.workers worker).pump, (channel.workers worker).fromWorker with
    | .reading, .opened _ :: _ => channel.winner.any (·.worker != worker)
    | _, _ => false
  | _ => false

end Channel

/-- The sessions on record were reported by those they are on record for. -/
structure Roll.Attested (roll : Roll) : Prop where
  session : ∀ {winner : Winner} {id : String}, roll.winner = some winner →
    winner.session = some id → .opened id ∈ (roll.records winner.worker).reported
  pending : ∀ {service id : String} {worker : Nat},
    roll.starting = some (service, id) → roll.conversations service = some worker →
      .opened id ∈ (roll.records worker).reported
  started : ∀ {worker : Nat}, (roll.records worker).sentStart = true →
    ∃ id, .opened id ∈ (roll.records worker).reported
  adopted : ∀ {worker : Nat} {id : String}, (worker, id) ∈ roll.adopted →
    (roll.records worker).sentStart = true ∧ .opened id ∈ (roll.records worker).reported

namespace Channel

lemma opened_attested (kind : ChannelKind) : (opened kind).roll.Attested := by
  cases kind <;> constructor <;> simp [opened, Channel.roll, Conversation.record]

lemma ne_spawned (kept : chan.roll.Kept) {wrk : Nat} {frame : Frame}
    (told : frame ∈ (chan.workers wrk).reported) : wrk ≠ chan.spawned := by
  rintro rfl
  have blank : (chan.workers chan.spawned).reported = [] := kept.blank (Nat.le_refl _)
  rw [blank] at told
  cases told

lemma Steps.attested (steps : chan.Steps op roll) (kept : chan.roll.Kept)
    (allowed : chan.misattributes op = false) (attested : chan.roll.Attested) : roll.Attested := by
  have later {wrk : Nat} {frame : Frame} (told : frame ∈ (chan.workers wrk).reported) :
      frame ∈ (roll.records wrk).reported :=
    (steps.later (ne_spawned kept told)).reported told
  constructor
  · intro winner id won opened
    obtain pre | ⟨wrk, _, _, pre, rfl, reading, queued, told,
      held, rfl⟩ | ⟨wrk, -, -, -, rfl⟩ := steps.wins won
    · exact later (attested.session pre opened)
    · cases opened
      have own : pre.worker = wrk := by
        simpa [misattributes, reading, queued, held] using allowed
      rw [← own] at told
      exact told
    · cases opened
  · intro _ id wrk starting runs
    obtain ⟨ran, pending | ⟨rfl, winner, won, rfl, opened⟩⟩ := steps.pends starting runs
    · exact later (attested.pending pending ran)
    · have own : wrk = winner.worker := by simpa [misattributes, won, opened, ran] using allowed
      rw [own]
      exact later (attested.session won opened)
  · intro wrk started
    obtain pre | ⟨_, id, starting, runs⟩ := steps.starts started
    · obtain ⟨id, told⟩ := attested.started pre
      exact ⟨id, later told⟩
    · exact ⟨id, later (attested.pending starting runs)⟩
  · intro _ _ adopted
    obtain pre | ⟨started, _, starting, runs⟩ := steps.adopts adopted
    · obtain ⟨started, told⟩ := attested.adopted pre
      exact ⟨(steps.later (ne_spawned kept told)).started started, later told⟩
    · exact ⟨started, later (attested.pending starting runs)⟩

/-- Only a worker that has itself reported a success and then a session is told to
start it, and the worker that is adopted for a session is the one that opened it and
was told to start it. -/
theorem starts_only_verified {kind : ChannelKind} {ops : List ChannelOp}
    (run : Runs Channel.step (fun channel op => channel.misattributes op = false)
      (opened kind) ops channel) : (∀ worker, (channel.workers worker).sentStart = true →
      ∃ id, [Frame.complete, .opened id].Sublist (channel.workers worker).reported) ∧
    ∀ worker id, (worker, id) ∈ channel.adopted → (channel.workers worker).sentStart = true ∧
      [Frame.complete, .opened id].Sublist (channel.workers worker).reported := by
  obtain ⟨orderly, -, attested⟩ := run.invariant
    (fun channel => channel.Orderly ∧ channel.roll.Kept ∧ channel.roll.Attested)
    (fun allowed stepped ⟨orderly, kept, attested⟩ =>
      ⟨orderly.step stepped, (step_steps stepped).kept kept,
        (step_steps stepped).attested kept allowed attested⟩)
    ⟨opened_orderly kind, opened_kept kind, opened_attested kind⟩
  constructor
  · intro worker started
    obtain ⟨id, reported⟩ := attested.started started
    exact ⟨id, (orderly worker).complete_opened reported⟩
  · intro worker _ adopted
    obtain ⟨started, reported⟩ := attested.adopted adopted
    exact ⟨started, (orderly worker).complete_opened reported⟩

/-- A worker verifies, opens its session and is told to start it. -/
def loggingIn : List ChannelOp :=
  [.beginVerificationForUser "gdm-password" "alice" true, .work 0 .complete,
    .pump 0, .pump 0, .pump 0, .work 0 .hear, .work 0 (.open_ "c1"), .pump 0,
    .startSessionWhenReady "gdm-password" true, .startConversation]

theorem starts_only_verified_loggingIn :
    ∃ channel, Runs Channel.step (fun channel op => channel.misattributes op = false)
        (opened .login) loggingIn channel ∧ (0, "c1") ∈ channel.adopted ∧
      [Frame.complete, .opened "c1"].Sublist (channel.workers 0).reported := by
  have run : Runs Channel.step (fun channel op => channel.misattributes op = false)
      (opened .login) loggingIn _ := runs_get (by decide +kernel)
  exact ⟨_, run, by decide +kernel, ((starts_only_verified run).2 0 "c1" (by decide +kernel)).2⟩

/-- The winner's record outlives the start of its session: when the service is begun
again, its new worker is told to start a session, and adopted for it, while it has
reported nothing. -/
theorem starts_unverified : ∃ channel, Runs Channel.step (fun _ _ => True) (opened .login)
        (loggingIn ++ [.beginVerificationForUser "gdm-password" "alice" true,
          .startSessionWhenReady "gdm-password" true, .startConversation]) channel ∧
      (channel.workers 1).sentStart = true ∧ (1, "c1") ∈ channel.adopted ∧
      (channel.workers 1).reported = [] ∧ (channel.workers 1).worker = .verifying := by
  exact ⟨_, runs_get (by decide +kernel), by decide +kernel⟩

/-- The channel's user is not the winner's: another user is named while a winner is on
record, or a worker wins that is no longer the channel's and verified another user. -/
def misnames (channel : Channel) : ChannelOp → Bool
  | .beginVerificationForUser _ username _ =>
    channel.winner.isSome && !channel.busy && channel.user != some username
  | .pump worker =>
    (channel.workers worker).pump == .judging && channel.winner.isNone &&
      !channel.isOurs worker && channel.user != some (channel.workers worker).user
  | _ => false

end Channel

/-- Conversations verify the channel's user, and the winner has. -/
structure Roll.Named (roll : Roll) : Prop where
  running : ∀ {service : String} {worker : Nat},
    roll.conversations service = some worker → roll.user = some (roll.records worker).user
  winner : ∀ {winner : Winner}, roll.winner = some winner →
    roll.user = some (roll.records winner.worker).user ∧
      .complete ∈ (roll.records winner.worker).reported

namespace Channel

lemma opened_named (kind : ChannelKind) : (opened kind).roll.Named := by
  cases kind <;> constructor <;> simp [opened, Channel.roll]

lemma busy_of_running (kept : chan.roll.Kept) {svc : String} {wrk : Nat}
    (runs : chan.conversations svc = some wrk) : chan.busy = true := by
  obtain ⟨spawned, named⟩ := kept.running runs
  have named : (chan.workers wrk).service = svc := named
  unfold busy
  rw [any_eq_true]
  refine ⟨wrk, mem_range.mpr spawned, ?_⟩
  simp [isOurs, named, runs]

lemma Steps.named (steps : chan.Steps op roll) (inv : chan.Orderly) (kept : chan.roll.Kept)
    (allowed : chan.misnames op = false) (named : chan.roll.Named) : roll.Named := by
  -- Nobody is renamed while a conversation runs.
  have renames {svc : String} {wrk : Nat}
      (running : chan.conversations svc = some wrk) : roll.user = chan.user := by
    obtain same | ⟨idle, -⟩ := steps.names
    · exact same
    · rw [busy_of_running kept running] at idle
      cases idle
  constructor
  · intro svc wrk running
    have verifies {old : Nat} (ran : chan.conversations svc = some old) :
        roll.user = some (roll.records old).user := by
      have spawned := (kept.running ran).1
      rw [renames ran, (steps.later (Nat.ne_of_lt spawned)).user]
      exact named.running ran
    obtain ⟨new, user, rfl⟩ | ⟨-, fewer, -⟩ := steps.spawns_or
    · by_cases same : svc = new
      · subst same
        simp only [Roll.spawn, Function.update_self, Option.some.injEq] at running
        subst running
        simp [Roll.spawn, Conversation.record]
      · simp only [Roll.spawn, Function.update_of_ne same] at running
        exact verifies running
    · exact verifies (fewer running)
  · intro _ won
    have keeps {old : Winner} (held : chan.winner = some old) :
        roll.user = some (roll.records old.worker).user ∧
          .complete ∈ (roll.records old.worker).reported := by
      obtain ⟨user, told⟩ := named.winner held
      have later := steps.later (ne_spawned kept told)
      refine ⟨?_, later.reported told⟩
      rw [later.user]
      obtain same | ⟨idle, _, username, _, rfl, names⟩ := steps.names
      · exact same.trans user
      · have same : chan.user = some username := by simpa [misnames, held, idle] using allowed
        exact names.trans (same.symm.trans user)
    obtain held | ⟨wrk, _, _, _, rfl, -, -, -, held, rfl⟩ |
      ⟨wrk, rfl, judging, unclaimed, rfl⟩ := steps.wins won
    · exact keeps held
    · have same := keeps held
      exact same
    · have told := (inv wrk).judged judging
      have later := steps.later (ne_spawned kept told)
      refine ⟨?_, later.reported told⟩
      have same : roll.user = chan.user := by
        obtain same | ⟨-, _, _, _, begins, -⟩ := steps.names
        · exact same
        · cases begins
      rw [later.user, same]
      by_cases ours : chan.isOurs wrk = true
      · have running : chan.conversations (chan.workers wrk).service = some wrk := by
          simpa [isOurs] using ours
        exact named.running running
      · have user : chan.user = some (chan.workers wrk).user := by
          simpa [misnames, judging, unclaimed, ours] using allowed
        exact user

lemma terminates_only_named {user keep : String} {sessions : List LoginSession}
    {sess : LoginSession}
    (ended : .terminateSession sess ∈ (stopConflicting user keep sessions).1) :
    sess.name = user := by
  induction sessions with
  | nil => cases ended
  | cons _ _ ih =>
    unfold stopConflicting at ended
    split at ended
    · exact ih ended
    next conflicts =>
    simp only [Channel.conflicts, Bool.not_eq_true', Bool.not_eq_false,
      Bool.and_eq_true, beq_iff_eq] at conflicts
    split at ended
    · split at ended
      · split at ended
        · obtain same | rest := mem_cons.mp ended
          · cases same
            exact conflicts.1
          · exact ih rest
        · cases mem_singleton.mp ended
          exact conflicts.1
      · exact ih ended
    · cases ended

/-- The sessions that a call to stop conflicting ones terminates belong to the user
whom the winning conversation verified. -/
theorem stops_only_verified {kind : ChannelKind} {ops : List ChannelOp}
    {sessions : List LoginSession}
    (run : Runs Channel.step (fun channel op => channel.misnames op = false)
      (opened kind) ops channel)
    (stepped : channel.step (.stopConflictingSession sessions) = some after) :
    ∃ calls, after.logindCalls = channel.logindCalls ++ calls ∧
      ∀ session, .terminateSession session ∈ calls → ∃ winner, channel.winner = some winner ∧
        .complete ∈ (channel.workers winner.worker).reported ∧
        session.name = (channel.workers winner.worker).user := by
  obtain ⟨-, -, named⟩ := run.invariant
    (fun channel => channel.Orderly ∧ channel.roll.Kept ∧ channel.roll.Named)
    (fun allowed stepped ⟨orderly, kept, named⟩ =>
      ⟨orderly.step stepped, (step_steps stepped).kept kept,
        (step_steps stepped).named orderly kept allowed named⟩)
    ⟨opened_orderly kind, opened_kept kind, opened_named kind⟩
  have handled : after = (channel.stopConflictingSession sessions).1 := by
    dsimp only [Channel.step, Channel.call] at stepped
    split at stepped
    · split at stepped
      · cases stepped
      · cases stepped
        rfl
    · cases stepped
  subst handled
  unfold stopConflictingSession
  split
  next user _ verifies opened =>
    refine ⟨_, rfl, fun session terminated => ?_⟩
    obtain ⟨winner, won, -⟩ := Option.bind_eq_some_iff.mp opened
    obtain ⟨same, reported⟩ := named.winner won
    refine ⟨winner, won, reported, ?_⟩
    rw [terminates_only_named terminated]
    have same : channel.user = some (channel.workers winner.worker).user := same
    rw [verifies] at same
    cases same
    rfl
  · exact ⟨[], by simp, by simp⟩

/-- Two graphical sessions of two users. -/
def twoSessions : List LoginSession :=
  [⟨"a1", "alice", some "wayland", some "active", true⟩,
    ⟨"b1", "bob", some "wayland", some "active", true⟩]

theorem stops_only_verified_loggingIn : ∃ channel after, Runs Channel.step
        (fun channel op => channel.misnames op = false) (opened .login) loggingIn channel ∧
      channel.step (.stopConflictingSession twoSessions) = some after ∧ after.logindCalls =
        [.terminateSession ⟨"a1", "alice", some "wayland", some "active", true⟩] ∧
      ∃ winner, channel.winner = some winner ∧ "alice" = (channel.workers winner.worker).user := by
  let channel := (runUnder Channel.step (fun channel op => channel.misnames op = false) loggingIn
    (opened .login)).get (by decide +kernel)
  have run : Runs Channel.step (fun channel op => channel.misnames op = false)
      (opened .login) loggingIn channel := runs_get _
  let after := (channel.step (.stopConflictingSession twoSessions)).get (by decide +kernel)
  have stepped : channel.step (.stopConflictingSession twoSessions) = some after :=
    (some_get _).symm
  have made : after.logindCalls =
      [.terminateSession ⟨"a1", "alice", some "wayland", some "active", true⟩] := by
    decide +kernel
  have before : channel.logindCalls = [] := by decide +kernel
  obtain ⟨_, appended, named⟩ := stops_only_verified run stepped
  rw [made, before, nil_append] at appended
  obtain ⟨winner, won, -, user⟩ := named _ (appended ▸ mem_singleton_self _)
  exact ⟨channel, after, run, stepped, made, winner, won, user⟩

/-- With the winner's session started and its record left behind, naming another user
is enough to have that user's sessions terminated: nobody but the winner's user has
verified. -/
theorem stops_unverified : ∃ channel after, Runs Channel.step (fun _ _ => True) (opened .login)
        (loggingIn ++ [.beginVerificationForUser "gdm-password" "bob" true]) channel ∧
      channel.step (.stopConflictingSession twoSessions) = some after ∧ after.logindCalls =
        [.terminateSession ⟨"b1", "bob", some "wayland", some "active", true⟩] ∧
      channel.winner.map (fun winner => (channel.workers winner.worker).user) = some "alice" ∧
      (channel.workers 1).user = "bob" ∧ (channel.workers 1).reported = [] := by
  exact ⟨_, _, runs_get (by decide +kernel), (some_get (by decide +kernel)).symm,
    by decide +kernel⟩

end Channel

end Synoik
