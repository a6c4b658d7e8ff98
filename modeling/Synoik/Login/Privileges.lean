import Synoik.Login.Worker

/-!
# What a login worker does before it starts a program, and leaves behind

The program of a session is started only after every step of the login has succeeded
in its order. A worker that ends has given up its credentials and closed its session,
unless it got the word to start the program and could not: then it returns at once.
-/

namespace Synoik

open List

variable {pre mid after log : Transcript} {rungs : List WorkerEvent}

/-- What a worker holds of the user. -/
structure Holdings where
  credentials : Bool := false
  session : Bool := false
deriving DecidableEq

def Holdings.next (held : Holdings) : WorkerEvent → Holdings
  | .called .establishCred code =>
    if code = pamSuccess then { held with credentials := true } else held
  | .called .deleteCred _ => { held with credentials := false }
  | .called .openSession code =>
    if code = pamSuccess then { held with session := true } else held
  | .called .closeSession _ => { held with session := false }
  | _ => held

def holdings (events : List WorkerEvent) : Holdings := events.foldl Holdings.next {}

@[simp] lemma holdings_append_singleton (evs : List WorkerEvent) (ev : WorkerEvent) :
    holdings (evs ++ [ev]) = (holdings evs).next ev := by
  simp [holdings]

/-- Hears a frame, or nothing that counts. -/
def Transcript.hears (transcript : Transcript) (frame : Frame) : Option Transcript :=
  match transcript.hear with
  | (some heard, transcript) => if heard = frame then some transcript else none
  | (none, _) => none

namespace Machine

variable (machine : Machine)

/-- A call into PAM that succeeds. -/
def passes (call : PamCall) (transcript : Transcript) : Option Transcript :=
  let (code, transcript) := machine.call call transcript
  if code = pamSuccess then some transcript else none

/-- The account is accepted, its password changed if it had expired. -/
def admits (transcript : Transcript) : Option Transcript :=
  let (code, transcript) := machine.call .acctMgmt transcript
  if code = pamNewAuthtokReqd then machine.passes .chauthtok transcript
  else if code = pamSuccess then some transcript
  else none

/-- With its credentials established, a worker is told to open its session, does, and is
told to start it: the VT it is on. -/
def invitedToStart (transcript : Transcript) : Option (Option Int) := do
  let transcript ← (transcript.send .complete).hears .open_
  let vt ← machine.prepare false
  let transcript ← machine.passes .openSession transcript
  let _ ← (transcript.send (.opened (machine.sessionId.getD ""))).hears .start
  return vt

/-- With its account accepted, a worker establishes its credentials and is invited to
start the session: the account, and the VT. -/
def equipped (transcript : Transcript) : Option (Account × Option Int) := do
  let account ← machine.account
  if !machine.setsGid || !machine.initsGroups then none
  else
    let transcript ← machine.passes .establishCred transcript
    let vt ← machine.invitedToStart transcript
    return (account, vt)

/-- Everything up to the word to start succeeds. -/
def invited (transcript : Transcript) : Option (Account × Option Int) :=
  if machine.clonesReport && machine.clonesRelay && machine.pamStarts &&
      machine.putSessionEnv then do
    let transcript ← machine.passes .authenticate transcript
    let transcript ← machine.admits transcript
    machine.equipped transcript
  else none

/-- The program's environment, arguments or process cannot be had. -/
def unstartable (program : List String) (account : Account) (vt : Option Int) : Bool :=
  (machine.sessionEnvironment account).isNone || (program.mapM cString).isNone ||
    (cString account.home).isNone || vt.isSome && !machine.dupsTty || !machine.forks

/-- A worker that gets the word to start the program and cannot. -/
def strands (program : List String) (transcript : Transcript) : Bool :=
  (machine.invited transcript).any fun (account, vt) =>
    machine.unstartable program account vt

end Machine

namespace WorkerEvent

def chats : WorkerEvent → Bool
  | .sent _ | .heard _ => true
  | _ => false

end WorkerEvent

namespace Transcript

/-- From one transcript to another there is only talk. -/
def Talks (before after : Transcript) : Prop :=
  ∃ talk : List WorkerEvent, after.events = before.events ++ talk ∧
    ∀ event ∈ talk, event.chats = true

lemma Talks.refl (log : Transcript) : log.Talks log := ⟨[], by simp, by simp⟩

lemma Talks.trans (first : pre.Talks mid) (last : mid.Talks after) : pre.Talks after := by
  obtain ⟨early, early_eq, early_chats⟩ := first
  obtain ⟨late, late_eq, late_chats⟩ := last
  refine ⟨early ++ late, by simp [late_eq, early_eq], fun ev mem => ?_⟩
  obtain mem | mem := mem_append.mp mem
  · exact early_chats ev mem
  · exact late_chats ev mem

lemma talks_send (log : Transcript) (frame : Frame) : log.Talks (log.send frame) :=
  ⟨[.sent frame], rfl, by simp [WorkerEvent.chats]⟩

lemma hear_events (log : Transcript) : log.hear.2.events = log.events ++ [.heard log.hear.1] := by
  unfold hear
  split <;> rfl

lemma talks_hear (log : Transcript) : log.Talks log.hear.2 :=
  ⟨[.heard log.hear.1], log.hear_events, by simp [WorkerEvent.chats]⟩

lemma talks_ask (log : Transcript) (delivers : Nat → Bool) (prompt : String)
    (secret : Bool) : log.Talks (log.ask delivers prompt secret).2 := by
  dsimp only [ask]
  generalize (if secret then Frame.secretInfoQuery prompt else .infoQuery prompt) = question
  have asked := log.talks_send question
  split
  · exact asked
  · have heard := asked.trans (log.send question).talks_hear
    split
    next hears => simpa [hears] using heard
    next hears => simpa [hears] using heard

end Transcript

lemma Dialogue.run_talks (delivers : Nat → Bool) (dialogue : Dialogue)
    (log : Transcript) : log.Talks (dialogue.run delivers log).2 := by
  induction dialogue generalizing log with
  | done => exact .refl _
  | ask prompt secret _ ih =>
    exact (log.talks_ask delivers prompt secret).trans (ih _ _)
  | info _ _ ih | problem _ _ ih =>
    exact (log.talks_send _).trans (ih _)

namespace Transcript

/-- From one transcript to another the rungs are climbed in their order, and no program
is started. -/
def Adds (before after : Transcript) (rungs : List WorkerEvent) : Prop :=
  ∃ passed, after.events = before.events ++ passed ∧ rungs.Sublist passed ∧
    ∀ program environment, .started program environment ∉ passed

variable {rest : List WorkerEvent}

lemma Adds.trans (first : pre.Adds mid rungs) (last : mid.Adds after rest) :
    pre.Adds after (rungs ++ rest) := by
  obtain ⟨early, early_eq, early_rungs, early_quiet⟩ := first
  obtain ⟨late, late_eq, late_rungs, late_quiet⟩ := last
  refine ⟨early ++ late, by simp [late_eq, early_eq], early_rungs.append late_rungs, ?_⟩
  intro _ _ mem
  obtain mem | mem := mem_append.mp mem
  · exact early_quiet _ _ mem
  · exact late_quiet _ _ mem

lemma Adds.none (adds : pre.Adds after rungs) : pre.Adds after [] := by
  obtain ⟨passed, equal, -, quiet⟩ := adds
  exact ⟨passed, equal, nil_sublist _, quiet⟩

lemma Adds.single {ev : WorkerEvent} (equal : after.events = pre.events ++ [ev])
    (quiet : ∀ program environment, ev ≠ .started program environment) : pre.Adds after [ev] := by
  refine ⟨[ev], equal, Sublist.refl _, fun program environment mem => ?_⟩
  exact quiet program environment (mem_singleton.mp mem).symm

lemma Talks.adds (talks : pre.Talks after) : pre.Adds after [] := by
  obtain ⟨talk, equal, chats⟩ := talks
  refine ⟨talk, equal, nil_sublist _, fun _ _ mem => ?_⟩
  cases chats _ mem

lemma Talks.holdings (talks : pre.Talks after) : holdings after.events = holdings pre.events := by
  obtain ⟨talk, equal, chats⟩ := talks
  simp only [equal, Synoik.holdings, foldl_append]
  generalize pre.events.foldl Holdings.next {} = held
  clear equal
  induction talk generalizing held with
  | nil => rfl
  | cons ev _ ih =>
    have quiet : held.next ev = held := by
      have chat := chats ev (.head _)
      cases ev with
      | sent | heard => rfl
      | called | started => cases chat
    rw [foldl_cons, quiet]
    exact ih (fun other mem => chats other (.tail _ mem)) held

variable {frame : Option Frame}

lemma adds_hear (heard : pre.hear = (frame, after)) : pre.Adds after [.heard frame] := by
  have equal := pre.hear_events
  rw [heard] at equal
  exact .single equal fun _ _ => by simp

lemma holdings_hear (heard : pre.hear = (frame, after)) :
    holdings after.events = holdings pre.events := by
  have talks := pre.talks_hear
  rw [heard] at talks
  exact talks.holdings

lemma hears_of_hear {frame : Frame} {heard : Option Frame} (hears : pre.hear = (heard, after)) :
    pre.hears frame = if heard = some frame then some after else none := by
  unfold Transcript.hears
  rw [hears]
  cases heard with
  | none | some => simp

end Transcript

namespace Machine

variable {machine : Machine} {call : PamCall} {code : Int}

section

variable (called : machine.call call pre = (code, after))
include called

lemma call_events :
    ∃ talked, pre.Talks talked ∧ after.events = talked.events ++ [.called call code] := by
  cases called
  exact ⟨_, Dialogue.run_talks _ _ _, rfl⟩

lemma adds_call : pre.Adds after [.called call code] := by
  obtain ⟨_, talks, equal⟩ := call_events called
  exact talks.adds.trans (.single equal fun _ _ => by simp)

lemma holdings_call : holdings after.events = (holdings pre.events).next (.called call code) := by
  obtain ⟨_, talks, equal⟩ := call_events called
  rw [equal, holdings_append_singleton, talks.holdings]

lemma passes_of_call :
    machine.passes call pre = if code = pamSuccess then some after else none := by
  unfold passes
  rw [called]

end

lemma adds_callAnyway (machine : Machine) (call : PamCall) (log : Transcript) :
    log.Adds (machine.callAnyway call log) [] := by
  have adds : log.Adds (machine.callAnyway call log) _ := adds_call rfl
  exact adds.none

lemma holdings_callAnyway (machine : Machine) (call : PamCall) (log : Transcript) :
    holdings (machine.callAnyway call log).events = (holdings log.events).next
        (.called call (machine.call call log).1) :=
  holdings_call rfl

end Machine

/-- A program is started only after the rungs have been climbed, and the worker ends with
nothing held unless it is stuck. -/
structure Climbs (before : Transcript) (rungs : List WorkerEvent) (stuck : Prop)
    (result : Exit × Transcript) : Prop where
  ordered : ∃ more, result.2.events = before.events ++ more ∧
    ∀ program environment, .started program environment ∈ more →
      ∃ early late, more = early ++ .started program environment :: late ∧ rungs.Sublist early
  tidy : holdings result.2.events = {} ↔ ¬stuck

namespace Climbs

variable {climbed : List WorkerEvent} {stuck : Prop} {res : Exit × Transcript}

lemma climb (adds : pre.Adds after climbed) (climbs : Climbs after rungs stuck res) :
    Climbs pre (climbed ++ rungs) stuck res := by
  obtain ⟨passed, passed_eq, passes, quiet⟩ := adds
  obtain ⟨more, more_eq, started⟩ := climbs.ordered
  refine ⟨⟨passed ++ more, by simp [more_eq, passed_eq], ?_⟩, climbs.tidy⟩
  intro _ _ mem
  obtain mem | mem := mem_append.mp mem
  · exact absurd mem (quiet _ _)
  · obtain ⟨early, late, rfl, climbs⟩ := started _ _ mem
    exact ⟨passed ++ early, late, by simp, passes.append climbs⟩

lemma congr {stuck' : Prop} (climbs : Climbs pre rungs stuck res)
    (same : stuck ↔ stuck') : Climbs pre rungs stuck' res :=
  ⟨climbs.ordered, climbs.tidy.trans (not_congr same)⟩

lemma stop (adds : pre.Adds res.2 []) (tidy : holdings res.2.events = {})
    (free : ¬stuck) : Climbs pre rungs stuck res := by
  obtain ⟨more, more_eq, -, quiet⟩ := adds
  refine ⟨⟨more, more_eq, ?_⟩, fun _ => free, fun _ => tidy⟩
  exact fun program _ mem => absurd mem (quiet _ _)

end Climbs

namespace Machine

variable {machine : Machine} {svc : String} {program : List String} {account : Account}
  {vt : Option Int}

lemma holdings_drop (machine : Machine) (log : Transcript)
    (closed : (holdings log.events).session = false) :
    holdings (machine.callAnyway .deleteCred log).events = {} := by
  rw [holdings_callAnyway, Holdings.next, closed]

lemma holdings_close (machine : Machine) (log : Transcript) :
    holdings (machine.callAnyway .deleteCred
      (machine.callAnyway .closeSession log)).events = {} := by
  apply holdings_drop
  rw [holdings_callAnyway, Holdings.next]

lemma adds_close (machine : Machine) (log : Transcript) :
    log.Adds (machine.callAnyway .deleteCred (machine.callAnyway .closeSession log)) [] :=
  (machine.adds_callAnyway .closeSession log).trans (machine.adds_callAnyway .deleteCred _)

lemma fail_climbs {pre : Transcript} {rungs : List WorkerEvent} {stuck : Prop}
    (adds : pre.Adds log []) (empty : holdings log.events = {})
    (free : ¬stuck) : Climbs pre rungs stuck (fail svc log) := by
  have talks := log.talks_send (.failed (genericMessage svc))
  apply Climbs.stop (adds.trans talks.adds) _ free
  exact talks.holdings.trans empty

lemma parentSession_stuck (log : Transcript)
    (stuck : machine.unstartable program account vt = true) :
    (machine.parentSession account program vt true log).2 = log := by
  unfold parentSession
  split
  next hasEnvironment hasArgv hasHome =>
    split
    · rfl
    next tty =>
    split
    · rfl
    next forks =>
    simp only [Bool.and_true] at tty
    simp [unstartable, hasEnvironment, hasArgv, hasHome, tty, forks] at stuck
  · rfl

lemma parentSession_free (log : Transcript)
    (free : machine.unstartable program account vt = false) :
    ∃ argv environment, (machine.parentSession account program vt true log).2 =
      machine.callAnyway .deleteCred (machine.callAnyway .closeSession
        (log.log (.started argv environment))) := by
  simp only [unstartable, Bool.or_eq_false_iff, Option.isNone_eq_false_iff,
    Option.isSome_iff_exists, Bool.not_eq_false'] at free
  obtain ⟨⟨⟨⟨⟨environment, hasEnvironment⟩, argv, hasArgv⟩, _, hasHome⟩, tty⟩, forks⟩ := free
  refine ⟨argv, environment, ?_⟩
  unfold parentSession
  rw [hasEnvironment, hasArgv, hasHome]
  simp [tty, forks]

lemma parentSession_climbs (held : holdings log.events ≠ {}) :
    Climbs log [] (machine.unstartable program account vt = true)
      (machine.parentSession account program vt true log) := by
  cases stuck : machine.unstartable program account vt with
  | true =>
    have stays := parentSession_stuck log stuck
    refine ⟨⟨[], by simp [stays], by simp⟩, ?_⟩
    rw [stays]
    exact ⟨fun empty => absurd empty held, fun free => absurd rfl free⟩
  | false =>
    obtain ⟨argv, environment, equal⟩ := parentSession_free log stuck
    obtain ⟨rest, rest_eq, -, quiet⟩ := machine.adds_close (log.log (.started argv environment))
    constructor
    · refine ⟨.started argv environment :: rest, ?_, ?_⟩
      · rw [equal, rest_eq]
        simp [Transcript.log]
      · intro _ _ mem
        obtain same | late := mem_cons.mp mem
        · cases same
          exact ⟨[], rest, rfl, nil_sublist _⟩
        · exact absurd late (quiet _ _)
    · rw [equal]
      exact ⟨fun _ => Bool.false_ne_true, fun _ => machine.holdings_close _⟩

lemma startOrClose_climbs
    (held : holdings log.events = { credentials := true, session := true }) :
    Climbs log [.heard (some .start)]
      (((log.send (.opened (machine.sessionId.getD ""))).hears .start).isSome =
        true ∧ machine.unstartable program account vt = true)
      (machine.startOrClose account program vt log) := by
  have sends := log.talks_send (.opened (machine.sessionId.getD ""))
  rcases hears : (log.send (.opened (machine.sessionId.getD ""))).hear with
    ⟨heard, _⟩
  have adds := sends.adds.trans (Transcript.adds_hear hears)
  have holds := (Transcript.holdings_hear hears).trans (sends.holdings.trans held)
  rw [Transcript.hears_of_hear hears]
  unfold startOrClose
  simp only [hears]
  by_cases start : heard = some .start
  · subst start
    apply Climbs.climb adds
    simpa using parentSession_climbs (by simp [holds])
  · rw [if_neg start, if_pos start]
    apply Climbs.stop (adds.none.trans (machine.adds_close _))
    · exact machine.holdings_close _
    · simp

lemma openOrDrop_climbs (held : holdings log.events = { credentials := true }) : Climbs log
      [.heard (some .open_), .called .openSession pamSuccess, .heard (some .start)]
      ((machine.invitedToStart log).any (machine.unstartable program account) = true)
      (machine.openOrDrop svc account program log) := by
  have sends := log.talks_send .complete
  rcases hears : (log.send .complete).hear with ⟨heard, told⟩
  have adds := sends.adds.trans (Transcript.adds_hear hears)
  have holds := (Transcript.holdings_hear hears).trans (sends.holdings.trans held)
  unfold openOrDrop invitedToStart
  simp only [hears, Transcript.hears_of_hear hears]
  by_cases opens : heard = some .open_
  · subst opens
    apply Climbs.climb adds
    simp only [ne_eq, not_true_eq_false, if_false, if_true, Option.bind_eq_bind, Option.bind_some]
    cases prepared : machine.prepare false with
    | none =>
      have dropped := machine.adds_callAnyway .deleteCred told
      have empty := machine.holdings_drop told (by simp [holds])
      exact fail_climbs dropped empty (by simp)
    | some vt =>
      rcases called : machine.call .openSession told with ⟨code, opened⟩
      have opening := adds_call called
      have openHolds := holdings_call called
      simp only [passes_of_call called, Option.bind_some]
      by_cases success : code = pamSuccess
      · subst success
        have climbs : Climbs opened _ _ (machine.startOrClose account program vt opened) :=
          startOrClose_climbs (openHolds.trans (by simp [holds, Holdings.next]))
        refine .climb opening (climbs.congr ?_)
        cases started : (opened.send (.opened (machine.sessionId.getD ""))).hears .start
        all_goals simp [started]
      · rw [if_pos success, if_neg success]
        have closed : holdings opened.events = { credentials := true } :=
          openHolds.trans (by simp [holds, Holdings.next, success])
        have dropped := opening.none.trans (machine.adds_callAnyway .deleteCred opened)
        have empty := machine.holdings_drop opened (by simp [closed])
        exact fail_climbs dropped empty (by simp)
  · rw [if_pos opens, if_neg opens]
    apply Climbs.stop (adds.none.trans (machine.adds_callAnyway .deleteCred told))
    · exact machine.holdings_drop told (by simp [holds])
    · simp

lemma establish_climbs (held : holdings log.events = {}) : Climbs log
      [.called .establishCred pamSuccess, .heard (some .open_),
        .called .openSession pamSuccess, .heard (some .start)] ((machine.equipped log).any
        (fun (account, vt) => machine.unstartable program account vt) = true)
      (machine.establish svc program log) := by
  unfold establish equipped
  cases old : machine.account with
  | none => exact fail_climbs (Transcript.Talks.refl _).adds held (by simp)
  | some account =>
    cases refused : !machine.setsGid || !machine.initsGroups with
    | true => exact fail_climbs (Transcript.Talks.refl _).adds held (by simp)
    | false =>
      rcases called : machine.call .establishCred log with ⟨code, equipped⟩
      have equipping := adds_call called
      have holds := holdings_call called
      simp only [passes_of_call called, Bool.false_eq_true, if_false]
      by_cases success : code = pamSuccess
      · subst success
        have climbs : Climbs equipped _ _ (machine.openOrDrop svc account program equipped) :=
          openOrDrop_climbs (holds.trans (by simp [held, Holdings.next]))
        refine .climb equipping (climbs.congr ?_)
        cases invited : machine.invitedToStart equipped
        all_goals simp [invited]
      · rw [if_pos success, if_neg success]
        have empty : holdings equipped.events = {} :=
          holds.trans (by simp [held, Holdings.next, success])
        exact fail_climbs equipping.none empty (by simp)

/-- How an account is accepted: as it is, or with its password changed. -/
def acceptances : List (List WorkerEvent) :=
  [[.called .acctMgmt pamSuccess],
    [.called .acctMgmt pamNewAuthtokReqd, .called .chauthtok pamSuccess]]

lemma letIn_climbs (machine : Machine) (svc : String) (program : List String)
    (held : holdings log.events = {}) : ∃ acceptance ∈ acceptances, Climbs log
      (acceptance ++ [.called .establishCred pamSuccess, .heard (some .open_),
        .called .openSession pamSuccess, .heard (some .start)])
      (((machine.admits log).bind machine.equipped).any
        (fun (account, vt) => machine.unstartable program account vt) = true)
      (machine.letIn svc program log) := by
  rcases called : machine.call .acctMgmt log with ⟨code, checked⟩
  have checking := adds_call called
  have holds := (holdings_call called).trans held
  unfold letIn admits
  simp only [called]
  by_cases expired : code = pamNewAuthtokReqd
  · subst expired
    refine ⟨_, .tail _ (.head _), ?_⟩
    rcases new : machine.call .chauthtok checked with ⟨answer, _⟩
    have changing := checking.trans (adds_call new)
    have renews := (holdings_call new).trans holds
    simp only [if_true, passes_of_call new]
    by_cases success : answer = pamSuccess
    · subst success
      exact .climb changing (establish_climbs renews)
    · rw [if_pos success, if_neg success]
      exact fail_climbs changing.none renews (by simp)
  · refine ⟨_, .head _, ?_⟩
    simp only [expired, if_false]
    by_cases success : code = pamSuccess
    · subst success
      exact .climb checking (establish_climbs holds)
    · rw [if_pos success, if_neg success]
      have talks := checked.talks_send (refusal svc machine.fingers code)
      apply Climbs.stop (checking.none.trans talks.adds)
      · exact talks.holdings.trans holds
      · simp

/-- The steps of a login in their order. -/
def ladder (acceptance : List WorkerEvent) : List WorkerEvent :=
  .called .authenticate pamSuccess :: acceptance ++
    [.called .establishCred pamSuccess, .heard (some .open_),
      .called .openSession pamSuccess, .heard (some .start)]

lemma runLogin_climbs (machine : Machine) (svc : String) (program : List String)
    (held : holdings log.events = {}) : ∃ acceptance ∈ acceptances, Climbs log (ladder acceptance)
      (machine.strands program log = true) (machine.runLogin svc program log) := by
  have stops {res : Exit × Transcript} {stuck : Prop}
      (talks : log.Talks res.2) (free : ¬stuck) :
      ∃ acceptance ∈ acceptances, Climbs log (ladder acceptance) stuck res :=
    ⟨_, .head _, .stop talks.adds (talks.holdings.trans held) free⟩
  unfold runLogin strands invited
  cases ready : machine.clonesReport && machine.clonesRelay && machine.pamStarts &&
    machine.putSessionEnv with
  | false =>
    rw [if_neg Bool.false_ne_true]
    split
    · exact stops (.refl _) (by simp)
    next clones =>
    split
    · exact stops (log.talks_send _) (by simp)
    next starts =>
    split
    · exact stops (log.talks_send _) (by simp)
    next puts =>
    simp only [Bool.or_eq_true, Bool.not_eq_true', not_or, Bool.not_eq_false] at clones starts puts
    simp [clones, starts, puts] at ready
  | true =>
    simp only [Bool.and_eq_true] at ready
    rcases called : machine.call .authenticate log with ⟨code, authenticated⟩
    have authenticating := adds_call called
    have holds := (holdings_call called).trans held
    simp only [ready, passes_of_call called, Bool.not_true, Bool.or_self,
      Bool.false_eq_true, if_false, if_true, Option.bind_eq_bind]
    by_cases success : code = pamSuccess
    · subst success
      obtain ⟨acceptance, accepted, climbs⟩ := machine.letIn_climbs svc program holds
      have climbed := Climbs.climb authenticating climbs
      exact ⟨acceptance, accepted, climbed⟩
    · rw [if_pos success, if_neg success]
      have talks := authenticated.talks_send (refusal svc machine.fingers code)
      refine ⟨_, .head _, .stop (authenticating.none.trans talks.adds) ?_ ?_⟩
      · exact talks.holdings.trans holds
      · simp

/-- A login worker starts its program only after authentication, account management
with any password change, the establishment of credentials, the word to open, the opening
of the session and the word to start it have all succeeded in this order; and it ends
with its credentials dropped and its session closed exactly if it does not get as far
as the word to start and then fail to start the program. -/
theorem login_in_order (machine : Machine) (service : String) (program : List String)
    (incoming : List Frame) :
    let events := (machine.runLogin service program { incoming }).2.events
    (∀ argv environment, .started argv environment ∈ events →
      ∃ early late, events = early ++ .started argv environment :: late ∧
        ∃ acceptance ∈ acceptances, (ladder acceptance).Sublist early) ∧
    (holdings events = {} ↔ machine.strands program { incoming } = false) := by
  have empty : holdings (Transcript.events { incoming }) = {} := rfl
  obtain ⟨acceptance, accepted, climbs⟩ := machine.runLogin_climbs service program empty
  obtain ⟨more, equal, started⟩ := climbs.ordered
  intro events
  have same : events = more := equal
  constructor
  · rw [same]
    intro argv environment member
    obtain ⟨early, late, split, climbed⟩ := started argv environment member
    exact ⟨early, late, split, acceptance, accepted, climbed⟩
  · exact climbs.tidy.trans (Bool.not_eq_true _).to_iff

/-- A user whose password is asked for, and everything else granted. -/
def granting (forks : Bool) : Machine where
  account := some ⟨"alice", "/home/alice", "/bin/bash"⟩
  pam
    | .authenticate => .ask "Password: " true fun answer =>
      .done (if answer = some [1, 2, 3] then pamSuccess else 7)
    | _ => .done pamSuccess
  sessionId := some "c1"
  forks

theorem login_in_order_granting :
    let events := ((granting true).runLogin "synoik-password" ["gnome-session"]
      { incoming := [.answer [1, 2, 3], .open_, .start] }).2.events
    (∃ argv environment, .started argv environment ∈ events ∧
      ∃ early late, events = early ++ .started argv environment :: late ∧
        ∃ acceptance ∈ acceptances, (ladder acceptance).Sublist early) ∧ holdings events = {} := by
  intro events
  have order := login_in_order (granting true) "synoik-password" ["gnome-session"]
    [.answer [1, 2, 3], .open_, .start]
  have started : .started ["gnome-session"] ["XDG_CURRENT_DESKTOP=Synoik:GNOME",
      "SHELL=/bin/bash", "LOGNAME=alice", "USER=alice", "HOME=/home/alice"] ∈ events := by
    decide +kernel
  exact ⟨⟨_, _, started, order.1 _ _ started⟩, order.2.mpr (by decide +kernel)⟩

/-- A worker that gets the word to start and cannot fork returns with its credentials
established and its session open. -/
theorem login_strands :
    let result := (granting false).runLogin "synoik-password" ["gnome-session"]
      { incoming := [.answer [1, 2, 3], .open_, .start] }
    result.1 = .error ∧ holdings result.2.events = { credentials := true, session := true } ∧
      ∀ argv environment, .started argv environment ∉ result.2.events := by
  intro result
  have events : result.2.events =
      [.sent (.secretInfoQuery "Password: "), .heard (some (.answer [1, 2, 3])),
        .called .authenticate 0, .called .acctMgmt 0, .called .establishCred 0,
        .sent .complete, .heard (some .open_), .called .openSession 0,
        .sent (.opened "c1"), .heard (some .start)] := by
    decide +kernel
  rw [events]
  exact ⟨by decide +kernel, by decide, by simp⟩

end Machine

end Synoik
