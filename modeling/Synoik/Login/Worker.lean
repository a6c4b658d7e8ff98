import Synoik.Login.Ipc

/-!
# A login worker

One PAM transaction, from the verification of a user to the program that runs in
the opened session. What PAM and the system answer is given by a `Machine`; what the
daemon sends is a list of frames, after which the socket is at its end. A call into PAM
may put questions to the daemon on the way, so its behaviour is a tree that branches
on the answers.
-/

namespace Synoik

def pamSuccess : Int := 0
def pamAuthinfoUnavail : Int := 9
def pamMaxtries : Int := 11
def pamNewAuthtokReqd : Int := 12
def pamAcctExpired : Int := 13
def pamAuthtokExpired : Int := 27
def pamModuleUnknown : Int := 28

/-- Longer answers are cut. -/
def maxRespSize : Nat := 512

/-- What a call into PAM does: it asks and tells, and comes back with a code. -/
inductive Dialogue where
  | done (code : Int)
  | ask (prompt : String) (secret : Bool) (next : Option (List UInt8) → Dialogue)
  | info (text : String) (next : Dialogue)
  | problem (text : String) (next : Dialogue)

inductive PamCall where
  | authenticate
  | acctMgmt
  | chauthtok
  | establishCred
  | reinitializeCred
  | deleteCred
  | openSession
  | closeSession
deriving DecidableEq

inductive WorkerEvent where
  | sent (frame : Frame)
  | heard (frame : Option Frame)
  | called (call : PamCall) (code : Int)
  /-- The session's program has been started. -/
  | started (program environment : List String)
deriving DecidableEq

/-- What the daemon has yet to be heard of, and all that has happened. -/
structure Transcript where
  incoming : List Frame := []
  events : List WorkerEvent := []

structure Account where
  name : String
  home : String
  shell : String

/-- What fprintd answers about a user's fingers: their names, or the name of an
error. -/
abbrev FingersReply := Except (Option String) (List String)

/-- What the worker finds around it. -/
structure Machine where
  clonesReport : Bool := true
  clonesRelay : Bool := true
  /-- Whether what is sent after so many events gets through. -/
  delivers : Nat → Bool := fun _ => true
  account : Option Account
  fingers : FingersReply := .error none
  pamStarts : Bool := true
  pam : PamCall → Dialogue
  putsEnv : String → Bool := fun _ => true
  setsTty : Bool := true
  sessionId : Option String := none
  envlist : Option (List String) := some []
  setsGid : Bool := true
  initsGroups : Bool := true
  seat0HasVts : Bool := false
  opensTty : Int → Bool := fun _ => true
  /-- The first free VT, unless the query fails. -/
  openQuery : Option Int := none
  dupsTty : Bool := true
  environmentD : List (String × String) := []
  /-- The worker's own environment. -/
  environment : String → Option String := fun _ => none
  forks : Bool := true
  /-- The exit status of the program, unless a signal ended it. -/
  status : Option Int := none

inductive Exit where
  | code (status : Int)
  | error
  | panic
deriving DecidableEq

namespace Transcript

variable (transcript : Transcript)

def log (event : WorkerEvent) : Transcript :=
  { transcript with events := transcript.events ++ [event] }

def send (frame : Frame) : Transcript := transcript.log (.sent frame)

/-- Reads a frame, or the end of the socket. -/
def hear : Option Frame × Transcript :=
  match transcript.incoming with
  | [] => (none, transcript.log (.heard none))
  | frame :: rest =>
    (some frame, { transcript with incoming := rest }.log (.heard (some frame)))

/-- Puts a question to the daemon. Anything but an answer abandons it. -/
def ask (delivers : Nat → Bool) (prompt : String) (secret : Bool) :
    Option (List UInt8) × Transcript :=
  let question := if secret then Frame.secretInfoQuery prompt else .infoQuery prompt
  let asked := transcript.send question
  if !delivers transcript.events.length then (none, asked)
  else
    match asked.hear with
    | (some (.answer answer), heard) => (some answer, heard)
    | (_, heard) => (none, heard)

end Transcript

def Dialogue.run (delivers : Nat → Bool) : Dialogue → Transcript → Int × Transcript
  | .done code, transcript => (code, transcript)
  | .ask prompt secret next, transcript =>
    let (answer, transcript) := transcript.ask delivers prompt secret
    (next (answer.map (List.take (maxRespSize - 1)))).run delivers transcript
  | .info text next, transcript => next.run delivers (transcript.send (.info text))
  | .problem text next, transcript => next.run delivers (transcript.send (.problem text))

inductive Enrolment where
  | enrolled
  | notEnrolled
  | unknown

def enrolmentOf : FingersReply → Enrolment
  | .ok [] => .notEnrolled
  | .ok _ => .enrolled
  | .error (some name) =>
    if name = "net.reactivated.Fprint.Error.NoEnrolledPrints" then .notEnrolled
    else .unknown
  | .error none => .unknown

def unavailableText : Enrolment → String
  | .enrolled => "Fingerprint reader unavailable"
  | .notEnrolled | .unknown => ""

def genericMessage (service : String) : String :=
  if service = "synoik-password" then
    "Sorry, password authentication didn’t work. Please try again."
  else if service = "synoik-fingerprint" then
    "Sorry, fingerprint authentication didn’t work. Please try again."
  else
    "Sorry, that didn’t work. Please try again."

def maxTriesMessage (service : String) : String :=
  if service = "synoik-password" then
    "You reached the maximum password authentication attempts, please try another method"
  else if service = "synoik-fingerprint" then
    "You reached the maximum fingerprint authentication attempts, please try another method"
  else
    "You reached the maximum authentication attempts, please try another method"

/-- What a failed authentication tells the client. -/
def refusal (service : String) (fingers : FingersReply) (code : Int) : Frame :=
  if code = pamAuthinfoUnavail ∧ service = "synoik-fingerprint" then
    .unavailable (unavailableText (enrolmentOf fingers))
  else if code = pamAuthinfoUnavail ∨ code = pamModuleUnknown then
    .unavailable ""
  else if code = pamMaxtries then
    .unavailable (maxTriesMessage service)
  else if code = pamAcctExpired ∨ code = pamAuthtokExpired then
    .failed "Your account was given a time limit that’s now passed."
  else
    .failed (genericMessage service)

namespace Machine

variable (machine : Machine)

def call (call : PamCall) (transcript : Transcript) : Int × Transcript :=
  let (code, transcript) := (machine.pam call).run machine.delivers transcript
  (code, transcript.log (.called call code))

/-- A call whose answer is not looked at. -/
def callAnyway (call : PamCall) (transcript : Transcript) : Transcript :=
  (machine.call call transcript).2

variable (service : String)

def putSessionEnv : Bool :=
  machine.putsEnv "XDG_SEAT" && machine.putsEnv "XDG_SESSION_TYPE" &&
    machine.putsEnv "XDG_SESSION_CLASS" && machine.putsEnv "XDG_SESSION_DESKTOP"

def initialVt : Int := 1

/-- The VT the session is put on, on a seat that has them; nothing if none can be
had. -/
def prepare (greeter : Bool) : Option (Option Int) :=
  if !machine.seat0HasVts then some none
  else if !machine.opensTty initialVt then none
  else
    let number :=
      if greeter then some initialVt
      else machine.openQuery.filter fun number => 0 < number && machine.opensTty number
    match number with
    | none => none
    | some number =>
      if machine.putsEnv "XDG_VTNR" && machine.setsTty then some (some number) else none

/-- A string for C, which has no place for a zero byte. -/
def cString (text : String) : Option String :=
  if '\x00' ∈ text.toList then none else some text

/-- The two parts of a string around its first equals sign. -/
def splitOnce (pair : String) : Option (String × String) :=
  match pair.toList.span (· ≠ '=') with
  | (key, _ :: value) => some (String.ofList key, String.ofList value)
  | (_, []) => none

def insertEnv (env : List (String × String)) (key value : String) : List (String × String) :=
  (key, value) :: env.filter fun entry => entry.1 ≠ key

variable (account : Account)

def sessionEnvironment : Option (List String) :=
  let env := machine.environmentD
  let env := insertEnv env "HOME" account.home
  let env := insertEnv env "USER" account.name
  let env := insertEnv env "LOGNAME" account.name
  let env := insertEnv env "SHELL" account.shell
  let env := ["SYNOIK_SYSTEM_SOCKET", "GSETTINGS_SCHEMA_DIR"].foldl
    (fun env key => match machine.environment key with
      | some value => insertEnv env key value
      | none => env) env
  match machine.envlist with
  | none => none
  | some pairs =>
    let env := pairs.foldl
      (fun env pair => match splitOnce pair with
        | some (key, value) => insertEnv env key value
        | none => env) env
    let env :=
      if env.lookup "XDG_SESSION_CLASS" = some "greeter" then
        insertEnv (insertEnv env "DCONF_PROFILE" "synoik-greeter")
          "XDG_CURRENT_DESKTOP" "GNOME-Greeter:GNOME"
      else
        insertEnv env "XDG_CURRENT_DESKTOP" "Synoik:GNOME"
    env.mapM fun (key, value) => cString (key ++ "=" ++ value)

/-- Starts the program in the open session, waits for it and closes the session. -/
def parentSession (program : List String) (vt : Option Int) (front : Bool)
    (transcript : Transcript) : Exit × Transcript :=
  match machine.sessionEnvironment account, program.mapM cString, cString account.home with
  | some environment, some argv, some _ =>
    -- Switching to the VT duplicates its descriptor, and expects that to work.
    if vt.isSome && front && !machine.dupsTty then (.panic, transcript)
    else if !machine.forks then (.error, transcript)
    else
      let transcript := transcript.log (.started argv environment)
      let transcript := machine.callAnyway .closeSession transcript
      let transcript := machine.callAnyway .deleteCred transcript
      (.code (machine.status.getD 1), transcript)
  | _, _, _ => (.error, transcript)

def fail (transcript : Transcript) : Exit × Transcript :=
  (.code 1, transcript.send (.failed (genericMessage service)))

/-- From the opened session on: it is started, or closed. -/
def startOrClose (program : List String) (vt : Option Int) (transcript : Transcript) :
    Exit × Transcript :=
  let id := machine.sessionId.getD ""
  let (heard, transcript) := (transcript.send (.opened id)).hear
  if heard ≠ some .start then
    let transcript := machine.callAnyway .closeSession transcript
    (.code 1, machine.callAnyway .deleteCred transcript)
  else
    machine.parentSession account program vt true transcript

/-- From the established credentials on: the daemon names one winner, and the session is
opened if this is it. -/
def openOrDrop (program : List String) (transcript : Transcript) : Exit × Transcript :=
  let (heard, transcript) := (transcript.send .complete).hear
  if heard ≠ some .open_ then
    (.code 1, machine.callAnyway .deleteCred transcript)
  else
    match machine.prepare false with
    | none => fail service (machine.callAnyway .deleteCred transcript)
    | some vt =>
      let (code, transcript) := machine.call .openSession transcript
      if code ≠ pamSuccess then
        fail service (machine.callAnyway .deleteCred transcript)
      else machine.startOrClose account program vt transcript

variable (program : List String)

/-- From the accepted account on. -/
def establish (transcript : Transcript) : Exit × Transcript :=
  match machine.account with
  | none => fail service transcript
  | some account =>
    if !machine.setsGid || !machine.initsGroups then fail service transcript
    else
      let (code, transcript) := machine.call .establishCred transcript
      if code ≠ pamSuccess then fail service transcript
      else machine.openOrDrop service account program transcript

/-- From the authentication on: the account is checked, and an expired password
changed. -/
def letIn (transcript : Transcript) : Exit × Transcript :=
  let (code, transcript) := machine.call .acctMgmt transcript
  if code = pamNewAuthtokReqd then
    let (code, transcript) := machine.call .chauthtok transcript
    if code ≠ pamSuccess then fail service transcript
    else machine.establish service program transcript
  else if code ≠ pamSuccess then
    (.code 1, transcript.send (refusal service machine.fingers code))
  else
    machine.establish service program transcript

def runLogin (transcript : Transcript) : Exit × Transcript :=
  if !machine.clonesReport || !machine.clonesRelay then (.error, transcript)
  else if !machine.pamStarts then (.code 1, transcript.send (.unavailable ""))
  else if !machine.putSessionEnv then fail service transcript
  else
    let (code, transcript) := machine.call .authenticate transcript
    if code ≠ pamSuccess then
      (.code 1, transcript.send (refusal service machine.fingers code))
    else
      machine.letIn service program transcript

end Machine

end Synoik
