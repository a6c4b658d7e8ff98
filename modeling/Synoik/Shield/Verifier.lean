import Synoik.Shield.ScreenShield

/-!
# What the compositor and the verifier say to each other

The verifier is a task beside the compositor that holds the conversation with the
display manager. Requests go one way and events the other, each over a queue.
-/

namespace Synoik

inductive ReaderType where
  | none
  | press
  | swipe
deriving DecidableEq

def ReaderType.isPresent (reader : ReaderType) : Bool := reader != .none

/-- The two services a conversation can run. -/
inductive AuthService where
  | password
  | fingerprint
deriving DecidableEq

/-- The service whose questions go in the entry and whose stop is a failure. -/
def foregroundService (passwordEnabled : Bool) (reader : ReaderType) : AuthService :=
  if passwordEnabled then .password
  else if reader.isPresent then .fingerprint
  else .password

structure BeginRequest where
  username : String
  epoch : Epoch
  reader : ReaderType
  login : Bool
  allowedFailures : Nat
  passwordEnabled : Bool

inductive VerifierRequest where
  | begin (request : BeginRequest)
  | answer (text : String)
  | startFingerprint
  | cancel
  | startSession (service : String)

/-- The kinds of message in the order of their priority. -/
inductive MessageKind where
  | hint
  | info
  | error
deriving DecidableEq

def MessageKind.priority : MessageKind → Nat
  | hint => 0
  | info => 1
  | error => 2

inductive MessageSource where
  | password
  | fingerprint
deriving DecidableEq

inductive VerifierEvent where
  | ready (epoch : Epoch)
  | unavailable (epoch : Epoch) (reason : String)
  | askQuestion (question : String) (secret : Bool)
  | filterMessages (source : MessageSource)
  | showMessage (text : String) (kind : MessageKind) (source : MessageSource)
  | complete
  | sessionOpened (service : String)
  | failed
  | lost
  | reset
  | exhausted
deriving DecidableEq

end Synoik
