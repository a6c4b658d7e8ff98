import Synoik.Polkit.Agent
import Synoik.Shield.UnlockDialog

/-!
# The authentication dialog

The dialog goes up with the first question. What it sends names no request, and it keeps the
last call that was put to it for nothing but to tell what it was sent for.
-/

namespace Synoik.Polkit

inductive Mode where
  | auth
  | confirm
deriving DecidableEq

inductive Message where
  | error (text : String)
  | info (text : String)

def Message.isError : Message → Bool
  | error _ => true
  | info _ => false

structure PolkitEffects where
  request : Option PolkitRequest := none
  redraw : Bool := false
  wiggle : Bool := false
  armReset : Bool := false
  close : Bool := false

def genericFailure : String := "Sorry, that didn’t work. Please try again."

structure PolkitDialog where
  request : Option BeginRequest := none
  isOpen : Bool := false
  mode : Mode := .auth
  userName : String := ""
  question : Option (String × Bool) := none
  entry : String := ""
  entryLive : Bool := false
  message : Option Message := none
  lastCall : Option Nat := none

namespace PolkitDialog

def initiate (dialog : PolkitDialog) : PolkitRequest := .initiate dialog.userName

variable (dialog : PolkitDialog)

def begin (call : Nat) (request : BeginRequest) : PolkitDialog × PolkitEffects :=
  let dialog :=
    { dialog with
      userName := request.userName
      mode := if request.passwordless then .confirm else .auth
      question := none
      entry := ""
      entryLive := false
      message := none
      request := some request
      lastCall := some call }
  match dialog.mode with
  -- Nothing to ask, so the dialog goes up now and the conversation waits on the button.
  | .confirm => ({ dialog with isOpen := true }, { redraw := true })
  | .auth => (dialog, { request := some dialog.initiate })

def reset : PolkitDialog :=
  { dialog with
    request := none
    isOpen := false
    question := none
    entry := ""
    entryLive := false
    message := none }

def onAgentEvent : ToSynoik → PolkitDialog × PolkitEffects
  | .begin call request => dialog.begin call request
  | .cancel => (dialog.reset, { redraw := true, close := true })
  | .request prompt echoOn =>
    ({ dialog with
        question := some (cleanQuestion prompt, echoOn)
        entry := ""
        entryLive := true
        isOpen := true }, { redraw := true })
  | .showError text =>
    ({ dialog with entry := "", message := some (.error text), isOpen := true },
      { redraw := true })
  | .showInfo text =>
    ({ dialog with entry := "", message := some (.info text), isOpen := true },
      { redraw := true })
  | .completed true =>
    (dialog.reset, { request := some (.done false), redraw := true, close := true })
  | .completed false =>
    let explained := dialog.message.any Message.isError
    ({ dialog with
        message := if explained then dialog.message else some (.error genericFailure)
        entryLive := false
        entry := "" },
      { request := some dialog.initiate, redraw := true, armReset := true, wiggle := !explained })

def onResetTimeout : PolkitDialog × PolkitEffects :=
  if dialog.entryLive then (dialog, {})
  else ({ dialog with question := none }, { redraw := true })

def type (entry : String) : PolkitDialog :=
  if dialog.entryLive then { dialog with entry } else dialog

def authenticate : PolkitDialog × PolkitEffects :=
  if dialog.mode = .confirm then
    (dialog, { request := some dialog.initiate, redraw := true })
  else if !dialog.entryLive || dialog.entry.isEmpty then (dialog, {})
  else
    ({ dialog with entry := "", entryLive := false, message := none },
      { request := some (.respond dialog.entry), redraw := true })

def cancel : PolkitDialog × PolkitEffects :=
  (dialog.reset, { request := some (.done true), redraw := true, close := true })

end PolkitDialog

end Synoik.Polkit
