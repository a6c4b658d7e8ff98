import Mathlib.Data.List.Sort
import Synoik.Support.Keyed

/-!
# The notification store

Sources and their notifications, newest source first, with the queue of banners and the
banner that is shown. Every change returns the closings to report and what the banner
surface has to do. None is the end of a run that panics.
-/

namespace Synoik

inductive Urgency where
  | low
  | normal
  | critical
deriving DecidableEq

def Urgency.rank : Urgency → Nat
  | low => 0
  | normal => 1
  | critical => 2

inductive CloseReason where
  | expired
  | dismissed
  | appClosed
  | undefined

structure PixelIcon where
  width : Nat
  height : Nat
  rgba : List UInt8
deriving DecidableEq

inductive NotificationIcon where
  | themed (name : String)
  | file (path : String)
  | pixels (icon : PixelIcon)
deriving DecidableEq

inductive AppIconRef where
  | themed (names : List String)
  | file (path : String)
  | fallback

/-- How notifications group into a source. -/
inductive SourceKey where
  | desktopEntry (entry : String)
  | pidName (pid : Nat) (name : String)
  | gtkApp (appId : String)
  | shell (name : String)
deriving DecidableEq

inductive ShellAction where
  | openFile (path : String)
  | showInFiles (path : String)
deriving DecidableEq

/-- Which front-end created a notification. -/
inductive NotifKind where
  | fdo
  | shell (actions : List (String × ShellAction)) (defaultAction : Option ShellAction)
  | gtk (appId gtkId : String) (defaultAction : Option String)
deriving DecidableEq

structure NotifyRequest where
  sender : Option String
  pid : Nat
  appName : String
  replacesId : Nat
  desktopEntry : Option String
  sourceIcon : Option NotificationIcon
  appIcon : Option AppIconRef
  title : String
  body : String
  icon : Option NotificationIcon
  actions : List (String × String)
  hasDefaultAction : Bool
  urgency : Urgency
  resident : Bool
  transient : Bool

structure GtkNotifyRequest where
  appId : String
  gtkId : String
  appTitle : String
  appIcon : Option NotificationIcon
  title : String
  body : String
  icon : Option NotificationIcon
  actions : List (String × String)
  defaultAction : Option String
  urgency : Urgency

structure ShellNotifyRequest where
  source : String
  sourceTitle : String
  sourceIcon : Option NotificationIcon
  title : String
  body : String
  icon : Option NotificationIcon
  actions : List (String × ShellAction)
  defaultAction : Option ShellAction
  urgency : Urgency
  transient : Bool

structure Notification where
  id : Nat
  sender : Option String
  title : String
  body : String
  icon : Option NotificationIcon
  actions : List (String × String)
  hasDefaultAction : Bool
  urgency : Urgency
  resident : Bool
  transient : Bool
  acknowledged : Bool
  timestamp : Nat
  kind : NotifKind
deriving DecidableEq

structure Source where
  key : SourceKey
  sender : Option String
  title : String
  icon : Option NotificationIcon
  appIcon : Option AppIconRef
  notifications : List Notification

namespace Source

def empty (key : SourceKey) (sender : Option String) : Source :=
  { key, sender, title := "", icon := none, appIcon := none, notifications := [] }

def holds (source : Source) (id : Nat) : Bool :=
  source.notifications.any fun notification => notification.id == id

end Source

structure ClosedSignal where
  id : Nat
  reason : CloseReason
  sender : Option String

/-- What the banner surface must do after a change. -/
inductive BannerEffect where
  | queueChanged
  | refreshCurrent
  | hideCurrent
deriving DecidableEq

structure Effects where
  closed : List ClosedSignal := []
  banner : Option BannerEffect := none

/-- Folds later effects into earlier ones. A banner that is gone stays gone. -/
def Effects.merge (into other : Effects) : Effects where
  closed := into.closed ++ other.closed
  banner :=
    match other.banner with
    | none => into.banner
    | some banner =>
      if into.banner = some .hideCurrent then into.banner else some banner

structure NotificationStore where
  sources : List Source := []
  bannerQueue : List Nat := []
  currentBanner : Option Nat := none
  nextId : Nat := 1

/-- The id names a live notification of another sender. -/
structure InvalidId where

def maxNotificationsPerSource : Nat := 10

def maxNotificationsInQueue : Nat := 3

def maxId : Nat := 4294967295

namespace NotificationStore

def notifications (store : NotificationStore) : List Notification :=
  store.sources.flatMap Source.notifications

def find (store : NotificationStore) (id : Nat) : Option Notification :=
  store.notifications.find? fun notification => notification.id == id

variable (store : NotificationStore) (id : Nat)

def changeSource (change : Source → Source) : NotificationStore :=
  { store with sources := Keyed.changeFirst (fun source => source.holds id) change store.sources }

def change (store : NotificationStore) (id : Nat) (change : Notification → Notification) :
    NotificationStore :=
  store.changeSource id fun source =>
    { source with
      notifications :=
        Keyed.changeFirst (fun notification => notification.id == id) change source.notifications }

def findGtk (appId gtkId : String) : Option Notification :=
  store.notifications.find? fun notification =>
    match notification.kind with
    | .gtk app id _ => app == appId && id == gtkId
    | _ => false

def urgencyOf : Urgency := ((store.find id).map Notification.urgency).getD .normal

/-- Whether a banner does not come after another. -/
def precedes (first second : Nat) : Prop :=
  (store.urgencyOf second).rank ≤ (store.urgencyOf first).rank

instance (store : NotificationStore) : DecidableRel store.precedes :=
  fun first second =>
    inferInstanceAs (Decidable ((store.urgencyOf second).rank ≤ (store.urgencyOf first).rank))

/-- Sorts by urgency, the most urgent first and equals in their order. -/
def sortQueue : NotificationStore :=
  { store with bannerQueue := store.bannerQueue.insertionSort store.precedes }

/-- The single gate to the banner queue. -/
def requestBanner (showBanners : Bool) : NotificationStore × Option BannerEffect :=
  match store.find id with
  | none => (store, none)
  | some notification =>
    if notification.acknowledged then (store, none)
    else if notification.urgency = .low then (store, none)
    else if !showBanners && notification.urgency ≠ .critical then (store, none)
    else if store.currentBanner = some id then
      (store.change id fun notification => { notification with acknowledged := true },
        some .refreshCurrent)
    else if id ∈ store.bannerQueue then (store.sortQueue, some .queueChanged)
    else
      let count := store.bannerQueue.length + store.currentBanner.toList.length
      if count ≥ maxNotificationsInQueue && notification.urgency ≠ .critical then
        (store, none)
      else
        (sortQueue { store with bannerQueue := store.bannerQueue ++ [id] }, some .queueChanged)

/-- Requests a banner after a change. -/
def announce (showBanners : Bool) (effects : Effects) : NotificationStore × Effects :=
  match store.requestBanner id showBanners with
  | (store, none) => (store, effects)
  | (store, some banner) =>
    (store, { effects with
      banner :=
        if effects.banner = some .hideCurrent ∧ banner ≠ .refreshCurrent then
          some .hideCurrent
        else some banner })

/-- Takes a notification from its source, and the source with its last one. -/
def takeFrom (id : Nat) : List Source → List Source
  | [] => []
  | source :: rest =>
    if source.holds id then
      let remaining :=
        source.notifications.eraseP fun notification => notification.id == id
      if remaining.isEmpty then rest
      else { source with notifications := remaining } :: rest
    else source :: takeFrom id rest

def close (reason : CloseReason) : NotificationStore × Effects :=
  match store.find id with
  | none => (store, {})
  | some notification =>
    let closed : List ClosedSignal := [{ id, reason, sender := notification.sender }]
    let store := { store with sources := takeFrom id store.sources }
    if store.currentBanner = some id then
      ({ store with currentBanner := none }, { closed, banner := some .hideCurrent })
    else if id ∈ store.bannerQueue then
      ({ store with bannerQueue := store.bannerQueue.erase id },
        { closed, banner := some .queueChanged })
    else (store, { closed })

/-- Closes notifications one after the other, on top of earlier effects. -/
def closeAll (reason : CloseReason) :
    List Nat → NotificationStore × Effects → NotificationStore × Effects
  | [], result => result
  | id :: ids, (store, effects) =>
    let (store, closing) := store.close id reason
    closeAll reason ids (store, effects.merge closing)

/-- The oldest notifications of a source that one more would push out. -/
def excess (source : Source) : List Nat :=
  (source.notifications.take
    (source.notifications.length + 1 - maxNotificationsPerSource)).map Notification.id

/-- Makes room for a notification in a source. -/
def evict (key : SourceKey) : NotificationStore × Effects :=
  match store.sources.find? fun source => source.key == key with
  | none => (store, {})
  | some source => closeAll .expired (excess source) (store, {})

/-- Moves a source, or a new one, to the front and changes it. -/
def place (key : SourceKey) (sender : Option String) (change : Source → Source) :
    NotificationStore :=
  { store with
    sources :=
      match store.sources.find? fun source => source.key == key with
      | some source => change source :: store.sources.eraseP fun source => source.key == key
      | none => change (.empty key sender) :: store.sources }

/-- The next id, unless there is none left. -/
def allocate : Option (Nat × NotificationStore) :=
  if store.nextId = maxId then none
  else some (store.nextId, { store with nextId := store.nextId + 1 })

variable (req : NotifyRequest)

/-- What a source is told by a freedesktop notification. -/
def presentFdo (source : Source) : Source :=
  { source with
    sender := req.sender
    title := req.appName
    icon := if req.sourceIcon.isSome then req.sourceIcon else source.icon
    appIcon := if req.appIcon.isSome then req.appIcon else source.appIcon }

def replaceFdo (req : NotifyRequest) (now : Nat) : NotificationStore :=
  (store.change id fun notification =>
    { notification with
      sender := req.sender
      title := req.title
      body := req.body
      icon := req.icon
      actions := req.actions
      hasDefaultAction := req.hasDefaultAction
      urgency := req.urgency
      resident := req.resident
      transient := req.transient
      acknowledged := false
      timestamp := now }).changeSource id (presentFdo req)

def fdoKey : SourceKey :=
  match req.desktopEntry with
  | some entry => .desktopEntry entry
  | none => .pidName req.pid req.appName

def fdoNotification (req : NotifyRequest) (now : Nat) : Notification where
  id := id
  sender := req.sender
  title := req.title
  body := req.body
  icon := req.icon
  actions := req.actions
  hasDefaultAction := req.hasDefaultAction
  urgency := req.urgency
  resident := req.resident
  transient := req.transient
  acknowledged := false
  timestamp := now
  kind := .fdo

/-- Which notification a request replaces: one of its own sender, or one without a
sender. -/
def replaceId : Except InvalidId (Option Nat) :=
  if req.replacesId = 0 then .ok none
  else
    match store.find req.replacesId with
    | none => .ok none
    | some existing =>
      if existing.sender.isNone || existing.sender = req.sender then .ok (some existing.id)
      else .error ⟨⟩

def notify (showBanners : Bool) (now : Nat) :
    Option (NotificationStore × Except InvalidId (Nat × Effects)) :=
  match store.replaceId req with
  | .error invalid => some (store, .error invalid)
  | .ok (some id) =>
    let (store, effects) := (store.replaceFdo id req now).announce id showBanners {}
    some (store, .ok (id, effects))
  | .ok none =>
    store.allocate.map fun (id, store) =>
    let (store, effects) := store.evict (fdoKey req)
    let store := store.place (fdoKey req) req.sender fun source =>
      let source := presentFdo req source
      { source with
        notifications := source.notifications ++ [fdoNotification id req now] }
    let (store, effects) := store.announce id showBanners effects
    (store, .ok (id, effects))

def gtkKind (req : GtkNotifyRequest) : NotifKind := .gtk req.appId req.gtkId req.defaultAction

def replaceGtk (req : GtkNotifyRequest) (now : Nat) : NotificationStore :=
  (store.change id fun notification =>
    { notification with
      title := req.title
      body := req.body
      icon := req.icon
      actions := req.actions
      hasDefaultAction := req.defaultAction.isSome
      urgency := req.urgency
      acknowledged := false
      timestamp := now
      kind := gtkKind req }).changeSource id fun source =>
        { source with title := req.appTitle, icon := req.appIcon }

def gtkNotification (req : GtkNotifyRequest) (now : Nat) : Notification where
  id := id
  sender := none
  title := req.title
  body := req.body
  icon := req.icon
  actions := req.actions
  hasDefaultAction := req.defaultAction.isSome
  urgency := req.urgency
  resident := false
  transient := false
  acknowledged := false
  timestamp := now
  kind := gtkKind req

def addGtk (req : GtkNotifyRequest) (showBanners : Bool) (now : Nat) :
    Option (NotificationStore × Effects) :=
  match store.findGtk req.appId req.gtkId with
  | some existing =>
    some ((store.replaceGtk existing.id req now).announce existing.id showBanners {})
  | none =>
    store.allocate.map fun (id, store) =>
    let (store, effects) := store.evict (.gtkApp req.appId)
    let store := store.place (.gtkApp req.appId) none fun source =>
      { source with
        sender := none
        title := req.appTitle
        icon := req.appIcon
        notifications := source.notifications ++ [gtkNotification id req now] }
    store.announce id showBanners effects

def shellActionKey (index : Nat) : String := "shell-" ++ toString index

def shellNotification (req : ShellNotifyRequest) (now : Nat) : Notification where
  id := id
  sender := none
  title := req.title
  body := req.body
  icon := req.icon
  actions := req.actions.zipIdx.map fun (action, index) => (shellActionKey index, action.1)
  hasDefaultAction := req.defaultAction.isSome
  urgency := req.urgency
  resident := false
  transient := req.transient
  acknowledged := false
  timestamp := now
  kind := .shell
    (req.actions.zipIdx.map fun (action, index) => (shellActionKey index, action.2))
    req.defaultAction

/-- The source of a shell's notification is made before room is made in it, and expected
to be there after. -/
def addShell (req : ShellNotifyRequest) (showBanners : Bool) (now : Nat) :
    Option (NotificationStore × Nat × Effects) :=
  store.allocate.bind fun (id, store) =>
    let key := SourceKey.shell req.source
    let store :=
      if store.sources.any fun source => source.key == key then store
      else { store with sources := .empty key none :: store.sources }
    let (store, effects) := store.evict key
    if store.sources.any fun source => source.key == key then
      let store := store.place key none fun source =>
        { source with
          title := req.sourceTitle
          icon := req.sourceIcon
          notifications := source.notifications ++ [shellNotification id req now] }
      let (store, effects) := store.announce id showBanners effects
      some (store, id, effects)
    else none

def removeGtk (appId gtkId : String) : NotificationStore × Effects :=
  match store.findGtk appId gtkId with
  | some notification => store.close notification.id .appClosed
  | none => (store, {})

def closeChecked (sender : String) : NotificationStore × Except InvalidId Effects :=
  match store.find id with
  | none => (store, .ok {})
  | some notification =>
    if notification.sender.isNone || notification.sender = some sender then
      let (store, effects) := store.close id .appClosed
      (store, .ok effects)
    else (store, .error ⟨⟩)

def isDesktopEntry : SourceKey → Bool
  | .desktopEntry _ => true
  | _ => false

def untrack (sender : String) (source : Source) : Source :=
  { source with
    sender := if source.sender = some sender then none else source.sender
    notifications := source.notifications.map fun notification =>
      if notification.sender = some sender then { notification with sender := none }
      else notification }

def senderVanished (sender : String) : NotificationStore × Effects :=
  let ids := (store.sources.filter fun source =>
    isDesktopEntry source.key && source.sender = some sender).flatMap fun source =>
      source.notifications.map Notification.id
  let (store, effects) := closeAll .appClosed ids (store, {})
  ({ store with sources := store.sources.map (untrack sender) }, effects)

def acknowledgeAll : NotificationStore × Effects :=
  ({ store with
    sources := store.sources.map fun source =>
      { source with
        notifications := source.notifications.map fun notification =>
          { notification with acknowledged := true } }
    bannerQueue := [] },
    if store.bannerQueue.isEmpty then {} else { banner := some .queueChanged })

def clearAll : NotificationStore × Effects :=
  closeAll .dismissed (store.notifications.map Notification.id) (store, {})

/-- Shows the first of some queued notifications that is still unseen. -/
def popFrom (store : NotificationStore) : List Nat → NotificationStore × Option Nat
  | [] => ({ store with bannerQueue := [] }, none)
  | id :: rest =>
    match store.find id with
    | none => popFrom store rest
    | some notification =>
      if notification.acknowledged then popFrom store rest
      else
        ({ store.change id fun notification =>
            { notification with acknowledged := true } with
          bannerQueue := rest
          currentBanner := some id }, some id)

def popNextBanner : NotificationStore × Option Nat :=
  if store.currentBanner.isSome then (store, none) else store.popFrom store.bannerQueue

def activate : NotificationStore × Effects :=
  match store.find id with
  | some notification =>
    if notification.resident then (store, {}) else store.close id .dismissed
  | none => (store, {})

def activateSource : NotificationStore × Effects :=
  match store.sources.find? fun source => source.holds id with
  | none => (store, {})
  | some source =>
    closeAll .dismissed ((source.notifications.filter fun notification =>
    !notification.resident).map Notification.id) (store, {})

def bannerHidden : NotificationStore × Effects :=
  match store.currentBanner with
  | none => (store, {})
  | some id =>
    let store := { store with currentBanner := none }
    match store.find id with
    | some notification =>
      if notification.transient then store.close id .expired else (store, {})
    | none => (store, {})

end NotificationStore

inductive StoreOp where
  | notify (req : NotifyRequest) (now : Nat)
  | addGtk (req : GtkNotifyRequest) (now : Nat)
  | addShell (req : ShellNotifyRequest) (now : Nat)
  | removeGtk (appId gtkId : String)
  | close (id : Nat) (reason : CloseReason)
  | closeChecked (id : Nat) (sender : String)
  | senderVanished (sender : String)
  | acknowledgeAll
  | clearAll
  | popNextBanner
  | activate (id : Nat)
  | activateSource (id : Nat)
  | bannerHidden

namespace NotificationStore

/-- One change, with banners shown or not, and its effects. -/
def step (showBanners : Bool) (store : NotificationStore) :
    StoreOp → Option (NotificationStore × Effects)
  | .notify req now =>
    (store.notify req showBanners now).map fun (store, result) =>
    match result with
    | .ok (_, effects) => (store, effects)
    | .error _ => (store, {})
  | .addGtk req now => store.addGtk req showBanners now
  | .addShell req now =>
    (store.addShell req showBanners now).map fun (store, _, effects) => (store, effects)
  | .removeGtk appId gtkId => some (store.removeGtk appId gtkId)
  | .close id reason => some (store.close id reason)
  | .closeChecked id sender =>
    match store.closeChecked id sender with
    | (store, .ok effects) => some (store, effects)
    | (store, .error _) => some (store, {})
  | .senderVanished sender => some (store.senderVanished sender)
  | .acknowledgeAll => some store.acknowledgeAll
  | .clearAll => some store.clearAll
  | .popNextBanner => some (store.popNextBanner.1, {})
  | .activate id => some (store.activate id)
  | .activateSource id => some (store.activateSource id)
  | .bannerHidden => some store.bannerHidden

end NotificationStore

end Synoik
