import Synoik.Staging.Pool

/-!
# Shared-memory uploads of one surface

A commit's pixels reach the cached texture on the frame, or through a worker that
copies a big buffer into staging while the frames go on. Each surface has its
own cache entry and its own copy in flight, so one surface is the whole state.
Uploads that were queued to the texture count as done.
-/

namespace Synoik.Shm

inductive Fourcc where
  | argb8888 | xrgb8888 | abgr8888 | xbgr8888
  deriving DecidableEq

structure Size where
  w : Int
  h : Int
  deriving DecidableEq

structure Rect where
  x : Int
  y : Int
  w : Int
  h : Int
  deriving DecidableEq

abbrev Point := Int × Int

abbrev Rect.Covers (rect : Rect) (p : Point) : Prop :=
  rect.x ≤ p.1 ∧ p.1 < rect.x + rect.w ∧ rect.y ≤ p.2 ∧ p.2 < rect.y + rect.h

def Size.bounds (size : Size) : Rect := ⟨0, 0, size.w, size.h⟩

/-- The intersection, unless it is empty. -/
def Rect.clamp (bounds rect : Rect) : Option Rect :=
  let x := max bounds.x rect.x
  let y := max bounds.y rect.y
  let right := min (bounds.x + bounds.w) (rect.x + rect.w)
  let bottom := min (bounds.y + bounds.h) (rect.y + rect.h)
  if x < right ∧ y < bottom then some ⟨x, y, right - x, bottom - y⟩ else none

def Rect.merge (a b : Rect) : Rect :=
  let x := min a.x b.x
  let y := min a.y b.y
  ⟨x, y, max (a.x + a.w) (b.x + b.w) - x, max (a.y + a.h) (b.y + b.h) - y⟩

def maxDamageRegions : Nat := 32

/-- The rectangles to copy for the damage; `none` for the whole buffer. -/
def damageRegions (damage : List Rect) (size : Size) : Option (List Rect) :=
  let clamped := damage.filterMap size.bounds.clamp
  if size.bounds ∈ clamped then none
  else match clamped with
    | [] => some []
    | first :: rest =>
      if maxDamageRegions < clamped.length then
        let bbox := rest.foldl Rect.merge first
        if bbox = size.bounds then none else some [bbox]
      else some clamped

def offThreadMinBytes : Int := StagingPool.maxPooledChunk

def copyBytes (damage : List Rect) (size : Size) : Int :=
  match damageRegions damage size with
  | some regions => (regions.map fun rect => rect.w * rect.h * 4).foldr (· + ·) 0
  | none => size.w * size.h * 4

variable {Buffer Value : Type*} [Inhabited Value]

structure Texture (Value : Type*) where
  size : Size
  format : Fourcc
  pixels : Point → Value

structure CacheEntry (Value : Type*) where
  tex : Texture Value
  carry : List Rect

structure Deferred (Buffer : Type*) where
  buffer : Buffer
  size : Size
  damage : List Rect

structure InFlight (Buffer : Type*) extends Deferred Buffer where
  next : Option (Deferred Buffer)

/-- What the worker holds: the rows it has copied so far, and how many commits
there had been when it was given the job. -/
structure Job (Buffer Value : Type*) where
  buffer : Buffer
  staged : Point → Value
  rows : Int
  started : Nat

/-- A copy that was queued into the texture, beside the buffer it was read from. -/
structure Landing (Value : Type*) where
  size : Size
  started : Nat
  committed : Nat
  staged : Point → Value
  content : Point → Value

/-- The size of a buffer, and its format if it is a supported one. -/
structure BufferData where
  size : Size
  format : Option Fourcc

/-- `imported` says that the surface has a texture for its buffer, `reported` is
the damage since then, and `shown` what that buffer held. -/
structure State (Buffer Value : Type*) where
  content : Buffer → Point → Value
  attached : Option Buffer := none
  imported : Bool := false
  reported : List Rect := []
  shown : Option (Buffer × (Point → Value)) := none
  uploads : Bool := false
  entry : Option (CacheEntry Value) := none
  flight : Option (InFlight Buffer) := none
  jobs : List (Job Buffer Value) := []
  commits : Nat := 0
  committed : Buffer → Nat := fun _ => 0
  landings : List (Landing Value) := []

/-- What the machine answers while a request is served. -/
structure Answers where
  accessible : Bool := true
  reserves : Bool := true
  fitsPartly : Bool := true
  writes : Bool := true

namespace State

variable (state : State Buffer Value)

def deferShmUpload (copy : Deferred Buffer) : State Buffer Value :=
  let waiting (flight : InFlight Buffer) := (flight.next.map Deferred.damage).getD []
  { state with flight := state.flight.map fun flight =>
      { flight with
        next := some { copy with damage := copy.damage ++ waiting flight } } }

def startShmUpload (copy : Deferred Buffer) (answers : Answers) : Option (State Buffer Value) :=
  if state.uploads ∧ copy.size.w * copy.size.h * 4 ≠ 0 ∧ answers.reserves then
    some { state with
      flight := some { copy with next := none }
      jobs := state.jobs ++ [⟨copy.buffer, default, 0, state.commits⟩] }
  else none

/-- The regions of the buffer, or all of it, into the cached texture. -/
def reupload (entry : CacheEntry Value) (buffer : Buffer)
    (regions : Option (List Rect)) : State Buffer Value :=
  let pixels p :=
    if regions.all fun rects => rects.any fun rect => rect.Covers p then
      state.content buffer p
    else entry.tex.pixels p
  { state with entry := some { entry with tex := { entry.tex with pixels } } }

/-- The cached texture is right for the buffer. -/
def refresh (entry : CacheEntry Value) (copy : Deferred Buffer) (answers : Answers) :
    Bool × State Buffer Value :=
  if state.flight.isSome then (true, state.deferShmUpload copy)
  else
    let off := if offThreadMinBytes < copyBytes copy.damage copy.size then
      state.startShmUpload copy answers else none
    match off, damageRegions copy.damage copy.size with
    | some state, _ => (true, state)
    | none, some [] => (true, state)
    | none, regions =>
      if answers.writes then
        (true, state.reupload entry copy.buffer
          (if answers.fitsPartly then regions else none))
      else (false, state)

def freshImport (buffer : Buffer) (size : Size) (fourcc : Fourcc) (answers : Answers) :
    Bool × State Buffer Value :=
  if answers.writes then
    (true, { state with
      entry := some ⟨⟨size, fourcc, state.content buffer⟩, []⟩
      flight := state.flight.map fun flight => { flight with next := none } })
  else (false, state)

variable (data : Buffer → BufferData)

/-- The cached texture, if it has the size and format of the buffer. -/
def reusable (buffer : Buffer) : Option (CacheEntry Value) :=
  state.entry.filter fun entry =>
    entry.tex.size = (data buffer).size ∧ some entry.tex.format = (data buffer).format

/-- The carried damage is taken out of the entry before anything else. -/
def importShmBuffer (buffer : Buffer) (damage : List Rect) (answers : Answers) :
    Bool × State Buffer Value :=
  let carry := (state.entry.map CacheEntry.carry).getD []
  let state := { state with entry := state.entry.map ({ · with carry := [] }) }
  match answers.accessible, (data buffer).format with
  | true, some fourcc =>
    match state.reusable data buffer with
    | some entry =>
      state.refresh entry ⟨buffer, (data buffer).size, damage ++ carry⟩ answers
    | none => state.freshImport buffer (data buffer).size fourcc answers
  | _, _ => (false, state)

def carryShmDamage (damage : List Rect) : State Buffer Value :=
  { state with entry := state.entry.map fun entry =>
      { entry with carry := entry.carry ++ damage } }

/-- What becomes of a copy that did not land. -/
def passOn (flight : InFlight Buffer) (answers : Answers) : State Buffer Value :=
  match flight.next with
  | none => state.carryShmDamage flight.damage
  | some next =>
    let next := { next with damage := flight.damage ++ next.damage }
    match state.startShmUpload next answers,
        state.entry.filter fun entry => entry.tex.size = next.size ∧ answers.writes with
    | some state, _ => state
    | none, some entry => state.reupload entry next.buffer none
    | none, none => state.carryShmDamage next.damage

variable [DecidableEq Buffer]

/-- One finished copy; `finished` says that it was not an error. -/
def landShmUpload (job : Job Buffer Value) (rest : List (Job Buffer Value))
    (finished : Bool) (answers : Answers) : State Buffer Value :=
  match state.flight with
  | none => { state with jobs := rest }
  | some flight =>
    let state := { state with jobs := rest, flight := none }
    let current := flight.next.isNone && state.imported &&
      state.attached = some flight.buffer
    match state.entry.filter fun entry =>
        finished ∧ current ∧ entry.tex.size = flight.size ∧ answers.writes with
    | some entry =>
      { state with
        entry := some { entry with tex := { entry.tex with pixels := job.staged } }
        landings := ⟨flight.size, job.started, state.committed flight.buffer,
          job.staged, state.content flight.buffer⟩ :: state.landings }
    | none => state.passOn flight answers

end State

inductive Op (Buffer Value : Type*) where
  | write (buffer : Buffer) (pixels : Point → Value)
  | commit (buffer : Buffer) (damage : List Rect)
  | enableUploads
  | importSurface (answers : Answers)
  | copyBand (rows : Nat)
  | land (finished : Bool) (answers : Answers)

variable [DecidableEq Buffer] (data : Buffer → BufferData)

/-- A client writes a buffer only while it is not attached; a commit clears the
texture the surface had, and only then is the buffer imported. -/
def step (state : State Buffer Value) : Op Buffer Value → Option (State Buffer Value)
  | .write buffer pixels =>
    if state.attached = some buffer then none
    else some { state with content := Function.update state.content buffer pixels }
  | .commit buffer damage =>
    some { state with
      attached := some buffer
      imported := false
      reported := state.reported ++ damage
      commits := state.commits + 1
      committed := Function.update state.committed buffer (state.commits + 1) }
  | .enableUploads => some { state with uploads := true }
  | .importSurface answers =>
    match state.attached, state.imported with
    | some buffer, false =>
      let (ok, state) := state.importShmBuffer data buffer state.reported answers
      some { state with
        imported := ok
        reported := if ok then [] else state.reported
        shown := if ok then some (buffer, state.content buffer) else state.shown }
    | _, _ => none
  | .copyBand rows =>
    match state.jobs with
    | [] => none
    | job :: rest =>
      some { state with jobs := { job with
        rows := job.rows + rows
        staged := fun p =>
          if job.rows ≤ p.2 ∧ p.2 < job.rows + rows then state.content job.buffer p
          else job.staged p } :: rest }
  | .land finished answers =>
    match state.jobs with
    | [] => none
    | job :: rest =>
      if finished ∧ job.rows < (data job.buffer).size.h then none
      else some (state.landShmUpload job rest finished answers)

end Synoik.Shm
