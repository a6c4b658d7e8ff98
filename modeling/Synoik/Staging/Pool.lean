import Mathlib.Data.List.Sort
import Synoik.Support.Runs

/-!
# The staging pool

Uploads share a few mapped chunks, each upload at its own offset. Whoever reads a range
holds the chunk, and a chunk is started over once the pool alone refers to it. None is the
end of a run that panics; an allocation may fail instead.
-/

namespace Synoik

/-- A mapped buffer. The number tells chunks apart as their addresses do. -/
structure StagingChunk where
  number : Nat
  capacity : Nat
deriving DecidableEq

structure PooledChunk where
  chunk : StagingChunk
  idle : Nat

structure StagingPool where
  chunks : List PooledChunk := []
  current : Option Nat := none
  used : Nat := 0
  align : Nat
  allocations : Nat := 0
  residentBudget : Nat

/-- A range of a chunk that an upload or a reservation holds. -/
structure HeldRange where
  chunk : StagingChunk
  offset : Nat
  len : Nat

namespace StagingPool

def minChunk : Nat := 4194304

def maxPooledChunk : Nat := 16777216

def oversizedIdle : Nat := 2000000000

def oversizedGranularity : Nat := 4194304

def oversizedResidentBytes : Nat := 134217728

def maxPooledChunks : Nat := 4

/-- The longest duration, in nanoseconds. -/
def maxDuration : Nat := 18446744073709551615999999999

/-- The number of device sizes. -/
def deviceSizes : Nat := 18446744073709551616

def checkedAdd (first second : Nat) : Option Nat :=
  if first + second < deviceSizes then some (first + second) else none

def nextMultipleOf (value multiple : Nat) : Option Nat :=
  if multiple = 0 then none
  else if value % multiple = 0 then some value
  else checkedAdd value (multiple - value % multiple)

/-- The pool's own reference, and one for each range that is held. -/
def strongCount (held : List HeldRange) (chunk : StagingChunk) : Nat :=
  1 + held.countP fun range => range.chunk == chunk

variable (pool : StagingPool)

def chunkAt (index : Nat) : Option StagingChunk := pool.chunks[index]?.map PooledChunk.chunk

/-- Marks the chunks that fit in the budget together. -/
def reside (pool : StagingPool) : List Nat → Nat → List Bool → Option (List Bool)
  | [], _, resident => some resident
  | index :: rest, total, resident =>
    (pool.chunkAt index).bind fun chunk =>
    (checkedAdd total chunk.capacity).bind fun sum =>
      if sum > pool.residentBudget then some resident
      else pool.reside rest sum (resident.set index true)

/-- Every ordinary chunk, and the most recently used of the others. -/
def resident : Option (List Bool) :=
  let ordinary := pool.chunks.map fun entry => decide (entry.chunk.capacity ≤ maxPooledChunk)
  let oversized := (List.range pool.chunks.length).filter fun index =>
    ordinary[index]? == some false
  let idle (index : Nat) : Nat := (pool.chunks[index]?.map PooledChunk.idle).getD 0
  pool.reside (oversized.insertionSort fun first second => idle first ≤ idle second) 0 ordinary

/-- Keeps the chunks that a condition on them and their flags picks. -/
def retain (keep : PooledChunk → Bool → Bool) :
    List PooledChunk → List Bool → Option (List PooledChunk)
  | [], _ => some []
  | _ :: _, [] => none
  | entry :: rest, flag :: flags =>
    (retain keep rest flags).map fun kept => if keep entry flag then entry :: kept else kept

/-- Finds the chunk that was filled after the indices moved. -/
def reindex (current : Option StagingChunk) : StagingPool :=
  let found := current.bind fun chunk => pool.chunks.findIdx? fun entry => entry.chunk == chunk
  { pool with current := found, used := if found.isNone then 0 else pool.used }

def currentChunk : Option StagingChunk := pool.current.bind pool.chunkAt

def endFrame (held : List HeldRange) (elapsed : Nat) : Option StagingPool :=
  let aged : StagingPool :=
    { pool with
      chunks := pool.chunks.map fun entry =>
        { entry with idle := min (entry.idle + elapsed) maxDuration } }
  aged.resident.bind fun flags =>
    (retain (fun entry flag => flag || decide (entry.idle ≤ oversizedIdle) ||
      decide (strongCount held entry.chunk > 1)) aged.chunks flags).map fun kept =>
        let pool := { aged with chunks := kept }
        if kept.length < aged.chunks.length then pool.reindex aged.currentChunk else pool

/-- Drops free chunks when there are many. -/
def sweep (held : List HeldRange) : Option StagingPool :=
  if pool.chunks.length < maxPooledChunks then some pool
  else
    pool.resident.bind fun flags =>
      (retain (fun entry flag => (flag && decide (entry.chunk.capacity > maxPooledChunk)) ||
        decide (strongCount held entry.chunk > 1) ||
        decide (some entry.chunk = pool.currentChunk)) pool.chunks flags).map fun kept =>
          { pool with chunks := kept }.reindex pool.currentChunk

/-- Starts the chunk that is filled over once nothing else refers to it. -/
def rewind (held : List HeldRange) : Option StagingPool :=
  match pool.current with
  | none => some pool
  | some index =>
    (pool.chunkAt index).map fun chunk =>
    if strongCount held chunk = 1 then { pool with used := 0 } else pool

/-- Whether the chunk that is filled has room. -/
def currentFits (len : Nat) : Option (Option Nat) :=
  match pool.current with
  | none => some none
  | some index =>
    if len > maxPooledChunk then some none
    else
      (pool.chunkAt index).bind fun chunk =>
        (checkedAdd pool.used len).map fun stop =>
          if stop ≤ chunk.capacity then some index else none

/-- Adds a chunk for an upload, if the device has one. -/
def grow (held : List HeldRange) (len : Nat) (allocates : Bool) :
    Option (StagingPool × Option Nat) :=
  (pool.sweep held).bind fun pool =>
    let capacity :=
      if len > maxPooledChunk then nextMultipleOf len oversizedGranularity
      else some (max len minChunk)
    capacity.map fun capacity =>
      if allocates then
        ({ pool with
          allocations := pool.allocations + 1
          chunks := pool.chunks ++ [⟨⟨pool.allocations, capacity⟩, 0⟩] }, some pool.chunks.length)
      else (pool, none)

/-- The chunk to claim a range of: the one that is filled, a free one or a new one. -/
def choose (held : List HeldRange) (len : Nat) (allocates : Bool) :
    Option (StagingPool × Option Nat) :=
  (pool.currentFits len).bind fun fitting =>
    match fitting with
    | some index => some (pool, some index)
    | none =>
      let free := pool.chunks.findIdx? fun entry =>
      decide (strongCount held entry.chunk = 1) && decide (entry.chunk.capacity ≥ len)
      let found :=
        match free with
        | some index => some (pool, some index)
        | none => pool.grow held len allocates
      found.map fun (pool, index) =>
        match index with
        | some index => ({ pool with used := 0, current := some index }, some index)
        | none => (pool, none)

/-- Bumps past an upload. -/
def bump (index len : Nat) : Option (StagingPool × Nat) :=
  (pool.chunkAt index).bind fun chunk =>
    (checkedAdd pool.used len).bind fun stop =>
      (nextMultipleOf stop pool.align).map fun next =>
        ({ pool with
          chunks := pool.chunks.modify index fun entry => { entry with idle := 0 }
          used := min next chunk.capacity }, pool.used)

/-- The place of a chunk and the offset there, unless the device has no memory. -/
def claim (held : List HeldRange) (len : Nat) (allocates : Bool) :
    Option (StagingPool × Option (Nat × Nat)) :=
  if len = 0 then none
  else
    (pool.rewind held).bind fun pool =>
      (pool.choose held len allocates).bind fun (pool, index) =>
        match index with
        | none => some (pool, none)
        | some index =>
          (pool.bump index len).map fun (pool, offset) => (pool, some (index, offset))

/-- What an upload or a reservation holds of the pool. -/
def hold (held : List HeldRange) (len : Nat) (allocates : Bool) :
    Option (StagingPool × Option HeldRange) :=
  (pool.claim held len allocates).bind fun (pool, claimed) =>
    match claimed with
    | none => some (pool, none)
    | some (index, offset) =>
      (pool.chunkAt index).map fun chunk => (pool, some { chunk, offset, len })

def stageWith (held : List HeldRange) (len : Nat) (allocates : Bool) :
    Option (StagingPool × Option HeldRange) :=
  pool.hold held len allocates

def stage (held : List HeldRange) (data : List UInt8) (allocates : Bool) :
    Option (StagingPool × Option HeldRange) :=
  pool.stageWith held data.length allocates

def reserve (held : List HeldRange) (len : Nat) (allocates : Bool) :
    Option (StagingPool × Option HeldRange) :=
  pool.hold held len allocates

end StagingPool

/-- The pool, and the ranges that are held. -/
structure Staging where
  pool : StagingPool
  held : List HeldRange := []

inductive StagingOp where
  | stage (data : List UInt8) (allocates : Bool)
  | stageWith (len : Nat) (allocates : Bool)
  | reserve (len : Nat) (allocates : Bool)
  | drop (index : Nat)
  | endFrame (elapsed : Nat)

namespace Staging

def new (align residentBudget : Nat) : Staging where
  pool := { align, residentBudget }

def take (staging : Staging) (result : Option (StagingPool × Option HeldRange)) : Option Staging :=
  result.map fun (pool, range) => { pool, held := staging.held ++ range.toList }

def step (staging : Staging) : StagingOp → Option Staging
  | .stage data allocates =>
    staging.take (staging.pool.stage staging.held data allocates)
  | .stageWith len allocates =>
    staging.take (staging.pool.stageWith staging.held len allocates)
  | .reserve len allocates =>
    staging.take (staging.pool.reserve staging.held len allocates)
  | .drop index => some { staging with held := staging.held.eraseIdx index }
  | .endFrame elapsed =>
    (staging.pool.endFrame staging.held elapsed).map fun pool => { staging with pool }

end Staging

end Synoik
