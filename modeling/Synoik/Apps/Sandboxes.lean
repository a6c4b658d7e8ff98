import Mathlib.Data.List.Dedup
import Synoik.Support.Runs
import Synoik.Support.Table

/-!
# The sandboxes of open windows

A window's sandbox is read from its process once and kept under the pid.
-/

namespace Synoik.Apps

open List

structure RunningWindow where
  id : Nat
  pid : Option Int
deriving DecidableEq

/-- The live processes by pid, each with the name of the app in its `.flatpak-info`, if it is
sandboxed. -/
abbrev Processes := Int → Option (Option String)

def sandboxedAppId (processes : Processes) (pid : Int) : Option String := (processes pid).join

/-- `resolved` is each open window with the sandbox id it was resolved under. -/
structure AppSystem where
  windows : List RunningWindow
  sandboxIds : Table Int (Option String)
  resolved : List (RunningWindow × Option String)

namespace AppSystem

def sandboxIdCached (apps : AppSystem) (pid : Option Int) : Option String :=
  pid.bind fun pid => (apps.sandboxIds.lookup pid).join

/-- The sandbox id of a pid, read through the cache. -/
def sandboxIdFor (processes : Processes) (ids : Table Int (Option String)) :
    Option Int → Option String × Table Int (Option String)
  | none => (none, ids)
  | some pid =>
    match ids.lookup pid with
    | some cached => (cached, ids)
    | none => (sandboxedAppId processes pid, ids.insert pid (sandboxedAppId processes pid))

/-- The windows one after the other, each with its sandbox id. -/
def resolveWindows (processes : Processes) : List RunningWindow → Table Int (Option String) →
      List (RunningWindow × Option String) × Table Int (Option String)
  | [], ids => ([], ids)
  | window :: windows, ids =>
    let (id, ids) := sandboxIdFor processes ids window.pid
    let (resolved, ids) := resolveWindows processes windows ids
    ((window, id) :: resolved, ids)

def recomputeRunning (apps : AppSystem) (processes : Processes) : AppSystem :=
  let (resolved, ids) := resolveWindows processes apps.windows apps.sandboxIds
  { apps with resolved, sandboxIds := ids }

/-- The open windows are replaced while these processes live. -/
def setWindows (apps : AppSystem) (snapshot : Processes × List RunningWindow) : Option AppSystem :=
  if snapshot.2 = apps.windows then some apps
  else some (recomputeRunning { apps with windows := snapshot.2 } snapshot.1)

def fresh : AppSystem := ⟨[], ∅, []⟩

def pids (windows : List RunningWindow) : List Int :=
  windows.flatMap fun window => window.pid.toList

/-- Each open window belongs to a live process, of the sandbox its pid has always had. -/
abbrev NoReuse (sandboxOf : Int → Option String) (_ : AppSystem)
    (snapshot : Processes × List RunningWindow) : Prop :=
  ∀ pid ∈ pids snapshot.2, snapshot.1 pid = some (sandboxOf pid)

/-- The cache holds the pids seen so far, each with its own sandbox. -/
def Cached (sandboxOf : Int → Option String) (seen : List Int) (ids : Table Int (Option String)) :
    Prop :=
  ∀ pid, ids.lookup pid = if pid ∈ seen then some (sandboxOf pid) else none

variable {sandboxOf : Int → Option String} {processes : Processes} {seen : List Int}
  {windows : List RunningWindow} {ids : Table Int (Option String)}

lemma Cached.sandboxIdFor (cached : Cached sandboxOf seen ids) {pid : Option Int}
    (live : ∀ old ∈ pid.toList, processes old = some (sandboxOf old)) :
    (sandboxIdFor processes ids pid).1 = pid.bind sandboxOf ∧
      Cached sandboxOf (seen ++ pid.toList) (AppSystem.sandboxIdFor processes ids pid).2 := by
  cases pid with
  | none =>
    refine ⟨rfl, ?_⟩
    rw [Option.toList_none, append_nil]
    exact cached
  | some pid =>
    dsimp only [AppSystem.sandboxIdFor, sandboxedAppId]
    rw [live pid (mem_singleton_self pid), cached pid]
    by_cases old : pid ∈ seen
    · rw [if_pos old]
      refine ⟨rfl, fun other => ?_⟩
      rw [cached other]
      by_cases same : other = pid <;> simp [same, old]
    · rw [if_neg old]
      refine ⟨rfl, fun other => ?_⟩
      by_cases same : other = pid
      · subst same
        simp
      · rw [AList.lookup_insert_ne same, cached other]
        simp [same]

lemma Cached.mem_keys (cached : Cached sandboxOf seen ids) {pid : Int} :
    pid ∈ ids.keys ↔ pid ∈ seen := by
  rw [← AList.mem_keys, ← AList.lookup_isSome, cached pid]
  split <;> simp [*]

lemma Cached.resolveWindows (cached : Cached sandboxOf seen ids)
    (live : ∀ pid ∈ pids windows, processes pid = some (sandboxOf pid)) :
    (resolveWindows processes windows ids).1 =
        windows.map (fun window => (window, window.pid.bind sandboxOf)) ∧
      Cached sandboxOf (seen ++ pids windows)
        (AppSystem.resolveWindows processes windows ids).2 := by
  induction windows generalizing seen ids with
  | nil =>
    refine ⟨rfl, ?_⟩
    rw [pids, flatMap_nil, append_nil]
    exact cached
  | cons window windows ih =>
    rw [pids, flatMap_cons] at live ⊢
    obtain ⟨own, cached⟩ := cached.sandboxIdFor fun pid mem => live pid (mem_append_left _ mem)
    obtain ⟨rest, cached⟩ := ih cached fun pid mem => live pid (mem_append_right _ mem)
    rw [append_assoc] at cached
    refine ⟨?_, cached⟩
    rw [map_cons, ← own, ← rest]
    rfl

/-- What holds between two snapshots, when these pids have been seen. -/
structure Attributed (sandboxOf : Int → Option String) (apps : AppSystem) (seen : List Int) :
    Prop where
  cached : Cached sandboxOf seen apps.sandboxIds
  shown : pids apps.windows ⊆ seen
  resolved : apps.resolved = apps.windows.map fun window => (window, window.pid.bind sandboxOf)

lemma Attributed.setWindows {apps next : AppSystem} {snapshot : Processes × List RunningWindow}
    (may : NoReuse sandboxOf apps snapshot) (ran : apps.setWindows snapshot = some next)
    (attributed : Attributed sandboxOf apps seen) :
    Attributed sandboxOf next (seen ++ pids snapshot.2) := by
  unfold AppSystem.setWindows at ran
  split at ran
  case isTrue same =>
    cases ran
    refine ⟨fun pid => ?_, fun _ mem => mem_append_left _ (attributed.shown mem),
      attributed.resolved⟩
    -- every pid of the snapshot has been seen
    have old : pid ∈ seen ++ pids snapshot.2 ↔ pid ∈ seen := by
      rw [same, mem_append]
      exact or_iff_left_of_imp fun mem => attributed.shown mem
    rw [attributed.cached pid]
    simp only [old]
  case isFalse =>
    cases ran
    obtain ⟨resolved, cached⟩ := attributed.cached.resolveWindows may
    exact ⟨cached, fun _ mem => mem_append_right _ mem, resolved⟩

/-- As long as no pid is taken over by a process of another sandbox, every window is resolved
under its own process's sandbox; the cache holds no more than the pids of the open windows just
when every pid that ever had a window still has one. -/
theorem attributed_to_own_process {snapshots : List (Processes × List RunningWindow)}
    {apps : AppSystem} (run : Runs setWindows (NoReuse sandboxOf) fresh snapshots apps) :
    apps.resolved = apps.windows.map (fun window => (window, window.pid.bind sandboxOf)) ∧
      (∀ window ∈ apps.windows, apps.sandboxIdCached window.pid = window.pid.bind sandboxOf) ∧
      (apps.sandboxIds.keys.length ≤ (pids apps.windows).dedup.length ↔
        ∀ snapshot ∈ snapshots, pids snapshot.2 ⊆ pids apps.windows) := by
  obtain ⟨cached, shown, resolved⟩ :=
    run.follow (Attributed sandboxOf) (fun seen snapshot => seen ++ pids snapshot.2) .setWindows
      (show Attributed sandboxOf fresh [] from ⟨fun _ => rfl, nofun, rfl⟩)
  rw [← flatMap_eq_foldl] at cached shown
  refine ⟨resolved, ?_, ?_, ?_⟩
  · intro window mem
    unfold sandboxIdCached
    cases known : window.pid with
    | none => rfl
    | some pid =>
      have seen := shown (mem_flatMap.mpr ⟨window, mem, Option.mem_toList.mpr known⟩)
      simp [cached pid, seen]
  · intro few snapshot mem pid held
    have listed : (pids apps.windows).dedup ⊆ apps.sandboxIds.keys := fun _ mem =>
      cached.mem_keys.mpr (shown (mem_dedup.mp mem))
    have all := (subperm_of_subset (nodup_dedup _) listed).perm_of_length_le few
    have seen := cached.mem_keys.mpr (mem_flatMap.mpr ⟨snapshot, mem, held⟩)
    exact mem_dedup.mp (all.mem_iff.mpr seen)
  · intro still
    have listed : apps.sandboxIds.keys ⊆ (pids apps.windows).dedup := by
      intro _ mem
      obtain ⟨snapshot, mem, held⟩ := mem_flatMap.mp (cached.mem_keys.mp mem)
      exact mem_dedup.mpr (still snapshot mem held)
    exact (subperm_of_subset apps.sandboxIds.keys_nodup listed).length_le

/-- Process 7, of this sandbox, is the only one and has these windows. -/
def onlySeven (sandbox : Option String) (ids : List Nat) : Processes × List RunningWindow :=
  (fun pid => if pid = 7 then some sandbox else none, ids.map fun id => ⟨id, some 7⟩)

theorem attributed_to_own_process_seven :
    ∃ apps, fresh.setWindows (onlySeven (some "org.a") [1, 2]) = some apps ∧
      apps.resolved.map Prod.snd = [some "org.a", some "org.a"] := by
  have run : Runs setWindows (NoReuse fun _ => some "org.a") fresh
      [onlySeven (some "org.a") [1, 2]] _ := .cons (by decide) rfl (.nil _)
  refine ⟨_, rfl, ?_⟩
  rw [(attributed_to_own_process run).1]
  rfl

/-- A window of an unsandboxed process is resolved under the sandbox of the process that had its
pid before, and the entry outlives both. -/
theorem reused_pid_keeps_sandbox :
    ∃ apps next, Runs setWindows (fun _ taken => ∀ pid ∈ pids taken.2, (taken.1 pid).isSome)
        fresh [onlySeven (some "org.a") [1], onlySeven none [2]] apps ∧
      apps.resolved.map Prod.snd = [some "org.a"] ∧
      apps.setWindows (onlySeven none []) = some next ∧ next.sandboxIds.keys.length = 1 :=
  ⟨_, _, .cons (by decide) rfl (.cons (by decide) rfl (.nil _)), rfl, rfl, rfl⟩

end AppSystem

end Synoik.Apps
