import Mathlib.Data.List.Count
import Synoik.Polkit.Agent

/-!
# Answers in turn

A call is held from its arrival until its one reply. Whatever the agent is told, each of its
steps adds a call, answers a call that it held, or puts the next one on screen once the last
one is answered.
-/

namespace Synoik.Polkit

open List

/-- What reaches the agent. -/
inductive Arrival where
  | begin (request : BeginRequest) (cookie : String)
  | cancel (cookie : String)
  | request (request : PolkitRequest) (spawned : Bool)
  | helper (epoch : Nat) (message : HelperMessage)

/-- The agent, how many calls it was given and all that it sent. -/
structure Desk where
  agent : Agent := {}
  arrived : Nat := 0
  log : List Output := []

namespace Desk

def event (desk : Desk) : Arrival → Event
  | .begin request cookie => .begin ⟨request, cookie, desk.arrived⟩
  | .cancel cookie => .cancel cookie
  | .request request spawned => .request request spawned
  | .helper epoch message => .helper epoch message

def step (desk : Desk) (arrival : Arrival) : Desk :=
  let (agent, outputs) := desk.agent.step (desk.event arrival)
  { agent
    arrived := match arrival with
      | .begin _ _ => desk.arrived + 1
      | _ => desk.arrived
    log := desk.log ++ outputs }

/-- The calls that are on screen or wait. -/
def held (desk : Desk) : List Nat :=
  (desk.agent.current.toList ++ desk.agent.scheduled).map Begin.done

end Desk

def Output.replied : Output → Option Nat
  | reply call _ => some call
  | send _ => none

def Output.shown : Output → Option Nat
  | send (.begin call _) => some call
  | _ => none

def replies (log : List Output) : List Nat := log.filterMap Output.replied

def shown (log : List Output) : List Nat := log.filterMap Output.shown

/-- Whenever a request was put on screen, all before it had been answered. -/
def InTurn (log : List Output) : Prop :=
  ∀ ⦃before call request after⦄, log = before ++ .send (.begin call request) :: after →
    ∀ earlier ∈ shown before, earlier ∈ replies before

variable {log : List Output} {out : Output} {came : Nat} {cur : Option Begin}
  {scheduled : List Begin} {begin : Begin}

lemma replies_append (log rest : List Output) :
    replies (log ++ rest) = replies log ++ replies rest :=
  filterMap_append

lemma inTurn_nil : InTurn [] := by
  intro _ _ _ _ same
  exact absurd same (by simp)

lemma InTurn.snoc (inTurn : InTurn log) (answered : ∀ call req, out = .send (.begin call req) →
      ∀ earlier ∈ shown log, earlier ∈ replies log) : InTurn (log ++ [out]) := by
  intro _ call req post same
  rcases eq_nil_or_concat' post with rfl | ⟨_, last, rfl⟩
  · obtain ⟨rfl, last⟩ := append_inj' same rfl
    exact answered call req (singleton_inj.mp last)
  · rw [← cons_append, ← append_assoc] at same
    exact inTurn (append_inj' same rfl).1

/-- The calls that are held, and what was sent for all calls. -/
structure Sound (arrived : Nat) (current : Option Begin) (scheduled : List Begin)
    (log : List Output) : Prop where
  increasing : ((current.toList ++ scheduled).map Begin.done).Pairwise (· < ·)
  known : ∀ call ∈ (current.toList ++ scheduled).map Begin.done, call < arrived
  once : ∀ call, (replies log).count call =
    if call < arrived ∧ call ∉ (current.toList ++ scheduled).map Begin.done then 1 else 0
  ordered : (shown log).Pairwise (· < ·)
  shownKnown : ∀ call ∈ shown log, call < arrived
  shownFirst : ∀ call ∈ shown log, ∀ begin ∈ scheduled, call < begin.done
  onScreen : ∀ begin, current = some begin → (shown log).getLast? = some begin.done
  inTurn : InTurn log

lemma sound_nil : Sound 0 none [] [] where
  increasing := List.Pairwise.nil
  known := nofun
  once := fun _ => by simp [replies]
  ordered := List.Pairwise.nil
  shownKnown := nofun
  shownFirst := nofun
  onScreen := nofun
  inTurn := inTurn_nil

namespace Sound

section

variable (inv : Sound came cur scheduled log)
include inv

lemma say (silent : out.replied = none)
    (hidden : out.shown = none) : Sound came cur scheduled (log ++ [out]) := by
  have replied : replies (log ++ [out]) = replies log := by simp [replies, silent]
  have put : shown (log ++ [out]) = shown log := by simp [shown, hidden]
  refine ⟨inv.increasing, inv.known, ?_, ?_, ?_, ?_, ?_, ?_⟩
  · rw [replied]
    exact inv.once
  · rw [put]
    exact inv.ordered
  · rw [put]
    exact inv.shownKnown
  · rw [put]
    exact inv.shownFirst
  · rw [put]
    exact inv.onScreen
  · apply inv.inTurn.snoc
    rintro _ _ rfl
    cases hidden

lemma arrive (last : begin.done = came) : Sound (came + 1) cur (scheduled ++ [begin]) log := by
  have held : (cur.toList ++ (scheduled ++ [begin])).map Begin.done =
      (cur.toList ++ scheduled).map Begin.done ++ [came] := by
    rw [← append_assoc, map_append, map_singleton, last]
  refine ⟨?_, ?_, ?_, inv.ordered, ?_, ?_, inv.onScreen, inv.inTurn⟩
  · rw [held, pairwise_append]
    refine ⟨inv.increasing, pairwise_singleton _ _, ?_⟩
    intro call mem other same
    rw [mem_singleton.mp same]
    exact inv.known call mem
  · intro call mem
    rw [held, mem_append, mem_singleton] at mem
    rcases mem with mem | rfl
    · exact Nat.lt_succ_of_lt (inv.known call mem)
    · exact Nat.lt_succ_self _
  · intro call
    rw [inv.once, held]
    refine if_congr ?_ rfl rfl
    rw [mem_append, mem_singleton, not_or]
    constructor
    · rintro ⟨lt, free⟩
      exact ⟨Nat.lt_succ_of_lt lt, free, Nat.ne_of_lt lt⟩
    · rintro ⟨lt, free, other⟩
      exact ⟨Nat.lt_of_le_of_ne (Nat.le_of_lt_succ lt) other, free⟩
  · exact fun call mem => Nat.lt_succ_of_lt (inv.shownKnown call mem)
  · intro call mem other has
    rcases mem_append.mp has with has | has
    · exact inv.shownFirst call mem other has
    · rw [mem_singleton.mp has, last]
      exact inv.shownKnown call mem

lemma leave {pre post : List Begin} (split : cur.toList ++ scheduled = pre ++ begin :: post)
    (kept : Option Begin) (waits : List Begin) (rest : kept.toList ++ waits = pre ++ post)
    (still : ∀ other, kept = some other → cur = some other)
    (fewer : ∀ other ∈ waits, other ∈ scheduled) (dismissed : Bool) :
    Sound came kept waits (log ++ [.reply begin.done dismissed]) := by
  have put : shown (log ++ [.reply begin.done dismissed]) = shown log := by
    simp [shown, Output.shown]
  have increasing := inv.increasing
  rw [split, map_append, map_cons, pairwise_append, pairwise_cons] at increasing
  obtain ⟨one, ⟨last, third⟩, across⟩ := increasing
  have gone : begin.done ∉ (pre ++ post).map Begin.done := by
    rw [map_append, mem_append, not_or]
    refine ⟨fun has => ?_, fun has => Nat.lt_irrefl _ (last _ has)⟩
    exact Nat.lt_irrefl _ (across _ has _ (.head _))
  have mem_split (call : Nat) : call ∈ (cur.toList ++ scheduled).map Begin.done ↔
        call = begin.done ∨ call ∈ (pre ++ post).map Begin.done := by
    rw [split, map_append, map_cons, mem_append, mem_cons, map_append, mem_append]
    exact or_left_comm
  refine ⟨?_, ?_, ?_, ?_, ?_, ?_, ?_, ?_⟩
  · rw [rest, map_append, pairwise_append]
    exact ⟨one, third, fun call has other later =>
      across call has other (.tail _ later)⟩
  · intro call mem
    rw [rest] at mem
    exact inv.known call ((mem_split call).mpr (Or.inr mem))
  · intro call
    rw [replies_append, count_append, inv.once, rest]
    have old := inv.known begin.done ((mem_split _).mpr (Or.inl rfl))
    have single : replies [.reply begin.done dismissed] = [begin.done] := rfl
    rw [single, count_singleton]
    simp only [mem_split]
    by_cases same : call = begin.done
    · subst same
      have held : ¬ (begin.done < came ∧ ¬ (begin.done = begin.done ∨
          begin.done ∈ (pre ++ post).map Begin.done)) := fun both => both.2 (Or.inl rfl)
      rw [if_neg held, if_pos (beq_self_eq_true _), if_pos ⟨old, gone⟩]
    · have other : ¬ (begin.done == call) = true := by simpa using fun equal => same equal.symm
      rw [if_neg other, Nat.add_zero]
      simp [same]
  · rw [put]
    exact inv.ordered
  · rw [put]
    exact inv.shownKnown
  · rw [put]
    exact fun call mem other has => inv.shownFirst call mem other (fewer other has)
  · rw [put]
    exact fun other same => inv.onScreen other (still other same)
  · exact inv.inTurn.snoc nofun

end

lemma turn (inv : Sound came none (begin :: scheduled) log) :
    Sound came (some begin) scheduled (log ++ [.send (.begin begin.done begin.request)]) := by
  have replied : replies (log ++ [.send (.begin begin.done begin.request)]) = replies log := by
    simp [replies, Output.replied]
  have put : shown (log ++ [.send (.begin begin.done begin.request)]) =
      shown log ++ [begin.done] := by
    simp [shown, Output.shown]
  have increasing := inv.increasing
  refine ⟨inv.increasing, inv.known, ?_, ?_, ?_, ?_, ?_, ?_⟩
  · rw [replied]
    exact inv.once
  · rw [put, pairwise_append]
    refine ⟨inv.ordered, pairwise_singleton _ _, ?_⟩
    intro call mem other same
    rw [mem_singleton.mp same]
    exact inv.shownFirst call mem begin (.head _)
  · intro call mem
    rw [put, mem_append, mem_singleton] at mem
    rcases mem with mem | rfl
    · exact inv.shownKnown call mem
    · exact inv.known _ (.head _)
  · intro call mem other has
    rw [put, mem_append, mem_singleton] at mem
    rcases mem with mem | rfl
    · exact inv.shownFirst call mem other (.tail _ has)
    · exact (pairwise_cons.mp increasing).1 _ (mem_map_of_mem has)
  · intro other same
    cases same
    rw [put]
    exact getLast?_concat
  · apply inv.inTurn.snoc
    intro _ _ _ earlier mem
    -- Nothing that was on screen is held, so it was answered.
    have left : earlier ∉ (none.toList ++ begin :: scheduled).map Begin.done := by
      intro has
      obtain ⟨other, held, same⟩ := mem_map.mp has
      exact absurd same.symm (Nat.ne_of_lt (inv.shownFirst earlier mem other held))
    have once := inv.once earlier
    rw [if_pos ⟨inv.shownKnown earlier mem, left⟩] at once
    exact count_pos_iff.mp (by omega)

end Sound

variable {agent : Agent}

def Agent.Waits (agent : Agent) : Prop := agent.current = none → agent.scheduled = []

/-- What a step of the agent leaves. -/
def Keeps (arrived : Nat) (log : List Output) (result : Agent × List Output) : Prop :=
  Sound arrived result.1.current result.1.scheduled (log ++ result.2) ∧ result.1.Waits

lemma Keeps.cons (keeps : Keeps came (log ++ [out]) (agent, outputs)) :
    Keeps came log (agent, out :: outputs) := by
  obtain ⟨inv, waits⟩ := keeps
  rw [append_assoc] at inv
  exact ⟨inv, waits⟩

section

variable (inv : Sound came agent.current agent.scheduled log)
include inv

lemma Sound.processNext : Keeps came log agent.processNext := by
  unfold Agent.processNext
  split
  next begin rest none waits =>
    rw [none, waits] at inv
    exact ⟨inv.turn, nofun⟩
  next other =>
  refine ⟨by simpa using inv, ?_⟩
  intro none
  rcases waits : agent.scheduled with _ | ⟨begin, rest⟩
  · rfl
  · exact absurd waits (other begin rest none)

lemma Sound.finish (dismissed : Bool) : Keeps came log (agent.finish dismissed) := by
  have next (log : List Output) (inv : Sound came none agent.scheduled log) :
      Keeps came log (Agent.processNext
        { agent with session := none, epoch := agent.epoch + 1, current := none }) :=
    Sound.processNext inv
  unfold Agent.finish
  rcases shown : agent.current with _ | begin
  · rw [shown] at inv
    exact next log inv
  · rw [shown] at inv
    have split : (some begin).toList ++ agent.scheduled = [] ++ begin :: agent.scheduled := rfl
    have left := inv.leave split none agent.scheduled rfl (by simp) (fun _ has => has)
      dismissed
    exact (next _ left).cons

lemma Sound.cancel
    (waits : agent.Waits) (cookie : String) : Keeps came log (agent.cancel cookie) := by
  unfold Agent.cancel
  split
  · exact ((inv.say rfl rfl).finish false).cons
  · rcases got : agent.scheduled.find? fun begin => begin.cookie == cookie with _ | begin
    · have same := eraseP_of_forall_not fun begin has => find?_eq_none.mp got begin has
      rw [same, got]
      exact ⟨by simpa [Agent.answer] using inv, waits⟩
    · obtain ⟨here, pre, post, split, none⟩ := find?_eq_some_iff_append.mp got
      have rest : agent.scheduled.eraseP (fun begin => begin.cookie == cookie) = pre ++ post := by
        rw [split, eraseP_append_right _ (by simpa using none)]
        exact congrArg _ (eraseP_cons_of_pos here)
      have held : agent.current.toList ++ agent.scheduled =
          (agent.current.toList ++ pre) ++ begin :: post := by
        rw [split, append_assoc]
      have left := inv.leave held agent.current (pre ++ post)
        (append_assoc _ _ _).symm (fun _ same => same)
        (fun _ has => by rw [split]; simp at has ⊢; tauto) false
      rw [rest, got]
      refine ⟨left, fun none => ?_⟩
      have empty := waits none
      rw [split] at empty
      simp at empty

lemma Sound.onRequest (waits : agent.Waits) (req : PolkitRequest) (spawned : Bool) :
    Keeps came log (agent.onRequest req spawned) := by
  have idle : Sound came agent.current agent.scheduled (log ++ []) := by rwa [append_nil]
  cases req with
  | initiate =>
    dsimp only [Agent.onRequest, Agent.initiate]
    split
    · exact ⟨idle, waits⟩
    · split
      · exact ⟨idle, waits⟩
      · exact ⟨inv.say rfl rfl, waits⟩
  | respond => exact ⟨idle, waits⟩
  | done dismissed => exact inv.finish dismissed

lemma Sound.onHelper (waits : agent.Waits) (epoch : Nat) (msg : HelperMessage) :
    Keeps came log (agent.onHelper epoch msg) := by
  unfold Agent.onHelper
  split
  · exact ⟨by rwa [append_nil], waits⟩
  · cases msg with
    | prompt | error | info | completed => exact ⟨inv.say rfl rfl, waits⟩

end

def Desk.Sound (desk : Desk) : Prop :=
  Polkit.Sound desk.arrived desk.agent.current desk.agent.scheduled desk.log ∧ desk.agent.Waits

variable {desk : Desk}

lemma Desk.Sound.step (inv : desk.Sound) (arrival : Arrival) : (desk.step arrival).Sound := by
  obtain ⟨inv, waits⟩ := inv
  cases arrival with
  | begin req cookie =>
    have came : Polkit.Sound (desk.arrived + 1) desk.agent.current
        (desk.agent.scheduled ++ [⟨req, cookie, desk.arrived⟩]) desk.log := inv.arrive rfl
    exact Polkit.Sound.processNext came
  | cancel cookie => exact inv.cancel waits cookie
  | request req spawned => exact inv.onRequest waits req spawned
  | helper epoch msg => exact inv.onHelper waits epoch msg

lemma Desk.sound_foldl (arrivals : List Arrival) (inv : desk.Sound) :
    (arrivals.foldl Desk.step desk).Sound := by
  induction arrivals generalizing desk with
  | nil => exact inv
  | cons arrival _ ih => exact ih (inv.step arrival)

/-- A call has no reply while it is held and one reply from then on. Calls are put on screen
as they arrived, the last of them is the current one, and each only when all before it have
their replies. None waits while nothing is on screen. -/
theorem answered_once_in_turn (arrivals : List Arrival) :
    let desk := arrivals.foldl Desk.step {}
    (∀ call, (replies desk.log).count call =
      if call < desk.arrived ∧ call ∉ desk.held then 1 else 0) ∧
    (shown desk.log).Pairwise (· < ·) ∧ (∀ begin, desk.agent.current = some begin →
      (shown desk.log).getLast? = some begin.done) ∧
    InTurn desk.log ∧ (desk.agent.current = none → desk.agent.scheduled = []) := by
  obtain ⟨sound, waits⟩ := Desk.sound_foldl arrivals
    (show Desk.Sound {} from ⟨sound_nil, fun _ => rfl⟩)
  exact ⟨sound.once, sound.ordered, sound.onScreen, sound.inTurn, waits⟩

end Synoik.Polkit
