import Synoik.Splash.Calls

/-!
# A password goes to the client that is asked for

The splash prompts for the first of the connections that wait for a password, and what is
typed goes to that one.
-/

namespace Synoik.Plymouth.Server

/-- In every run the password waiters are the connections that wait for one, each with the
prompt of its own request, and the splash shows the prompt of the first. An answer goes
to that one, and no other call answers a password. -/
theorem answers_the_asker {allowedUid : Nat} {splash : Splash} {fates : List (Option Nat)}
    {ops : List ServerOp} {server : Server}
    (run : Runs step (fun _ _ => True) (new allowedUid splash fates) ops server) :
    (server.passwordWaiters.map Prod.fst).Nodup ∧
    (∀ id, id ∈ server.passwordWaiters.map Prod.fst ↔ ∃ connection,
      server.connections id = some connection ∧ connection.waiting = some .password) ∧
    (∀ id text, (id, text) ∈ server.passwordWaiters → ∃ connection,
      server.connections id = some connection ∧
      connection.asked[connection.replies.length]? = some (.password text)) ∧
    server.splash.passwordPrompt =
      server.passwordWaiters.head?.map (fun waiter => Prompt.mk waiter.2) ∧
    (∀ answer, ∃ after, server.step (.answerPassword (some answer)) = some after ∧
      ∀ id connection, server.record id = some connection → ∃ later,
        after.record id = some later ∧ ∃ more, (∀ text, .answer text ∉ more) ∧
          later.replies = connection.replies ++
            (if server.passwordWaiters.head?.map Prod.fst = some id then [.answer answer]
              else []) ++ more) ∧
    ∀ op, (∀ answer, op ≠ .answerPassword (some answer)) → ∃ after, server.step op = some after ∧
      ∀ id connection, server.record id = some connection → ∃ later,
        after.record id = some later ∧ ∃ more, (∀ text, .answer text ∉ more) ∧
          later.replies = connection.replies ++ more := by
  obtain ⟨good, -, prompted⟩ := runs_sound run
  refine ⟨good.waits.distinct, fun _ => good.waits.waiting, fun _ _ => good.waits.prompts,
    prompted, ?_, ?_⟩
  · intro answer
    obtain ⟨after, stepped, -, -, -, replies⟩ := answerPassword_kept good prompted answer
    refine ⟨after, stepped, ?_⟩
    intro id connection recorded
    obtain ⟨later, recorded, more, extended, other⟩ := replies recorded
    refine ⟨later, recorded, more, other, ?_⟩
    rw [extended]
    unfold handed waiters
    rw [List.head?_map]
  · intro op other
    obtain ⟨after, stepped, kept⟩ := step_kept good op other
    refine ⟨after, stepped, ?_⟩
    intro _ _ recorded
    obtain ⟨later, recorded, more, extended, other⟩ := kept.replies recorded
    exact ⟨later, recorded, more, other, extended⟩

/-- Two clients ask for a password after one of them has shown the splash. -/
def twoAsk : List ServerOp :=
  [.accept 0, .accept 0, .onReadable 1 [0x24, 0, 0x2a, 2, 2, 0x61, 0] false,
    .onReadable 2 [0x2a, 2, 2, 0x62, 0] false]

/-- The first of them is prompted for and gets the answer. -/
theorem answers_the_asker_of_two :
    ∃ server after, Runs step (fun _ _ => True) (new 0 {} []) twoAsk server ∧
      server.splash.passwordPrompt = some ⟨some [0x61]⟩ ∧
      server.step (.answerPassword (some [0x78])) = some after ∧
      (after.record 1).map Connection.replies = some [.ack, .answer [0x78]] ∧
      (after.record 2).map Connection.replies = some [] := by
  let server := (runUnder step (fun _ _ => True) twoAsk (new 0 {} [])).get (by decide +kernel)
  have run : Runs step (fun _ _ => True) (new 0 {} []) twoAsk server := runs_get _
  obtain ⟨-, -, -, prompt, answers, -⟩ := answers_the_asker run
  obtain ⟨after, stepped, -⟩ := answers [0x78]
  have same : after = (server.step (.answerPassword (some [0x78]))).get (by decide +kernel) :=
    by simp [stepped]
  refine ⟨server, after, run, prompt.trans (by decide +kernel), stepped, ?_, ?_⟩
  all_goals
    rw [same]
    decide +kernel

end Synoik.Plymouth.Server
