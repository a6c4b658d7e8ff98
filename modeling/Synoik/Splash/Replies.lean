import Synoik.Splash.Calls

/-!
# Replies come in the order of the requests

A connection that waits for nothing has got a reply to each of its requests, one that
waits to those before the one it waits with. A connection that is dropped takes what it
waits for with it, and so do the requests queued behind.
-/

namespace Synoik.Plymouth

/-- The first of a connection's requests have a reply each, in order. The next one waits
and holds back the others, or there is none. -/
def Connection.InOrder (allowedUid : Nat) (conn : Connection) : Prop :=
  ∃ answered inHand, conn.asked = answered ++ inHand ++ conn.queue ∧
    List.Forall₂ (fun request reply =>
      fits (conn.uid = allowedUid) request reply = true) answered conn.replies ∧
    (conn.waiting = none → inHand = [] ∧ conn.queue = []) ∧
    ∀ waiting, conn.waiting = some waiting →
      ∃ request, inHand = [request] ∧ request.blocks waiting = true

lemma Connection.Flushed.inOrder {allowedUid : Nat} {conn : Connection}
    (flushed : conn.Flushed allowedUid) : conn.InOrder allowedUid := by
  obtain ⟨inHand, ⟨answered, asked, replies⟩, holds⟩ := flushed.order
  refine ⟨answered, inHand, asked, replies, ?_, ?_⟩
  · intro idle
    unfold Connection.Holds at holds
    rw [idle] at holds
    exact ⟨holds, flushed.settled idle⟩
  · intro _ waits
    unfold Connection.Holds at holds
    rw [waits] at holds
    exact holds.2

namespace Server

/-- In every run every call returns. A connection has been sent the replies to its
requests one by one and in their order, up to the one that waits; so has one that is
gone, up to where writing to it failed. -/
theorem replies_in_order {allowedUid : Nat} {splash : Splash} {fates : List (Option Nat)}
    {ops : List ServerOp} {server : Server}
    (run : Runs step (fun _ _ => True) (new allowedUid splash fates) ops server) :
    (∀ op, ∃ after, server.step op = some after) ∧
    (∀ id connection, server.connections id = some connection → connection.InOrder allowedUid ∧
      connection.written = connection.replies.flatMap Reply.encode) ∧
    ∀ id connection, server.gone id = some connection → connection.InOrder allowedUid ∧
      connection.written <+: connection.replies.flatMap Reply.encode := by
  obtain ⟨good, rfl, prompted⟩ := runs_sound run
  refine ⟨?_, ?_, ?_⟩
  · intro op
    obtain ⟨after, stepped, -⟩ := Sound.step ⟨good, rfl, prompted⟩ op
    exact ⟨after, stepped⟩
  · intro id connection present
    obtain ⟨flushed, stays⟩ := good.served List.not_mem_nil present
    exact ⟨flushed.inOrder, flushed.told stays⟩
  · intro _ _ gone
    have flushed := good.dropped gone
    exact ⟨flushed.inOrder, flushed.sent⟩

/-- A client shows the splash and asks for a password and then whether the server is
there. -/
def asksThenPings : List UInt8 := [0x24, 0, 0x2a, 0, 0x50, 0]

/-- While the password waits, the ping behind it does too. -/
theorem replies_in_order_asking : ∃ server connection, Runs step (fun _ _ => True) (new 0 {} [])
        [.accept 0, .onReadable 1 asksThenPings false] server ∧
      server.connections 1 = some connection ∧ connection.InOrder 0 ∧
      connection.replies = [.ack] ∧ connection.written = [0x06] ∧ connection.queue = [.ping] := by
  have run : Runs step (fun _ _ => True) (new 0 {} [])
      [.accept 0, .onReadable 1 asksThenPings false] _ := runs_get (by decide +kernel)
  exact ⟨_, _, run, (Option.some_get (by decide +kernel)).symm,
    ((replies_in_order run).2.1 1 _ (Option.some_get _).symm).1, by decide +kernel,
    by decide +kernel, by decide +kernel⟩

/-- A client that ends its side while the password waits is dropped with a reply to the
first of its three requests only. -/
theorem dropped_unanswered : ∃ server connection, Runs step (fun _ _ => True) (new 0 {} [])
        [.accept 0, .onReadable 1 asksThenPings true] server ∧
      server.connections 1 = none ∧ server.gone 1 = some connection ∧
      connection.asked.length = 3 ∧ connection.replies = [.ack] ∧ connection.written = [0x06] := by
  exact ⟨_, _, runs_get (by decide +kernel), by decide +kernel,
    (Option.some_get (by decide +kernel)).symm, by decide +kernel, by decide +kernel,
    by decide +kernel⟩

end Server

end Synoik.Plymouth
