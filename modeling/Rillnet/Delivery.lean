import Rillnet.ClientWire
import Rillnet.ServerWire

/-!
# Transfer of frames between endpoints

A decoder at the other end of a connection emits the frames the connection's
queue accepted, each once and in the order of acceptance, and finds nothing
malformed, however the transport cuts the bytes and wherever it stops.
-/

namespace Rillnet

open FrameGrammar (encodeFrames meaning)

/-- What a decoder with the default limit makes of the bytes given to the
transport. -/
structure WriteQueue.Transfers (queue : WriteQueue) : Prop where
  valid : ∀ frame ∈ queue.accepted, validateFrame frame = .none
  emitted : ∀ chunks : List Buffer, chunks.flatten <+: encodeFrames queue.written →
    (FrameGrammar.performAll defaultMaxPayloadSize (chunks.map .push)).2 <+: queue.accepted ∧
      (FrameGrammar.performAll defaultMaxPayloadSize (chunks.map .push)).1.error = none
  whole : ∀ chunks : List Buffer, chunks.flatten = encodeFrames queue.written →
    (FrameGrammar.performAll defaultMaxPayloadSize (chunks.map .push)).2 = queue.written

/-- A queue that keeps its frames in order and holds only valid ones transfers
them. -/
theorem WriteQueue.Conserves.transfers {queue : WriteQueue} (conserves : queue.Conserves)
    (valid : ∀ frame ∈ queue.accepted, validateFrame frame = .none) : queue.Transfers := by
  have written : ∀ frame ∈ queue.written, validateFrame frame = .none :=
    fun frame member => valid frame (conserves.written_initial.subset member)
  refine ⟨valid, ?_, ?_⟩
  · intro chunks initial
    obtain ⟨returned, error, -⟩ := FrameGrammar.pushed_chunks defaultMaxPayloadSize chunks
    obtain ⟨count, -, output, -⟩ := FrameGrammar.meaning_initial_part defaultMaxPayloadSize
      queue.written written chunks.flatten initial
    refine ⟨?_, error.trans (FrameGrammar.meaning_initial_sound defaultMaxPayloadSize queue.written
      written chunks.flatten initial)⟩
    rw [returned, output]
    exact (List.take_prefix count queue.written).trans conserves.written_initial
  · intro chunks all
    obtain ⟨returned, -⟩ := FrameGrammar.pushed_chunks defaultMaxPayloadSize chunks
    rw [returned, all, FrameGrammar.meaning_encoded defaultMaxPayloadSize queue.written written]

section Endpoints

variable {τ : Type} [DecidableEq τ] {ν : τ → Type} {registry : MessageRegistry τ}
variable {codec : Codec τ ν} {limits : WriteQueueLimits}

theorem ClientConnection.Reachable.valid {guard : ClientConnection ν → ClientEvent ν → Prop}
    {maximumStreamId : UInt64} {client : ClientConnection ν}
    (reachable : ClientConnection.Reachable registry codec guard limits maximumStreamId client) :
    ∀ frame ∈ client.writeQueue.accepted, validateFrame frame = .none :=
  fun frame member => (reachable.wired.outgoing frame member).valid reachable.consistent

theorem ServerConnection.Reachable.valid {guard : ServerConnection ν → ServerEvent ν → Prop}
    {server : ServerConnection ν}
    (reachable : ServerConnection.Reachable registry codec guard limits server) :
    ∀ frame ∈ server.writeQueue.accepted, validateFrame frame = .none := by
  obtain ⟨bytes, fed⟩ := reachable.fed
  exact reachable.wired.sound.valid fun frame member => fed.valid member

variable (registry codec) in
/-- Ordered exactly-once transfer. In every run of a client or server connection
every accepted frame passes validation, and a decoder with the default limit that
is fed any initial part of the bytes given to the transport, cut anyhow, emits an
initial part of the accepted frames without an error; fed all the bytes it emits
every frame written. -/
theorem ordered_transfer :
    (∀ (limits : WriteQueueLimits) (maximumStreamId : UInt64) (client : ClientConnection ν),
      ClientConnection.Reachable registry codec Reachability.unguarded limits maximumStreamId
        client → client.writeQueue.Transfers) ∧
    (∀ (limits : WriteQueueLimits) (server : ServerConnection ν),
      ServerConnection.Reachable registry codec Reachability.unguarded limits server →
        server.writeQueue.Transfers) :=
  ⟨fun _ _ _ reachable => reachable.wired.conserves.transfers reachable.valid,
    fun _ _ reachable => reachable.wired.conserves.transfers reachable.valid⟩

end Endpoints

/-- A run of a client that sends a request and a cancellation. -/
def cancelledRequest : Option (ClientConnection fun _ : Unit => UInt8) :=
  Reachability.run (ClientConnection.step byteRegistry byteCodec) Reachability.unguarded
    (ClientConnection.create {} 0xFFFFFFFFFFFFFFFF)
    [.run, .startWriter, .startRequest () 5 () none, .cancel 0 "operation cancelled",
      .resumeWriter, .writeCompleted, .resumeWriter]

/-- The two frames arrive in order, also when the bytes are cut inside the second
header. -/
theorem ordered_transfer_cancelled :
    ∃ client, cancelledRequest = some client ∧ client.writeQueue.written.length = 2 ∧
      (FrameGrammar.performAll defaultMaxPayloadSize
        ([(encodeFrames client.writeQueue.written).take 30,
          (encodeFrames client.writeQueue.written).drop 30].map .push)).2 =
        client.writeQueue.written := by
  have reads : cancelledRequest.map (fun client => client.writeQueue.written.length) = some 2 := by
    decide +kernel
  obtain ⟨client, reached, written⟩ := Option.map_eq_some_iff.mp reads
  have reachable := Reachability.run_reaches _ _ _ _ _ reached
  have transfers := (ordered_transfer byteRegistry byteCodec).1 {} 0xFFFFFFFFFFFFFFFF client reachable
  exact ⟨client, reached, written, transfers.whole _ (by simp)⟩

end Rillnet
