import XousNet.Codec.Layout

/-! Stream handles over a program's life. A `TcpStream` gets its handle from a
successful `connect_timeout` or `accept` and has no `Drop`: dropping it sends the
network server nothing, so the handle is never released. The messages sent are those
a logging server sees while the operations' own calls run against it. -/
namespace XousNet
namespace TcpStream

/-- The streams a program has made, each with whether it is still live, and the
messages sent to the network server, oldest first. -/
structure Streams where
  streams : List (TcpStream × Bool)
  sent : List Envelope

/-- One call of the program, with the server's reply where there is one. -/
inductive Event
  | connect (addr : SocketAddr) (duration : Duration) (reply : Reply)
  | accept (codes : NetError) (l : TcpListener) (reply : Reply)
  | drop (i : Nat)

variable (network : Nat)

/-- The message an event sends, if any: the envelope of the call its operation makes. -/
def Event.request : Event → Option Envelope
  | .connect addr duration _ => some (connectTimeoutCall network addr duration).envelope
  | .accept codes l _ => some (TcpListener.acceptCall network codes l).envelope
  | .drop _ => none

namespace Streams

/-- One event; `none` when the stream to drop is not live. A connect or an accept runs the
operation's call against a server that answers `reply` and logs what it is sent. -/
def step (σ : Streams) : Event → Option Streams
  | .connect addr duration reply =>
    let (result, sent) := (connectTimeoutCall network addr duration).logged (fun _ => reply) σ.sent
    some ⟨σ.streams ++ (result.toOption.map (·, true)).toList, sent⟩
  | .accept codes l reply =>
    let (result, sent) := (TcpListener.acceptCall network codes l).logged (fun _ => reply) σ.sent
    some ⟨σ.streams ++ (result.toOption.map (·.1, true)).toList, sent⟩
  | .drop i =>
    match σ.streams[i]? with
    | some (s, true) => some ⟨σ.streams.set i (s, false), σ.sent⟩
    | _ => none

def run (σ : Streams) : List Event → Option Streams
  | [] => some σ
  | e :: rest => (σ.step network e).bind (run · rest)

theorem step_sent {σ σ' : Streams} {e : Event} (h : σ.step network e = some σ') :
    σ'.sent = σ.sent ++ (e.request network).toList := by
  cases e with
  | connect => cases h; rfl
  | accept => cases h; rfl
  | drop i =>
    simp only [step] at h
    split at h
    · cases h
      simp [Event.request]
    · cases h

theorem run_sent :
    ∀ {σ σ' : Streams} {events : List Event}, σ.run network events = some σ' →
      σ'.sent = σ.sent ++ events.filterMap (Event.request network)
  | _, _, [], h => by cases h; simp
  | σ, _, e :: rest, h => by
    simp only [run] at h
    cases hs : σ.step network e with
    | none => simp [hs] at h
    | some σ₁ =>
      rw [hs, Option.some_bind] at h
      rw [run_sent h, step_sent network hs, List.filterMap_cons]
      cases e.request network <;> simp

/-- Dropping a stream sends nothing. Over every run of connects, accepts and drops, the
messages sent are the connect and accept requests, in order: no stream handle is ever
released, and none is released twice or while its stream is live. -/
theorem drop_sends_nothing {events : List Event} {σ : Streams}
    (h : (⟨[], []⟩ : Streams).run network events = some σ) :
    σ.sent = events.filterMap (Event.request network) ∧
      ∀ i σ', σ.step network (.drop i) = some σ' → σ'.sent = σ.sent := by
  refine ⟨by simpa using run_sent network h, fun i σ' hd => ?_⟩
  rw [step_sent network hd]
  simp [Event.request]

def connectThenDrop : List Event :=
  [.connect (SocketAddr.new (.v4 (Ipv4Addr.new 10 0 0 5)) 54321) Duration.zero
      (.ok (.memoryReturned none (some 8) scenarioConnect)), .drop 0]

theorem drop_sends_nothing_after_connectThenDrop :
    ∃ σ, (⟨[], []⟩ : Streams).run 0 connectThenDrop = some σ ∧
      σ.sent = connectThenDrop.filterMap (Event.request 0) ∧
      ∀ i σ', σ.step 0 (.drop i) = some σ' → σ'.sent = σ.sent :=
  ⟨_, rfl, drop_sends_nothing 0 rfl⟩

/-- The stream on handle 12 is dropped and the connect request is the only message ever
sent: nothing releases handle 12. -/
theorem dropped_stream_handle_stays_open :
    (⟨[], []⟩ : Streams).run 0 connectThenDrop =
      some ⟨[(⟨12, 8080, 54321, SocketAddr.new (.v4 (Ipv4Addr.new 10 0 0 5)) 54321, 0, 0⟩, false)],
        [connectRequest 0 (SocketAddr.new (.v4 (Ipv4Addr.new 10 0 0 5)) 54321)
          Duration.zero]⟩ := rfl

end Streams
end TcpStream
end XousNet
