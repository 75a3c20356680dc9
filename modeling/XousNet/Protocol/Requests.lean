import XousNet.Listener.Model

/-! Which message each operation sends. Every stream and listener operation makes one
call; the network server sees only its envelope, so two operations that send the same
envelope cannot be told apart by the server, and a server that splits the id can tell
all the others apart. -/
namespace XousNet
namespace TcpStream
variable (network : Nat) (s : TcpStream)

/-- With no read timeout set, as after every connect and accept, `read` passes the server
the envelope `peek` passes; `ttl` passes the envelope of `nodelay`. For every stream and
buffer, no server can tell these apart. -/
theorem peek_read_and_ttl_nodelay_collide (buf : List UInt8) :
    ((s.setReadTimeout none).readCall network buf).envelope =
        ((s.setReadTimeout none).peekCall network buf).envelope ∧
      s.ttlCall.envelope = s.nodelayCall.envelope ∧
      ((s.setReadTimeout none).peekCall network buf).envelope = receiveRequest network s none buf ∧
      s.nodelayCall.envelope = s.scalarRequest 38 0 :=
  ⟨rfl, rfl, rfl, rfl⟩

end TcpStream

/-! ## What the server reads off a request -/

def Message.id : Message → Nat
  | .lendMut id .. => id
  | .blockingScalar id .. => id

/-- The opcode base and the handle of an id, as the server splits it. -/
def splitId (id : Nat) : Nat × Nat := (id % 2 ^ 16, id >>> 16)

theorem splitId_opcode {base fd : Nat} (hb : base < 2 ^ 16) (hfd : fd < 2 ^ 16) :
    splitId (opcode base fd) = (base, fd) := by
  obtain ⟨h1, h2⟩ := opcode_halves hb hfd
  rw [splitId, h1, h2]

namespace TcpStream

inductive Op
  | read | peek | write | socketAddr | shutdown | setNodelay | nodelay | setTtl | ttl
deriving DecidableEq

inductive Call
  | read (buf : List UInt8)
  | peek (buf : List UInt8)
  | write (buf : List UInt8)
  | socketAddr
  | shutdown
  | setNodelay (enabled : Bool)
  | nodelay
  | setTtl (ttl : UInt32)
  | ttl

def Call.op : Call → Op
  | .read _ => .read
  | .peek _ => .peek
  | .write _ => .write
  | .socketAddr => .socketAddr
  | .shutdown => .shutdown
  | .setNodelay _ => .setNodelay
  | .nodelay => .nodelay
  | .setTtl _ => .setTtl
  | .ttl => .ttl

/-- The message a call sends: the envelope of the operation's own call. -/
def Call.request (network : Nat) (s : TcpStream) : Call → Envelope
  | .read buf => (s.readCall network buf).envelope
  | .peek buf => (s.peekCall network buf).envelope
  | .write buf => (s.writeCall network buf).envelope
  | .socketAddr => (s.socketAddrCall network).envelope
  | .shutdown => s.shutdownCall.envelope
  | .setNodelay enabled => (s.setNodelayCall enabled).envelope
  | .nodelay => s.nodelayCall.envelope
  | .setTtl t => (s.setTtlCall t).envelope
  | .ttl => s.ttlCall.envelope

/-- The two calls whose message is another operation's: a read with no read timeout
sends a peek's, and `ttl` sends `nodelay`'s. -/
def Call.Ambiguous (s : TcpStream) : Call → Prop
  | .read _ => s.readMillis = 0
  | .ttl => True
  | _ => False

instance Call.decAmbiguous (s : TcpStream) : (c : Call) → Decidable (c.Ambiguous s)
  | .read _ => inferInstanceAs (Decidable (s.readMillis = 0))
  | .ttl => isTrue trivial
  | .peek _ | .write _ | .socketAddr | .shutdown | .setNodelay _ | .nodelay | .setTtl _ => isFalse id

/-- What a server learns from a stream request's id and offset: the operation, with a
receive taken for a read when it carries a timeout, and the handle. -/
def decode (e : Envelope) : Option (Op × Nat) :=
  match e.msg, splitId e.msg.id with
  | .lendMut _ _ offset _, (33, fd) => some (if offset.isSome then .read else .peek, fd)
  | .lendMut .., (31, fd) => some (.write, fd)
  | .lendMut .., (35, fd) => some (.socketAddr, fd)
  | .blockingScalar .., (34, fd) => some (.shutdown, fd)
  | .blockingScalar .., (39, fd) => some (.setNodelay, fd)
  | .blockingScalar .., (38, fd) => some (.nodelay, fd)
  | .blockingScalar .., (37, fd) => some (.setTtl, fd)
  | _, _ => none

/-- Every stream request but the ambiguous two decodes to its operation and handle. -/
theorem decode_request (network : Nat) {s : TcpStream} (hs : s.fd < 2 ^ 16) {c : Call}
    (hc : ¬ c.Ambiguous s) : decode (c.request network s) = some (c.op, s.fd) := by
  have split : ∀ base, base < 2 ^ 16 → splitId (opcode base s.fd) = (base, s.fd) :=
    fun _ hb => splitId_opcode hb hs
  cases c with
  | read =>
    have hms : s.readMillis.toNat ≠ 0 := fun h => hc (UInt32.toNat.inj h)
    simp [Call.request, readCall, receiveCall, decode, receiveRequest, Message.id, split, nonZero,
      hms, Call.op]
  | ttl => exact absurd trivial hc
  | _ =>
    simp [Call.request, peekCall, receiveCall, writeCall, socketAddrCall, shutdownCall,
      setNodelayCall, nodelayCall, setTtlCall, decode, receiveRequest, writeRequest,
      socketAddrRequest, scalarRequest, Message.id, split, Call.op]

/-- Two stream calls that are not the ambiguous two and send the same message make the
same operation on the same handle. -/
theorem stream_requests_distinct (network : Nat) {s s' : TcpStream} {c c' : Call}
    (hs : s.fd < 2 ^ 16) (hs' : s'.fd < 2 ^ 16) (hc : ¬ c.Ambiguous s) (hc' : ¬ c'.Ambiguous s')
    (h : c.request network s = c'.request network s') : c.op = c'.op ∧ s.fd = s'.fd := by
  have hd := decode_request network hs hc
  rw [h, decode_request network hs' hc'] at hd
  simpa [eq_comm] using hd

theorem stream_requests_distinct_on_timed_reads :
    let s : TcpStream := ⟨3, 0, 0, SocketAddr.new (.v4 (Ipv4Addr.new 0 0 0 0)) 0, 5, 0⟩
    let s' : TcpStream := ⟨3, 1, 2, SocketAddr.new (.v4 (Ipv4Addr.new 10 0 0 5)) 80, 5, 9⟩
    (Call.read [1]).request 0 s = (Call.read [2]).request 0 s' ∧
      (Call.read [1]).op = (Call.read [2]).op ∧ s.fd = s'.fd :=
  ⟨rfl, stream_requests_distinct 0 (by decide) (by decide) (by decide) (by decide) rfl⟩

end TcpStream

namespace TcpListener

inductive Op
  | accept | setTtl | ttl | close
deriving DecidableEq

inductive Call
  | accept
  | setTtl (ttl : UInt32)
  | ttl
  | close

def Call.op : Call → Op
  | .accept => .accept
  | .setTtl _ => .setTtl
  | .ttl => .ttl
  | .close => .close

/-- The message a call sends: the envelope of the operation's own call; `close` is the
one `drop` of the last alias sends. -/
def Call.request (network : Nat) (l : TcpListener) : Call → Envelope
  | .accept => acceptRequest network l
  | .setTtl t => (setTtlCall network l t).envelope
  | .ttl => (ttlCall network l).envelope
  | .close => closeRequest network l

/-- What a server learns from a listener request's id: the operation and the handle. -/
def decode (e : Envelope) : Option (Op × Nat) :=
  match e.msg, splitId e.msg.id with
  | .lendMut .., (45, fd) => some (.accept, fd)
  | .blockingScalar .., (37, fd) => some (.setTtl, fd)
  | .blockingScalar .., (36, fd) => some (.ttl, fd)
  | .blockingScalar .., (46, fd) => some (.close, fd)
  | _, _ => none

theorem decode_request (network : Nat) {l : TcpListener} (hl : l.fd < 2 ^ 16) (c : Call) :
    decode (c.request network l) = some (c.op, l.fd) := by
  have split : ∀ base, base < 2 ^ 16 → splitId (opcode base l.fd) = (base, l.fd) :=
    fun _ hb => splitId_opcode hb hl
  cases c <;> simp [Call.request, decode, acceptRequest, setTtlCall, ttlCall, scalarRequest,
    closeRequest, Message.id, split, Call.op]

/-- Each listener operation sends its call's message: `accept`, `set_ttl` and `ttl`
decode the reply to it, and `drop` of the last alias sends the close. For listeners on
handles below `2 ^ 16`, two calls that send the same message make the same operation on
the same handle. -/
theorem listener_requests_distinct (network : Nat) (codes : NetError) (l : TcpListener) :
    (∀ send, l.accept network codes send = accepted codes l (send (Call.accept.request network l))) ∧
    (∀ send t, l.setTtl network send t = scalarUnit (send ((Call.setTtl t).request network l))) ∧
    (∀ send, l.ttl network send =
      (scalarValue (send (Call.ttl.request network l))).map UInt32.ofNat) ∧
    (l.drop network 1).2 = some (Call.close.request network l) ∧
    ∀ (l' : TcpListener) (c c' : Call), l.fd < 2 ^ 16 → l'.fd < 2 ^ 16 →
      c.request network l = c'.request network l' → c.op = c'.op ∧ l.fd = l'.fd := by
  refine ⟨fun _ => rfl, fun _ _ => rfl, fun _ => rfl, rfl, fun l' c c' hl hl' h => ?_⟩
  have hd := decode_request network hl c
  rw [h, decode_request network hl' c'] at hd
  simpa [eq_comm] using hd

theorem listener_requests_distinct_on_close :
    let l : TcpListener := ⟨7, SocketAddr.new (.v4 (Ipv4Addr.new 0 0 0 0)) 8080, false⟩
    let l' : TcpListener := ⟨7, SocketAddr.new (.v4 (Ipv4Addr.new 0 0 0 0)) 8080, true⟩
    (l.drop 0 1).2 = some (Call.close.request 0 l) ∧ Call.close.op = Call.close.op ∧ l.fd = l'.fd :=
  have h := listener_requests_distinct 0 ⟨1, 2, 3, 4, 5⟩
    ⟨7, SocketAddr.new (.v4 (Ipv4Addr.new 0 0 0 0)) 8080, false⟩
  ⟨h.2.2.2.1, h.2.2.2.2 ⟨7, SocketAddr.new (.v4 (Ipv4Addr.new 0 0 0 0)) 8080, true⟩ .close .close
    (by decide) (by decide) rfl⟩

end TcpListener
end XousNet
