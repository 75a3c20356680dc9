import XousNet.Ipc.Message

/-! `TcpStream` of `sys/xous/net/mod.rs`. Every operation that talks to the network server
builds one message, hands it to `send_message` and decodes the reply: it is a
`SendMessage`, run against the server `send`, any function from messages to replies.
`network` is the connection `services::network()` returns. -/
namespace XousNet

/-- `TcpStream`: the server's handle `fd` for the connection, the ports, `peer_addr`,
and the `read_timeout` and `write_timeout` cells, in milliseconds. -/
structure TcpStream where
  fd : Nat
  localPort : UInt16
  remotePort : UInt16
  peer : SocketAddr
  readMillis : UInt32
  writeMillis : UInt32
deriving DecidableEq

namespace TcpStream
variable (network : Nat)

/-! ## Connecting -/

/-- The page `connect_timeout` lends: port, timeout, IP version and octets. -/
def connectPage (addr : SocketAddr) (duration : Duration) : Page :=
  let portBytes := toLe 2 addr.port.toNat
  let page := ((Page.zero.set 0 (portBytes.getD 0 0)).set 1 (portBytes.getD 1 0)).zipFrom 2
    (toLe 8 (duration.asMillis % 2 ^ 64))
  match addr.ip with
  | .v4 a => (page.set 10 4).zipFrom 11 a.octets
  | .v6 a => (page.set 10 6).zipFrom 11 a.octets

/-- `Message::new_lend_mut(30 /* StdTcpConnect */, buf, None, MemorySize::new(4096))`. -/
def connectRequest (addr : SocketAddr) (duration : Duration) : Envelope :=
  ⟨network, .lendMut 30 (connectPage addr duration) none (nonZero 4096)⟩

/-- What `connect_timeout` makes of the reply: the stream on the handle, local port and
remote port of the page's `u16` words 1 to 3, when word 0 is zero and a length came back. -/
def connected (addr : SocketAddr) : Reply → IoResult TcpStream
  | .ok (.memoryReturned _ valid raw) =>
    if raw.u16s 0 ≠ 0 ∨ valid = none then .error ⟨.invalidInput, "Unable to connect"⟩
    else .ok ⟨(raw.u16s 1).toNat, raw.u16s 2, raw.u16s 3, addr, 0, 0⟩
  | _ => .error ⟨.invalidInput, "Invalid response"⟩

def connectTimeoutCall (addr : SocketAddr) (duration : Duration) : SendMessage (IoResult TcpStream) :=
  ⟨connectRequest network addr duration, connected addr⟩

def connectTimeout (send : Envelope → Reply) (addr : SocketAddr) (duration : Duration) :
    IoResult TcpStream :=
  (connectTimeoutCall network addr duration).run send

def connect (send : Envelope → Reply) (socketaddr : IoResult SocketAddr) : IoResult TcpStream :=
  socketaddr >>= fun addr => connectTimeout network send addr Duration.zero

/-- Modelled from the spec: `TcpStream::from_listener`, which `TcpListener::accept`
calls, is not in the source. §4.3 binds the accepted stream "to that handle, the
listener's local port, and the decoded remote port/address"; §3 starts its timeouts at
"no timeout". -/
def fromListener (fd : Nat) (localPort remotePort : UInt16) (peerAddr : SocketAddr) :
    TcpStream :=
  ⟨fd, localPort, remotePort, peerAddr, 0, 0⟩

/-! ## Timeouts -/

/-- `t.as_millis().min(u32::MAX as u128) as u32`. -/
def timeoutMillis (t : Duration) : UInt32 := UInt32.ofNat (min t.asMillis (2 ^ 32 - 1))

/-- `match t { 0 => None, t => Some(Duration::from_millis(t as u64)) }`. -/
def timeoutOf (t : UInt32) : Option Duration :=
  if t = 0 then none else some (Duration.fromMillis t.toUInt64)

def setReadTimeout (s : TcpStream) (timeout : Option Duration) : TcpStream :=
  { s with readMillis := (timeout.map timeoutMillis).getD 0 }

def setWriteTimeout (s : TcpStream) (timeout : Option Duration) : TcpStream :=
  { s with writeMillis := (timeout.map timeoutMillis).getD 0 }

def readTimeout (s : TcpStream) : IoResult (Option Duration) := .ok (timeoutOf s.readMillis)

def writeTimeout (s : TcpStream) : IoResult (Option Duration) := .ok (timeoutOf s.writeMillis)

/-! ## Reading and writing -/

/-- The request of `peek` and `read` (`StdTcpRx`): a zeroed page, an offset, and
`MemorySize::new(min(buf.len(), 4096))`. -/
def receiveRequest (s : TcpStream) (offset : Option Nat) (buf : List UInt8) : Envelope :=
  ⟨network, .lendMut (opcode 33 s.fd) Page.zero offset (nonZero (min buf.length 4096))⟩

/-- What `peek` and `read` make of the reply: `raw[..length]` copied over the caller's
buffer, `Ok(0)` for no length, and `failure` for any other reply. The result is the call's
return value with the buffer afterwards; `none` is the panic of `raw[..length]` past the
page. -/
def received (failure : String) (buf : List UInt8) : Reply → Option (IoResult Nat × List UInt8)
  | .ok (.memoryReturned _ (some length) raw) =>
    if length ≤ 4096 then some (.ok length, blit buf (raw.raw.take length)) else none
  | .ok (.memoryReturned _ none _) => some (.ok 0, buf)
  | _ => some (.error ⟨.invalidInput, failure⟩, buf)

def receiveCall (s : TcpStream) (offset : Option Nat) (failure : String) (buf : List UInt8) :
    SendMessage (Option (IoResult Nat × List UInt8)) :=
  ⟨receiveRequest network s offset buf, received failure buf⟩

def peekCall (s : TcpStream) (buf : List UInt8) : SendMessage (Option (IoResult Nat × List UInt8)) :=
  s.receiveCall network none "Unable to peek" buf

/-- The call of `read`: the read timeout rides in the offset. -/
def readCall (s : TcpStream) (buf : List UInt8) : SendMessage (Option (IoResult Nat × List UInt8)) :=
  s.receiveCall network (nonZero s.readMillis.toNat) "Unable to read" buf

def peek (s : TcpStream) (send : Envelope → Reply) (buf : List UInt8) :
    Option (IoResult Nat × List UInt8) :=
  (s.peekCall network buf).run send

def read (s : TcpStream) (send : Envelope → Reply) (buf : List UInt8) :
    Option (IoResult Nat × List UInt8) :=
  (s.readCall network buf).run send

def sendPage (buf : List UInt8) : Page := Page.zero.zipFrom 0 buf

/-- `Message::new_lend_mut(31 | (fd << 16) /* StdTcpTx */, range, write timeout,
MemorySize::new(min(buf.len(), 4096)))`. -/
def writeRequest (s : TcpStream) (buf : List UInt8) : Envelope :=
  ⟨network, .lendMut (opcode 31 s.fd) (sendPage buf) (nonZero s.writeMillis.toNat)
    (nonZero (min buf.length 4096))⟩

/-- What `write` makes of the reply: the server leaves a status word and the count sent
in the page. -/
def written : Reply → IoResult Nat
  | .ok (.memoryReturned _ _ raw) =>
    if raw.u32s 0 ≠ 0 then .error ⟨.invalidInput, "Error when sending"⟩
    else .ok (raw.u32s 1).toNat
  | .ok _ => .error ⟨.invalidInput, "Unexpected return value"⟩
  | .error _ => .error ⟨.invalidInput, "Internal error"⟩

def writeCall (s : TcpStream) (buf : List UInt8) : SendMessage (IoResult Nat) :=
  ⟨writeRequest network s buf, written⟩

def write (s : TcpStream) (send : Envelope → Reply) (buf : List UInt8) : IoResult Nat :=
  (s.writeCall network buf).run send

/-! ## Addresses -/

/-- `peer_addr`: the address given at connect or accept, with no round trip. -/
def peerAddr (s : TcpStream) : IoResult SocketAddr := .ok s.peer

/-- `Message::new_lend_mut(35 | (fd << 16) /* StdGetAddress */, range, None, None)`. -/
def socketAddrRequest (s : TcpStream) : Envelope :=
  ⟨network, .lendMut (opcode 35 s.fd) Page.zero none none⟩

/-- What `socket_addr` makes of the `get_addr` page: the version tag, then the octets,
with the stream's local port. -/
def gotAddress (s : TcpStream) : Reply → IoResult SocketAddr
  | .ok (.memoryReturned _ _ raw) =>
    if raw.get 0 = 4 then
      .ok (.v4 ⟨Ipv4Addr.new (raw.get 1) (raw.get 2) (raw.get 3) (raw.get 4), s.localPort⟩)
    else if raw.get 0 = 6 then
      .ok (.v6 ⟨⟨blit (List.replicate 16 0) (raw.raw.drop 1), by simp⟩, s.localPort, 0, 0⟩)
    else .error ⟨.invalidInput, "Internal error"⟩
  | _ => .error ⟨.invalidInput, "Internal error"⟩

def socketAddrCall (s : TcpStream) : SendMessage (IoResult SocketAddr) :=
  ⟨socketAddrRequest network s, s.gotAddress⟩

def socketAddr (s : TcpStream) (send : Envelope → Reply) : IoResult SocketAddr :=
  (s.socketAddrCall network).run send

/-! ## Scalar calls -/

/-- `send_message(self.fd as _, Message::new_blocking_scalar(base | (fd << 16), arg, 0, 0, 0))`:
the per-connection scalar calls go to the connection id `fd`. -/
def scalarRequest (s : TcpStream) (base arg : Nat) : Envelope :=
  ⟨s.fd, .blockingScalar (opcode base s.fd) arg 0 0 0⟩

def shutdownCall (s : TcpStream) : SendMessage (IoResult Unit) := ⟨s.scalarRequest 34 0, scalarUnit⟩

def shutdown (s : TcpStream) (send : Envelope → Reply) : IoResult Unit := s.shutdownCall.run send

def setNodelayCall (s : TcpStream) (enabled : Bool) : SendMessage (IoResult Unit) :=
  ⟨s.scalarRequest 39 (if enabled then 1 else 0), scalarUnit⟩

def setNodelay (s : TcpStream) (send : Envelope → Reply) (enabled : Bool) : IoResult Unit :=
  (s.setNodelayCall enabled).run send

def nodelayCall (s : TcpStream) : SendMessage (IoResult Bool) :=
  ⟨s.scalarRequest 38 0, fun reply => (scalarValue reply).map fun enabled => enabled != 0⟩

def nodelay (s : TcpStream) (send : Envelope → Reply) : IoResult Bool := s.nodelayCall.run send

def setTtlCall (s : TcpStream) (ttl : UInt32) : SendMessage (IoResult Unit) :=
  ⟨s.scalarRequest 37 ttl.toNat, scalarUnit⟩

def setTtl (s : TcpStream) (send : Envelope → Reply) (ttl : UInt32) : IoResult Unit :=
  (s.setTtlCall ttl).run send

/-- `ttl`, sent with the opcode the source writes for it, `38` (commented `StdGetNodelay`). -/
def ttlCall (s : TcpStream) : SendMessage (IoResult UInt32) :=
  ⟨s.scalarRequest 38 0, fun reply => (scalarValue reply).map UInt32.ofNat⟩

def ttl (s : TcpStream) (send : Envelope → Reply) : IoResult UInt32 := s.ttlCall.run send

/-- `duplicate` is `unimpl!()`: no second `TcpStream` ever holds a handle. -/
def duplicate (_ : TcpStream) : IoResult TcpStream := unimpl

end TcpStream
end XousNet
