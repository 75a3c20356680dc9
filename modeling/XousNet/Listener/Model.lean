import XousNet.Stream.Model

/-! `TcpListener` of `sys/xous/net/tcplistener.rs`. The `handle_count` every duplicate
shares is not part of one listener value: `duplicate` and `drop` take its value and
return the new one, and `Listener/Aliases.lean` runs them on many aliases at once. -/
namespace XousNet

/-- The `NetError` codes the listener compares against. The enum is not in the source,
so its values are a parameter. -/
structure NetError where
  socketInUse : UInt8
  invalid : UInt8
  libraryError : UInt8
  timedOut : UInt8
  wouldBlock : UInt8

/-- `TcpListener`, less its `handle_count: Arc<AtomicUsize>`: the handle, the address
`local` it is bound to, and `nonblocking: Cell<bool>`, which `derive(Clone)` copies. -/
structure TcpListener where
  fd : Nat
  localAddr : SocketAddr
  nonblocking : Bool
deriving DecidableEq

namespace TcpListener
variable (network : Nat) (codes : NetError)

/-! ## Binding -/

/-- The page `bind` lends: port, IP version and octets. -/
def listenPage (addr : SocketAddr) : Page :=
  let portBytes := toLe 2 addr.port.toNat
  let page := (Page.zero.set 0 (portBytes.getD 0 0)).set 1 (portBytes.getD 1 0)
  match addr.ip with
  | .v4 a => (page.set 2 4).zipFrom 3 a.octets
  | .v6 a => (page.set 2 6).zipFrom 3 a.octets

/-- `Message::new_lend_mut(44 /* StdTcpListen */, buf, None, MemorySize::new(4096))`. -/
def bindRequest (addr : SocketAddr) : Envelope :=
  ⟨network, .lendMut 44 (listenPage addr) none (nonZero 4096)⟩

def bindError (errcode : UInt8) : IoError :=
  if errcode = codes.socketInUse then ⟨.resourceBusy, "Socket in use"⟩
  else if errcode = codes.invalid then ⟨.invalidInput, "Port can\x27t be 0 or invalid address"⟩
  else if errcode = codes.libraryError then ⟨.other, "Library error"⟩
  else ⟨.other, "Unable to connect or internal error"⟩

/-- What `bind` makes of the reply: status byte 0, then the handle or the error code in
byte 1. On success `handle_count` is `Arc::new(AtomicUsize::new(1))`. -/
def bound (addr : SocketAddr) : Reply → IoResult TcpListener
  | .ok (.memoryReturned _ valid raw) =>
    if raw.get 0 ≠ 0 ∨ valid = none then .error (bindError codes (raw.get 1))
    else .ok ⟨(raw.get 1).toNat, addr, false⟩
  | _ => .error ⟨.invalidInput, "Invalid response"⟩

def bindCall (addr : SocketAddr) : SendMessage (IoResult TcpListener) :=
  ⟨bindRequest network addr, bound codes addr⟩

def bind (send : Envelope → Reply) (socketaddr : IoResult SocketAddr) : IoResult TcpListener :=
  socketaddr >>= fun addr => (bindCall network codes addr).run send

def socketAddr (l : TcpListener) : IoResult SocketAddr := .ok l.localAddr

/-! ## Accepting -/

/-- The page `accept` lends: byte 0 is `0` when nonblocking and `1` when blocking. -/
def acceptPage (l : TcpListener) : Page := Page.zero.set 0 (if l.nonblocking then 0 else 1)

/-- `Message::new_lend_mut(45 | (fd << 16) /* StdTcpAccept */, range, None, None)`. -/
def acceptRequest (l : TcpListener) : Envelope :=
  ⟨network, .lendMut (opcode 45 l.fd) (acceptPage l) none none⟩

def acceptError (code : UInt8) : IoError :=
  if code = codes.timedOut then ⟨.timedOut, "accept timed out"⟩
  else if code = codes.wouldBlock then ⟨.wouldBlock, "accept would block"⟩
  else if code = codes.libraryError then ⟨.other, "Library error"⟩
  else ⟨.other, "library error"⟩

def acceptedAddr (rr : Page) (port : UInt16) : Option SocketAddr :=
  if rr.get 3 = 4 then
    some (SocketAddr.new (.v4 (Ipv4Addr.new (rr.get 4) (rr.get 5) (rr.get 6) (rr.get 7))) port)
  else if rr.get 3 = 6 then
    some (SocketAddr.new (.v6 (Ipv6Addr.new (u16FromBe (rr.slice 4 6)) (u16FromBe (rr.slice 6 8))
      (u16FromBe (rr.slice 8 10)) (u16FromBe (rr.slice 10 12)) (u16FromBe (rr.slice 12 14))
      (u16FromBe (rr.slice 14 16)) (u16FromBe (rr.slice 16 18)) (u16FromBe (rr.slice 18 20)))) port)
  else none

/-- What `accept` makes of the reply: the new stream gets the handle from bytes 1..3,
the listener's port, and the peer's port from bytes 20..22. -/
def accepted (l : TcpListener) : Reply → IoResult (TcpStream × SocketAddr)
  | .ok (.memoryReturned _ _ rr) =>
    if rr.get 0 ≠ 0 then .error (acceptError codes (rr.get 1))
    else
      let port := u16FromLe (rr.slice 20 22)
      match acceptedAddr rr port with
      | some addr =>
        .ok (TcpStream.fromListener (u16FromLe (rr.slice 1 3)).toNat l.localAddr.port port addr,
          addr)
      | none => .error ⟨.other, "library error"⟩
  | _ => .error ⟨.invalidInput, "Unable to accept"⟩

def acceptCall (l : TcpListener) : SendMessage (IoResult (TcpStream × SocketAddr)) :=
  ⟨acceptRequest network l, accepted codes l⟩

def accept (l : TcpListener) (send : Envelope → Reply) : IoResult (TcpStream × SocketAddr) :=
  (acceptCall network codes l).run send

/-! ## Options and teardown -/

/-- `send_message(services::network(), Message::new_blocking_scalar(base | (fd << 16), arg, 0, 0, 0))`. -/
def scalarRequest (l : TcpListener) (base arg : Nat) : Envelope :=
  ⟨network, .blockingScalar (opcode base l.fd) arg 0 0 0⟩

def setTtlCall (l : TcpListener) (ttl : UInt32) : SendMessage (IoResult Unit) :=
  ⟨scalarRequest network l 37 ttl.toNat, scalarUnit⟩

def setTtl (l : TcpListener) (send : Envelope → Reply) (ttl : UInt32) : IoResult Unit :=
  (setTtlCall network l ttl).run send

/-- `ttl` (`StdGetTtl = 36`). -/
def ttlCall (l : TcpListener) : SendMessage (IoResult UInt32) :=
  ⟨scalarRequest network l 36 0, fun reply => (scalarValue reply).map UInt32.ofNat⟩

def ttl (l : TcpListener) (send : Envelope → Reply) : IoResult UInt32 := (ttlCall network l).run send

def takeError (_ : TcpListener) : IoResult (Option IoError) := .ok none

def setNonblocking (l : TcpListener) (nonblocking : Bool) : TcpListener := { l with nonblocking }

/-- `duplicate`: `handle_count.fetch_add(1)`, then `Ok(self.clone())`. -/
def duplicate (l : TcpListener) (handleCount : Nat) : TcpListener × Nat := (l, handleCount + 1)

/-- `StdTcpListenerClose`: `46 | (fd << 16)`. -/
def closeRequest (l : TcpListener) : Envelope := scalarRequest network l 46 0

/-- `drop`: `handle_count.fetch_sub(1)`, and the close message when that returned `1`.
The reply to the close is only printed. -/
def drop (l : TcpListener) (handleCount : Nat) : Nat × Option Envelope :=
  (handleCount - 1, if handleCount = 1 then some (closeRequest network l) else none)

@[simp] theorem duplicate_fst (l : TcpListener) (hc : Nat) : (l.duplicate hc).1 = l := rfl

@[simp] theorem duplicate_snd (l : TcpListener) (hc : Nat) : (l.duplicate hc).2 = hc + 1 := rfl

@[simp] theorem drop_fst (l : TcpListener) (hc : Nat) : (l.drop network hc).1 = hc - 1 := rfl

@[simp] theorem drop_snd_isSome (l : TcpListener) (hc : Nat) :
    (l.drop network hc).2.isSome = decide (hc = 1) := by
  by_cases h : hc = 1 <;> simp [drop, h]

end TcpListener
end XousNet
