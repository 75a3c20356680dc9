import XousNet.Wire.Bytes

/-! The `std::net` and `core::time` values the shim marshals: IP addresses by their
octets, socket addresses, and `Duration` with its millisecond views. -/
namespace XousNet

def toBe (s : UInt16) : List UInt8 := (toLe 2 s.toNat).reverse

def u16FromBe (bs : List UInt8) : UInt16 := UInt16.ofNat (fromLe bs.reverse)

def u16FromLe (bs : List UInt8) : UInt16 := UInt16.ofNat (fromLe bs)

theorem toNat_u16FromLe {bs : List UInt8} (h : bs.length = 2) :
    (u16FromLe bs).toNat = fromLe bs := by
  have := fromLe_lt bs
  rw [h] at this
  exact Nat.mod_eq_of_lt this

theorem toLe_u16FromLe {bs : List UInt8} (h : bs.length = 2) : toLe 2 (u16FromLe bs).toNat = bs := by
  rw [toNat_u16FromLe h, ← h, toLe_fromLe]

theorem u16FromLe_toLe (p : UInt16) : u16FromLe (toLe 2 p.toNat) = p := by
  have hp : p.toNat < 2 ^ 16 := p.toBitVec.isLt
  apply UInt16.toNat.inj
  show fromLe (toLe 2 p.toNat) % 2 ^ 16 = p.toNat
  rw [fromLe_toLe]
  omega

theorem toBe_u16FromBe {bs : List UInt8} (h : bs.length = 2) : toBe (u16FromBe bs) = bs := by
  have hr : bs.reverse.length = 2 := by simpa using h
  show (toLe 2 (u16FromLe bs.reverse).toNat).reverse = bs
  rw [toLe_u16FromLe hr, List.reverse_reverse]

/-- `Ipv4Addr`, stored as its `octets()`. -/
structure Ipv4Addr where
  octets : List UInt8
  length_octets : octets.length = 4
deriving DecidableEq

theorem Ipv4Addr.ext_octets {a b : Ipv4Addr} (h : a.octets = b.octets) : a = b := by
  cases a
  cases b
  simp_all

def Ipv4Addr.new (a b c d : UInt8) : Ipv4Addr := ⟨[a, b, c, d], rfl⟩

/-- `Ipv6Addr`, stored as its sixteen `octets()` in network order; `From<[u8; 16]>`
is the constructor. -/
structure Ipv6Addr where
  octets : List UInt8
  length_octets : octets.length = 16
deriving DecidableEq

theorem Ipv6Addr.ext_octets {a b : Ipv6Addr} (h : a.octets = b.octets) : a = b := by
  cases a
  cases b
  simp_all

/-- `Ipv6Addr::new(a, b, c, d, e, f, g, h)`: each segment stored big-endian. -/
def Ipv6Addr.new (a b c d e f g h : UInt16) : Ipv6Addr :=
  ⟨[a, b, c, d, e, f, g, h].flatMap toBe, by simp [toBe]⟩

inductive IpAddr
  | v4 (a : Ipv4Addr)
  | v6 (a : Ipv6Addr)
deriving DecidableEq

namespace IpAddr

/-- The version tag the wire layouts carry (`4` or `6`). -/
def version : IpAddr → UInt8
  | .v4 _ => 4
  | .v6 _ => 6

def octets : IpAddr → List UInt8
  | .v4 a => a.octets
  | .v6 a => a.octets

theorem length_octets_le (ip : IpAddr) : ip.octets.length ≤ 16 := by
  cases ip with
  | v4 a => simp [octets, a.length_octets]
  | v6 a => simp [octets, a.length_octets]

end IpAddr

structure SocketAddrV4 where
  ip : Ipv4Addr
  port : UInt16
deriving DecidableEq

structure SocketAddrV6 where
  ip : Ipv6Addr
  port : UInt16
  flowinfo : UInt32
  scopeId : UInt32
deriving DecidableEq

inductive SocketAddr
  | v4 (a : SocketAddrV4)
  | v6 (a : SocketAddrV6)
deriving DecidableEq

namespace SocketAddr

/-- `SocketAddr::new(ip, port)`; a V6 address gets flow info and scope id `0`. -/
def new : IpAddr → UInt16 → SocketAddr
  | .v4 a, port => .v4 ⟨a, port⟩
  | .v6 a, port => .v6 ⟨a, port, 0, 0⟩

def ip : SocketAddr → IpAddr
  | .v4 a => .v4 a.ip
  | .v6 a => .v6 a.ip

def port : SocketAddr → UInt16
  | .v4 a => a.port
  | .v6 a => a.port

@[simp] theorem ip_new (ip : IpAddr) (port : UInt16) : (new ip port).ip = ip := by
  cases ip <;> rfl

@[simp] theorem port_new (ip : IpAddr) (port : UInt16) : (new ip port).port = port := by
  cases ip <;> rfl

end SocketAddr

/-- `core::time::Duration`: whole seconds and the nanoseconds below one second. -/
structure Duration where
  secs : UInt64
  nanos : Nat
  nanos_lt : nanos < 1000000000

namespace Duration

def zero : Duration := ⟨0, 0, by decide⟩

/-- `Duration::as_millis`, a `u128`. -/
def asMillis (d : Duration) : Nat := d.secs.toNat * 1000 + d.nanos / 1000000

def fromMillis (ms : UInt64) : Duration :=
  ⟨UInt64.ofNat (ms.toNat / 1000), ms.toNat % 1000 * 1000000, by omega⟩

end Duration
end XousNet
