import XousNet.Listener.Model

/-! The §6 wire layouts against the code. The pages `connect_timeout` and `bind` lend
are port, timeout, version and octets over zeros, byte for byte; the replies that
`connect_timeout`, `accept` and `socket_addr` decode give back exactly the handle,
ports and address the server wrote. -/
namespace XousNet
open TcpStream TcpListener

/-! ## Request pages -/

theorem Page.setVersion_zeros {p : Page} {pre : List UInt8} {n i : Nat}
    (hp : p.raw = pre ++ List.replicate n 0) (hi : pre.length = i) (hn : 17 ≤ n) (ip : IpAddr) :
    ((p.set i ip.version).zipFrom (i + 1) ip.octets).raw =
      pre ++ [ip.version] ++ ip.octets ++ List.replicate (n - 1 - ip.octets.length) 0 :=
  Page.zipFrom_zeros (Page.set_zeros hp hi (by omega) _) (by simp [hi])
    (by have := ip.length_octets_le; omega)

theorem Page.port_zeros (port : UInt16) :
    ((Page.zero.set 0 ((toLe 2 port.toNat).getD 0 0)).set 1 ((toLe 2 port.toNat).getD 1 0)).raw =
      toLe 2 port.toNat ++ List.replicate 4094 0 := by
  have h1 : (Page.zero.set 0 ((toLe 2 port.toNat).getD 0 0)).raw =
      [] ++ [(toLe 2 port.toNat).getD 0 0] ++ List.replicate (4096 - 1) 0 :=
    Page.set_zeros (show Page.zero.raw = [] ++ List.replicate 4096 0 from rfl) rfl (by omega) _
  have h2 : ((Page.zero.set 0 ((toLe 2 port.toNat).getD 0 0)).set 1
      ((toLe 2 port.toNat).getD 1 0)).raw = [] ++ [(toLe 2 port.toNat).getD 0 0] ++
        [(toLe 2 port.toNat).getD 1 0] ++ List.replicate (4096 - 1 - 1) 0 :=
    Page.set_zeros h1 rfl (by omega) _
  rw [h2]
  rfl

theorem connectPage_eq (addr : SocketAddr) (d : Duration) :
    connectPage addr d = ((((Page.zero.set 0 ((toLe 2 addr.port.toNat).getD 0 0)).set 1
      ((toLe 2 addr.port.toNat).getD 1 0)).zipFrom 2 (toLe 8 (d.asMillis % 2 ^ 64))).set 10
        addr.ip.version).zipFrom 11 addr.ip.octets := by
  simp only [connectPage]
  split <;> simp_all [IpAddr.version, IpAddr.octets]

/-- The connect page is the port, the timeout, the version and the octets, then zeros. -/
theorem connectPage_raw (addr : SocketAddr) (d : Duration) :
    (connectPage addr d).raw = toLe 2 addr.port.toNat ++ toLe 8 (d.asMillis % 2 ^ 64) ++
      [addr.ip.version] ++ addr.ip.octets ++ List.replicate (4085 - addr.ip.octets.length) 0 := by
  rw [connectPage_eq, Page.setVersion_zeros (Page.zipFrom_zeros (Page.port_zeros addr.port)
    (by simp) (by simp)) (by simp) (by simp) addr.ip]
  simp

theorem listenPage_eq (addr : SocketAddr) :
    listenPage addr = (((Page.zero.set 0 ((toLe 2 addr.port.toNat).getD 0 0)).set 1
      ((toLe 2 addr.port.toNat).getD 1 0)).set 2 addr.ip.version).zipFrom 3 addr.ip.octets := by
  simp only [listenPage]
  split <;> simp_all [IpAddr.version, IpAddr.octets]

theorem listenPage_raw (addr : SocketAddr) :
    (listenPage addr).raw = toLe 2 addr.port.toNat ++ [addr.ip.version] ++ addr.ip.octets ++
      List.replicate (4093 - addr.ip.octets.length) 0 := by
  rw [listenPage_eq, Page.setVersion_zeros (Page.port_zeros addr.port) (by simp) (by omega) addr.ip]

/-! ## Replies -/

theorem Page.ipv4_of_slice {p : Page} {a : Nat} (ha : a + 4 ≤ 4096) {ip : Ipv4Addr}
    (h : p.slice a (a + 4) = ip.octets) :
    Ipv4Addr.new (p.get a) (p.get (a + 1)) (p.get (a + 2)) (p.get (a + 3)) = ip :=
  Ipv4Addr.ext_octets (by rw [← h, p.slice_eq_map_get a 4 ha]; rfl)

theorem Page.ipv6_of_slice {p : Page} {a : Nat} (ha : a + 16 ≤ 4096) {ip : Ipv6Addr}
    (h : p.slice a (a + 16) = ip.octets) :
    Ipv6Addr.new (u16FromBe (p.slice a (a + 2))) (u16FromBe (p.slice (a + 2) (a + 4)))
      (u16FromBe (p.slice (a + 4) (a + 6))) (u16FromBe (p.slice (a + 6) (a + 8)))
      (u16FromBe (p.slice (a + 8) (a + 10))) (u16FromBe (p.slice (a + 10) (a + 12)))
      (u16FromBe (p.slice (a + 12) (a + 14))) (u16FromBe (p.slice (a + 14) (a + 16))) = ip := by
  have pair : ∀ i j, j = i + 2 → j ≤ 4096 →
      toBe (u16FromBe (p.slice i j)) = [p.get i, p.get (i + 1)] := fun i j hj hle => by
    subst hj
    rw [toBe_u16FromBe (by rw [p.length_slice hle]; omega), p.slice_eq_map_get _ 2 hle]
    rfl
  apply Ipv6Addr.ext_octets
  rw [← h, p.slice_eq_map_get a 16 ha]
  simp only [Ipv6Addr.new, List.flatMap_cons, List.flatMap_nil, List.append_nil]
  rw [pair a _ rfl (by omega), pair (a + 2) _ rfl (by omega), pair (a + 4) _ rfl (by omega),
    pair (a + 6) _ rfl (by omega), pair (a + 8) _ rfl (by omega), pair (a + 10) _ rfl (by omega),
    pair (a + 12) _ rfl (by omega), pair (a + 14) _ rfl (by omega)]
  rfl

/-- The §6 success reply of `accept` for handle `h`, peer `ip` and port `p`: status `0`
at byte 0, `h` little-endian at 1..3, the version at 3, the octets from 4, `p`
little-endian at 20..22. The other bytes are free. -/
structure AcceptReply (rr : Page) (h : UInt16) (ip : IpAddr) (p : UInt16) : Prop where
  status : rr.get 0 = 0
  handle : rr.slice 1 3 = toLe 2 h.toNat
  version : rr.get 3 = ip.version
  octets : rr.slice 4 (4 + ip.octets.length) = ip.octets
  port : rr.slice 20 22 = toLe 2 p.toNat

theorem acceptedAddr_of_reply {rr : Page} {h p : UInt16} {ip : IpAddr}
    (hr : AcceptReply rr h ip p) : acceptedAddr rr p = some (SocketAddr.new ip p) := by
  have hv := hr.version
  have ho := hr.octets
  cases ip with
  | v4 a =>
    simp only [IpAddr.version, IpAddr.octets, a.length_octets] at hv ho
    simp [acceptedAddr, hv, rr.ipv4_of_slice (by omega) ho]
  | v6 a =>
    simp only [IpAddr.version, IpAddr.octets, a.length_octets] at hv ho
    simp [acceptedAddr, hv, rr.ipv6_of_slice (by omega) ho]

section
variable (network : Nat) (codes : NetError)

theorem accept_of_reply (l : TcpListener) {send : Envelope → Reply} {offset valid : Option Nat}
    {rr : Page} {h p : UInt16} {ip : IpAddr}
    (hs : send (acceptRequest network l) = .ok (.memoryReturned offset valid rr))
    (hr : AcceptReply rr h ip p) :
    accept network codes l send =
      .ok (fromListener h.toNat l.localAddr.port p (SocketAddr.new ip p), SocketAddr.new ip p) := by
  have hfd : u16FromLe (rr.slice 1 3) = h := by rw [hr.handle, u16FromLe_toLe]
  have hport : u16FromLe (rr.slice 20 22) = p := by rw [hr.port, u16FromLe_toLe]
  simp [accept, acceptCall, accepted, hs, hr.status, hport, acceptedAddr_of_reply hr, hfd]

/-- The §6 reply of `socket_addr`: the version at byte 0, the octets from byte 1. -/
structure AddressReply (raw : Page) (ip : IpAddr) : Prop where
  version : raw.get 0 = ip.version
  octets : raw.slice 1 (1 + ip.octets.length) = ip.octets

theorem socketAddr_of_reply (s : TcpStream) {send : Envelope → Reply} {offset valid : Option Nat}
    {raw : Page} {ip : IpAddr} (hs : send (socketAddrRequest network s) =
      .ok (.memoryReturned offset valid raw)) (hr : AddressReply raw ip) :
    TcpStream.socketAddr network s send = .ok (SocketAddr.new ip s.localPort) := by
  have hv := hr.version
  have ho := hr.octets
  cases ip with
  | v4 a =>
    simp only [IpAddr.version, IpAddr.octets, a.length_octets] at hv ho
    simp [TcpStream.socketAddr, socketAddrCall, gotAddress, hs, hv, raw.ipv4_of_slice (by omega) ho,
      SocketAddr.new]
  | v6 a =>
    simp only [IpAddr.version, IpAddr.octets, a.length_octets] at hv ho
    have h6 : (⟨blit (List.replicate 16 0) (raw.raw.drop 1), by simp⟩ : Ipv6Addr) = a := by
      apply Ipv6Addr.ext_octets
      show blit (List.replicate 16 0) (raw.raw.drop 1) = a.octets
      rw [← ho, blit_eq]
      simp [Page.slice, raw.length_raw]
    simp only [TcpStream.socketAddr, socketAddrCall, SendMessage.run_mk, gotAddress, hs, hv, h6]
    rfl

/-- The §6 success reply of `connect`: status `0` in the first 16-bit word, then the
handle, the local port and the remote port, each little-endian. -/
structure ConnectReply (raw : Page) (h lp rp : UInt16) : Prop where
  status : raw.slice 0 2 = [0, 0]
  handle : raw.slice 2 4 = toLe 2 h.toNat
  localPort : raw.slice 4 6 = toLe 2 lp.toNat
  remotePort : raw.slice 6 8 = toLe 2 rp.toNat

theorem connectTimeout_of_reply (addr : SocketAddr) (d : Duration) {send : Envelope → Reply}
    {offset : Option Nat} {valid : Nat} {raw : Page} {h lp rp : UInt16}
    (hs : send (connectRequest network addr d) = .ok (.memoryReturned offset (some valid) raw))
    (hr : ConnectReply raw h lp rp) :
    connectTimeout network send addr d = .ok ⟨h.toNat, lp, rp, addr, 0, 0⟩ := by
  have word : ∀ i, raw.u16s i = u16FromLe (raw.slice (2 * i) (2 * i + 2)) := fun _ => rfl
  have h0 : raw.u16s 0 = 0 := by rw [word, hr.status]; rfl
  have h1 : raw.u16s 1 = h := by rw [word, hr.handle, u16FromLe_toLe]
  have h2 : raw.u16s 2 = lp := by rw [word, hr.localPort, u16FromLe_toLe]
  have h3 : raw.u16s 3 = rp := by rw [word, hr.remotePort, u16FromLe_toLe]
  simp [connectTimeout, connectTimeoutCall, connected, hs, h0, h1, h2, h3]

/-- The §6 success reply of `bind`: status `0` at byte 0, the handle at byte 1. -/
structure ListenReply (raw : Page) (h : UInt8) : Prop where
  status : raw.get 0 = 0
  handle : raw.get 1 = h

theorem bind_of_reply (addr : SocketAddr) {send : Envelope → Reply} {offset : Option Nat}
    {valid : Nat} {raw : Page} {h : UInt8}
    (hs : send (bindRequest network addr) = .ok (.memoryReturned offset (some valid) raw))
    (hr : ListenReply raw h) :
    TcpListener.bind network codes send (.ok addr) = .ok ⟨h.toNat, addr, false⟩ := by
  simp [TcpListener.bind, bindCall, bound, Bind.bind, Except.bind, hs, hr.status, hr.handle]

end

/-! ## The codec against §6 -/

/-- The pages `connect_timeout` and `bind` lend are the §6 layouts byte for byte, and
`accept`, `socket_addr`, `connect_timeout` and `bind` read the handle, ports and address
of a §6 reply back exactly, for every address family, port and handle. -/
theorem codec_agrees_with_layouts :
    (∀ (network : Nat) (ip : IpAddr) (p : UInt16) (d : Duration), ∃ page : Page,
      connectRequest network (SocketAddr.new ip p) d =
        ⟨network, .lendMut 30 page none (nonZero 4096)⟩ ∧
      page.raw = toLe 2 p.toNat ++ toLe 8 (d.asMillis % 2 ^ 64) ++ [ip.version] ++ ip.octets ++
        List.replicate (4085 - ip.octets.length) 0) ∧
    (∀ (network : Nat) (ip : IpAddr) (p : UInt16), ∃ page : Page,
      bindRequest network (SocketAddr.new ip p) = ⟨network, .lendMut 44 page none (nonZero 4096)⟩ ∧
      page.raw = toLe 2 p.toNat ++ [ip.version] ++ ip.octets ++
        List.replicate (4093 - ip.octets.length) 0) ∧
    (∀ (network : Nat) (codes : NetError) (l : TcpListener) (send : Envelope → Reply)
      (offset valid : Option Nat) (rr : Page) (h p : UInt16) (ip : IpAddr),
      send (acceptRequest network l) = .ok (.memoryReturned offset valid rr) →
      AcceptReply rr h ip p →
      ∃ s, accept network codes l send = .ok (s, SocketAddr.new ip p) ∧ s.fd = h.toNat ∧
        s.localPort = l.localAddr.port ∧ s.remotePort = p ∧ s.peerAddr = .ok (SocketAddr.new ip p)) ∧
    (∀ (network : Nat) (s : TcpStream) (send : Envelope → Reply) (offset valid : Option Nat)
      (raw : Page) (ip : IpAddr),
      send (socketAddrRequest network s) = .ok (.memoryReturned offset valid raw) →
      AddressReply raw ip → s.socketAddr network send = .ok (SocketAddr.new ip s.localPort)) ∧
    (∀ (network : Nat) (addr : SocketAddr) (d : Duration) (send : Envelope → Reply)
      (offset : Option Nat) (valid : Nat) (raw : Page) (h lp rp : UInt16),
      send (connectRequest network addr d) = .ok (.memoryReturned offset (some valid) raw) →
      ConnectReply raw h lp rp →
      ∃ s, connectTimeout network send addr d = .ok s ∧ s.fd = h.toNat ∧ s.localPort = lp ∧
        s.remotePort = rp ∧ s.peerAddr = .ok addr) ∧
    (∀ (network : Nat) (codes : NetError) (addr : SocketAddr) (send : Envelope → Reply)
      (offset : Option Nat) (valid : Nat) (raw : Page) (h : UInt8),
      send (bindRequest network addr) = .ok (.memoryReturned offset (some valid) raw) →
      ListenReply raw h →
      ∃ l, TcpListener.bind network codes send (.ok addr) = .ok l ∧ l.fd = h.toNat ∧
        l.socketAddr = .ok addr ∧ l.nonblocking = false) :=
  ⟨fun _ ip p d => ⟨_, rfl, by simp [connectPage_raw]⟩,
    fun _ ip p => ⟨_, rfl, by simp [listenPage_raw]⟩,
    fun network codes l _ _ _ _ _ _ _ hs hr =>
      ⟨_, accept_of_reply network codes l hs hr, rfl, rfl, rfl, rfl⟩,
    fun network s _ _ _ _ _ hs hr => socketAddr_of_reply network s hs hr,
    fun network addr d _ _ _ _ _ _ _ hs hr =>
      ⟨_, connectTimeout_of_reply network addr d hs hr, rfl, rfl, rfl, rfl⟩,
    fun network codes addr _ _ _ _ _ hs hr =>
      ⟨_, bind_of_reply network codes addr hs hr, rfl, rfl, rfl⟩⟩

/-- §8's scenario: a listener bound to `0.0.0.0:8080` accepts handle 12 from
`10.0.0.5:54321`. -/
def scenarioReply : Page :=
  ⟨[0, 12, 0, 4, 10, 0, 0, 5] ++ List.replicate 12 0 ++ [49, 212] ++ List.replicate 4074 0,
    by simp only [List.length_append, List.length_replicate]; rfl⟩

def scenarioAddress : Page :=
  ⟨[4, 10, 0, 0, 5] ++ List.replicate 4091 0, by simp only [List.length_append, List.length_replicate]; rfl⟩

def scenarioListen : Page :=
  ⟨[0, 7] ++ List.replicate 4094 0, by simp only [List.length_append, List.length_replicate]; rfl⟩

def scenarioConnect : Page :=
  ⟨[0, 0, 12, 0, 144, 31, 49, 212] ++ List.replicate 4088 0,
    by simp only [List.length_append, List.length_replicate]; rfl⟩

theorem codec_agrees_on_scenario :
    (∃ s, accept 0 ⟨1, 2, 3, 4, 5⟩ ⟨7, SocketAddr.new (.v4 (Ipv4Addr.new 0 0 0 0)) 8080, false⟩
        (fun _ => .ok (.memoryReturned none none scenarioReply)) =
          .ok (s, SocketAddr.new (.v4 (Ipv4Addr.new 10 0 0 5)) 54321) ∧ s.fd = 12 ∧
      s.localPort = 8080 ∧ s.remotePort = 54321 ∧
      s.peerAddr = .ok (SocketAddr.new (.v4 (Ipv4Addr.new 10 0 0 5)) 54321)) ∧
    TcpStream.socketAddr 0 ⟨12, 8080, 54321, SocketAddr.new (.v4 (Ipv4Addr.new 10 0 0 5)) 54321, 0, 0⟩
        (fun _ => .ok (.memoryReturned none none scenarioAddress)) =
      .ok (SocketAddr.new (.v4 (Ipv4Addr.new 10 0 0 5)) 8080) ∧
    (∃ s, connectTimeout 0 (fun _ => .ok (.memoryReturned none (some 8) scenarioConnect))
        (SocketAddr.new (.v4 (Ipv4Addr.new 10 0 0 5)) 54321) Duration.zero = .ok s ∧ s.fd = 12 ∧
      s.localPort = 8080 ∧ s.remotePort = 54321 ∧
      s.peerAddr = .ok (SocketAddr.new (.v4 (Ipv4Addr.new 10 0 0 5)) 54321)) ∧
    (∃ l, TcpListener.bind 0 ⟨1, 2, 3, 4, 5⟩ (fun _ => .ok (.memoryReturned none (some 2) scenarioListen))
        (.ok (SocketAddr.new (.v4 (Ipv4Addr.new 0 0 0 0)) 8080)) = .ok l ∧ l.fd = 7 ∧
      l.socketAddr = .ok (SocketAddr.new (.v4 (Ipv4Addr.new 0 0 0 0)) 8080) ∧ l.nonblocking = false) :=
  ⟨codec_agrees_with_layouts.2.2.1 0 ⟨1, 2, 3, 4, 5⟩ _ _ none none scenarioReply 12 54321
      (.v4 (Ipv4Addr.new 10 0 0 5)) rfl ⟨rfl, rfl, rfl, rfl, rfl⟩,
    codec_agrees_with_layouts.2.2.2.1 0 _ _ none none scenarioAddress
      (.v4 (Ipv4Addr.new 10 0 0 5)) rfl ⟨rfl, rfl⟩,
    codec_agrees_with_layouts.2.2.2.2.1 0 _ Duration.zero _ none 8 scenarioConnect 12 8080 54321
      rfl ⟨rfl, rfl, rfl, rfl⟩,
    codec_agrees_with_layouts.2.2.2.2.2 0 ⟨1, 2, 3, 4, 5⟩ _ _ none 2 scenarioListen 7 rfl
      ⟨rfl, rfl⟩⟩

end XousNet
