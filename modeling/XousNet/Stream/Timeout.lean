import XousNet.Codec.Layout

/-! Timeouts in milliseconds. `connect_timeout` writes `duration.as_millis() as u64`,
truncated to 64 bits; `set_read_timeout` and `set_write_timeout` store
`as_millis().min(u32::MAX)`, and `0` stands for "no timeout" in both. -/
namespace XousNet
namespace TcpStream

/-- The connect request carries `as_millis() as u64` little-endian at bytes 2..10. -/
theorem connectPage_timeout (addr : SocketAddr) (d : Duration) :
    (connectPage addr d).slice 2 10 = toLe 8 (d.asMillis % 2 ^ 64) := by
  have hp : (connectPage addr d).raw = toLe 2 addr.port.toNat ++
      (toLe 8 (d.asMillis % 2 ^ 64) ++ ([addr.ip.version] ++ addr.ip.octets ++
        List.replicate (4085 - addr.ip.octets.length) 0)) := by
    simp [connectPage_raw]
  have h := Page.slice_append hp 0 8
  simp only [length_toLe] at h
  rw [h, List.drop_zero, List.take_left' (length_toLe 8 _)]

theorem fromLe_connectPage_timeout (addr : SocketAddr) (d : Duration) :
    fromLe ((connectPage addr d).slice 2 10) = d.asMillis % 2 ^ 64 := by
  rw [connectPage_timeout, fromLe_toLe]
  omega

theorem toNat_timeoutMillis (d : Duration) :
    (timeoutMillis d).toNat = min d.asMillis (2 ^ 32 - 1) :=
  Nat.mod_eq_of_lt (by omega)

/-- A timeout of at least a millisecond reads back as itself, capped at `u32::MAX`. -/
theorem timeoutOf_timeoutMillis {d : Duration} (hd : 1 ≤ d.asMillis) :
    timeoutOf (timeoutMillis d) =
      some (Duration.fromMillis (UInt64.ofNat (min d.asMillis (2 ^ 32 - 1)))) := by
  have hne : timeoutMillis d ≠ 0 := fun h => by
    have := congrArg UInt32.toNat h
    rw [toNat_timeoutMillis] at this
    simp at this
    omega
  rw [timeoutOf, if_neg hne]
  congr
  apply UInt64.toNat.inj
  show (timeoutMillis d).toNat = min d.asMillis (2 ^ 32 - 1) % 2 ^ 64
  rw [toNat_timeoutMillis]
  omega

/-- A nonzero timeout under a millisecond turns into "no timeout": `connect_timeout`
writes `0`, `read_timeout()` and `write_timeout()` give `None`, and `read` forwards no
offset. A connect timeout of `2 ^ 64 + 384` milliseconds wraps to `384`. From a
millisecond up, the read and write timeouts read back as set, capped at `u32::MAX`. -/
theorem timeouts_vanish_or_wrap :
    (∀ addr : SocketAddr, fromLe ((connectPage addr ⟨0, 500000, by decide⟩).slice 2 10) = 0) ∧
    (∀ s : TcpStream,
      (s.setReadTimeout (some ⟨0, 500000, by decide⟩)).readTimeout = .ok none ∧
      nonZero (s.setReadTimeout (some ⟨0, 500000, by decide⟩)).readMillis.toNat = none ∧
      (s.setWriteTimeout (some ⟨0, 500000, by decide⟩)).writeTimeout = .ok none) ∧
    (∀ addr : SocketAddr,
      fromLe ((connectPage addr ⟨18446744073709552, 0, by decide⟩).slice 2 10) = 384) ∧
    (∀ (s : TcpStream) (d : Duration), 1 ≤ d.asMillis →
      (s.setReadTimeout (some d)).readTimeout =
          .ok (some (Duration.fromMillis (UInt64.ofNat (min d.asMillis (2 ^ 32 - 1))))) ∧
        (s.setWriteTimeout (some d)).writeTimeout =
          .ok (some (Duration.fromMillis (UInt64.ofNat (min d.asMillis (2 ^ 32 - 1)))))) :=
  ⟨fun addr => by rw [fromLe_connectPage_timeout]; rfl, fun _ => ⟨rfl, rfl, rfl⟩,
    fun addr => by rw [fromLe_connectPage_timeout]; rfl,
    fun _ _ hd => ⟨congrArg _ (timeoutOf_timeoutMillis hd), congrArg _ (timeoutOf_timeoutMillis hd)⟩⟩

end TcpStream
end XousNet
