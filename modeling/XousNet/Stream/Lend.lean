import XousNet.Stream.Model

/-! What `peek`, `read` and `write` lend the network server, and what they make of every
reply. The page and the declared size hold for every call; the result stays within the
caller's buffer for every reply whose valid length keeps to the size asked for, and
nothing checks that the server does keep to it. -/
namespace XousNet

theorem take_blit {α : Type} {d s : List α} (h : s.length ≤ d.length) :
    (blit d s).take s.length = s := by
  simp [blit_eq, List.take_of_length_le h, List.take_append_eq_append_take]

theorem drop_blit {α : Type} {d s : List α} (h : s.length ≤ d.length) :
    (blit d s).drop s.length = d.drop s.length := by
  simp [blit_eq, List.take_of_length_le h, List.drop_append_eq_append_drop]

namespace TcpStream
variable (network : Nat)

/-- A reply that keeps to the size `k` asked for: a returned page's valid length is
absent or at most `k`. -/
def WithinSize (k : Nat) (reply : Reply) : Prop :=
  ∀ offset n raw, reply = .ok (.memoryReturned offset (some n) raw) → n ≤ k

/-- What the caller of a receive of up to `k` bytes sees: no panic, and either `Err` with
`buf` untouched, or `Ok n` with `n ≤ k`, `buf[..n]` from the returned page and
`buf[n..]` untouched. -/
def Received (k : Nat) (buf : List UInt8) (reply : Reply) :
    Option (IoResult Nat × List UInt8) → Prop
  | none => False
  | some (.error _, buf') => buf' = buf
  | some (.ok n, buf') => n ≤ k ∧ buf'.length = buf.length ∧ buf'.drop n = buf.drop n ∧
      ∃ offset valid raw, reply = .ok (.memoryReturned offset valid raw) ∧
        buf'.take n = raw.raw.take n

/-! ## What `peek` and `read` make of each reply -/

section Received
variable {failure : String} {buf : List UInt8} {offset : Option Nat} {raw : Page}

/-- A valid length up to the page is returned as is, however much was asked for, and that
many bytes of the page are copied over the buffer, as far as it reaches. -/
theorem received_le {n : Nat} (h : n ≤ 4096) :
    received failure buf (.ok (.memoryReturned offset (some n) raw)) =
      some (.ok n, blit buf (raw.raw.take n)) :=
  if_pos h

/-- A valid length past the page panics on `raw[..length]`. -/
theorem received_gt {n : Nat} (h : 4096 < n) :
    received failure buf (.ok (.memoryReturned offset (some n) raw)) = none :=
  if_neg (Nat.not_le.mpr h)

theorem received_error {reply : Reply}
    (h : ∀ offset valid raw, reply ≠ .ok (.memoryReturned offset valid raw)) :
    received failure buf reply = some (.error ⟨.invalidInput, failure⟩, buf) := by
  rcases reply with _ | _ | _ | ⟨o, v, raw⟩
  · rfl
  · rfl
  · rfl
  · exact absurd rfl (h o v raw)

/-- For every reply that keeps to the size asked for, the caller sees no panic and stays
within its buffer. -/
theorem received_within (reply : Reply) (h : WithinSize (min buf.length 4096) reply) :
    Received (min buf.length 4096) buf reply (received failure buf reply) := by
  rcases reply with _ | _ | _ | ⟨o, _ | n, raw⟩
  · rfl
  · rfl
  · rfl
  · exact ⟨Nat.zero_le _, rfl, rfl, o, none, raw, rfl, rfl⟩
  · have hn := h o n raw rfl
    have hlen : (raw.raw.take n).length = n := by simp [raw.length_raw]; omega
    have hle : (raw.raw.take n).length ≤ buf.length := by omega
    rw [received_le (by omega)]
    generalize ht : raw.raw.take n = t at hlen hle
    refine ⟨hn, length_blit _ _, ?_, o, some n, raw, rfl, ?_⟩
    · rw [← hlen, drop_blit hle]
    · rw [← hlen, take_blit hle, hlen, ht]

end Received

theorem sendPage_raw (buf : List UInt8) :
    (sendPage buf).raw = buf.take 4096 ++ List.replicate (4096 - buf.length) 0 := by
  show (List.replicate 4096 0).take 0 ++ blit ((List.replicate 4096 0).drop 0) buf = _
  rw [List.take_zero, List.drop_zero, List.nil_append, blit_eq, List.length_replicate,
    List.drop_replicate]

/-- A reply to `write` that reports at most `k` bytes sent. -/
def SentWithin (k : Nat) (reply : Reply) : Prop :=
  ∀ offset valid raw, reply = .ok (.memoryReturned offset valid raw) → raw.u32s 0 = 0 →
    (raw.u32s 1).toNat ≤ k

theorem written_ok {offset valid : Option Nat} {raw : Page} (h : raw.u32s 0 = 0) :
    written (.ok (.memoryReturned offset valid raw)) = .ok (raw.u32s 1).toNat := by
  simp [written, h]

theorem written_le {k : Nat} {reply : Reply} (h : SentWithin k reply) {n : Nat}
    (hw : written reply = .ok n) : n ≤ k := by
  rcases reply with _ | _ | _ | ⟨o, v, raw⟩ <;> simp only [written, reduceCtorEq] at hw
  split_ifs at hw with h0
  cases hw
  exact h o v raw rfl (not_not.mp h0)

theorem sendPage_eq_take (buf : List UInt8) :
    (sendPage buf).raw = buf.take (min buf.length 4096) ++
      List.replicate (4096 - min buf.length 4096) 0 := by
  rw [sendPage_raw]
  rcases Nat.le_total buf.length 4096 with h | h
  · rw [Nat.min_eq_left h, List.take_length, List.take_of_length_le h]
  · rw [Nat.min_eq_right h, Nat.sub_self, Nat.sub_eq_zero_of_le h]

end TcpStream
end XousNet
