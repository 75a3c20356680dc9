import Mathlib

/-! Byte buffers of the Xous network shim: the 4096-byte page every request is
marshalled in, the `iter_mut().zip()` loop that copies into it, and fixed-width
little-endian integers. -/
namespace XousNet

section Blit
variable {α : Type}

/-- The copy loop `for (dest, src) in dest.iter_mut().zip(src) { *dest = src }`. -/
def blit : List α → List α → List α
  | [], _ => []
  | d :: ds, [] => d :: ds
  | _ :: ds, s :: ss => s :: blit ds ss

/-- The loop overwrites the first `min dest.len() src.len()` places and keeps the rest. -/
theorem blit_eq (d s : List α) : blit d s = s.take d.length ++ d.drop s.length := by
  induction d generalizing s with
  | nil => simp [blit]
  | cons x d ih => cases s <;> simp [blit, ih]

@[simp] theorem length_blit (d s : List α) : (blit d s).length = d.length := by
  rw [blit_eq]
  simp only [List.length_append, List.length_take, List.length_drop]
  omega

end Blit

/-! ## Little-endian integers -/

/-- `to_le_bytes` of a `w`-byte unsigned integer; bits above `8 * w` are dropped. -/
def toLe : Nat → Nat → List UInt8
  | 0, _ => []
  | w + 1, n => UInt8.ofNat n :: toLe w (n / 256)

def fromLe : List UInt8 → Nat
  | [] => 0
  | b :: bs => b.toNat + 256 * fromLe bs

@[simp] theorem length_toLe (w n : Nat) : (toLe w n).length = w := by
  induction w generalizing n <;> simp [toLe, *]

theorem fromLe_toLe (w n : Nat) : fromLe (toLe w n) = n % 256 ^ w := by
  induction w generalizing n with
  | zero => simp [toLe, fromLe, Nat.mod_one]
  | succ w ih =>
    rw [toLe, fromLe, ih, Nat.pow_succ', Nat.mod_mul]
    rfl

theorem fromLe_lt (l : List UInt8) : fromLe l < 256 ^ l.length := by
  induction l with
  | nil => simp [fromLe]
  | cons b bs ih =>
    have := UInt8.toNat_lt b
    rw [fromLe, List.length_cons, Nat.pow_succ']
    omega

theorem toLe_fromLe (l : List UInt8) : toLe l.length (fromLe l) = l := by
  induction l with
  | nil => rfl
  | cons b bs ih =>
    have hb := UInt8.toNat_lt b
    have hdiv : (b.toNat + 256 * fromLe bs) / 256 = fromLe bs := by omega
    rw [List.length_cons, toLe, fromLe, hdiv, ih]
    congr 1
    exact UInt8.toNat.inj (by show (b.toNat + 256 * fromLe bs) % 256 = b.toNat; omega)

/-! ## The request page -/

/-- The page-aligned 4096-byte buffer of every request (`ConnectRequest`, `SendData`,
`ReceiveData`, `GetAddress`: each `{ raw: [u8; 4096] }`). -/
structure Page where
  raw : List UInt8
  length_raw : raw.length = 4096
deriving DecidableEq

namespace Page

def zero : Page := ⟨List.replicate 4096 0, List.length_replicate _ _⟩

def set (p : Page) (i : Nat) (b : UInt8) : Page := ⟨p.raw.set i b, by simp [p.length_raw]⟩

/-- `for (dest, src) in raw[i..].iter_mut().zip(src) { *dest = src }`. -/
def zipFrom (p : Page) (i : Nat) (src : List UInt8) : Page :=
  ⟨p.raw.take i ++ blit (p.raw.drop i) src, by simp [p.length_raw]; omega⟩

/-- `raw[i]`; every index the shim reads is a constant below 4096. -/
def get (p : Page) (i : Nat) : UInt8 := p.raw.getD i 0

def slice (p : Page) (a b : Nat) : List UInt8 := (p.raw.drop a).take (b - a)

/-- Entry `i` of `as_slice::<u16>()`: the page read as little-endian `u16`s. -/
def u16s (p : Page) (i : Nat) : UInt16 := UInt16.ofNat (fromLe (p.slice (2 * i) (2 * i + 2)))

def u32s (p : Page) (i : Nat) : UInt32 := UInt32.ofNat (fromLe (p.slice (4 * i) (4 * i + 4)))

/-! Writes into a page whose tail is still zero, as every request is built. -/

theorem zipFrom_zeros {p : Page} {pre src : List UInt8} {n i : Nat}
    (hp : p.raw = pre ++ List.replicate n 0) (hi : pre.length = i) (hs : src.length ≤ n) :
    (p.zipFrom i src).raw = pre ++ src ++ List.replicate (n - src.length) 0 := by
  subst hi
  simp [zipFrom, hp, blit_eq, List.take_of_length_le hs]

theorem set_zeros {p : Page} {pre : List UInt8} {n i : Nat}
    (hp : p.raw = pre ++ List.replicate n 0) (hi : pre.length = i) (hn : 0 < n) (b : UInt8) :
    (p.set i b).raw = pre ++ [b] ++ List.replicate (n - 1) 0 := by
  subst hi
  obtain ⟨m, rfl⟩ : ∃ m, n = m + 1 := ⟨n - 1, by omega⟩
  simp [set, hp, List.replicate_succ]

/-! Reads. -/

theorem length_slice (p : Page) {a b : Nat} (hb : b ≤ 4096) : (p.slice a b).length = b - a := by
  simp [slice, p.length_raw]
  omega

theorem slice_append_slice (p : Page) {a b c : Nat} (hab : a ≤ b) (hbc : b ≤ c) :
    p.slice a b ++ p.slice b c = p.slice a c := by
  have hc : c - a = (b - a) + (c - b) := by omega
  rw [slice, slice, slice, hc, List.take_add, List.drop_drop, Nat.add_sub_cancel' hab]

theorem slice_single (p : Page) {i : Nat} (hi : i < 4096) : p.slice i (i + 1) = [p.get i] := by
  have hlt : i < p.raw.length := by rw [p.length_raw]; exact hi
  rw [slice, Nat.add_sub_cancel_left, List.drop_eq_getElem_cons hlt, List.take_succ_cons,
    List.take_zero]
  simp [get, hlt]

/-- A slice is the bytes `raw[a]`, `raw[a + 1]`, … one by one. -/
theorem slice_eq_map_get (p : Page) (a k : Nat) (hk : a + k ≤ 4096) :
    p.slice a (a + k) = (List.range k).map fun j => p.get (a + j) := by
  induction k with
  | zero => simp [slice]
  | succ k ih =>
    rw [← Nat.add_assoc, ← p.slice_append_slice (Nat.le_add_right a k) (Nat.le_succ _),
      ih (by omega), p.slice_single (by omega), List.range_succ, List.map_append]
    rfl

theorem slice_append {p : Page} {pre rest : List UInt8} (hp : p.raw = pre ++ rest) (j w : Nat) :
    p.slice (pre.length + j) (pre.length + j + w) = (rest.drop j).take w := by
  simp [slice, hp, List.drop_append]

end Page
end XousNet
