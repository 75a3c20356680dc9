import Mathlib

/-! `sys/xous/path.rs`: the separator tests and `parse_prefix`. A Xous path has one kind
of prefix, a device name ending at the first `:`; `parse_prefix` splits there with
`splitn(2, ..)` and never reaches its `unwrap` with nothing to unwrap. -/
namespace XousNet
namespace Path

/-- `is_sep_byte`: `b == b'/'`. -/
def isSepByte (b : UInt8) : Bool := b == 47

/-- `is_verbatim_sep`: `b == b'/'`. -/
def isVerbatimSep (b : UInt8) : Bool := b == 47

inductive Prefix
  | deviceNS (p : List UInt8)
deriving DecidableEq

/-- `b.splitn(2, |x| *x == b':')`, collected: the bytes before the first `:`, then, when
there is one, every byte after it. -/
def splitnColon (b : List UInt8) : List (List UInt8) :=
  match b.span (· ≠ 58) with
  | (p, []) => [p]
  | (p, _ :: rest) => [p, rest]

/-- `parse_prefix`; the outer `none` is the panic of `p.unwrap()`. -/
def parsePrefix (b : List UInt8) : Option (Option Prefix) :=
  let components := splitnColon b
  let p := components[0]?
  let remainder := components[1]?
  if remainder.isSome then p.map fun p => some (.deviceNS p) else some none

/-- The two shapes of `splitn(2, ..)`: the whole path when it has no `:`, and the bytes
around the first `:` when it has one. -/
theorem splitnColon_cases (b : List UInt8) :
    (58 ∉ b ∧ splitnColon b = [b]) ∨
      ∃ p rest, 58 ∉ p ∧ b = p ++ 58 :: rest ∧ splitnColon b = [p, rest] := by
  have hb := List.takeWhile_append_dropWhile (fun x : UInt8 => decide (x ≠ 58)) b
  unfold splitnColon
  rw [List.span_eq_take_drop]
  cases hd : b.dropWhile (fun x => decide (x ≠ 58)) with
  | nil =>
    have hall := List.dropWhile_eq_nil_iff.mp hd
    rw [hd, List.append_nil] at hb
    exact .inl ⟨fun h => by simpa using hall _ h, by rw [hb]⟩
  | cons y rest =>
    have hy : y = 58 := by
      have := List.head_dropWhile_not (fun x : UInt8 => decide (x ≠ 58)) b
        (by rw [hd]; exact List.cons_ne_nil _ _)
      simpa only [hd, List.head_cons, decide_eq_false_iff_not, not_not] using this
    refine .inr ⟨_, rest, fun h => ?_, by rw [hd, hy] at hb; exact hb.symm, rfl⟩
    simpa using List.mem_takeWhile_imp h

theorem splitnColon_append {p rest : List UInt8} (hp : 58 ∉ p) :
    splitnColon (p ++ 58 :: rest) = [p, rest] := by
  have hall : ∀ a ∈ p, decide (a ≠ 58) = true := fun a ha => by
    simpa using fun h : a = 58 => hp (h ▸ ha)
  unfold splitnColon
  rw [List.span_eq_take_drop, List.takeWhile_append_of_pos hall, List.dropWhile_append_of_pos hall]
  simp

/-- `parse_prefix` never panics. It gives `DeviceNS(p)` exactly for the paths
`p ++ ":" ++ rest` with no `:` in `p`, and `None` exactly for the paths with no `:`. -/
theorem parsePrefix_spec (b p : List UInt8) :
    parsePrefix b ≠ none ∧
      (parsePrefix b = some (some (.deviceNS p)) ↔ ∃ rest, 58 ∉ p ∧ b = p ++ 58 :: rest) ∧
      (parsePrefix b = some none ↔ 58 ∉ b) := by
  rcases splitnColon_cases b with ⟨hb, hs⟩ | ⟨q, rest, hq, rfl, hs⟩
  · have hnone : parsePrefix b = some none := by simp [parsePrefix, hs]
    refine ⟨by simp [hnone], ⟨fun h => by simp [hnone] at h, ?_⟩, by simp [hnone, hb]⟩
    rintro ⟨rest, -, rfl⟩
    simp at hb
  · have hsome : parsePrefix (q ++ 58 :: rest) = some (some (.deviceNS q)) := by
      simp [parsePrefix, hs]
    refine ⟨by simp [hsome], ⟨fun h => ?_, ?_⟩, by simp [hsome]⟩
    · simp only [hsome, Option.some.injEq, Prefix.deviceNS.injEq] at h
      exact ⟨rest, h ▸ hq, by rw [h]⟩
    · rintro ⟨rest', hp, hb⟩
      have h2 : splitnColon (q ++ 58 :: rest) = [p, rest'] := by rw [hb, splitnColon_append hp]
      rw [hs, List.cons.injEq] at h2
      rw [hsome, h2.1]

end Path
end XousNet
