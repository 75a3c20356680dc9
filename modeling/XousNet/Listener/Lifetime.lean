import XousNet.Listener.Aliases

/-! The bound handle over the life of a listener's aliases, under every interleaving.
Each alias is the bound listener but for its own `nonblocking` flag; the aliases send
accept requests for the handle and then at most one close, after which no alias can
act; and `handle_count` neither goes below zero nor past twice the number of aliases. -/
namespace XousNet
namespace TcpListener
namespace Aliases
variable (network : Nat)

/-! ## What a step needs -/

theorem at?_mem {σ : Aliases} {i : Nat} {ph : Phase} {l : TcpListener}
    (h : σ.at? i ph = some l) : ⟨l, ph⟩ ∈ σ.aliases := by
  obtain ⟨hi, ha⟩ := at?_eq_some h
  exact ha ▸ List.getElem_mem hi

theorem count_pos_of_at? {σ : Aliases} {i : Nat} {ph : Phase} {l : TcpListener}
    (h : σ.at? i ph = some l) : 0 < σ.count ph := by
  obtain ⟨hi, ha⟩ := at?_eq_some h
  have := List.boole_getElem_le_countP (fun b : Alias => decide (b.phase = ph)) σ.aliases i hi
  simpa [count, tally, ha] using this

theorem step_live {σ σ' : Aliases} {a : Step} (h : σ.step network a = some σ') :
    ∃ i ph l, ph ≠ .dropped ∧ σ.at? i ph = some l := by
  cases a <;> obtain ⟨l, hl, -⟩ := Option.map_eq_some'.mp h <;> exact ⟨_, _, l, by decide, hl⟩

/-- Once no alias is idle, duplicating or closing, no step can be taken. -/
theorem step_of_dead {σ : Aliases} (hi : σ.count .idle = 0) (hd : σ.count .duplicating = 0)
    (hc : σ.count .closing = 0) (a : Step) : σ.step network a = none := by
  cases h : σ.step network a with
  | none => rfl
  | some σ' =>
    obtain ⟨i, ph, l, hph, hl⟩ := step_live network h
    have hpos := count_pos_of_at? hl
    cases ph with
    | idle => omega
    | duplicating => omega
    | closing => omega
    | dropped => exact absurd rfl hph

/-! ## Every alias holds the bound listener -/

/-- Alias `a` holds `l`'s handle and address; only its `nonblocking` flag is its own. -/
def Holds (l : TcpListener) (a : Alias) : Prop :=
  a.listener.fd = l.fd ∧ a.listener.localAddr = l.localAddr

theorem step_holds {σ σ' : Aliases} {a : Step} {l : TcpListener}
    (hσ : ∀ b ∈ σ.aliases, Holds l b) (h : σ.step network a = some σ') :
    ∀ b ∈ σ'.aliases, Holds l b := by
  cases a with
  | cloned i =>
    obtain ⟨l', hl, rfl⟩ := Option.map_eq_some'.mp h
    have hl' := hσ _ (at?_mem hl)
    have hset : ∀ b ∈ σ.aliases.set i ⟨l', .idle⟩, Holds l b := forall_mem_set hσ i hl'
    exact List.forall_mem_append.mpr ⟨hset, List.forall_mem_singleton.mpr hl'⟩
  | accept i =>
    obtain ⟨l', -, rfl⟩ := Option.map_eq_some'.mp h
    exact hσ
  | duplicate i | drop i | close i | setNonblocking i b =>
    obtain ⟨l', hl, rfl⟩ := Option.map_eq_some'.mp h
    have hl' := hσ _ (at?_mem hl)
    exact forall_mem_set hσ i hl'

theorem Reachable.holds {l : TcpListener} {σ : Aliases} (h : Reachable network l σ) :
    ∀ a ∈ σ.aliases, Holds l a := by
  induction h with
  | init => simp [Aliases.init, Holds]
  | step _ hs ih => exact step_holds network ih hs

/-! ## The messages: accepts, then at most one close -/

/-- Accept requests for handle `fd`, then at most one close of `fd`, last. -/
def AcceptsThenClose (fd : Nat) (sent : List Envelope) : Prop :=
  ∃ accepts : List Envelope,
    (∀ m ∈ accepts, ∃ l : TcpListener, l.fd = fd ∧ m = acceptRequest network l) ∧
      (sent = accepts ∨ sent = accepts ++ [closeMessage network fd])

theorem acceptsThenClose_open {fd : Nat} {sent : List Envelope}
    (h : AcceptsThenClose network fd sent) (h0 : sent.count (closeMessage network fd) = 0) :
    ∃ accepts : List Envelope,
      (∀ m ∈ accepts, ∃ l : TcpListener, l.fd = fd ∧ m = acceptRequest network l) ∧
        sent = accepts := by
  obtain ⟨accepts, hacc, hs | hs⟩ := h
  · exact ⟨accepts, hacc, hs⟩
  · rw [hs, List.count_append, List.count_singleton_self] at h0
    omega

theorem acceptsThenClose_accept {fd : Nat} {sent : List Envelope}
    (h : AcceptsThenClose network fd sent) (h0 : sent.count (closeMessage network fd) = 0)
    {l : TcpListener} (hl : l.fd = fd) :
    AcceptsThenClose network fd (sent ++ [acceptRequest network l]) := by
  obtain ⟨accepts, hacc, hs⟩ := acceptsThenClose_open network h h0
  exact ⟨accepts ++ [acceptRequest network l],
    List.forall_mem_append.mpr ⟨hacc, List.forall_mem_singleton.mpr ⟨l, hl, rfl⟩⟩,
    .inl (by rw [hs])⟩

theorem acceptsThenClose_close {fd : Nat} {sent : List Envelope}
    (h : AcceptsThenClose network fd sent) (h0 : sent.count (closeMessage network fd) = 0) :
    AcceptsThenClose network fd (sent ++ [closeMessage network fd]) := by
  obtain ⟨accepts, hacc, hs⟩ := acceptsThenClose_open network h h0
  exact ⟨accepts, hacc, .inr (by rw [hs])⟩

theorem closes_zero_of_at? {σ : Aliases} {fd i : Nat} {ph : Phase} {l : TcpListener}
    (hσ : σ.Inv network fd) (hph : ph = .idle ∨ ph = .closing) (hl : σ.at? i ph = some l) :
    σ.closes network fd = 0 := by
  have hpos := count_pos_of_at? hl
  have hcl := hσ.closed
  simp only [live] at hcl
  rcases hph with rfl | rfl <;> split_ifs at hcl <;> omega

theorem step_acceptsThenClose {σ σ' : Aliases} {fd : Nat} {a : Step} (hσ : σ.Inv network fd)
    (hlog : AcceptsThenClose network fd σ.sent) (h : σ.step network a = some σ') :
    AcceptsThenClose network fd σ'.sent := by
  cases a with
  | accept i =>
    obtain ⟨l, hl, rfl⟩ := Option.map_eq_some'.mp h
    exact acceptsThenClose_accept network hlog (closes_zero_of_at? network hσ (.inl rfl) hl)
      (fd_of_at? hσ.fd_eq hl)
  | close i =>
    obtain ⟨l, hl, rfl⟩ := Option.map_eq_some'.mp h
    have hfd : closeRequest network l = closeMessage network fd := by
      rw [closeRequest_eq, fd_of_at? hσ.fd_eq hl]
    show AcceptsThenClose network fd (σ.sent ++ [closeRequest network l])
    rw [hfd]
    exact acceptsThenClose_close network hlog (closes_zero_of_at? network hσ (.inr rfl) hl)
  | duplicate i | cloned i | drop i | setNonblocking i b =>
    obtain ⟨l, -, rfl⟩ := Option.map_eq_some'.mp h
    exact hlog

theorem Reachable.acceptsThenClose {l : TcpListener} {σ : Aliases}
    (h : Reachable network l σ) : AcceptsThenClose network l.fd σ.sent := by
  induction h with
  | init => exact ⟨[], by simp, .inl rfl⟩
  | step hr hs ih => exact step_acceptsThenClose network (Reachable.inv network hr) ih hs

/-- Under every interleaving, each alias is the bound listener but for its `nonblocking`
flag; the aliases have sent accept requests for the bound handle and then at most one
close, last; and once that close is sent, no alias can take another step, so nothing
more is ever sent for the handle. -/
theorem bound_handle_accepts_then_close {l : TcpListener} {σ : Aliases}
    (h : Reachable network l σ) :
    (∀ a ∈ σ.aliases, a.listener.fd = l.fd ∧ a.listener.localAddr = l.localAddr) ∧
    (∃ accepts : List Envelope,
      (∀ m ∈ accepts, ∃ l' : TcpListener, l'.fd = l.fd ∧ m = acceptRequest network l') ∧
        (σ.sent = accepts ∨ σ.sent = accepts ++ [closeRequest network l])) ∧
    (0 < σ.closes network l.fd → ∀ a, σ.step network a = none) := by
  refine ⟨Reachable.holds network h, Reachable.acceptsThenClose network h, fun hpos a => ?_⟩
  have hcl := (Reachable.inv network h).closed
  simp only [live] at hcl
  split_ifs at hcl with h0
  · exact step_of_dead network (by omega) (by omega) (by omega) a
  · omega

def acceptThenDropBoth : List Step :=
  [.duplicate 0, .cloned 0, .accept 1, .drop 1, .drop 0, .close 0]

theorem bound_handle_accepts_then_close_after_acceptThenDropBoth :
    let l : TcpListener := ⟨7, SocketAddr.new (.v4 (Ipv4Addr.new 0 0 0 0)) 8080, false⟩
    let σ : Aliases :=
      ⟨0, [⟨l, .dropped⟩, ⟨l, .dropped⟩], [acceptRequest 0 l, closeRequest 0 l]⟩
    (init l).run 0 acceptThenDropBoth = some σ ∧
    (∀ a ∈ σ.aliases, a.listener.fd = l.fd ∧ a.listener.localAddr = l.localAddr) ∧
    (∃ accepts : List Envelope,
      (∀ m ∈ accepts, ∃ l' : TcpListener, l'.fd = l.fd ∧ m = acceptRequest 0 l') ∧
        (σ.sent = accepts ∨ σ.sent = accepts ++ [closeRequest 0 l])) ∧
    (0 < σ.closes 0 l.fd → ∀ a, σ.step 0 a = none) := by
  intro l σ
  have hrun : (init l).run 0 acceptThenDropBoth = some σ := rfl
  exact ⟨hrun, bound_handle_accepts_then_close 0 (run_reachable 0 .init hrun)⟩

/-! ## `handle_count` never wraps -/

theorem tally_idle_add_duplicating_le (as : List Alias) :
    tally as .idle + tally as .duplicating ≤ as.length := by
  induction as with
  | nil => simp [tally]
  | cons a as ih =>
    simp only [tally, List.countP_cons, List.length_cons] at ih ⊢
    cases a.phase <;> simp <;> omega

/-- Under every interleaving, `handle_count` is at most twice the number of aliases made,
and every drop's `fetch_sub` finds it at least `1`: the `usize` never wraps below zero,
and it cannot overflow while fewer than `usize::MAX / 2` aliases exist. -/
theorem handleCount_never_wraps {l : TcpListener} {σ : Aliases} (h : Reachable network l σ) :
    σ.handleCount ≤ 2 * σ.aliases.length ∧
      ∀ i σ', σ.step network (.drop i) = some σ' → 1 ≤ σ.handleCount := by
  have hc := (Reachable.inv network h).handleCount_eq
  have hle := tally_idle_add_duplicating_le σ.aliases
  simp only [live, count] at hc
  refine ⟨by omega, fun i σ' hd => ?_⟩
  obtain ⟨l', hl, -⟩ := Option.map_eq_some'.mp hd
  have hpos := count_pos_of_at? hl
  simp only [count] at hpos
  omega

theorem handleCount_never_wraps_after_duplicate :
    let l : TcpListener := ⟨7, SocketAddr.new (.v4 (Ipv4Addr.new 0 0 0 0)) 8080, false⟩
    let σ : Aliases := ⟨2, [⟨l, .idle⟩, ⟨l, .idle⟩], []⟩
    (init l).run 0 [.duplicate 0, .cloned 0] = some σ ∧ σ.handleCount ≤ 2 * σ.aliases.length ∧
      ∀ i σ', σ.step 0 (.drop i) = some σ' → 1 ≤ σ.handleCount := by
  intro l σ
  have hrun : (init l).run 0 [.duplicate 0, .cloned 0] = some σ := rfl
  exact ⟨hrun, handleCount_never_wraps 0 (run_reachable 0 .init hrun)⟩

/-! ## Whole calls, one at a time -/

/-- A call on alias `i`, run to completion before the next one begins. -/
inductive Call
  | duplicate (i : Nat)
  | drop (i : Nat)
  | setNonblocking (i : Nat) (nonblocking : Bool)
  | accept (i : Nat)

/-- One whole call, by the code's own `TcpListener.duplicate` and `TcpListener.drop`. -/
def call (σ : Aliases) : Call → Option Aliases
  | .duplicate i => (σ.at? i .idle).map fun l =>
      ⟨(l.duplicate σ.handleCount).2, σ.aliases ++ [⟨(l.duplicate σ.handleCount).1, .idle⟩],
        σ.sent⟩
  | .drop i => (σ.at? i .idle).map fun l =>
      ⟨(l.drop network σ.handleCount).1, σ.aliases.set i ⟨l, .dropped⟩,
        σ.sent ++ (l.drop network σ.handleCount).2.toList⟩
  | .setNonblocking i b => σ.step network (.setNonblocking i b)
  | .accept i => σ.step network (.accept i)

def runCalls (σ : Aliases) : List Call → Option Aliases
  | [] => some σ
  | c :: rest => (σ.call network c).bind (runCalls · rest)

def Settled (σ : Aliases) : Prop := σ.count .duplicating = 0 ∧ σ.count .closing = 0

/-- A whole call is one or two atomic steps, and it leaves no alias halfway. -/
theorem call_reachable {l : TcpListener} {σ σ' : Aliases} {c : Call}
    (hr : Reachable network l σ) (hs : σ.Settled) (h : σ.call network c = some σ') :
    Reachable network l σ' ∧ σ'.Settled := by
  obtain ⟨hd, hc⟩ := hs
  simp only [count] at hd hc
  cases c with
  | duplicate i =>
    obtain ⟨l', hl, rfl⟩ := Option.map_eq_some'.mp h
    obtain ⟨σ₁, h₁, h₂⟩ := Option.bind_eq_some.mp (duplicate_then_cloned network hl)
    refine ⟨.step (.step hr h₁) h₂, ?_⟩
    simp only [Settled, count, tally_append_idle, reduceCtorEq, if_false, Nat.add_zero]
    exact ⟨hd, hc⟩
  | drop i =>
    obtain ⟨l', hl, rfl⟩ := Option.map_eq_some'.mp h
    obtain ⟨σ₁, h₁, h₂⟩ := Option.bind_eq_some.mp (drop_then_close network hl)
    obtain ⟨hi, ha⟩ := at?_eq_some hl
    obtain ⟨-, t2, t3⟩ := tallies_set hi ha ⟨l', .dropped⟩
    simp only [reduceCtorEq, if_false, Nat.add_zero] at t2 t3
    refine ⟨?_, by simp only [count]; omega, by simp only [count]; omega⟩
    split_ifs at h₂
    · exact .step (.step hr h₁) h₂
    · exact Option.some.inj h₂ ▸ .step hr h₁
  | setNonblocking i b =>
    change σ.step network (.setNonblocking i b) = some σ' at h
    obtain ⟨l', hl, rfl⟩ := Option.map_eq_some'.mp h
    obtain ⟨hi, ha⟩ := at?_eq_some hl
    obtain ⟨-, t2, t3⟩ := tallies_set hi ha ⟨l'.setNonblocking b, .idle⟩
    simp only [reduceCtorEq, if_false, Nat.add_zero] at t2 t3
    exact ⟨.step hr h, by simp only [count]; omega, by simp only [count]; omega⟩
  | accept i =>
    change σ.step network (.accept i) = some σ' at h
    obtain ⟨l', -, rfl⟩ := Option.map_eq_some'.mp h
    exact ⟨.step hr h, hd, hc⟩

theorem runCalls_reachable {l : TcpListener} :
    ∀ {σ σ' : Aliases} {calls : List Call}, Reachable network l σ → σ.Settled →
      σ.runCalls network calls = some σ' → Reachable network l σ' ∧ σ'.Settled
  | _, _, [], hr, hs, h => by cases h; exact ⟨hr, hs⟩
  | σ, _, c :: rest, hr, hs, h => by
    obtain ⟨σ₁, h₁, h₂⟩ := Option.bind_eq_some.mp h
    obtain ⟨hr₁, hs₁⟩ := call_reachable network hr hs h₁
    exact runCalls_reachable hr₁ hs₁ h₂

/-- Calls run one at a time through the code's own `duplicate` and `drop`: after every
sequence of them, `handle_count` is the number of aliases not yet dropped, and the close
of the handle has been sent once if no alias is left and never otherwise. -/
theorem runCalls_refcount {l : TcpListener} {calls : List Call} {σ : Aliases}
    (h : (init l).runCalls network calls = some σ) :
    σ.handleCount = σ.count .idle ∧
      σ.closes network l.fd = if σ.count .idle = 0 then 1 else 0 := by
  obtain ⟨hr, hd, hc⟩ := runCalls_reachable network .init ⟨rfl, rfl⟩ h
  obtain ⟨hcount, -, hcl⟩ := Reachable.inv network hr
  simp only [live, hd, hc, Nat.mul_zero, Nat.add_zero] at hcount hcl
  exact ⟨hcount, hcl⟩

def duplicateAcceptDropBoth : List Call := [.duplicate 0, .accept 1, .drop 0, .drop 1]

theorem runCalls_refcount_on_duplicateAcceptDropBoth :
    let l : TcpListener := ⟨7, SocketAddr.new (.v4 (Ipv4Addr.new 0 0 0 0)) 8080, false⟩
    let σ : Aliases :=
      ⟨0, [⟨l, .dropped⟩, ⟨l, .dropped⟩], [acceptRequest 0 l, closeRequest 0 l]⟩
    (init l).runCalls 0 duplicateAcceptDropBoth = some σ ∧ σ.handleCount = σ.count .idle ∧
      σ.closes 0 l.fd = if σ.count .idle = 0 then 1 else 0 := by
  intro l σ
  have hrun : (init l).runCalls 0 duplicateAcceptDropBoth = some σ := rfl
  exact ⟨hrun, runCalls_refcount 0 hrun⟩

end Aliases
end TcpListener
end XousNet
