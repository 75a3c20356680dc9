import XousNet.Listener.Model

/-! The aliases of one bound `TcpListener`, each driven by its own thread, under every
interleaving. `duplicate` is two atomic steps, its `fetch_add` and the return of the
clone; `drop` is its `fetch_sub` and then, for the alias whose `fetch_sub` saw `1`,
the `StdTcpListenerClose` message. The shared `handle_count` is a `Nat`: an alias takes
memory, so fewer than `usize::MAX` of them exist and the counter never wraps. -/
namespace XousNet
namespace TcpListener

inductive Phase
  | idle
  | duplicating
  | closing
  | dropped
deriving DecidableEq

/-- One `TcpListener` value and where its thread is: `idle` between calls, `duplicating`
inside `duplicate` past its `fetch_add`, `closing` inside `drop` after a `fetch_sub`
that returned `1`, and `dropped`. -/
structure Alias where
  listener : TcpListener
  phase : Phase

/-- The aliases of one listener: the shared `handle_count`, every alias made so far,
and the messages sent to the network server, oldest first. -/
structure Aliases where
  handleCount : Nat
  aliases : List Alias
  sent : List Envelope

/-- One atomic step of alias `i`'s thread. -/
inductive Step
  | duplicate (i : Nat)
  | cloned (i : Nat)
  | drop (i : Nat)
  | close (i : Nat)
  | setNonblocking (i : Nat) (nonblocking : Bool)
  | accept (i : Nat)

namespace Aliases
variable (network : Nat)

/-- The aliases right after `bind` returned `l`: one, and `handle_count` at `1`. -/
def init (l : TcpListener) : Aliases := ⟨1, [⟨l, .idle⟩], []⟩

/-- Alias `i`'s listener, when its thread is in phase `ph`. -/
def at? (σ : Aliases) (i : Nat) (ph : Phase) : Option TcpListener :=
  match σ.aliases[i]? with
  | some a => if a.phase = ph then some a.listener else none
  | none => none

/-- One atomic step; `none` when alias `i` is not where the step starts. The count and the
close decision are those of the code's `TcpListener.duplicate` and `TcpListener.drop`. -/
def step (σ : Aliases) : Step → Option Aliases
  | .duplicate i => (σ.at? i .idle).map fun l =>
      { σ with handleCount := (l.duplicate σ.handleCount).2,
               aliases := σ.aliases.set i ⟨l, .duplicating⟩ }
  | .cloned i => (σ.at? i .duplicating).map fun l =>
      { σ with aliases := σ.aliases.set i ⟨l, .idle⟩ ++ [⟨(l.duplicate σ.handleCount).1, .idle⟩] }
  | .drop i => (σ.at? i .idle).map fun l =>
      { σ with handleCount := (l.drop network σ.handleCount).1,
               aliases := σ.aliases.set i
                 ⟨l, if (l.drop network σ.handleCount).2.isSome then .closing else .dropped⟩ }
  | .close i => (σ.at? i .closing).map fun l =>
      { σ with aliases := σ.aliases.set i ⟨l, .dropped⟩, sent := σ.sent ++ [closeRequest network l] }
  | .setNonblocking i b => (σ.at? i .idle).map fun l =>
      { σ with aliases := σ.aliases.set i ⟨l.setNonblocking b, .idle⟩ }
  | .accept i => (σ.at? i .idle).map fun l =>
      { σ with sent := σ.sent ++ [acceptRequest network l] }

def run (σ : Aliases) : List Step → Option Aliases
  | [] => some σ
  | a :: rest => (σ.step network a).bind (run · rest)

/-- The states some interleaving reaches from `init l`. -/
inductive Reachable (l : TcpListener) : Aliases → Prop
  | init : Reachable l (init l)
  | step {σ σ' : Aliases} {a : Step} : Reachable l σ → σ.step network a = some σ' → Reachable l σ'

theorem at?_eq_some {σ : Aliases} {i : Nat} {ph : Phase} {l : TcpListener}
    (h : σ.at? i ph = some l) : ∃ hi : i < σ.aliases.length, σ.aliases[i] = ⟨l, ph⟩ := by
  unfold at? at h
  split at h
  · rename_i a ha
    split_ifs at h with hph
    cases h
    obtain ⟨hi, rfl⟩ := List.getElem?_eq_some_iff.mp ha
    exact ⟨hi, by rw [← hph]⟩
  · cases h

/-! ## Counting phases -/

def tally (as : List Alias) (ph : Phase) : Nat := as.countP (·.phase = ph)

def count (σ : Aliases) (ph : Phase) : Nat := tally σ.aliases ph

/-- The live aliases: each idle one, and each one inside `duplicate` twice, for itself
and for the clone it is building. -/
def live (σ : Aliases) : Nat := σ.count .idle + 2 * σ.count .duplicating

def closeMessage (fd : Nat) : Envelope := ⟨network, .blockingScalar (opcode 46 fd) 0 0 0 0⟩

def closes (σ : Aliases) (fd : Nat) : Nat := σ.sent.count (closeMessage network fd)

def AllDropped (σ : Aliases) : Prop := ∀ a ∈ σ.aliases, a.phase = .dropped

theorem tally_set {as : List Alias} {i : Nat} (hi : i < as.length) {l : TcpListener}
    {p : Phase} (ha : as[i] = ⟨l, p⟩) (a : Alias) (ph : Phase) :
    tally (as.set i a) ph + (if p = ph then 1 else 0) =
      tally as ph + (if a.phase = ph then 1 else 0) := by
  have hle := List.boole_getElem_le_countP (fun b : Alias => decide (b.phase = ph)) as i hi
  simp only [tally, List.countP_set _ _ _ _ hi, ha, decide_eq_true_eq] at hle ⊢
  omega

theorem tallies_set {as : List Alias} {i : Nat} (hi : i < as.length) {l : TcpListener}
    {p : Phase} (ha : as[i] = ⟨l, p⟩) (a : Alias) :
    (tally (as.set i a) .idle + (if p = .idle then 1 else 0) =
      tally as .idle + if a.phase = .idle then 1 else 0) ∧
    (tally (as.set i a) .duplicating + (if p = .duplicating then 1 else 0) =
      tally as .duplicating + if a.phase = .duplicating then 1 else 0) ∧
    (tally (as.set i a) .closing + (if p = .closing then 1 else 0) =
      tally as .closing + if a.phase = .closing then 1 else 0) :=
  ⟨tally_set hi ha a _, tally_set hi ha a _, tally_set hi ha a _⟩

theorem tally_append_idle (as : List Alias) (l : TcpListener) (ph : Phase) :
    tally (as ++ [⟨l, .idle⟩]) ph = tally as ph + if Phase.idle = ph then 1 else 0 := by
  rw [tally, List.countP_append]
  cases ph <;> rfl

theorem closeRequest_eq (l : TcpListener) : closeRequest network l = closeMessage network l.fd :=
  rfl

theorem count_append_acceptRequest (sent : List Envelope) (l : TcpListener) (fd : Nat) :
    (sent ++ [acceptRequest network l]).count (closeMessage network fd) =
      sent.count (closeMessage network fd) := by
  simp [acceptRequest, closeMessage]

theorem forall_mem_set {as : List Alias} {P : Alias → Prop} (h : ∀ b ∈ as, P b) (i : Nat)
    {a : Alias} (ha : P a) : ∀ b ∈ as.set i a, P b := fun b hb =>
  (List.mem_or_eq_of_mem_set hb).elim (h b) fun e => e ▸ ha

theorem fd_of_at? {σ : Aliases} {fd i : Nat} {ph : Phase} {l : TcpListener}
    (hfd : ∀ a ∈ σ.aliases, a.listener.fd = fd) (hl : σ.at? i ph = some l) : l.fd = fd := by
  obtain ⟨hi, ha⟩ := at?_eq_some hl
  simpa [ha] using hfd _ (List.getElem_mem hi)

/-! ## The invariant -/

/-- What every reachable state keeps, for the bound handle `fd`: `handle_count` is the
number of live aliases, every alias holds `fd`, and the close messages sent, with the
closes on their way, are one once no alias is live and none before. -/
structure Inv (σ : Aliases) (fd : Nat) : Prop where
  handleCount_eq : σ.handleCount = σ.live
  fd_eq : ∀ a ∈ σ.aliases, a.listener.fd = fd
  closed : σ.closes network fd + σ.count .closing = if σ.live = 0 then 1 else 0

theorem init_inv (l : TcpListener) : (init l).Inv network l.fd :=
  ⟨rfl, by simp [init], rfl⟩

theorem step_inv {σ σ' : Aliases} {fd : Nat} {a : Step} (hσ : σ.Inv network fd)
    (h : σ.step network a = some σ') : σ'.Inv network fd := by
  obtain ⟨hc, hfd, hcl⟩ := hσ
  dsimp only [live, count, closes] at hc hcl
  cases a with
  | duplicate i =>
    obtain ⟨l, hl, rfl⟩ := Option.map_eq_some'.mp h
    obtain ⟨hi, ha⟩ := at?_eq_some hl
    obtain ⟨t1, t2, t3⟩ := tallies_set hi ha ⟨l, .duplicating⟩
    refine ⟨?_, forall_mem_set hfd i (fd_of_at? hfd hl), ?_⟩ <;>
      dsimp only [live, count, closes, duplicate_snd] <;>
      simp only [reduceCtorEq, if_true, if_false] at t1 t2 t3 <;> split_ifs at hcl ⊢ <;> omega
  | cloned i =>
    obtain ⟨l, hl, rfl⟩ := Option.map_eq_some'.mp h
    obtain ⟨hi, ha⟩ := at?_eq_some hl
    obtain ⟨t1, t2, t3⟩ := tallies_set hi ha ⟨l, .idle⟩
    have hl' := fd_of_at? hfd hl
    refine ⟨?_, fun b hb => ?_, ?_⟩
    · simp only [live, count, tally_append_idle, reduceCtorEq, if_true, if_false] at t1 t2 ⊢
      omega
    · rcases List.mem_append.mp hb with hb | hb
      · exact forall_mem_set hfd i hl' b hb
      · simp_all
    · simp only [live, count, closes, tally_append_idle, reduceCtorEq, if_true, if_false]
        at t1 t2 t3 ⊢
      split_ifs at hcl ⊢ <;> omega
  | drop i =>
    obtain ⟨l, hl, rfl⟩ := Option.map_eq_some'.mp h
    obtain ⟨hi, ha⟩ := at?_eq_some hl
    simp only [drop_fst, drop_snd_isSome, decide_eq_true_eq]
    obtain ⟨t1, t2, t3⟩ :=
      tallies_set hi ha ⟨l, if σ.handleCount = 1 then .closing else .dropped⟩
    refine ⟨?_, forall_mem_set hfd i (fd_of_at? hfd hl), ?_⟩ <;>
      dsimp only [live, count, closes] <;>
      by_cases h1 : σ.handleCount = 1 <;>
      simp only [h1, reduceCtorEq, if_true, if_false] at t1 t2 t3 ⊢ <;>
      split_ifs at hcl ⊢ <;> omega
  | close i =>
    obtain ⟨l, hl, rfl⟩ := Option.map_eq_some'.mp h
    obtain ⟨hi, ha⟩ := at?_eq_some hl
    obtain ⟨t1, t2, t3⟩ := tallies_set hi ha ⟨l, .dropped⟩
    have hl' := fd_of_at? hfd hl
    simp only [reduceCtorEq, if_true, if_false] at t1 t2 t3
    refine ⟨?_, forall_mem_set hfd i hl', ?_⟩ <;> dsimp only [live, count, closes]
    · omega
    · rw [closeRequest_eq, hl', List.count_append, List.count_singleton_self]
      split_ifs at hcl ⊢ <;> omega
  | setNonblocking i b =>
    obtain ⟨l, hl, rfl⟩ := Option.map_eq_some'.mp h
    obtain ⟨hi, ha⟩ := at?_eq_some hl
    obtain ⟨t1, t2, t3⟩ := tallies_set hi ha ⟨l.setNonblocking b, .idle⟩
    have hl' : (l.setNonblocking b).fd = fd := (fd_of_at? hfd hl : l.fd = fd)
    refine ⟨?_, forall_mem_set hfd i hl', ?_⟩ <;> dsimp only [live, count, closes] <;>
      simp only [reduceCtorEq, if_true, if_false] at t1 t2 t3 <;> split_ifs at hcl ⊢ <;> omega
  | accept i =>
    obtain ⟨l, -, rfl⟩ := Option.map_eq_some'.mp h
    refine ⟨hc, hfd, ?_⟩
    dsimp only [live, count, closes]
    rwa [count_append_acceptRequest]

theorem Reachable.inv {l : TcpListener} {σ : Aliases} (h : Reachable network l σ) :
    σ.Inv network l.fd := by
  induction h with
  | init => exact init_inv network l
  | step _ hs ih => exact step_inv network ih hs

theorem run_reachable {l : TcpListener} :
    ∀ {σ σ' : Aliases} {steps : List Step}, Reachable network l σ →
      σ.run network steps = some σ' → Reachable network l σ'
  | _, _, [], hσ, h => by cases h; exact hσ
  | σ, _, a :: rest, hσ, h => by
    simp only [run] at h
    cases hs : σ.step network a with
    | none => simp [hs] at h
    | some σ₁ =>
      rw [hs, Option.some_bind] at h
      exact run_reachable (.step hσ hs) h

theorem tally_of_allDropped {as : List Alias} (h : ∀ a ∈ as, a.phase = .dropped) (ph : Phase)
    (hph : ph ≠ .dropped) : tally as ph = 0 :=
  List.countP_eq_zero.mpr fun a ha => by simp [h a ha, Ne.symm hph]

/-- Under every interleaving of the threads of a bound listener's aliases,
`handle_count` is the number of live aliases, and the close message for its handle
goes out at most once, only when no alias is live, and once every alias is dropped. -/
theorem handleCount_live_and_closed_once {l : TcpListener} {σ : Aliases}
    (h : Reachable network l σ) :
    σ.handleCount = σ.live ∧ σ.closes network l.fd ≤ 1 ∧
      (0 < σ.closes network l.fd → σ.live = 0) ∧ (σ.AllDropped → σ.closes network l.fd = 1) := by
  obtain ⟨hc, -, hcl⟩ := h.inv
  refine ⟨hc, ?_, fun hpos => ?_, fun hd => ?_⟩
  · split_ifs at hcl <;> omega
  · split_ifs at hcl with h0
    · exact h0
    · omega
  · have h1 := tally_of_allDropped hd .idle (by decide)
    have h2 := tally_of_allDropped hd .duplicating (by decide)
    have h3 := tally_of_allDropped hd .closing (by decide)
    simp only [live, count, h1, h2, h3] at hcl
    simpa using hcl

def dropBoth : List Step := [.duplicate 0, .cloned 0, .drop 1, .drop 0, .close 0]

theorem handleCount_live_and_closed_once_after_dropBoth :
    let l : TcpListener := ⟨7, SocketAddr.new (.v4 (Ipv4Addr.new 0 0 0 0)) 8080, false⟩
    let σ : Aliases := ⟨0, [⟨l, .dropped⟩, ⟨l, .dropped⟩], [closeRequest 0 l]⟩
    (init l).run 0 dropBoth = some σ ∧ σ.handleCount = σ.live ∧ σ.closes 0 l.fd ≤ 1 ∧
      (0 < σ.closes 0 l.fd → σ.live = 0) ∧ (σ.AllDropped → σ.closes 0 l.fd = 1) := by
  intro l σ
  have hrun : (init l).run 0 dropBoth = some σ := rfl
  exact ⟨hrun, handleCount_live_and_closed_once 0 (run_reachable 0 .init hrun)⟩

/-! ## The two halves of `duplicate` and `drop` -/

theorem at?_set {as : List Alias} {i : Nat} (hi : i < as.length) (hc : Nat)
    (sent : List Envelope) (l : TcpListener) (ph : Phase) :
    (⟨hc, as.set i ⟨l, ph⟩, sent⟩ : Aliases).at? i ph = some l := by
  simp [at?, List.getElem?_set_self hi]

theorem set_getElem_self {as : List Alias} {i : Nat} (hi : i < as.length) : as.set i as[i] = as :=
  List.ext_getElem (by simp) fun j _ _ => by
    by_cases hij : i = j
    · subst hij
      simp
    · simp [List.getElem_set_ne hij]

/-- Back to back, `duplicate`'s two steps are `TcpListener.duplicate`: `handle_count` one
up, and a copy of the alias joins the others. -/
theorem duplicate_then_cloned {σ : Aliases} {i : Nat} {l : TcpListener}
    (hl : σ.at? i .idle = some l) :
    (σ.step network (.duplicate i)).bind (·.step network (.cloned i)) =
      some ⟨(l.duplicate σ.handleCount).2,
        σ.aliases ++ [⟨(l.duplicate σ.handleCount).1, .idle⟩], σ.sent⟩ := by
  obtain ⟨hi, ha⟩ := at?_eq_some hl
  simp only [step, hl, Option.map_some', Option.some_bind, at?_set hi, List.set_set, ← ha,
    set_getElem_self hi, duplicate_fst]

/-- Back to back, `drop`'s steps are `TcpListener.drop`: `handle_count` one down, and the
close message exactly when it was `1`. -/
theorem drop_then_close {σ : Aliases} {i : Nat} {l : TcpListener} (hl : σ.at? i .idle = some l) :
    ((σ.step network (.drop i)).bind fun σ' =>
        if σ.handleCount = 1 then σ'.step network (.close i) else some σ') =
      some ⟨(l.drop network σ.handleCount).1, σ.aliases.set i ⟨l, .dropped⟩,
        σ.sent ++ (l.drop network σ.handleCount).2.toList⟩ := by
  obtain ⟨hi, -⟩ := at?_eq_some hl
  by_cases h1 : σ.handleCount = 1
  · simp [step, hl, h1, at?_set hi, TcpListener.drop]
  · simp [step, hl, h1, TcpListener.drop]

/-! ## Nonblocking is per alias -/

/-- `set_nonblocking` on one alias leaves every other alias as it was, since `duplicate`
copies the `Cell<bool>`. After a duplicate and `set_nonblocking(true)` on the original,
the clone's `accept` still asks the server to block. -/
theorem nonblocking_not_shared (fd : Nat) (addr : SocketAddr) :
    (∀ (σ σ' : Aliases) (i j : Nat) (b : Bool), i ≠ j →
      σ.step network (.setNonblocking i b) = some σ' → σ'.aliases[j]? = σ.aliases[j]?) ∧
    (init ⟨fd, addr, false⟩).run network [.duplicate 0, .cloned 0, .setNonblocking 0 true, .accept 1] =
      some ⟨2, [⟨⟨fd, addr, true⟩, .idle⟩, ⟨⟨fd, addr, false⟩, .idle⟩],
        [acceptRequest network ⟨fd, addr, false⟩]⟩ ∧
    (acceptPage ⟨fd, addr, false⟩).get 0 = 1 := by
  refine ⟨fun σ σ' i j b hij h => ?_, rfl, rfl⟩
  obtain ⟨l, -, rfl⟩ := Option.map_eq_some'.mp h
  exact List.getElem?_set_ne hij

end Aliases
end TcpListener
end XousNet
