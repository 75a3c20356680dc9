import XousNet.Wire.Addr

/-! The Xous IPC surface the shim is written against: the messages it sends, what
the kernel hands back, and the `io::Error` values it returns. -/
namespace XousNet

/-- `MemorySize::new` and `MemoryAddress::new`: a `NonZeroUsize`, `None` for zero. -/
def nonZero (n : Nat) : Option Nat := if n = 0 then none else some n

/-- `base | (fd << 16)` in the 32-bit `usize` of the Xous targets: an opcode and the
handle it is addressed to. -/
def opcode (base fd : Nat) : Nat := base ||| fd <<< 16 % 2 ^ 32

/-- A message as `Message::new_lend_mut(id, buf, offset, valid)` and
`Message::new_blocking_scalar(id, arg1, arg2, arg3, arg4)` build it. -/
inductive Message
  | lendMut (id : Nat) (buf : Page) (offset valid : Option Nat)
  | blockingScalar (id arg1 arg2 arg3 arg4 : Nat)
deriving DecidableEq

structure Envelope where
  cid : Nat
  msg : Message
deriving DecidableEq

/-- The variants of `xous::Result` the shim tells apart; it treats the others as it
treats `ok`. A lend comes back as `memoryReturned` with the page as the server left it. -/
inductive XousResult
  | ok
  | scalar1 (a : Nat)
  | memoryReturned (offset valid : Option Nat) (raw : Page)

/-- `xous::Error`; the shim never looks inside it, so its code is left out. -/
structure XousError

abbrev Reply := Except XousError XousResult

/-- One `xous::send_message` of an operation: the envelope it sends and what it makes of
the reply. Every operation of the shim that talks to the network server is one such
call, run against the server. -/
structure SendMessage (α : Type) where
  envelope : Envelope
  decode : Reply → α

namespace SendMessage
variable {α : Type}

def run (c : SendMessage α) (send : Envelope → Reply) : α := c.decode (send c.envelope)

/-- The call against a server that answers by `server` and logs every envelope it is
sent after `sent`. -/
def logged (c : SendMessage α) (server : Envelope → Reply) (sent : List Envelope) :
    α × List Envelope :=
  (c.run server, sent ++ [c.envelope])

@[simp] theorem run_mk (e : Envelope) (decode : Reply → α) (send : Envelope → Reply) :
    (⟨e, decode⟩ : SendMessage α).run send = decode (send e) := rfl

end SendMessage

inductive ErrorKind
  | invalidInput
  | resourceBusy
  | other
  | timedOut
  | wouldBlock
  | unsupported
deriving DecidableEq

structure IoError where
  kind : ErrorKind
  msg : String
deriving DecidableEq

abbrev IoResult (α : Type) := Except IoError α

def unimpl {α : Type} : IoResult α :=
  .error ⟨.unsupported, "This function is not yet implemented"⟩

/-- `Ok(value)` of a scalar reply: `Err` for a failed send or any other variant. -/
def scalarValue (reply : Reply) : IoResult Nat :=
  match reply with
  | .ok (.scalar1 a) => .ok a
  | _ => .error ⟨.invalidInput, "Unexpected return value"⟩

/-- `.or(Err(..)).map(|_| ())` of a scalar reply. -/
def scalarUnit (reply : Reply) : IoResult Unit :=
  match reply with
  | .ok _ => .ok ()
  | .error _ => .error ⟨.invalidInput, "Unexpected return value"⟩

/-! ## Opcodes -/

theorem shiftLeft_lt {fd : Nat} (h : fd < 2 ^ 16) : fd <<< 16 < 2 ^ 32 := by
  rw [Nat.shiftLeft_eq]
  omega

/-- For a handle below `2 ^ 16` and a base below `2 ^ 16`, the two halves of the
opcode are the base and the handle. -/
theorem opcode_halves {base fd : Nat} (hb : base < 2 ^ 16) (hfd : fd < 2 ^ 16) :
    opcode base fd % 2 ^ 16 = base ∧ opcode base fd >>> 16 = fd := by
  have hlt := shiftLeft_lt hfd
  have hor : opcode base fd = base + fd * 2 ^ 16 := by
    rw [opcode, Nat.mod_eq_of_lt hlt, Nat.shiftLeft_eq, Nat.or_comm, Nat.mul_comm,
      ← Nat.mul_add_lt_is_or hb]
    omega
  rw [hor, Nat.shiftRight_eq_div_pow]
  omega

end XousNet
