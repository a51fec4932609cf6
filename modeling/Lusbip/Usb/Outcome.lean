import Mathlib.Data.UInt

/-!
# What a call of the server returns

Three things can come out of a Rust function of this program: a value, an `io::Error` that
`?` hands to the caller, or a panic that unwinds the task. The last one matters here: a
panic leaves `handler` past the code that releases the imported device. So `Outcome` keeps
the two failures apart.

Arithmetic depends on the build. The `dev` profile checks it and panics on overflow, the
`release` profile wraps; debug assertions are compiled into the first one only. `Profile`
is a parameter of every function that computes with machine integers or asserts.
-/

namespace Lusbip

/-- The cargo profile the server was built with. -/
inductive Profile where
  | dev
  | release
  deriving DecidableEq, Repr

/-- `std::io::ErrorKind`, as far as the program names kinds. -/
inductive ErrorKind where
  | unexpectedEof
  | timedOut
  | notFound
  | brokenPipe
  | other
  deriving DecidableEq, Repr

/-- `nusb::transfer::TransferError`. -/
inductive TransferError where
  | cancelled
  | stall
  | disconnected
  | fault
  | invalidArgument
  | unknown (code : UInt32)
  deriving DecidableEq, Repr

/-- `nusb::Error`; the program only prints it. -/
structure UsbError where
  message : String
  deriving DecidableEq, Repr

/-- `std::io::Error`, with the two conversions `?` applies to errors of the USB library. -/
inductive IoError where
  | new (kind : ErrorKind) (message : String)
  | transfer (err : TransferError)
  | usb (err : UsbError)
  deriving DecidableEq, Repr

namespace IoError

/-- `std::io::Error::other`. -/
def other (message : String) : IoError := .new .other message

def kind : IoError → ErrorKind
  | .new k _ => k
  | .transfer _ => .other
  | .usb _ => .other

end IoError

/-- The panics the source can run into. -/
inductive Panic where
  | unimplemented (message : String)
  | indexOutOfBounds (index length : Nat)
  | unwrapNone
  | arithmeticOverflow
  | divisionByZero
  | assertion
  | explicit (message : String)
  deriving DecidableEq, Repr

/-- Why a function did not return a value. -/
inductive Stop where
  | err (e : IoError)
  | panic (p : Panic)
  deriving DecidableEq, Repr

abbrev Outcome (α : Type) := Except Stop α

namespace Outcome

/-- `Err(e)` -/
def err {α : Type} (e : IoError) : Outcome α := .error (.err e)

/-- An unwinding panic. -/
def panic {α : Type} (p : Panic) : Outcome α := .error (.panic p)

/-- `Option::unwrap` -/
def unwrap {α : Type} : Option α → Outcome α
  | some a => .ok a
  | none => panic .unwrapNone

/-- The call came back to its caller, with a value or an error. -/
def Returns {α : Type} : Outcome α → Prop
  | .error (.panic _) => False
  | _ => True

@[simp] theorem returns_ok {α : Type} (a : α) : Returns (.ok a : Outcome α) := trivial

@[simp] theorem returns_error_err {α : Type} (e : IoError) :
    Returns (.error (.err e) : Outcome α) := trivial

@[simp] theorem not_returns_error_panic {α : Type} (p : Panic) :
    ¬ Returns (.error (.panic p) : Outcome α) := id

@[simp] theorem not_returns_panic {α : Type} (p : Panic) :
    ¬ Returns (panic p : Outcome α) := id

theorem bind_eq_ok {α β : Type} {o : Outcome α} {f : α → Outcome β} {b : β} :
    o >>= f = .ok b ↔ ∃ a, o = .ok a ∧ f a = .ok b := by
  cases o with
  | ok a => exact ⟨fun h => ⟨a, rfl, h⟩, fun ⟨_, rfl, h⟩ => h⟩
  | error s => exact ⟨fun h => (nomatch h), fun ⟨_, h, _⟩ => (nomatch h)⟩

theorem bind_ne_err {α β : Type} {o : Outcome α} {f : α → Outcome β} {e : IoError}
    (ho : o ≠ .error (.err e)) (hf : ∀ a, f a ≠ .error (.err e)) : o >>= f ≠ .error (.err e) := by
  cases o with
  | ok a => exact hf a
  | error s => exact fun h => ho (congrArg Except.error (Except.error.inj h))

theorem map_eq_ok {α β : Type} {o : Outcome α} {f : α → β} {b : β} :
    o.map f = .ok b ↔ ∃ a, o = .ok a ∧ f a = b := by
  cases o with
  | ok a => exact ⟨fun h => ⟨a, rfl, Except.ok.inj h⟩, fun ⟨_, rfl, h⟩ => congrArg _ h⟩
  | error s => exact ⟨fun h => (nomatch h), fun ⟨_, h, _⟩ => (nomatch h)⟩

@[simp] theorem unwrap_some {α : Type} (a : α) : unwrap (some a) = .ok a := rfl

end Outcome

/-! ## Machine arithmetic under a profile -/

/-- `debug_assert!` -/
def debugAssert (prof : Profile) (c : Prop) [Decidable c] : Outcome Unit :=
  if prof = .dev ∧ ¬ c then Outcome.panic .assertion else .ok ()

/-- `a + b` on `u8`. -/
def addU8 (prof : Profile) (a b : UInt8) : Outcome UInt8 :=
  if prof = .dev ∧ 256 ≤ a.toNat + b.toNat then Outcome.panic .arithmeticOverflow
  else .ok (a + b)

/-- `a * b` on `u8`. -/
def mulU8 (prof : Profile) (a b : UInt8) : Outcome UInt8 :=
  if prof = .dev ∧ 256 ≤ a.toNat * b.toNat then Outcome.panic .arithmeticOverflow
  else .ok (a * b)

theorem addU8_returns_iff {prof : Profile} {a b : UInt8} :
    (addU8 prof a b).Returns ↔ (prof = .dev → a.toNat + b.toNat < 256) := by
  unfold addU8
  by_cases h : prof = .dev ∧ 256 ≤ a.toNat + b.toNat
  · rw [if_pos h]
    exact iff_of_false (Outcome.not_returns_panic _) fun hlt => by have := hlt h.1; omega
  · rw [if_neg h]
    exact iff_of_true (Outcome.returns_ok _) fun hp => by
      by_contra hge
      exact h ⟨hp, by omega⟩

theorem addU8_of_lt {prof : Profile} {a b : UInt8} (h : prof = .dev → a.toNat + b.toNat < 256) :
    addU8 prof a b = .ok (a + b) :=
  if_neg fun hge => by have := h hge.1; omega

theorem mulU8_of_lt {prof : Profile} {a b : UInt8} (h : prof = .dev → a.toNat * b.toNat < 256) :
    mulU8 prof a b = .ok (a * b) :=
  if_neg fun hge => by have := h hge.1; omega

theorem mulU8_of_le {a b : UInt8} (h : 256 ≤ a.toNat * b.toNat) :
    mulU8 .dev a b = Outcome.panic .arithmeticOverflow :=
  if_pos ⟨rfl, h⟩

/-- `a - b` on `u32`. -/
def subU32 (prof : Profile) (a b : UInt32) : Outcome UInt32 :=
  if prof = .dev ∧ a.toNat < b.toNat then Outcome.panic .arithmeticOverflow
  else .ok (a - b)

/-- `a / b` on `usize`; dividing by zero panics in every build. -/
def divUsize (a b : Nat) : Outcome Nat :=
  if b = 0 then Outcome.panic .divisionByZero else .ok (a / b)

end Lusbip
