import Lusbip.Usb.Outcome

/-!
# The host side: calls into the USB library

The USB library is not part of the repository. What the server does with it is a sequence
of calls, each of which the host answers in its own way. `HostM` is the tree of these
calls: a computation has an outcome, or it makes a call and goes on with the answer. A
statement about *every* host is then a statement about every way to answer the calls, and
the calls themselves stay visible, which is what a statement about what was forwarded
where needs.

A `Device` is the handle of one physical device, from the moment it is plugged in until it
is unplugged: plugging it in again gives another one. An `Interface` is a claimed interface
of a device, with its interface number.
-/

namespace Lusbip

/-- `nusb::Device`: the handle opened on one physical device. -/
structure Device where
  plug : Nat
  deriving DecidableEq, Repr

/-- `nusb::Interface`: a claimed interface. -/
structure Interface where
  device : Device
  interfaceNumber : UInt8
  deriving DecidableEq, Repr

/-- `nusb::transfer::ControlType` -/
inductive ControlType where
  | standard
  | classSpecific
  | vendor
  deriving DecidableEq, Repr

/-- `nusb::transfer::Recipient` -/
inductive Recipient where
  | device
  | interface
  | endpoint
  | other
  deriving DecidableEq, Repr

/-- `nusb::transfer::ControlIn` -/
structure ControlIn where
  controlType : ControlType
  recipient : Recipient
  request : UInt8
  value : UInt16
  index : UInt16
  length : UInt16
  deriving DecidableEq, Repr

/-- `nusb::transfer::ControlOut` -/
structure ControlOut where
  controlType : ControlType
  recipient : Recipient
  request : UInt8
  value : UInt16
  index : UInt16
  data : List UInt8
  deriving DecidableEq, Repr

/-- The handle a control transfer goes through. -/
inductive ControlHandle where
  | interface (i : Interface)
  | device (d : Device)
  deriving DecidableEq, Repr

/-- The calls the transfer code makes. Buffers are given by the length that is requested,
    timeouts are part of how the host answers. -/
inductive HostCall where
  | controlIn (h : ControlHandle) (c : ControlIn)
  | controlOut (h : ControlHandle) (c : ControlOut)
  | setConfiguration (d : Device) (value : UInt8)
  | openEndpoint (i : Interface) (attributes address : UInt8)
  | maxPacketSize (i : Interface) (address : UInt8)
  | readExact (i : Interface) (address : UInt8) (length : Nat)
  | writeAll (i : Interface) (address : UInt8) (bytes : List UInt8)
  | flush (i : Interface) (address : UInt8)
  | transferIn (i : Interface) (address : UInt8) (length : Nat)
  | transferOut (i : Interface) (address : UInt8) (bytes : List UInt8)
  | clearHalt (i : Interface) (address : UInt8)
  deriving DecidableEq, Repr

/-- What the host answers to a call. -/
def HostCall.Answer : HostCall → Type
  | .controlIn _ _ => Except TransferError (List UInt8)
  | .controlOut _ _ => Except TransferError Unit
  | .setConfiguration _ _ => Except UsbError Unit
  | .openEndpoint _ _ _ => Except UsbError Unit
  | .maxPacketSize _ _ => Nat
  | .readExact _ _ _ => Except IoError (List UInt8)
  | .writeAll _ _ _ => Except IoError Unit
  | .flush _ _ => Except IoError Unit
  | .transferIn _ _ _ => Except TransferError (List UInt8)
  | .transferOut _ _ _ => Except TransferError Unit
  | .clearHalt _ _ => Except UsbError Unit

/-- `nusb::transfer::Buffer::new`: an empty buffer that takes `requestedLen` bytes. The
    library keeps the requested length as a `u32`, and documents a panic at one that does not
    fit; no transfer is submitted then. The build does not matter. -/
def Buffer.new (requestedLen : Nat) : Outcome Nat :=
  if requestedLen < 2 ^ 32 then .ok requestedLen else Outcome.panic .arithmeticOverflow

theorem Buffer.new_eq_ok {requestedLen n : Nat} :
    Buffer.new requestedLen = .ok n ↔ requestedLen < 2 ^ 32 ∧ n = requestedLen := by
  unfold Buffer.new
  split
  · rename_i hlt
    exact ⟨fun h => ⟨hlt, (Except.ok.inj h).symm⟩, fun h => congrArg Except.ok h.2.symm⟩
  · rename_i hge
    exact iff_of_false (fun h => nomatch h) fun h => hge h.1

/-- A host, as one run meets it: the answer to the `n`-th call. -/
abbrev Host := Nat → (c : HostCall) → c.Answer

/-- The host of a device that has been pulled out: every call fails. -/
def Host.disconnected : Host := fun _ c =>
  match c with
  | .controlIn _ _ => .error .disconnected
  | .controlOut _ _ => .error .disconnected
  | .setConfiguration _ _ => .error ⟨"disconnected"⟩
  | .openEndpoint _ _ _ => .error ⟨"disconnected"⟩
  | .maxPacketSize _ _ => (64 : Nat)
  | .readExact _ _ _ => .error (.transfer .disconnected)
  | .writeAll _ _ _ => .error (.transfer .disconnected)
  | .flush _ _ => .error (.transfer .disconnected)
  | .transferIn _ _ _ => .error .disconnected
  | .transferOut _ _ _ => .error .disconnected
  | .clearHalt _ _ => .error ⟨"disconnected"⟩

/-- The host that answers the `n`-th call with `r`, if it is the call `c`, and else as before. -/
def Host.answering (host : Host) (n : Nat) {c : HostCall} (r : c.Answer) : Host := fun i d =>
  if h : i = n ∧ d = c then h.2 ▸ r else host i d

@[simp] theorem Host.answering_self (host : Host) (n : Nat) {c : HostCall} (r : c.Answer) :
    host.answering n r n c = r := by
  simp [Host.answering]

theorem Host.answering_of_ne {host : Host} {n i : Nat} {c d : HostCall} {r : c.Answer}
    (h : ¬ (i = n ∧ d = c)) : host.answering n r i d = host i d :=
  dif_neg h

/-- A computation that calls the host. -/
inductive HostM (α : Type) where
  | ret (o : Outcome α)
  | call (c : HostCall) (k : c.Answer → HostM α)

namespace HostM

variable {α β : Type}

def bind (f : α → HostM β) : HostM α → HostM β
  | .ret (.ok a) => f a
  | .ret (.error s) => .ret (.error s)
  | .call c k => .call c fun r => bind f (k r)

instance : Monad HostM where
  pure a := .ret (.ok a)
  bind m f := m.bind f

/-- Make one call. -/
def ask (c : HostCall) : HostM c.Answer := .call c fun r => .ret (.ok r)

/-- The `?` operator on a USB transfer. -/
def ofTransfer : Except TransferError α → HostM α
  | .ok a => .ret (.ok a)
  | .error e => .ret (.error (.err (.transfer e)))

/-- The `?` operator on a USB library call. -/
def ofUsb : Except UsbError α → HostM α
  | .ok a => .ret (.ok a)
  | .error e => .ret (.error (.err (.usb e)))

/-- The `?` operator on an I/O call. -/
def ofIo : Except IoError α → HostM α
  | .ok a => .ret (.ok a)
  | .error e => .ret (.error (.err e))

/-- The outcome when the host answers as `host` does, from its `n`-th call on. -/
def outcomeFrom (host : Host) : Nat → HostM α → Outcome α
  | _, .ret o => o
  | n, .call c k => outcomeFrom host (n + 1) (k (host n c))

/-- The outcome against a host. -/
def outcome (host : Host) (m : HostM α) : Outcome α := outcomeFrom host 0 m

/-- The calls made against a host, in order. -/
def callsFrom (host : Host) : Nat → HostM α → List HostCall
  | _, .ret _ => []
  | n, .call c k => c :: callsFrom host (n + 1) (k (host n c))

/-- No answers of the host make the computation panic. -/
def NoPanic : HostM α → Prop
  | .ret o => o.Returns
  | .call _ k => ∀ r, NoPanic (k r)

/-- Against hosts whose answers are allowed, every value returned meets `post`: the weakest
    precondition of the computation, a failure of which counts as no value. -/
def Ensures (allowed : (c : HostCall) → c.Answer → Prop) (post : α → Prop) : HostM α → Prop
  | .ret o => ∀ a, o = .ok a → post a
  | .call c k => ∀ r, allowed c r → Ensures allowed post (k r)

theorem bind_eq (m : HostM α) (f : α → HostM β) : (m >>= f) = m.bind f := rfl

@[simp] theorem bind_ret_ok (a : α) (f : α → HostM β) : (HostM.ret (.ok a)).bind f = f a := rfl

@[simp] theorem bind_ret_error (s : Stop) (f : α → HostM β) :
    (HostM.ret (.error s)).bind f = .ret (.error s) := rfl

/-- A computation that cannot panic returns, whatever the host is. -/
theorem NoPanic.returns {m : HostM α} (h : m.NoPanic) (host : Host) :
    (m.outcome host).Returns := by
  suffices ∀ n, (outcomeFrom host n m).Returns from this 0
  induction m with
  | ret o => exact fun _ => h
  | call c k ih => exact fun n => ih _ (h _) (n + 1)

/-- Sequencing: if neither part can panic, the whole cannot. -/
theorem NoPanic.bind {m : HostM α} {f : α → HostM β} (hm : m.NoPanic)
    (hf : ∀ a, (f a).NoPanic) : (m.bind f).NoPanic := by
  induction m with
  | ret o =>
    cases o with
    | ok a => exact hf a
    | error s =>
      cases s with
      | err e => trivial
      | panic p => exact hm
  | call c k ih => exact fun r => ih r (hm r)

theorem noPanic_ask (c : HostCall) : (ask c).NoPanic := fun _ => trivial

theorem noPanic_ofTransfer (r : Except TransferError α) : (ofTransfer r).NoPanic := by
  cases r <;> trivial

/-! ## What a computation ensures -/

section Ensures

variable {allowed : (c : HostCall) → c.Answer → Prop} {post : α → Prop}

@[simp] theorem ensures_ret_ok (a : α) : Ensures allowed post (.ret (.ok a)) ↔ post a :=
  ⟨fun h => h a rfl, fun h _ ha => Except.ok.inj ha ▸ h⟩

@[simp] theorem ensures_ret_error (s : Stop) : Ensures allowed post (.ret (.error s)) :=
  fun _ h => nomatch h

theorem ensures_pure (a : α) : Ensures allowed post (pure a) ↔ post a := ensures_ret_ok a

/-- Sequencing. -/
theorem ensures_bind {post : β → Prop} {m : HostM α} {f : α → HostM β} :
    (m.bind f).Ensures allowed post ↔ m.Ensures allowed fun a => (f a).Ensures allowed post := by
  induction m with
  | ret o =>
    cases o with
    | ok a =>
      rw [ensures_ret_ok]
      exact Iff.rfl
    | error s => exact iff_of_true (ensures_ret_error s) (ensures_ret_error s)
  | call c k ih => exact forall_congr' fun r => imp_congr_right fun _ => ih r

theorem ensures_ask {c : HostCall} {post : c.Answer → Prop} :
    (ask c).Ensures allowed post ↔ ∀ r, allowed c r → post r :=
  forall_congr' fun r => imp_congr_right fun _ => ensures_ret_ok r

/-- A call, and what is done with its answer. -/
theorem ensures_ask_bind {c : HostCall} {k : c.Answer → HostM α} :
    ((ask c).bind k).Ensures allowed post ↔ ∀ r, allowed c r → (k r).Ensures allowed post := by
  rw [ensures_bind, ensures_ask]

theorem outcomeFrom_answering {host : Host} {n i : Nat} {c : HostCall} {r : c.Answer}
    (h : n < i) (m : HostM α) : outcomeFrom (host.answering n r) i m = outcomeFrom host i m := by
  induction m generalizing i with
  | ret o => rfl
  | call d k ih =>
    have hd : ¬ (i = n ∧ d = c) := fun hd => by omega
    rw [outcomeFrom, outcomeFrom, Host.answering_of_ne hd]
    exact ih _ (by omega)

/-- Whether it fails or not, a computation ensures what every value meets. -/
theorem ensures_of_forall (h : ∀ a, post a) (m : HostM α) : m.Ensures allowed post := by
  induction m with
  | ret o => exact fun a _ => h a
  | call c k ih => exact fun r _ => ih r

theorem Ensures.outcomeFrom {m : HostM α} (h : m.Ensures allowed post) {host : Host}
    (hh : ∀ n c, allowed c (host n c)) {n : Nat} {a : α} (ha : outcomeFrom host n m = .ok a) :
    post a := by
  induction m generalizing n with
  | ret o => exact h a ha
  | call c k ih => exact ih _ (h _ (hh n c)) ha

/-- **What a computation ensures is what it returns against every allowed host**, if there is
    an allowed answer to every call. -/
theorem ensures_iff (hn : ∀ c, ∃ r, allowed c r) {m : HostM α} :
    m.Ensures allowed post ↔
      ∀ host : Host, (∀ n c, allowed c (host n c)) → ∀ a, m.outcome host = .ok a → post a := by
  refine ⟨fun h host hh a => h.outcomeFrom hh, fun h => ?_⟩
  suffices ∀ n, (∀ host : Host, (∀ n c, allowed c (host n c)) →
      ∀ a, HostM.outcomeFrom host n m = .ok a → post a) → m.Ensures allowed post from this 0 h
  clear h
  induction m with
  | ret o =>
    intro n h
    obtain ⟨default, hdefault⟩ := Classical.axiomOfChoice hn
    exact h (fun _ c => default c) fun _ c => hdefault c
  | call c k ih =>
    intro n h r hr
    -- The host answers this call with `r`, and the calls after it as `host` does.
    refine ih r (n + 1) fun host hh a ha => h (host.answering n r) (fun i d => ?_) a ?_
    · by_cases hd : i = n ∧ d = c
      · obtain ⟨rfl, rfl⟩ := hd
        rw [Host.answering_self]
        exact hr
      · rw [Host.answering_of_ne hd]
        exact hh i d
    · rw [HostM.outcomeFrom, Host.answering_self, outcomeFrom_answering (Nat.lt_succ_self n)]
      exact ha

end Ensures

end HostM

end Lusbip
