import Lusbip.Usb.Protocol

/-!
# What was asked of the host, and what it answered

A run of a `HostM` against a host is a list of exchanges, a call and its answer each. The outcome
says what became of the run, the exchanges say what became of the device: which bytes it was
given, which packets were taken from it, and what it refused.
-/

namespace Lusbip

/-- A call and its answer. -/
abbrev Exchange := Σ c : HostCall, c.Answer

/-- The host has answered with an error. -/
def Exchange.failed : Exchange → Bool
  | ⟨.controlIn _ _, answer⟩ => match answer with
    | .ok _ => false
    | .error _ => true
  | ⟨.controlOut _ _, answer⟩ => match answer with
    | .ok _ => false
    | .error _ => true
  | ⟨.setConfiguration _ _, answer⟩ => match answer with
    | .ok _ => false
    | .error _ => true
  | ⟨.openEndpoint _ _ _, answer⟩ => match answer with
    | .ok _ => false
    | .error _ => true
  | ⟨.maxPacketSize _ _, _⟩ => false
  | ⟨.readExact _ _ _, answer⟩ => match answer with
    | .ok _ => false
    | .error _ => true
  | ⟨.writeAll _ _ _, answer⟩ => match answer with
    | .ok _ => false
    | .error _ => true
  | ⟨.flush _ _, answer⟩ => match answer with
    | .ok _ => false
    | .error _ => true
  | ⟨.transferIn _ _ _, answer⟩ => match answer with
    | .ok _ => false
    | .error _ => true
  | ⟨.transferOut _ _ _, answer⟩ => match answer with
    | .ok _ => false
    | .error _ => true
  | ⟨.clearHalt _ _, answer⟩ => match answer with
    | .ok _ => false
    | .error _ => true

namespace HostM

variable {α β : Type} {host : Host} {n : Nat}

/-- The exchanges against a host, from its `n`-th answer on. -/
def exchangesFrom (host : Host) : Nat → HostM α → List Exchange
  | _, .ret _ => []
  | n, .call c k => ⟨c, host n c⟩ :: exchangesFrom host (n + 1) (k (host n c))

def exchanges (host : Host) (m : HostM α) : List Exchange := exchangesFrom host 0 m

@[simp] theorem exchangesFrom_ret (o : Outcome α) : exchangesFrom host n (.ret o) = [] := rfl

@[simp] theorem exchangesFrom_call (c : HostCall) (k : c.Answer → HostM α) :
    exchangesFrom host n (.call c k) =
      ⟨c, host n c⟩ :: exchangesFrom host (n + 1) (k (host n c)) := rfl

/-- What is asked first is asked of the first answer, and the rest goes on with it. -/
theorem exchangesFrom_ask {c : HostCall} {k : c.Answer → HostM α} :
    exchangesFrom host n ((ask c).bind k) =
      ⟨c, host n c⟩ :: exchangesFrom host (n + 1) (k (host n c)) := rfl

theorem outcomeFrom_ask {c : HostCall} {k : c.Answer → HostM α} :
    outcomeFrom host n ((ask c).bind k) = outcomeFrom host (n + 1) (k (host n c)) := rfl

end HostM

/-- The exchanges of `handle_usbip_cmd_submit`. -/
def submitExchanges (prof : Profile) (header : UsbIpHeaderBasic) (transferBufferLength : UInt32)
    (setup data : List UInt8) (device : UsbDevice) (host : Host) : List Exchange :=
  match device.findEp (realEp header) with
  | none => []
  | some (ep, intf) =>
      (device.handleUrb prof ep intf transferBufferLength (SetupPacket.parse setup)
        data).exchanges host

end Lusbip
