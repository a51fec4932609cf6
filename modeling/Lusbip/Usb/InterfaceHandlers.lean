import Lusbip.Lib.Transition
import Lusbip.Usb.Outcome
import Lusbip.Usb.Device

/-!
# Devices made of software

The two handlers of interfaces that no host device stands behind: a keyboard, to which key events are
queued and which reports them to whoever polls its interrupt endpoint, and the data interface of a
serial port. Both owe what was put into them, until it is asked for.
-/

namespace Lusbip

open Lib.Transition

/-- Whether this is endpoint zero. -/
def UsbEndpoint.isEp0 (ep : UsbEndpoint) : Bool := ep.address &&& 0x7F = 0

/-! ## The keyboard -/

/-- The kinds of descriptors of a HID interface. -/
inductive HidDescriptorType where
  | hid
  | report
  | physical
  deriving DecidableEq, Repr

/-- The kind of a code. -/
def HidDescriptorType.fromU16 (n : UInt16) : Option HidDescriptorType :=
  if n = 0x21 then some .hid
  else if n = 0x22 then some .report
  else if n = 0x23 then some .physical
  else none

/-- Six key codes, and the modifiers. -/
structure UsbHidKeyboardReport where
  modifier : UInt8
  keys : Vector UInt8 6
  deriving DecidableEq, Repr

/-- Whether the last report said that a key is down. -/
inductive UsbHidKeyboardHandlerState where
  | idle
  | keyDown
  deriving DecidableEq, Repr

/-- The handler of a keyboard, with the key events that have not been asked for. -/
structure UsbHidKeyboardHandler where
  reportDescriptor : List UInt8
  pendingKeyEvents : List UsbHidKeyboardReport
  state : UsbHidKeyboardHandlerState
  deriving DecidableEq, Repr

namespace UsbHidKeyboardHandler

/-- A keyboard without any event; the report descriptor is that of a boot keyboard. -/
def newKeyboard : UsbHidKeyboardHandler where
  pendingKeyEvents := []
  state := .idle
  reportDescriptor :=
    [0x05, 0x01, 0x09, 0x06, 0xA1, 0x01,
     -- The modifiers, a bit each, and a reserved byte.
     0x05, 0x07, 0x19, 0xE0, 0x29, 0xE7, 0x15, 0x00, 0x25, 0x01, 0x75, 0x01, 0x95, 0x08, 0x81, 0x02,
     0x95, 0x01, 0x75, 0x08, 0x81, 0x01,
     -- Six key codes.
     0x95, 0x06, 0x75, 0x08, 0x15, 0x00, 0x25, 0x65, 0x05, 0x07, 0x19, 0x00, 0x29, 0x65, 0x81, 0x00,
     0xC0]

/-- A request to the keyboard. Every second report says that the key is up again. -/
def handleUrb (h : UsbHidKeyboardHandler) (ep : UsbEndpoint) (setup : SetupPacket) :
    Outcome (List UInt8 × UsbHidKeyboardHandler) :=
  if ep.isEp0 then
    if setup.requestType = 0x81 ∧ setup.request = 0x06 then
      match HidDescriptorType.fromU16 (setup.value >>> 8) with
      | some .report => .ok (h.reportDescriptor, h)
      | _ => Outcome.panic (.unimplemented s!"hid descriptor {repr setup}")
    -- SET_IDLE
    else if setup.requestType = 0x21 ∧ setup.request = 0x0A then .ok ([], h)
    else Outcome.panic (.unimplemented s!"hid request {repr setup}")
  else
    match ep.direction with
    | .in =>
        match h.state with
        | .idle =>
            match h.pendingKeyEvents with
            | report :: rest =>
                .ok ([report.modifier, 0] ++ report.keys.toList,
                  { h with pendingKeyEvents := rest, state := .keyDown })
            | [] => .ok ([], h)
        | .keyDown => .ok (List.replicate 6 0, { h with state := .idle })
    | .out => .ok ([], h)

/-- What is reported for one key event: the key goes down, and then no key is. -/
def keystroke (report : UsbHidKeyboardReport) : List (List UInt8) :=
  [[report.modifier, 0] ++ report.keys.toList, List.replicate 6 0]

/-- The reports that are still to come. -/
def owed (h : UsbHidKeyboardHandler) : List (List UInt8) :=
  (match h.state with
    | .idle => []
    | .keyDown => [List.replicate 6 0]) ++ h.pendingKeyEvents.flatMap keystroke

end UsbHidKeyboardHandler

/-- A keyboard in use. -/
structure Keyboard where
  handler : UsbHidKeyboardHandler
  /-- History: the key events that were queued, and the reports that were not empty. -/
  queued : List UsbHidKeyboardReport := []
  reports : List (List UInt8) := []

namespace Keyboard

/-- What happens to the keyboard: keys are pressed here, and the other side asks. -/
inductive Action where
  /-- `pending_key_events.push_back` -/
  | press (report : UsbHidKeyboardReport)
  | urb (ep : UsbEndpoint) (setup : SetupPacket)

/-- A report is what a poll of the interrupt endpoint is answered with. -/
def isPoll (ep : UsbEndpoint) : Bool := !ep.isEp0 && ep.direction = .in

/-- Each request is answered by the handler, and the answer is noted. -/
def step (s : Keyboard) : Action → Option Keyboard
  | .press report =>
      some
        { s with
          handler := { s.handler with
            pendingKeyEvents := s.handler.pendingKeyEvents ++ [report] }
          queued := s.queued ++ [report] }
  | .urb ep setup =>
      match s.handler.handleUrb ep setup with
      | .ok (reply, handler) =>
          some
            { s with
              handler
              reports := if isPoll ep && reply ≠ [] then s.reports ++ [reply] else s.reports }
      -- The handler has panicked.
      | .error _ => none

/-- Nothing has been pressed or asked. -/
def start : Keyboard where
  handler := .newKeyboard

/-- Reports are owed until they are made, in the order of the key events. -/
def Accounted (s : Keyboard) : Prop :=
  s.reports ++ s.handler.owed = s.queued.flatMap UsbHidKeyboardHandler.keystroke

/-- A poll is answered with the first report that is owed, if there is one. -/
theorem handleUrb_poll (h : UsbHidKeyboardHandler) {ep : UsbEndpoint} (hep : isPoll ep = true)
    (setup : SetupPacket) :
    ∃ h', h.handleUrb ep setup = .ok (h.owed.headD [], h') ∧ h'.owed = h.owed.tail := by
  obtain ⟨hep0, hin⟩ := Bool.and_eq_true_iff.mp hep
  have hin : ep.direction = .in := of_decide_eq_true hin
  unfold UsbHidKeyboardHandler.handleUrb
  rw [if_neg (by simpa using hep0), hin]
  obtain ⟨descriptor, pending, state⟩ := h
  cases state with
  | keyDown => exact ⟨_, rfl, rfl⟩
  | idle =>
    cases pending with
    | nil => exact ⟨_, rfl, rfl⟩
    | cons report rest => exact ⟨_, rfl, rfl⟩

theorem eq_of_not_poll {h h' : UsbHidKeyboardHandler} {ep : UsbEndpoint} {setup : SetupPacket}
    {reply : List UInt8} (hep : isPoll ep = false) (hr : h.handleUrb ep setup = .ok (reply, h')) :
    h' = h := by
  unfold UsbHidKeyboardHandler.handleUrb at hr
  split at hr
  · split at hr
    · split at hr
      · cases hr
        rfl
      · cases hr
    · split at hr
      · cases hr
        rfl
      · cases hr
  · rename_i hep0
    cases hdir : ep.direction with
    | «in» =>
      unfold isPoll at hep
      rw [hdir, Bool.eq_false_iff.mpr hep0] at hep
      cases hep
    | out =>
      rw [hdir] at hr
      cases hr
      rfl

theorem ne_nil_of_mem_owed {h : UsbHidKeyboardHandler} {report : List UInt8}
    (hr : report ∈ h.owed) : report ≠ [] := by
  rcases List.mem_append.mp hr with hr | hr
  · split at hr
    · exact absurd hr List.not_mem_nil
    · rw [List.mem_singleton.mp hr]
      exact List.cons_ne_nil _ _
  · obtain ⟨event, -, hr⟩ := List.mem_flatMap.mp hr
    rcases List.mem_cons.mp hr with rfl | hr
    · exact List.cons_ne_nil _ _
    · rw [List.mem_singleton.mp hr]
      exact List.cons_ne_nil _ _

/-- A poll makes the next report, and no other one. -/
theorem step_poll (s : Keyboard) {ep : UsbEndpoint} (hep : isPoll ep = true) (setup : SetupPacket) :
    ∃ handler, s.step (.urb ep setup) =
        some { s with handler, reports := s.reports ++ s.handler.owed.take 1 } ∧
      handler.owed = s.handler.owed.tail := by
  obtain ⟨handler, hr, howed⟩ := handleUrb_poll s.handler hep setup
  refine ⟨handler, ?_, howed⟩
  unfold step
  dsimp only
  rw [hr, hep]
  dsimp only
  cases hfirst : s.handler.owed with
  | nil => simp
  | cons report rest =>
    have hne : report ≠ [] := ne_nil_of_mem_owed (hfirst ▸ List.mem_cons_self)
    simp [hne]

theorem Accounted.step {s t : Keyboard} (h : s.Accounted) {action : Action}
    (hs : s.step action = some t) : t.Accounted := by
  cases action with
  | press report =>
    cases hs
    show s.reports ++ UsbHidKeyboardHandler.owed _ = _
    unfold Accounted UsbHidKeyboardHandler.owed at h
    rw [UsbHidKeyboardHandler.owed, List.flatMap_append, List.flatMap_append, ← h]
    simp only [List.append_assoc]
  | urb ep setup =>
    cases hep : isPoll ep with
    | true =>
      obtain ⟨handler, hstep, howed⟩ := s.step_poll hep setup
      cases hstep.symm.trans hs
      show s.reports ++ s.handler.owed.take 1 ++ handler.owed = _
      rw [howed, List.append_assoc, ← List.drop_one, List.take_append_drop]
      exact h
    | false =>
      unfold Keyboard.step at hs
      dsimp only at hs
      split at hs
      · rename_i reply handler hr
        cases hs
        rw [eq_of_not_poll hep hr, hep]
        exact h
      · cases hs

/-- **Every key event is reported once, and in order.** However presses, polls and control requests
    follow one another: the reports made so far and those that are owed are the strokes of the
    queued key events, each a press and a release; and whenever the host polls, the next report
    that is owed is made. -/
theorem reports_keystrokes (actions : List Action) :
    Throughout step
      (fun s => s.Accounted ∧ ∀ ep setup, isPoll ep = true → ∃ t,
        s.step (.urb ep setup) = some t ∧ t.reports = s.reports ++ s.handler.owed.take 1)
      start actions := by
  refine throughout_of_step (I := Accounted) (fun s a t h hs => h.step hs) (fun s h => ⟨h, ?_⟩)
    actions rfl
  intro ep setup hep
  obtain ⟨handler, hstep, -⟩ := s.step_poll hep setup
  exact ⟨_, hstep, rfl⟩

end Keyboard

/-! ## The serial port -/

/-- The handler of a serial port, with the bytes that have not been asked for. -/
structure UsbCdcAcmHandler where
  txBuffer : List UInt8
  deriving DecidableEq, Repr

namespace UsbCdcAcmHandler

/-- A serial port with an empty buffer. -/
def new : UsbCdcAcmHandler where
  txBuffer := []

/-- Whatever is no interrupt transfer counts as a bulk transfer, control transfers too. -/
def handleUrb (h : UsbCdcAcmHandler) (ep : UsbEndpoint) : List UInt8 × UsbCdcAcmHandler :=
  if ep.attributes = EndpointAttributes.interrupt.toU8 then ([], h)
  else
    match ep.direction with
    | .out => ([], h)
    | .in => (h.txBuffer, { txBuffer := [] })

end UsbCdcAcmHandler

/-- A serial port in use. -/
structure SerialPort where
  handler : UsbCdcAcmHandler
  /-- History: the bytes that were put into the buffer, and the replies. -/
  written : List UInt8 := []
  replies : List (List UInt8) := []

namespace SerialPort

/-- What happens to the serial port: bytes are written here, and the other side asks. -/
inductive Action where
  /-- `tx_buffer.extend` -/
  | write (bytes : List UInt8)
  | urb (ep : UsbEndpoint)

/-- Each request is answered by the handler, and the answer is noted. -/
def step (s : SerialPort) : Action → Option SerialPort
  | .write bytes =>
      some
        { s with
          handler := { txBuffer := s.handler.txBuffer ++ bytes }
          written := s.written ++ bytes }
  | .urb ep =>
      let (reply, handler) := s.handler.handleUrb ep
      some { s with handler, replies := s.replies ++ [reply] }

/-- Nothing has been written or asked. -/
def start : SerialPort where
  handler := .new

/-- The replies and what is still in the buffer are what was written. -/
def Accounted (s : SerialPort) : Prop := s.replies.flatten ++ s.handler.txBuffer = s.written

theorem handleUrb_buffer (h : UsbCdcAcmHandler) (ep : UsbEndpoint) :
    (h.handleUrb ep).1 ++ (h.handleUrb ep).2.txBuffer = h.txBuffer := by
  unfold UsbCdcAcmHandler.handleUrb
  split
  · rfl
  · split
    · rfl
    · exact List.append_nil _

/-- **No byte is lost, repeated or overtaken**, however writes and requests follow one another. -/
theorem replies_written (actions : List Action) : Throughout step Accounted start actions := by
  refine throughout_of_step (I := Accounted) (fun s a t h hs => ?_) (fun _ h => h) actions rfl
  cases a with
  | write bytes =>
    cases hs
    show s.replies.flatten ++ (s.handler.txBuffer ++ bytes) = s.written ++ bytes
    rw [← List.append_assoc]
    exact congrArg (· ++ bytes) h
  | urb ep =>
    cases hs
    show (s.replies ++ [(s.handler.handleUrb ep).1]).flatten ++ (s.handler.handleUrb ep).2.txBuffer =
      s.written
    rw [List.flatten_append, List.flatten_singleton, List.append_assoc, handleUrb_buffer]
    exact h

end SerialPort
end Lusbip
