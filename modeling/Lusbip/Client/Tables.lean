import Lusbip.Lib.Fields

/-!
# What the client reads from `usbip`

The client keeps no record of the kernel's virtual ports or of the devices a server exports: it
asks `usbip port` and `usbip list` each time it needs to know, and takes their output apart. The
tables it gets are lists of the structures below, with what the output did not say left out.
-/

namespace Lusbip
namespace Client

open Lib
open Lib.Fields

/-- A device that the remote exports, as `usbip list` tells it. -/
structure RemoteUsbDevice where
  busId : Text
  description : Text
  deriving DecidableEq, Repr

/-- A port that is attached, as `usbip port` tells it. What it does not tell is missing. -/
structure AttachedUsbPort where
  port : Text
  remoteHost : Option Text := none
  remoteBusId : Option Text := none
  vidPid : Option Text := none
  deriving DecidableEq, Repr

/-- The device that is about to be attached. -/
structure AttachTarget where
  remoteHost : Text
  busId : Option Text
  vidPid : Option Text
  deriving DecidableEq, Repr

/-- A row: the device, the port it is attached at, and who else has it. -/
structure RemoteUsbDeviceState where
  device : RemoteUsbDevice
  attachedPort : Option Text
  occupiedBy : Option Text
  deriving DecidableEq, Repr

/-! ## Pieces of a line -/

/-- `to_ascii_lowercase` -/
def toAsciiLowercase (s : Text) : Text := s.map Char.toLower

/-- `char::is_ascii_hexdigit` -/
def isAsciiHexdigit (ch : Char) : Bool :=
  ch.isDigit || ('a' ≤ ch && ch ≤ 'f') || ('A' ≤ ch && ch ≤ 'F')

/-- What stands in the first parentheses, if it looks like `vvvv:pppp`. The source counts bytes,
    but it takes only values all of whose characters are ASCII. -/
def extractVidPid (line : Text) : Option Text := do
  let (_, rest) ← splitOnce ['('] line
  let (value, _) ← splitOnce [')'] rest
  if value.length = 9 && value[4]? = some ':' && value.all fun ch => ch = ':' || isAsciiHexdigit ch
  then some (toAsciiLowercase value)
  else none

/-- The client that a description names as the holder. -/
def extractOccupiedBy (description : Text) : Option Text := do
  let (_, rest) ← splitOnce "[occupied by ".toList description
  let (client, _) ← splitOnce [']'] rest
  let client := trim isWhitespace client
  if client = [] then none else some client

/-- The host and the bus id of a `usbip://` URL. -/
def extractUsbipUrl (line : Text) : Option (Text × Text) := do
  let (_, url) ← splitOnce "usbip://".toList line
  let (hostPort, busId) ← splitOnce ['/'] url
  let host :=
    match splitOnce [':'] hostPort with
    | some (host, _) => trim isWhitespace host
    | none => trim isWhitespace hostPort
  let busId ← (words busId).head?
  let busId := trim isWhitespace busId
  if host = [] ∨ busId = [] then none else some (host, busId)

/-! ## `usbip list` -/

/-- The loop of `unique_remote_devices`, with its `seen_bus_ids`. -/
def uniqueFrom (seenBusIds : List Text) : List RemoteUsbDevice → List RemoteUsbDevice
  | [] => []
  | device :: devices =>
      if device.busId ∈ seenBusIds then uniqueFrom seenBusIds devices
      else device :: uniqueFrom (seenBusIds ++ [device.busId]) devices

/-- Of the devices with one bus id, the first. -/
def uniqueRemoteDevices (devices : List RemoteUsbDevice) : List RemoteUsbDevice :=
  uniqueFrom [] devices

/-- A line of `usbip list`: a bus id and a description, unless it is part of the frame around them.
    -/
def parseListLine (line : Text) : Option RemoteUsbDevice :=
  let trimmed := trim isWhitespace line
  if trimmed = [] ∨ "Exportable".toList <+: trimmed ∨ ['='] <+: trimmed ∨ ['-'] <+: trimmed
      ∨ [':'] <+: trimmed then
    none
  else do
    let (busId, description) ← splitOnce [':'] trimmed
    let busId := trim isWhitespace busId
    let description := trim isWhitespace description
    if busId = [] ∨ description = [] then none else some { busId, description }

/-- The devices of a listing, each bus id once. -/
def parseUsbipListOutput (stdout : Text) : List RemoteUsbDevice :=
  uniqueRemoteDevices ((lines stdout).filterMap parseListLine)

/-! ## `usbip port` -/

/-- What a line says about the port whose block it stands in. -/
def AttachedUsbPort.readLine (port : AttachedUsbPort) (trimmed : Text) : AttachedUsbPort :=
  let port :=
    if port.vidPid = none then { port with vidPid := extractVidPid trimmed } else port
  match extractUsbipUrl trimmed with
  | some (host, busId) => { port with remoteHost := some host, remoteBusId := some busId }
  | none => port

/-- One line of the loop of `parse_usbip_port_output`: the ports that are complete, and the one
    that is being read. -/
def parsePortLine (table : List AttachedUsbPort × Option AttachedUsbPort) (line : Text) :
    List AttachedUsbPort × Option AttachedUsbPort :=
  let trimmed := trim isWhitespace line
  match stripPrefix "Port ".toList trimmed with
  | some rest =>
      let port :=
        match splitOnce [':'] rest with
        | some (value, _) => trim isWhitespace value
        | none => trim isWhitespace rest
      (table.1 ++ table.2.toList, some { port })
  | none => (table.1, table.2.map fun port => port.readLine trimmed)

/-- The ports of a listing. The last one is still open when the lines end. -/
def parseUsbipPortOutput (stdout : Text) : List AttachedUsbPort :=
  let table := (lines stdout).foldl parsePortLine ([], none)
  table.1 ++ table.2.toList

/-! ## What the parsers promise -/

theorem mem_uniqueFrom {seen : List Text} {devices : List RemoteUsbDevice}
    {device : RemoteUsbDevice} (h : device ∈ uniqueFrom seen devices) :
    device ∈ devices ∧ device.busId ∉ seen := by
  induction devices generalizing seen with
  | nil => cases h
  | cons d devices ih =>
    rw [uniqueFrom] at h
    split at h
    · obtain ⟨hm, hs⟩ := ih h
      exact ⟨List.mem_cons_of_mem d hm, hs⟩
    · next hd =>
      rcases List.mem_cons.mp h with rfl | h
      · exact ⟨List.mem_cons_self, hd⟩
      · obtain ⟨hm, hs⟩ := ih h
        exact ⟨List.mem_cons_of_mem d hm, fun hmem => hs (List.mem_append_left _ hmem)⟩

theorem nodup_uniqueFrom (seen : List Text) (devices : List RemoteUsbDevice) :
    ((uniqueFrom seen devices).map (·.busId)).Nodup := by
  induction devices generalizing seen with
  | nil => exact List.nodup_nil
  | cons d devices ih =>
    rw [uniqueFrom]
    split
    · exact ih seen
    · rw [List.map_cons, List.nodup_cons]
      refine ⟨fun hmem => ?_, ih _⟩
      obtain ⟨e, he, heq⟩ := List.mem_map.mp hmem
      exact (mem_uniqueFrom he).2
        (List.mem_append_right _ (by rw [heq]; exact List.mem_singleton_self _))

/-- A bus id that was not seen stays. -/
theorem exists_uniqueFrom {seen : List Text} {devices : List RemoteUsbDevice}
    {device : RemoteUsbDevice} (h : device ∈ devices) (hseen : device.busId ∉ seen) :
    ∃ d ∈ uniqueFrom seen devices, d.busId = device.busId := by
  induction devices generalizing seen with
  | nil => cases h
  | cons d devices ih =>
    rw [uniqueFrom]
    by_cases heq : device.busId = d.busId
    · rw [if_neg (heq ▸ hseen)]
      exact ⟨d, List.mem_cons_self, heq.symm⟩
    · have hmem : device ∈ devices :=
        List.mem_of_ne_of_mem (fun hd => heq (congrArg (·.busId) hd)) h
      split
      · exact ih hmem hseen
      · have hseen' : device.busId ∉ seen ++ [d.busId] := by
          simp [hseen, heq]
        obtain ⟨e, he, hbus⟩ := ih hmem hseen'
        exact ⟨e, List.mem_cons_of_mem d he, hbus⟩

/-- No two devices of a table have one bus id. -/
theorem nodup_uniqueRemoteDevices (devices : List RemoteUsbDevice) :
    ((uniqueRemoteDevices devices).map (·.busId)).Nodup :=
  nodup_uniqueFrom [] devices

/-- A VID:PID as the client knows it: in lower case. -/
def Lowercase (s : Text) : Prop := toAsciiLowercase s = s

theorem toLower_toLower (c : Char) : c.toLower.toLower = c.toLower := by
  rw [Char.toLower.eq_def c]
  split
  · next h =>
    refine dif_neg fun h' => ?_
    have hle : c.val.toNat ≤ 90 := h.2
    have hge : 65 ≤ c.val.toNat := h.1
    have hle' : (c.val + 32).toNat ≤ 90 := h'.2
    rw [UInt32.toNat_add] at hle'
    have h32 : (32 : UInt32).toNat = 32 := rfl
    omega
  · next h => exact dif_neg h

theorem lowercase_toAsciiLowercase (s : Text) : Lowercase (toAsciiLowercase s) := by
  rw [Lowercase, toAsciiLowercase, toAsciiLowercase, List.map_map]
  exact List.map_congr_left fun c _ => toLower_toLower c

theorem lowercase_of_extractVidPid {line vidPid : Text} (h : extractVidPid line = some vidPid) :
    Lowercase vidPid := by
  obtain ⟨parts, -, h⟩ := Option.bind_eq_some_iff.mp h
  obtain ⟨parts', -, h⟩ := Option.bind_eq_some_iff.mp h
  dsimp only at h
  split_ifs at h
  exact Option.some.inj h ▸ lowercase_toAsciiLowercase _

end Client
end Lusbip
