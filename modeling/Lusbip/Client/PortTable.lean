import Lusbip.Client.Tables

/-!
# The blocks of the port table

`usbip port` writes a block of lines for each port. The parser reads line by line and carries the
record of the port it is in. What it comes to is said here block by block: a `PortBlock` is a line
that starts with `Port ` and the lines behind it, up to the next such line.
-/

namespace Lusbip
namespace Client

open Lib
open Lib.Fields

variable {stdout line : Text} {ls before : List Text} {port : AttachedUsbPort}

/-- What stands behind `Port ` in a line that starts so. -/
def portLine? (line : Text) : Option Text := stripPrefix "Port ".toList (trim isWhitespace line)

structure PortBlock where
  /-- What stands behind `Port `. -/
  header : Text
  body : List Text
  deriving DecidableEq, Repr

def portBlocks : List Text → List PortBlock
  | [] => []
  | line :: ls =>
      match portLine? line with
      | some header => ⟨header, ls.takeWhile fun l => (portLine? l).isNone⟩ :: portBlocks ls
      | none => portBlocks ls

/-! ## What a block says -/

/-- The number of the port. -/
def PortBlock.number (block : PortBlock) : Text :=
  match splitOnce [':'] block.header with
  | some (value, _) => trim isWhitespace value
  | none => trim isWhitespace block.header

/-- The VID:PID of the first line that has one. -/
def firstVidPid (body : List Text) : Option Text :=
  body.findSome? fun line => extractVidPid (trim isWhitespace line)

/-- The URL of the last line that has one. -/
def lastUrl (body : List Text) : Option (Text × Text) :=
  (body.filterMap fun line => extractUsbipUrl (trim isWhitespace line)).getLast?

def PortBlock.record (block : PortBlock) : AttachedUsbPort where
  port := block.number
  remoteHost := (lastUrl block.body).map (·.1)
  remoteBusId := (lastUrl block.body).map (·.2)
  vidPid := firstVidPid block.body

/-- The parser, on lines. -/
def parsePorts (ls : List Text) : List AttachedUsbPort :=
  (ls.foldl parsePortLine ([], none)).1 ++ (ls.foldl parsePortLine ([], none)).2.toList

theorem parseUsbipPortOutput_eq (stdout : Text) :
    parseUsbipPortOutput stdout = parsePorts (lines stdout) := rfl

/-! ## Reading a block -/

/-- A VID:PID that is there stays; a URL takes the place of an earlier one. -/
theorem readLine_eq (port : AttachedUsbPort) (trimmed : Text) :
    port.readLine trimmed =
      { port := port.port
        remoteHost := ((extractUsbipUrl trimmed).map (·.1)).or port.remoteHost
        remoteBusId := ((extractUsbipUrl trimmed).map (·.2)).or port.remoteBusId
        vidPid := port.vidPid.or (extractVidPid trimmed) } := by
  obtain ⟨number, host, busId, vidPid⟩ := port
  unfold AttachedUsbPort.readLine
  cases vidPid <;> cases extractUsbipUrl trimmed <;> rfl

def AttachedUsbPort.readLines (port : AttachedUsbPort) (body : List Text) : AttachedUsbPort :=
  body.foldl (fun port line => port.readLine (trim isWhitespace line)) port

theorem firstVidPid_cons (line : Text) (body : List Text) :
    firstVidPid (line :: body) =
      (extractVidPid (trim isWhitespace line)).or (firstVidPid body) := by
  rw [firstVidPid, List.findSome?_cons]
  cases extractVidPid (trim isWhitespace line) <;> rfl

theorem lastUrl_cons (line : Text) (body : List Text) :
    lastUrl (line :: body) = (lastUrl body).or (extractUsbipUrl (trim isWhitespace line)) := by
  rw [lastUrl, lastUrl, List.filterMap_cons]
  cases extractUsbipUrl (trim isWhitespace line) with
  | none => exact (Option.or_none).symm
  | some url =>
    dsimp only
    rw [List.getLast?_cons]
    cases (body.filterMap fun line => extractUsbipUrl (trim isWhitespace line)).getLast? <;> rfl

/-- The first VID:PID stays, and the last URL. -/
theorem readLines_eq (port : AttachedUsbPort) (body : List Text) :
    port.readLines body =
      { port := port.port
        remoteHost := ((lastUrl body).map (·.1)).or port.remoteHost
        remoteBusId := ((lastUrl body).map (·.2)).or port.remoteBusId
        vidPid := port.vidPid.or (firstVidPid body) } := by
  induction body generalizing port with
  | nil => simp [AttachedUsbPort.readLines, lastUrl, firstVidPid]
  | cons line body ih =>
    have hstep : port.readLines (line :: body) =
        (port.readLine (trim isWhitespace line)).readLines body := rfl
    rw [hstep, ih, readLine_eq, lastUrl_cons, firstVidPid_cons]
    simp only [Option.map_or, Option.or_assoc]

theorem record_eq (block : PortBlock) :
    block.record = AttachedUsbPort.readLines { port := block.number } block.body := by
  rw [readLines_eq]
  simp [PortBlock.record]

/-! ## The loop -/

theorem parsePortLine_of_port {header : Text} (h : portLine? line = some header)
    (table : List AttachedUsbPort × Option AttachedUsbPort) :
    parsePortLine table line =
      (table.1 ++ table.2.toList, some { port := PortBlock.number ⟨header, []⟩ }) := by
  rw [portLine?] at h
  simp only [parsePortLine, h]
  rfl

theorem parsePortLine_of_body (h : portLine? line = none)
    (table : List AttachedUsbPort × Option AttachedUsbPort) :
    parsePortLine table line =
      (table.1, table.2.map fun port => port.readLine (trim isWhitespace line)) := by
  rw [portLine?] at h
  simp only [parsePortLine, h]

/-- **What the loop has, and what it will come to**: the ports that are complete, the one that is
    being read with the lines up to the next block, and the blocks. -/
theorem foldl_parsePortLine (ls : List Text) (done : List AttachedUsbPort)
    (current : Option AttachedUsbPort) :
    (ls.foldl parsePortLine (done, current)).1 ++
        (ls.foldl parsePortLine (done, current)).2.toList =
      done ++ (current.map fun port =>
          port.readLines (ls.takeWhile fun l => (portLine? l).isNone)).toList ++
        (portBlocks ls).map PortBlock.record := by
  induction ls generalizing done current with
  | nil => cases current <;> simp [AttachedUsbPort.readLines, portBlocks]
  | cons line ls ih =>
    cases h : portLine? line with
    | some header =>
      -- A new block: the record that was being read is complete, and has no more lines.
      have hhead : (current.map fun port =>
          port.readLines ((line :: ls).takeWhile fun l => (portLine? l).isNone)) = current := by
        rw [List.takeWhile_cons_of_neg (by simp [h])]
        cases current <;> rfl
      rw [List.foldl_cons, parsePortLine_of_port h, ih, hhead, portBlocks, h]
      simp only [List.map_cons, record_eq]
      simp [PortBlock.number]
    | none =>
      -- A line of the block, or one in front of the first block, which no record reads.
      have hbody : (current.map fun port =>
          port.readLines ((line :: ls).takeWhile fun l => (portLine? l).isNone)) =
          (current.map fun port => port.readLine (trim isWhitespace line)).map fun port =>
            port.readLines (ls.takeWhile fun l => (portLine? l).isNone) := by
        rw [List.takeWhile_cons_of_pos (by simp [h])]
        cases current <;> rfl
      rw [List.foldl_cons, parsePortLine_of_body h, ih, hbody, portBlocks, h]

theorem parsePorts_eq (ls : List Text) : parsePorts ls = (portBlocks ls).map PortBlock.record := by
  rw [parsePorts, foldl_parsePortLine]
  rfl

/-! ## Blocks stand side by side -/

/-- The lines start with a block, or there are none. -/
def StartsWithPort (ls : List Text) : Prop := ∀ line ∈ ls.head?, (portLine? line).isSome = true

theorem takeWhile_append_of_startsWithPort {rest : List Text} (h : StartsWithPort rest)
    (ls : List Text) :
    (ls ++ rest).takeWhile (fun l => (portLine? l).isNone) =
      ls.takeWhile fun l => (portLine? l).isNone := by
  induction ls with
  | nil =>
    cases rest with
    | nil => rfl
    | cons line rest =>
      have hline := h line rfl
      exact List.takeWhile_cons_of_neg (by simp [Option.isSome_iff_ne_none.mp hline])
  | cons line ls ih =>
    rw [List.cons_append, List.takeWhile_cons, List.takeWhile_cons, ih]

theorem portBlocks_append {rest : List Text} (h : StartsWithPort rest) (ls : List Text) :
    portBlocks (ls ++ rest) = portBlocks ls ++ portBlocks rest := by
  induction ls with
  | nil => rfl
  | cons line ls ih =>
    rw [List.cons_append, portBlocks, portBlocks, ih, takeWhile_append_of_startsWithPort h]
    cases portLine? line <;> rfl

/-- Lines in front of the first block are not read. -/
theorem portBlocks_of_body (h : ∀ line ∈ before, portLine? line = none) (ls : List Text) :
    portBlocks (before ++ ls) = portBlocks ls := by
  induction before with
  | nil => rfl
  | cons line before ih =>
    rw [List.cons_append, portBlocks, h line List.mem_cons_self,
      ih fun l hl => h l (List.mem_cons_of_mem line hl)]

/-- There is one block for each line that starts with `Port `, in order. -/
theorem header_portBlocks (ls : List Text) :
    (portBlocks ls).map (·.header) = ls.filterMap portLine? := by
  induction ls with
  | nil => rfl
  | cons line ls ih =>
    rw [portBlocks, List.filterMap_cons]
    cases portLine? line with
    | none => exact ih
    | some header => exact congrArg (List.cons header) ih

/-- **Port records do not leak into each other.** -/
theorem portRecords_separate :
    (∀ stdout, parseUsbipPortOutput stdout = parsePorts (lines stdout)) ∧
    (∀ ls, parsePorts ls = (portBlocks ls).map PortBlock.record) ∧
    (∀ ls, (portBlocks ls).map (·.header) = ls.filterMap portLine?) ∧
    (∀ before ls, (∀ line ∈ before, portLine? line = none) →
      parsePorts (before ++ ls) = parsePorts ls) ∧
    ∀ ls rest, StartsWithPort rest → parsePorts (ls ++ rest) = parsePorts ls ++ parsePorts rest := by
  refine ⟨parseUsbipPortOutput_eq, parsePorts_eq, header_portBlocks, fun before ls h => ?_,
    fun ls rest h => ?_⟩
  · rw [parsePorts_eq, parsePorts_eq, portBlocks_of_body h]
  · rw [parsePorts_eq, parsePorts_eq, parsePorts_eq, portBlocks_append h, List.map_append]

end Client
end Lusbip
