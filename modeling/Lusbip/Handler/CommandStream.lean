import Lusbip.Usb.Codec
import Lusbip.Handler.Framing

/-!
# Streams of commands

A client writes the `to_bytes` of one command after another; the server applies
`read_from_socket` until a read fails. Well-formed commands come through unchanged, in their
order, and the stream ends between two of them or inside one: either way the read that meets
the end fails with `UnexpectedEof`, after every command in front of it has been returned.
-/

namespace Lusbip

open Lib

/-- One `read_from_socket` on what is left of a stream: what it returns, and the bytes behind
    the command. A stream that ends inside the read is an error. -/
def readCommand (prof : Profile) (stream : List UInt8) : Outcome (UsbIpCommand × List UInt8) :=
  match (readFromSocket prof).read stream with
  | some (.ok command, rest) => .ok (command, rest)
  | some (.error stop, _) => .error stop
  | none => .error Framing.unexpectedEof

/-- The commands `read_from_socket` returns one after another, at most `n` of them, and what
    comes of the read after them: the bytes it was to begin with, and its error. -/
def readCommandsUpTo (prof : Profile) :
    Nat → List UInt8 → List UsbIpCommand × Option (List UInt8 × Stop)
  | 0, _ => ([], none)
  | n + 1, stream =>
      match readCommand prof stream with
      | .ok (command, rest) =>
          (command :: (readCommandsUpTo prof n rest).1, (readCommandsUpTo prof n rest).2)
      | .error stop => ([], some (stream, stop))

/-- A read takes a byte at least, so a stream holds no more commands than bytes. -/
def readCommands (prof : Profile) (stream : List UInt8) :
    List UsbIpCommand × Option (List UInt8 × Stop) :=
  readCommandsUpTo prof (stream.length + 1) stream

variable {prof : Profile} {command : UsbIpCommand}

theorem readCommand_toBytes (prof : Profile) (h : command.WellFormed) (rest : List UInt8) :
    readCommand prof (command.toBytes ++ rest) = .ok (command, rest) := by
  rw [readCommand, (toBytes_reads h).read rest]

theorem readCommand_cut (h : command.WellFormed) {cut : List UInt8}
    (hp : cut <+: command.toBytes) (hne : cut ≠ command.toBytes) :
    readCommand prof cut = .error Framing.unexpectedEof := by
  rw [readCommand, (toBytes_reads h).read_cut hp hne]

theorem toBytes_pos (h : command.WellFormed) : 0 < command.toBytes.length := by
  refine List.length_pos_iff.mpr fun hnil => ?_
  have := readCommand_toBytes .dev h []
  rw [hnil] at this
  cases this

/-- The commands in front of a read that fails are all returned. -/
theorem readCommandsUpTo_flatMap {commands : List UsbIpCommand}
    (h : ∀ command ∈ commands, command.WellFormed) {rest : List UInt8} {stop : Stop}
    (hrest : readCommand prof rest = .error stop) {n : Nat} (hn : commands.length < n) :
    readCommandsUpTo prof n (commands.flatMap UsbIpCommand.toBytes ++ rest) =
      (commands, some (rest, stop)) := by
  induction commands generalizing n with
  | nil =>
    obtain ⟨n, rfl⟩ := Nat.exists_eq_succ_of_ne_zero (Nat.ne_of_gt hn)
    rw [List.flatMap_nil, List.nil_append, readCommandsUpTo, hrest]
  | cons command commands ih =>
    obtain ⟨n, rfl⟩ := Nat.exists_eq_succ_of_ne_zero (Nat.ne_of_gt (Nat.zero_lt_of_lt hn))
    rw [List.flatMap_cons, List.append_assoc, readCommandsUpTo,
      readCommand_toBytes prof (h command List.mem_cons_self)]
    dsimp only
    rw [ih (fun c hc => h c (List.mem_cons_of_mem command hc)) (Nat.lt_of_succ_lt_succ hn)]

theorem length_le_flatMap_toBytes {commands : List UsbIpCommand}
    (h : ∀ command ∈ commands, command.WellFormed) :
    commands.length ≤ (commands.flatMap UsbIpCommand.toBytes).length := by
  induction commands with
  | nil => exact Nat.le_refl _
  | cons command commands ih =>
    have hpos := toBytes_pos (h command List.mem_cons_self)
    have hle := ih fun c hc => h c (List.mem_cons_of_mem command hc)
    rw [List.flatMap_cons, List.length_append, List.length_cons]
    omega

theorem readCommands_flatMap {commands : List UsbIpCommand}
    (h : ∀ command ∈ commands, command.WellFormed) {rest : List UInt8} {stop : Stop}
    (hrest : readCommand prof rest = .error stop) :
    readCommands prof (commands.flatMap UsbIpCommand.toBytes ++ rest) =
      (commands, some (rest, stop)) := by
  have hle := length_le_flatMap_toBytes h
  refine readCommandsUpTo_flatMap h hrest ?_
  rw [List.length_append]
  omega

/-- **The codec round-trips over streams**: well-formed commands are read back in their order,
    up to the end of the stream between two commands or inside one. -/
theorem readCommands_roundtrip (prof : Profile) (commands : List UsbIpCommand)
    (h : ∀ command ∈ commands, command.WellFormed) :
    readCommands prof (commands.flatMap UsbIpCommand.toBytes) =
        (commands, some ([], Framing.unexpectedEof)) ∧
      ∀ before command after cut, commands = before ++ command :: after →
        cut <+: command.toBytes → cut ≠ command.toBytes →
          readCommands prof (before.flatMap UsbIpCommand.toBytes ++ cut) =
            (before, some (cut, Framing.unexpectedEof)) := by
  constructor
  · have hnil : readCommand prof [] = .error Framing.unexpectedEof := rfl
    have hread := readCommands_flatMap h hnil
    rwa [List.append_nil] at hread
  · rintro before command after cut rfl hp hne
    refine readCommands_flatMap (fun c hc => h c (List.mem_append_left _ hc)) ?_
    exact readCommand_cut (h command (List.mem_append_right _ List.mem_cons_self)) hp hne

theorem importSubmitUnlink_wellFormed :
    ∀ command ∈ Framing.importSubmitUnlink, command.WellFormed := by
  intro command hc
  simp only [Framing.importSubmitUnlink, List.mem_cons, List.not_mem_nil, or_false] at hc
  rcases hc with rfl | rfl | rfl
  · exact ⟨rfl, rfl⟩
  · exact ⟨⟨rfl, Or.inr rfl⟩, rfl, fun h => absurd h (by decide), fun _ => rfl, rfl⟩
  · exact ⟨rfl, Or.inl rfl⟩

/-- An import, a read and an unlink. -/
theorem importSubmitUnlink_roundtrip :
    readCommands .dev (Framing.importSubmitUnlink.flatMap UsbIpCommand.toBytes) =
      (Framing.importSubmitUnlink, some ([], Framing.unexpectedEof)) :=
  (readCommands_roundtrip .dev Framing.importSubmitUnlink importSubmitUnlink_wellFormed).1

end Lusbip
