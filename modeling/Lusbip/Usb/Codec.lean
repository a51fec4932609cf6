import Lusbip.Usb.Protocol

/-!
# The command codec

`to_bytes` and `read_from_socket` are two descriptions of one format. They differ in how they
look at the first four bytes: the encoder of a context-sensitive command writes the 32-bit
`command` of its header there, the decoder reads a 16-bit version and a 16-bit code. They agree
on the commands that are well formed.
-/

namespace Lusbip

open Lib Lib.Reader

/-! ## Integers -/

theorem beNat_be16 (n : UInt16) : UInt16.ofNat (beNat (be16 n)) = n := by
  have hlt := n.toNat_lt
  have hlow : n.toUInt8.toNat = n.toNat % 256 := by simp
  have hhigh : (n >>> 8).toUInt8.toNat = n.toNat / 256 := by
    simp [Nat.shiftRight_eq_div_pow]
    omega
  have hsum : beNat (be16 n) = n.toNat := by
    simp only [beNat, be16, List.foldl_cons, List.foldl_nil, hlow, hhigh]
    omega
  rw [hsum]
  exact UInt16.ofNat_toNat

theorem beNat_be32 (n : UInt32) : UInt32.ofNat (beNat (be32 n)) = n := by
  have hlt := n.toNat_lt
  have h0 : n.toUInt8.toNat = n.toNat % 256 := by simp
  have h1 : (n >>> 8).toUInt8.toNat = n.toNat / 2 ^ 8 % 256 := by
    simp [Nat.shiftRight_eq_div_pow]
  have h2 : (n >>> 16).toUInt8.toNat = n.toNat / 2 ^ 16 % 256 := by
    simp [Nat.shiftRight_eq_div_pow]
  have h3 : (n >>> 24).toUInt8.toNat = n.toNat / 2 ^ 24 % 256 := by
    simp [Nat.shiftRight_eq_div_pow]
  have hsum : beNat (be32 n) = n.toNat := by
    simp only [beNat, be32, List.foldl_cons, List.foldl_nil, h0, h1, h2, h3]
    omega
  rw [hsum]
  exact UInt32.ofNat_toNat

theorem readU16_reads (n : UInt16) : Reads readU16 (be16 n) n :=
  reads_exact rfl (congrArg Reader.done (beNat_be16 n))

theorem readU32_reads (n : UInt32) : Reads readU32 (be32 n) n :=
  reads_exact rfl (congrArg Reader.done (beNat_be32 n))

theorem readExact_reads {n : Nat} {bytes : List UInt8} (h : bytes.length = n) :
    Reads (readExact n) bytes bytes :=
  reads_exact h rfl

/-! ## Commands -/

/-- The iso part of a `CMD_SUBMIT` has one descriptor of 16 bytes for each packet, but for the
    two numbers of packets that stand for none. -/
def isoLength (numberOfPackets : UInt32) : Nat :=
  if numberOfPackets = 0 ∨ numberOfPackets = 0xFFFFFFFF then 0 else 16 * numberOfPackets.toNat

/-- A header of the variant `command`, with a direction. -/
structure UsbIpHeaderBasic.WellFormed (command : UInt16) (header : UsbIpHeaderBasic) : Prop where
  command : header.command = command.toUInt32
  direction : header.direction = 0 ∨ header.direction = 1

/-- The commands of a client that keeps to the protocol. -/
def UsbIpCommand.WellFormed : UsbIpCommand → Prop
  | .opReqDevlist status => status = 0
  | .opReqImport status busid => status = 0 ∧ busid.length = 32
  | .usbIpCmdSubmit header _ transferBufferLength _ numberOfPackets _ setup data
      isoPacketDescriptor =>
      header.WellFormed usbipCmdSubmit ∧ setup.length = 8 ∧
        (header.direction = 0 → data.length = transferBufferLength.toNat) ∧
        (header.direction = 1 → data = []) ∧
        isoPacketDescriptor.length = isoLength numberOfPackets
  | .usbIpCmdUnlink header _ => header.WellFormed usbipCmdUnlink

variable {prof : Profile} {header : UsbIpHeaderBasic} {o : Outcome UsbIpCommand}
  {rest : List UInt8}

theorem assertThen_reads {α : Type} {c : Prop} [Decidable c] {k : Reader (Outcome α)}
    {o : Outcome α} (hc : c) (h : Reads k rest o) : Reads (assertThen prof c k) rest o := by
  unfold assertThen debugAssert
  rw [if_neg fun hn => hn.2 hc]
  exact h

/-- The version and the code of a command. -/
theorem readFromSocket_reads {version command : UInt16}
    (hv : version = 0 ∨ version = usbipVersion)
    (h : Reads (if command = opReqDevlist then readDevlist prof
      else if command = opReqImport then readImport prof
      else if command = usbipCmdSubmit then readSubmit prof
      else if command = usbipCmdUnlink then readUnlink prof
      else pure (Outcome.err (.other ("Unknown command: " ++ hex04X command)))) rest o) :
    Reads (readFromSocket prof) (be16 version ++ (be16 command ++ rest)) o := by
  refine (readU16_reads version).bind ?_
  have hknown : ¬ (version ≠ 0 ∧ version ≠ usbipVersion) := fun hn => hv.elim hn.1 hn.2
  rw [if_neg hknown]
  exact (readU16_reads command).bind h

/-- What is left of a header when its command has been read. -/
theorem readHeaderWithCommand_reads {command : UInt16}
    {k : UsbIpHeaderBasic → Reader (Outcome UsbIpCommand)} (hw : header.WellFormed command)
    (h : Reads (k header) rest o) :
    Reads (readHeaderWithCommand prof command k)
      (be32 header.seqnum ++ (be32 header.devid ++ (be32 header.direction ++
        (be32 header.ep ++ rest)))) o := by
  obtain ⟨hcommand, hdir⟩ := hw
  refine (readU32_reads header.seqnum).bind ((readU32_reads header.devid).bind
    ((readU32_reads header.direction).bind (assertThen_reads ?_
      ((readU32_reads header.ep).bind ?_))))
  · rcases hdir with hdir | hdir <;> rw [hdir] <;> rfl
  · rw [← hcommand]
    exact h

/-- The 32-bit command of a header is a version 0 and the code. -/
theorem UsbIpHeaderBasic.WellFormed.toBytes {command : UInt16} (hw : header.WellFormed command) :
    header.toBytes = be16 0 ++ (be16 command ++ (be32 header.seqnum ++ (be32 header.devid ++
      (be32 header.direction ++ be32 header.ep)))) := by
  have hsplit : be32 command.toUInt32 = be16 0 ++ be16 command := by
    have hlt := command.toNat_lt
    simp only [be32, be16, List.cons_append, List.nil_append, List.cons.injEq, and_true,
      ← UInt8.toNat_inj, UInt32.toNat_toUInt8, UInt32.toNat_shiftRight, UInt16.toNat_toUInt32,
      UInt16.toNat_toUInt8, UInt16.toNat_shiftRight, Nat.shiftRight_eq_div_pow]
    refine ⟨?_, ?_⟩
    all_goals simp
    all_goals omega
  rw [UsbIpHeaderBasic.toBytes, hw.command, hsplit]
  simp only [List.append_assoc]

theorem toBytes_reads {command : UsbIpCommand} (h : command.WellFormed) :
    Reads (readFromSocket prof) command.toBytes (.ok command) := by
  cases command with
  | opReqDevlist status =>
    rw [UsbIpCommand.toBytes, List.append_assoc]
    refine readFromSocket_reads (Or.inr rfl) ?_
    rw [if_pos rfl, ← List.append_nil (be32 status)]
    exact (readU32_reads status).bind (assertThen_reads h (reads_pure _))
  | opReqImport status busid =>
    rw [UsbIpCommand.toBytes, List.append_assoc, List.append_assoc]
    refine readFromSocket_reads (Or.inr rfl) ?_
    rw [if_neg (by decide), if_pos rfl]
    exact (readU32_reads status).bind (assertThen_reads h.1 ((readExact_reads h.2).wrap _))
  | usbIpCmdSubmit header transferFlags transferBufferLength startFrame numberOfPackets interval
      setup data isoPacketDescriptor =>
    obtain ⟨hw, hsetup, hout, hin, hiso⟩ := h
    rw [UsbIpCommand.toBytes, hw.toBytes]
    simp only [List.append_assoc]
    refine readFromSocket_reads (Or.inl rfl) ?_
    rw [if_neg (by decide), if_neg (by decide), if_pos rfl]
    refine readHeaderWithCommand_reads hw ?_
    refine (readU32_reads _).bind ((readU32_reads _).bind ((readU32_reads _).bind
      ((readU32_reads _).bind ((readU32_reads _).bind ((readExact_reads hsetup).bind ?_)))))
    -- The iso part is read in the same way behind either kind of data.
    have hisoPart : Reads (if numberOfPackets ≠ 0 ∧ numberOfPackets ≠ 0xFFFFFFFF then
          readExact (16 * numberOfPackets.toNat) >>= fun iso =>
            pure (.ok (.usbIpCmdSubmit header transferFlags transferBufferLength startFrame
              numberOfPackets interval setup data iso))
        else pure [] >>= fun iso =>
          pure (.ok (.usbIpCmdSubmit header transferFlags transferBufferLength startFrame
            numberOfPackets interval setup data iso))) isoPacketDescriptor
        ((.ok (.usbIpCmdSubmit header transferFlags transferBufferLength startFrame
          numberOfPackets interval setup data isoPacketDescriptor)) : Outcome UsbIpCommand) := by
      unfold isoLength at hiso
      by_cases hnone : numberOfPackets = 0 ∨ numberOfPackets = 0xFFFFFFFF
      · rw [if_pos hnone] at hiso
        rw [if_neg fun hn => hnone.elim hn.1 hn.2, List.eq_nil_of_length_eq_zero hiso]
        exact (reads_pure []).wrap _
      · rw [if_neg hnone] at hiso
        rw [if_pos (not_or.mp hnone)]
        exact (readExact_reads hiso).wrap _
    rcases hw.direction with hdir | hdir
    · rw [if_neg (by rw [hdir]; decide)]
      exact (readExact_reads (hout hdir)).bind hisoPart
    · rw [if_pos hdir]
      rw [hin hdir] at hisoPart ⊢
      exact (reads_pure []).bind hisoPart
  | usbIpCmdUnlink header unlinkSeqnum =>
    rw [UsbIpCommand.toBytes, UsbIpHeaderBasic.WellFormed.toBytes h]
    simp only [List.append_assoc]
    refine readFromSocket_reads (Or.inl rfl) ?_
    rw [if_neg (by decide), if_neg (by decide), if_neg (by decide), if_pos rfl]
    refine readHeaderWithCommand_reads h ?_
    exact (readU32_reads unlinkSeqnum).bind ((readExact_reads List.length_replicate).wrap _)

end Lusbip
