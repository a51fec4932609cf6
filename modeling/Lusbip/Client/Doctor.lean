import Lusbip.Client.AgentRun
import Lusbip.Client.Recovery

/-!
# The doctor

`lusbip doctor` makes its checks one after another, tells of each, and has a verdict on all of them.
With `--fix` it repairs first, in the open: the commands it runs have the terminal, and their output
is the user's to read. This is a call that nothing else in the client makes, so a program of the
doctor is one over the calls of the client and this one.
-/

namespace Lusbip
namespace Client

open Lib
open Lib.Fields
open Lib.Program
open Agent (succeeded)

/-- The calls of the client, and the one that only the doctor makes. -/
inductive DoctorCall where
  | client (c : Call)
  /-- `CommandRunner::run_foreground` -/
  | runForeground (program : Text) (args : List Text)
  deriving DecidableEq, Repr

/-- What comes back; of a command in the foreground that is its status and nothing more. -/
@[reducible] def DoctorCall.Answer : DoctorCall → Type
  | .client c => c.Answer
  | .runForeground _ _ => Except Text Bool

/-- A computation of the doctor. -/
abbrev Treatment := Program DoctorCall.Answer

/-- What the client does, done by the doctor. -/
def Treatment.of {α : Type} (m : Command α) : Treatment α := m.embed .client fun _ r => r

/-- One line for the user. -/
def say (line : Text) : Treatment Unit := .call (.client (.println line)) fun _ => .ret ()

/-- Lines for the user, one after the other. -/
def sayAll (lines : List Text) : Treatment Unit := .of (printAll lines)

/-! ## Repairs -/

/-- The packages that have `usbip` and the kernel module, for the kernel that runs. -/
def ubuntuClientPackages (kernel : Text) : List Text :=
  ["linux-tools-generic".toList, "linux-tools-".toList ++ kernel,
    "linux-modules-extra-".toList ++ kernel]

/-- A command is run for its status alone. One that cannot be started counts as one that failed. -/
def commandSuccess (program : Text) (args : List Text) : Treatment Bool :=
  .call (.client (.run program args)) fun output => .ret (succeeded output)

/-- What `command_stdout` makes of the output, with the blanks around it taken off. -/
def readStdout (program : Text) : Except Text Output → Except Text Text
  | .error err => .error ("Failed to execute ".toList ++ program ++ ": ".toList ++ err)
  | .ok output =>
      if output.success then .ok (trim isWhitespace output.stdout)
      else .error (program ++ " failed: ".toList ++ output.stderr)

/-- A command is run for what it prints. -/
def commandStdout (program : Text) (args : List Text) : Treatment (Except Text Text) :=
  .call (.client (.run program args)) fun output => .ret (readStdout program output)

/-- The command as it is shown. -/
def commandLine (program : Text) (args : List Text) : Text :=
  List.intercalate [' '] (program :: args)

/-- What `run_fix_command` makes of the status of a repair. -/
def readFix (command : Text) : Except Text Bool → Except Text Unit
  | .error err => .error ("Failed to execute ".toList ++ command ++ ": ".toList ++ err)
  | .ok true => .ok ()
  | .ok false => .error (command ++ " failed".toList)

/-- A repair in the open: the command is shown first, and then has the terminal. -/
def runFixCommand (program : Text) (args : List Text) : Treatment (Except Text Unit) :=
  (say ("Running: ".toList ++ commandLine program args)).bind fun _ =>
    .call (.runForeground program args) fun status =>
      .ret (readFix (commandLine program args) status)

/-- The script that writes a number into the kernel's own file. The number stands in it unquoted but
    for the quotes of `printf`. -/
def detachScript (port : Text) : Text :=
  "printf '".toList ++ port ++ "' > /sys/devices/platform/vhci_hcd.0/detach".toList

/-- The direct detach of the client once more, but in the open. -/
def runDirectVhciDetach (port : Text) : Treatment (Except Text Unit) :=
  match normalizedVhciPort port with
  | .error err => .ret (.error err)
  | .ok port => runFixCommand "sudo".toList ["sh".toList, "-c".toList, detachScript port]

/-- `sudo usbip detach -p PORT`, in the open. -/
def fixDetach (port : Text) : Treatment (Except Text Unit) :=
  runFixCommand "sudo".toList ["usbip".toList, "detach".toList, "-p".toList, port]

/-- The loop of `detach_stale_vhci_ports`. -/
def detachStaleEach : List Text → Treatment (Except Text Unit)
  | [] => .ret (.ok ())
  | port :: ports =>
      (fixDetach port).bind fun
        | .ok _ => detachStaleEach ports
        | .error err =>
            (say (err ++ "; falling back to direct VHCI detach".toList)).bind fun _ =>
              (runDirectVhciDetach port).andThen fun _ => detachStaleEach ports

/-- The ports that the kernel's status file shows in use are detached one by one. The first one that
    cannot be detached ends it. -/
def detachStaleVhciPorts : Treatment (Except Text Unit) :=
  .call (.client .readVhciStatus) fun status =>
    if staleVhciPorts status = [] then .ret (.ok ())
    else
      (say ("Found stale VHCI ports: ".toList
        ++ List.intercalate ", ".toList (staleVhciPorts status)
        ++ ". Detaching before reconnecting.".toList)).bind fun _ =>
          detachStaleEach (staleVhciPorts status)

/-- `usbip` and the kernel module are there. The second is not asked for without the first. -/
def toolsReady : Treatment Bool :=
  (commandSuccess "usbip".toList ["version".toList]).bind fun
    | false => .ret false
    | true => commandSuccess "modinfo".toList ["vhci-hcd".toList]

/-- `apt-get update`, and then the packages. -/
def installPackages (packages : List Text) : Treatment (Except Text Unit) :=
  (runFixCommand "sudo".toList ["apt-get".toList, "update".toList]).andThen fun _ =>
    runFixCommand "sudo".toList (["apt-get".toList, "install".toList, "-y".toList] ++ packages)

/-- What is done where there is `apt-get`. -/
def installMissing : Treatment (Except Text Unit) :=
  (commandStdout "uname".toList ["-r".toList]).andThen fun kernel =>
    toolsReady.bind fun
      | true => .ret (.ok ())
      | false => installPackages (ubuntuClientPackages (trim isWhitespace kernel))

/-- `apply_doctor_fixes` up to the kernel module. -/
def prepareTools : Treatment (Except Text Unit) :=
  (say "Applying Linux USB/IP client fixes...".toList).bind fun _ =>
    (commandSuccess "apt-get".toList ["--version".toList]).bind fun
      | true => installMissing
      | false =>
          (say ("No apt-get found. Please install usbip tools and vhci-hcd kernel module for "
            ++ "this distro.").toList).bind fun _ => .ret (.ok ())

/-- The kernel module of the virtual host controller is loaded. -/
def loadModule : Treatment (Except Text Unit) :=
  runFixCommand "sudo".toList ["modprobe".toList, "vhci-hcd".toList]

/-- `apply_doctor_fixes`, on Linux. -/
def applyDoctorFixes : Treatment (Except Text Unit) :=
  prepareTools.andThen fun _ => loadModule.andThen fun _ => detachStaleVhciPorts

/-! ## Checks -/

/-- What the checks have found. `remoteExportReadable` is missing where no remote was given. -/
structure DoctorReport where
  usbipAvailable : Bool
  sudoCached : Bool
  usbipPortReadable : Bool
  remoteExportReadable : Option Bool
  deriving DecidableEq, Repr

/-- Everything that was checked is as it should be. -/
def DoctorReport.isOk (report : DoctorReport) : Bool :=
  report.usbipAvailable && report.sudoCached && report.usbipPortReadable
    && report.remoteExportReadable.getD true

/-- A check, as it is told. -/
def printCheck (name : Text) (ok : Bool) (detail : Text) : Treatment Unit :=
  let status := if ok then "ok".toList else "fail".toList
  say ("[".toList ++ status ++ "] ".toList ++ name ++ ": ".toList ++ detail)

/-- A port that is attached, as the doctor tells it. -/
def attachedLine (port : AttachedUsbPort) : Text :=
  "  attached: port ".toList ++ port.port ++ " | host ".toList ++ unknownText port.remoteHost
    ++ " | bus ".toList ++ unknownText port.remoteBusId ++ " | vid:pid ".toList
    ++ unknownText port.vidPid

/-- A device of the remote, as the doctor tells it. -/
def exportLine (device : RemoteUsbDevice) : Text :=
  "  remote: ".toList ++ device.busId ++ " | ".toList ++ device.description

/-- The lines, or the one that says there are none. -/
def orLine (none : Text) (lines : List Text) : List Text := if lines = [] then [none] else lines

/-- Whether `usbip port` can be read. This read is not the resilient one: a check detaches nothing.
    -/
def checkPorts : Treatment Bool :=
  (Treatment.of queryAttachedPorts).bind fun
    | .ok ports =>
        (printCheck "usbip port".toList true "attached port list readable".toList).bind fun _ =>
          (sayAll (orLine "  attached: none".toList (ports.map attachedLine))).bind fun _ =>
            .ret true
    | .error err => (printCheck "usbip port".toList false err).bind fun _ => .ret false

/-- Whether the remote answers, where one was given. -/
def checkRemote (tcpPort : UInt16) : Option Text → Treatment (Option Bool)
  | none => .ret none
  | some remote =>
      (Treatment.of (queryRemoteDevices remote tcpPort)).bind fun
        | .ok devices =>
            (printCheck "remote export".toList true "remote server responded".toList).bind fun _ =>
              (sayAll (orLine "  remote: no exportable devices".toList
                (devices.map exportLine))).bind fun _ => .ret (some true)
        | .error err =>
            (printCheck "remote export".toList false err).bind fun _ => .ret (some false)

/-- `run_doctor` behind the repairs, up to the report. -/
def doctorReport (remote : Option Text) (tcpPort : UInt16) : Treatment DoctorReport :=
  (commandSuccess "usbip".toList ["version".toList]).bind fun usbipAvailable =>
    (printCheck "usbip command".toList usbipAvailable
      "install usbip userspace tools if this fails".toList).bind fun _ =>
    (commandSuccess "sudo".toList ["-n".toList, "true".toList]).bind fun sudoCached =>
    (printCheck "sudo cached".toList sudoCached
      "run `sudo -v` before detach/attach if this fails".toList).bind fun _ =>
    checkPorts.bind fun usbipPortReadable =>
    (checkRemote tcpPort remote).bind fun remoteExportReadable =>
      .ret { usbipAvailable, sudoCached, usbipPortReadable, remoteExportReadable }

/-- `Ok` if every check is. -/
def verdict (report : DoctorReport) : Except Text Unit :=
  if report.isOk then .ok () else .error "doctor checks failed".toList

/-- `lusbip doctor`: all the checks, and the verdict on them. -/
def runChecks (remote : Option Text) (tcpPort : UInt16) : Treatment (Except Text Unit) :=
  (doctorReport remote tcpPort).bind fun report => .ret (verdict report)

/-- `lusbip doctor`, with or without `--fix`. A repair that fails ends it before any check. -/
def runDoctor (remote : Option Text) (tcpPort : UInt16) (fix : Bool) :
    Treatment (Except Text Unit) :=
  if fix then applyDoctorFixes.andThen fun _ => runChecks remote tcpPort
  else runChecks remote tcpPort

/-! ## What the checks come to -/

/-- The command that a call runs. -/
def commandOf : DoctorCall → Option (Text × List Text)
  | .client (.run program args) => some (program, args)
  | .client (.runInteractive program args) => some (program, args)
  | .runForeground program args => some (program, args)
  | _ => none

/-- The commands of a run, in order. -/
def commandsOf (events : List (Event DoctorCall.Answer)) : List (Text × List Text) :=
  events.filterMap fun e => commandOf e.1

/-- The command was run and has succeeded. -/
def Passed : Event DoctorCall.Answer → Prop
  | ⟨.client (.run _ _), output⟩ => succeeded output = true
  | ⟨.runForeground _ _, status⟩ => status = .ok true
  | _ => True

/-- Whatever is answered, the program runs these commands, one after another. -/
def Runs {α : Type} (commands : List (Text × List Text)) (m : Treatment α) : Prop :=
  ∀ env n, commandsOf (events env n m) = commands

section

variable {α β : Type} {commands more : List (Text × List Text)} {p : Prop}

theorem runs_ret (a : α) : Runs [] (.ret a : Treatment α) := fun _ _ => rfl

theorem Runs.bind {m : Treatment α} {f : α → Treatment β} (hm : Runs commands m)
    (hf : ∀ a, Runs more (f a)) : Runs (commands ++ more) (m.bind f) := by
  intro env n
  rw [commandsOf, events_bind, List.filterMap_append]
  exact congrArg₂ _ (hm env n) (hf _ env _)

/-- The second part runs nothing. -/
theorem Runs.bind_nil {m : Treatment α} {f : α → Treatment β} (hm : Runs commands m)
    (hf : ∀ a, Runs [] (f a)) : Runs commands (m.bind f) := by
  have hbind := hm.bind hf
  rwa [List.append_nil] at hbind

/-- A line on the screen. -/
def IsSaying (c : DoctorCall) : Prop := ∃ line, c = .client (.println line)

theorem Calls.runs_nil {m : Treatment α} (h : m.Calls IsSaying) : Runs [] m := by
  intro env n
  refine List.filterMap_eq_nil_iff.mpr fun e he => ?_
  obtain ⟨line, hline⟩ := h.events env n e he
  rw [hline]
  rfl

theorem Calls.quiet {m : Treatment α} {passed : Event DoctorCall.Answer → Prop}
    (h : m.Calls IsSaying) (hpassed : ∀ line r, passed ⟨.client (.println line), r⟩) :
    Quiet passed m := by
  refine h.imp fun c hc => ?_
  obtain ⟨line, rfl⟩ := hc
  exact hpassed line

theorem calls_say (line : Text) : (say line).Calls IsSaying := ⟨⟨line, rfl⟩, fun _ => trivial⟩

theorem calls_sayAll (lines : List Text) : (sayAll lines).Calls IsSaying := by
  refine Calls.embed ?_
  induction lines with
  | nil => trivial
  | cons line lines ih => exact ⟨⟨line, rfl⟩, fun _ => ih⟩

theorem tells_saying {m : Treatment α} (h : m.Calls IsSaying) :
    Tells Passed p (fun _ => p) m :=
  (Calls.quiet h fun _ _ => trivial).tells

theorem tells_commandSuccess (program : Text) (args : List Text) :
    Tells Passed p (fun ok => p ∧ ok = true) (commandSuccess program args) :=
  tells_call fun _ => tells_ret Iff.rfl

theorem fine_readPortTable (output : Except Text Output) :
    Fine (readPortTable output) ↔ succeeded output = true := by
  unfold readPortTable succeeded
  split
  · exact ⟨fun h => h.elim, fun h => nomatch h⟩
  · split <;> simp_all [Fine]

theorem fine_readDeviceList (output : Except Text Output) :
    Fine (readDeviceList output) ↔ succeeded output = true := by
  unfold readDeviceList succeeded
  split
  · exact ⟨fun h => h.elim, fun h => nomatch h⟩
  · split <;> simp_all [Fine]

theorem tells_checkPorts : Tells Passed p (fun ok => p ∧ ok = true) checkPorts := by
  have hquery : Tells Passed p (fun r => p ∧ Fine r) (Treatment.of queryAttachedPorts) :=
    tells_call fun output => tells_ret (and_congr_right' (fine_readPortTable output))
  refine hquery.bind fun r => ?_
  cases r with
  | ok ports =>
    refine (tells_saying (calls_say _)).bind fun _ => ?_
    exact (tells_saying (calls_sayAll _)).bind fun _ =>
      tells_ret (and_congr_right' (iff_of_true rfl trivial))
  | error err =>
    exact (tells_saying (calls_say _)).bind fun _ =>
      tells_ret (and_congr_right' (iff_of_false Bool.false_ne_true fun h => h))

theorem tells_checkRemote (tcpPort : UInt16) (remote : Option Text) :
    Tells Passed p (fun ok => p ∧ ok.getD true = true) (checkRemote tcpPort remote) := by
  cases remote with
  | none => exact tells_ret (and_iff_left rfl)
  | some remote =>
    have hquery : Tells Passed p (fun r => p ∧ Fine r)
        (Treatment.of (queryRemoteDevices remote tcpPort)) :=
      tells_call fun output => tells_ret (and_congr_right' (fine_readDeviceList output))
    refine hquery.bind fun r => ?_
    cases r with
    | ok devices =>
      refine (tells_saying (calls_say _)).bind fun _ => ?_
      exact (tells_saying (calls_sayAll _)).bind fun _ =>
        tells_ret (and_congr_right' (iff_of_true rfl trivial))
    | error err =>
      exact (tells_saying (calls_say _)).bind fun _ =>
        tells_ret (and_congr_right' (iff_of_false Bool.false_ne_true fun h => h))

/-- A check that fails is in the report, and nothing else spoils it. -/
theorem tells_doctorReport (remote : Option Text) (tcpPort : UInt16) :
    Tells Passed p (fun report => p ∧ report.isOk = true) (doctorReport remote tcpPort) := by
  refine (tells_commandSuccess _ _).bind fun usbipAvailable => ?_
  refine (tells_saying (calls_say _)).bind fun _ => ?_
  refine (tells_commandSuccess _ _).bind fun sudoCached => ?_
  refine (tells_saying (calls_say _)).bind fun _ => ?_
  refine tells_checkPorts.bind fun usbipPortReadable => ?_
  refine (tells_checkRemote tcpPort remote).bind fun remoteExportReadable => ?_
  refine tells_ret ?_
  simp only [DoctorReport.isOk, Bool.and_eq_true, and_assoc]

theorem fine_verdict (report : DoctorReport) : Fine (verdict report) ↔ report.isOk = true := by
  unfold verdict
  split <;> simp_all [Fine]

theorem tells_runChecks (remote : Option Text) (tcpPort : UInt16) :
    Tells Passed p (fun r => p ∧ Fine r) (runChecks remote tcpPort) :=
  (tells_doctorReport remote tcpPort).bind fun report =>
    tells_ret (and_congr_right' (fine_verdict report))

theorem fine_iff {r : Except Text Unit} : Fine r ↔ r = .ok () := by
  cases r <;> simp [Fine]

/-- What the checks run. -/
def checkCommands (tcpPort : UInt16) (remote : Option Text) : List (Text × List Text) :=
  [("usbip".toList, ["version".toList]), ("sudo".toList, ["-n".toList, "true".toList]),
    ("usbip".toList, ["port".toList])]
    ++ remote.toList.map fun remote =>
        ("usbip".toList,
          ["--tcp-port".toList, decimal tcpPort.toNat, "list".toList, "-r".toList, remote])

theorem runs_saying {m : Treatment α} {f : α → Treatment β} (hm : m.Calls IsSaying)
    (hf : ∀ a, Runs more (f a)) : Runs more (m.bind f) :=
  (Calls.runs_nil hm).bind hf

theorem runs_checkPorts : Runs [("usbip".toList, ["port".toList])] checkPorts := by
  have hquery : Runs [("usbip".toList, ["port".toList])] (Treatment.of queryAttachedPorts) :=
    fun _ _ => rfl
  refine hquery.bind_nil fun r => ?_
  cases r with
  | ok ports =>
    exact runs_saying (calls_say _) fun _ => runs_saying (calls_sayAll _) fun _ => runs_ret _
  | error err => exact runs_saying (calls_say _) fun _ => runs_ret _

theorem runs_checkRemote (tcpPort : UInt16) (remote : Option Text) :
    Runs (remote.toList.map fun remote =>
      ("usbip".toList,
        ["--tcp-port".toList, decimal tcpPort.toNat, "list".toList, "-r".toList, remote]))
      (checkRemote tcpPort remote) := by
  cases remote with
  | none => exact runs_ret _
  | some remote =>
    have hquery : Runs [("usbip".toList,
        ["--tcp-port".toList, decimal tcpPort.toNat, "list".toList, "-r".toList, remote])]
        (Treatment.of (queryRemoteDevices remote tcpPort)) := fun _ _ => rfl
    refine hquery.bind_nil fun r => ?_
    cases r with
    | ok devices =>
      exact runs_saying (calls_say _) fun _ => runs_saying (calls_sayAll _) fun _ => runs_ret _
    | error err => exact runs_saying (calls_say _) fun _ => runs_ret _

theorem runs_runChecks (remote : Option Text) (tcpPort : UInt16) :
    Runs (checkCommands tcpPort remote) (runChecks remote tcpPort) := by
  have hsuccess : ∀ program args, Runs [(program, args)] (commandSuccess program args) :=
    fun _ _ _ _ => rfl
  have hreport : Runs (checkCommands tcpPort remote) (doctorReport remote tcpPort) := by
    refine (hsuccess _ _).bind fun usbipAvailable => ?_
    refine runs_saying (calls_say _) fun _ => ?_
    refine (hsuccess _ _).bind fun sudoCached => ?_
    refine runs_saying (calls_say _) fun _ => ?_
    refine runs_checkPorts.bind fun usbipPortReadable => ?_
    exact (runs_checkRemote tcpPort remote).bind_nil fun _ => runs_ret _
  exact hreport.bind_nil fun _ => runs_ret _

/-- **The doctor makes all its checks and tells the truth about them.** Without `--fix` it runs its
    four commands, whatever they answer, and no other; and it is content if and only if every one of
    them has succeeded. -/
theorem runDoctor_tells (remote : Option Text) (tcpPort : UInt16) (env : Env DoctorCall.Answer) :
    commandsOf (events env 0 (runDoctor remote tcpPort false)) = checkCommands tcpPort remote ∧
      (result env 0 (runDoctor remote tcpPort false) = .ok () ↔
        ∀ e ∈ events env 0 (runDoctor remote tcpPort false), Passed e) := by
  have hplain : runDoctor remote tcpPort false = runChecks remote tcpPort :=
    if_neg Bool.false_ne_true
  rw [hplain]
  refine ⟨runs_runChecks remote tcpPort env 0, ?_⟩
  have htells := tells_runChecks (p := True) remote tcpPort env 0
  dsimp only at htells
  rw [true_and, true_and, fine_iff] at htells
  exact htells

/-! ## What the repairs come to -/

/-- A command of the repairs that has to succeed: all but `usbip detach`, which the write into the
    kernel's file stands in for. -/
def Mends : Event DoctorCall.Answer → Prop
  | ⟨.client (.run program _), output⟩ => program = "uname".toList → succeeded output = true
  | ⟨.runForeground _ args, status⟩ => args.head? = some "usbip".toList ∨ status = .ok true
  | _ => True

theorem fine_readFix (command : Text) (status : Except Text Bool) :
    Fine (readFix command status) ↔ status = .ok true := by
  unfold readFix
  split <;> simp [Fine]

theorem tells_mending {m : Treatment α} (h : m.Calls IsSaying) : Tells Mends p (fun _ => p) m :=
  (Calls.quiet h fun _ _ => trivial).tells

theorem tells_runFixCommand {program : Text} {args : List Text}
    (hargs : args.head? ≠ some "usbip".toList) :
    Tells Mends p (fun r => p ∧ Fine r) (runFixCommand program args) := by
  refine (tells_mending (calls_say _)).bind fun _ => tells_call fun status => tells_ret ?_
  refine and_congr_right' ((fine_readFix _ status).trans ?_)
  exact (or_iff_right hargs).symm

/-- A `usbip detach` that fails is not held against the repairs. -/
theorem tells_fixDetach (port : Text) : Tells Mends p (fun _ => p) (fixDetach port) := by
  refine (tells_mending (calls_say _)).bind fun _ => tells_call fun status => tells_ret ?_
  exact (and_iff_left (Or.inl rfl)).symm

theorem digitsValue_zero_cons (s : Text) : digitsValue ('0' :: s) = digitsValue s := rfl

/-- The number of a port that the status file shows is read back. -/
theorem normalizedVhciPort_paddedPort {n : Nat} (h : n < 65536) :
    normalizedVhciPort (paddedPort n) = .ok (decimal n) := by
  have hnumber : parseUnsigned 65536 (paddedPort n) = some n := by
    unfold paddedPort
    split
    · have hdigits : dropPlus ('0' :: decimal n) = '0' :: decimal n := rfl
      have hplain := parseUnsigned_decimal h
      unfold parseUnsigned at hplain ⊢
      rw [hdigits, if_neg (List.cons_ne_nil _ _), digitsValue_zero_cons]
      split at hplain
      · cases hplain
      · have hsame : dropPlus (decimal n) = decimal n := by
          unfold dropPlus
          split
          · rename_i digits heq
            have hplus : '+' ∈ decimal n := heq ▸ List.mem_cons_self
            exact absurd (isDigit_of_mem_decimal hplus) (by decide)
          · rfl
        rw [hsame] at hplain
        exact hplain
    · exact parseUnsigned_decimal h
  rw [normalizedVhciPort, hnumber]

/-- The ports of the status file are numbers, in two digits at least. -/
theorem exists_of_mem_stale {status : Except Text Text} {port : Text}
    (h : port ∈ staleVhciPorts status) : ∃ n < 65536, port = paddedPort n := by
  unfold staleVhciPorts at h
  split at h
  · obtain ⟨line, -, hline⟩ := List.mem_filterMap.mp h
    unfold parseVhciStatusLine at hline
    split at hline
    · split at hline
      · cases hline
      · split at hline
        · cases hline
        · obtain ⟨n, hn, rfl⟩ := Option.map_eq_some_iff.mp hline
          exact ⟨n, lt_of_parseUnsigned hn, rfl⟩
    · cases hline
  · cases h

theorem tells_runDirectVhciDetach {n : Nat} (h : n < 65536) :
    Tells Mends p (fun r => p ∧ Fine r) (runDirectVhciDetach (paddedPort n)) := by
  unfold runDirectVhciDetach
  rw [normalizedVhciPort_paddedPort h]
  exact tells_runFixCommand fun h => absurd (Option.some.inj h) (by decide)

theorem tells_detachStaleEach {ports : List Text}
    (h : ∀ port ∈ ports, ∃ n < 65536, port = paddedPort n) :
    Tells Mends p (fun r => p ∧ Fine r) (detachStaleEach ports) := by
  induction ports with
  | nil => exact tells_ret (and_iff_left trivial)
  | cons port ports ih =>
    have hrest := ih fun q hq => h q (List.mem_cons_of_mem port hq)
    refine (tells_fixDetach port).bind fun r => ?_
    cases r with
    | ok _ => exact hrest
    | error err =>
      obtain ⟨n, hn, rfl⟩ := h port List.mem_cons_self
      refine (tells_mending (calls_say _)).bind fun _ => ?_
      exact (tells_runDirectVhciDetach hn).andThen fun _ => hrest

theorem tells_detachStaleVhciPorts :
    Tells Mends p (fun r => p ∧ Fine r) detachStaleVhciPorts := by
  refine tells_call fun status => ?_
  have hp : (p ∧ Mends ⟨.client .readVhciStatus, status⟩) ↔ p := and_iff_left trivial
  intro env n
  rw [hp]
  revert env n
  split
  · exact tells_ret (and_iff_left trivial)
  · exact (tells_mending (calls_say _)).bind fun _ =>
      tells_detachStaleEach fun port hport => exists_of_mem_stale hport

theorem fine_readStdout (program : Text) (output : Except Text Output) :
    Fine (readStdout program output) ↔ succeeded output = true := by
  unfold readStdout succeeded
  split
  · exact ⟨fun h => h.elim, fun h => nomatch h⟩
  · split <;> simp_all [Fine]

/-- A question that may be answered either way. -/
theorem tells_question {program : Text} {args : List Text} (h : program ≠ "uname".toList) :
    Tells Mends p (fun _ => p) (commandSuccess program args) :=
  tells_call fun _ => tells_ret (and_iff_left fun heq => absurd heq h).symm

theorem tells_toolsReady : Tells Mends p (fun _ => p) toolsReady := by
  refine (tells_question (by decide)).bind fun ready => ?_
  cases ready with
  | true => exact tells_question (by decide)
  | false => exact tells_ret Iff.rfl

theorem tells_installPackages (packages : List Text) :
    Tells Mends p (fun r => p ∧ Fine r) (installPackages packages) :=
  (tells_runFixCommand (by decide)).andThen fun _ =>
    tells_runFixCommand fun h => absurd (Option.some.inj h) (by decide)

theorem tells_installMissing : Tells Mends p (fun r => p ∧ Fine r) installMissing := by
  have hkernel : Tells Mends p (fun r => p ∧ Fine r)
      (commandStdout "uname".toList ["-r".toList]) :=
    tells_call fun output => tells_ret (and_congr_right' ((fine_readStdout _ output).trans
      ⟨fun h _ => h, fun h => h rfl⟩))
  refine hkernel.andThen fun kernel => tells_toolsReady.bind fun ready => ?_
  cases ready with
  | true => exact tells_ret (and_iff_left trivial)
  | false => exact tells_installPackages _

theorem tells_prepareTools : Tells Mends p (fun r => p ∧ Fine r) prepareTools := by
  refine (tells_mending (calls_say _)).bind fun _ => ?_
  refine (tells_question (by decide)).bind fun aptGet => ?_
  cases aptGet with
  | true => exact tells_installMissing
  | false =>
    exact (tells_mending (calls_say _)).bind fun _ => tells_ret (and_iff_left trivial)

theorem tells_applyDoctorFixes : Tells Mends p (fun r => p ∧ Fine r) applyDoctorFixes :=
  tells_prepareTools.andThen fun _ =>
    (tells_runFixCommand (by decide)).andThen fun _ => tells_detachStaleVhciPorts

/-- The port was detached: through `usbip`, or by a write into the kernel's file. -/
def Freed (port : Text) (e : Event DoctorCall.Answer) : Prop :=
  e = ⟨.runForeground "sudo".toList ["usbip".toList, "detach".toList, "-p".toList, port], .ok true⟩ ∨
    ∃ number, normalizedVhciPort port = .ok number ∧
      e = ⟨.runForeground "sudo".toList ["sh".toList, "-c".toList, detachScript number], .ok true⟩

/-- The kernel module was loaded, then the status file was read, and then every port that it showed
    was detached. -/
def Mended (events : List (Event DoctorCall.Answer)) : Prop :=
  ∃ before status after,
    events = before ++
      ⟨.runForeground "sudo".toList ["modprobe".toList, "vhci-hcd".toList], .ok true⟩ ::
        ⟨.client .readVhciStatus, status⟩ :: after ∧
    ∀ port ∈ staleVhciPorts status, ∃ e ∈ after, Freed port e

theorem events_runFixCommand (env : Env DoctorCall.Answer) (n : Nat) (program : Text)
    (args : List Text) :
    ∃ said, events env n (runFixCommand program args) =
      [said, ⟨.runForeground program args, env (n + 1) (.runForeground program args)⟩] :=
  ⟨_, rfl⟩

theorem result_runFixCommand (env : Env DoctorCall.Answer) (n : Nat) (program : Text)
    (args : List Text) :
    result env n (runFixCommand program args) =
      readFix (commandLine program args) (env (n + 1) (.runForeground program args)) := rfl

/-- A command that has not failed is in the run with its success. -/
theorem mem_of_fine_runFixCommand {env : Env DoctorCall.Answer} {n : Nat} {program : Text}
    {args : List Text} (h : Fine (result env n (runFixCommand program args))) :
    (⟨.runForeground program args, .ok true⟩ : Event DoctorCall.Answer) ∈
      events env n (runFixCommand program args) := by
  obtain ⟨said, hevents⟩ := events_runFixCommand env n program args
  rw [result_runFixCommand, fine_readFix] at h
  rw [hevents, h]
  exact List.mem_cons_of_mem _ List.mem_cons_self

theorem freed_detachStaleEach {env : Env DoctorCall.Answer} {ports : List Text} {n : Nat}
    (h : Fine (result env n (detachStaleEach ports))) :
    ∀ port ∈ ports, ∃ e ∈ events env n (detachStaleEach ports), Freed port e := by
  induction ports generalizing n with
  | nil => exact fun port hport => absurd hport List.not_mem_nil
  | cons port ports ih =>
    unfold detachStaleEach at h ⊢
    rw [result_bind] at h
    rw [events_bind]
    cases hdetach : result env n (fixDetach port) with
    -- `usbip detach` has worked for this port; the rest is the induction hypothesis.
    | ok u =>
      rw [hdetach] at h
      have hfine : Fine (result env n (fixDetach port)) := by
        rw [hdetach]
        trivial
      intro other hother
      rcases List.mem_cons.mp hother with rfl | hother
      · exact ⟨_, List.mem_append_left _ (mem_of_fine_runFixCommand hfine), Or.inl rfl⟩
      · obtain ⟨e, he, hfreed⟩ := ih h other hother
        exact ⟨e, List.mem_append_right _ he, hfreed⟩
    -- The port is left to the direct write, without which there is no Ok.
    | error err =>
      rw [hdetach] at h
      dsimp only at h ⊢
      rw [result_bind] at h
      rw [events_bind]
      obtain ⟨u, k, hdirect, hrest, hevents⟩ := exists_of_fine_andThen h
      rw [hevents]
      intro other hother
      rcases List.mem_cons.mp hother with rfl | hother
      · unfold runDirectVhciDetach at hdirect ⊢
        cases hnumber : normalizedVhciPort other with
        | error err =>
          rw [hnumber] at hdirect
          cases hdirect
        | ok number =>
          rw [hnumber] at hdirect
          dsimp only at hdirect ⊢
          have hmem := mem_of_fine_runFixCommand (by rw [hdirect]; trivial)
          exact ⟨_, List.mem_append_right _ (List.mem_append_right _ (List.mem_append_left _ hmem)),
            Or.inr ⟨number, hnumber, rfl⟩⟩
      · obtain ⟨e, he, hfreed⟩ := ih hrest other hother
        exact ⟨e, List.mem_append_right _ (List.mem_append_right _ (List.mem_append_right _ he)),
          hfreed⟩

theorem freed_detachStaleVhciPorts {env : Env DoctorCall.Answer} {n : Nat}
    (h : Fine (result env n detachStaleVhciPorts)) :
    ∃ status after, events env n detachStaleVhciPorts =
        ⟨.client .readVhciStatus, status⟩ :: after ∧
      ∀ port ∈ staleVhciPorts status, ∃ e ∈ after, Freed port e := by
  unfold detachStaleVhciPorts at h ⊢
  rw [result_call] at h
  rw [events_call]
  refine ⟨_, _, rfl, ?_⟩
  split at h
  · rename_i hnone
    rw [hnone]
    exact fun port hport => absurd hport List.not_mem_nil
  · rename_i hsome
    rw [if_neg hsome, events_bind]
    rw [result_bind] at h
    intro port hport
    obtain ⟨e, he, hfreed⟩ := freed_detachStaleEach h port hport
    exact ⟨e, List.mem_append_right _ he, hfreed⟩

theorem mended_of_fine {env : Env DoctorCall.Answer} {n : Nat}
    (h : Fine (result env n applyDoctorFixes)) : Mended (events env n applyDoctorFixes) := by
  obtain ⟨u, k, -, hrest, hevents⟩ := exists_of_fine_andThen h
  obtain ⟨u, l, hload, hstale, hevents'⟩ := exists_of_fine_andThen hrest
  obtain ⟨status, after, hafter, hfreed⟩ := freed_detachStaleVhciPorts hstale
  have hloaded := (fine_readFix _ _).mp (by
    rw [← result_runFixCommand, ← loadModule, hload]
    trivial)
  obtain ⟨said, hsaid⟩ := events_runFixCommand env k "sudo".toList
    ["modprobe".toList, "vhci-hcd".toList]
  unfold applyDoctorFixes
  rw [hevents, hevents', hafter, loadModule, hsaid, hloaded]
  exact ⟨events env n prepareTools ++ [said], status, after, by simp, hfreed⟩

/-- **The repairs say they are done if and only if they are.** They fail exactly if a command fails
    that has to succeed, and that they have not failed means: `vhci-hcd` was loaded, and every port
    that the status file showed after that was detached, through `usbip` or, where that failed, by a
    write into the kernel's file. -/
theorem applyDoctorFixes_ok_iff (env : Env DoctorCall.Answer) :
    (result env 0 applyDoctorFixes = .ok () ↔ ∀ e ∈ events env 0 applyDoctorFixes, Mends e) ∧
      (result env 0 applyDoctorFixes = .ok () → Mended (events env 0 applyDoctorFixes)) := by
  have htells := tells_applyDoctorFixes (p := True) env 0
  dsimp only at htells
  rw [true_and, true_and] at htells
  rw [← fine_iff]
  exact ⟨htells, mended_of_fine⟩

end

end Client
end Lusbip
