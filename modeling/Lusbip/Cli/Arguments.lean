import Lusbip.Client.Agent
import Lusbip.Lib.Radix

/-!
# Arguments

What the options of `lusbip server` and `lusbip client` are read as, and the command lines with which
the program starts itself in the background.

How the words of a command line are sorted into options is not in this repository but in clap, which
stands here as a parameter. What is relied upon is written down in `Clap.SplitsPlainly`: options of
the subcommand, each of them once, are found as they were written, provided that no value looks like
an option itself.
-/

namespace Lusbip
namespace Cli

open Lib
open Lib.Fields
open Lib.Radix
open Agent (ClientEndpoint)

/-! ## Hexadecimal ids -/

/-- The prefix of a hexadecimal number is dropped, once. -/
def stripHexPrefix (trimmed : Text) : Text :=
  ((stripPrefix "0x".toList trimmed).or (stripPrefix "0X".toList trimmed)).getD trimmed

/-- A vendor or product id, with blanks around it and a prefix or without. -/
def parseHexU16 (value : Text) : Except Text UInt16 :=
  match parseRadix 16 65536 (stripHexPrefix (trim isWhitespace value)) with
  | some n => .ok (UInt16.ofNat n)
  | none => .error ("Invalid hex value: ".toList ++ value)

/-- `{:04x}` -/
def hex04x (n : UInt16) : Text := padded 16 4 n.toNat

/-- What an id may begin with, one of these at most. -/
def hexPrefixes : List Text := [[], "0x".toList, "0X".toList]

variable {value hex : Text} {n : UInt16}

theorem parseRadix_x (rest : Text) : parseRadix 16 65536 ('0' :: 'x' :: rest) = none := rfl

theorem parseRadix_X (rest : Text) : parseRadix 16 65536 ('0' :: 'X' :: rest) = none := rfl

/-- What is a number has no prefix to strip. -/
theorem stripHexPrefix_eq_self {n : Nat} (h : parseRadix 16 65536 hex = some n) :
    stripHexPrefix hex = hex := by
  unfold stripHexPrefix
  cases hx : stripPrefix "0x".toList hex with
  | some rest =>
    rw [stripPrefix_eq_some_iff.mp hx] at h
    exact absurd ((parseRadix_x rest).symm.trans h) (Option.some_ne_none n).symm
  | none =>
    cases hX : stripPrefix "0X".toList hex with
    | some rest =>
      rw [stripPrefix_eq_some_iff.mp hX] at h
      exact absurd ((parseRadix_X rest).symm.trans h) (Option.some_ne_none n).symm
    | none => rfl

theorem stripHexPrefix_cases (trimmed : Text) :
    ∃ pre ∈ hexPrefixes, trimmed = pre ++ stripHexPrefix trimmed := by
  unfold stripHexPrefix
  cases hx : stripPrefix "0x".toList trimmed with
  | some rest => exact ⟨"0x".toList, by simp [hexPrefixes], stripPrefix_eq_some_iff.mp hx⟩
  | none =>
    cases hX : stripPrefix "0X".toList trimmed with
    | some rest => exact ⟨"0X".toList, by simp [hexPrefixes], stripPrefix_eq_some_iff.mp hX⟩
    | none => exact ⟨[], by simp [hexPrefixes], rfl⟩

/-- A prefix is stripped from a number. -/
theorem stripHexPrefix_append {pre : Text} (hpre : pre ∈ hexPrefixes) {n : Nat}
    (h : parseRadix 16 65536 hex = some n) : stripHexPrefix (pre ++ hex) = hex := by
  simp only [hexPrefixes, List.mem_cons, List.not_mem_nil, or_false] at hpre
  rcases hpre with rfl | rfl | rfl
  · exact stripHexPrefix_eq_self h
  · rw [stripHexPrefix, stripPrefix_append]
    rfl
  · have hnone : stripPrefix "0x".toList ("0X".toList ++ hex) = none := rfl
    rw [stripHexPrefix, hnone, stripPrefix_append]
    rfl

theorem parseHexU16_eq_ok
    (h : parseRadix 16 65536 (stripHexPrefix (trim isWhitespace value)) = some n.toNat) :
    parseHexU16 value = .ok n := by
  unfold parseHexU16
  rw [h]
  exact congrArg _ UInt16.ofNat_toNat

/-- **What is read as an id**: between blanks, one of the prefixes or none, a plus sign or none, and
    at least one hexadecimal digit, of either case, for a number below `2 ^ 16`. -/
theorem parseHexU16_ok_iff (value : Text) (n : UInt16) :
    parseHexU16 value = .ok n ↔
      ∃ pre ∈ hexPrefixes, ∃ sign ∈ [[], ['+']], ∃ digits, digits ≠ [] ∧
        trim isWhitespace value = pre ++ (sign ++ digits) ∧
        readDigits 16 0 digits = some n.toNat := by
  constructor
  · intro h
    unfold parseHexU16 at h
    split at h
    · rename_i m hparse
      cases h
      obtain ⟨pre, hpre, htrim⟩ := stripHexPrefix_cases (trim isWhitespace value)
      obtain ⟨sign, digits, hdigits, hsign, hne, hread, hlimit⟩ := parseRadix_eq_some_iff.mp hparse
      refine ⟨pre, hpre, sign, by simpa using hsign, digits, hne, hdigits ▸ htrim, ?_⟩
      rw [hread, UInt16.toNat_ofNat_of_lt' hlimit]
    · cases h
  · rintro ⟨pre, hpre, sign, hsign, digits, hne, htrim, hread⟩
    have hparse : parseRadix 16 65536 (sign ++ digits) = some n.toNat :=
      parseRadix_eq_some_iff.mpr ⟨sign, digits, rfl, by simpa using hsign, hne, hread, n.toNat_lt⟩
    refine parseHexU16_eq_ok ?_
    rw [htrim, stripHexPrefix_append hpre hparse]
    exact hparse

theorem solid_hex04x (n : UInt16) : Solid (hex04x n) := by
  refine Solid.append (fun c hc => ?_) (solid_toDigits (by decide) (by decide) _)
  rw [List.eq_of_mem_replicate hc]
  rfl

theorem parseHexU16_hex04x (n : UInt16) : parseHexU16 (hex04x n) = .ok n := by
  have hread : readDigits 16 0 (hex04x n) = some n.toNat :=
    readDigits_padded (by decide) (by decide) 4 n.toNat
  have hparse : parseRadix 16 65536 (hex04x n) = some n.toNat :=
    parseRadix_eq_some_iff.mpr
      ⟨[], hex04x n, rfl, Or.inl rfl, padded_ne_nil 16 4 n.toNat, hread, n.toNat_lt⟩
  refine parseHexU16_eq_ok ?_
  rw [(solid_hex04x n).trim_eq, stripHexPrefix_eq_self hparse]
  exact hparse

/-! ## Options -/

/-- An option on the command line: `--name`, or `--name value`. -/
inductive Occurrence where
  | flag (name : Text)
  | value (name : Text) (value : Text)
  deriving DecidableEq, Repr

namespace Occurrence

/-- The name, without the hyphens in front of it. -/
def name : Occurrence → Text
  | .flag name => name
  | .value name _ => name

/-- As it is written. -/
def words : Occurrence → List Text
  | .flag name => ["--".toList ++ name]
  | .value name value => ["--".toList ++ name, value]

end Occurrence

/-- What `derive(Args)` declares of a subcommand: its name, and which options it has; `true` for those
    that take a value. -/
structure Subcommand where
  name : Text
  takesValue : Text → Option Bool

/-- A word that looks like an option. -/
def Hyphenated (word : Text) : Prop := word.head? = some '-'

instance (word : Text) : Decidable (Hyphenated word) :=
  inferInstanceAs (Decidable (word.head? = some '-'))

/-- An option of the subcommand, with a value that cannot be mistaken for another option. -/
def Subcommand.Declares (subcommand : Subcommand) : Occurrence → Prop
  | .flag name => subcommand.takesValue name = some false
  | .value name value => subcommand.takesValue name = some true ∧ ¬ Hyphenated value

/-- What clap finds on the words of a command line, or `none` where it ends the program with a
    message. -/
abbrev Clap := Subcommand → List Text → Option (List Occurrence)

/-- Options that the subcommand declares, each of them once, are found as they were written. -/
def Clap.SplitsPlainly (clap : Clap) (subcommand : Subcommand) : Prop :=
  ∀ occurrences : List Occurrence, (∀ o ∈ occurrences, subcommand.Declares o) →
    (occurrences.map (·.name)).Nodup →
      clap subcommand (subcommand.name :: occurrences.flatMap (·.words)) = some occurrences

/-- The value of an option, if it was given. -/
def valueOf (name : Text) (occurrences : List Occurrence) : Option Text :=
  occurrences.findSome? fun
    | .flag _ => none
    | .value n value => if n = name then some value else none

/-- Whether a flag was given. -/
def isGiven (name : Text) (occurrences : List Occurrence) : Bool := occurrences.contains (.flag name)

/-- The `FromStr` of `u16`. -/
def parsePort (value : Text) : Option UInt16 := (parseUnsigned 65536 value).map UInt16.ofNat

/-- What a `value_parser` makes of an option that may be missing; one that is given has to be read. -/
def readOption {α : Type} (parser : Text → Option α) (value : Option Text) : Option (Option α) :=
  match value with
  | some value => (parser value).map some
  | none => some none

/-- The options of `lusbip server`, with their defaults. -/
structure ServerArgs where
  vid : Option UInt16 := none
  pid : Option UInt16 := none
  busId : Option Text := none
  host : Text := "0.0.0.0".toList
  port : UInt16 := 3240
  background : Bool := false
  deriving DecidableEq, Repr

/-- What is declared of `lusbip server`. -/
def ServerArgs.subcommand : Subcommand where
  name := "server".toList
  takesValue name :=
    if ["vid".toList, "pid".toList, "bus-id".toList, "host".toList, "port".toList].contains name then
      some true
    else if name = "background".toList then some false
    else none

/-- The fields of `ServerArgs`, each from its own option. -/
def ServerArgs.read (occurrences : List Occurrence) : Option ServerArgs :=
  (readOption (fun value => (parseHexU16 value).toOption) (valueOf "vid".toList occurrences)).bind
    fun vid =>
  (readOption (fun value => (parseHexU16 value).toOption) (valueOf "pid".toList occurrences)).bind
    fun pid =>
  (readOption parsePort (valueOf "port".toList occurrences)).map fun port =>
    { vid
      pid
      busId := valueOf "bus-id".toList occurrences
      host := (valueOf "host".toList occurrences).getD "0.0.0.0".toList
      port := port.getD 3240
      background := isGiven "background".toList occurrences }

/-- `Cli::parse_from` on a command line of `lusbip server`. -/
def ServerArgs.parse (clap : Clap) (words : List Text) : Option ServerArgs :=
  (clap ServerArgs.subcommand words).bind ServerArgs.read

/-- The options of `lusbip client`, with their defaults. -/
structure TuiArgs where
  remote : Option Text := none
  tcpPort : UInt16 := 3240
  background : Bool := false
  agentChild : Bool := false
  deriving DecidableEq, Repr

/-- What is declared of `lusbip client`. -/
def TuiArgs.subcommand : Subcommand where
  name := "client".toList
  takesValue name :=
    if ["remote".toList, "tcp-port".toList].contains name then some true
    else if ["background".toList, "agent-child".toList].contains name then some false
    else none

/-- The fields of `TuiArgs`, each from its own option. -/
def TuiArgs.read (occurrences : List Occurrence) : Option TuiArgs :=
  (readOption parsePort (valueOf "tcp-port".toList occurrences)).map fun tcpPort =>
    { remote := valueOf "remote".toList occurrences
      tcpPort := tcpPort.getD 3240
      background := isGiven "background".toList occurrences
      agentChild := isGiven "agent-child".toList occurrences }

/-- `Cli::parse_from` on a command line of `lusbip client`. -/
def TuiArgs.parse (clap : Clap) (words : List Text) : Option TuiArgs :=
  (clap TuiArgs.subcommand words).bind TuiArgs.read

/-! ## Starting in the background -/

/-- The words of `spawn_background_server`. -/
def spawnBackgroundServer (host : Text) (port : UInt16) (vid pid : Option UInt16)
    (busId : Option Text) : List Text :=
  ["server".toList, "--host".toList, host, "--port".toList, decimal port.toNat,
    "--background".toList] ++
    (vid.toList.flatMap fun vid => ["--vid".toList, hex04x vid]) ++
    (pid.toList.flatMap fun pid => ["--pid".toList, hex04x pid]) ++
    busId.toList.flatMap fun busId => ["--bus-id".toList, busId]

/-- The words of `spawn_background_agent`. -/
def spawnBackgroundAgent (endpoint : ClientEndpoint) : List Text :=
  ["client".toList, "--remote".toList, endpoint.remote, "--tcp-port".toList,
    decimal endpoint.tcpPort.toNat, "--background".toList, "--agent-child".toList]

/-- What a client turns out to be. -/
inductive Role where
  | backgroundAgent (endpoint : ClientEndpoint)
  /-- It starts an agent, and ends. -/
  | spawner (endpoint : ClientEndpoint)
  | controller (endpoint : ClientEndpoint)
  | remoteControl (remote : Text) (tcpPort : UInt16)
  deriving DecidableEq, Repr

/-- `app_tui::run`. `live` is `background_agent_is_live`. -/
def TuiArgs.role (live : ClientEndpoint → Bool) (args : TuiArgs) : Except Text Role :=
  match args.remote with
  | none =>
      .error ("Client UI cần --remote, ví dụ: lusbip client --remote 10.10.61.72 ".toList ++
        "--tcp-port 3241".toList)
  | some remote =>
      let endpoint : ClientEndpoint := { remote, tcpPort := args.tcpPort }
      if args.agentChild then .ok (.backgroundAgent endpoint)
      else if args.background then .ok (.spawner endpoint)
      else if live endpoint then .ok (.controller endpoint)
      else .ok (.remoteControl remote args.tcpPort)

/-! ## One option that may be missing -/

section

variable {α : Type} {name other : Text} {write : α → Text} {o : Option α}

/-- The occurrences of an option that is written only where there is a value for it. -/
def written (name : Text) (write : α → Text) (o : Option α) : List Occurrence :=
  o.toList.map fun a => .value name (write a)

theorem valueOf_append (name : Text) (xs ys : List Occurrence) :
    valueOf name (xs ++ ys) = (valueOf name xs).or (valueOf name ys) := List.findSome?_append

theorem valueOf_written (name : Text) (write : α → Text) (o : Option α) :
    valueOf name (written name write o) = o.map write := by
  cases o with
  | none => rfl
  | some a => simp [valueOf, written]

theorem valueOf_written_of_ne (h : other ≠ name) (write : α → Text) (o : Option α) :
    valueOf name (written other write o) = none := by
  cases o with
  | none => rfl
  | some a => simp [valueOf, written, h]

theorem words_written (name : Text) (write : α → Text) (o : Option α) :
    (written name write o).flatMap (·.words) =
      o.toList.flatMap fun a => ["--".toList ++ name, write a] := List.flatMap_map ..

/-- What is written is read back, if its parser reads what its formatter writes. -/
theorem readOption_written {parser : Text → Option α} (h : ∀ a, parser (write a) = some a)
    (o : Option α) : readOption parser (o.map write) = some o := by
  cases o with
  | none => rfl
  | some a => exact congrArg (Option.map some) (h a)

end

/-! ## What is read back -/

theorem parsePort_decimal (port : UInt16) : parsePort (decimal port.toNat) = some port := by
  unfold parsePort
  rw [parseUnsigned_decimal port.toNat_lt]
  exact congrArg some UInt16.ofNat_toNat

theorem not_hyphenated_decimal (n : Nat) : ¬ Hyphenated (decimal n) := by
  intro h
  have hmem : '-' ∈ decimal n := List.mem_of_mem_head? h
  exact absurd (isDigit_of_mem_decimal hmem) (by decide)

theorem not_hyphenated_hex04x (n : UInt16) : ¬ Hyphenated (hex04x n) := by
  intro h
  have hread : readDigits 16 0 (hex04x n) = some n.toNat :=
    readDigits_padded (by decide) (by decide) 4 n.toNat
  have hmem : '-' ∈ hex04x n := List.mem_of_mem_head? h
  exact absurd (isSome_toDigit_of_readDigits hread '-' hmem) (by decide)

/-- The options that `spawn_background_server` means. -/
def serverOccurrences (args : ServerArgs) : List Occurrence :=
  [.value "host".toList args.host, .value "port".toList (decimal args.port.toNat),
    .flag "background".toList] ++
    (written "vid".toList hex04x args.vid ++ written "pid".toList hex04x args.pid ++
      written "bus-id".toList id args.busId)

theorem words_serverOccurrences (args : ServerArgs) :
    spawnBackgroundServer args.host args.port args.vid args.pid args.busId =
      ServerArgs.subcommand.name :: (serverOccurrences args).flatMap (·.words) := by
  unfold serverOccurrences
  rw [List.flatMap_append, List.flatMap_append, List.flatMap_append, words_written, words_written,
    words_written]
  unfold spawnBackgroundServer
  rw [List.append_assoc, List.append_assoc, List.append_assoc]
  rfl

theorem declares_serverOccurrences {args : ServerArgs} (hhost : ¬ Hyphenated args.host)
    (hbusId : ∀ busId ∈ args.busId, ¬ Hyphenated busId) :
    ∀ o ∈ serverOccurrences args, ServerArgs.subcommand.Declares o := by
  intro o ho
  unfold serverOccurrences written at ho
  simp only [List.mem_append, List.mem_cons, List.not_mem_nil, or_false, List.mem_map,
    Option.mem_toList] at ho
  rcases ho with (rfl | rfl | rfl) | (⟨vid, -, rfl⟩ | ⟨pid, -, rfl⟩) | ⟨busId, hmem, rfl⟩
  · exact ⟨rfl, hhost⟩
  · exact ⟨rfl, not_hyphenated_decimal _⟩
  · rfl
  · exact ⟨rfl, not_hyphenated_hex04x vid⟩
  · exact ⟨rfl, not_hyphenated_hex04x pid⟩
  · exact ⟨rfl, hbusId busId hmem⟩

theorem names_written {α : Type} (name : Text) (write : α → Text) (o : Option α) :
    ((written name write o).map (·.name)).Sublist [name] := by
  cases o with
  | none => exact List.nil_sublist _
  | some a => exact List.Sublist.refl _

theorem nodup_serverOccurrences (args : ServerArgs) :
    ((serverOccurrences args).map (·.name)).Nodup := by
  have hnames : ["host".toList, "port".toList, "background".toList, "vid".toList, "pid".toList,
      "bus-id".toList].Nodup := by decide
  refine hnames.sublist ?_
  unfold serverOccurrences
  rw [List.map_append, List.map_append, List.map_append]
  exact List.Sublist.append (List.Sublist.refl _)
    (((names_written _ _ _).append (names_written _ _ _)).append (names_written _ _ _))

theorem valueOf_serverOccurrences (args : ServerArgs) :
    valueOf "host".toList (serverOccurrences args) = some args.host ∧
      valueOf "port".toList (serverOccurrences args) = some (decimal args.port.toNat) ∧
      valueOf "vid".toList (serverOccurrences args) = args.vid.map hex04x ∧
      valueOf "pid".toList (serverOccurrences args) = args.pid.map hex04x ∧
      valueOf "bus-id".toList (serverOccurrences args) = args.busId := by
  unfold serverOccurrences
  simp only [valueOf_append]
  refine ⟨rfl, rfl, ?_, ?_, ?_⟩
  · rw [valueOf_written, valueOf_written_of_ne (by decide), valueOf_written_of_ne (by decide),
      Option.or_none, Option.or_none]
    rfl
  · rw [valueOf_written, valueOf_written_of_ne (by decide), valueOf_written_of_ne (by decide),
      Option.none_or, Option.or_none]
    rfl
  · rw [valueOf_written, valueOf_written_of_ne (by decide), valueOf_written_of_ne (by decide),
      Option.none_or, Option.map_id_fun]
    rfl

theorem read_serverOccurrences (args : ServerArgs) :
    ServerArgs.read (serverOccurrences args) = some { args with background := true } := by
  obtain ⟨hhost, hport, hvid, hpid, hbusId⟩ := valueOf_serverOccurrences args
  have hid : ∀ n, (parseHexU16 (hex04x n)).toOption = some n := fun n => by
    rw [parseHexU16_hex04x]
    rfl
  have hread : readOption parsePort (some (decimal args.port.toNat)) = some (some args.port) :=
    congrArg (Option.map some) (parsePort_decimal args.port)
  unfold ServerArgs.read
  rw [hhost, hport, hvid, hpid, hbusId, readOption_written hid, readOption_written hid, hread]
  rfl

/-- The options that `spawn_background_agent` means. -/
def agentOccurrences (endpoint : ClientEndpoint) : List Occurrence :=
  [.value "remote".toList endpoint.remote,
    .value "tcp-port".toList (decimal endpoint.tcpPort.toNat), .flag "background".toList,
    .flag "agent-child".toList]

theorem declares_agentOccurrences {endpoint : ClientEndpoint}
    (hremote : ¬ Hyphenated endpoint.remote) :
    ∀ o ∈ agentOccurrences endpoint, TuiArgs.subcommand.Declares o := by
  intro o ho
  simp only [agentOccurrences, List.mem_cons, List.not_mem_nil, or_false] at ho
  rcases ho with rfl | rfl | rfl | rfl
  · exact ⟨rfl, hremote⟩
  · exact ⟨rfl, not_hyphenated_decimal _⟩
  · rfl
  · rfl

theorem read_agentOccurrences (endpoint : ClientEndpoint) :
    TuiArgs.read (agentOccurrences endpoint) =
      some { remote := some endpoint.remote, tcpPort := endpoint.tcpPort, background := true,
             agentChild := true } := by
  have hread : readOption parsePort (some (decimal endpoint.tcpPort.toNat)) =
      some (some endpoint.tcpPort) := congrArg (Option.map some) (parsePort_decimal _)
  have hport : valueOf "tcp-port".toList (agentOccurrences endpoint) =
      some (decimal endpoint.tcpPort.toNat) := rfl
  unfold TuiArgs.read
  rw [hport, hread]
  rfl

variable {clap : Clap}

theorem parse_spawnBackgroundServer (h : clap.SplitsPlainly ServerArgs.subcommand) {args : ServerArgs}
    (hhost : ¬ Hyphenated args.host) (hbusId : ∀ busId ∈ args.busId, ¬ Hyphenated busId) :
    ServerArgs.parse clap
        (spawnBackgroundServer args.host args.port args.vid args.pid args.busId) =
      some { args with background := true } := by
  rw [ServerArgs.parse, words_serverOccurrences, h (serverOccurrences args)
    (declares_serverOccurrences hhost hbusId) (nodup_serverOccurrences args)]
  exact read_serverOccurrences args

theorem role_spawnBackgroundAgent (h : clap.SplitsPlainly TuiArgs.subcommand)
    (live : ClientEndpoint → Bool) {endpoint : ClientEndpoint} (hremote : ¬ Hyphenated endpoint.remote) :
    (TuiArgs.parse clap (spawnBackgroundAgent endpoint)).map (TuiArgs.role live) =
      some (.ok (.backgroundAgent endpoint)) := by
  have hnodup : ((agentOccurrences endpoint).map (·.name)).Nodup := by
    show ["remote".toList, "tcp-port".toList, "background".toList, "agent-child".toList].Nodup
    decide
  have hfound : clap TuiArgs.subcommand (spawnBackgroundAgent endpoint) =
      some (agentOccurrences endpoint) :=
    h (agentOccurrences endpoint) (declares_agentOccurrences hremote) hnodup
  rw [TuiArgs.parse, hfound, Option.bind_some, read_agentOccurrences]
  rfl

/-- **What is started again in the background is what it was started to be**, where no text looks like
    an option. A server is given the address, the port and the filter that it had, each read back as
    it was; a client becomes the agent of the same endpoint, whatever else is running, so that it
    never starts another one. -/
theorem relaunch_reads_back (hserver : clap.SplitsPlainly ServerArgs.subcommand)
    (hclient : clap.SplitsPlainly TuiArgs.subcommand) {args : ServerArgs}
    (hhost : ¬ Hyphenated args.host) (hbusId : ∀ busId ∈ args.busId, ¬ Hyphenated busId)
    (live : ClientEndpoint → Bool) {endpoint : ClientEndpoint}
    (hremote : ¬ Hyphenated endpoint.remote) :
    ServerArgs.parse clap
        (spawnBackgroundServer args.host args.port args.vid args.pid args.busId) =
      some { args with background := true } ∧
    (TuiArgs.parse clap (spawnBackgroundAgent endpoint)).map (TuiArgs.role live) =
      some (.ok (.backgroundAgent endpoint)) :=
  ⟨parse_spawnBackgroundServer hserver hhost hbusId, role_spawnBackgroundAgent hclient live hremote⟩

/-- Word by word: the options of a command line, and the one that still wants its value. -/
def findOptions (subcommand : Subcommand) : Option Text → List Text → Option (List Occurrence)
  | none, [] => some []
  | some _, [] => none
  | some name, value :: rest =>
      if Hyphenated value then none
      else (findOptions subcommand none rest).map (.value name value :: ·)
  | none, word :: rest =>
      (stripPrefix "--".toList word).bind fun name =>
        match subcommand.takesValue name with
        | some true => findOptions subcommand (some name) rest
        | some false => (findOptions subcommand none rest).map (.flag name :: ·)
        | none => none

/-- On a command line of declared options, that is what clap does. -/
def wordByWord : Clap
  | _, [] => none
  | subcommand, name :: words =>
      if name = subcommand.name then findOptions subcommand none words else none

theorem splitsPlainly_wordByWord (subcommand : Subcommand) :
    Clap.SplitsPlainly wordByWord subcommand := by
  rintro occurrences hdeclared -
  show (if subcommand.name = subcommand.name then _ else _) = _
  rw [if_pos rfl]
  induction occurrences with
  | nil => rfl
  | cons o occurrences ih =>
    have hrest := ih fun o ho => hdeclared o (List.mem_cons_of_mem _ ho)
    have ho := hdeclared o List.mem_cons_self
    cases o with
    | flag name =>
      have ho : subcommand.takesValue name = some false := ho
      show findOptions subcommand none (("--".toList ++ name) :: occurrences.flatMap (·.words)) = _
      rw [findOptions, stripPrefix_append, Option.bind_some, ho]
      dsimp only
      rw [hrest]
      rfl
    | value name value =>
      obtain ⟨htakes, hvalue⟩ := ho
      show findOptions subcommand none
        (("--".toList ++ name) :: value :: occurrences.flatMap (·.words)) = _
      rw [findOptions, stripPrefix_append, Option.bind_some, htakes]
      dsimp only
      rw [findOptions, if_neg hvalue, hrest]
      rfl

theorem oneAdapter_reads_back :
    ServerArgs.parse wordByWord
        (spawnBackgroundServer "0.0.0.0".toList 3241 (some 0x1a86) none (some "1-2".toList)) =
      some { vid := some 0x1a86, busId := some "1-2".toList, port := 3241, background := true } ∧
    (TuiArgs.parse wordByWord
        (spawnBackgroundAgent { remote := "10.10.61.72".toList, tcpPort := 3241 })).map
        (TuiArgs.role fun _ => true) =
      some (.ok (.backgroundAgent { remote := "10.10.61.72".toList, tcpPort := 3241 })) :=
  @relaunch_reads_back wordByWord (splitsPlainly_wordByWord _) (splitsPlainly_wordByWord _)
    { vid := some 0x1a86, busId := some "1-2".toList, port := 3241 } (by decide) (by decide)
    (fun _ => true) _ (by decide)

end Cli
end Lusbip
