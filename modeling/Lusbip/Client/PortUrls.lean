import Lusbip.Client.Agent
import Lusbip.Client.PortTable

/-!
# The URL of a port

A port that was attached from a remote has the remote's address and bus id in a URL. The client
takes the address to end at the first colon. An IPv6 address has colons of its own, so that a port
attached from one is not seen to be the remote's.
-/

namespace Lusbip
namespace Client

open Lib
open Lib.Fields

variable {x host busId line stdout header url : Text} {before after : List Text} {tcpPort : UInt16}

/-- `x -> usbip://HOST:PORT/BUSID` -/
def urlLine (x host : Text) (tcpPort : UInt16) (busId : Text) : Text :=
  x ++ " -> usbip://".toList ++ host ++ ':' :: decimal tcpPort.toNat ++ '/' :: busId

/-- An address as it is given to the client. -/
structure HostText (host : Text) : Prop where
  ne_nil : host ≠ []
  solid : Solid host
  noSlash : '/' ∉ host

structure BusIdText (busId : Text) : Prop where
  ne_nil : busId ≠ []
  solid : Solid busId

/-! ## What a line says -/

/-- No host that is extracted has a colon. -/
theorem noColon_of_extractUsbipUrl (h : extractUsbipUrl line = some (host, busId)) :
    ':' ∉ host := by
  obtain ⟨⟨front, url⟩, -, h⟩ := Option.bind_eq_some_iff.mp h
  obtain ⟨⟨hostPort, rest⟩, -, h⟩ := Option.bind_eq_some_iff.mp h
  obtain ⟨word, -, h⟩ := Option.bind_eq_some_iff.mp h
  dsimp only at h
  split_ifs at h
  cases h
  intro hcolon
  split at hcolon
  · next value port hsplit =>
    exact (splitOnce_eq_some_iff.mp hsplit).2 (trim_subset _ _ hcolon)
  · next hsplit => exact splitOnce_eq_none_iff.mp hsplit (trim_subset _ _ hcolon)

/-- A host without a colon is extracted. -/
theorem extractUsbipUrl_urlLine (hx : ¬ "usbip://".toList <:+: x) (hhost : HostText host)
    (hbus : BusIdText busId) (hcolon : ':' ∉ host) (tcpPort : UInt16) :
    extractUsbipUrl (urlLine x host tcpPort busId) = some (host, busId) := by
  have hdigits : '/' ∉ decimal tcpPort.toNat := by
    intro hmem
    exact absurd (isDigit_of_mem_decimal hmem) (by decide)
  have hmarker : splitOnce "usbip://".toList (urlLine x host tcpPort busId) =
      some (x ++ " -> ".toList, host ++ ':' :: decimal tcpPort.toNat ++ '/' :: busId) := by
    have hline : urlLine x host tcpPort busId = x ++ ' ' :: ("-> ".toList ++ "usbip://".toList ++
        (host ++ ':' :: decimal tcpPort.toNat ++ '/' :: busId)) := by
      simp [urlLine]
    have harrow : splitOnce "usbip://".toList ("-> ".toList ++ "usbip://".toList ++
        (host ++ ':' :: decimal tcpPort.toNat ++ '/' :: busId)) =
        some ("-> ".toList, host ++ ':' :: decimal tcpPort.toNat ++ '/' :: busId) :=
      splitOnce_append (by decide) _
    -- The marker cannot begin in what precedes the arrow: there is a blank between.
    rw [hline, splitOnce_skip (by decide) hx, harrow]
    rfl
  have hslash : splitOnce ['/'] (host ++ ':' :: decimal tcpPort.toNat ++ '/' :: busId) =
      some (host ++ ':' :: decimal tcpPort.toNat, busId) := by
    refine splitOnce_eq_some_iff.mpr ⟨rfl, ?_⟩
    simp [hhost.noSlash, hdigits]
  have hport : splitOnce [':'] (host ++ ':' :: decimal tcpPort.toNat) =
      some (host, decimal tcpPort.toNat) := splitOnce_eq_some_iff.mpr ⟨rfl, hcolon⟩
  refine Option.bind_eq_some_iff.mpr ⟨_, hmarker, Option.bind_eq_some_iff.mpr ⟨_, hslash,
    Option.bind_eq_some_iff.mpr ⟨busId, ?_, ?_⟩⟩⟩
  · rw [words_of_solid hbus.solid hbus.ne_nil]
    rfl
  · simp only [hport, hhost.solid.trim_eq, hbus.solid.trim_eq]
    exact if_neg (not_or.mpr ⟨hhost.ne_nil, hbus.ne_nil⟩)

theorem extractUsbipUrl_eq_none (h : ¬ "usbip://".toList <:+: line) :
    extractUsbipUrl line = none := by
  have hmarker : splitOnce "usbip://".toList line = none :=
    splitOnce_eq_none_of_not_within (by decide) h
  rw [extractUsbipUrl, hmarker]
  rfl

/-! ## The block of a port -/

/-- The output is the block of one port, and its URL is in a line of its own. -/
def ShowsUrl (stdout urlLine : Text) : Prop :=
  ∃ header before url after, lines stdout = header :: (before ++ url :: after) ∧
    (portLine? header).isSome = true ∧ (∀ line ∈ before ++ url :: after, portLine? line = none) ∧
    trim isWhitespace url = urlLine ∧ ∀ line ∈ after, ¬ "usbip://".toList <:+: line

/-- The port of the block is seen to be the remote's, and to be attached for the bus id. -/
def Recognised (stdout host : Text) (tcpPort : UInt16) (busId : Text) : Prop :=
  ∃ port, parseUsbipPortOutput stdout = [port] ∧ port.remoteHost = some host ∧
    port.remoteBusId = some busId ∧ attachedPortBelongsToRemote host port = true ∧
    Agent.matchingPort ⟨host, tcpPort⟩ busId (parseUsbipPortOutput stdout) = some port

theorem noColon_of_mem_parseUsbipPortOutput {port : AttachedUsbPort}
    (h : port ∈ parseUsbipPortOutput stdout) : ∀ host ∈ port.remoteHost, ':' ∉ host := by
  rw [parseUsbipPortOutput_eq, parsePorts_eq] at h
  obtain ⟨block, -, rfl⟩ := List.mem_map.mp h
  intro host hhost
  obtain ⟨⟨host, busId⟩, hurl, rfl⟩ := Option.map_eq_some_iff.mp hhost
  obtain ⟨line, -, hextract⟩ := List.mem_filterMap.mp (List.mem_of_getLast? hurl)
  exact noColon_of_extractUsbipUrl hextract

theorem lastUrl_append_cons {line : Text} {parts : Text × Text}
    (hline : extractUsbipUrl (trim isWhitespace line) = some parts)
    (hafter : ∀ l ∈ after, extractUsbipUrl (trim isWhitespace l) = none) :
    lastUrl (before ++ line :: after) = some parts := by
  have hnone : (after.filterMap fun l => extractUsbipUrl (trim isWhitespace l)) = [] :=
    List.filterMap_eq_nil_iff.mpr hafter
  rw [lastUrl, List.filterMap_append, List.filterMap_cons]
  simp only [hline, hnone]
  exact List.getLast?_concat

/-- A block on its own is one record. -/
theorem parsePorts_block {body : List Text} (hheader : (portLine? header).isSome = true)
    (hbody : ∀ line ∈ body, portLine? line = none) :
    ∃ rest, parsePorts (header :: body) = [PortBlock.record ⟨rest, body⟩] := by
  obtain ⟨rest, hrest⟩ := Option.isSome_iff_exists.mp hheader
  have htake : (body.takeWhile fun l => (portLine? l).isNone) = body :=
    List.takeWhile_eq_self_iff.mpr fun l hl => by simp [hbody l hl]
  have hblocks : portBlocks body = [] := by
    have hnil := portBlocks_of_body hbody []
    rwa [List.append_nil] at hnil
  refine ⟨rest, ?_⟩
  rw [parsePorts_eq, portBlocks, hrest]
  dsimp only
  rw [htake, hblocks]
  rfl

/-- **A port is recognised exactly if the address it was attached from has no colon.** -/
theorem port_recognised_iff (hx : ¬ "usbip://".toList <:+: x) (hhost : HostText host)
    (hbus : BusIdText busId) (h : ShowsUrl stdout (urlLine x host tcpPort busId)) :
    Recognised stdout host tcpPort busId ↔ ':' ∉ host := by
  constructor
  · rintro ⟨port, hparse, hport, -⟩
    have hmem : port ∈ parseUsbipPortOutput stdout := by
      rw [hparse]
      exact List.mem_singleton_self port
    exact noColon_of_mem_parseUsbipPortOutput hmem host hport
  · intro hcolon
    obtain ⟨header, before, url, after, hlines, hheader, hbody, hurl, hafter⟩ := h
    obtain ⟨rest, hparse⟩ := parsePorts_block hheader hbody
    rw [← hlines, ← parseUsbipPortOutput_eq] at hparse
    -- No line behind the URL has another one, so it is the last.
    have hlast : lastUrl (before ++ url :: after) = some (host, busId) := by
      refine lastUrl_append_cons ?_ fun l hl => extractUsbipUrl_eq_none fun hinside => ?_
      · rw [hurl]
        exact extractUsbipUrl_urlLine hx hhost hbus hcolon tcpPort
      · exact hafter l hl (hinside.trans (trim_within isWhitespace l))
    have hremote : (PortBlock.record ⟨rest, before ++ url :: after⟩).remoteHost = some host := by
      show (lastUrl _).map Prod.fst = _
      rw [hlast]
      rfl
    have hown : (PortBlock.record ⟨rest, before ++ url :: after⟩).remoteBusId = some busId := by
      show (lastUrl _).map Prod.snd = _
      rw [hlast]
      rfl
    refine ⟨_, hparse, hremote, hown, ?_, ?_⟩
    · simp [attachedPortBelongsToRemote, hremote]
    · rw [hparse]
      exact List.find?_cons_of_pos (by simp [hremote, hown])

/-! ## A server with an IPv6 address -/

/-- The block of a port that was attached from the host. -/
def attachedBlock (host : Text) : Text :=
  "Port 00: <Port in Use> at High Speed(480Mbps)\n       CP2102 (10c4:ea60)\n".toList
    ++ "       3-1 -> usbip://".toList ++ host
    ++ ":3240/1-1\n           -> remote bus/dev 001/002\n".toList

theorem attachedBlock_showsUrl_v4 : ShowsUrl (attachedBlock "10.10.61.72".toList)
    (urlLine "3-1".toList "10.10.61.72".toList 3240 "1-1".toList) :=
  ⟨"Port 00: <Port in Use> at High Speed(480Mbps)".toList,
    ["       CP2102 (10c4:ea60)".toList],
    "       3-1 -> usbip://10.10.61.72:3240/1-1".toList,
    ["           -> remote bus/dev 001/002".toList], by decide, by decide, by decide, by decide,
    by decide⟩

theorem port_recognised_v4 :
    Recognised (attachedBlock "10.10.61.72".toList) "10.10.61.72".toList 3240 "1-1".toList ↔
      ':' ∉ "10.10.61.72".toList :=
  port_recognised_iff (x := "3-1".toList) (by decide)
    ⟨by decide, solid_of_all (by decide), by decide⟩ ⟨by decide, solid_of_all (by decide)⟩
    attachedBlock_showsUrl_v4

theorem port_not_recognised_v6 :
    ShowsUrl (attachedBlock "fd00::7".toList)
        (urlLine "3-1".toList "fd00::7".toList 3240 "1-1".toList) ∧
      HostText "fd00::7".toList ∧
      ¬ Recognised (attachedBlock "fd00::7".toList) "fd00::7".toList 3240 "1-1".toList := by
  refine ⟨⟨"Port 00: <Port in Use> at High Speed(480Mbps)".toList,
    ["       CP2102 (10c4:ea60)".toList],
    "       3-1 -> usbip://fd00::7:3240/1-1".toList,
    ["           -> remote bus/dev 001/002".toList], by decide, by decide, by decide, by decide,
    by decide⟩, ⟨by decide, solid_of_all (by decide), by decide⟩, ?_⟩
  rintro ⟨port, hparse, hport, -⟩
  have hmem : port ∈ parseUsbipPortOutput (attachedBlock "fd00::7".toList) := by
    rw [hparse]
    exact List.mem_singleton_self port
  exact noColon_of_mem_parseUsbipPortOutput hmem _ hport (by decide)

end Client
end Lusbip
