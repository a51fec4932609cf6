import Mathlib.Data.List.Forall2
import Mathlib.Data.List.Nodup
import Mathlib.Logic.Function.Basic
import Lusbip.Client.Tables
import Lusbip.Server.OccupancyStatus

/-!
# Who has which device

The client reads the status the server writes, and marks the rows of the devices somebody has.
Writer and reader are different programs that share nothing but the text; that the map comes out as
it went in rests on what a bus id and an address look like.
-/

namespace Lusbip
namespace Client

open Lib
open Lib.Fields

/-- `collect` into a `HashMap`: what is inserted later replaces what has its key. -/
def collectMap (entries : List (Text × Text)) : Text → Option Text :=
  entries.foldl (fun map entry => Function.update map entry.1 (some entry.2)) fun _ => none

def parseOccupancyLine (line : Text) : Option (Text × Text) := do
  let (busId, client) ← splitOnce ['\t'] line
  let busId := trim isWhitespace busId
  let client := trim isWhitespace client
  if busId = [] ∨ client = [] then none else some (busId, client)

def parseRemoteOccupancyStatus (status : Text) : Text → Option Text :=
  collectMap ((lines status).filterMap parseOccupancyLine)

def applyRemoteOccupancy (states : List RemoteUsbDeviceState) (occupancy : Text → Option Text) :
    List RemoteUsbDeviceState :=
  states.map fun state =>
    match occupancy state.device.busId with
    | some client => { state with occupiedBy := some client }
    | none => state

/-! ## Maps and their entries -/

/-- The entries of a map, in the order of one iteration of it. -/
structure Iterates {β : Type*} (entries : List (Text × β)) (map : Text → Option β) : Prop where
  nodup : (entries.map Prod.fst).Nodup
  mem : ∀ key value, (key, value) ∈ entries ↔ map key = some value

theorem collectMap_concat (entries : List (Text × Text)) (entry : Text × Text) :
    collectMap (entries ++ [entry])
      = Function.update (collectMap entries) entry.1 (some entry.2) := by
  rw [collectMap, List.foldl_append]
  rfl

theorem collectMap_eq_none {entries : List (Text × Text)} {key : Text}
    (h : key ∉ entries.map Prod.fst) : collectMap entries key = none := by
  induction entries using List.reverseRecOn with
  | nil => rfl
  | append_singleton entries entry ih =>
    rw [List.map_append, List.mem_append, not_or] at h
    have hne : key ≠ entry.1 := fun heq => h.2 (List.mem_singleton.mpr heq)
    rw [collectMap_concat, Function.update_of_ne hne, ih h.1]

/-- Collecting the entries of a map gives the map. -/
theorem collectMap_eq_some {entries : List (Text × Text)} (hn : (entries.map Prod.fst).Nodup)
    {key value : Text} (h : (key, value) ∈ entries) : collectMap entries key = some value := by
  induction entries using List.reverseRecOn with
  | nil => cases h
  | append_singleton entries entry ih =>
    rw [List.map_append, List.nodup_append] at hn
    rw [collectMap_concat]
    rcases List.mem_append.mp h with h | h
    · have hne : key ≠ entry.1 :=
        hn.2.2 key (List.mem_map_of_mem (f := Prod.fst) h) entry.1 (List.mem_singleton_self _)
      rw [Function.update_of_ne hne, ih hn.1 h]
    · rw [← List.mem_singleton.mp h, Function.update_self]

theorem Iterates.collectMap_eq {entries : List (Text × Text)} {map : Text → Option Text}
    (h : Iterates entries map) : collectMap entries = map := by
  funext key
  cases hk : map key with
  | some value => exact collectMap_eq_some h.nodup ((h.mem key value).mpr hk)
  | none =>
    refine collectMap_eq_none fun hmem => ?_
    obtain ⟨entry, he, rfl⟩ := List.mem_map.mp hmem
    rw [(h.mem entry.1 entry.2).mp he] at hk
    cases hk

/-! ## Writer and reader -/

/-- A bus id that a line can carry. -/
structure BusIdName (busId : Text) : Prop where
  nonempty : busId ≠ []
  noTab : '\t' ∉ busId
  noCr : '\r' ∉ busId
  noNewline : '\n' ∉ busId
  trimmed : Trimmed isWhitespace busId

/-- The line of one entry. -/
def statusLine (entry : Text × SocketAddr) : Text := entry.1 ++ '\t' :: entry.2.ip.text

theorem trim_ipText (ip : IpAddr) : trim isWhitespace ip.text = ip.text :=
  (Trimmed.of_forall ip.solid_text).trim_eq

theorem parseOccupancyLine_statusLine {entry : Text × SocketAddr} (h : BusIdName entry.1) :
    parseOccupancyLine (statusLine entry) = some (entry.1, entry.2.ip.text) := by
  have hsplit : splitOnce ['\t'] (statusLine entry) = some (entry.1, entry.2.ip.text) := by
    have hline : statusLine entry = entry.1 ++ ['\t'] ++ entry.2.ip.text := by
      rw [statusLine, List.append_assoc, List.singleton_append]
    rw [hline]
    exact splitOnce_append h.noTab entry.2.ip.text
  have hne : ¬ (entry.1 = [] ∨ entry.2.ip.text = []) :=
    not_or.mpr ⟨h.nonempty, entry.2.ip.text_ne_nil⟩
  simp only [parseOccupancyLine, hsplit, Option.bind_eq_bind, Option.bind_some, h.trimmed.trim_eq,
    trim_ipText, if_neg hne]

theorem notMem_ipText {c : Char} (hc : isWhitespace c = true) (ip : IpAddr) : c ∉ ip.text := by
  intro h
  rw [ip.solid_text c h] at hc
  cases hc

theorem newline_notMem_statusLine {entry : Text × SocketAddr} (h : BusIdName entry.1) :
    '\n' ∉ statusLine entry := by
  rw [statusLine, List.mem_append, List.mem_cons, not_or, not_or]
  exact ⟨h.noNewline, by decide, notMem_ipText (by decide) _⟩

/-- The line ends with the address, which has no carriage return. -/
theorem getLast_statusLine (entry : Text × SocketAddr) :
    (statusLine entry).getLast? ≠ some '\r' := by
  have hlast : (statusLine entry).getLast? = entry.2.ip.text.getLast? := by
    rw [statusLine, List.getLast?_append, List.getLast?_cons]
    cases h : entry.2.ip.text.getLast? with
    | none => exact absurd (List.getLast?_eq_none_iff.mp h) entry.2.ip.text_ne_nil
    | some c => rfl
  rw [hlast]
  exact fun h => notMem_ipText (by decide) _ (List.mem_of_getLast? h)

/-- The entries are read in the order in which they were written. -/
theorem parse_lines_occupancyStatus {entries : List (Text × SocketAddr)}
    (h : ∀ entry ∈ entries, BusIdName entry.1) :
    (lines (occupancyStatus entries)).filterMap parseOccupancyLine
      = entries.map fun entry => (entry.1, entry.2.ip.text) := by
  have hlines : lines (occupancyStatus entries) = entries.map statusLine :=
    lines_flatMap (fun entry he => newline_notMem_statusLine (h entry he))
      fun entry _ => getLast_statusLine entry
  have hparse : entries.filterMap (parseOccupancyLine ∘ statusLine)
      = entries.filterMap fun entry => some (entry.1, entry.2.ip.text) :=
    List.filterMap_congr fun entry he => parseOccupancyLine_statusLine (h entry he)
  rw [hlines, List.filterMap_map, hparse]
  exact congrFun List.filterMap_eq_map entries

/-- The textual addresses of an occupancy map. -/
def ipTexts (occupancy : Text → Option SocketAddr) : Text → Option Text :=
  fun busId => (occupancy busId).map fun client => client.ip.text

theorem Iterates.ipTexts {entries : List (Text × SocketAddr)}
    {occupancy : Text → Option SocketAddr} (h : Iterates entries occupancy) :
    Iterates (entries.map fun entry => (entry.1, entry.2.ip.text)) (ipTexts occupancy) := by
  refine ⟨?_, fun key value => ?_⟩
  · rw [List.map_map]
    exact h.nodup
  · rw [List.mem_map, Client.ipTexts, Option.map_eq_some_iff]
    constructor
    · rintro ⟨⟨busId, client⟩, he, heq⟩
      obtain ⟨rfl, rfl⟩ := Prod.mk.inj heq
      exact ⟨client, (h.mem busId client).mp he, rfl⟩
    · rintro ⟨client, hc, rfl⟩
      exact ⟨(key, client), (h.mem key client).mpr hc, rfl⟩

/-- What is written is read, whatever the order was. -/
theorem parse_occupancyStatus {entries : List (Text × SocketAddr)}
    {occupancy : Text → Option SocketAddr} (h : Iterates entries occupancy)
    (hnames : ∀ busId client, occupancy busId = some client → BusIdName busId) :
    parseRemoteOccupancyStatus (occupancyStatus entries) = ipTexts occupancy := by
  have hentries : ∀ entry ∈ entries, BusIdName entry.1 :=
    fun entry he => hnames entry.1 entry.2 ((h.mem entry.1 entry.2).mp he)
  rw [parseRemoteOccupancyStatus, parse_lines_occupancyStatus hentries]
  exact h.ipTexts.collectMap_eq

/-- A row before and after the occupancy is merged into it. -/
structure Merged (occupancy : Text → Option Text) (before after : RemoteUsbDeviceState) : Prop where
  device : after.device = before.device
  attachedPort : after.attachedPort = before.attachedPort
  occupied : ∀ client, occupancy before.device.busId = some client →
    after.occupiedBy = some client
  other : occupancy before.device.busId = none → after.occupiedBy = before.occupiedBy

theorem merged_applyRemoteOccupancy (states : List RemoteUsbDeviceState)
    (occupancy : Text → Option Text) :
    List.Forall₂ (Merged occupancy) states (applyRemoteOccupancy states occupancy) := by
  rw [applyRemoteOccupancy, List.forall₂_map_right_iff, List.forall₂_same]
  intro state _
  cases h : occupancy state.device.busId with
  | some client =>
    exact ⟨rfl, rfl, fun c hc => hc.symm.trans h ▸ rfl, fun hn => nomatch hn.symm.trans h⟩
  | none => exact ⟨rfl, rfl, fun c hc => (nomatch hc.symm.trans h), fun _ => rfl⟩

/-- **The occupancy status round-trips**: for every order of iteration the client reads the map the
    server has, with the addresses as texts, and the rows it merges this map into show who has
    their devices, and are as before where nobody has. -/
theorem occupancy_roundtrips (occupancy : Text → Option SocketAddr)
    (entries : List (Text × SocketAddr)) (h : Iterates entries occupancy)
    (hnames : ∀ busId client, occupancy busId = some client → BusIdName busId) :
    parseRemoteOccupancyStatus (occupancyStatus entries) = ipTexts occupancy ∧
      ∀ states : List RemoteUsbDeviceState,
        List.Forall₂ (Merged (ipTexts occupancy)) states
          (applyRemoteOccupancy states (parseRemoteOccupancyStatus (occupancyStatus entries))) := by
  have hparse := parse_occupancyStatus h hnames
  rw [hparse]
  exact ⟨rfl, fun states => merged_applyRemoteOccupancy states _⟩

/-- One keyboard, taken by a neighbour. -/
def keyboardTaken : Text → Option SocketAddr :=
  fun busId => if busId = ['1', '-', '2'] then some ⟨.v4 10 0 0 7, 49152⟩ else none

def keyboardEntries : List (Text × SocketAddr) := [(['1', '-', '2'], ⟨.v4 10 0 0 7, 49152⟩)]

theorem keyboardTaken_roundtrips :
    parseRemoteOccupancyStatus (occupancyStatus keyboardEntries) = ipTexts keyboardTaken ∧
      ∀ states : List RemoteUsbDeviceState,
        List.Forall₂ (Merged (ipTexts keyboardTaken)) states
          (applyRemoteOccupancy states
            (parseRemoteOccupancyStatus (occupancyStatus keyboardEntries))) := by
  refine occupancy_roundtrips keyboardTaken keyboardEntries ⟨?_, ?_⟩ ?_
  · exact List.nodup_singleton _
  · intro key value
    unfold keyboardTaken keyboardEntries
    split_ifs with hk <;> simp [hk, eq_comm]
  · intro busId client hc
    unfold keyboardTaken at hc
    split_ifs at hc with hk
    subst hk
    refine ⟨by decide, by decide, by decide, by decide, fun c hc => ?_, fun c hc => ?_⟩
    · cases hc
      rfl
    · cases hc
      rfl

end Client
end Lusbip
