import Lusbip.Client.Agent

/-!
# Where a client keeps its state

The agent of a remote has a directory, and a session of the client has a lock, both below the
temporary directory and named after the remote and its port. Characters that a file name should not
have are replaced, all of them by the same one, and so the names of two remotes can fall together.
-/

namespace Lusbip
namespace Client

open Lib
open Lib.Fields
open Agent (ClientEndpoint)

/-- `PathBuf::join` -/
def joinPath (dir name : Text) : Text :=
  if ['/'] <+: name then name
  else if dir = [] ∨ ['/'] <:+ dir then dir ++ name
  else dir ++ '/' :: name

/-- A character that stays as it is. -/
def isKept (ch : Char) : Bool :=
  ch.isAlphanum || ch = '.' || ch = '-' || ch = '_'

def sanitize (remote : Text) : Text := remote.map fun ch => if isKept ch then ch else '_'

def runtimeDirName (endpoint : ClientEndpoint) : Text :=
  "lusbip-client-agent-".toList ++ sanitize endpoint.remote ++ '-' ::
    decimal endpoint.tcpPort.toNat

def runtimeDir (tempDir : Text) (endpoint : ClientEndpoint) : Text :=
  joinPath tempDir (runtimeDirName endpoint)

def clientSessionLockName (remote : Text) (tcpPort : UInt16) : Text :=
  "lusbip-client-".toList ++ sanitize remote ++ '-' :: decimal tcpPort.toNat ++ ".lock".toList

def clientSessionLockPath (tempDir remote : Text) (tcpPort : UInt16) : Text :=
  joinPath tempDir (clientSessionLockName remote tcpPort)

variable {tempDir remote remote' name name' : Text} {tcpPort tcpPort' : UInt16}
  {endpoint endpoint' : ClientEndpoint}

/-! ## Names -/

/-- The name of an entry of a directory. -/
structure EntryName (name : Text) : Prop where
  noSlash : '/' ∉ name
  ne_nil : name ≠ []
  ne_self : name ≠ ".".toList
  ne_parent : name ≠ "..".toList

theorem EntryName.relative (h : EntryName name) : ¬ ['/'] <+: name := by
  rintro ⟨rest, rfl⟩
  exact h.noSlash List.mem_cons_self

/-- Entries of one directory are told apart by their names. -/
theorem joinPath_inj (h : EntryName name) (h' : EntryName name') :
    joinPath tempDir name = joinPath tempDir name' ↔ name = name' := by
  rw [joinPath, joinPath, if_neg h.relative, if_neg h'.relative]
  split
  · exact List.append_right_inj tempDir
  · rw [List.append_right_inj, List.cons_inj_right]

/-- A character that a file name has in its place. -/
theorem kept_of_mem_sanitize {ch : Char} (h : ch ∈ sanitize remote) : isKept ch = true := by
  obtain ⟨c, -, rfl⟩ := List.mem_map.mp h
  split
  · assumption
  · decide

theorem noSlash_sanitize (remote : Text) : '/' ∉ sanitize remote := by
  intro h
  exact absurd (kept_of_mem_sanitize h) (by decide)

theorem notMem_decimal {ch : Char} (h : ch.isDigit = false) (n : Nat) : ch ∉ decimal n := by
  intro hmem
  rw [isDigit_of_mem_decimal hmem] at h
  cases h

theorem entryName_of_append {front part rest : Text} (hfront : 3 ≤ front.length)
    (hslash : '/' ∉ front) (hpart : '/' ∉ part) (hrest : '/' ∉ rest) :
    EntryName (front ++ part ++ rest) := by
  have hlength : 3 ≤ (front ++ part ++ rest).length := by
    rw [List.length_append, List.length_append]
    omega
  refine ⟨by simp [hslash, hpart, hrest], ?_, ?_, ?_⟩
  · intro heq
    rw [heq] at hlength
    exact absurd hlength (by decide)
  · intro heq
    rw [heq] at hlength
    exact absurd hlength (by decide)
  · intro heq
    rw [heq] at hlength
    exact absurd hlength (by decide)

/-- A name that starts in the same way is told apart by the rest. -/
theorem append_append_inj {front part part' rest rest' : Text} :
    front ++ part ++ rest = front ++ part' ++ rest' ↔ part ++ rest = part' ++ rest' := by
  rw [List.append_assoc, List.append_assoc, List.append_right_inj]

theorem entryName_runtimeDirName (endpoint : ClientEndpoint) :
    EntryName (runtimeDirName endpoint) := by
  have hrest : '/' ∉ '-' :: decimal endpoint.tcpPort.toNat := by
    simp [notMem_decimal]
  exact entryName_of_append (by simp) (by simp) (noSlash_sanitize _) hrest

theorem entryName_clientSessionLockName (remote : Text) (tcpPort : UInt16) :
    EntryName (clientSessionLockName remote tcpPort) := by
  have hrest : '/' ∉ '-' :: decimal tcpPort.toNat := by
    simp [notMem_decimal]
  have hpart : '/' ∉ sanitize remote ++ '-' :: decimal tcpPort.toNat := by
    simp [noSlash_sanitize, notMem_decimal]
  have hname : EntryName ("lusbip-client-".toList ++
      (sanitize remote ++ '-' :: decimal tcpPort.toNat) ++ ".lock".toList) :=
    entryName_of_append (by simp) (by simp) hpart (by simp)
  rwa [← List.append_assoc] at hname

/-! ## Remotes that have one name -/

/-- Characters that a file name does not tell apart. -/
def Alike (ch ch' : Char) : Prop :=
  ch = ch' ∨ (ch = '_' ∨ isKept ch = false) ∧ (ch' = '_' ∨ isKept ch' = false)

/-- Remotes of one length that differ only in characters that are replaced. -/
def Confusable (remote remote' : Text) : Prop := List.Forall₂ Alike remote remote'

instance (ch ch' : Char) : Decidable (Alike ch ch') := inferInstanceAs (Decidable (_ ∨ _))

theorem alike_iff {ch ch' : Char} :
    (if isKept ch then ch else '_') = (if isKept ch' then ch' else '_') ↔ Alike ch ch' := by
  have hkept : isKept '_' = true := by decide
  grind [Alike]

theorem sanitize_eq_iff : sanitize remote = sanitize remote' ↔ Confusable remote remote' := by
  rw [sanitize, sanitize, ← List.forall₂_eq_eq_eq, List.forall₂_map_left_iff,
    List.forall₂_map_right_iff]
  simp only [alike_iff]
  rfl

/-- The port behind the last dash is the port. -/
theorem sanitized_inj :
    sanitize remote ++ '-' :: decimal tcpPort.toNat =
        sanitize remote' ++ '-' :: decimal tcpPort'.toNat ↔
      Confusable remote remote' ∧ tcpPort = tcpPort' := by
  rw [append_cons_inj (notMem_decimal (by decide) _) (notMem_decimal (by decide) _),
    sanitize_eq_iff, decimal_inj, UInt16.toNat_inj]

theorem runtimeDirName_eq_iff :
    runtimeDirName endpoint = runtimeDirName endpoint' ↔
      Confusable endpoint.remote endpoint'.remote ∧ endpoint.tcpPort = endpoint'.tcpPort := by
  unfold runtimeDirName
  exact append_append_inj.trans sanitized_inj

theorem runtimeDir_eq_iff :
    runtimeDir tempDir endpoint = runtimeDir tempDir endpoint' ↔
      Confusable endpoint.remote endpoint'.remote ∧ endpoint.tcpPort = endpoint'.tcpPort :=
  (joinPath_inj (entryName_runtimeDirName endpoint) (entryName_runtimeDirName endpoint')).trans
    runtimeDirName_eq_iff

theorem clientSessionLockName_eq_iff :
    clientSessionLockName remote tcpPort = clientSessionLockName remote' tcpPort' ↔
      Confusable remote remote' ∧ tcpPort = tcpPort' := by
  unfold clientSessionLockName
  exact (List.append_left_inj _).trans (append_append_inj.trans sanitized_inj)

theorem clientSessionLockPath_eq_iff :
    clientSessionLockPath tempDir remote tcpPort = clientSessionLockPath tempDir remote' tcpPort' ↔
      Confusable remote remote' ∧ tcpPort = tcpPort' :=
  (joinPath_inj (entryName_clientSessionLockName remote tcpPort)
    (entryName_clientSessionLockName remote' tcpPort')).trans clientSessionLockName_eq_iff

/-- The directory of an agent is not the lock of a session: its name ends in a digit. -/
theorem runtimeDirName_ne_lockName (endpoint : ClientEndpoint) (remote : Text)
    (tcpPort : UInt16) : runtimeDirName endpoint ≠ clientSessionLockName remote tcpPort := by
  intro heq
  have hne : decimal endpoint.tcpPort.toNat ≠ [] := Nat.toDigits_ne_nil
  have hlast := congrArg List.getLast? heq
  unfold runtimeDirName clientSessionLockName at hlast
  rw [List.getLast?_append_of_ne_nil _ (List.cons_ne_nil _ _),
    List.getLast?_append_of_ne_nil _ (by simp), List.getLast?_cons,
    List.getLast?_eq_some_getLast hne, Option.getD_some] at hlast
  have hk : ".lock".toList.getLast? = some 'k' := by decide
  -- The last character is a digit on one side and the k of `.lock` on the other.
  have hdigit := isDigit_of_mem_decimal (List.getLast_mem hne)
  rw [Option.some.inj (hlast.trans hk)] at hdigit
  exact absurd hdigit (by decide)

theorem runtimeDir_ne_lockPath (tempDir : Text) (endpoint : ClientEndpoint) (remote : Text)
    (tcpPort : UInt16) :
    runtimeDir tempDir endpoint ≠ clientSessionLockPath tempDir remote tcpPort := by
  intro heq
  exact runtimeDirName_ne_lockName endpoint remote tcpPort
    ((joinPath_inj (entryName_runtimeDirName endpoint)
      (entryName_clientSessionLockName remote tcpPort)).mp heq)

/-! ## Collisions -/

/-- The path of an entry of the temporary directory. -/
def InTempDir (tempDir path : Text) : Prop := ∃ name, EntryName name ∧ path = joinPath tempDir name

/-- **State paths are collision free**: two remotes have different directories and locks, and each
    path is an entry of the temporary directory. -/
structure CollisionFree (tempDir : Text) (endpoint endpoint' : ClientEndpoint) : Prop where
  runtimeDir : runtimeDir tempDir endpoint ≠ runtimeDir tempDir endpoint'
  lockPath : clientSessionLockPath tempDir endpoint.remote endpoint.tcpPort ≠
    clientSessionLockPath tempDir endpoint'.remote endpoint'.tcpPort
  apart : ∀ e ∈ [endpoint, endpoint'], ∀ e' ∈ [endpoint, endpoint'],
    Client.runtimeDir tempDir e ≠ clientSessionLockPath tempDir e'.remote e'.tcpPort
  entries : ∀ e ∈ [endpoint, endpoint'], InTempDir tempDir (Client.runtimeDir tempDir e) ∧
    InTempDir tempDir (clientSessionLockPath tempDir e.remote e.tcpPort)

/-- **The exact condition**: the ports differ, or the remotes do where a file name shows it. -/
theorem statePaths_collisionFree_iff (tempDir : Text) (endpoint endpoint' : ClientEndpoint) :
    CollisionFree tempDir endpoint endpoint' ↔
      endpoint.tcpPort ≠ endpoint'.tcpPort ∨ ¬ Confusable endpoint.remote endpoint'.remote := by
  rw [← not_and_or]
  constructor
  · rintro h ⟨hport, hremote⟩
    exact h.runtimeDir (runtimeDir_eq_iff.mpr ⟨hremote, hport⟩)
  · intro h
    refine ⟨fun heq => h (runtimeDir_eq_iff.mp heq).symm,
      fun heq => h (clientSessionLockPath_eq_iff.mp heq).symm,
      fun e _ e' _ => runtimeDir_ne_lockPath tempDir e e'.remote e'.tcpPort, fun e _ => ⟨?_, ?_⟩⟩
    · exact ⟨runtimeDirName e, entryName_runtimeDirName e, rfl⟩
    · exact ⟨_, entryName_clientSessionLockName e.remote e.tcpPort, rfl⟩

/-- A zone and the last group of another address: `fe80::1%2` and `fe80::1:2`. -/
theorem zone_not_collisionFree :
    (ClientEndpoint.mk "fe80::1%2".toList 3240 ≠ ⟨"fe80::1:2".toList, 3240⟩) ∧
      ¬ CollisionFree "/tmp".toList ⟨"fe80::1%2".toList, 3240⟩ ⟨"fe80::1:2".toList, 3240⟩ := by
  refine ⟨by decide, fun h => h.runtimeDir ?_⟩
  decide

end Client
end Lusbip
