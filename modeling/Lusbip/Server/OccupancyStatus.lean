import Mathlib.Data.List.OfFn
import Lusbip.Lib.Fields

/-!
# The occupancy status port

Next to its USB/IP port the server has one that tells who has which device. It reads nothing: it
writes the occupancy map as it is at that moment, a line for each device that is taken, and hangs
up. The lines come in the order in which the map happens to be iterated.
-/

namespace Lusbip

open Lib
open Lib.Fields

/-! ## Addresses -/

/-- `std::net::IpAddr` -/
inductive IpAddr where
  | v4 (a b c d : UInt8)
  | v6 (segments : Fin 8 → UInt16)

/-- `std::net::SocketAddr` -/
structure SocketAddr where
  ip : IpAddr
  port : UInt16

namespace IpAddr

def v4Text (a b c d : UInt8) : Text :=
  Nat.toDigits 10 a.toNat ++ ['.'] ++ Nat.toDigits 10 b.toNat ++ ['.'] ++ Nat.toDigits 10 c.toNat
    ++ ['.'] ++ Nat.toDigits 10 d.toNat

/-- A run of zero segments. -/
structure Span where
  start : Nat := 0
  len : Nat := 0

/-- One segment of the search for the longest run of zeros: the longest so far and the one the
    segment may belong to. -/
def findZeros (spans : Span × Span) (segment : UInt16 × Nat) : Span × Span :=
  if segment.1 = 0 then
    let start := if spans.2.len = 0 then segment.2 else spans.2.start
    let current : Span := { start, len := spans.2.len + 1 }
    (if current.len > spans.1.len then current else spans.1, current)
  else (spans.1, {})

/-- The first of the longest runs of zeros. -/
def zeros (segments : List UInt16) : Span := (segments.zipIdx.foldl findZeros ({}, {})).1

/-- Segments in hexadecimal, with colons between them. -/
def sliceText (chunk : List UInt16) : Text :=
  List.intercalate [':'] (chunk.map fun segment => Nat.toDigits 16 segment.toNat)

def v6Text (segments : List UInt16) : Text :=
  match segments with
  | [0, 0, 0, 0, 0, 0xffff, ab, cd] =>
      "::ffff:".toList ++ v4Text (ab >>> 8).toUInt8 ab.toUInt8 (cd >>> 8).toUInt8 cd.toUInt8
  | segments =>
      let zeros := zeros segments
      if zeros.len > 1 then
        sliceText (segments.take zeros.start) ++ "::".toList
          ++ sliceText (segments.drop (zeros.start + zeros.len))
      else sliceText segments

/-- The `Display` of an address. -/
def text : IpAddr → Text
  | .v4 a b c d => v4Text a b c d
  | .v6 segments => v6Text (List.ofFn segments)

theorem solid_v4Text (a b c d : UInt8) : Solid (v4Text a b c d) := by
  have hdot : Solid ['.'] := solid_of_all rfl
  have hnum : ∀ n, Solid (Nat.toDigits 10 n) := solid_toDigits (by decide) (by decide)
  exact ((((((hnum _).append hdot).append (hnum _)).append hdot).append (hnum _)).append
    hdot).append (hnum _)

theorem sliceText_cons_cons (s t : UInt16) (chunk : List UInt16) :
    sliceText (s :: t :: chunk) = Nat.toDigits 16 s.toNat ++ [':'] ++ sliceText (t :: chunk) := by
  simp [sliceText, List.intercalate]

theorem solid_sliceText (chunk : List UInt16) : Solid (sliceText chunk) := by
  have hcolon : Solid [':'] := solid_of_all rfl
  have hnum : ∀ n, Solid (Nat.toDigits 16 n) := solid_toDigits (by decide) (by decide)
  match chunk with
  | [] => exact fun _ h => nomatch h
  | [s] =>
    have hone : sliceText [s] = Nat.toDigits 16 s.toNat := by simp [sliceText, List.intercalate]
    rw [hone]
    exact hnum _
  | s :: t :: chunk =>
    rw [sliceText_cons_cons]
    exact ((hnum _).append hcolon).append (solid_sliceText (t :: chunk))

theorem solid_v6Text (segments : List UInt16) : Solid (v6Text segments) := by
  have hmapped : Solid "::ffff:".toList := solid_of_all rfl
  have hcolons : Solid "::".toList := solid_of_all rfl
  unfold v6Text
  split
  · exact hmapped.append (solid_v4Text _ _ _ _)
  · dsimp only
    split
    · exact ((solid_sliceText _).append hcolons).append (solid_sliceText _)
    · exact solid_sliceText _

theorem sliceText_ne_nil (s : UInt16) (chunk : List UInt16) : sliceText (s :: chunk) ≠ [] := by
  cases chunk with
  | nil =>
    have hone : sliceText [s] = Nat.toDigits 16 s.toNat := by simp [sliceText, List.intercalate]
    rw [hone]
    exact Nat.toDigits_ne_nil
  | cons t chunk =>
    rw [sliceText_cons_cons, List.append_assoc]
    exact List.append_ne_nil_of_left_ne_nil Nat.toDigits_ne_nil _

theorem v6Text_ne_nil (s : UInt16) (segments : List UInt16) : v6Text (s :: segments) ≠ [] := by
  unfold v6Text
  split
  · exact List.cons_ne_nil _ _
  · dsimp only
    split
    · rw [List.append_assoc]
      exact List.append_ne_nil_of_right_ne_nil _ (List.cons_ne_nil _ _)
    · exact sliceText_ne_nil s segments

/-- An address has no blank in it. -/
theorem solid_text (ip : IpAddr) : Solid ip.text := by
  cases ip with
  | v4 a b c d => exact solid_v4Text a b c d
  | v6 segments => exact solid_v6Text _

/-- An address is not written as nothing. -/
theorem text_ne_nil (ip : IpAddr) : ip.text ≠ [] := by
  cases ip with
  | v4 a b c d =>
    rw [text, v4Text]
    simp
  | v6 segments =>
    rw [text, List.ofFn_succ]
    exact v6Text_ne_nil _ _

end IpAddr

/-! ## The status -/

/-- The body `serve_occupancy_status` writes, for the entries of the map in the order they come. -/
def occupancyStatus (occupancySnapshot : List (Text × SocketAddr)) : Text :=
  occupancySnapshot.flatMap fun entry => entry.1 ++ '\t' :: entry.2.ip.text ++ ['\n']

end Lusbip
