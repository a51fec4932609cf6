import Lusbip.Client.Tables

/-!
# The VID:PID of a description

`usbip` writes a device as its names with the VID:PID in parentheses behind them. The client takes
what stands in the first parentheses of the line. A name that has parentheses of its own, and many
do, keeps it from the VID:PID; and as it only looks for a colon at the fifth place, it takes nine
colons for one.
-/

namespace Lusbip
namespace Client

open Lib
open Lib.Fields

variable {t vendor product line value raw : Text}

/-- A vendor or a product id, as it is written. -/
structure HexId (s : Text) : Prop where
  length : s.length = 4
  digits : ∀ ch ∈ s, isAsciiHexdigit ch = true

/-- `vvvv:pppp` -/
def vidPidText (vendor product : Text) : Text := vendor ++ ':' :: product

def inParens (s : Text) : Text := '(' :: s ++ [')']

/-- No VID:PID stands in parentheses in the text. -/
def WithoutVidPid (t : Text) : Prop :=
  ∀ vendor product, HexId vendor → HexId product →
    ¬ inParens (vidPidText vendor product) <:+: t

/-- What was extracted is a VID:PID that stands in parentheses in the line. -/
def StandsIn (value line : Text) : Prop :=
  ∃ vendor product, HexId vendor ∧ HexId product ∧
    value = toAsciiLowercase (vidPidText vendor product) ∧
      inParens (vidPidText vendor product) <:+: line

/-- The text in the first parentheses of a line. -/
def FirstParens (line raw : Text) : Prop :=
  ∃ before after, line = before ++ inParens raw ++ after ∧ '(' ∉ before ∧ ')' ∉ raw

/-- The test of the code: nine hex digits and colons, with a colon in the middle. -/
structure Passes (raw : Text) : Prop where
  length : raw.length = 9
  colon : raw[4]? = some ':'
  all : ∀ ch ∈ raw, ch = ':' ∨ isAsciiHexdigit ch = true

/-! ## What the code extracts -/

theorem firstParens_iff :
    FirstParens line raw ↔ ∃ before rest after,
      splitOnce ['('] line = some (before, rest) ∧ splitOnce [')'] rest = some (raw, after) := by
  simp only [splitOnce_eq_some_iff]
  constructor
  · rintro ⟨before, after, rfl, hbefore, hraw⟩
    refine ⟨before, raw ++ ')' :: after, after, ⟨?_, hbefore⟩, rfl, hraw⟩
    simp [inParens]
  · rintro ⟨before, rest, after, ⟨rfl, hbefore⟩, rfl, hraw⟩
    refine ⟨before, after, ?_, hbefore, hraw⟩
    simp [inParens]

theorem passes_iff :
    Passes raw ↔ (raw.length = 9 && raw[4]? = some ':' &&
      raw.all fun ch => ch = ':' || isAsciiHexdigit ch) = true := by
  simp only [Bool.and_eq_true, decide_eq_true_eq, List.all_eq_true, Bool.or_eq_true]
  exact ⟨fun ⟨hlength, hcolon, hall⟩ => ⟨⟨hlength, hcolon⟩, hall⟩,
    fun ⟨⟨hlength, hcolon⟩, hall⟩ => ⟨hlength, hcolon, hall⟩⟩

theorem extractVidPid_eq_some_iff :
    extractVidPid line = some value ↔
      ∃ raw, FirstParens line raw ∧ Passes raw ∧ value = toAsciiLowercase raw := by
  constructor
  · intro h
    obtain ⟨⟨before, rest⟩, hopen, h⟩ := Option.bind_eq_some_iff.mp h
    obtain ⟨⟨raw, after⟩, hclose, h⟩ := Option.bind_eq_some_iff.mp h
    dsimp only at h
    split_ifs at h with htest
    exact ⟨raw, firstParens_iff.mpr ⟨before, rest, after, hopen, hclose⟩, passes_iff.mpr htest,
      (Option.some.inj h).symm⟩
  · rintro ⟨raw, hfirst, hpasses, rfl⟩
    obtain ⟨before, rest, after, hopen, hclose⟩ := firstParens_iff.mp hfirst
    refine Option.bind_eq_some_iff.mpr ⟨_, hopen, Option.bind_eq_some_iff.mpr ⟨_, hclose, ?_⟩⟩
    exact if_pos (passes_iff.mp hpasses)

/-- There is one text in the first parentheses. -/
theorem FirstParens.unique {raw' : Text} (h : FirstParens line raw) (h' : FirstParens line raw') :
    raw = raw' := by
  obtain ⟨before, rest, after, hopen, hclose⟩ := firstParens_iff.mp h
  obtain ⟨before', rest', after', hopen', hclose'⟩ := firstParens_iff.mp h'
  cases hopen.symm.trans hopen'
  cases hclose.symm.trans hclose'
  rfl

theorem FirstParens.stands (h : FirstParens line raw) : inParens raw <:+: line := by
  obtain ⟨before, after, rfl, -⟩ := h
  exact ⟨before, after, rfl⟩

/-! ## A VID:PID among what passes -/

theorem toLower_eq_colon {ch : Char} : ch.toLower = ':' ↔ ch = ':' := by
  constructor
  · intro h
    rw [Char.toLower.eq_def] at h
    split at h
    · next hupper =>
      have hval : (ch.val + 32).toNat = 58 := congrArg (fun c => c.val.toNat) h
      have hle : ch.val.toNat ≤ 90 := hupper.2
      have hge : 65 ≤ ch.val.toNat := hupper.1
      rw [UInt32.toNat_add] at hval
      have h32 : (32 : UInt32).toNat = 32 := rfl
      omega
    · exact h
  · rintro rfl
    rfl

theorem HexId.not_colon {s : Text} (h : HexId s) : ':' ∉ s := by
  intro hmem
  exact absurd (h.digits ':' hmem) (by decide)

theorem HexId.not_parens {s : Text} (h : HexId s) : '(' ∉ s ∧ ')' ∉ s := by
  constructor
  · intro hmem
    exact absurd (h.digits '(' hmem) (by decide)
  · intro hmem
    exact absurd (h.digits ')' hmem) (by decide)

theorem passes_vidPidText (hv : HexId vendor) (hp : HexId product) :
    Passes (vidPidText vendor product) where
  length := by
    rw [vidPidText, List.length_append, List.length_cons, hv.length, hp.length]
  colon := by
    rw [vidPidText, List.getElem?_append_right (by rw [hv.length]), hv.length]
    rfl
  all ch hch := by
    rcases List.mem_append.mp hch with hch | hch
    · exact Or.inr (hv.digits ch hch)
    · exact (List.mem_cons.mp hch).imp id (hp.digits ch)

/-- Another colon than the one in the middle. -/
def ExtraColon (raw : Text) : Prop := 1 < raw.count ':'

instance (raw : Text) : Decidable (ExtraColon raw) := inferInstanceAs (Decidable (_ < _))

theorem not_extraColon_vidPidText (hv : HexId vendor) (hp : HexId product) :
    ¬ ExtraColon (vidPidText vendor product) := by
  rw [ExtraColon, vidPidText, List.count_append, List.count_cons_self,
    List.count_eq_zero.mpr hv.not_colon, List.count_eq_zero.mpr hp.not_colon]
  decide

/-- What passes is a VID:PID, unless there is another colon in it. -/
theorem Passes.vidPid (h : Passes raw) (hcolon : ¬ ExtraColon raw) :
    ∃ vendor product, HexId vendor ∧ HexId product ∧ raw = vidPidText vendor product := by
  have hlt : 4 < raw.length := by
    rw [h.length]
    decide
  have hmid : raw[4] = ':' := by
    have hget := h.colon
    rw [List.getElem?_eq_getElem hlt] at hget
    exact Option.some.inj hget
  have hraw : raw = vidPidText (raw.take 4) (raw.drop 5) := by
    rw [vidPidText, ← hmid, ← List.drop_eq_getElem_cons hlt, List.take_append_drop]
  have hcount : (raw.take 4).count ':' + (raw.drop 5).count ':' = 0 := by
    rw [ExtraColon, hraw, vidPidText, List.count_append, List.count_cons_self] at hcolon
    omega
  have hdigits : ∀ part : Text, part ⊆ raw → part.count ':' = 0 →
      ∀ ch ∈ part, isAsciiHexdigit ch = true := by
    intro part hsub hnone ch hch
    refine (h.all ch (hsub hch)).resolve_left fun heq => ?_
    exact List.count_eq_zero.mp hnone (heq ▸ hch)
  refine ⟨raw.take 4, raw.drop 5, ⟨?_, ?_⟩, ⟨?_, ?_⟩, hraw⟩
  · rw [List.length_take, h.length]
    rfl
  · exact hdigits _ (List.take_subset 4 raw) (by omega)
  · rw [List.length_drop, h.length]
  · exact hdigits _ (List.drop_subset 5 raw) (by omega)

/-- Letters in upper and lower case have the same colons. -/
theorem count_colon_toAsciiLowercase (s : Text) : (toAsciiLowercase s).count ':' = s.count ':' := by
  rw [toAsciiLowercase, List.count_eq_countP, List.countP_map, List.count_eq_countP]
  refine List.countP_congr fun ch _ => ?_
  simp [toLower_eq_colon]

/-! ## The two halves -/

/-- **The VID:PID behind a description is found exactly if the description opens no parenthesis.** -/
theorem extractVidPid_append_iff (ht : WithoutVidPid t) (hv : HexId vendor) (hp : HexId product) :
    extractVidPid (t ++ ' ' :: inParens (vidPidText vendor product)) =
        some (toAsciiLowercase (vidPidText vendor product)) ↔ '(' ∉ t := by
  constructor
  · intro h hopen
    obtain ⟨raw, hfirst, hpasses, hlower⟩ := extractVidPid_eq_some_iff.mp h
    obtain ⟨before, rest, rfl, hbefore⟩ := List.eq_append_cons_of_mem hopen
    -- The first parenthesis is one of the description.
    by_cases hclose : ')' ∈ rest
    · obtain ⟨inner, after, rfl, hinner⟩ := List.eq_append_cons_of_mem hclose
      obtain rfl : raw = inner := hfirst.unique
        ⟨before, after ++ ' ' :: inParens (vidPidText vendor product), by simp [inParens],
          hbefore, hinner⟩
      have hcolon : ¬ ExtraColon raw := by
        rw [ExtraColon, ← count_colon_toAsciiLowercase, ← hlower, count_colon_toAsciiLowercase]
        exact not_extraColon_vidPidText hv hp
      obtain ⟨v, p, hv', hp', rfl⟩ := hpasses.vidPid hcolon
      exact ht v p hv' hp' ⟨before, after, by simp [inParens]⟩
    · -- The parenthesis stays open up to the one behind the VID:PID, which is too far.
      have hnot : ')' ∉ rest ++ ' ' :: '(' :: vidPidText vendor product := by
        simp [vidPidText, hclose, hv.not_parens.2, hp.not_parens.2]
      obtain rfl : raw = rest ++ ' ' :: '(' :: vidPidText vendor product := hfirst.unique
        ⟨before, [], by simp [inParens], hbefore, hnot⟩
      have hlength := hpasses.length
      rw [List.length_append, List.length_cons, List.length_cons,
        (passes_vidPidText hv hp).length] at hlength
      omega
  · intro hopen
    refine extractVidPid_eq_some_iff.mpr ⟨_, ⟨t ++ [' '], [], by simp, ?_, ?_⟩,
      passes_vidPidText hv hp, rfl⟩
    · simp [hopen]
    · simp [vidPidText, hv.not_parens.2, hp.not_parens.2]

/-- **What is extracted stands in the line exactly if there is no other colon in it.** -/
theorem extractVidPid_standsIn_iff :
    (∀ value, extractVidPid line = some value → StandsIn value line) ↔
      ∀ raw, FirstParens line raw → Passes raw → ¬ ExtraColon raw := by
  constructor
  · intro h raw hfirst hpasses
    obtain ⟨vendor, product, hv, hp, hvalue, -⟩ :=
      h _ (extractVidPid_eq_some_iff.mpr ⟨raw, hfirst, hpasses, rfl⟩)
    rw [ExtraColon, ← count_colon_toAsciiLowercase, hvalue, count_colon_toAsciiLowercase]
    exact not_extraColon_vidPidText hv hp
  · intro h value hextract
    obtain ⟨raw, hfirst, hpasses, rfl⟩ := extractVidPid_eq_some_iff.mp hextract
    obtain ⟨vendor, product, hv, hp, rfl⟩ := hpasses.vidPid (h raw hfirst hpasses)
    exact ⟨vendor, product, hv, hp, rfl, hfirst.stands⟩

/-- **When the VID:PID of a description is found**, and when what is found is one. -/
theorem extractVidPid_finds_iff (ht : WithoutVidPid t) (hv : HexId vendor) (hp : HexId product)
    (line : Text) :
    (extractVidPid (t ++ ' ' :: inParens (vidPidText vendor product)) =
        some (toAsciiLowercase (vidPidText vendor product)) ↔ '(' ∉ t) ∧
      ((∀ value, extractVidPid line = some value → StandsIn value line) ↔
        ∀ raw, FirstParens line raw → Passes raw → ¬ ExtraColon raw) :=
  ⟨extractVidPid_append_iff ht hv hp, extractVidPid_standsIn_iff⟩

theorem withoutVidPid_of_notMem (h : '(' ∉ t) : WithoutVidPid t := by
  rintro vendor product hv hp ⟨before, after, rfl⟩
  exact h (by simp [inParens])

theorem withoutVidPid_of_length (h : t.length < 11) : WithoutVidPid t := by
  intro vendor product hv hp hinfix
  have hle := hinfix.length_le
  rw [inParens, List.length_append, List.length_cons, (passes_vidPidText hv hp).length] at hle
  simp at hle
  omega

theorem extractVidPid_finds_converter :
    (extractVidPid ("USB Serial".toList ++ ' ' :: inParens
          (vidPidText "1A86".toList "7523".toList)) =
        some (toAsciiLowercase (vidPidText "1A86".toList "7523".toList)) ↔
      '(' ∉ "USB Serial".toList) ∧
      ((∀ value, extractVidPid "hub (1a40:0101)".toList = some value →
          StandsIn value "hub (1a40:0101)".toList) ↔
        ∀ raw, FirstParens "hub (1a40:0101)".toList raw → Passes raw → ¬ ExtraColon raw) :=
  extractVidPid_finds_iff (withoutVidPid_of_notMem (by decide))
    ⟨by decide, List.all_eq_true.mp (by decide)⟩ ⟨by decide, List.all_eq_true.mp (by decide)⟩ "hub (1a40:0101)".toList

/-- The VID:PID behind a name with parentheses is not found, and nine colons are taken for one. -/
theorem extractVidPid_misses_hub :
    (WithoutVidPid "Hub (TT)".toList ∧
      extractVidPid ("Hub (TT)".toList ++ ' ' :: inParens
        (vidPidText "1a40".toList "0101".toList)) = none) ∧
      extractVidPid "(:::::::::)".toList = some ":::::::::".toList ∧
      ¬ StandsIn ":::::::::".toList "(:::::::::)".toList := by
  refine ⟨⟨withoutVidPid_of_length (by decide), by decide⟩, by decide, ?_⟩
  rintro ⟨vendor, product, hv, hp, hvalue, -⟩
  have hcount := count_colon_toAsciiLowercase (vidPidText vendor product)
  rw [← hvalue] at hcount
  refine not_extraColon_vidPidText hv hp ?_
  rw [ExtraColon, ← hcount]
  decide

end Client
end Lusbip
