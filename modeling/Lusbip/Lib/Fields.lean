import Mathlib.Data.List.DropRight
import Lusbip.Lib.Text

/-!
# Lines and fields

How a text is taken apart: a prefix stripped, a field split off, blanks trimmed, lines counted.
The functions are those of the standard library of the source, over a list of symbols, and each
has the lemma that says what it gives on a text that was put together with the separator it looks
for.
-/

namespace Lib
namespace Fields

variable {α : Type*}

/-! ## Trimming -/

/-- `str::trim`, where `blank` tells what is trimmed. -/
def trim (blank : α → Bool) (s : List α) : List α := (s.dropWhile blank).rdropWhile blank

/-- What is trimmed stands in the text as it is. -/
theorem trim_within (blank : α → Bool) (s : List α) : trim blank s <:+: s :=
  (List.rdropWhile_prefix blank _).isInfix.trans (List.dropWhile_suffix blank).isInfix

theorem trim_subset (blank : α → Bool) (s : List α) : trim blank s ⊆ s :=
  (trim_within blank s).subset

/-- A text without blanks at its ends. -/
structure Trimmed (blank : α → Bool) (s : List α) : Prop where
  head : ∀ c ∈ s.head?, blank c = false
  last : ∀ c ∈ s.getLast?, blank c = false

theorem rdropWhile_eq_self {blank : α → Bool} {s : List α}
    (h : ∀ c ∈ s.getLast?, blank c = false) : s.rdropWhile blank = s := by
  refine List.rdropWhile_eq_self_iff.mpr fun hs => ?_
  rw [h _ (List.getLast?_eq_some_getLast hs)]
  exact Bool.false_ne_true

theorem Trimmed.trim_eq {blank : α → Bool} {s : List α} (h : Trimmed blank s) :
    trim blank s = s := by
  have hdrop : s.dropWhile blank = s := by
    cases s with
    | nil => rfl
    | cons c s =>
      refine List.dropWhile_cons_of_neg ?_
      rw [h.head c rfl]
      exact Bool.false_ne_true
  rw [trim, hdrop, rdropWhile_eq_self h.last]

/-- A text without any blank has none at its ends. -/
theorem Trimmed.of_forall {blank : α → Bool} {s : List α} (h : ∀ c ∈ s, blank c = false) :
    Trimmed blank s :=
  ⟨fun c hc => h c (List.mem_of_head? hc), fun c hc => h c (List.mem_of_getLast? hc)⟩

section

variable [DecidableEq α]

/-! ## Prefixes -/

/-- `str::strip_prefix` -/
def stripPrefix : List α → List α → Option (List α)
  | [], s => some s
  | _ :: _, [] => none
  | p :: pre, c :: s => if p = c then stripPrefix pre s else none

@[simp] theorem stripPrefix_nil (s : List α) : stripPrefix [] s = some s := rfl

@[simp] theorem stripPrefix_cons_cons (p c : α) (pre s : List α) :
    stripPrefix (p :: pre) (c :: s) = if p = c then stripPrefix pre s else none := rfl

@[simp] theorem stripPrefix_append (pre s : List α) : stripPrefix pre (pre ++ s) = some s := by
  induction pre with
  | nil => rfl
  | cons p pre ih => rw [List.cons_append, stripPrefix_cons_cons, if_pos rfl, ih]

theorem stripPrefix_eq_some_iff {pre s rest : List α} :
    stripPrefix pre s = some rest ↔ s = pre ++ rest := by
  constructor
  · intro h
    induction pre generalizing s with
    | nil => exact Option.some.inj h
    | cons p pre ih =>
      cases s with
      | nil => cases h
      | cons c s =>
        rw [stripPrefix_cons_cons] at h
        split at h
        · next heq =>
          rw [List.cons_append, heq, ih h]
        · cases h
  · rintro rfl
    exact stripPrefix_append pre rest

/-- A prefix without a symbol ends in front of it. -/
theorem stripPrefix_eq_none_of_notMem {a : α} {pre s rest : List α} (ha : a ∉ pre)
    (h : ¬ pre <+: s) : stripPrefix pre (s ++ a :: rest) = none := by
  cases hstrip : stripPrefix pre (s ++ a :: rest) with
  | none => rfl
  | some tail =>
    have heq : s ++ a :: rest = pre ++ tail := stripPrefix_eq_some_iff.mp hstrip
    rcases List.append_eq_append_iff.mp heq with ⟨part, rfl, hpart⟩ | ⟨part, rfl, hpart⟩
    · cases part with
      | nil =>
        rw [List.append_nil] at h
        exact absurd (List.prefix_refl s) h
      | cons c part =>
        cases hpart
        exact absurd (List.mem_append_right s List.mem_cons_self) ha
    · exact absurd (List.prefix_append pre part) h

/-! ## Fields -/

/-- `str::split_once`: what is in front of the first occurrence of the separator, and what is
    behind it. -/
def splitOnce (sep : List α) : List α → Option (List α × List α)
  | [] => (stripPrefix sep []).map fun rest => ([], rest)
  | c :: s =>
      match stripPrefix sep (c :: s) with
      | some rest => some ([], rest)
      | none => (splitOnce sep s).map fun parts => (c :: parts.1, parts.2)

/-- The field in front of a separator that starts with a symbol the field does not have. -/
theorem splitOnce_append {a : α} {sep field : List α} (h : a ∉ field) (rest : List α) :
    splitOnce (a :: sep) (field ++ a :: sep ++ rest) = some (field, rest) := by
  induction field with
  | nil =>
    have hstrip : stripPrefix (a :: sep) (a :: (sep ++ rest)) = some rest :=
      stripPrefix_append (a :: sep) rest
    rw [List.nil_append, List.cons_append, splitOnce, hstrip]
  | cons c field ih =>
    obtain ⟨hac, hfield⟩ := List.ne_and_not_mem_of_not_mem_cons h
    have hstrip : stripPrefix (a :: sep) (c :: (field ++ a :: sep ++ rest)) = none :=
      if_neg hac
    rw [List.cons_append, List.cons_append, splitOnce, hstrip, ih hfield]
    rfl

/-- The field in front of a separator that does not begin any sooner, not even with the end of the
    field. -/
theorem splitOnce_of_not_within {sep field : List α} (hsep : sep ≠ [])
    (h : ¬ sep <:+: field ++ sep.dropLast) (rest : List α) :
    splitOnce sep (field ++ sep ++ rest) = some (field, rest) := by
  induction field with
  | nil =>
    have hstrip : stripPrefix sep (sep ++ rest) = some rest := stripPrefix_append sep rest
    rw [List.nil_append]
    cases sep with
    | nil => exact absurd rfl hsep
    | cons a sep =>
      rw [List.cons_append] at hstrip ⊢
      rw [splitOnce, hstrip]
  | cons c field ih =>
    have hstrip : stripPrefix sep (c :: (field ++ sep ++ rest)) = none := by
      cases hs : stripPrefix sep (c :: (field ++ sep ++ rest)) with
      | none => rfl
      | some tail =>
        -- A separator here would lie within the field and the start of the separator behind it.
        have hpre : sep <+: c :: (field ++ sep ++ rest) :=
          ⟨tail, (stripPrefix_eq_some_iff.mp hs).symm⟩
        have hfield : c :: field ++ sep.dropLast <+: c :: (field ++ sep ++ rest) := by
          rw [List.append_assoc, ← List.cons_append]
          refine (List.prefix_append_right_inj _).mpr ?_
          exact (List.dropLast_prefix sep).trans (List.prefix_append sep rest)
        have hlength : sep.length ≤ (c :: field ++ sep.dropLast).length := by
          rw [List.length_append, List.length_cons, List.length_dropLast]
          omega
        exact absurd (List.prefix_of_prefix_length_le hpre hfield hlength).isInfix h
    have hfield : ¬ sep <:+: field ++ sep.dropLast :=
      fun hs => h (hs.trans (List.suffix_cons c _).isInfix)
    rw [List.cons_append, List.cons_append, splitOnce, hstrip, ih hfield]
    rfl

/-- A separator of one symbol is found where the symbol first is. -/
theorem splitOnce_eq_some_iff {a : α} {s field rest : List α} :
    splitOnce [a] s = some (field, rest) ↔ s = field ++ a :: rest ∧ a ∉ field := by
  constructor
  · intro h
    induction s generalizing field with
    | nil => cases h
    | cons c s ih =>
      rw [splitOnce, stripPrefix_cons_cons] at h
      by_cases hac : a = c
      · rw [if_pos hac] at h
        cases h
        exact ⟨by rw [hac]; rfl, List.not_mem_nil⟩
      · rw [if_neg hac] at h
        obtain ⟨parts, hparts, heq⟩ := Option.map_eq_some_iff.mp h
        cases heq
        obtain ⟨hs, hnot⟩ := ih hparts
        refine ⟨congrArg (List.cons c) hs, fun hmem => ?_⟩
        rcases List.mem_cons.mp hmem with heq | hmem
        · exact hac heq
        · exact hnot hmem
  · rintro ⟨rfl, hnot⟩
    have hsplit : splitOnce [a] (field ++ [a] ++ rest) = some (field, rest) :=
      splitOnce_append hnot rest
    rwa [List.append_assoc] at hsplit

theorem splitOnce_eq_none_iff {a : α} {s : List α} : splitOnce [a] s = none ↔ a ∉ s := by
  constructor
  · intro h hmem
    obtain ⟨field, rest, rfl, hnot⟩ := List.eq_append_cons_of_mem hmem
    rw [splitOnce_eq_some_iff.mpr ⟨rfl, hnot⟩] at h
    cases h
  · intro h
    cases hs : splitOnce [a] s with
    | none => rfl
    | some parts =>
      obtain ⟨rfl, -⟩ := splitOnce_eq_some_iff.mp hs
      exact absurd (List.mem_append_right _ List.mem_cons_self) h

theorem splitOnce_eq_none_of_not_within {sep : List α} (hsep : sep ≠ []) {s : List α}
    (h : ¬ sep <:+: s) : splitOnce sep s = none := by
  induction s with
  | nil =>
    cases sep with
    | nil => exact absurd rfl hsep
    | cons a sep => rfl
  | cons c s ih =>
    have hstrip : stripPrefix sep (c :: s) = none := by
      cases hs : stripPrefix sep (c :: s) with
      | none => rfl
      | some rest =>
        rw [stripPrefix_eq_some_iff.mp hs] at h
        exact absurd (List.prefix_append sep rest).isInfix h
    rw [splitOnce, hstrip, ih fun hs => h (hs.trans (List.suffix_cons c s).isInfix)]
    rfl

/-- A text without the separator is passed over, with the symbol behind it that the separator does
    not have. -/
theorem splitOnce_skip {a : α} {sep field : List α} (ha : a ∉ sep) (h : ¬ sep <:+: field)
    (rest : List α) :
    splitOnce sep (field ++ a :: rest) =
      (splitOnce sep rest).map fun parts => (field ++ a :: parts.1, parts.2) := by
  induction field with
  | nil =>
    have hstrip : stripPrefix sep ([] ++ a :: rest) = none :=
      stripPrefix_eq_none_of_notMem ha fun hs => h hs.isInfix
    rw [List.nil_append] at hstrip ⊢
    rw [splitOnce, hstrip]
    rfl
  | cons c field ih =>
    have hstrip : stripPrefix sep (c :: field ++ a :: rest) = none :=
      stripPrefix_eq_none_of_notMem ha fun hs => h hs.isInfix
    rw [List.cons_append] at hstrip ⊢
    rw [splitOnce, hstrip, ih fun hs => h (hs.trans (List.suffix_cons c field).isInfix),
      Option.map_map]
    rfl

omit [DecidableEq α] in
/-- A text is cut at the last of its separators in one way. -/
theorem append_cons_inj {a : α} {field field' rest rest' : List α} (h : a ∉ rest)
    (h' : a ∉ rest') : field ++ a :: rest = field' ++ a :: rest' ↔ field = field' ∧ rest = rest' := by
  constructor
  · intro heq
    rcases List.append_eq_append_iff.mp heq with ⟨part, rfl, hpart⟩ | ⟨part, rfl, hpart⟩
    · cases part with
      | nil => exact ⟨(List.append_nil field).symm, (List.cons.inj hpart).2⟩
      | cons c part =>
        rw [(List.cons.inj hpart).2] at h
        exact absurd (List.mem_append_right part List.mem_cons_self) h
    · cases part with
      | nil => exact ⟨List.append_nil field', (List.cons.inj hpart).2.symm⟩
      | cons c part =>
        rw [(List.cons.inj hpart).2] at h'
        exact absurd (List.mem_append_right part List.mem_cons_self) h'
  · rintro ⟨rfl, rfl⟩
    rfl

/-- `char::is_whitespace`: the Unicode property `White_Space`. -/
def isWhitespace (c : Char) : Bool :=
  let v := c.toNat
  (9 ≤ v && v ≤ 13) || v = 0x20 || v = 0x85 || v = 0xA0 || v = 0x1680
    || (0x2000 ≤ v && v ≤ 0x200A) || v = 0x2028 || v = 0x2029 || v = 0x202F || v = 0x205F
    || v = 0x3000

/-- `str::split_whitespace`, with what has been read of the first word. -/
def wordsFrom (word : Text) : Text → List Text
  | [] => if word = [] then [] else [word]
  | c :: s =>
      if isWhitespace c then (if word = [] then [] else [word]) ++ wordsFrom [] s
      else wordsFrom (word ++ [c]) s

/-- `str::split_whitespace` -/
def words (s : Text) : List Text := wordsFrom [] s

/-! ## Lines -/

/-- `BufRead::read_line`: the bytes up to the newline, which is read too, and what is left. -/
def takeLine (newline : α) : List α → List α × List α
  | [] => ([], [])
  | b :: bytes =>
      if b = newline then ([b], bytes)
      else (b :: (takeLine newline bytes).1, (takeLine newline bytes).2)

theorem takeLine_append {newline : α} {line : List α} (h : newline ∉ line) (rest : List α) :
    takeLine newline (line ++ newline :: rest) = (line ++ [newline], rest) := by
  induction line with
  | nil => exact if_pos rfl
  | cons c line ih =>
    obtain ⟨hc, hline⟩ := List.ne_and_not_mem_of_not_mem_cons h
    rw [List.cons_append, takeLine, if_neg (Ne.symm hc), ih hline]
    rfl

/-- The last line, when nothing closes it. -/
theorem takeLine_of_notMem {newline : α} {line : List α} (h : newline ∉ line) :
    takeLine newline line = (line, []) := by
  induction line with
  | nil => rfl
  | cons c line ih =>
    obtain ⟨hc, hline⟩ := List.ne_and_not_mem_of_not_mem_cons h
    rw [takeLine, if_neg (Ne.symm hc), ih hline]

theorem takeLine_fst_append_snd (newline : α) (bytes : List α) :
    (takeLine newline bytes).1 ++ (takeLine newline bytes).2 = bytes := by
  induction bytes with
  | nil => rfl
  | cons b bytes ih =>
    rw [takeLine]
    split
    · rfl
    · rw [List.cons_append, ih]

/-- A line that is not empty takes something away. -/
theorem takeLine_length {newline : α} {bytes : List α} (h : (takeLine newline bytes).1 ≠ []) :
    (takeLine newline bytes).2.length < bytes.length := by
  have hlen := congrArg List.length (takeLine_fst_append_snd newline bytes)
  rw [List.length_append] at hlen
  have hpos : 0 < (takeLine newline bytes).1.length := List.length_pos_of_ne_nil h
  omega

end

/-- `str::lines`, with what has been read of the first line. A line ends at a newline, of which a
    carriage return in front of it is part; behind the last newline there is a line only if there
    is something in it. -/
def linesFrom (line : Text) : Text → List Text
  | [] => if line = [] then [] else [line]
  | c :: s =>
      if c = '\n' then
        (if line.getLast? = some '\r' then line.dropLast else line) :: linesFrom [] s
      else linesFrom (line ++ [c]) s

/-- `str::lines` -/
def lines (s : Text) : List Text := linesFrom [] s

theorem linesFrom_append {line part : Text} (h : '\n' ∉ part) (rest : Text) :
    linesFrom line (part ++ '\n' :: rest) = linesFrom (line ++ part) ('\n' :: rest) := by
  induction part generalizing line with
  | nil => rw [List.nil_append, List.append_nil]
  | cons c part ih =>
    obtain ⟨hc, hpart⟩ := List.ne_and_not_mem_of_not_mem_cons h
    rw [List.cons_append, linesFrom, if_neg (Ne.symm hc), ih hpart, List.append_assoc,
      List.singleton_append]

/-- A line that is written with a newline behind it is read back, if it has none of its own and
    no carriage return at its end. -/
theorem lines_append {line : Text} (h : '\n' ∉ line) (hcr : line.getLast? ≠ some '\r')
    (rest : Text) : lines (line ++ '\n' :: rest) = line :: lines rest := by
  rw [lines, linesFrom_append h, List.nil_append, linesFrom, if_pos rfl, if_neg hcr]
  rfl

/-- What is written line by line is read line by line. -/
theorem lines_flatMap {β : Type*} {line : β → Text} :
    ∀ {xs : List β}, (∀ x ∈ xs, '\n' ∉ line x) → (∀ x ∈ xs, (line x).getLast? ≠ some '\r') →
      lines (xs.flatMap fun x => line x ++ ['\n']) = xs.map line := by
  intro xs
  induction xs with
  | nil => exact fun _ _ => rfl
  | cons x xs ih =>
    intro hnl hcr
    have ih := ih (fun y hy => hnl y (List.mem_cons_of_mem x hy))
      (fun y hy => hcr y (List.mem_cons_of_mem x hy))
    rw [List.flatMap_cons, List.append_assoc, List.singleton_append,
      lines_append (hnl x List.mem_cons_self) (hcr x List.mem_cons_self), ih, List.map_cons]

/-- No blank is in a text. -/
def Solid (t : Text) : Prop := ∀ c ∈ t, isWhitespace c = false

theorem solid_of_all {t : Text} (h : t.all (fun c => !isWhitespace c) = true) : Solid t := by
  intro c hc
  have hblank := List.all_eq_true.mp h c hc
  rwa [Bool.not_eq_true'] at hblank

theorem Solid.append {t u : Text} (ht : Solid t) (hu : Solid u) : Solid (t ++ u) :=
  fun c hc => (List.mem_append.mp hc).elim (ht c) (hu c)

theorem isWhitespace_digitChar : ∀ n < 16, isWhitespace (Nat.digitChar n) = false := by decide

/-- A number is written in digits. -/
theorem solid_toDigits {base : Nat} (h1 : 1 < base) (h16 : base ≤ 16) (n : Nat) :
    Solid (Nat.toDigits base n) := by
  induction n using Nat.strong_induction_on with
  | _ n ih =>
    rw [Nat.toDigits_eq_if h1]
    split
    · next hn =>
      intro c hc
      rw [List.mem_singleton.mp hc]
      exact isWhitespace_digitChar n (by omega)
    · next hn =>
      have hlast : Solid [Nat.digitChar (n % base)] := by
        intro c hc
        rw [List.mem_singleton.mp hc]
        exact isWhitespace_digitChar _ (by have := Nat.mod_lt n (show base > 0 by omega); omega)
      exact (ih (n / base) (Nat.div_lt_self (by omega) h1)).append hlast

theorem wordsFrom_of_solid {word t : Text} (h : Solid t) :
    wordsFrom word t = if word ++ t = [] then [] else [word ++ t] := by
  induction t generalizing word with
  | nil => rw [wordsFrom, List.append_nil]
  | cons c t ih =>
    rw [wordsFrom, h c List.mem_cons_self, if_neg Bool.false_ne_true,
      ih fun d hd => h d (List.mem_cons_of_mem c hd), List.append_assoc, List.singleton_append]

/-- A text without blanks is one word. -/
theorem words_of_solid {t : Text} (h : Solid t) (hne : t ≠ []) : words t = [t] := by
  rw [words, wordsFrom_of_solid h, List.nil_append, if_neg hne]

theorem Solid.trim_eq {t : Text} (h : Solid t) : trim isWhitespace t = t :=
  (Trimmed.of_forall h).trim_eq

/-! ## Numbers -/

def decimal (n : Nat) : Text := Nat.toDigits 10 n

/-- The value of decimal digits, if they are. -/
def digitsValue (s : Text) : Option Nat :=
  s.foldl (fun value ch =>
    value.bind fun v => if ch.isDigit then some (v * 10 + (ch.toNat - '0'.toNat)) else none) (some 0)

def dropPlus : Text → Text
  | '+' :: digits => digits
  | digits => digits

/-- `parse` for an unsigned integer below a limit: digits, with an optional plus sign. -/
def parseUnsigned (limit : Nat) (s : Text) : Option Nat :=
  if dropPlus s = [] then none else (digitsValue (dropPlus s)).filter fun v => v < limit

theorem digitsValue_eq {s : Text} (h : ∀ c ∈ s, c.isDigit = true) :
    digitsValue s = some (Nat.ofDigitChars 10 s 0) := by
  suffices ∀ v, s.foldl (fun value ch =>
      value.bind fun v => if ch.isDigit then some (v * 10 + (ch.toNat - '0'.toNat)) else none)
        (some v) = some (Nat.ofDigitChars 10 s v) from this 0
  induction s with
  | nil => exact fun v => rfl
  | cons c s ih =>
    intro v
    rw [List.foldl_cons, Option.bind_some, if_pos (h c List.mem_cons_self),
      ih (fun d hd => h d (List.mem_cons_of_mem c hd)), Nat.ofDigitChars_cons, Nat.mul_comm]

theorem isDigit_of_mem_decimal {n : Nat} {c : Char} (h : c ∈ decimal n) : c.isDigit = true :=
  Nat.isDigit_of_mem_toDigits (by decide) (by decide) h

theorem lt_of_parseUnsigned {limit n : Nat} {s : Text} (h : parseUnsigned limit s = some n) :
    n < limit := by
  unfold parseUnsigned at h
  split at h
  · cases h
  · exact of_decide_eq_true (Option.filter_eq_some_iff.mp h).2

/-- A number is read as it was written. -/
theorem parseUnsigned_decimal {limit n : Nat} (h : n < limit) :
    parseUnsigned limit (decimal n) = some n := by
  have hvalue : digitsValue (decimal n) = some n := by
    rw [digitsValue_eq fun c hc => isDigit_of_mem_decimal hc, decimal, Nat.ofDigitChars_ten_toDigits]
  have hdigits : dropPlus (decimal n) = decimal n := by
    unfold dropPlus
    split
    · next digits heq =>
      have hplus : '+' ∈ decimal n := by
        rw [heq]
        exact List.mem_cons_self
      exact absurd (isDigit_of_mem_decimal hplus) (by decide)
    · rfl
  have hne : decimal n ≠ [] := Nat.toDigits_ne_nil
  rw [parseUnsigned, hdigits, if_neg hne, hvalue]
  exact if_pos (decide_eq_true h)

theorem decimal_inj {m n : Nat} : decimal m = decimal n ↔ m = n := by
  constructor
  · intro h
    rw [← Nat.ofDigitChars_ten_toDigits (n := m), ← Nat.ofDigitChars_ten_toDigits (n := n)]
    exact congrArg (fun digits => Nat.ofDigitChars 10 digits 0) h
  · rintro rfl
    rfl

theorem trim_decimal (n : Nat) : trim isWhitespace (decimal n) = decimal n :=
  (Trimmed.of_forall (solid_toDigits (by decide) (by decide) n)).trim_eq

end Fields
end Lib
