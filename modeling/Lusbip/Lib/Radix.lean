import Mathlib.Data.List.Basic
import Lusbip.Lib.Fields

/-!
# Numbers in a base

How a number is read from digits in a base of at most 16, in either case, and that one written in
that base is read back, with any number of zeros in front of it.
-/

namespace Lib
namespace Radix

open Fields

/-- The value of a digit: `char::to_digit`. -/
def toDigit (base : Nat) (c : Char) : Option Nat :=
  let value : Option Nat :=
    if '0' ≤ c ∧ c ≤ '9' then some (c.toNat - '0'.toNat)
    else if 'a' ≤ c ∧ c ≤ 'z' then some (c.toNat - 'a'.toNat + 10)
    else if 'A' ≤ c ∧ c ≤ 'Z' then some (c.toNat - 'A'.toNat + 10)
    else none
  value.filter fun v => v < base

/-- The value of digits that follow what has been read so far. -/
def readDigits (base : Nat) : Nat → Text → Option Nat
  | v, [] => some v
  | v, c :: s => (toDigit base c).bind fun d => readDigits base (v * base + d) s

/-- `from_str_radix` for an unsigned integer below a limit: digits, with an optional plus sign. -/
def parseRadix (base limit : Nat) (s : Text) : Option Nat :=
  if dropPlus s = [] then none else (readDigits base 0 (dropPlus s)).filter fun v => v < limit

/-- A number with at least so many digits. -/
def padded (base width n : Nat) : Text :=
  List.replicate (width - (Nat.toDigits base n).length) '0' ++ Nat.toDigits base n

variable {base limit n v w : Nat} {s t : Text}

theorem readDigits_append :
    readDigits base v (s ++ t) = (readDigits base v s).bind fun w => readDigits base w t := by
  induction s generalizing v with
  | nil => rfl
  | cons c s ih =>
    rw [List.cons_append, readDigits, readDigits, Option.bind_assoc]
    exact congrArg _ (funext fun d => ih)

/-- Every symbol that was read is a digit. -/
theorem isSome_toDigit_of_readDigits (h : readDigits base v s = some w) :
    ∀ c ∈ s, (toDigit base c).isSome := by
  induction s generalizing v with
  | nil => exact fun c hc => absurd hc List.not_mem_nil
  | cons c s ih =>
    obtain ⟨d, hd, hrest⟩ := Option.bind_eq_some_iff.mp h
    intro c' hc'
    rcases List.mem_cons.mp hc' with rfl | hc'
    · exact Option.isSome_iff_exists.mpr ⟨d, hd⟩
    · exact ih hrest c' hc'

theorem toDigit_digitChar_sixteen : ∀ d < 16, toDigit 16 (Nat.digitChar d) = some d := by decide

theorem toDigit_of_lt {c : Char} {d : Nat} (h : toDigit 16 c = some d) (hd : d < base) :
    toDigit base c = some d := by
  unfold toDigit at h ⊢
  obtain ⟨hvalue, -⟩ := Option.filter_eq_some_iff.mp h
  exact Option.filter_eq_some_iff.mpr ⟨hvalue, decide_eq_true hd⟩

theorem toDigit_digitChar (hbase : base ≤ 16) {d : Nat} (hd : d < base) :
    toDigit base (Nat.digitChar d) = some d :=
  toDigit_of_lt (toDigit_digitChar_sixteen d (Nat.lt_of_lt_of_le hd hbase)) hd

/-- A number is read as it was written. -/
theorem readDigits_toDigits (h1 : 1 < base) (h16 : base ≤ 16) (n : Nat) :
    readDigits base 0 (Nat.toDigits base n) = some n := by
  induction n using Nat.strong_induction_on with
  | _ n ih =>
    by_cases hn : n < base
    · rw [Nat.toDigits_of_lt_base hn, readDigits, toDigit_digitChar h16 hn]
      show some (0 * base + n) = some n
      rw [Nat.zero_mul, Nat.zero_add]
    · have hle : base ≤ n := Nat.le_of_not_lt hn
      rw [Nat.toDigits_of_base_le h1 hle, readDigits_append,
        ih (n / base) (Nat.div_lt_self (by omega) h1), Option.bind_some, readDigits,
        toDigit_digitChar h16 (Nat.mod_lt n (by omega))]
      show some (n / base * base + n % base) = some n
      rw [Nat.div_add_mod']

/-- Zeros in front change nothing. -/
theorem readDigits_zeros (h1 : 1 < base) (k : Nat) (s : Text) :
    readDigits base 0 (List.replicate k '0' ++ s) = readDigits base 0 s := by
  have hzero : toDigit base '0' = some 0 := by
    show (some 0).filter (fun v => decide (v < base)) = some 0
    exact if_pos (decide_eq_true (by omega))
  induction k with
  | zero => rfl
  | succ k ih =>
    rw [List.replicate_succ, List.cons_append, readDigits, hzero, Option.bind_some, Nat.zero_mul]
    exact ih

theorem readDigits_padded (h1 : 1 < base) (h16 : base ≤ 16) (width n : Nat) :
    readDigits base 0 (padded base width n) = some n := by
  rw [padded, readDigits_zeros h1, readDigits_toDigits h1 h16]

theorem padded_ne_nil (base width n : Nat) : padded base width n ≠ [] := fun h =>
  Nat.toDigits_ne_nil (List.append_eq_nil_iff.mp h).2

theorem toDigit_plus : toDigit base '+' = none := rfl

/-- What is a number without a sign has none to drop. -/
theorem dropPlus_of_readDigits (h : readDigits base v s = some w) : dropPlus s = s := by
  unfold dropPlus
  split
  · have hplus := isSome_toDigit_of_readDigits h '+' List.mem_cons_self
    rw [toDigit_plus] at hplus
    cases hplus
  · rfl

theorem dropPlus_cases (s : Text) : s = '+' :: dropPlus s ∨ dropPlus s = s := by
  unfold dropPlus
  split
  · exact Or.inl rfl
  · exact Or.inr rfl

/-- **What is read as a number**: an optional plus sign, and at least one digit. -/
theorem parseRadix_eq_some_iff :
    parseRadix base limit s = some n ↔
      ∃ sign digits, s = sign ++ digits ∧ (sign = [] ∨ sign = ['+']) ∧ digits ≠ [] ∧
        readDigits base 0 digits = some n ∧ n < limit := by
  unfold parseRadix
  constructor
  · intro h
    split at h
    · cases h
    · rename_i hne
      obtain ⟨hread, hlimit⟩ := Option.filter_eq_some_iff.mp h
      rcases dropPlus_cases s with heq | heq
      · exact ⟨['+'], _, heq, Or.inr rfl, hne, hread, of_decide_eq_true hlimit⟩
      · exact ⟨[], _, heq.symm, Or.inl rfl, hne, hread, of_decide_eq_true hlimit⟩
  · rintro ⟨sign, digits, rfl, rfl | rfl, hne, hread, hlimit⟩
    · rw [List.nil_append, dropPlus_of_readDigits hread, if_neg hne, hread]
      exact if_pos (decide_eq_true hlimit)
    · rw [List.singleton_append, dropPlus, if_neg hne, hread]
      exact if_pos (decide_eq_true hlimit)

end Radix
end Lib
