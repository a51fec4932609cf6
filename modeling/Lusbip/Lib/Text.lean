import Mathlib.Tactic.SplitIfs

/-!
# The bytes of a text

A text travels in a field of fixed width: its UTF-8 bytes, and zeros behind them. Whoever takes
the bytes in front of the first zero gets the text back, if it has no NUL of its own.

A text that is taken apart is the list of its characters. Its bytes are read as a text again by
whoever reads them whole, and a newline among them is the byte of a newline character.
-/

namespace Lib

/-- The loop of `ByteArray.toList` appends what is left of the array. -/
theorem toList_loop (bytes : ByteArray) : ∀ (i : Nat) (acc : List UInt8),
    ByteArray.toList.loop bytes i acc = acc.reverse ++ bytes.data.toList.drop i := by
  refine ByteArray.toList.loop.induct bytes
    (fun i acc => ByteArray.toList.loop bytes i acc = acc.reverse ++ bytes.data.toList.drop i)
    ?_ ?_
  · intro i acc hlt ih
    have hi : i < bytes.data.toList.length := by simpa using hlt
    have hget : bytes.get! i = bytes.data.toList[i] :=
      (getElem!_pos bytes.data i (by simpa using hlt)).trans (Array.getElem_toList _).symm
    rw [ByteArray.toList.loop, if_pos hlt, ih, List.drop_eq_getElem_cons hi, hget,
      List.reverse_cons, List.append_assoc, List.singleton_append]
  · intro i acc hge
    have hlen : bytes.data.toList.length ≤ i := by simpa using hge
    rw [ByteArray.toList.loop, if_neg hge, List.drop_eq_nil_of_le hlen, List.append_nil]

theorem toList_eq_data (bytes : ByteArray) : bytes.toList = bytes.data.toList := by
  rw [ByteArray.toList, toList_loop]
  rfl

/-- Decoding the bytes of a text gives the text. -/
theorem fromUTF8?_toList (s : String) :
    String.fromUTF8? ⟨s.toUTF8.toList.toArray⟩ = some s := by
  rw [toList_eq_data]
  exact dif_pos s.isValidUTF8

/-- The bytes in front of the first zero. -/
theorem takeWhile_append_zeros {bytes : List UInt8} (h : 0 ∉ bytes) (n : Nat) :
    (bytes ++ List.replicate n 0).takeWhile (fun b => b ≠ 0) = bytes := by
  have hall : ∀ b ∈ bytes, decide (b ≠ 0) = true := by
    intro b hb
    exact decide_eq_true fun heq => h (heq ▸ hb)
  rw [List.takeWhile_append_of_pos hall]
  cases n with
  | zero => exact List.append_nil bytes
  | succ n =>
    rw [List.replicate_succ, List.takeWhile_cons_of_neg (by decide)]
    exact List.append_nil bytes

/-! ## Texts as lists of characters -/

/-- A text, as the sequence of its characters. -/
abbrev Text := List Char

/-- The UTF-8 bytes of a text. -/
def encode (t : Text) : List UInt8 := t.flatMap String.utf8EncodeChar

/-- The text of these bytes, if they are UTF-8. -/
def decode (bytes : List UInt8) : Option Text :=
  (String.fromUTF8? bytes.toByteArray).map String.toList

@[simp] theorem encode_nil : encode [] = [] := rfl

@[simp] theorem encode_cons (c : Char) (t : Text) :
    encode (c :: t) = String.utf8EncodeChar c ++ encode t := List.flatMap_cons

@[simp] theorem encode_append (t u : Text) : encode (t ++ u) = encode t ++ encode u :=
  List.flatMap_append

theorem toByteArray_ofList_eq (t : Text) : (String.ofList t).toByteArray = (encode t).toByteArray :=
  String.toByteArray_ofList

/-- What is written is read back. -/
@[simp] theorem decode_encode (t : Text) : decode (encode t) = some t := by
  have hs : String.fromUTF8? (encode t).toByteArray = some (String.ofList t) := by
    rw [← toByteArray_ofList_eq]
    exact dif_pos (String.ofList t).isValidUTF8
  rw [decode, hs, Option.map_some, String.toList_ofList]

/-- Only the bytes of a text are read as that text. -/
theorem encode_of_decode {bytes : List UInt8} {t : Text} (h : decode bytes = some t) :
    encode t = bytes := by
  obtain ⟨s, hs, rfl⟩ := Option.map_eq_some_iff.mp h
  rw [String.fromUTF8?] at hs
  split at hs
  · next hvalid =>
    have hbytes : s.toByteArray = bytes.toByteArray := by
      rw [← Option.some.inj hs]
      rfl
    rw [← String.utf8Encode_toList] at hbytes
    exact List.toByteArray_inj.mp hbytes
  · cases hs

/-- An ASCII byte among the bytes of a character is the character itself. -/
theorem eq_of_mem_utf8EncodeChar {a c : Char} (ha : a.toNat < 0x80)
    (h : UInt8.ofNat a.toNat ∈ String.utf8EncodeChar c) : c = a := by
  have hc : c.toNat = a.toNat := by
    unfold String.utf8EncodeChar at h
    simp only [Char.toNat] at h ha ⊢
    split_ifs at h <;> simp only [List.mem_cons, List.not_mem_nil, or_false, ← UInt8.toNat_inj,
      UInt8.toNat_ofNat'] at h <;> omega
  exact Char.toNat_inj.mp hc

theorem utf8EncodeChar_ascii {a : Char} (ha : a.toNat < 0x80) :
    String.utf8EncodeChar a = [UInt8.ofNat a.toNat] := by
  have hle : a.val.toNat ≤ 0x7f := Nat.le_of_lt_succ ha
  unfold String.utf8EncodeChar
  exact if_pos hle

/-- The byte of an ASCII character is among the bytes of a text only where the character is. -/
theorem mem_encode_ascii {a : Char} {t : Text} (ha : a.toNat < 0x80) :
    UInt8.ofNat a.toNat ∈ encode t ↔ a ∈ t := by
  constructor
  · intro h
    obtain ⟨c, hc, hb⟩ := List.mem_flatMap.mp h
    exact eq_of_mem_utf8EncodeChar ha hb ▸ hc
  · intro h
    refine List.mem_flatMap.mpr ⟨a, h, ?_⟩
    rw [utf8EncodeChar_ascii ha]
    exact List.mem_singleton_self _

end Lib
