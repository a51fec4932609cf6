import Lusbip.Usb.DeviceRecord
import Lusbip.Usb.ReplyLength
import Lusbip.Usb.Strings

/-!
# String descriptors

`bLength` is computed on `u8` from the number of UTF-16 units of a string, and nothing cuts the
string so that it fits. From 127 units on the descriptor is wrong: the checked build panics where
the product or the sum overflows, and where the number of units has gone round to a small one, the
length that the descriptor gives is not the one it has.
-/

namespace Lusbip

/-! ## UTF-16 -/

theorem toNat_ofNat16 {n : Nat} (h : n < 2 ^ 16) : (UInt16.ofNat n).toNat = n := by
  rw [UInt16.toNat_ofNat']
  exact Nat.mod_eq_of_lt h

/-- A unit that stands alone is not the first one of two. -/
theorem single_ne_high {c c' : Char} (hc : c.toNat < 0x10000) :
    UInt16.ofNat c.toNat ≠ UInt16.ofNat (0xD800 + (c'.toNat - 0x10000) / 0x400) := by
  intro h
  have hscalar : c.toNat < 0xd800 ∨ 0xdfff < c.toNat ∧ c.toNat < 0x110000 := c.valid
  have hlimit : c'.toNat < 0xd800 ∨ 0xdfff < c'.toNat ∧ c'.toNat < 0x110000 := c'.valid
  have hnat := congrArg UInt16.toNat h
  rw [toNat_ofNat16 (by omega), toNat_ofNat16 (by omega)] at hnat
  omega

/-- The units of a character tell where they end. -/
theorem encodeUtf16Char_append_inj {c c' : Char} {rest rest' : List UInt16}
    (h : encodeUtf16Char c ++ rest = encodeUtf16Char c' ++ rest') : c = c' ∧ rest = rest' := by
  have hc : c.toNat < 0xd800 ∨ 0xdfff < c.toNat ∧ c.toNat < 0x110000 := c.valid
  have hc' : c'.toNat < 0xd800 ∨ 0xdfff < c'.toNat ∧ c'.toNat < 0x110000 := c'.valid
  unfold encodeUtf16Char at h
  split at h <;> split at h
  · obtain ⟨hunit, hrest⟩ := List.cons.inj h
    have hnat := congrArg UInt16.toNat hunit
    rw [toNat_ofNat16 (by omega), toNat_ofNat16 (by omega)] at hnat
    exact ⟨Char.toNat_inj.mp hnat, hrest⟩
  · rename_i hsingle _
    exact absurd (List.cons.inj h).1 (single_ne_high hsingle)
  · rename_i hsingle
    exact absurd (List.cons.inj h).1.symm (single_ne_high hsingle)
  · obtain ⟨hhigh, h⟩ := List.cons.inj h
    obtain ⟨hlow, hrest⟩ := List.cons.inj h
    have hnat := congrArg UInt16.toNat hhigh
    have hnat' := congrArg UInt16.toNat hlow
    rw [toNat_ofNat16 (by omega), toNat_ofNat16 (by omega)] at hnat hnat'
    exact ⟨Char.toNat_inj.mp (by omega), hrest⟩

theorem encodeUtf16Char_ne_nil (c : Char) : encodeUtf16Char c ≠ [] := by
  unfold encodeUtf16Char
  split <;> exact List.cons_ne_nil _ _

/-- **No two strings have the same units.** -/
theorem encodeUtf16_inj {s t : String} : encodeUtf16 s = encodeUtf16 t ↔ s = t := by
  refine ⟨fun h => String.toList_inj.mp ?_, congrArg _⟩
  unfold encodeUtf16 at h
  generalize s.toList = cs at h ⊢
  generalize t.toList = ds at h ⊢
  induction cs generalizing ds with
  | nil =>
    cases ds with
    | nil => rfl
    | cons d ds =>
      exact absurd (List.append_eq_nil_iff.mp h.symm).1 (encodeUtf16Char_ne_nil d)
  | cons c cs ih =>
    cases ds with
    | nil => exact absurd (List.append_eq_nil_iff.mp h).1 (encodeUtf16Char_ne_nil c)
    | cons d ds =>
      obtain ⟨rfl, hrest⟩ := encodeUtf16Char_append_inj h
      rw [ih ds hrest]

theorem flatMap_leBytes_inj {units units' : List UInt16}
    (h : units.flatMap leBytes = units'.flatMap leBytes) : units = units' := by
  induction units generalizing units' with
  | nil =>
    cases units' with
    | nil => rfl
    | cons unit units' => cases h
  | cons unit units ih =>
    cases units' with
    | nil => cases h
    | cons unit' units' =>
      injection h with hlow h
      injection h with hhigh h
      rw [← u16OfLe_bytes unit, hlow, hhigh, u16OfLe_bytes, ih h]

/-! ## Descriptors -/

/-- A descriptor that gives its own length, and a text behind its header. -/
def IsStringDescriptor (desc : List UInt8) (text : String) : Prop :=
  ∃ bLength : UInt8,
    desc = [bLength, DescriptorType.string.toU8] ++ (encodeUtf16 text).flatMap leBytes ∧
      bLength.toNat = desc.length

/-- The string and the header fit into 255 bytes. -/
def FitsDescriptor (s : String) : Prop := 2 + 2 * (encodeUtf16 s).length ≤ 255

/-- A string is told as it is if it fits, and else by its beginning. -/
structure StandsFor (part s : String) : Prop where
  isPrefix : part.toList <+: s.toList
  whole : FitsDescriptor s → part = s

/-- The request gets this answer, whatever the build and the host. -/
def UsbDevice.Answered (d : UsbDevice) (setup : SetupPacket) (reply : List UInt8) : Prop :=
  ∀ (prof : Profile) (ep : UsbEndpoint) (intf : Option UsbInterface) (len : UInt32)
    (outData : List UInt8) (host : Host), EndpointAttributes.fromU8 ep.attributes = some .control →
      ep.direction = .in →
      (d.handleUrb prof ep intf len setup outData).outcome host = .ok reply

/-- The request gets as much as it asks for of a descriptor that is right. -/
def UsbDevice.SelfConsistent (d : UsbDevice) (setup : SetupPacket) (s : String) : Prop :=
  ∃ desc part, IsStringDescriptor desc part ∧ StandsFor part s ∧
    d.Answered setup (desc.take setup.length.toNat)

/-! ## When a descriptor looks right -/

/-- The number of units has gone round, and the request does not come to where the length is wrong:
    the string has a beginning of as many units as `bLength` says. -/
def CutShort (s : String) (length : UInt16) : Prop :=
  256 ≤ (encodeUtf16 s).length ∧ (encodeUtf16 s).length % 256 ≤ 126 ∧
    length.toNat < (2 + 2 * (encodeUtf16 s).length) % 2 ^ 16 ∧
    (length = 0 ∨ length.toNat ≤ 2 + 2 * ((encodeUtf16 s).length % 256) ∧
      ∃ part : String, part.toList <+: s.toList ∧
        (encodeUtf16 part).length = (encodeUtf16 s).length % 256)

/-- The string under the index `0` is not served. It may be the one that the language id spells. -/
def ReadsAsLanguage (s : String) (length : UInt16) : Prop :=
  length = 0 ∨ ∃ part unit, StandsFor part s ∧ encodeUtf16 part = [unit] ∧
    (3 ≤ length.toNat → unit.toUInt8 = 0x09) ∧ (4 ≤ length.toNat → unit = 0x0409)

/-! ## What is sent -/

theorem isStringDescriptor_spelled {text : String} (h : FitsDescriptor text) :
    IsStringDescriptor (spelled (encodeUtf16 text).length text) text := by
  refine ⟨_, rfl, ?_⟩
  have hfits : 2 + 2 * (encodeUtf16 text).length ≤ 255 := h
  show (UInt8.ofNat _).toNat = (spelled _ text).length
  rw [length_spelled, UInt8.toNat_ofNat']
  omega

/-- A right descriptor is the one that is computed for the units it has. -/
theorem IsStringDescriptor.eq_spelled {desc : List UInt8} {text : String}
    (h : IsStringDescriptor desc text) :
    FitsDescriptor text ∧ desc = spelled (encodeUtf16 text).length text := by
  obtain ⟨bLength, rfl, hlength⟩ := h
  have hlen : bLength.toNat = 2 + 2 * (encodeUtf16 text).length :=
    hlength.trans (length_spelled 0 text)
  have hlt := bLength.toNat_lt
  have hfits : FitsDescriptor text := by
    unfold FitsDescriptor
    omega
  refine ⟨hfits, ?_⟩
  have hbyte : bLength = UInt8.ofNat (2 + 2 * ((encodeUtf16 text).length % 256)) := by
    refine UInt8.toNat_inj.mp ?_
    rw [UInt8.toNat_ofNat']
    omega
  rw [spelled, ← hbyte]

theorem spelled_one {text : String} {unit : UInt16} (h : encodeUtf16 text = [unit]) :
    spelled (encodeUtf16 text).length text =
      [4, DescriptorType.string.toU8, unit.toUInt8, (unit >>> 8).toUInt8] := by
  rw [spelled, h]
  rfl

/-- A beginning of the string spells a beginning of what the string spells. -/
theorem spelled_take {part s : String} (h : part.toList <+: s.toList) (units : Nat) {length : Nat}
    (hle : length ≤ 2 + 2 * (encodeUtf16 part).length) :
    (spelled units s).take length = (spelled units part).take length := by
  obtain ⟨rest, hrest⟩ := h
  have hs : spelled units s = spelled units part ++ (rest.flatMap encodeUtf16Char).flatMap leBytes := by
    rw [spelled, spelled, List.append_assoc, ← List.flatMap_append, encodeUtf16, encodeUtf16,
      ← hrest, List.flatMap_append]
  rw [hs, List.take_append_of_le_length (length_spelled units part ▸ hle)]

/-- Only the units modulo `256` matter to the header. -/
theorem spelled_mod (units : Nat) (text : String) :
    spelled (units % 256) text = spelled units text := by
  rw [spelled, Nat.mod_mod, spelled]

/-- The first byte tells how many units there are. -/
theorem units_of_bLength {units units' : Nat} (hunits : units % 256 ≤ 126) (hunits' : units' ≤ 126)
    (h : UInt8.ofNat (2 + 2 * (units % 256)) = UInt8.ofNat (2 + 2 * (units' % 256))) :
    units' = units % 256 := by
  have hnat := congrArg UInt8.toNat h
  rw [UInt8.toNat_ofNat', UInt8.toNat_ofNat'] at hnat
  omega

/-- There is always something to tell of a string. -/
theorem exists_standsFor (s : String) : ∃ part, StandsFor part s ∧ FitsDescriptor part := by
  by_cases h : FitsDescriptor s
  · exact ⟨s, ⟨List.prefix_refl _, fun _ => rfl⟩, h⟩
  · refine ⟨"", ⟨?_, fun hs => absurd hs h⟩, ?_⟩
    · rw [String.toList_empty]
      exact List.nil_prefix
    · unfold FitsDescriptor
      rw [encodeUtf16, String.toList_empty]
      decide

/-- Of which the shortest request gets nothing. -/
theorem exists_descriptor (s : String) :
    ∃ desc part, IsStringDescriptor desc part ∧ StandsFor part s := by
  obtain ⟨part, hpart, hfits⟩ := exists_standsFor s
  exact ⟨_, part, isStringDescriptor_spelled hfits, hpart⟩

theorem spelled_inj {s t : String}
    (h : spelled (encodeUtf16 s).length s = spelled (encodeUtf16 t).length t) : s = t := by
  have hbytes := (List.append_inj h rfl).2
  exact encodeUtf16_inj.mp (flatMap_leBytes_inj hbytes)

theorem mod_of_stringFits {s : String} (h : StringFits .dev s) :
    (encodeUtf16 s).length % 256 ≤ 126 := by
  have hlt := h rfl
  omega

theorem stringFits_of_mod {s : String} (h : (encodeUtf16 s).length % 256 ≤ 126) (prof : Profile) :
    StringFits prof s := by
  intro _
  omega

/-! ## What the request gets -/

namespace UsbDevice

variable {d : UsbDevice} {setup : SetupPacket} {s : String}

/-- Only what `get_descriptor` computes matters. -/
theorem answered_iff {type : DescriptorType} (hgets : setup.Gets type) {reply : List UInt8} :
    d.Answered setup reply ↔ ∀ prof, d.getDescriptor prof setup = .ok reply := by
  refine ⟨fun h prof => ?_, fun h prof ep intf len outData host hep hdir => ?_⟩
  · have hreply := h prof ep0InEndpoint none 0 [] Host.disconnected rfl rfl
    rwa [handleUrb_gets hgets rfl rfl] at hreply
  · rw [handleUrb_gets hgets hep hdir]
    exact h prof

theorem selfConsistent_iff_getDescriptor (hgets : setup.Gets .string) :
    d.SelfConsistent setup s ↔ ∃ desc part, IsStringDescriptor desc part ∧ StandsFor part s ∧
      ∀ prof, d.getDescriptor prof setup = .ok (desc.take setup.length.toNat) := by
  refine exists₂_congr fun desc part => and_congr_right fun _ => and_congr_right fun _ => ?_
  exact answered_iff hgets

/-- **Index `0`**: the request is answered with the language id. -/
theorem selfConsistent_zero_iff (hgets : setup.Gets .string) (hindex : setup.value.toUInt8 = 0) :
    d.SelfConsistent setup s ↔ ReadsAsLanguage s setup.length := by
  have hget : ∀ prof, d.getDescriptor prof setup =
      .ok ([4, DescriptorType.string.toU8, 0x09, 0x04].take setup.length.toNat) := by
    intro prof
    rw [getDescriptor, hgets.type]
    dsimp only
    rw [if_pos hindex, truncateTo_eq_take (by decide)]
  rw [selfConsistent_iff_getDescriptor hgets]
  constructor
  · rintro ⟨desc, part, hdesc, hpart, hreply⟩
    obtain ⟨hfits, rfl⟩ := hdesc.eq_spelled
    have heq := Except.ok.inj ((hget .dev).symm.trans (hreply .dev))
    rcases Nat.eq_zero_or_pos setup.length.toNat with hz | hpos
    · exact Or.inl (UInt16.toNat_inj.mp hz)
    · obtain ⟨n, hn⟩ := Nat.exists_eq_add_one.mpr hpos
      have hbyte : (4 : UInt8) = UInt8.ofNat (2 + 2 * ((encodeUtf16 part).length % 256)) := by
        rw [hn] at heq
        exact (List.cons.inj heq).1
      have hone : (encodeUtf16 part).length = 1 := by
        have hunits : 2 + 2 * (encodeUtf16 part).length ≤ 255 := hfits
        exact @units_of_bLength 1 _ (by decide) (by omega) hbyte
      obtain ⟨unit, hunit⟩ := List.length_eq_one_iff.mp hone
      rw [spelled_one hunit] at heq
      refine Or.inr ⟨part, unit, hpart, hunit, fun h => ?_, fun h => ?_⟩
      · have hthree := congrArg (List.take 3) heq
        rw [List.take_take, List.take_take, Nat.min_eq_left h] at hthree
        injection hthree with _ hthree
        injection hthree with _ hthree
        injection hthree with hlow _
        exact hlow.symm
      · rw [List.take_of_length_le h, List.take_of_length_le h] at heq
        injection heq with _ heq
        injection heq with _ heq
        injection heq with hlow heq
        injection heq with hhigh _
        rw [← u16OfLe_bytes unit, ← hlow, ← hhigh]
        rfl
  · rintro (hz | ⟨part, unit, hpart, hunit, hlow, hunit'⟩)
    · obtain ⟨desc, part, hdesc, hpart⟩ := exists_descriptor s
      refine ⟨desc, part, hdesc, hpart, fun prof => ?_⟩
      rw [hget, hz]
      rfl
    · have hfits : FitsDescriptor part := by
        rw [FitsDescriptor, hunit, List.length_singleton]
        decide
      refine ⟨_, part, isStringDescriptor_spelled hfits, hpart, fun prof => ?_⟩
      rw [hget, spelled_one hunit]
      refine congrArg Except.ok ?_
      -- The two bytes of the header are there in any case, the other two as far as they are read.
      rcases Nat.lt_or_ge setup.length.toNat 3 with hlt | hge
      · obtain h | h | h : setup.length.toNat = 0 ∨ setup.length.toNat = 1 ∨
            setup.length.toNat = 2 := by omega
        all_goals
          rw [h]
          rfl
      · rcases Nat.eq_or_lt_of_le hge with h | hlt
        · rw [← h, hlow hge]
          rfl
        · rw [hunit' hlt]
          rfl

theorem getDescriptor_string (hgets : setup.Gets .string) (hindex : setup.value.toUInt8 ≠ 0)
    (hs : d.stringAt setup.value.toUInt8 = some s) (prof : Profile) :
    d.getDescriptor prof setup = (stringDescriptor prof s).map (truncateTo setup.length) := by
  rw [getDescriptor, hgets.type]
  dsimp only
  rw [if_neg hindex, hs]

/-- The checked build answers if its arithmetic does not overflow. -/
theorem spelled_of_getDescriptor (hgets : setup.Gets .string) (hindex : setup.value.toUInt8 ≠ 0)
    (hs : d.stringAt setup.value.toUInt8 = some s) {reply : List UInt8}
    (h : d.getDescriptor .dev setup = .ok reply) :
    (encodeUtf16 s).length % 256 ≤ 126 ∧
      truncateTo setup.length (spelled (encodeUtf16 s).length s) = reply := by
  have hok := (getDescriptor_string hgets hindex hs .dev).symm.trans h
  have hreturns : (stringDescriptor .dev s).Returns := by
    rw [← returns_map_iff (f := truncateTo setup.length), hok]
    exact Outcome.returns_ok _
  have hfits := stringDescriptor_returns_iff.mp hreturns
  rw [stringDescriptor_eq_spelled hfits] at hok
  exact ⟨mod_of_stringFits hfits, Except.ok.inj hok⟩

/-- A reply that is right although the string does not fit comes from a number of units that has gone
    round. -/
theorem cutShort_of_reply {part : String} {length : UInt16} (hs : ¬ FitsDescriptor s)
    (hmod : (encodeUtf16 s).length % 256 ≤ 126) (hfits : FitsDescriptor part)
    (hpart : StandsFor part s)
    (h : truncateTo length (spelled (encodeUtf16 s).length s) =
      (spelled (encodeUtf16 part).length part).take length.toNat) : CutShort s length := by
  have hunits : 2 + 2 * (encodeUtf16 part).length ≤ 255 := hfits
  have hlong : 256 ≤ (encodeUtf16 s).length := by
    unfold FitsDescriptor at hs
    omega
  have hlength := congrArg List.length h
  rw [length_truncateTo, length_spelled, List.length_take, length_spelled, truncatedLength] at hlength
  split at hlength
  · rename_i hlt
    refine ⟨hlong, hmod, hlt, ?_⟩
    rcases Nat.eq_zero_or_pos length.toNat with hz | hpos
    · exact Or.inl (UInt16.toNat_inj.mp hz)
    · obtain ⟨n, hn⟩ := Nat.exists_eq_add_one.mpr hpos
      have htake : truncateTo length (spelled (encodeUtf16 s).length s) =
          (spelled (encodeUtf16 s).length s).take length.toNat :=
        if_pos (by rwa [UInt16.lt_iff_toNat_lt, UInt16.toNat_ofNat', length_spelled])
      rw [htake, hn] at h
      have hbyte := units_of_bLength hmod (by omega) (List.cons.inj h).1
      exact Or.inr ⟨by omega, part, hpart.isPrefix, hbyte⟩
  · omega

/-- **Another index**: the request is answered with the string under it. -/
theorem selfConsistent_pos_iff (hgets : setup.Gets .string) (hindex : setup.value.toUInt8 ≠ 0)
    (hs : d.stringAt setup.value.toUInt8 = some s) :
    d.SelfConsistent setup s ↔ FitsDescriptor s ∨ CutShort s setup.length := by
  have hget := getDescriptor_string hgets hindex hs
  rw [selfConsistent_iff_getDescriptor hgets]
  constructor
  · rintro ⟨desc, part, hdesc, hpart, hreply⟩
    obtain ⟨hfits, rfl⟩ := hdesc.eq_spelled
    obtain ⟨hmod, heq⟩ := spelled_of_getDescriptor hgets hindex hs (hreply .dev)
    by_cases hs' : FitsDescriptor s
    · exact Or.inl hs'
    · exact Or.inr (cutShort_of_reply hs' hmod hfits hpart heq)
  -- A string that fits is its own descriptor, whatever the profile.
  · rintro (hfits | hshort)
    · have hunits : 2 + 2 * (encodeUtf16 s).length ≤ 255 := hfits
      refine ⟨_, s, isStringDescriptor_spelled hfits, ⟨List.prefix_refl _, fun _ => rfl⟩,
        fun prof => ?_⟩
      rw [hget, stringDescriptor_eq_spelled (stringFits_of_mod (by omega) prof)]
      refine congrArg Except.ok (truncateTo_eq_take ?_)
      rw [length_spelled]
      omega
    · obtain ⟨hlong, hmod, hlt, hpart⟩ := hshort
      have hreply : ∀ prof, d.getDescriptor prof setup =
          .ok ((spelled (encodeUtf16 s).length s).take setup.length.toNat) := by
        intro prof
        rw [hget, stringDescriptor_eq_spelled (stringFits_of_mod hmod prof)]
        refine congrArg Except.ok (if_pos ?_)
        rwa [UInt16.lt_iff_toNat_lt, UInt16.toNat_ofNat', length_spelled]
      -- A reply of no bytes begins any descriptor, a longer one that of the part it holds.
      rcases hpart with hz | ⟨hle, part, hbegins, hunits⟩
      · obtain ⟨desc, part, hdesc, hpart⟩ := exists_descriptor s
        refine ⟨desc, part, hdesc, hpart, fun prof => ?_⟩
        rw [hreply, hz]
        rfl
      · have hfits : FitsDescriptor part := by
          unfold FitsDescriptor
          omega
        have hnot : ¬ FitsDescriptor s := by
          unfold FitsDescriptor
          omega
        refine ⟨_, part, isStringDescriptor_spelled hfits, ⟨hbegins, fun h => absurd h hnot⟩,
          fun prof => ?_⟩
        rw [hreply, spelled_take hbegins _ (hunits ▸ hle), hunits, spelled_mod]

end UsbDevice

/-! ## Every request -/

/-- **A string descriptor is right exactly if the string fits**, that is, has no more than 126 units.
    Else a request gets a right answer only if it is too short to see that the number of units has
    gone round; and if the string has the index `0`, if the language id happens to spell it. -/
theorem stringDescriptor_selfConsistent_iff (d : UsbDevice) (setup : SetupPacket) (s : String)
    (hgets : setup.Gets .string) (hs : d.stringAt setup.value.toUInt8 = some s) :
    (d.SelfConsistent setup s ↔
      if setup.value.toUInt8 = 0 then ReadsAsLanguage s setup.length
      else FitsDescriptor s ∨ CutShort s setup.length) ∧
    ((∀ length, d.SelfConsistent { setup with length } s) ↔
      if setup.value.toUInt8 = 0 then ∃ part, StandsFor part s ∧ encodeUtf16 part = [0x0409]
      else FitsDescriptor s) := by
  have hgets' : ∀ length, SetupPacket.Gets { setup with length } .string :=
    fun _ => ⟨hgets.requestType, hgets.request, hgets.type⟩
  by_cases hindex : setup.value.toUInt8 = 0
  · rw [if_pos hindex, if_pos hindex]
    refine ⟨UsbDevice.selfConsistent_zero_iff hgets hindex, fun h => ?_, fun h length => ?_⟩
    · rcases (UsbDevice.selfConsistent_zero_iff (hgets' 4) hindex).mp (h 4) with hz | h
      · exact absurd hz (show (4 : UInt16) ≠ 0 by decide)
      · obtain ⟨part, unit, hpart, hunit, -, hid⟩ := h
        exact ⟨part, hpart, hid (le_refl 4) ▸ hunit⟩
    · obtain ⟨part, hpart, hunit⟩ := h
      refine (UsbDevice.selfConsistent_zero_iff (hgets' length) hindex).mpr (Or.inr ?_)
      exact ⟨part, 0x0409, hpart, hunit, fun _ => rfl, fun _ => rfl⟩
  · rw [if_neg hindex, if_neg hindex]
    refine ⟨UsbDevice.selfConsistent_pos_iff hgets hindex hs, fun h => ?_, fun h length => ?_⟩
    · rcases (UsbDevice.selfConsistent_pos_iff (hgets' 0xFFFF) hindex hs).mp (h 0xFFFF) with h | h
      · exact h
      · -- No length is beyond the longest request.
        have hlt : 65535 < (2 + 2 * (encodeUtf16 s).length) % 2 ^ 16 := h.2.2.1
        omega
    · exact (UsbDevice.selfConsistent_pos_iff (hgets' length) hindex hs).mpr (Or.inl h)

/-- `GET_DESCRIPTOR(String, 1)` -/
def getFirstString : SetupPacket where
  requestType := 0x80
  request := 6
  value := 0x0301
  index := 0x0409
  length := 255

theorem getFirstString_gets : getFirstString.Gets .string := ⟨rfl, by decide, by decide⟩

/-- A device that has been given a product name. -/
def namedProduct (name : String) : UsbDevice := { stringProduct := 1, stringPool := [(1, name)] }

theorem setProductName_blank (prof : Profile) (name : String) :
    ({} : UsbDevice).setProductName prof name = .ok (none, namedProduct name) := by
  cases prof <;> rfl

theorem stringAt_namedProduct (name : String) :
    (namedProduct name).stringAt getFirstString.value.toUInt8 = some name := rfl

theorem namedProduct_selfConsistent_iff :
    ((namedProduct "CP2102").SelfConsistent getFirstString "CP2102" ↔
      if (1 : UInt8) = 0 then ReadsAsLanguage "CP2102" 255
      else FitsDescriptor "CP2102" ∨ CutShort "CP2102" 255) ∧
    ((∀ length, (namedProduct "CP2102").SelfConsistent { getFirstString with length } "CP2102") ↔
      if (1 : UInt8) = 0 then ∃ part, StandsFor part "CP2102" ∧ encodeUtf16 part = [0x0409]
      else FitsDescriptor "CP2102") :=
  stringDescriptor_selfConsistent_iff (namedProduct "CP2102") getFirstString "CP2102"
    getFirstString_gets (stringAt_namedProduct "CP2102")

/-- One character more than a descriptor has room for. -/
def longName : String := String.ofList (List.replicate 127 'a')

theorem length_encodeUtf16_replicate (n : Nat) :
    (encodeUtf16 (String.ofList (List.replicate n 'a'))).length = n := by
  have hunit : (encodeUtf16Char 'a').length = 1 := rfl
  rw [encodeUtf16, String.toList_ofList, List.length_flatMap, List.map_replicate,
    List.sum_replicate_nat, hunit, Nat.mul_one]

theorem length_encodeUtf16_longName : (encodeUtf16 longName).length = 127 :=
  length_encodeUtf16_replicate 127

theorem longName_not_selfConsistent :
    ∃ d, ({} : UsbDevice).setProductName .dev longName = .ok (none, d) ∧
      getFirstString.Gets .string ∧ d.stringAt getFirstString.value.toUInt8 = some longName ∧
      ¬ d.SelfConsistent getFirstString longName := by
  refine ⟨namedProduct longName, setProductName_blank .dev longName, getFirstString_gets,
    stringAt_namedProduct longName, ?_⟩
  intro h
  have hpos := UsbDevice.selfConsistent_pos_iff getFirstString_gets (by decide)
    (stringAt_namedProduct longName)
  rcases hpos.mp h with h | h
  · rw [FitsDescriptor, length_encodeUtf16_longName] at h
    exact absurd h (by decide)
  · rw [CutShort, length_encodeUtf16_longName] at h
    exact absurd h.1 (by decide)

end Lusbip
