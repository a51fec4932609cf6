import Lusbip.Server.ConfigurationLayout
import Lusbip.Server.InterfaceNumbers
import Lusbip.Usb.StringDescriptors

/-!
# The strings of interfaces

The interface descriptors that a client reads carry the string indexes of the physical device, be
they synthesized or raw. A string request is answered from a pool that has the manufacturer, the
product and the serial number, as far as the device has them, numbered from one. So an interface
gets the text of another owner exactly if its index is not beyond the last number of the pool.
-/

namespace Lusbip

open Lib

/-! ## The numbers of the pool -/

namespace DeviceInfo

/-- The texts of the device, in the order in which they are numbered. -/
def texts (info : DeviceInfo) : List String :=
  info.manufacturerString.toList ++ info.productString.toList ++ info.serialNumber.toList

end DeviceInfo

namespace UsbDevice

variable {prof : Profile} {d e : UsbDevice} {s : String} {texts : List String}

/-- The pool has these texts, numbered from one. -/
def Numbers (d : UsbDevice) (texts : List String) : Prop :=
  ∀ i : UInt8, d.stringAt i = if i = 0 then none else texts[i.toNat - 1]?

/-- The search stops at the lowest index that is free. -/
theorem newStringFrom_lowest {fuel : Nat} {i j : UInt8} (hfuel : j.toNat < fuel + i.toNat)
    (hle : i.toNat ≤ j.toNat) (hj : j.toNat < 255)
    (hused : ∀ k : UInt8, i.toNat ≤ k.toNat → k.toNat < j.toNat → d.stringAt k ≠ none)
    (hfree : d.stringAt j = none) :
    newStringFrom prof d s fuel i = .ok (j, { d with stringPool := (j, s) :: d.stringPool }) := by
  induction fuel generalizing i with
  | zero => omega
  | succ fuel ih =>
    have hne : ¬ (prof = .dev ∧ i = 255) := by
      rintro ⟨-, rfl⟩
      exact absurd (hle.trans_lt hj) (by decide)
    rw [newStringFrom, if_neg hne]
    rcases Nat.eq_or_lt_of_le hle with heq | hlt
    · obtain rfl := UInt8.toNat_inj.mp heq
      rw [hfree]
    · have hsucc : (i + 1).toNat = i.toNat + 1 := by
        rw [UInt8.toNat_add]
        exact Nat.mod_eq_of_lt (by simp; omega)
      obtain ⟨text, hi⟩ := Option.ne_none_iff_exists'.mp (hused i (le_refl _) hlt)
      rw [hi]
      exact ih (by omega) (by omega) fun k hk => hused k (by omega)

/-- The next text has the next number. -/
theorem Numbers.newString (h : d.Numbers texts) (hlength : texts.length < 254) {i : UInt8}
    (hnew : d.newString prof s = .ok (i, e)) : e.Numbers (texts ++ [s]) := by
  have hnext : (UInt8.ofNat (texts.length + 1)).toNat = texts.length + 1 := by
    rw [UInt8.toNat_ofNat']
    omega
  have hone : (1 : UInt8).toNat = 1 := rfl
  have hpos : UInt8.ofNat (texts.length + 1) ≠ 0 := fun hz => by
    rw [hz] at hnext
    exact absurd hnext (by simp)
  -- The numbers in use are 1 to the length, so the lowest one free comes next.
  have hlowest : d.newString prof s = .ok (UInt8.ofNat (texts.length + 1),
      { d with stringPool := (UInt8.ofNat (texts.length + 1), s) :: d.stringPool }) := by
    refine newStringFrom_lowest (by omega) (by omega) (by omega) (fun k hk hlt => ?_) ?_
    · have hk0 : k ≠ 0 := by
        rintro rfl
        exact absurd hk (by decide)
      rw [h k, if_neg hk0, List.getElem?_eq_getElem (by omega)]
      exact Option.some_ne_none _
    · rw [h, if_neg hpos, hnext]
      exact List.getElem?_eq_none (by omega)
  obtain ⟨-, rfl⟩ := Prod.mk.inj (Except.ok.inj (hlowest.symm.trans hnew))
  intro j
  have hlookup : stringAt { d with stringPool := (UInt8.ofNat (texts.length + 1), s) :: d.stringPool } j
      = if j = UInt8.ofNat (texts.length + 1) then some s else d.stringAt j := by
    rw [stringAt, List.lookup_cons]
    by_cases hj : j = UInt8.ofNat (texts.length + 1)
    · rw [if_pos hj, hj, beq_self_eq_true]
    · rw [if_neg hj, beq_false_of_ne hj]
      rfl
  rw [hlookup]
  by_cases hj : j = UInt8.ofNat (texts.length + 1)
  · subst hj
    rw [if_pos rfl, if_neg hpos, hnext]
    simp
  · rw [if_neg hj, h]
    by_cases hz : j = 0
    · rw [if_pos hz, if_pos hz]
    · rw [if_neg hz, if_neg hz]
      have hj0 : j.toNat ≠ 0 := fun h0 => hz (UInt8.toNat_inj.mp h0)
      have hjn : j.toNat ≠ texts.length + 1 := fun hn =>
        hj (UInt8.toNat_inj.mp (hn.trans hnext.symm))
      rcases Nat.lt_or_ge (j.toNat - 1) texts.length with hlt | hge
      · rw [List.getElem?_append_left hlt]
      · rw [List.getElem?_eq_none (by omega), List.getElem?_eq_none]
        rw [List.length_append, List.length_singleton]
        omega

theorem Numbers.setString {set : UInt8 → UsbDevice → UsbDevice} {text : Option String}
    (h : d.Numbers texts) (hlength : texts.length < 254)
    (hok : Lusbip.setString prof set text d = .ok e)
    (hset : ∀ i d, (set i d).stringPool = d.stringPool) : e.Numbers (texts ++ text.toList) := by
  cases text with
  | none =>
    cases hok
    rwa [Option.toList_none, List.append_nil]
  | some s =>
    obtain ⟨⟨i, e₁⟩, hnew, hr⟩ := Outcome.bind_eq_ok.mp hok
    cases hr
    intro j
    rw [stringAt, hset]
    exact h.newString hlength hnew j

/-- **The three strings are numbered from one**, those that are there. -/
theorem numbers_setStrings {info : DeviceInfo} (hpool : d.stringPool = [])
    (hok : setStrings prof info d = .ok e) : e.Numbers info.texts := by
  obtain ⟨d₁, h₁, hok⟩ := Outcome.bind_eq_ok.mp hok
  obtain ⟨d₂, h₂, h₃⟩ := Outcome.bind_eq_ok.mp hok
  have hlength : ∀ text : Option String, text.toList.length ≤ 1 := by
    intro text
    cases text <;> simp
  have hm := hlength info.manufacturerString
  have hp := hlength info.productString
  have hnone : d.Numbers [] := fun i => by
    rw [stringAt, hpool]
    split <;> rfl
  have hmanufacturer := hnone.setString (by decide) h₁ fun _ _ => rfl
  have hproduct := hmanufacturer.setString (by simp; omega) h₂ fun _ _ => rfl
  exact hproduct.setString (by simp; omega) h₃ fun _ _ => rfl

end UsbDevice

/-! ## What a string request gets -/

/-- `GET_DESCRIPTOR`, for as much as there is. -/
def getWhole (type : DescriptorType) (i : UInt8) : SetupPacket where
  requestType := 0x80
  request := 6
  value := UInt16.ofNat (256 * type.toU8.toNat + i.toNat)
  length := 0xFFFF

theorem toUInt8_value_getWhole (type : DescriptorType) (i : UInt8) :
    (getWhole type i).value.toUInt8 = i := by
  have hi := i.toNat_lt
  refine UInt8.toNat_inj.mp ?_
  show (UInt16.ofNat (256 * type.toU8.toNat + i.toNat)).toUInt8.toNat = i.toNat
  rw [UInt16.toNat_toUInt8, UInt16.toNat_ofNat']
  omega

theorem getWhole_gets (type : DescriptorType) (i : UInt8) : (getWhole type i).Gets type := by
  refine ⟨rfl, rfl, ?_⟩
  have htype : (getWhole type i).value >>> 8 = UInt16.ofNat type.toU8.toNat := by
    have hi := i.toNat_lt
    have ht := type.toU8.toNat_lt
    refine UInt16.toNat_inj.mp ?_
    show (UInt16.ofNat (256 * type.toU8.toNat + i.toNat) >>> 8).toNat = _
    rw [UInt16.toNat_shiftRight, UInt16.toNat_ofNat', UInt16.toNat_ofNat', Nat.shiftRight_eq_div_pow]
    show (256 * type.toU8.toNat + i.toNat) % 2 ^ 16 / 2 ^ 8 = type.toU8.toNat % 2 ^ 16
    omega
  rw [htype]
  cases type <;> rfl

/-- Nothing is longer than the longest request asks for, as far as lengths are compared. -/
theorem truncateTo_longest (desc : List UInt8) : truncateTo 0xFFFF desc = desc := by
  refine if_neg fun hlt => ?_
  have hnat := UInt16.lt_iff_toNat_lt.mp hlt
  exact absurd (UInt16.toNat_lt _) (Nat.not_lt.mpr hnat)

/-- The strings of the physical device, each of which has come in a descriptor. -/
abbrev OwnStrings := UInt8 → Option { s : String // FitsDescriptor s }

namespace UsbDevice

variable {d : UsbDevice} {texts : List String} {own : OwnStrings} {i : UInt8}

/-- A request for the string `i` gets what the physical device has under that index, or nothing. -/
def OwnOrNothing (d : UsbDevice) (own : OwnStrings) (i : UInt8) : Prop :=
  ∀ setup : SetupPacket, setup.Gets .string → setup.value.toUInt8 = i →
    d.Answered setup [] ∨ ∃ s, own i = some s ∧ d.SelfConsistent setup s.val

/-- The requests for the string `i` do not get the text of the pool. -/
def NeverStored (d : UsbDevice) (i : UInt8) : Prop :=
  ∀ s, d.stringAt i = some s → ¬ ∀ setup : SetupPacket, setup.Gets .string →
    setup.value.toUInt8 = i → d.SelfConsistent setup s

theorem answered_nil_of_stringAt {setup : SetupPacket} (hgets : setup.Gets .string)
    (hindex : setup.value.toUInt8 ≠ 0) (hs : d.stringAt setup.value.toUInt8 = none) :
    d.Answered setup [] := by
  refine (answered_iff hgets).mpr fun prof => ?_
  rw [getDescriptor, hgets.type]
  dsimp only
  rw [if_neg hindex, hs]

/-- A request that is long enough gets all that is stored, and the reply tells what that is. -/
theorem reply_getWhole {s : String} {reply : List UInt8} (hi : i ≠ 0) (hs : d.stringAt i = some s)
    (h : d.Answered (getWhole .string i) reply) : reply = spelled (encodeUtf16 s).length s := by
  have hvalue := toUInt8_value_getWhole .string i
  obtain ⟨-, heq⟩ := spelled_of_getDescriptor (getWhole_gets .string i) (by rwa [hvalue])
    (by rwa [hvalue]) ((answered_iff (getWhole_gets .string i)).mp h .dev)
  exact heq.symm.trans (truncateTo_longest _)

theorem Numbers.stringAt (h : d.Numbers texts) (hi : i ≠ 0) :
    d.stringAt i = texts[i.toNat - 1]? := by
  rw [h, if_neg hi]

/-- **A string request gets the own string of an interface, or nothing**, if the index is beyond the
    pool, or the pool has the same text there. -/
theorem Numbers.ownOrNothing_iff (h : d.Numbers texts) (hi : i ≠ 0) :
    d.OwnOrNothing own i ↔ texts.length < i.toNat ∨
      ∃ s, own i = some s ∧ texts[i.toNat - 1]? = some s.val := by
  have hpos : i.toNat ≠ 0 := fun hz => hi (UInt8.toNat_inj.mp hz)
  constructor
  · intro hown
    cases htext : texts[i.toNat - 1]? with
    | none =>
      have hle := List.getElem?_eq_none_iff.mp htext
      exact Or.inl (by omega)
    | some text =>
      have hstored := (h.stringAt hi).trans htext
      rcases hown _ (getWhole_gets .string i) (toUInt8_value_getWhole .string i) with hnil | hself
      · cases reply_getWhole hi hstored hnil
      · obtain ⟨s, hs, desc, part, hdesc, hpart, hreply⟩ := hself
        obtain ⟨hfits, rfl⟩ := hdesc.eq_spelled
        obtain rfl := hpart.whole s.property
        have hall : (spelled (encodeUtf16 s.val).length s.val).take 0xFFFF =
            spelled (encodeUtf16 s.val).length s.val := by
          have hle : 2 + 2 * (encodeUtf16 s.val).length ≤ 255 := hfits
          exact List.take_of_length_le (by rw [length_spelled]; omega)
        have heq := reply_getWhole hi hstored hreply
        have hsame := spelled_inj (hall.symm.trans heq)
        exact Or.inr ⟨s, hs, congrArg some hsame.symm⟩
  · intro hcond setup hgets hindex
    have hi' : setup.value.toUInt8 ≠ 0 := hindex ▸ hi
    rcases hcond with hlt | ⟨s, hs, htext⟩
    · refine Or.inl (answered_nil_of_stringAt hgets hi' ?_)
      rw [hindex, h.stringAt hi]
      exact List.getElem?_eq_none (by omega)
    · refine Or.inr ⟨s, hs, (selfConsistent_pos_iff hgets hi' ?_).mpr (Or.inl s.property)⟩
      rw [hindex, h.stringAt hi, htext]

/-- **It does not get what is stored there, only if nothing is.** -/
theorem Numbers.ownAndNeverStored_iff (h : d.Numbers texts) (hi : i ≠ 0) :
    d.OwnOrNothing own i ∧ d.NeverStored i ↔ texts.length < i.toNat := by
  constructor
  · rintro ⟨hown, hnever⟩
    rcases (h.ownOrNothing_iff hi).mp hown with hlt | ⟨s, hs, htext⟩
    · exact hlt
    · have hstored := (h.stringAt hi).trans htext
      refine absurd (fun setup hgets hindex => ?_) (hnever s.val hstored)
      have hi' : setup.value.toUInt8 ≠ 0 := hindex ▸ hi
      exact (selfConsistent_pos_iff hgets hi' (by rwa [hindex])).mpr (Or.inl s.property)
  · intro hlt
    refine ⟨(h.ownOrNothing_iff hi).mpr (Or.inl hlt), fun s hs => ?_⟩
    rw [h.stringAt hi, List.getElem?_eq_none (by omega)] at hs
    cases hs

end UsbDevice

/-! ## What a client reads of interfaces -/

/-- The descriptor of an interface with this `iInterface`. -/
structure IsInterfaceWith (record : List UInt8) (i : UInt8) : Prop where
  length : 9 ≤ record.length
  type : byteAt record 1 = DescriptorType.interface.toU8
  index : byteAt record 8 = i

/-- Going from descriptor to descriptor, a reader comes upon an interface with this `iInterface`. -/
def MentionsString (bytes : List UInt8) (i : UInt8) : Prop :=
  ∃ (records : List (List UInt8)) (rest : List UInt8), bytes = records.flatten ++ rest ∧
    (∀ r ∈ records, IsRecord UInt8.toNat r) ∧ ∃ record ∈ records, IsInterfaceWith record i

section Mentions

variable {bytes whole : List UInt8} {i : UInt8}

theorem MentionsString.of_prefix (h : MentionsString bytes i) (hp : bytes <+: whole) :
    MentionsString whole i := by
  obtain ⟨behind, rfl⟩ := hp
  obtain ⟨records, rest, rfl, hrecords, hmentioned⟩ := h
  exact ⟨records, rest ++ behind, List.append_assoc _ _ _, hrecords, hmentioned⟩

/-- A reader of a chain comes upon its records, and no others. -/
theorem mentionsString_flatten_iff {parts : List (List UInt8)}
    (hparts : ∀ p ∈ parts, IsRecord UInt8.toNat p) :
    MentionsString parts.flatten i ↔ ∃ p ∈ parts, IsInterfaceWith p i := by
  constructor
  · rintro ⟨records, rest, hbytes, hrecords, record, hm, hrecord⟩
    exact ⟨record, (records_isPrefix hrecords hparts hbytes.symm).subset hm, hrecord⟩
  · exact fun h => ⟨parts, [], (List.append_nil _).symm, hparts, h⟩

end Mentions

namespace UsbDevice

variable {d : UsbDevice} {i : UInt8}

/-- The descriptors of endpoints are no interface descriptors. -/
theorem type_of_mem_endpointParts {endpoint : UsbEndpoint} {p : List UInt8}
    (h : p ∈ d.endpointParts endpoint) : byteAt p 1 ≠ DescriptorType.interface.toU8 := by
  rcases List.mem_cons.mp h with rfl | h
  · exact (by decide : (5 : UInt8) ≠ 4)
  · split at h
    · rcases List.mem_singleton.mp h with rfl
      exact (by decide : (0x30 : UInt8) ≠ 4)
    · cases h

/-- **The synthesized descriptor has the indexes of the claimed interfaces.** -/
theorem mentionsString_configurationDescriptor_iff
    (hclass : ∀ intf ∈ d.interfaces, intf.classSpecificDescriptor = []) :
    MentionsString d.configurationDescriptor i ↔ ∃ intf ∈ d.interfaces, intf.stringInterface = i := by
  rw [← flatten_configurationParts hclass,
    mentionsString_flatten_iff fun _ => isRecord_of_mem_configurationParts]
  constructor
  · rintro ⟨p, hp, hinterface⟩
    rcases List.mem_cons.mp hp with rfl | hp
    · exact absurd hinterface.type (by decide : (2 : UInt8) ≠ 4)
    · obtain ⟨group, hgroup, hp⟩ := List.mem_flatten.mp hp
      obtain ⟨j, hj⟩ := List.getElem?_of_mem hgroup
      rw [getElem?_interfacePartsFrom] at hj
      obtain ⟨intf, hintf, rfl⟩ := Option.map_eq_some_iff.mp hj
      rcases List.mem_cons.mp hp with rfl | hp
      · exact ⟨intf, List.mem_of_getElem? hintf, hinterface.index⟩
      · obtain ⟨parts, hparts, hp⟩ := List.mem_flatten.mp hp
        obtain ⟨endpoint, -, rfl⟩ := List.mem_map.mp hparts
        exact absurd hinterface.type (type_of_mem_endpointParts hp)
  · rintro ⟨intf, hm, rfl⟩
    obtain ⟨j, hj⟩ := List.getElem?_of_mem hm
    have hgroup : (d.interfacePartsFrom 0 d.interfaces)[j]? = some (d.interfaceParts (0 + j) intf) := by
      rw [getElem?_interfacePartsFrom, hj]
      rfl
    have hpart := List.mem_flatten_of_mem (List.mem_of_getElem? hgroup) List.mem_cons_self
    exact ⟨_, List.mem_cons_of_mem _ hpart, Nat.le_refl 9, rfl, rfl⟩

/-- A configuration descriptor that the client can ask for has an interface with this
    `iInterface`. -/
def Advertises (d : UsbDevice) (i : UInt8) : Prop :=
  ∃ (setup : SetupPacket) (reply : List UInt8), setup.Gets .configuration ∧
    d.Answered setup reply ∧ MentionsString reply i

/-- The longest request for a configuration gets the raw one, or else the synthesized one. -/
theorem answered_getWhole_configuration
    (hraw : ∀ c ∈ d.rawConfigurationDescriptors, c.length ≤ 0xFFFF) {j : Nat} (hj : j < 256) :
    d.Answered (getWhole .configuration (UInt8.ofNat j))
      (d.rawConfigurationDescriptors[j]?.getD d.configurationDescriptor) := by
  have hnat : (UInt8.ofNat j).toNat = j := by
    rw [UInt8.toNat_ofNat']
    omega
  refine (answered_iff (getWhole_gets _ _)).mpr fun prof => ?_
  rw [getDescriptor, (getWhole_gets _ _).type]
  dsimp only
  rw [rawConfigurationDescriptor, toUInt8_value_getWhole, hnat]
  cases hc : d.rawConfigurationDescriptors[j]? with
  | some c =>
    have hlength : c.length ≤ 0xFFFF := hraw c (List.mem_of_getElem? hc)
    exact congrArg Except.ok (List.take_of_length_le hlength)
  | none => exact congrArg Except.ok (truncateTo_longest _)

/-- The configurations that have an index, and the synthesized one if an index is left for it. -/
theorem advertises_iff (hraw : ∀ c ∈ d.rawConfigurationDescriptors, c.length ≤ 0xFFFF) :
    d.Advertises i ↔ (∃ c ∈ d.rawConfigurationDescriptors.take 256, MentionsString c i) ∨
      d.rawConfigurationDescriptors.length < 256 ∧ MentionsString d.configurationDescriptor i := by
  constructor
  · rintro ⟨setup, reply, hgets, hreply, hm⟩
    have hget := (answered_iff hgets).mp hreply .dev
    have hindex := setup.value.toUInt8.toNat_lt
    rw [getDescriptor, hgets.type] at hget
    dsimp only [rawConfigurationDescriptor] at hget
    cases hc : d.rawConfigurationDescriptors[setup.value.toUInt8.toNat]? with
    | some c =>
      rw [hc] at hget
      cases hget
      refine Or.inl ⟨c, ?_, hm.of_prefix (List.take_prefix _ _)⟩
      refine List.mem_of_getElem? (i := setup.value.toUInt8.toNat) ?_
      rwa [List.getElem?_take_of_lt hindex]
    | none =>
      rw [hc] at hget
      cases hget
      have hle := List.getElem?_eq_none_iff.mp hc
      have hbegins := truncateTo_prefix setup.length d.configurationDescriptor
      exact Or.inr ⟨by omega, hm.of_prefix hbegins⟩
  · rintro (⟨c, hc, hm⟩ | ⟨hlt, hm⟩)
    · obtain ⟨j, hj⟩ := List.getElem?_of_mem hc
      rw [List.getElem?_take] at hj
      split at hj
      · rename_i hlt
        have hreply := answered_getWhole_configuration hraw hlt
        rw [hj] at hreply
        exact ⟨_, c, getWhole_gets _ _, hreply, hm⟩
      · cases hj
    · have hreply := answered_getWhole_configuration hraw hlt
      rw [List.getElem?_eq_none (le_refl _)] at hreply
      exact ⟨_, _, getWhole_gets _ _, hreply, hm⟩

end UsbDevice

/-! ## What the host says of interfaces -/

namespace OpenedDevice

def rawConfigurations (opened : OpenedDevice) : List (List UInt8) :=
  (opened.descriptors.map extractConfigurationDescriptors).getD []

/-- An interface of the first 256 raw configurations has this `iInterface`, or one that could be
    claimed, if the synthesized descriptor is served at all. -/
def Describes (opened : OpenedDevice) (i : UInt8) : Prop :=
  (∃ c ∈ opened.rawConfigurations.take 256, MentionsString c i) ∨
    opened.rawConfigurations.length < 256 ∧ ∃ cfg, opened.activeConfiguration = some cfg ∧
      ∃ intf ∈ cfg.interfaces, ∃ desc, intf.descriptor = some desc ∧ desc.stringIndex.getD 0 = i

theorem length_le_of_mem_rawConfigurations {opened : OpenedDevice} {c : List UInt8}
    (h : c ∈ opened.rawConfigurations) : c.length ≤ 0xFFFF := by
  unfold rawConfigurations at h
  cases hd : opened.descriptors with
  | none =>
    rw [hd] at h
    cases h
  | some descriptors =>
    rw [hd] at h
    have hconf := isConfiguration_of_mem_extractFrom h
    have hlow := (byteAt c 2).toNat_lt
    have hhigh := (byteAt c 3).toNat_lt
    rw [hconf.length, wTotalLength]
    omega

end OpenedDevice

/-- **The client reads the indexes that the host has.** -/
theorem advertises_iff_describes {prof : Profile} {opens : DeviceInfo → Option OpenedDevice}
    {info : DeviceInfo} {d : UsbDevice} (h : withNusbDevice prof opens info = .ok (some d)) :
    ∃ opened, opens info = some opened ∧ ∀ i, d.Advertises i ↔ opened.Describes i := by
  obtain ⟨opened, cfg, hopened, hcfg, -, hset⟩ := withNusbDevice_ok h
  have hraw : d.rawConfigurationDescriptors = opened.rawConfigurations :=
    @setStrings_frame _ _ _ _ _ (fun d => d.rawConfigurationDescriptors) hset fun _ _ _ _ _ => rfl
  have hinterfaces : d.interfaces = cfg.interfaces.filterMap (claimedInterface info.device) :=
    @setStrings_frame _ _ _ _ _ (fun d => d.interfaces) hset fun _ _ _ _ _ => rfl
  have hclass : ∀ intf ∈ d.interfaces, intf.classSpecificDescriptor = [] := by
    intro intf hm
    rw [hinterfaces] at hm
    obtain ⟨hostIntf, -, hclaimed⟩ := List.mem_filterMap.mp hm
    obtain ⟨desc, -, rfl⟩ := Option.map_eq_some_iff.mp hclaimed
    rfl
  refine ⟨opened, hopened, fun i => ?_⟩
  rw [UsbDevice.advertises_iff fun c hc => OpenedDevice.length_le_of_mem_rawConfigurations (hraw ▸ hc),
    UsbDevice.mentionsString_configurationDescriptor_iff hclass, hraw, hinterfaces]
  refine or_congr_right (and_congr_right fun _ => ?_)
  constructor
  · rintro ⟨intf, hm, rfl⟩
    obtain ⟨hostIntf, hhost, hclaimed⟩ := List.mem_filterMap.mp hm
    obtain ⟨desc, hdesc, rfl⟩ := Option.map_eq_some_iff.mp hclaimed
    exact ⟨cfg, hcfg, hostIntf, hhost, desc, hdesc, rfl⟩
  · rintro ⟨cfg', hcfg', hostIntf, hhost, desc, hdesc, rfl⟩
    obtain rfl := Option.some.inj (hcfg.symm.trans hcfg')
    obtain ⟨intf, hclaimed, hindex⟩ : ∃ intf, claimedInterface info.device hostIntf = some intf ∧
        intf.stringInterface = desc.stringIndex.getD 0 := by
      rw [claimedInterface, hdesc]
      exact ⟨_, rfl, rfl⟩
    exact ⟨intf, List.mem_filterMap.mpr ⟨hostIntf, hhost, hclaimed⟩, hindex⟩

/-! ## Every interface -/

theorem withNusbDevice_numbers {prof : Profile} {opens : DeviceInfo → Option OpenedDevice}
    {info : DeviceInfo} {d : UsbDevice} (h : withNusbDevice prof opens info = .ok (some d)) :
    d.Numbers info.texts := by
  obtain ⟨_, _, -, -, -, hset⟩ := withNusbDevice_ok h
  exact UsbDevice.numbers_setStrings rfl hset

/-- **Interfaces get their own strings, or nothing, exactly if their indexes are beyond the pool**,
    which numbers as many texts as the device has. An index that is not beyond it gets the text
    there, and its own string only if that is the same. -/
theorem interfaceStrings_own_iff {prof : Profile} {opens : DeviceInfo → Option OpenedDevice}
    {info : DeviceInfo} {d : UsbDevice} (h : withNusbDevice prof opens info = .ok (some d))
    (own : OwnStrings) :
    ∃ opened, opens info = some opened ∧
      ((∀ i, d.Advertises i → i ≠ 0 → d.OwnOrNothing own i ∧ d.NeverStored i) ↔
        ∀ i, opened.Describes i → i ≠ 0 → info.texts.length < i.toNat) ∧
      ((∀ i, d.Advertises i → i ≠ 0 → d.OwnOrNothing own i) ↔
        ∀ i, opened.Describes i → i ≠ 0 → info.texts.length < i.toNat ∨
          ∃ s, own i = some s ∧ info.texts[i.toNat - 1]? = some s.val) := by
  obtain ⟨opened, hopened, hdescribes⟩ := advertises_iff_describes h
  have hnumbers := withNusbDevice_numbers h
  refine ⟨opened, hopened, ?_, ?_⟩
  · refine forall_congr' fun i => ?_
    rw [hdescribes i]
    exact forall₂_congr fun _ hi => hnumbers.ownAndNeverStored_iff hi
  · refine forall_congr' fun i => ?_
    rw [hdescribes i]
    exact forall₂_congr fun _ hi => hnumbers.ownOrNothing_iff hi

/-- A bridge of which the host knows the manufacturer. -/
def bridgeInfo : DeviceInfo where
  device := ⟨0⟩
  sysfsPath := []
  fileName := some "1-5"
  busnum := 1
  deviceAddress := 5
  vendorId := 0x10c4
  productId := 0xea70
  deviceVersion := 0x0100
  usbVersion := 0x0110
  deviceClass := 0
  subclass := 0
  protocol := 0
  speed := some .full
  manufacturerString := some "Silicon Labs"
  productString := none
  serialNumber := none
  interfaceClasses := [0xff]

/-- The name of its interface is the string with this index. -/
def bridgeOpened (index : UInt8) : OpenedDevice where
  activeConfiguration := some
    { value := 1
      attributes := 0x80
      maxPower := 50
      interfaces := [{ number := 0, descriptor := some ⟨0xff, 0, 0, some index, []⟩ }] }
  configurationCount := 1
  descriptors := none

theorem bridge_opens (prof : Profile) (index : UInt8) :
    ∃ d, withNusbDevice prof (fun _ => some (bridgeOpened index)) bridgeInfo = .ok (some d) := by
  cases prof <;> exact ⟨_, rfl⟩

def portA : { s : String // FitsDescriptor s } := ⟨"Port A", by unfold FitsDescriptor; decide⟩

/-- With the index `4` the interface gets nothing. -/
theorem bridge_ownStrings :
    ∃ d, withNusbDevice .dev (fun _ => some (bridgeOpened 4)) bridgeInfo = .ok (some d) ∧
      ∃ opened, some (bridgeOpened 4) = some opened ∧
        ((∀ i, d.Advertises i → i ≠ 0 → d.OwnOrNothing (fun _ => some portA) i ∧ d.NeverStored i) ↔
          ∀ i, opened.Describes i → i ≠ 0 → bridgeInfo.texts.length < i.toNat) ∧
        ((∀ i, d.Advertises i → i ≠ 0 → d.OwnOrNothing (fun _ => some portA) i) ↔
          ∀ i, opened.Describes i → i ≠ 0 → bridgeInfo.texts.length < i.toNat ∨
            ∃ s, some portA = some s ∧ bridgeInfo.texts[i.toNat - 1]? = some s.val) := by
  obtain ⟨d, hd⟩ := bridge_opens .dev 4
  exact ⟨d, hd, interfaceStrings_own_iff hd fun _ => some portA⟩

/-- **With the index `1` it gets the manufacturer.** -/
theorem bridge_getsManufacturer :
    ∃ d, withNusbDevice .dev (fun _ => some (bridgeOpened 1)) bridgeInfo = .ok (some d) ∧
      d.Advertises 1 ∧ ¬ d.OwnOrNothing (fun _ => some portA) 1 := by
  obtain ⟨d, hd⟩ := bridge_opens .dev 1
  refine ⟨d, hd, ?_, fun hown => ?_⟩
  · obtain ⟨opened, hopened, hdescribes⟩ := advertises_iff_describes hd
    cases hopened
    exact (hdescribes 1).mpr (Or.inr ⟨by decide, _, rfl, _, List.mem_singleton_self _, _, rfl, rfl⟩)
  · rcases ((withNusbDevice_numbers hd).ownOrNothing_iff (by decide)).mp hown with hlt | ⟨s, hs, htext⟩
    · exact absurd hlt (by decide)
    · cases hs
      exact absurd htext (by decide)

end Lusbip
