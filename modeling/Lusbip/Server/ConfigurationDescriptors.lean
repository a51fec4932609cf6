import Lusbip.Lib.Chain
import Lusbip.Server.HostDevices
import Lusbip.Usb.DeviceRecord

/-!
# The configuration descriptors of a host device

The `descriptors` file of a device is a chain of descriptors: the device descriptor, and then each
configuration with everything in it. `extract_configuration_descriptors` cuts the configurations
out, and `GET_DESCRIPTOR` serves them byte for byte.

Two things are to be said about the loop. It is safe for *any* bytes: it reads in range, it ends,
and what it returns was cut out of the input. And it is exact for bytes that are what they should
be: configurations whose header fits into them, with other descriptors in between. The loop wants
a header that fits (`total_length >= descriptor_length`); a configuration whose `bLength` goes
beyond its `wTotalLength` is passed over.
-/

namespace Lusbip

open Lib

/-! ## The loop with its accesses checked -/

/-- `descriptors[i]` -/
def indexChecked (bytes : List UInt8) (i : Nat) : Outcome UInt8 :=
  match bytes[i]? with
  | some byte => .ok byte
  | none => Outcome.panic (.indexOutOfBounds i bytes.length)

/-- `descriptors[start..stop]` -/
def sliceChecked (bytes : List UInt8) (start stop : Nat) : Outcome (List UInt8) :=
  if start ≤ stop ∧ stop ≤ bytes.length then .ok ((bytes.drop start).take (stop - start))
  else Outcome.panic (.indexOutOfBounds stop bytes.length)

/-- The body of the loop of `extract_configuration_descriptors`: where it goes on and what it has
    found, or `none` where it breaks. -/
def extractRound (descriptors : List UInt8) (offset : Nat) :
    Outcome (Option (Nat × List (List UInt8))) := do
  let descriptorLength := (← indexChecked descriptors offset).toNat
  if descriptorLength < 2 ∨ descriptors.length < offset + descriptorLength then
    .ok none
  else
    let descriptorType ← indexChecked descriptors (offset + 1)
    if descriptorType = DescriptorType.configuration.toU8 ∧ 9 ≤ descriptorLength then
      let lo ← indexChecked descriptors (offset + 2)
      let hi ← indexChecked descriptors (offset + 3)
      let totalLength := (u16OfLe lo hi).toNat
      if descriptorLength ≤ totalLength ∧ offset + totalLength ≤ descriptors.length then
        let configuration ← sliceChecked descriptors offset (offset + totalLength)
        .ok (some (offset + totalLength, [configuration]))
      else
        .ok (some (offset + descriptorLength, []))
    else
      .ok (some (offset + descriptorLength, []))

/-- The loop; `none` is a loop that has not ended after `fuel` rounds. -/
def extractLoop (descriptors : List UInt8) :
    Nat → Nat → List (List UInt8) → Option (Outcome (List (List UInt8)))
  | 0, _, _ => none
  | fuel + 1, offset, configurations =>
      if offset + 2 ≤ descriptors.length then
        match extractRound descriptors offset with
        | .ok (some (next, found)) =>
            extractLoop descriptors fuel next (configurations ++ found)
        | .ok none => some (.ok configurations)
        | .error stop => some (.error stop)
      else some (.ok configurations)

/-! ## What a round does -/

/-- `wTotalLength` of a configuration descriptor. -/
def wTotalLength (configuration : List UInt8) : Nat :=
  (byteAt configuration 2).toNat + 256 * (byteAt configuration 3).toNat

/-- A configuration header, and a length that is what the header says. -/
structure IsConfiguration (c : List UInt8) : Prop where
  bLength : 9 ≤ (byteAt c 0).toNat
  type : byteAt c 1 = DescriptorType.configuration.toU8
  length : c.length = wTotalLength c
  /-- The header is part of the configuration. -/
  fits : (byteAt c 0).toNat ≤ c.length

/-- A descriptor of another type. -/
structure IsOtherDescriptor (p : List UInt8) : Prop where
  length : (byteAt p 0).toNat = p.length
  two_le : 2 ≤ p.length
  type : byteAt p 1 ≠ DescriptorType.configuration.toU8

theorem indexChecked_of_lt {bytes : List UInt8} {i : Nat} (h : i < bytes.length) :
    indexChecked bytes i = .ok (byteAt bytes i) := by
  rw [indexChecked, List.getElem?_eq_getElem h, byteAt, List.getD_eq_getElem?_getD,
    List.getElem?_eq_getElem h]
  rfl

theorem sliceChecked_of_le {bytes : List UInt8} {start n : Nat} (h : start + n ≤ bytes.length) :
    sliceChecked bytes start (start + n) = .ok ((bytes.drop start).take n) := by
  rw [sliceChecked, if_pos ⟨Nat.le_add_right start n, h⟩, Nat.add_sub_cancel_left]

/-- A byte of a part is a byte of the whole. -/
theorem byteAt_slice {bytes : List UInt8} {start n i : Nat} (h : i < n) :
    byteAt ((bytes.drop start).take n) i = byteAt bytes (start + i) := by
  rw [byteAt, byteAt, List.getD_eq_getElem?_getD, List.getD_eq_getElem?_getD,
    List.getElem?_take_of_lt h, List.getElem?_drop]

/-- One round, seen from both loops: it ends, it passes over a descriptor, or it cuts out a
    configuration. -/
theorem extractRound_cases {descriptors : List UInt8} {offset : Nat}
    (h : offset + 2 ≤ descriptors.length) :
    (extractRound descriptors offset = .ok none ∧
      ∀ fuel, extractFrom descriptors (fuel + 1) offset = []) ∨
    (∃ n, 2 ≤ n ∧ offset + n ≤ descriptors.length ∧
      extractRound descriptors offset = .ok (some (offset + n, [])) ∧
      ∀ fuel, extractFrom descriptors (fuel + 1) offset =
        extractFrom descriptors fuel (offset + n)) ∨
    (∃ n, 2 ≤ n ∧ offset + n ≤ descriptors.length ∧
      IsConfiguration ((descriptors.drop offset).take n) ∧
      extractRound descriptors offset =
        .ok (some (offset + n, [(descriptors.drop offset).take n])) ∧
      ∀ fuel, extractFrom descriptors (fuel + 1) offset =
        (descriptors.drop offset).take n :: extractFrom descriptors fuel (offset + n)) := by
  have hlength := indexChecked_of_lt (show offset < descriptors.length by omega)
  have htype := indexChecked_of_lt (show offset + 1 < descriptors.length by omega)
  unfold extractRound
  simp only [extractFrom, hlength, htype, if_pos h, bind, Except.bind]
  generalize hn : (byteAt descriptors offset).toNat = n
  -- A length that is too short, or reaches beyond the end, is where the loop ends.
  by_cases hstop : n < 2 ∨ descriptors.length < offset + n
  · left
    simp only [if_pos hstop, implies_true, and_self]
  right
  simp only [if_neg hstop]
  have hpass : 2 ≤ n ∧ offset + n ≤ descriptors.length := by omega
  by_cases hconf : byteAt descriptors (offset + 1) = DescriptorType.configuration.toU8 ∧ 9 ≤ n
  · have hlo := indexChecked_of_lt (show offset + 2 < descriptors.length by omega)
    have hhi := indexChecked_of_lt (show offset + 3 < descriptors.length by omega)
    simp only [if_pos hconf, hlo, hhi, toNat_u16OfLe, Nat.add_comm (256 * _)]
    generalize htotal : (byteAt descriptors (offset + 2)).toNat +
      256 * (byteAt descriptors (offset + 3)).toNat = total
    -- The guard `total_length >= descriptor_length`, and the bytes are there; else only the
    -- header is passed over.
    by_cases hfits : n ≤ total ∧ offset + total ≤ descriptors.length
    · right
      have hlen : ((descriptors.drop offset).take total).length = total := by
        rw [List.length_take, List.length_drop]
        omega
      have hpos : 4 ≤ total := by omega
      refine ⟨total, by omega, hfits.2, ?_, ?_, ?_⟩
      · constructor
        · rw [byteAt_slice (by omega), Nat.add_zero, hn]
          exact hconf.2
        · rw [byteAt_slice (by omega)]
          exact hconf.1
        · rw [hlen, wTotalLength, byteAt_slice (by omega), byteAt_slice (by omega), htotal]
        · rw [byteAt_slice (by omega), Nat.add_zero, hn, hlen]
          exact hfits.1
      · simp only [if_pos hfits, sliceChecked_of_le hfits.2]
      · simp only [if_pos hfits, implies_true]
    · left
      exact ⟨n, hpass.1, hpass.2, by simp only [if_neg hfits], by
        simp only [if_neg hfits, implies_true]⟩
  · left
    exact ⟨n, hpass.1, hpass.2, by simp only [if_neg hconf], by
      simp only [if_neg hconf, implies_true]⟩

/-- **The loop is safe**: with as many rounds as there are bytes left, and one to see that there
    are none, it ends without a panic, and what it collects is what `extractFrom` returns. -/
theorem extractLoop_eq {descriptors : List UInt8} {fuel offset : Nat}
    {configurations : List (List UInt8)} (h : descriptors.length ≤ offset + fuel) :
    extractLoop descriptors (fuel + 1) offset configurations =
      some (.ok (configurations ++ extractFrom descriptors fuel offset)) := by
  induction fuel generalizing offset configurations with
  | zero =>
    rw [extractLoop, if_neg (by omega), extractFrom, List.append_nil]
  | succ fuel ih =>
    rw [extractLoop]
    by_cases hmore : offset + 2 ≤ descriptors.length
    · rw [if_pos hmore]
      rcases extractRound_cases hmore with ⟨hround, hrest⟩ | ⟨n, hn, -, hround, hrest⟩ |
        ⟨n, hn, -, -, hround, hrest⟩
      · rw [hround, hrest, List.append_nil]
      · rw [hround, hrest]
        show extractLoop descriptors (fuel + 1) (offset + n) (configurations ++ []) = _
        rw [ih (by omega), List.append_nil]
      · rw [hround, hrest]
        show extractLoop descriptors (fuel + 1) (offset + n) (configurations ++ [_]) = _
        rw [ih (by omega), List.append_assoc]
        rfl
    · rw [if_neg hmore, extractFrom, if_neg hmore, List.append_nil]

/-- What is returned was cut out of the input, in order. -/
theorem extractFrom_slices (descriptors : List UInt8) (fuel offset : Nat) :
    SlicesFrom descriptors offset (extractFrom descriptors fuel offset) := by
  induction fuel generalizing offset with
  | zero => trivial
  | succ fuel ih =>
    by_cases hmore : offset + 2 ≤ descriptors.length
    · rcases extractRound_cases hmore with ⟨-, hrest⟩ | ⟨n, -, -, -, hrest⟩ |
        ⟨n, -, hfits, -, -, hrest⟩
      · rw [hrest]
        trivial
      · rw [hrest]
        exact (ih (offset + n)).of_le (Nat.le_add_right offset n)
      · rw [hrest]
        exact SlicesFrom.cut hfits (ih (offset + n))
    · rw [extractFrom, if_neg hmore]
      trivial

theorem isConfiguration_of_mem_extractFrom {descriptors c : List UInt8} {fuel offset : Nat}
    (h : c ∈ extractFrom descriptors fuel offset) : IsConfiguration c := by
  induction fuel generalizing offset with
  | zero => cases h
  | succ fuel ih =>
    by_cases hmore : offset + 2 ≤ descriptors.length
    · rcases extractRound_cases hmore with ⟨-, hrest⟩ | ⟨n, -, -, -, hrest⟩ |
        ⟨n, -, -, hconf, -, hrest⟩
      · rw [hrest] at h
        cases h
      · rw [hrest] at h
        exact ih h
      · rw [hrest] at h
        rcases List.mem_cons.mp h with rfl | h
        · exact hconf
        · exact ih h
    · rw [extractFrom, if_neg hmore] at h
      cases h

/-! ## Bytes that are a chain of descriptors -/

/-- What the loop returns from an offset on, however many rounds it is given beyond the bytes that
    are left. -/
def Extracts (descriptors : List UInt8) (offset : Nat) (configurations : List (List UInt8)) :
    Prop :=
  ∀ fuel, descriptors.length ≤ offset + fuel →
    extractFrom descriptors fuel offset = configurations

section Extracts

variable (before rest : List UInt8) {configurations : List (List UInt8)}

theorem extracts_end (descriptors : List UInt8) : Extracts descriptors descriptors.length [] := by
  intro fuel _
  cases fuel with
  | zero => rfl
  | succ fuel => rw [extractFrom, if_neg (by omega)]

/-- A byte behind a prefix. -/
theorem byteAt_append (p : List UInt8) {i : Nat} (h : i < p.length) :
    byteAt (before ++ p ++ rest) (before.length + i) = byteAt p i := by
  rw [byteAt, byteAt, List.getD_eq_getElem?_getD, List.getD_eq_getElem?_getD,
    List.append_assoc, List.getElem?_append_right (Nat.le_add_right _ _), Nat.add_sub_cancel_left,
    List.getElem?_append_left h]

/-- A descriptor of another type is passed over as a whole. -/
theorem IsOtherDescriptor.extracts {p : List UInt8} (hp : IsOtherDescriptor p)
    (h : Extracts (before ++ p ++ rest) (before ++ p).length configurations) :
    Extracts (before ++ p ++ rest) before.length configurations := by
  intro fuel hfuel
  have hlen : (before ++ p ++ rest).length = before.length + p.length + rest.length := by
    rw [List.length_append, List.length_append]
  have htwo := hp.two_le
  obtain ⟨fuel, rfl⟩ : ∃ n, fuel = n + 1 := ⟨fuel - 1, by omega⟩
  have hlength : byteAt (before ++ p ++ rest) before.length = byteAt p 0 :=
    byteAt_append before rest p (i := 0) (by omega)
  have htype := byteAt_append before rest p (i := 1) (by omega)
  rw [extractFrom, if_pos (by omega)]
  simp only [hlength, htype, hp.length, hp.type, false_and, if_false]
  rw [if_neg (by omega), ← List.length_append]
  exact h fuel (by rw [List.length_append]; omega)

/-- A configuration whose header fits is cut out as a whole: none of the descriptors in it is
    looked at. -/
theorem IsConfiguration.extracts {c : List UInt8} (hc : IsConfiguration c)
    (h : Extracts (before ++ c ++ rest) (before ++ c).length configurations) :
    Extracts (before ++ c ++ rest) before.length (c :: configurations) := by
  intro fuel hfuel
  have hlen : (before ++ c ++ rest).length = before.length + c.length + rest.length := by
    rw [List.length_append, List.length_append]
  have hnine := hc.bLength
  have hfits := hc.fits
  have htotal : (byteAt c 2).toNat + 256 * (byteAt c 3).toNat = c.length := hc.length.symm
  obtain ⟨fuel, rfl⟩ : ∃ n, fuel = n + 1 := ⟨fuel - 1, by omega⟩
  have hlength : byteAt (before ++ c ++ rest) before.length = byteAt c 0 :=
    byteAt_append before rest c (i := 0) (by omega)
  have hbyte : ∀ i, i < 4 → byteAt (before ++ c ++ rest) (before.length + i) = byteAt c i :=
    fun i hi => byteAt_append before rest c (by omega)
  rw [extractFrom, if_pos (by omega)]
  simp only [hlength, hbyte 1 (by omega), hbyte 2 (by omega), hbyte 3 (by omega), hc.type,
    htotal, hnine, hfits, true_and]
  rw [if_neg (by omega), if_pos trivial, if_pos (by omega), ← List.length_append,
    h fuel (by rw [List.length_append]; omega), List.append_assoc, List.drop_left, List.take_left]

/-- A chain of other descriptors is passed over. -/
theorem extracts_chain {chain : List (List UInt8)} (hchain : ∀ p ∈ chain, IsOtherDescriptor p)
    (h : Extracts (before ++ chain.flatten ++ rest) (before ++ chain.flatten).length
      configurations) :
    Extracts (before ++ chain.flatten ++ rest) before.length configurations := by
  induction chain generalizing before with
  | nil => simpa using h
  | cons p chain ih =>
    have hrest := ih (before ++ p) fun q hq => hchain q (List.mem_cons_of_mem _ hq)
    simp only [List.flatten_cons, List.append_assoc] at h hrest ⊢
    have hp := @IsOtherDescriptor.extracts before (chain.flatten ++ rest) configurations p
      (hchain p List.mem_cons_self)
    simp only [List.append_assoc] at hp
    exact hp (hrest h)

/-- A configuration, and the descriptors of other types in front of it. -/
structure ConfigurationItem where
  before : List (List UInt8)
  configuration : List UInt8
  isOther : ∀ p ∈ before, IsOtherDescriptor p
  isConfiguration : IsConfiguration configuration

def ConfigurationItem.bytes (item : ConfigurationItem) : List UInt8 :=
  item.before.flatten ++ item.configuration

/-- Configurations with other descriptors in between, and behind the last one. -/
theorem extracts_items {items : List ConfigurationItem} {behind : List (List UInt8)}
    (hbehind : ∀ p ∈ behind, IsOtherDescriptor p) :
    Extracts (before ++ items.flatMap (·.bytes) ++ behind.flatten) before.length
      (items.map (·.configuration)) := by
  induction items generalizing before with
  | nil =>
    have hend := extracts_end (before ++ behind.flatten)
    have hchain := @extracts_chain before [] [] behind hbehind
    rw [List.append_nil] at hchain
    simpa using hchain hend
  | cons item items ih =>
    have hrest := ih (before ++ item.before.flatten ++ item.configuration)
    have hconf := @IsConfiguration.extracts (before ++ item.before.flatten)
      (items.flatMap (·.bytes) ++ behind.flatten) (items.map (·.configuration))
      item.configuration item.isConfiguration
    have hchain := @extracts_chain before
      (item.configuration ++ (items.flatMap (·.bytes) ++ behind.flatten))
      (item.configuration :: items.map (·.configuration)) item.before item.isOther
    simp only [List.flatMap_cons, List.map_cons, ConfigurationItem.bytes, List.append_assoc]
      at hrest hconf hchain ⊢
    exact hchain (hconf hrest)

/-- **The loop returns the configurations of a chain of descriptors.** -/
theorem extractConfigurationDescriptors_items (items : List ConfigurationItem)
    {behind : List (List UInt8)} (hbehind : ∀ p ∈ behind, IsOtherDescriptor p) :
    extractConfigurationDescriptors (items.flatMap (·.bytes) ++ behind.flatten) =
      items.map (·.configuration) :=
  extracts_items [] hbehind _ (Nat.le_add_left _ _)

end Extracts

/-! ## What the client is served -/

/-- A configuration the host described is served as it is, up to the length asked for. -/
theorem handleUrb_rawConfiguration {prof : Profile} {d : UsbDevice} {setup : SetupPacket}
    {c : List UInt8} (hgets : setup.Gets .configuration)
    (hc : d.rawConfigurationDescriptors[setup.value.toUInt8.toNat]? = some c) {ep : UsbEndpoint}
    (hep : EndpointAttributes.fromU8 ep.attributes = some .control) (hdir : ep.direction = .in)
    (intf : Option UsbInterface) (len : UInt32) (outData : List UInt8) (host : Host) :
    (d.handleUrb prof ep intf len setup outData).outcome host =
      .ok (c.take setup.length.toNat) := by
  have hraw : d.rawConfigurationDescriptor setup.value.toUInt8 setup.length =
      some (c.take setup.length.toNat) := by
    rw [UsbDevice.rawConfigurationDescriptor, hc]
    rfl
  rw [UsbDevice.handleUrb_gets hgets hep hdir, UsbDevice.getDescriptor, hgets.type]
  dsimp only
  rw [hraw]
  rfl

/-- **Configurations whose header fits are preserved exactly.** For all bytes the loop ends in
    range, and returns disjoint slices in order, each a configuration as long as its
    `wTotalLength`. For configurations with chains of other descriptors around them it returns
    exactly these configurations, and a device that keeps them serves the `i`-th one to
    `GET_DESCRIPTOR(Configuration, i)`, cut at `wLength`. -/
theorem configurationDescriptors_preserved :
    (∀ descriptors : List UInt8,
      extractLoop descriptors (descriptors.length + 1) 0 [] =
        some (.ok (extractConfigurationDescriptors descriptors)) ∧
      SlicesFrom descriptors 0 (extractConfigurationDescriptors descriptors) ∧
      ∀ c ∈ extractConfigurationDescriptors descriptors, IsConfiguration c) ∧
    ∀ (items : List ConfigurationItem) (behind : List (List UInt8)),
      (∀ p ∈ behind, IsOtherDescriptor p) →
      extractConfigurationDescriptors (items.flatMap (·.bytes) ++ behind.flatten) =
        items.map (·.configuration) ∧
      ∀ (prof : Profile) (d : UsbDevice) (setup : SetupPacket) (item : ConfigurationItem),
        d.rawConfigurationDescriptors =
          extractConfigurationDescriptors (items.flatMap (·.bytes) ++ behind.flatten) →
        setup.Gets .configuration → items[setup.value.toUInt8.toNat]? = some item →
        ∀ (ep : UsbEndpoint) (intf : Option UsbInterface) (len : UInt32) (outData : List UInt8)
          (host : Host), EndpointAttributes.fromU8 ep.attributes = some .control →
          ep.direction = .in →
          (d.handleUrb prof ep intf len setup outData).outcome host =
            .ok (item.configuration.take setup.length.toNat) := by
  refine ⟨fun descriptors => ⟨?_, ?_, ?_⟩, fun items behind hbehind => ?_⟩
  · exact extractLoop_eq (Nat.le_add_left _ 0)
  · exact extractFrom_slices descriptors descriptors.length 0
  · exact fun c => isConfiguration_of_mem_extractFrom
  have hitems := extractConfigurationDescriptors_items items hbehind
  refine ⟨hitems, fun prof d setup item hraw hgets hitem ep intf len outData host hep hdir => ?_⟩
  refine handleUrb_rawConfiguration hgets ?_ hep hdir intf len outData host
  rw [hraw, hitems, List.getElem?_map, hitem]
  rfl

/-- A device descriptor, and two configurations behind it. -/
def keyboardItems : List ConfigurationItem :=
  [{ before := [[18, 1, 0, 2, 0, 0, 0, 64, 0x3a, 0x30, 1, 0x10, 2, 1, 1, 2, 3, 1]]
     configuration := [9, 2, 18, 0, 1, 1, 0, 0x80, 50, 9, 4, 0, 0, 0, 2, 2, 0, 0]
     isOther := by
       intro p hp
       rcases List.mem_singleton.mp hp with rfl
       exact ⟨rfl, by decide, by decide⟩
     isConfiguration := ⟨by decide, rfl, rfl, by decide⟩ },
   { before := []
     configuration := [9, 2, 9, 0, 0, 2, 0, 0x80, 100]
     isOther := by simp
     isConfiguration := ⟨by decide, rfl, rfl, by decide⟩ }]

/-- `GET_DESCRIPTOR(Configuration, 1)` for the header only. -/
def getSecondConfiguration : SetupPacket where
  requestType := 0x80
  request := 6
  value := 0x0201
  length := 9

theorem configurationDescriptors_preserved_second :
    (({ rawConfigurationDescriptors := extractConfigurationDescriptors
          (keyboardItems.flatMap (·.bytes) ++ ([] : List (List UInt8)).flatten) } :
      UsbDevice).handleUrb .release ep0InEndpoint none 9 getSecondConfiguration []).outcome
        Host.disconnected = .ok [9, 2, 9, 0, 0, 2, 0, 0x80, 100] :=
  (configurationDescriptors_preserved.2 keyboardItems [] (fun _ hp => nomatch hp)).2 .release _
    getSecondConfiguration _ rfl ⟨rfl, rfl, rfl⟩ rfl ep0InEndpoint none 9 [] Host.disconnected
    rfl rfl

/-- **A header that does not fit loses its configuration**: the loop takes `bLength` bytes to be
    there before it looks at the type. -/
theorem configurationDescriptors_not_always_preserved :
    ¬ ∀ configurations : List (List UInt8),
      (∀ c ∈ configurations, 9 ≤ (byteAt c 0).toNat ∧
        byteAt c 1 = DescriptorType.configuration.toU8 ∧ c.length = wTotalLength c) →
      extractConfigurationDescriptors configurations.flatten = configurations := by
  intro h
  have hlost := h [[20, 2, 9, 0, 1, 1, 0, 0x80, 50]] fun c hc => by
    rcases List.mem_singleton.mp hc with rfl
    exact ⟨by decide, rfl, rfl⟩
  exact absurd hlost (by decide)

end Lusbip
