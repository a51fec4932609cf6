import Mathlib.Data.Finset.Card
import Mathlib.Order.Interval.Finset.Nat
import Lusbip.Lib.Transition
import Lusbip.Usb.Device

/-!
# The strings of a device

Four names and the interfaces own entries of the string pool, by index, and `0` is the index of no
string. To set a name is to give back the entry it has and to take the lowest free index for the new
one; so indexes come to new owners, and it takes an invariant to see that no two owners meet. The
search for a free index is over before it has tried the last one where arithmetic is checked.
-/

namespace Lusbip

open Lib
open Lib.Transition

/-- The names of a device that can be set. -/
inductive NameField where
  | configuration
  | manufacturer
  | product
  | serial
  deriving DecidableEq, Repr

namespace UsbDevice

/-! ## The operations -/

/-- The string index of a name. -/
def nameIndex (d : UsbDevice) : NameField → UInt8
  | .configuration => d.stringConfiguration
  | .manufacturer => d.stringManufacturer
  | .product => d.stringProduct
  | .serial => d.stringSerial

/-- The index of a name is noted in its field. -/
def setNameIndex (d : UsbDevice) (i : UInt8) : NameField → UsbDevice
  | .configuration => { d with stringConfiguration := i }
  | .manufacturer => { d with stringManufacturer := i }
  | .product => { d with stringProduct := i }
  | .serial => { d with stringSerial := i }

/-- `string_pool.remove`, of the index of an owner that has one. -/
def takeString (d : UsbDevice) (i : UInt8) : Option String × UsbDevice :=
  if i ≠ 0 then
    (d.stringAt i, { d with stringPool := d.stringPool.filter fun e => e.1 ≠ i })
  else (none, d)

/-- `set_configuration_name` and its like: the old value, if present, and the device. -/
def setName (prof : Profile) (d : UsbDevice) (field : NameField) (name : String) :
    Outcome (Option String × UsbDevice) := do
  let (old, d) := d.takeString (d.nameIndex field)
  let (i, d) ← d.newString prof name
  .ok (old, d.setNameIndex i field)

/-- `unset_configuration_name` and its like. -/
def unsetName (d : UsbDevice) (field : NameField) : Option String × UsbDevice :=
  let (old, d) := d.takeString (d.nameIndex field)
  (old, d.setNameIndex 0 field)

/-- The configuration gets a name, in place of the one it had. -/
def setConfigurationName (prof : Profile) (d : UsbDevice) (name : String) :
    Outcome (Option String × UsbDevice) := d.setName prof .configuration name

/-- The configuration has no name any more. -/
def unsetConfigurationName (d : UsbDevice) : Option String × UsbDevice := d.unsetName .configuration

/-- The device gets a serial number, in place of the one it had. -/
def setSerialNumber (prof : Profile) (d : UsbDevice) (name : String) :
    Outcome (Option String × UsbDevice) := d.setName prof .serial name

/-- The device has no serial number any more. -/
def unsetSerialNumber (d : UsbDevice) : Option String × UsbDevice := d.unsetName .serial

/-- The product gets a name, in place of the one it had. -/
def setProductName (prof : Profile) (d : UsbDevice) (name : String) :
    Outcome (Option String × UsbDevice) := d.setName prof .product name

/-- The product has no name any more. -/
def unsetProductName (d : UsbDevice) : Option String × UsbDevice := d.unsetName .product

/-- The manufacturer gets a name, in place of the one it had. -/
def setManufacturerName (prof : Profile) (d : UsbDevice) (name : String) :
    Outcome (Option String × UsbDevice) := d.setName prof .manufacturer name

/-- The manufacturer has no name any more. -/
def unsetManufacturerName (d : UsbDevice) : Option String × UsbDevice := d.unsetName .manufacturer

/-- The index for a name, if there is one: `name.map(..).unwrap_or(0)`. -/
def newStringIf (prof : Profile) (d : UsbDevice) : Option String → Outcome (UInt8 × UsbDevice)
  | some name => d.newString prof name
  | none => .ok (0, d)

/-- An interface more. Its name, if it has one, is put into the pool of strings. -/
def withInterface (prof : Profile) (d : UsbDevice)
    (interfaceClass interfaceSubclass interfaceProtocol : UInt8) (name : Option String)
    (endpoints : List UsbEndpoint) (handler : Interface) : Outcome UsbDevice := do
  let (stringInterface, d) ← d.newStringIf prof name
  .ok
    { d with
      interfaces := d.interfaces ++
        [{ interfaceClass, interfaceSubclass, interfaceProtocol, endpoints, stringInterface,
           classSpecificDescriptor := [], handler }] }

end UsbDevice

/-- What may be done to the strings of a device. -/
inductive StringOp where
  | setConfigurationName (name : String)
  | unsetConfigurationName
  | setSerialNumber (name : String)
  | unsetSerialNumber
  | setProductName (name : String)
  | unsetProductName
  | setManufacturerName (name : String)
  | unsetManufacturerName
  | withInterface (interfaceClass interfaceSubclass interfaceProtocol : UInt8)
      (name : Option String) (endpoints : List UsbEndpoint) (handler : Interface)

/-- The device afterwards. -/
def StringOp.perform (prof : Profile) (d : UsbDevice) : StringOp → Outcome UsbDevice
  | .setConfigurationName name => (d.setConfigurationName prof name).map (·.2)
  | .unsetConfigurationName => .ok d.unsetConfigurationName.2
  | .setSerialNumber name => (d.setSerialNumber prof name).map (·.2)
  | .unsetSerialNumber => .ok d.unsetSerialNumber.2
  | .setProductName name => (d.setProductName prof name).map (·.2)
  | .unsetProductName => .ok d.unsetProductName.2
  | .setManufacturerName name => (d.setManufacturerName prof name).map (·.2)
  | .unsetManufacturerName => .ok d.unsetManufacturerName.2
  | .withInterface interfaceClass interfaceSubclass interfaceProtocol name endpoints handler =>
      d.withInterface prof interfaceClass interfaceSubclass interfaceProtocol name endpoints handler

/-- The indexes in use. -/
def UsbDevice.usedIndexes (d : UsbDevice) : List UInt8 := d.stringPool.map (·.1)

/-! ## Owners -/

/-- Who may own an entry of the pool: a name, or an interface by its position. -/
inductive StringOwner where
  | name (field : NameField)
  | interface (n : Nat)
  deriving DecidableEq, Repr

namespace UsbDevice

/-- The index an owner has; `0` if it has none, or is not there. -/
def indexOf (d : UsbDevice) : StringOwner → UInt8
  | .name field => d.nameIndex field
  | .interface n => (d.interfaces[n]?.map (·.stringInterface)).getD 0

end UsbDevice

namespace StringOp

/-- Whose string the operation is about. -/
def owner (d : UsbDevice) : StringOp → StringOwner
  | .setConfigurationName _ | .unsetConfigurationName => .name .configuration
  | .setSerialNumber _ | .unsetSerialNumber => .name .serial
  | .setProductName _ | .unsetProductName => .name .product
  | .setManufacturerName _ | .unsetManufacturerName => .name .manufacturer
  | .withInterface _ _ _ _ _ _ => .interface d.interfaces.length

/-- The text it is given, if any. -/
def text : StringOp → Option String
  | .setConfigurationName name | .setSerialNumber name | .setProductName name
  | .setManufacturerName name => some name
  | .withInterface _ _ _ name _ _ => name
  | _ => none

/-- The device as the search for an index finds it, the owner's old entry given back. -/
def freed (d : UsbDevice) (op : StringOp) : UsbDevice := (d.takeString (d.indexOf (op.owner d))).2

/-- The owner is given its index. -/
def assign (i : UInt8) (d : UsbDevice) : StringOp → UsbDevice
  | .setConfigurationName _ | .unsetConfigurationName => d.setNameIndex i .configuration
  | .setSerialNumber _ | .unsetSerialNumber => d.setNameIndex i .serial
  | .setProductName _ | .unsetProductName => d.setNameIndex i .product
  | .setManufacturerName _ | .unsetManufacturerName => d.setNameIndex i .manufacturer
  | .withInterface interfaceClass interfaceSubclass interfaceProtocol _ endpoints handler =>
      { d with
        interfaces := d.interfaces ++
          [{ interfaceClass, interfaceSubclass, interfaceProtocol, endpoints,
             stringInterface := i, classSpecificDescriptor := [], handler }] }

variable {prof : Profile} {d e : UsbDevice} {op : StringOp}

/-- A new interface has nothing to give back. -/
theorem freed_withInterface (d : UsbDevice)
    (interfaceClass interfaceSubclass interfaceProtocol : UInt8) (name : Option String)
    (endpoints : List UsbEndpoint) (handler : Interface) :
    (withInterface interfaceClass interfaceSubclass interfaceProtocol name endpoints
      handler).freed d = d := by
  have hnone : d.indexOf (.interface d.interfaces.length) = 0 := by
    simp [UsbDevice.indexOf]
  rw [freed, owner, hnone, UsbDevice.takeString, if_neg (not_not.mpr rfl)]

/-- **Every operation is one**: the owner's entry is given back, and an index is found for the text
    it is given. -/
theorem perform_eq (prof : Profile) (d : UsbDevice) (op : StringOp) :
    op.perform prof d = ((op.freed d).newStringIf prof op.text).map fun r => op.assign r.1 r.2 := by
  have hset : ∀ field name, (d.setName prof field name).map (·.2)
      = (((d.takeString (d.nameIndex field)).2).newString prof name).map
          fun r => r.2.setNameIndex r.1 field := by
    intro field name
    rw [UsbDevice.setName]
    obtain ⟨old, e⟩ := d.takeString (d.nameIndex field)
    dsimp only
    cases e.newString prof name <;> rfl
  cases op with
  | setConfigurationName name => exact hset .configuration name
  | setSerialNumber name => exact hset .serial name
  | setProductName name => exact hset .product name
  | setManufacturerName name => exact hset .manufacturer name
  | unsetConfigurationName => rfl
  | unsetSerialNumber => rfl
  | unsetProductName => rfl
  | unsetManufacturerName => rfl
  | withInterface interfaceClass interfaceSubclass interfaceProtocol name endpoints handler =>
    rw [freed_withInterface, perform, UsbDevice.withInterface, text]
    cases d.newStringIf prof name <;> rfl

/-- Giving an entry back changes no index. -/
theorem indexOf_freed (d : UsbDevice) (op : StringOp) (o : StringOwner) :
    (op.freed d).indexOf o = d.indexOf o := by
  rw [freed, UsbDevice.takeString]
  split <;> rfl

theorem owner_freed (d : UsbDevice) (op op' : StringOp) : op.owner (op'.freed d) = op.owner d := by
  have hinterfaces : (op'.freed d).interfaces = d.interfaces := by
    rw [freed, UsbDevice.takeString]
    split <;> rfl
  cases op <;> simp [owner, hinterfaces]

/-- Only the owner gets the index. -/
theorem indexOf_assign (i : UInt8) (d : UsbDevice) (op : StringOp) (o : StringOwner) :
    (op.assign i d).indexOf o = if o = op.owner d then i else d.indexOf o := by
  have hset : ∀ field, (d.setNameIndex i field).indexOf o
      = if o = .name field then i else d.indexOf o := by
    intro field
    cases o with
    | interface n => cases field <;> rfl
    | name other =>
      cases field <;> cases other <;> simp [UsbDevice.indexOf, UsbDevice.nameIndex,
        UsbDevice.setNameIndex]
  cases op with
  | withInterface interfaceClass interfaceSubclass interfaceProtocol name endpoints handler =>
    cases o with
    | name field => rfl
    | interface n =>
      rcases Nat.lt_trichotomy n d.interfaces.length with h | h | h
      · have hne : StringOwner.interface n ≠ .interface d.interfaces.length := by simp; omega
        simp [assign, owner, UsbDevice.indexOf, List.getElem?_append_left h, hne]
      · subst h
        simp [assign, owner, UsbDevice.indexOf]
      · have hne : StringOwner.interface n ≠ .interface d.interfaces.length := by simp; omega
        have hpast : ¬ n < (d.interfaces.length + 1) := by omega
        simp [assign, owner, UsbDevice.indexOf, hne, h.le, hpast]
  | _ => exact hset _

theorem stringPool_assign (i : UInt8) (d : UsbDevice) (op : StringOp) :
    (op.assign i d).stringPool = d.stringPool := by
  cases op <;> rfl

@[simp] theorem stringAt_assign (i j : UInt8) (d : UsbDevice) (op : StringOp) :
    (op.assign i d).stringAt j = d.stringAt j := by
  rw [UsbDevice.stringAt, UsbDevice.stringAt, stringPool_assign]

@[simp] theorem usedIndexes_assign (i : UInt8) (d : UsbDevice) (op : StringOp) :
    (op.assign i d).usedIndexes = d.usedIndexes := by
  rw [UsbDevice.usedIndexes, UsbDevice.usedIndexes, stringPool_assign]

/-- The device of an operation, before the index is assigned. -/
def withString (d : UsbDevice) (i : UInt8) (text : String) : UsbDevice :=
  { d with stringPool := (i, text) :: d.stringPool }

/-- Afterwards the owner has the index, and the others have what they had. -/
theorem indexOf_assign_freed (i : UInt8) (d : UsbDevice) (op : StringOp) (o : StringOwner) :
    (op.assign i (op.freed d)).indexOf o = if o = op.owner d then i else d.indexOf o := by
  rw [indexOf_assign, owner_freed, indexOf_freed]

theorem indexOf_assign_withString (i : UInt8) (text : String) (d : UsbDevice) (op : StringOp)
    (o : StringOwner) :
    (op.assign i (withString (op.freed d) i text)).indexOf o
      = if o = op.owner d then i else d.indexOf o := by
  have howner : op.owner (withString (op.freed d) i text) = op.owner d :=
    (owner_freed d op op) ▸ by cases op <;> rfl
  have hindex : (withString (op.freed d) i text).indexOf o = d.indexOf o :=
    (indexOf_freed d op o) ▸ by cases o <;> rfl
  rw [indexOf_assign, howner, hindex]

end StringOp

/-! ## The pool -/

namespace UsbDevice

variable {prof : Profile} {d : UsbDevice} {i j : UInt8} {s : String}

/-- A pool as a hash map is one: no index twice. `0` is no index, and the checked build does not
    come to the last one. -/
structure PoolSound (prof : Profile) (d : UsbDevice) : Prop where
  nodup : d.usedIndexes.Nodup
  inRange : ∀ i ∈ d.usedIndexes, 1 ≤ i.toNat ∧ i.toNat < stringEnd prof

theorem stringAt_eq_none_iff : d.stringAt i = none ↔ i ∉ d.usedIndexes := by
  rw [stringAt, List.lookup_eq_none_iff, usedIndexes, List.mem_map]
  simp only [not_exists, not_and, bne_iff_ne]
  exact forall₂_congr fun e _ => ne_comm

theorem stringAt_takeString (hne : j ≠ i) : (d.takeString i).2.stringAt j = d.stringAt j := by
  unfold takeString
  split
  · change (d.stringPool.filter fun e => e.1 ≠ i).lookup j = d.stringPool.lookup j
    induction d.stringPool with
    | nil => rfl
    | cons e pool ih =>
      by_cases he : e.1 = i
      · have hj : (j == e.1) = false := by simpa [he] using hne
        rw [List.filter_cons_of_neg (by simpa using he), ih, List.lookup_cons, hj]
      · rw [List.filter_cons_of_pos (by simpa using he), List.lookup_cons, List.lookup_cons, ih]
  · rfl

theorem usedIndexes_takeString (d : UsbDevice) (i : UInt8) :
    (d.takeString i).2.usedIndexes.Sublist d.usedIndexes := by
  unfold takeString
  split
  · exact List.filter_sublist.map _
  · exact List.Sublist.refl _

theorem PoolSound.takeString (h : d.PoolSound prof) (i : UInt8) :
    (d.takeString i).2.PoolSound prof where
  nodup := h.nodup.sublist (usedIndexes_takeString d i)
  inRange j hj := h.inRange j ((usedIndexes_takeString d i).subset hj)

theorem length_usedIndexes (d : UsbDevice) : d.usedIndexes.length = d.stringPool.length :=
  List.length_map _

/-- The indexes the search may come to. -/
def candidates (prof : Profile) : Finset Nat := Finset.Ico 1 (stringEnd prof)

theorem PoolSound.subset (h : d.PoolSound prof) :
    (d.usedIndexes.map (·.toNat)).toFinset ⊆ candidates prof := by
  intro n hn
  obtain ⟨i, hi, rfl⟩ := List.mem_map.mp (List.mem_toFinset.mp hn)
  exact Finset.mem_Ico.mpr (h.inRange i hi)

theorem PoolSound.card (h : d.PoolSound prof) :
    (d.usedIndexes.map (·.toNat)).toFinset.card = d.stringPool.length := by
  rw [List.toFinset_card_of_nodup (h.nodup.map fun _ _ heq => UInt8.toNat_inj.mp heq),
    List.length_map, length_usedIndexes]

/-- A pool without room has every index that the search may come to. -/
theorem PoolSound.full (h : d.PoolSound prof)
    (hfull : stringEnd prof ≤ d.stringPool.length + 1) (hi : 1 ≤ i.toNat)
    (hend : i.toNat < stringEnd prof) : d.stringAt i ≠ none := by
  have hcard : (candidates prof).card ≤ (d.usedIndexes.map (·.toNat)).toFinset.card := by
    rw [h.card, candidates, Nat.card_Ico]
    omega
  -- The indexes in use are as many as there are candidates, so they are all of them.
  have heq := Finset.eq_of_subset_of_card_le h.subset hcard
  have hmem : i.toNat ∈ (d.usedIndexes.map (·.toNat)).toFinset := by
    rw [heq]
    exact Finset.mem_Ico.mpr ⟨hi, hend⟩
  obtain ⟨j, hj, hji⟩ := List.mem_map.mp (List.mem_toFinset.mp hmem)
  rw [ne_eq, stringAt_eq_none_iff, not_not]
  exact UInt8.toNat_inj.mp hji ▸ hj

/-- Where every index up to the last is taken, the checked build panics. -/
theorem newStringFrom_panics {fuel : Nat} (hfuel : 255 < fuel + i.toNat)
    (hused : ∀ j : UInt8, i.toNat ≤ j.toNat → j.toNat < 255 → d.stringAt j ≠ none) :
    newStringFrom .dev d s fuel i = Outcome.panic .arithmeticOverflow := by
  have hle : i.toNat < 256 := i.toNat_lt
  induction fuel generalizing i with
  | zero => omega
  | succ fuel ih =>
    rw [newStringFrom]
    by_cases hlast : i = 255
    · rw [if_pos ⟨rfl, hlast⟩]
    · rw [if_neg fun h => hlast h.2]
      have hlt : i.toNat < 255 := by
        have hne : i.toNat ≠ (255 : UInt8).toNat := fun h => hlast (UInt8.toNat_inj.mp h)
        have hmax : (255 : UInt8).toNat = 255 := rfl
        omega
      have hsucc : (i + 1).toNat = i.toNat + 1 := by
        rw [UInt8.toNat_add]
        exact Nat.mod_eq_of_lt (by simp; omega)
      cases hs : d.stringAt i with
      | none => exact absurd hs (hused i (Nat.le_refl _) hlt)
      | some t =>
        refine ih (by omega) (fun j hj hend => hused j (by omega) hend) ?_
        omega

theorem PoolSound.newString_panics (h : d.PoolSound .dev)
    (hfull : 254 ≤ d.stringPool.length) :
    d.newString .dev s = Outcome.panic .arithmeticOverflow := by
  refine newStringFrom_panics (by decide) fun j hj hend => h.full ?_ hj hend
  have hdev : stringEnd .dev = 255 := rfl
  omega

end UsbDevice

/-! ## A device and the texts of its owners -/

/-- A device, with the text each owner was given last, and every index `new_string` has returned
    with the indexes that were in use when it was called. -/
structure Labelled where
  device : UsbDevice
  texts : StringOwner → Option String
  issued : List (UInt8 × List UInt8)

namespace Labelled

/-- The index an operation has taken, if it has needed one. -/
def issues (d d' : UsbDevice) (op : StringOp) : List (UInt8 × List UInt8) :=
  match op.text with
  | some _ => [(d'.indexOf (op.owner d), (op.freed d).usedIndexes)]
  | none => []

/-- The device after an operation, with what is noted of it. -/
def after (s : Labelled) (op : StringOp) (d : UsbDevice) : Labelled where
  device := d
  texts := Function.update s.texts (op.owner s.device) op.text
  issued := s.issued ++ issues s.device d op

@[simp] theorem device_after (s : Labelled) (op : StringOp) (d : UsbDevice) :
    (s.after op d).device = d := rfl

theorem texts_after_owner (s : Labelled) (op : StringOp) (d : UsbDevice) :
    (s.after op d).texts (op.owner s.device) = op.text := Function.update_self ..

theorem texts_after {s : Labelled} {op : StringOp} {d : UsbDevice} {o : StringOwner}
    (h : o ≠ op.owner s.device) : (s.after op d).texts o = s.texts o := Function.update_of_ne h ..

/-- An operation on a device that is still there: it may panic, and then there is no next one. -/
def step (prof : Profile) : Outcome Labelled → StringOp → Option (Outcome Labelled)
  | .error _, _ => none
  | .ok s, op => some ((op.perform prof s.device).map (s.after op))

/-- **The strings are consistent**: the device is there, every index was free and not `0` when it
    was taken, an owner with an index shares it with nobody and finds its own text under it, and
    the owners with an index are those that were given a text. -/
structure Consistent (s : Labelled) : Prop where
  fresh : ∀ e ∈ s.issued, e.1 ≠ 0 ∧ e.1 ∉ e.2
  distinct : ∀ o o', s.device.indexOf o ≠ 0 → s.device.indexOf o = s.device.indexOf o' → o = o'
  named : ∀ o text, s.texts o = some text → s.device.indexOf o ≠ 0 ∧
    s.device.stringAt (s.device.indexOf o) = some text
  unnamed : ∀ o, s.texts o = none → s.device.indexOf o = 0

/-- The state of a run: the last operation has returned, and all is well. -/
def Returned (Q : Labelled → Prop) : Outcome Labelled → Prop
  | .ok s => Q s
  | .error _ => False

/-- A device as `UsbDevice::new` or `Default` makes it. -/
inductive Starts (prof : Profile) : Labelled → Prop where
  | default : Starts prof { device := {}, texts := fun _ => none, issued := [] }
  | new (index : UInt32) (d : UsbDevice) (h : UsbDevice.new prof index = .ok d) :
      Starts prof
        { device := d
          texts := fun
            | .name .configuration => some "Default Configuration"
            | .name .manufacturer => some "Manufacturer"
            | .name .product => some "Product"
            | .name .serial => some "Serial"
            | .interface _ => none
          issued := [] }

/-- A string is added to a pool that holds fewer than `n`. -/
def AddsBelow (n : Nat) : Outcome Labelled → StringOp → Prop
  | .ok s, op => op.text ≠ none → (op.freed s.device).stringPool.length < n
  | .error _, _ => True

/-- The search is not for the last index, or its arithmetic wraps. -/
def SparesLast (prof : Profile) (o : Outcome Labelled) (op : StringOp) : Prop :=
  prof = .release ∨ AddsBelow 254 o op

variable {prof : Profile} {s : Labelled} {op : StringOp} {d : UsbDevice}

/-- What a run keeps. -/
structure Inv (prof : Profile) (s : Labelled) : Prop where
  pool : s.device.PoolSound prof
  consistent : s.Consistent

/-- The pool as the search finds it has neither the owner's old entry, nor lost another one. -/
theorem Inv.stringAt_freed (h : Inv prof s) (op : StringOp) {o : StringOwner} {text : String}
    (ho : o ≠ op.owner s.device) (htext : s.texts o = some text) :
    (op.freed s.device).stringAt (s.device.indexOf o) = some text := by
  obtain ⟨hne, hat⟩ := h.consistent.named o text htext
  rw [StringOp.freed, UsbDevice.stringAt_takeString, hat]
  exact fun heq => ho (h.consistent.distinct o _ hne heq)

/-- What an owner of an index has is not free. -/
theorem Inv.indexOf_ne (h : Inv prof s) (op : StringOp) {o : StringOwner} {i : UInt8}
    (ho : o ≠ op.owner s.device) (hne : i ≠ 0) (hfree : (op.freed s.device).stringAt i = none) :
    s.device.indexOf o ≠ i := by
  rintro rfl
  cases htext : s.texts o with
  | none => exact hne (h.consistent.unnamed o htext)
  | some text => exact nomatch hfree.symm.trans (h.stringAt_freed op ho htext)

/-- **One owner changes**: where its index fits the text it is given, where nobody else has that
    index and nobody else loses a text, the strings stay consistent. -/
theorem Consistent.reassign (h : s.Consistent) {i : UInt8}
    (hindex : ∀ o, d.indexOf o = if o = op.owner s.device then i else s.device.indexOf o)
    (hissued : ∀ e ∈ issues s.device d op, e.1 ≠ 0 ∧ e.1 ∉ e.2)
    (hapart : ∀ o, o ≠ op.owner s.device → i ≠ 0 → s.device.indexOf o ≠ i)
    (hkept : ∀ o text, o ≠ op.owner s.device → s.texts o = some text →
      d.stringAt (s.device.indexOf o) = some text)
    (hgiven : ∀ text, op.text = some text → i ≠ 0 ∧ d.stringAt i = some text)
    (hnone : op.text = none → i = 0) : (s.after op d).Consistent where
  fresh := by
    intro e he
    rcases List.mem_append.mp he with he | he
    · exact h.fresh e he
    · exact hissued e he
  distinct := by
    intro o o' hne heq
    rw [device_after, hindex] at hne heq
    rw [hindex] at heq
    by_cases ho : o = op.owner s.device
    -- The owner's index is one that no other owner has.
    · by_cases ho' : o' = op.owner s.device
      · exact ho.trans ho'.symm
      · rw [if_pos ho] at hne heq
        rw [if_neg ho'] at heq
        exact absurd heq.symm (hapart o' ho' hne)
    · rw [if_neg ho] at hne heq
      by_cases ho' : o' = op.owner s.device
      · rw [if_pos ho'] at heq
        exact absurd heq (hapart o ho (heq ▸ hne))
      · rw [if_neg ho'] at heq
        exact h.distinct o o' hne heq
  named := by
    intro o text ho
    rw [device_after, hindex]
    by_cases howner : o = op.owner s.device
    · rw [howner, texts_after_owner] at ho
      rw [if_pos howner]
      exact hgiven text ho
    · rw [texts_after howner] at ho
      rw [if_neg howner]
      exact ⟨(h.named o text ho).1, hkept o text howner ho⟩
  unnamed := by
    intro o ho
    rw [device_after, hindex]
    by_cases howner : o = op.owner s.device
    · rw [howner, texts_after_owner] at ho
      rw [if_pos howner]
      exact hnone ho
    · rw [texts_after howner] at ho
      rw [if_neg howner]
      exact h.unnamed o ho

/-- An owner without a text has no index. -/
theorem Inv.unset (h : Inv prof s) (htext : op.text = none) :
    Inv prof (s.after op (op.assign 0 (op.freed s.device))) where
  pool := by
    have hfreed : (op.freed s.device).PoolSound prof := h.pool.takeString _
    exact ⟨by simpa using hfreed.nodup, by simpa using hfreed.inRange⟩
  consistent := by
    refine h.consistent.reassign (StringOp.indexOf_assign_freed 0 s.device op) ?_ ?_ ?_ ?_ ?_
    · rw [issues, htext]
      exact List.forall_mem_nil _
    · intro o _ hne
      exact absurd rfl hne
    · intro o text ho hold
      rw [StringOp.stringAt_assign]
      exact h.stringAt_freed op ho hold
    · intro text hgiven
      rw [htext] at hgiven
      cases hgiven
    · intro _
      rfl

/-- An owner with a text has a free index, and the text under it. -/
theorem Inv.set (h : Inv prof s) {text : String} (htext : op.text = some text) {i : UInt8}
    (hone : 1 ≤ i.toNat) (hend : i.toNat < UsbDevice.stringEnd prof)
    (hfree : (op.freed s.device).stringAt i = none) :
    Inv prof (s.after op (op.assign i (StringOp.withString (op.freed s.device) i text))) where
  pool := by
    have hfreed : (op.freed s.device).PoolSound prof := h.pool.takeString _
    have hused : (op.assign i (StringOp.withString (op.freed s.device) i text)).usedIndexes
        = i :: (op.freed s.device).usedIndexes := by
      rw [StringOp.usedIndexes_assign]
      rfl
    refine ⟨?_, ?_⟩
    · rw [device_after, hused]
      exact List.nodup_cons.mpr ⟨UsbDevice.stringAt_eq_none_iff.mp hfree, hfreed.nodup⟩
    · rw [device_after, hused]
      intro j hj
      rcases List.mem_cons.mp hj with rfl | hj
      · exact ⟨hone, hend⟩
      · exact hfreed.inRange j hj
  consistent := by
    have hne : i ≠ 0 := by
      rintro rfl
      exact absurd hone (by decide)
    have hindex := StringOp.indexOf_assign_withString i text s.device op
    refine h.consistent.reassign hindex ?_ ?_ ?_ ?_ ?_
    · rw [issues, htext]
      intro e he
      rw [List.mem_singleton.mp he, hindex, if_pos rfl]
      exact ⟨hne, UsbDevice.stringAt_eq_none_iff.mp hfree⟩
    · intro o ho _
      exact h.indexOf_ne op ho hne hfree
    · intro o t ho hold
      -- The new entry of the pool hides no other.
      have hother : (s.device.indexOf o == i) = false := by
        simpa using h.indexOf_ne op ho hne hfree
      rw [StringOp.stringAt_assign, StringOp.withString, UsbDevice.stringAt, List.lookup_cons,
        hother]
      exact h.stringAt_freed op ho hold
    · intro t hgiven
      rw [htext] at hgiven
      obtain rfl := Option.some.inj hgiven
      refine ⟨hne, ?_⟩
      rw [StringOp.stringAt_assign, StringOp.withString, UsbDevice.stringAt, List.lookup_cons,
        beq_self_eq_true]
    · intro hnone
      rw [htext] at hnone
      cases hnone

/-- **What an operation does**: with room for its text, it returns, keeps the invariant, and the
    pool has the text besides. -/
theorem Inv.returns (h : Inv prof s) (hroom : AddsBelow 255 (.ok s) op)
    (hspares : SparesLast prof (.ok s) op) :
    ∃ t, step prof (.ok s) op = some (.ok t) ∧ Inv prof t ∧
      t.device.stringPool.length
        = (op.freed s.device).stringPool.length + op.text.toList.length := by
  rw [step, StringOp.perform_eq]
  cases htext : op.text with
  | none =>
    refine ⟨_, rfl, h.unset htext, ?_⟩
    rw [device_after, StringOp.stringPool_assign]
    rfl
  | some text =>
    have hadds : op.text ≠ none := htext ▸ Option.some_ne_none text
    have hlength : (op.freed s.device).stringPool.length + 1 < UsbDevice.stringEnd prof := by
      rcases hspares with rfl | hspares
      · have hlt := hroom hadds
        have hend : UsbDevice.stringEnd .release = 256 := rfl
        omega
      · have hlt := hspares hadds
        have hend : 255 ≤ UsbDevice.stringEnd prof := by cases prof <;> decide
        omega
    obtain ⟨i, hone, hend, hfree, hfound⟩ := UsbDevice.newString_finds hlength
    rw [UsbDevice.newStringIf, hfound]
    refine ⟨_, rfl, h.set htext hone hend hfree, ?_⟩
    rw [device_after, StringOp.stringPool_assign]
    rfl

/-- The last index is looked for in vain. -/
theorem Inv.panics (h : Inv prof s) (hspares : ¬ SparesLast prof (.ok s) op) :
    step prof (.ok s) op = some (Outcome.panic .arithmeticOverflow) := by
  rw [SparesLast, not_or, AddsBelow] at hspares
  push Not at hspares
  obtain ⟨hprof, hadds, hfull⟩ := hspares
  obtain ⟨text, htext⟩ := Option.ne_none_iff_exists'.mp hadds
  cases prof with
  | release => exact absurd rfl hprof
  | dev =>
    have hfreed : (op.freed s.device).PoolSound .dev := h.pool.takeString _
    rw [step, StringOp.perform_eq, htext, UsbDevice.newStringIf,
      hfreed.newString_panics hfull]
    rfl

theorem inv_default (prof : Profile) :
    Inv prof { device := {}, texts := fun _ => none, issued := [] } where
  pool := ⟨List.nodup_nil, List.forall_mem_nil _⟩
  consistent := by
    have hindex : ∀ o, ({} : UsbDevice).indexOf o = 0 := by
      intro o
      cases o with
      | name field => cases field <;> rfl
      | interface n => rfl
    exact ⟨List.forall_mem_nil _, fun o _ hne => absurd (hindex o) hne,
      fun _ _ h => absurd h.symm (Option.some_ne_none _), fun o _ => hindex o⟩

/-- The pool of `UsbDevice::new`, and who owns what. -/
theorem new_eq (prof : Profile) (index : UInt32) : ∃ d, UsbDevice.new prof index = .ok d ∧
    d.stringPool = [(4, "Serial"), (3, "Product"), (2, "Manufacturer"), (1, "Default Configuration")] ∧
    d.interfaces = [] ∧ d.stringConfiguration = 1 ∧ d.stringManufacturer = 2 ∧
    d.stringProduct = 3 ∧ d.stringSerial = 4 := by
  cases prof <;> exact ⟨_, rfl, rfl, rfl, rfl, rfl, rfl, rfl⟩

theorem Starts.inv (h : Starts prof s) : Inv prof s := by
  cases h with
  | default => exact inv_default prof
  | new index d hnew =>
    obtain ⟨d', hnew', hpool, hinterfaces, hconfiguration, hmanufacturer, hproduct, hserial⟩ :=
      new_eq prof index
    obtain rfl := Except.ok.inj (hnew.symm.trans hnew')
    -- A new device names its four strings at 1 to 4, and its interfaces have none.
    have hused : d.usedIndexes = [4, 3, 2, 1] := by
      rw [UsbDevice.usedIndexes, hpool]
      rfl
    have hat : ∀ i, d.stringAt i = List.lookup i [(4, "Serial"), (3, "Product"),
        (2, "Manufacturer"), (1, "Default Configuration")] := by
      intro i
      rw [UsbDevice.stringAt, hpool]
    have hinterface : ∀ n, d.indexOf (.interface n) = 0 := by
      intro n
      rw [UsbDevice.indexOf, hinterfaces]
      rfl
    have hname : ∀ field, d.indexOf (.name field) = match field with
        | .configuration => 1
        | .manufacturer => 2
        | .product => 3
        | .serial => 4 := by
      intro field
      cases field
      · exact hconfiguration
      · exact hmanufacturer
      · exact hproduct
      · exact hserial
    refine ⟨⟨?_, ?_⟩, ⟨List.forall_mem_nil _, ?_, ?_, ?_⟩⟩
    · rw [hused]
      decide
    · intro i hi
      have hpos : 1 ≤ i.toNat ∧ i.toNat < 5 := by
        rw [hused] at hi
        simp only [List.mem_cons, List.not_mem_nil, or_false] at hi
        rcases hi with rfl | rfl | rfl | rfl <;> decide
      have hend : 5 ≤ UsbDevice.stringEnd prof := by cases prof <;> decide
      exact ⟨hpos.1, hpos.2.trans_le hend⟩
    · intro o o' hne heq
      cases o with
      | interface n => exact absurd (hinterface n) hne
      | name field =>
        cases o' with
        | interface n => exact absurd (heq.trans (hinterface n)) hne
        | name field' =>
          rw [hname, hname] at heq
          cases field <;> cases field' <;> first | rfl | exact absurd heq (by decide)
    · intro o text ho
      cases o with
      | interface n => cases ho
      | name field =>
        rw [hat, hname]
        cases field <;> cases ho <;> exact ⟨by decide, rfl⟩
    · intro o ho
      cases o with
      | interface n => exact hinterface n
      | name field => cases field <;> cases ho

/-- **String indexes stay consistent, in every run of operations that finds room for its strings,
    exactly where the search does not have to come to the last index or its arithmetic wraps.** -/
theorem strings_consistent_iff (prof : Profile) (hstart : Starts prof s) (ops : List StringOp)
    (hroom : Along (step prof) (AddsBelow 255) (.ok s) ops) :
    Throughout (step prof) (Returned Consistent) (.ok s) ops ↔
      Along (step prof) (SparesLast prof) (.ok s) ops := by
  refine throughout_iff_along_within (I := Returned (Inv prof)) ?_ ?_ ?_ hstart.inv hroom
  · intro o op t hI hadds hspares hstep
    cases o with
    | error e => exact hI.elim
    | ok s =>
      obtain ⟨t', hstep', hI', -⟩ := Inv.returns hI hadds hspares
      obtain rfl := Option.some.inj (hstep.symm.trans hstep')
      exact hI'
  · intro o hI
    cases o with
    | error e => exact hI
    | ok s => exact hI.consistent
  · intro o op t hI _ hstep hQ
    cases o with
    | error e => exact hI.elim
    | ok s =>
      by_contra hspares
      -- A step that does not spare the last index panics, and a panic is not consistent.
      obtain rfl := Option.some.inj (hstep.symm.trans (Inv.panics hI hspares))
      exact hQ

/-! ## The last index -/

/-- A device without any string. -/
def blank : Labelled := { device := {}, texts := fun _ => none, issued := [] }

/-- The product gets a name and loses it. -/
def renamed : List StringOp := [.setProductName "Probe", .unsetProductName]

/-- In a pool that is nearly empty the condition is met. -/
theorem renamed_consistent_iff :
    Throughout (step .dev) (Returned Consistent) (.ok blank) renamed ↔
      Along (step .dev) (SparesLast .dev) (.ok blank) renamed := by
  refine strings_consistent_iff .dev .default renamed fun t ht => ⟨fun _ => by decide, ?_⟩
  obtain rfl := Option.some.inj ht
  exact fun t ht => ⟨fun hadds => absurd rfl hadds, trivial⟩

/-- One more interface with a name. -/
def addPort : StringOp := .withInterface 0xff 0 0 (some "Port") [] ⟨⟨0⟩, 0⟩

/-- The interface that is to have the last index is not made. -/
theorem addPort_overflows (n : Nat) {s : Labelled} (h : Inv .dev s)
    (hlength : s.device.stringPool.length + n = 254) :
    Along (step .dev) (AddsBelow 255) (.ok s) (List.replicate (n + 1) addPort) ∧
      ¬ Throughout (step .dev) (Returned Consistent) (.ok s) (List.replicate (n + 1) addPort) := by
  have hfreed : ∀ d, addPort.freed d = d := fun d => StringOp.freed_withInterface d ..
  induction n generalizing s with
  -- The pool is full but for 255, and taking that overflows.
  | zero =>
    have hadds : AddsBelow 255 (.ok s) addPort := by
      intro _
      rw [hfreed]
      omega
    have hfails : ¬ SparesLast .dev (.ok s) addPort := by
      rintro (hprof | hbelow)
      · cases hprof
      · have hlt := hbelow (Option.some_ne_none _)
        rw [hfreed] at hlt
        omega
    constructor
    · intro t ht
      obtain rfl := Option.some.inj (ht.symm.trans (h.panics hfails))
      exact ⟨hadds, trivial⟩
    · intro hall
      exact hall.2 _ (h.panics hfails)
  -- One more string, and the pool is that much nearer to its end.
  | succ n ih =>
    have hspares : SparesLast .dev (.ok s) addPort := by
      refine Or.inr fun _ => ?_
      rw [hfreed]
      omega
    have hroom : AddsBelow 255 (.ok s) addPort := by
      intro _
      rw [hfreed]
      omega
    obtain ⟨t, ht, hinv, hgrown⟩ := h.returns hroom hspares
    have htext : addPort.text.toList.length = 1 := rfl
    rw [hfreed, htext] at hgrown
    obtain ⟨hwithin, hfails⟩ := ih hinv (by omega)
    constructor
    · intro u hu
      obtain rfl := Option.some.inj (hu.symm.trans ht)
      exact ⟨hroom, hwithin⟩
    · intro hall
      exact hfails (hall.2 _ ht)

/-- Of 255 interfaces with names, the checked build makes 254. -/
theorem addPorts_not_consistent :
    Along (step .dev) (AddsBelow 255) (.ok blank) (List.replicate 255 addPort) ∧
      ¬ Throughout (step .dev) (Returned Consistent) (.ok blank) (List.replicate 255 addPort) :=
  addPort_overflows 254 (inv_default .dev) rfl

end Labelled

end Lusbip
