import CrownstoneRouter.Drivers.BleAddress

/-!
# Texts of UUIDs

`fromFullUuid` reads a UUID from a text of hexadecimal digits, and `fromBaseUuid` puts a short UUID
into one that has been read. The text has its bytes in the opposite order, so that digits 5 to 8 of
the text are bytes 13 and 12 of the value. `hex2bin` belongs to the system below and is a parameter.
-/

namespace CrownstoneRouter

open CheckedMemory LittleEndian

/-- `CS_ERR_INVALID_PARAM` -/
def RetCode.invalidParam : RetCode := 0x107

/-- `BT_UUID_SIZE_128` -/
abbrev btUuidSize128 : ℕ := 16

/-- `hex2bin`: the number of bytes converted, and the array that they are written to. -/
abbrev Hex2Bin : Type :=
  List UInt8 → Buffer UInt8 btUuidSize128 → ℕ × Buffer UInt8 btUuidSize128

/-- `bt_uuid_create`, which takes the kind of the UUID from the length of its value. -/
def btUuidCreate {size : ℕ} (uuid : Buffer UInt8 sizeofBleUuid) (data : Buffer UInt8 size) :
    Checked (Bool × Buffer UInt8 sizeofBleUuid) := do
  if size = 2 then
    let uuid ← uuid.store 0 [btUuidType16]
    return (true, ← uuid.store 2 data.cells)
  else if size = 4 then
    let uuid ← uuid.store 0 [btUuidType32]
    return (true, ← uuid.store 4 data.cells)
  else if size = btUuidSize128 then
    let uuid ← uuid.store 0 [btUuidType128]
    return (true, ← uuid.store 1 data.cells)
  else return (false, uuid)

namespace ServiceUuid

variable (hex2bin : Hex2Bin)

/-- `ServiceUuid::fromFullUuid(const char *fullUuid)`, where `uuid128Buf` is what its local array
holds before. -/
def fromFullUuid (uuid : ServiceUuid) (fullUuid : List UInt8)
    (uuid128Buf : Buffer UInt8 btUuidSize128) : Checked (RetCode × ServiceUuid) := do
  if 0x2D ∈ fullUuid then return (.invalidParam, uuid)
  else
    let (ret, uuid128Buf) := hex2bin fullUuid uuid128Buf
    if ret ≠ btUuidSize128 then return (.invalidParam, uuid)
    else
      let (created, made) ← btUuidCreate uuid.uuid uuid128Buf.reverse
      if !created then return (.invalidParam, { uuid := made })
      else return (.ok, { uuid := made })

variable {Object : Type} [DecidableEq Object]

/-- A call of `fromFullUuid` for one of the objects in memory. -/
def fromFullUuidAt (objects : Object → ServiceUuid) (this : Object) (fullUuid : List UInt8)
    (uuid128Buf : Buffer UInt8 btUuidSize128) : Checked (RetCode × (Object → ServiceUuid)) := do
  let (ret, uuid) ← (objects this).fromFullUuid hex2bin fullUuid uuid128Buf
  return (ret, Function.update objects this uuid)

/-- A call of `fromBaseUuid` for one of the objects in memory, with another one as the base. -/
def fromBaseUuidAt (objects : Object → ServiceUuid) (this baseUuid : Object) (shortUuid : UInt16) :
    Checked (Object → ServiceUuid) := do
  let uuid ← (objects this).fromBaseUuid (objects baseUuid) shortUuid
  return Function.update objects this uuid

end ServiceUuid

/-! ## Hexadecimal texts without separators -/

/-- The bytes of a text of hexadecimal digits in pairs. -/
def hexBytes : List UInt8 → Option (List UInt8)
  | [] => some []
  | [_] => none
  | high :: low :: rest =>
      (hexByte high low).bind fun byte ↦ (hexBytes rest).map fun bytes ↦ byte :: bytes

/-- `hex2bin` converts pairs of digits in order, as long as the array has room for the bytes. -/
def DecodesPairs (hex2bin : Hex2Bin) : Prop :=
  ∀ text bytes buf, hexBytes text = some bytes → bytes.length ≤ btUuidSize128 →
    hex2bin text buf = (bytes.length, buf.overlay bytes)

/-- `hex2bin` as the system below does it: a leading zero completes an odd number of digits. -/
def zephyrHex2bin : Hex2Bin := fun text buf ↦
  match hexBytes (if text.length % 2 = 1 then 0x30 :: text else text) with
  | some bytes =>
      if bytes.length ≤ btUuidSize128 then (bytes.length, buf.overlay bytes) else (0, buf)
  | none => (0, buf)

@[simp]
theorem hexBytes_nil : hexBytes [] = some [] := rfl

theorem hexBytes_cons_cons_eq_some {high low : UInt8} {rest bytes : List UInt8} :
    hexBytes (high :: low :: rest) = some bytes ↔
      ∃ byte others, hexByte high low = some byte ∧ hexBytes rest = some others ∧
        byte :: others = bytes := by
  simp only [hexBytes, Option.bind_eq_some_iff, Option.map_eq_some_iff]
  constructor
  · rintro ⟨byte, hbyte, others, hothers, rfl⟩
    exact ⟨byte, others, hbyte, hothers, rfl⟩
  · rintro ⟨byte, others, hbyte, hothers, rfl⟩
    exact ⟨byte, hbyte, others, hothers, rfl⟩

theorem isSome_hexByte_iff {high low : UInt8} :
    (hexByte high low).isSome = true ↔
      (hexValue high).isSome = true ∧ (hexValue low).isSome = true := by
  unfold hexByte
  cases hexValue high with
  | none => simp
  | some value => simp

/-- The texts that denote bytes are those with digits only, two for each byte. -/
theorem exists_hexBytes_iff {str : List UInt8} {count : ℕ} :
    (∃ bytes, hexBytes str = some bytes ∧ bytes.length = count) ↔
      str.length = 2 * count ∧ ∀ c ∈ str, (hexValue c).isSome = true := by
  induction str using hexBytes.induct generalizing count with
  | case1 =>
    simp only [hexBytes_nil, Option.some.injEq, exists_eq_left', List.length_nil, List.not_mem_nil,
      false_imp_iff, implies_true, and_true]
    omega
  | case2 c =>
    simp only [hexBytes, List.length_singleton, reduceCtorEq, false_and, exists_false, false_iff]
    omega
  | case3 high low rest ih =>
    constructor
    · rintro ⟨bytes, hbytes, rfl⟩
      obtain ⟨byte, others, hbyte, hothers, rfl⟩ := hexBytes_cons_cons_eq_some.mp hbytes
      obtain ⟨hlength, hrest⟩ := ih.mp ⟨others, hothers, rfl⟩
      obtain ⟨hhigh, hlow⟩ := isSome_hexByte_iff.mp (Option.isSome_of_eq_some hbyte)
      refine ⟨?_, ?_⟩
      · simp only [List.length_cons, hlength]
        omega
      · simpa [hhigh, hlow] using hrest
    · rintro ⟨hlength, hdigits⟩
      simp only [List.forall_mem_cons] at hdigits
      obtain ⟨hhigh, hlow, hrest⟩ := hdigits
      simp only [List.length_cons] at hlength
      obtain ⟨byte, hbyte⟩ := Option.isSome_iff_exists.mp (isSome_hexByte_iff.mpr ⟨hhigh, hlow⟩)
      obtain ⟨others, hothers, hcount⟩ := (@ih (count - 1)).mpr ⟨by omega, hrest⟩
      refine ⟨byte :: others, hexBytes_cons_cons_eq_some.mpr ⟨_, _, hbyte, hothers, rfl⟩, ?_⟩
      rw [List.length_cons, hcount]
      omega

theorem length_of_hexBytes {str bytes : List UInt8} (h : hexBytes str = some bytes) :
    str.length = 2 * bytes.length :=
  (exists_hexBytes_iff.mp ⟨bytes, h, rfl⟩).1

theorem hexBytes_append {front bytes : List UInt8} (h : hexBytes front = some bytes)
    (rest : List UInt8) : hexBytes (front ++ rest) = (hexBytes rest).map (bytes ++ ·) := by
  induction front using hexBytes.induct generalizing bytes with
  | case1 =>
    obtain rfl : [] = bytes := Option.some.inj h
    simp
  | case2 c => cases h
  | case3 high low front ih =>
    obtain ⟨byte, others, hbyte, hothers, rfl⟩ := hexBytes_cons_cons_eq_some.mp h
    simp [hexBytes, hbyte, ih hothers, Function.comp_def]

theorem dash_notMem_of_hexBytes {str bytes : List UInt8} (h : hexBytes str = some bytes) :
    0x2D ∉ str := by
  intro hdash
  have hdigit := (exists_hexBytes_iff.mp ⟨bytes, h, rfl⟩).2 _ hdash
  exact absurd hdigit (by decide)

theorem zephyrHex2bin_decodesPairs : DecodesPairs zephyrHex2bin := by
  intro text bytes buf hbytes hfits
  have heven : ¬ text.length % 2 = 1 := by
    rw [length_of_hexBytes hbytes]
    omega
  simp only [zephyrHex2bin, if_neg heven, hbytes, if_pos hfits]

/-! ## Specifications -/

namespace ServiceUuid

/-- The 128-bit UUID with this value, over what the object holds before. -/
def full (uuid : ServiceUuid) (value : List UInt8) : ServiceUuid where
  uuid := uuid.uuid.overlay (btUuidType128 :: value)

theorem btUuidCreate_full (uuid : Buffer UInt8 sizeofBleUuid)
    (data : Buffer UInt8 btUuidSize128) :
    btUuidCreate uuid data = .ok (true, uuid.overlay (btUuidType128 :: data.cells)) := by
  have htype : uuid.store 0 [btUuidType128] = .ok (uuid.overlay [btUuidType128]) :=
    if_pos (by decide : 0 + 1 ≤ sizeofBleUuid)
  have hvalue : (uuid.overlay [btUuidType128]).store 1 data.cells =
      .ok (uuid.overlay (btUuidType128 :: data.cells)) := by
    have hfits : [btUuidType128].length + data.cells.length ≤ sizeofBleUuid := by
      rw [data.length_cells]
      decide
    exact (Buffer.store_overlay uuid [btUuidType128] data.cells rfl).trans (if_pos hfits)
  have hshort : btUuidSize128 ≠ 2 := by decide
  have hmiddle : btUuidSize128 ≠ 4 := by decide
  simp only [btUuidCreate, if_neg hshort, if_neg hmiddle, if_true, htype, bind, bind_ok, hvalue]
  rfl

/-- Sixteen converted bytes are the value of the UUID in the opposite order. -/
theorem fromFullUuid_of_converted {hex2bin : Hex2Bin} (uuid : ServiceUuid)
    {fullUuid bytes : List UInt8} {uuid128Buf : Buffer UInt8 btUuidSize128}
    (hdash : 0x2D ∉ fullUuid)
    (hconverted : hex2bin fullUuid uuid128Buf = (btUuidSize128, uuid128Buf.overlay bytes))
    (hlength : bytes.length = btUuidSize128) :
    uuid.fromFullUuid hex2bin fullUuid uuid128Buf = .ok (.ok, uuid.full bytes.reverse) := by
  have hcells : (uuid128Buf.overlay bytes).cells = bytes := by
    rw [Buffer.cells_overlay _ (Nat.le_of_eq hlength), List.drop_eq_nil_of_le (by simp [hlength]),
      List.append_nil]
  have hall : ¬ btUuidSize128 ≠ btUuidSize128 := not_not.mpr rfl
  simp only [fromFullUuid, if_neg hdash, hconverted, if_neg hall, btUuidCreate_full,
    Buffer.cells_reverse, hcells, bind, bind_ok]
  rfl

/-- A text that denotes 16 bytes is read as the UUID with these bytes in the opposite order. -/
theorem fromFullUuid_eq {hex2bin : Hex2Bin} (hhex2bin : DecodesPairs hex2bin) (uuid : ServiceUuid)
    {fullUuid bytes : List UInt8} (hbytes : hexBytes fullUuid = some bytes)
    (hlength : bytes.length = btUuidSize128) (uuid128Buf : Buffer UInt8 btUuidSize128) :
    uuid.fromFullUuid hex2bin fullUuid uuid128Buf = .ok (.ok, uuid.full bytes.reverse) := by
  have hconverted := hhex2bin fullUuid bytes uuid128Buf hbytes (Nat.le_of_eq hlength)
  rw [hlength] at hconverted
  exact uuid.fromFullUuid_of_converted (dash_notMem_of_hexBytes hbytes) hconverted hlength

theorem fromBaseUuidAt_eq {Object : Type} [DecidableEq Object] (objects : Object → ServiceUuid)
    (this baseUuid : Object) (shortUuid : UInt16) :
    fromBaseUuidAt objects this baseUuid shortUuid =
      .ok (Function.update objects this
        (derived (objects this) (objects baseUuid) shortUuid)) := by
  simp only [fromBaseUuidAt, fromBaseUuid_eq, bind, bind_ok]
  rfl

/-- A full UUID with a short one in place of two of its bytes is full. -/
theorem derived_full (uuid base : ServiceUuid) {before old after : List UInt8} (shortUuid : UInt16)
    (hbefore : before.length = uuid16BaseOffset) (hold : old.length = 2)
    (hafter : after.length = 2) :
    derived uuid (base.full (before ++ old ++ after)) shortUuid =
      uuid.full (before ++ putLe16 shortUuid ++ after) := by
  have hvalue : (btUuidType128 :: (before ++ old ++ after)).length = sizeofBtUuid128 := by
    simp [hbefore, hold, hafter]
  have hfits : (btUuidType128 :: (before ++ old ++ after)).length ≤ sizeofBleUuid := by
    rw [hvalue]
    decide
  have hparts := base.uuid.slice_overlay hfits
  rw [hvalue] at hparts
  have hposition : (btUuidType128 :: before).length = 1 + uuid16BaseOffset := by
    rw [List.length_cons, hbefore, Nat.add_comm]
  exact congrArg ServiceUuid.mk (uuid.derived_of_parts shortUuid hparts hposition hold)

/-- Full UUIDs are compared by their values. -/
theorem toUuid128_full (uuid : ServiceUuid) {value : List UInt8}
    (hvalue : value.length = btUuidSize128) : (uuid.full value).toUuid128 = value := by
  have hfits : (btUuidType128 :: value).length ≤ sizeofBleUuid := by
    rw [List.length_cons, hvalue]
    decide
  have hcells : (uuid.full value).uuid.cells = _ := uuid.uuid.cells_overlay hfits
  have htype : byteAt (uuid.full value).uuid 0 = btUuidType128 := by
    rw [byteAt, hcells]
    rfl
  have hshort : btUuidType128 ≠ btUuidType16 := by decide
  have hmiddle : btUuidType128 ≠ btUuidType32 := by decide
  rw [toUuid128, htype, if_neg hshort, if_neg hmiddle, Buffer.slice, hcells]
  exact List.take_left' hvalue

/-! ## Substitution -/

/-- The text with its digits 5 to 8 replaced. -/
def substituted (fullUuid digits : List UInt8) : List UInt8 :=
  fullUuid.take 4 ++ digits ++ fullUuid.drop 8

/-- The digits of a full UUID in front of the short part, those of this part, and the rest. -/
theorem hexBytes_parts {fullUuid : List UInt8} (hlength : fullUuid.length = 2 * btUuidSize128)
    (hdigits : ∀ c ∈ fullUuid, (hexValue c).isSome = true) :
    ∃ front short rest, hexBytes (fullUuid.take 4) = some front ∧
      hexBytes (fullUuid.drop 8) = some rest ∧
      hexBytes fullUuid = some (front ++ short ++ rest) ∧ front.length = 2 ∧ short.length = 2 ∧
      rest.length = uuid16BaseOffset := by
  have hfrontDigits : (fullUuid.take 4).length = 2 * 2 := by
    rw [List.length_take, hlength]
    rfl
  have hshortDigits : ((fullUuid.drop 4).take 4).length = 2 * 2 := by
    rw [List.length_take, List.length_drop, hlength]
    rfl
  have hrestDigits : (fullUuid.drop 8).length = 2 * uuid16BaseOffset := by
    rw [List.length_drop, hlength]
    rfl
  obtain ⟨front, hfront, hfrontLength⟩ := exists_hexBytes_iff.mpr
    ⟨hfrontDigits, fun c hc ↦ hdigits c (List.mem_of_mem_take hc)⟩
  obtain ⟨short, hshort, hshortLength⟩ := exists_hexBytes_iff.mpr
    ⟨hshortDigits, fun c hc ↦ hdigits c (List.mem_of_mem_drop (List.mem_of_mem_take hc))⟩
  obtain ⟨rest, hrest, hrestLength⟩ := exists_hexBytes_iff.mpr
    ⟨hrestDigits, fun c hc ↦ hdigits c (List.mem_of_mem_drop hc)⟩
  refine ⟨front, short, rest, hfront, hrest, ?_, hfrontLength, hshortLength, hrestLength⟩
  have hparts : fullUuid = fullUuid.take 4 ++ ((fullUuid.drop 4).take 4 ++ fullUuid.drop 8) := by
    have hmiddle := List.take_append_drop 4 (fullUuid.drop 4)
    rw [List.drop_drop] at hmiddle
    rw [hmiddle, List.take_append_drop]
  rw [hparts, hexBytes_append hfront, hexBytes_append hshort, hrest]
  simp

end ServiceUuid

open ServiceUuid

/-- Putting a short UUID into a base that has been read is the same as reading the text with the
digits of the short UUID in place of those of the base. The base is the same afterwards, and UUIDs
derived from it are equal exactly if their short UUIDs are. -/
theorem substitution_commutes {Object : Type} [DecidableEq Object] {hex2bin : Hex2Bin}
    (hhex2bin : DecodesPairs hex2bin) {fullUuid : List UInt8}
    (hlength : fullUuid.length = 2 * btUuidSize128)
    (hdigits : ∀ c ∈ fullUuid, (hexValue c).isSome = true) (objects : Object → ServiceUuid)
    {base left right : Object} (hleft : left ≠ base) (hright : right ≠ base)
    (hdistinct : left ≠ right) {u : UInt16} {digits : List UInt8}
    (hu : hexBytes digits = some (putLe16 u).reverse) (v : UInt16)
    (uuid128Buf : Buffer UInt8 btUuidSize128) :
    ∃ loaded single both,
      fromFullUuidAt hex2bin objects base fullUuid uuid128Buf = .ok (.ok, loaded) ∧
      fromBaseUuidAt loaded left base u = .ok single ∧
      fromBaseUuidAt single right base v = .ok both ∧
      (objects left).fromFullUuid hex2bin (substituted fullUuid digits) uuid128Buf =
        .ok (.ok, single left) ∧
      both base = loaded base ∧ both left = single left ∧
      ((both left).eq (both right) = true ↔ u = v) := by
  obtain ⟨front, short, rest, hfront, hrest, hfull, hfrontLength, hshortLength, hrestLength⟩ :=
    hexBytes_parts hlength hdigits
  have hbytes (part : List UInt8) (hpart : part.length = 2) :
      (front ++ part ++ rest).length = btUuidSize128 := by
    rw [List.length_append, List.length_append, hfrontLength, hpart, hrestLength]
    rfl
  have hreverse (part : List UInt8) :
      (front ++ part ++ rest).reverse = rest.reverse ++ part.reverse ++ front.reverse := by simp
  have hloaded : fromFullUuidAt hex2bin objects base fullUuid uuid128Buf = .ok (.ok,
      Function.update objects base ((objects base).full (front ++ short ++ rest).reverse)) := by
    simp only [fromFullUuidAt, fromFullUuid_eq hhex2bin (objects base) hfull
      (hbytes short hshortLength) uuid128Buf, bind, bind_ok]
    rfl
  have hderived (uuid : ServiceUuid) (shortUuid : UInt16) :
      derived uuid ((objects base).full (front ++ short ++ rest).reverse) shortUuid =
        uuid.full (front ++ (putLe16 shortUuid).reverse ++ rest).reverse := by
    rw [hreverse, hreverse, List.reverse_reverse]
    exact derived_full uuid (objects base) shortUuid (by simp [hrestLength])
      (by simp [hshortLength]) (by simp [hfrontLength])
  have hsubstituted : hexBytes (substituted fullUuid digits) =
      some (front ++ (putLe16 u).reverse ++ rest) := by
    rw [substituted, List.append_assoc, hexBytes_append hfront, hexBytes_append hu, hrest]
    simp
  have hread := fromFullUuid_eq hhex2bin (objects left) hsubstituted
    (hbytes _ (by simp)) uuid128Buf
  have hcompared (uuid : ServiceUuid) (shortUuid : UInt16) :
      (uuid.full (front ++ (putLe16 shortUuid).reverse ++ rest).reverse).toUuid128 =
        (front ++ (putLe16 shortUuid).reverse ++ rest).reverse :=
    toUuid128_full uuid (by rw [List.length_reverse, hbytes _ (by simp)])
  refine ⟨_, _, _, hloaded, fromBaseUuidAt_eq _ _ _ _, fromBaseUuidAt_eq _ _ _ _, ?_⟩
  simp only [Function.update_self, Function.update_of_ne hleft, Function.update_of_ne hleft.symm,
    Function.update_of_ne hright, Function.update_of_ne hright.symm,
    Function.update_of_ne hdistinct, Function.update_of_ne hdistinct.symm, hderived]
  refine ⟨hread, trivial, trivial, ?_⟩
  simp only [eq, hcompared, decide_eq_true_eq, List.reverse_inj, List.append_left_inj,
    List.append_right_inj]
  exact putLe16_injective.eq_iff

/-- `CROWNSTONE_UUID` -/
def crownstoneUuid : List UInt8 :=
  "24f000007d104805bfc17663a01c3bff".toList.map fun c ↦ UInt8.ofNat c.toNat

def shortText : List UInt8 :=
  "1a2B".toList.map fun c ↦ UInt8.ofNat c.toNat

/-- The UUID of the router, with two short UUIDs that have the same bytes. -/
theorem substitution_commutes_for_crownstone :
    ∃ (loaded single both : Fin 3 → ServiceUuid),
      fromFullUuidAt zephyrHex2bin (fun _ ↦ serviceUuid 0) 0 crownstoneUuid (Buffer.fill _ 0) =
        .ok (.ok, loaded) ∧
      fromBaseUuidAt loaded 1 0 0x1A2B = .ok single ∧
      fromBaseUuidAt single 2 0 0x2B1A = .ok both ∧
      (serviceUuid 0).fromFullUuid zephyrHex2bin (substituted crownstoneUuid shortText)
        (Buffer.fill _ 0) = .ok (.ok, single 1) ∧
      both 0 = loaded 0 ∧ both 1 = single 1 ∧
      ((both 1).eq (both 2) = true ↔ (0x1A2B : UInt16) = 0x2B1A) :=
  substitution_commutes zephyrHex2bin_decodesPairs rfl (by decide +kernel) _ (by decide) (by decide)
    (by decide) (by decide) _ _

end CrownstoneRouter
