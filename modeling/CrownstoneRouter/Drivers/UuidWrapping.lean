import CrownstoneRouter.Drivers.UuidText

/-!
# UUIDs of the stack as service UUIDs

The stack hands out a pointer to the member that its three kinds of UUIDs begin with. The
constructor of `ServiceUuid` copies an object of the kind that it finds; behind the case of 16 bits
it goes on with that of 128 bits, and for 32 bits it has no case. What it reads is stated here for
any memory behind the object, also where there is none.
-/

namespace CrownstoneRouter

open CheckedMemory LittleEndian

/-- A UUID of one of the three kinds, with the padding in front of its value. -/
inductive BtUuid
  | uuid16 (padding : UInt8) (val : UInt16)
  | uuid32 (padding : Buffer UInt8 3) (val : UInt32)
  | uuid128 (val : Buffer UInt8 btUuidSize128)
  deriving DecidableEq

namespace BtUuid

/-- The kind of the UUID. -/
def type : BtUuid → UInt8
  | uuid16 _ _ => btUuidType16
  | uuid32 _ _ => btUuidType32
  | uuid128 _ => btUuidType128

/-- What stands in front of the value: the type and the padding. -/
def header : BtUuid → List UInt8
  | uuid16 padding _ => [btUuidType16, padding]
  | uuid32 padding _ => btUuidType32 :: padding.cells
  | uuid128 _ => [btUuidType128]

/-- The bytes of the value. -/
def value : BtUuid → List UInt8
  | uuid16 _ val => putLe16 val
  | uuid32 _ val => putLe32 val
  | uuid128 val => val.cells

def bytes (uuid : BtUuid) : List UInt8 :=
  uuid.header ++ uuid.value

/-- The 128-bit value, to which `bt_uuid_cmp` expands the shorter ones. -/
def toUuid128 : BtUuid → List UInt8
  | uuid16 _ val => (btUuidBase.patch uuid16BaseOffset (putLe16 val)).cells
  | uuid32 _ val => (btUuidBase.patch uuid16BaseOffset (putLe32 val)).cells
  | uuid128 val => val.cells

/-- The memory behind a pointer to the UUID, in which `rest` follows the object. -/
def memory (uuid : BtUuid) (rest : List UInt8) :
    Buffer UInt8 (uuid.bytes.length + rest.length) :=
  ⟨uuid.bytes ++ rest, List.length_append⟩

theorem length_bytes_le (uuid : BtUuid) : uuid.bytes.length ≤ sizeofBtUuid128 := by
  cases uuid with
  | uuid16 padding val => simp [bytes, header, value, sizeofBtUuid128]
  | uuid32 padding val => simp [bytes, header, value, sizeofBtUuid128]
  | uuid128 val => simp [bytes, header, value]

theorem loadByte_memory (uuid : BtUuid) (rest : List UInt8) :
    loadByte (uuid.memory rest) 0 = .ok uuid.type := by
  cases uuid with
  | uuid16 padding val => exact if_pos (Nat.add_pos_left (by simp [bytes, header]) _)
  | uuid32 padding val => exact if_pos (Nat.add_pos_left (by simp [bytes, header]) _)
  | uuid128 val => exact if_pos (Nat.add_pos_left (by simp [bytes, header]) _)

theorem slice_memory (uuid : BtUuid) (rest : List UInt8) :
    (uuid.memory rest).slice 0 sizeofBtUuid128 =
      uuid.bytes ++ rest.take (sizeofBtUuid128 - uuid.bytes.length) := by
  rw [Buffer.slice, memory, List.drop_zero, List.take_append,
    List.take_of_length_le uuid.length_bytes_le]

/-- A union that begins with an object has its 128-bit value. -/
theorem toUuid128_overlay (uuid : BtUuid) (union : Buffer UInt8 sizeofBleUuid) {rest : List UInt8}
    (h : (uuid.bytes ++ rest).length ≤ sizeofBleUuid) :
    ServiceUuid.toUuid128 { uuid := union.overlay (uuid.bytes ++ rest) } = uuid.toUuid128 := by
  have hcells := union.cells_overlay h
  have htype : byteAt (union.overlay (uuid.bytes ++ rest)) 0 = uuid.type := by
    rw [byteAt, hcells]
    cases uuid with
    | uuid16 padding val => rfl
    | uuid32 padding val => rfl
    | uuid128 val => rfl
  have hvalue : (union.overlay (uuid.bytes ++ rest)).slice uuid.header.length uuid.value.length =
      uuid.value := by
    rw [bytes, List.append_assoc] at h ⊢
    exact slice_overlay_append union _ _ _ h
  rw [ServiceUuid.toUuid128, htype]
  cases uuid with
  | uuid16 padding val =>
    rw [type, if_pos rfl]
    exact congrArg (fun value ↦ (btUuidBase.patch uuid16BaseOffset value).cells) hvalue
  | uuid32 padding val =>
    have hheader : (uuid32 padding val).header.length = 4 := by simp [header]
    have hother : btUuidType32 ≠ btUuidType16 := by decide
    rw [type, if_neg hother, if_pos rfl]
    rw [hheader] at hvalue
    exact congrArg (fun value ↦ (btUuidBase.patch uuid16BaseOffset value).cells) hvalue
  | uuid128 val =>
    have hlength : (uuid128 val).value.length = btUuidSize128 := val.length_cells
    have hshort : btUuidType128 ≠ btUuidType16 := by decide
    have hmiddle : btUuidType128 ≠ btUuidType32 := by decide
    rw [type, if_neg hshort, if_neg hmiddle]
    rwa [hlength] at hvalue

end BtUuid

namespace ServiceUuid

/-! ## Specifications -/

/-- An object of 16 bits is copied with the bytes behind it, up to the length of one of 128 bits. -/
theorem ofUuid_uuid16 (padding : UInt8) (val : UInt16) (rest : List UInt8)
    (before : Buffer UInt8 sizeofBleUuid) :
    ofUuid ((BtUuid.uuid16 padding val).memory rest) before =
      if sizeofBtUuid128 ≤ sizeofBtUuid16 + rest.length then
        .ok { uuid := before.overlay ((BtUuid.uuid16 padding val).bytes ++
          rest.take (sizeofBtUuid128 - sizeofBtUuid16)) }
      else .error .outOfBounds := by
  have htype : loadByte ((BtUuid.uuid16 padding val).memory rest) 0 = .ok btUuidType16 :=
    BtUuid.loadByte_memory _ rest
  have hshort : before.memcpy 0 ((BtUuid.uuid16 padding val).memory rest) 0 sizeofBtUuid16 =
      .ok (before.overlay (BtUuid.uuid16 padding val).bytes) := by
    rw [Buffer.memcpy_zero]
    exact if_pos ⟨Nat.add_le_add_left (Nat.zero_le _) _, by decide⟩
  have hlong : (before.overlay (BtUuid.uuid16 padding val).bytes).memcpy 0
      ((BtUuid.uuid16 padding val).memory rest) 0 sizeofBtUuid128 =
        if sizeofBtUuid128 ≤ sizeofBtUuid16 + rest.length then
          .ok (before.overlay ((BtUuid.uuid16 padding val).bytes ++
            rest.take (sizeofBtUuid128 - sizeofBtUuid16)))
        else .error .outOfBounds := by
    have hbytes : (BtUuid.uuid16 padding val).bytes.length = sizeofBtUuid16 := rfl
    have hroom : sizeofBtUuid128 ≤ sizeofBleUuid := by decide
    rw [Buffer.memcpy_zero, BtUuid.slice_memory, hbytes, Nat.zero_add]
    refine if_ctx_congr (and_iff_left hroom) (fun hfits ↦ ?_) (fun _ ↦ rfl)
    -- the bytes of the first copy are written once more by the second one
    have hlength : ((BtUuid.uuid16 padding val).bytes ++
        rest.take (sizeofBtUuid128 - sizeofBtUuid16)).length = sizeofBtUuid128 := by
      have hrest : sizeofBtUuid128 - sizeofBtUuid16 ≤ rest.length :=
        Nat.sub_le_iff_le_add'.mpr hfits
      rw [List.length_append, hbytes, List.length_take_of_le hrest]
      rfl
    refine congrArg Except.ok (Buffer.overlay_overlay before ?_ (hlength.trans_le hroom))
    rw [hlength]
    exact BtUuid.length_bytes_le _
  simp only [ofUuid, htype, hshort, hlong, bind, bind_ok, if_true, bind_guard]
  rfl

theorem ofUuid_uuid32 (padding : Buffer UInt8 3) (val : UInt32) (rest : List UInt8)
    (before : Buffer UInt8 sizeofBleUuid) :
    ofUuid ((BtUuid.uuid32 padding val).memory rest) before = .ok { uuid := before } := by
  have htype : loadByte ((BtUuid.uuid32 padding val).memory rest) 0 = .ok btUuidType32 :=
    BtUuid.loadByte_memory _ rest
  have hshort : btUuidType32 ≠ btUuidType16 := by decide
  have hlong : btUuidType32 ≠ btUuidType128 := by decide
  simp only [ofUuid, htype, bind, bind_ok, if_neg hshort, if_neg hlong]
  rfl

/-- An object of 128 bits is copied. -/
theorem ofUuid_uuid128 (val : Buffer UInt8 btUuidSize128) (rest : List UInt8)
    (before : Buffer UInt8 sizeofBleUuid) :
    ofUuid ((BtUuid.uuid128 val).memory rest) before =
      .ok { uuid := before.overlay (BtUuid.uuid128 val).bytes } := by
  have htype : loadByte ((BtUuid.uuid128 val).memory rest) 0 = .ok btUuidType128 :=
    BtUuid.loadByte_memory _ rest
  have hshort : btUuidType128 ≠ btUuidType16 := by decide
  have hbytes : (BtUuid.uuid128 val).bytes.length = sizeofBtUuid128 := by
    simp [BtUuid.bytes, BtUuid.header, BtUuid.value]
  have hcopy : before.memcpy 0 ((BtUuid.uuid128 val).memory rest) 0 sizeofBtUuid128 =
      .ok (before.overlay (BtUuid.uuid128 val).bytes) := by
    rw [Buffer.memcpy_zero, BtUuid.slice_memory, hbytes, Nat.sub_self, List.take_zero,
      List.append_nil]
    exact if_pos ⟨by omega, by decide⟩
  simp only [ofUuid, htype, bind, bind_ok, if_neg hshort, hcopy]
  rfl

/-- A UUID of 16 or 128 bits keeps its value if the constructor returns. -/
theorem toUuid128_ofUuid {a : BtUuid} (ha : a.type ≠ btUuidType32) {rest : List UInt8}
    {before : Buffer UInt8 sizeofBleUuid} {found : ServiceUuid}
    (h : ofUuid (a.memory rest) before = .ok found) : found.toUuid128 = a.toUuid128 := by
  cases a with
  | uuid16 padding val =>
    rw [ofUuid_uuid16] at h
    obtain ⟨-, rfl⟩ := guard_eq_ok.mp h
    apply BtUuid.toUuid128_overlay
    have hcopied : ((BtUuid.uuid16 padding val).bytes ++
        rest.take (sizeofBtUuid128 - sizeofBtUuid16)).length ≤ sizeofBtUuid128 := by
      rw [List.length_append]
      exact Nat.add_le_add_left (List.length_take_le _ rest) sizeofBtUuid16
    exact Nat.le_succ_of_le hcopied
  | uuid32 padding val => exact absurd rfl ha
  | uuid128 val =>
    rw [ofUuid_uuid128] at h
    obtain rfl := Except.ok.inj h
    have hcopied : ((BtUuid.uuid128 val).bytes ++ []).length ≤ sizeofBleUuid := by
      simp [BtUuid.bytes, BtUuid.header, BtUuid.value, btUuidSize128, sizeofBleUuid]
    have hkept := (BtUuid.uuid128 val).toUuid128_overlay before hcopied
    rwa [List.append_nil] at hkept

theorem exists_ofUuid (a : BtUuid) (before : Buffer UInt8 sizeofBleUuid) :
    ∃ rest found, ofUuid (a.memory rest) before = .ok found := by
  cases a with
  | uuid16 padding val =>
    refine ⟨List.replicate sizeofBtUuid128 0, _, (ofUuid_uuid16 _ _ _ before).trans (if_pos ?_)⟩
    rw [List.length_replicate]
    exact Nat.le_add_left _ _
  | uuid32 padding val => exact ⟨[], _, ofUuid_uuid32 padding val [] before⟩
  | uuid128 val => exact ⟨[], _, ofUuid_uuid128 val [] before⟩

theorem eq_comm_iff {uuid other : ServiceUuid} : uuid.eq other = true ↔ other.eq uuid = true := by
  simp only [eq, eq_comm]

/-! ## Faithful wrapping -/

/-- The constructor makes the same of a UUID whatever lies behind its object, even nothing. -/
def ReadsOwnBytes (a : BtUuid) : Prop :=
  ∀ before, ∃ found, ∀ rest, ofUuid (a.memory rest) before = .ok found

/-- Objects made of two UUIDs are compared as the UUIDs are, whatever the memory of the objects and
behind the UUIDs holds. -/
def ComparesAs (a b : BtUuid) : Prop :=
  ∀ rest rest' before before' found other, ofUuid (a.memory rest) before = .ok found →
    ofUuid (b.memory rest') before' = .ok other →
    (found.eq other = true ↔ a.toUuid128 = b.toUuid128)

/-- The constructor reads beyond a UUID of 16 bits. -/
theorem readsOwnBytes_iff {a : BtUuid} : ReadsOwnBytes a ↔ a.type ≠ btUuidType16 := by
  cases a with
  | uuid16 padding val =>
    refine iff_of_false (fun hreads ↦ ?_) (fun hother ↦ hother rfl)
    obtain ⟨found, hfound⟩ := hreads (Buffer.fill _ 0)
    have hend := (ofUuid_uuid16 padding val [] (Buffer.fill _ 0)).symm.trans (hfound [])
    rw [if_neg (by decide)] at hend
    cases hend
  | uuid32 padding val =>
    exact iff_of_true (fun before ↦ ⟨_, fun rest ↦ ofUuid_uuid32 padding val rest before⟩)
      (show btUuidType32 ≠ btUuidType16 by decide)
  | uuid128 val =>
    exact iff_of_true (fun before ↦ ⟨_, fun rest ↦ ofUuid_uuid128 val rest before⟩)
      (show btUuidType128 ≠ btUuidType16 by decide)

theorem ComparesAs.symm {a b : BtUuid} (h : ComparesAs a b) : ComparesAs b a := by
  intro rest rest' before before' found other hfound hother
  rw [eq_comm_iff, h rest' rest before' before other found hother hfound, eq_comm]

/-- An object made of a UUID of 32 bits is compared as what has been in its memory. -/
theorem ComparesAs.type_ne {a b : BtUuid} (h : ComparesAs a b) : a.type ≠ btUuidType32 := by
  cases a with
  | uuid16 padding val => exact (show btUuidType16 ≠ btUuidType32 by decide)
  | uuid32 padding val =>
    obtain ⟨rest, other, hother⟩ := exists_ofUuid b (Buffer.fill sizeofBleUuid 0)
    -- the memory may have held the other object, and any other value
    have hsame : (BtUuid.uuid32 padding val).toUuid128 = b.toUuid128 :=
      (h [] rest other.uuid _ other other (ofUuid_uuid32 padding val [] other.uuid) hother).mp
        (decide_eq_true rfl)
    have hforced (value : List UInt8) (hvalue : value.length = btUuidSize128) :
        value = other.toUuid128 := by
      have hmade := ofUuid_uuid32 padding val [] (other.full value).uuid
      have hequal := (h [] rest _ _ _ other hmade hother).mpr hsame
      rw [eq, decide_eq_true_eq] at hequal
      exact (toUuid128_full other hvalue).symm.trans hequal
    have hequal := (hforced (List.replicate btUuidSize128 0) List.length_replicate).trans
      (hforced (List.replicate btUuidSize128 1) List.length_replicate).symm
    exact absurd hequal (by decide)
  | uuid128 val => exact (show btUuidType128 ≠ btUuidType32 by decide)

theorem comparesAs_iff {a b : BtUuid} :
    ComparesAs a b ↔ a.type ≠ btUuidType32 ∧ b.type ≠ btUuidType32 := by
  constructor
  · exact fun h ↦ ⟨h.type_ne, h.symm.type_ne⟩
  · rintro ⟨ha, hb⟩ rest rest' before before' found other hfound hother
    simp only [eq, decide_eq_true_eq, toUuid128_ofUuid ha hfound, toUuid128_ofUuid hb hother]

/-- Wrapping two UUIDs is faithful: their objects are compared as they are, and nothing but the
objects of the UUIDs is read. -/
def WrapsFaithfully (a b : BtUuid) : Prop :=
  ComparesAs a b ∧ ReadsOwnBytes a ∧ ReadsOwnBytes b

end ServiceUuid

open ServiceUuid

/-- Wrapping is faithful for UUIDs of 128 bits only. -/
theorem wrapsFaithfully_iff (a b : BtUuid) :
    WrapsFaithfully a b ↔ a.type = btUuidType128 ∧ b.type = btUuidType128 := by
  have hkind (uuid : BtUuid) :
      uuid.type = btUuidType128 ↔ uuid.type ≠ btUuidType32 ∧ uuid.type ≠ btUuidType16 := by
    cases uuid with
    | uuid16 padding val => simp [BtUuid.type, btUuidType16, btUuidType128]
    | uuid32 padding val => simp [BtUuid.type, btUuidType32, btUuidType128]
    | uuid128 val => simp [BtUuid.type, btUuidType16, btUuidType32, btUuidType128]
  rw [WrapsFaithfully, comparesAs_iff, readsOwnBytes_iff, readsOwnBytes_iff, hkind a, hkind b]
  exact and_and_and_comm

/-- `BT_UUID_GATT_CCC`, as an object of its own. -/
def gattCcc : BtUuid :=
  .uuid16 0 0x2902

/-- Wrapping a UUID of 16 bits reads beyond it. -/
theorem gattCcc_not_wrapsFaithfully : ¬ WrapsFaithfully gattCcc gattCcc := by
  rintro ⟨-, hreads, -⟩
  exact readsOwnBytes_iff.mp hreads rfl

end CrownstoneRouter
