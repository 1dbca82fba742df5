import CrownstoneRouter.Drivers.BleEvents

/-!
# Texts of Bluetooth addresses

`bt_addr_le_from_str` and `bt_addr_le_to_str` belong to the Bluetooth stack. The model takes them as
parameters, and what their documentation promises is stated here: the first one accepts exactly the
texts `XX:XX:XX:XX:XX:XX`, the second one puts the type of the address behind such a text.
-/

namespace CrownstoneRouter

open CheckedMemory

/-! ## Hexadecimal texts -/

/-- The value of a hexadecimal digit. -/
def hexValue (c : UInt8) : Option UInt8 :=
  if 0x30 ≤ c ∧ c ≤ 0x39 then some (c - 0x30)
  else if 0x41 ≤ c ∧ c ≤ 0x46 then some (c - 0x37)
  else if 0x61 ≤ c ∧ c ≤ 0x66 then some (c - 0x57)
  else none

def hexByte (high low : UInt8) : Option UInt8 :=
  (hexValue high).bind fun high ↦ (hexValue low).map fun low ↦ high * 16 + low

/-- The bytes of a text of hexadecimal digits in pairs, with a colon between two pairs. -/
def hexPairs : List UInt8 → Option (List UInt8)
  | [high, low] => (hexByte high low).map fun byte ↦ [byte]
  | high :: low :: colon :: rest =>
      if colon = 0x3A then
        (hexByte high low).bind fun byte ↦ (hexPairs rest).map fun bytes ↦ byte :: bytes
      else none
  | _ => none

/-- `BT_ADDR_LE_RANDOM`, the type that `CS_BLE_CENTRAL_ADDR_TYPE_RANDOM_STR` names. -/
def addrTypeRandom : UInt8 := 1

/-- The address that a well-formed text denotes, the last byte of the text first. -/
def addrOfText (str : List UInt8) : Option BtAddr :=
  (hexPairs str).bind fun bytes ↦
    if h : bytes.reverse.length = 6 then some { type := addrTypeRandom, val := ⟨bytes.reverse, h⟩ }
    else none

/-- A text of bytes begins with a pair, behind which it ends or goes on after a colon. -/
theorem hexPairs_cases {str bytes : List UInt8} (h : hexPairs str = some bytes) :
    ∃ high low byte, hexByte high low = some byte ∧
      (str = [high, low] ∧ bytes = [byte] ∨
        ∃ rest others, str = high :: low :: 0x3A :: rest ∧ bytes = byte :: others ∧
          hexPairs rest = some others) := by
  unfold hexPairs at h
  split at h
  · obtain ⟨byte, hbyte, rfl⟩ := Option.map_eq_some_iff.mp h
    exact ⟨_, _, byte, hbyte, .inl ⟨rfl, rfl⟩⟩
  · split_ifs at h with hcolon
    obtain ⟨byte, hbyte, hrest⟩ := Option.bind_eq_some_iff.mp h
    obtain ⟨others, hothers, rfl⟩ := Option.map_eq_some_iff.mp hrest
    exact ⟨_, _, byte, hbyte, .inr ⟨_, others, by rw [hcolon], rfl, hothers⟩⟩
  · cases h

theorem hexPairs_ne_nil {str : List UInt8} : hexPairs str ≠ some [] := by
  intro h
  obtain ⟨_, _, byte, _, ⟨_, hnil⟩ | ⟨_, others, _, hnil, _⟩⟩ := hexPairs_cases h
  · cases hnil
  · cases hnil

/-- Every pair but the last one has a colon behind it. -/
theorem length_of_hexPairs {str bytes : List UInt8} (h : hexPairs str = some bytes) :
    str.length + 1 = 3 * bytes.length := by
  induction bytes generalizing str with
  | nil => exact absurd h hexPairs_ne_nil
  | cons first bytes ih =>
    obtain ⟨high, low, byte, -, ⟨rfl, hbytes⟩ | ⟨rest, others, rfl, hbytes, hrest⟩⟩ :=
      hexPairs_cases h
    · rw [hbytes]
      rfl
    · obtain ⟨rfl, rfl⟩ := List.cons.inj hbytes
      have hlength := ih hrest
      simp only [List.length_cons]
      omega

theorem ne_zero_of_hexValue {c value : UInt8} (h : hexValue c = some value) : c ≠ 0 := by
  rintro rfl
  have hnone : hexValue 0 = none := rfl
  rw [hnone] at h
  cases h

theorem zero_notMem_of_hexPairs {str bytes : List UInt8} (h : hexPairs str = some bytes) :
    0 ∉ str := by
  have hpair {high low byte : UInt8} (hbyte : hexByte high low = some byte) :
      high ≠ 0 ∧ low ≠ 0 := by
    obtain ⟨first, hfirst, hsecond⟩ := Option.bind_eq_some_iff.mp hbyte
    obtain ⟨second, hsecond, -⟩ := Option.map_eq_some_iff.mp hsecond
    exact ⟨ne_zero_of_hexValue hfirst, ne_zero_of_hexValue hsecond⟩
  induction bytes generalizing str with
  | nil => exact absurd h hexPairs_ne_nil
  | cons first bytes ih =>
    obtain ⟨high, low, byte, hbyte, ⟨rfl, -⟩ | ⟨rest, others, rfl, hbytes, hrest⟩⟩ :=
      hexPairs_cases h
    · obtain ⟨hhigh, hlow⟩ := hpair hbyte
      simp [hhigh.symm, hlow.symm]
    · obtain ⟨rfl, rfl⟩ := List.cons.inj hbytes
      obtain ⟨hhigh, hlow⟩ := hpair hbyte
      simp [hhigh.symm, hlow.symm, ih hrest]

abbrev addrTextLen : ℕ := 17

theorem hexPairs_of_addrOfText {str : List UInt8} {addr : BtAddr} (h : addrOfText str = some addr) :
    ∃ bytes, hexPairs str = some bytes ∧ bytes.length = 6 := by
  obtain ⟨bytes, hbytes, haddr⟩ := Option.bind_eq_some_iff.mp h
  split_ifs at haddr with hlength
  exact ⟨bytes, hbytes, by simpa using hlength⟩

theorem length_of_addrOfText {str : List UInt8} {addr : BtAddr} (h : addrOfText str = some addr) :
    str.length = addrTextLen := by
  obtain ⟨bytes, hbytes, hsix⟩ := hexPairs_of_addrOfText h
  have hlength := length_of_hexPairs hbytes
  rw [hsix] at hlength
  exact Nat.succ.inj hlength

theorem zero_notMem_of_addrOfText {str : List UInt8} {addr : BtAddr}
    (h : addrOfText str = some addr) : 0 ∉ str := by
  obtain ⟨bytes, hbytes, -⟩ := hexPairs_of_addrOfText h
  exact zero_notMem_of_hexPairs hbytes

/-! ## The functions of the stack -/

namespace BtAddrText

/-- `bt_addr_le_from_str` does not touch the address for a text of another length. -/
structure KeepsAddress (text : BtAddrText) : Prop where
  rejected : ∀ str old, str.length ≠ addrTextLen → (text.fromStr str old).1 < 0
  kept : ∀ str old, str.length ≠ addrTextLen → (text.fromStr str old).2 = old

/-- `bt_addr_le_from_str` accepts the well-formed texts, whatever the address has been before, and
no other text. -/
structure ReadsAddress (text : BtAddrText) : Prop extends KeepsAddress text where
  accepts : ∀ str old addr, addrOfText str = some addr → text.fromStr str old = (0, addr)
  rejects : ∀ str old, addrOfText str = none → (text.fromStr str old).1 < 0

/-- `bt_addr_le_to_str` puts the type in parentheses behind the bytes. -/
def AppendsType (text : BtAddrText) : Prop :=
  ∀ addr, ∃ bytes type, bytes.length = addrTextLen ∧
    text.toStr addr = bytes ++ [0x20, 0x28] ++ type ++ [0x29]

/-- What `bt_addr_le_to_str` returns is never accepted, and leaves the address as it is. -/
theorem KeepsAddress.fromStr_toStr {text : BtAddrText} (h : text.KeepsAddress)
    (hsuffix : text.AppendsType) (addr old : BtAddr) :
    (text.fromStr (text.toStr addr) old).2 = old := by
  obtain ⟨bytes, type, hbytes, hstr⟩ := hsuffix addr
  apply h.kept
  rw [hstr]
  simp only [List.length_append, List.length_cons, List.length_nil, hbytes]
  omega

end BtAddrText

def hexDigit (value : UInt8) : UInt8 :=
  if value < 10 then value + 0x30 else value + 0x37

/-- The bytes of an address as text, the last byte first. -/
def textOfBytes (val : Buffer UInt8 6) : List UInt8 :=
  ((val.cells.reverse.map fun byte ↦ [hexDigit (byte / 16), hexDigit (byte % 16)]).intersperse
    [0x3A]).flatten

/-- The conversions as the stack does them for the addresses below. -/
def zephyrText : BtAddrText where
  fromStr str old :=
    match addrOfText str with
    | some addr => (0, addr)
    | none => (-22, old)
  toStr addr := textOfBytes addr.val ++ [0x20, 0x28] ++
    (if addr.type = addrTypeRandom then "random" else "public").toList.map
      (fun c ↦ UInt8.ofNat c.toNat) ++ [0x29]

theorem length_textOfBytes (val : Buffer UInt8 6) : (textOfBytes val).length = addrTextLen := by
  obtain ⟨cells, hcells⟩ := val
  match cells, hcells with
  | [_, _, _, _, _, _], _ => rfl

theorem zephyrText_appendsType : zephyrText.AppendsType := fun addr ↦
  ⟨textOfBytes addr.val, _, length_textOfBytes addr.val, rfl⟩

theorem zephyrText_readsAddress : zephyrText.ReadsAddress where
  rejected str old hlength := by
    cases haddr : addrOfText str with
    | none => simp [zephyrText, haddr]
    | some addr => exact absurd (length_of_addrOfText haddr) hlength
  kept str old hlength := by
    cases haddr : addrOfText str with
    | none => simp [zephyrText, haddr]
    | some addr => exact absurd (length_of_addrOfText haddr) hlength
  accepts str old addr haddr := by simp [zephyrText, haddr]
  rejects str old haddr := by simp [zephyrText, haddr]

def crownstoneText : List UInt8 :=
  "C0:FF:EE:00:00:0A".toList.map fun c ↦ UInt8.ofNat c.toNat

def crownstoneAddr : BtAddr where
  type := addrTypeRandom
  val := (Buffer.fill 6 0).overlay [0x0A, 0x00, 0x00, 0xEE, 0xFF, 0xC0]

example : addrOfText crownstoneText = some crownstoneAddr := by decide +kernel

end CrownstoneRouter
