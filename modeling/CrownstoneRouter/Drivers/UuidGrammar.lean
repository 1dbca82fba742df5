import CrownstoneRouter.Drivers.UuidText

/-!
# Texts that are read as UUIDs

`fromFullUuid` does not look at the length of its text but at the number of bytes that `hex2bin`
converts. As `hex2bin` completes an odd number of digits with a leading zero, 16 bytes come of 32
digits and of 31 digits.
-/

namespace CrownstoneRouter

open CheckedMemory

/-- The text with a leading zero in front of an odd number of digits. -/
def completed (text : List UInt8) : List UInt8 :=
  if text.length % 2 = 1 then 0x30 :: text else text

/-- `hex2bin` returns 0 for a text that has other characters than digits or more digits than the
array has room for. Of any other text it converts the completed digits and counts the bytes. -/
structure ConvertsDigits (hex2bin : Hex2Bin) : Prop where
  refuses : ∀ text buf, (∃ c ∈ text, hexValue c = none) → (hex2bin text buf).1 = 0
  overflows : ∀ text buf, btUuidSize128 < (text.length + 1) / 2 → (hex2bin text buf).1 = 0
  counts : ∀ text buf, (∀ c ∈ text, (hexValue c).isSome = true) →
    (text.length + 1) / 2 ≤ btUuidSize128 → (hex2bin text buf).1 = (text.length + 1) / 2
  writes : ∀ text bytes buf, hexBytes (completed text) = some bytes →
    bytes.length ≤ btUuidSize128 → (hex2bin text buf).2 = buf.overlay bytes

/-- The text of a full UUID: 32 hexadecimal digits. -/
def FullText (text : List UInt8) : Prop :=
  text.length = 2 * btUuidSize128 ∧ ∀ c ∈ text, (hexValue c).isSome = true

/-- The texts of 16 completed bytes: 31 or 32 hexadecimal digits. -/
def ConvertedText (text : List UInt8) : Prop :=
  (text.length + 1) / 2 = btUuidSize128 ∧ ∀ c ∈ text, (hexValue c).isSome = true

theorem length_completed (text : List UInt8) :
    (completed text).length = 2 * ((text.length + 1) / 2) := by
  unfold completed
  split_ifs with hodd
  · rw [List.length_cons]
    omega
  · omega

theorem digits_completed_iff {text : List UInt8} :
    (∀ c ∈ completed text, (hexValue c).isSome = true) ↔
      ∀ c ∈ text, (hexValue c).isSome = true := by
  have hzero : (hexValue 0x30).isSome = true := rfl
  unfold completed
  split_ifs with hodd
  · simp [hzero]
  · rfl

theorem exists_hexBytes_completed_iff {text : List UInt8} {count : ℕ} :
    (∃ bytes, hexBytes (completed text) = some bytes ∧ bytes.length = count) ↔
      (text.length + 1) / 2 = count ∧ ∀ c ∈ text, (hexValue c).isSome = true := by
  rw [exists_hexBytes_iff, length_completed, digits_completed_iff]
  refine and_congr_left fun _ ↦ ?_
  omega

theorem FullText.completed_eq {text : List UInt8} (h : FullText text) : completed text = text := by
  have heven : ¬ text.length % 2 = 1 := by
    rw [h.1]
    decide
  exact if_neg heven

/-- A text of 16 completed bytes that is not the text of a full UUID has 31 digits. -/
theorem convertedText_iff {text : List UInt8} :
    ConvertedText text ↔
      FullText text ∨ text.length = 31 ∧ ∀ c ∈ text, (hexValue c).isSome = true := by
  have hlength : (text.length + 1) / 2 = btUuidSize128 ↔
      text.length = 2 * btUuidSize128 ∨ text.length = 31 := by
    simp only [btUuidSize128]
    omega
  rw [ConvertedText, FullText, hlength, or_and_right]

theorem zephyrHex2bin_convertsDigits : ConvertsDigits zephyrHex2bin where
  refuses text buf := by
    rintro ⟨c, hc, hnone⟩
    have hfails : hexBytes (completed text) = none := by
      by_contra hsome
      obtain ⟨bytes, hbytes⟩ := Option.ne_none_iff_exists'.mp hsome
      have hdigit := (exists_hexBytes_completed_iff.mp ⟨bytes, hbytes, rfl⟩).2 c hc
      rw [hnone] at hdigit
      cases hdigit
    rw [completed] at hfails
    simp only [zephyrHex2bin, hfails]
  overflows text buf hlong := by
    unfold zephyrHex2bin
    split
    · rename_i bytes hbytes
      have hlength := (exists_hexBytes_completed_iff.mp ⟨bytes, hbytes, rfl⟩).1
      rw [if_neg (by omega)]
    · rfl
  counts text buf hdigits hfits := by
    obtain ⟨bytes, hbytes, hlength⟩ := exists_hexBytes_completed_iff.mpr ⟨rfl, hdigits⟩
    rw [completed] at hbytes
    simp only [zephyrHex2bin, hbytes, hlength, if_pos hfits]
  writes text bytes buf hbytes hfits := by
    rw [completed] at hbytes
    simp only [zephyrHex2bin, hbytes, if_pos hfits]

namespace ServiceUuid

variable {hex2bin : Hex2Bin}

/-- The completed digits of an accepted text are the value of the UUID in the opposite order. -/
theorem fromFullUuid_accepts (hhex2bin : ConvertsDigits hex2bin) (uuid : ServiceUuid)
    {fullUuid : List UInt8} (h : ConvertedText fullUuid)
    (uuid128Buf : Buffer UInt8 btUuidSize128) :
    ∃ value, hexBytes (completed fullUuid) = some value.reverse ∧
      uuid.fromFullUuid hex2bin fullUuid uuid128Buf = .ok (.ok, uuid.full value) := by
  obtain ⟨bytes, hbytes, hlength⟩ := exists_hexBytes_completed_iff.mpr h
  have hdash : 0x2D ∉ fullUuid := fun hdash ↦ absurd (h.2 _ hdash) (by decide)
  have hcount := hhex2bin.counts fullUuid uuid128Buf h.2 (Nat.le_of_eq h.1)
  have hwritten := hhex2bin.writes fullUuid bytes uuid128Buf hbytes (Nat.le_of_eq hlength)
  refine ⟨bytes.reverse, by rw [hbytes, List.reverse_reverse], ?_⟩
  exact uuid.fromFullUuid_of_converted hdash (Prod.ext (hcount.trans h.1) hwritten) hlength

/-- Of any other text another number of bytes is converted. -/
theorem fromFullUuid_rejects (hhex2bin : ConvertsDigits hex2bin) (uuid : ServiceUuid)
    {fullUuid : List UInt8} (h : ¬ ConvertedText fullUuid)
    (uuid128Buf : Buffer UInt8 btUuidSize128) :
    uuid.fromFullUuid hex2bin fullUuid uuid128Buf = .ok (.invalidParam, uuid) := by
  have hret : (hex2bin fullUuid uuid128Buf).1 ≠ btUuidSize128 := by
    by_cases hdigits : ∀ c ∈ fullUuid, (hexValue c).isSome = true
    · have hcount : (fullUuid.length + 1) / 2 ≠ btUuidSize128 := fun hcount ↦ h ⟨hcount, hdigits⟩
      rcases Nat.lt_or_gt_of_ne hcount with hshort | hlong
      · rwa [hhex2bin.counts fullUuid uuid128Buf hdigits (Nat.le_of_lt hshort)]
      · rw [hhex2bin.overflows fullUuid uuid128Buf hlong]
        decide
    · have hother : ∃ c ∈ fullUuid, hexValue c = none := by simpa using hdigits
      rw [hhex2bin.refuses fullUuid uuid128Buf hother]
      decide
  unfold fromFullUuid
  split_ifs with hdash
  · rfl
  · exact if_pos hret

/-- A text is accepted exactly if it is that of a full UUID, and an object that is not given this
UUID is left as it is. -/
def AcceptsFullText (hex2bin : Hex2Bin) (uuid : ServiceUuid) (fullUuid : List UInt8)
    (uuid128Buf : Buffer UInt8 btUuidSize128) : Prop :=
  ∃ ret stored, uuid.fromFullUuid hex2bin fullUuid uuid128Buf = .ok (ret, stored) ∧
    (ret = .ok ↔ FullText fullUuid) ∧
    (FullText fullUuid →
      ∃ value, hexBytes fullUuid = some value.reverse ∧ stored = uuid.full value) ∧
    (¬ FullText fullUuid → stored = uuid)

/-- A text that is not that of a full UUID must not make 16 bytes. -/
theorem not_acceptsFullText (hhex2bin : ConvertsDigits hex2bin) (uuid : ServiceUuid)
    {fullUuid : List UInt8} (h : ConvertedText fullUuid) (hother : ¬ FullText fullUuid)
    (uuid128Buf : Buffer UInt8 btUuidSize128) :
    ¬ AcceptsFullText hex2bin uuid fullUuid uuid128Buf := by
  rintro ⟨ret, stored, hread, hok, -⟩
  obtain ⟨value, -, haccepted⟩ := uuid.fromFullUuid_accepts hhex2bin h uuid128Buf
  have hret : RetCode.ok = ret := congrArg Prod.fst (Except.ok.inj (haccepted.symm.trans hread))
  exact hother (hok.mp hret.symm)

end ServiceUuid

open ServiceUuid

/-- The reader accepts the texts of full UUIDs and no other ones, except for those with one digit
too few. -/
theorem acceptsFullText_iff {hex2bin : Hex2Bin} (hhex2bin : ConvertsDigits hex2bin)
    (uuid : ServiceUuid) (fullUuid : List UInt8) (uuid128Buf : Buffer UInt8 btUuidSize128) :
    AcceptsFullText hex2bin uuid fullUuid uuid128Buf ↔
      ¬ (fullUuid.length = 31 ∧ ∀ c ∈ fullUuid, (hexValue c).isSome = true) := by
  constructor
  · intro haccepts hshort
    have hother : ¬ FullText fullUuid := by
      intro hfull
      have hlength := hfull.1.symm.trans hshort.1
      exact absurd hlength (by decide)
    have hconverted : ConvertedText fullUuid := convertedText_iff.mpr (.inr hshort)
    exact not_acceptsFullText hhex2bin uuid hconverted hother uuid128Buf haccepts
  · intro hshort
    by_cases hfull : FullText fullUuid
    · obtain ⟨value, hvalue, haccepted⟩ :=
        uuid.fromFullUuid_accepts hhex2bin (convertedText_iff.mpr (.inl hfull)) uuid128Buf
      rw [hfull.completed_eq] at hvalue
      exact ⟨_, _, haccepted, iff_of_true rfl hfull, fun _ ↦ ⟨value, hvalue, rfl⟩,
        fun hother ↦ absurd hfull hother⟩
    · have hother : ¬ ConvertedText fullUuid := by
        rw [convertedText_iff]
        exact not_or.mpr ⟨hfull, hshort⟩
      have hrejected := uuid.fromFullUuid_rejects hhex2bin hother uuid128Buf
      exact ⟨_, _, hrejected, iff_of_false (by decide) hfull, fun h ↦ absurd h hfull, fun _ ↦ rfl⟩

/-- The UUID of the router is read. -/
theorem acceptsFullText_crownstone :
    AcceptsFullText zephyrHex2bin (serviceUuid 0) crownstoneUuid (Buffer.fill _ 0) :=
  (acceptsFullText_iff zephyrHex2bin_convertsDigits _ _ _).mpr fun hshort ↦
    absurd hshort.1 (by decide)

/-- The UUID of the router without its first digit. -/
def shortenedUuid : List UInt8 :=
  crownstoneUuid.drop 1

/-- The shortened text is read as a UUID. -/
theorem shortenedUuid_accepted :
    ¬ AcceptsFullText zephyrHex2bin (serviceUuid 0) shortenedUuid (Buffer.fill _ 0) := by
  have hconverted : ConvertedText shortenedUuid := ⟨rfl, by decide +kernel⟩
  have hother : ¬ FullText shortenedUuid := fun hfull ↦ absurd hfull.1 (by decide)
  exact not_acceptsFullText zephyrHex2bin_convertsDigits (serviceUuid 0) hconverted hother _

end CrownstoneRouter
