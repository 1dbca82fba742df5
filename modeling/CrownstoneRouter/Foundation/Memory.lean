import Mathlib.Data.List.Basic
import Mathlib.Tactic.SplitIfs

/-!
# Bounds-checked C memory

A C array is a list of cells whose length is fixed by its type. Every access goes through `load`,
`store` or `memcpy`, which end in a `Fault` as soon as one cell lies outside the array; a program
over `Checked` therefore has a result only on inputs where its accesses are defined.

Writing an array front to back is the common pattern of packet encoders. `overlay` names the state
of the array after such a prefix has been written, and `store_overlay` extends the prefix by one
more store, so that an encoder is evaluated by rewriting alone.
-/

universe u v

namespace CheckedMemory

/-- The undefined behaviours that an access can run into. -/
inductive Fault
  | outOfBounds
  | nullPointer
  deriving DecidableEq, Repr

/-- A computation that either returns or runs into undefined behaviour. -/
abbrev Checked (α : Type u) := Except Fault α

section Checked

variable {α : Type u} {β : Type v}

@[simp]
theorem bind_ok (value : α) (next : α → Checked β) : (Except.ok value).bind next = next value := rfl

@[simp]
theorem bind_error (fault : Fault) (next : α → Checked β) :
    (Except.error fault : Checked α).bind next = .error fault := rfl

@[simp]
theorem bind_guard (p : Prop) [Decidable p] (value : α) (fault : Fault) (next : α → Checked β) :
    (if p then Except.ok value else Except.error fault : Checked α).bind next =
      if p then next value else .error fault := by
  split_ifs <;> rfl

theorem bind_eq_ok {step : Checked α} {next : α → Checked β} {result : β} :
    step.bind next = .ok result ↔ ∃ value, step = .ok value ∧ next value = .ok result := by
  cases step with
  | ok value => simp
  | error fault => simp

theorem bind_returns_iff {step : Checked α} {next : α → Checked β}
    (hnext : ∀ value, ∃ result, next value = .ok result) :
    (∃ result, step.bind next = .ok result) ↔ ∃ value, step = .ok value := by
  cases step with
  | ok value => simpa using hnext value
  | error fault => simp

theorem map_eq_ok {step : Checked α} {observe : α → β} {result : β} :
    step.map observe = .ok result ↔ ∃ value, step = .ok value ∧ observe value = result := by
  cases step with
  | ok value => simp [Except.map]
  | error fault => simp [Except.map]

/-- What is known of every result of a returning computation is known of its only one. -/
theorem forall_eq_ok_iff {step : Checked α} {result : α} {property : α → Prop}
    (h : step = .ok result) : (∀ value, step = .ok value → property value) ↔ property result := by
  constructor
  · exact fun hall ↦ hall result h
  · intro hresult value hvalue
    rwa [← Except.ok.inj (h.symm.trans hvalue)]

/-- What is known of some result of a returning computation is known of its only one. -/
theorem of_returns {step : Checked α} {result : α} {property : α → Prop}
    (h : ∃ value, step = .ok value ∧ property value) (hresult : step = .ok result) :
    property result := by
  obtain ⟨value, hvalue, hproperty⟩ := h
  exact (forall_eq_ok_iff hvalue).mpr hproperty result hresult

theorem guard_guard (p q : Prop) [Decidable p] [Decidable q] (value : Checked α) (fault : Fault) :
    (if p then if q then value else .error fault else .error fault) =
      if p ∧ q then value else .error fault := by
  rw [ite_and]

theorem guard_eq_ok {p : Prop} [Decidable p] {value result : α} {fault : Fault} :
    (if p then Except.ok value else Except.error fault : Checked α) = .ok result ↔
      p ∧ value = result := by
  split_ifs with hp <;> simp [hp]

end Checked

/-- An array of `size` cells. -/
@[ext]
structure Buffer (α : Type u) (size : ℕ) where
  cells : List α
  length_cells : cells.length = size
  deriving DecidableEq

namespace Buffer

variable {α : Type u} {size target : ℕ}

attribute [simp] length_cells

abbrev ofList (cells : List α) : Buffer α cells.length :=
  ⟨cells, rfl⟩

/-- The array that `memset` leaves behind. -/
def fill (size : ℕ) (value : α) : Buffer α size :=
  ⟨List.replicate size value, List.length_replicate⟩

@[simp]
theorem cells_fill (value : α) : (fill size value).cells = List.replicate size value := rfl

def reverse (buffer : Buffer α size) : Buffer α size :=
  ⟨buffer.cells.reverse, by simp⟩

@[simp]
theorem cells_reverse (buffer : Buffer α size) : buffer.reverse.cells = buffer.cells.reverse := rfl

/-- The `count` cells from `position` on. -/
def slice (buffer : Buffer α size) (position count : ℕ) : List α :=
  (buffer.cells.drop position).take count

theorem length_slice (buffer : Buffer α size) (position count : ℕ) (h : position + count ≤ size) :
    (buffer.slice position count).length = count := by
  simp only [slice, List.length_take, List.length_drop, length_cells]
  omega

@[simp]
theorem slice_all (buffer : Buffer α size) : buffer.slice 0 size = buffer.cells :=
  List.take_of_length_le (Nat.le_of_eq (by simp))

/-- Read `count` cells from `position` on. -/
def load (buffer : Buffer α size) (position count : ℕ) : Checked (List α) :=
  if position + count ≤ size then .ok (buffer.slice position count) else .error .outOfBounds

/-- The array with `bytes` laid over it from `position` on. -/
def patch (buffer : Buffer α size) (position : ℕ) (bytes : List α) : Buffer α size :=
  ⟨(buffer.cells.take position ++ bytes ++ buffer.cells.drop (position + bytes.length)).take size, by
    simp only [List.length_take, List.length_append, List.length_drop, length_cells]
    omega⟩

/-- Write `bytes` from `position` on. -/
def store (buffer : Buffer α size) (position : ℕ) (bytes : List α) : Checked (Buffer α size) :=
  if position + bytes.length ≤ size then .ok (buffer.patch position bytes) else .error .outOfBounds

/-- Copy `count` cells of `source` to `position` of `buffer`. -/
def memcpy (buffer : Buffer α size) (position : ℕ) (source : Buffer α target) (start count : ℕ) :
    Checked (Buffer α size) := do
  let bytes ← source.load start count
  buffer.store position bytes

/-- The array after its first cells have been overwritten by `bytes`. -/
def overlay (buffer : Buffer α size) (bytes : List α) : Buffer α size :=
  buffer.patch 0 bytes

theorem cells_patch (buffer : Buffer α size) {position : ℕ} {bytes : List α}
    (h : position + bytes.length ≤ size) :
    (buffer.patch position bytes).cells =
      buffer.cells.take position ++ bytes ++ buffer.cells.drop (position + bytes.length) := by
  apply List.take_of_length_le
  simp only [List.length_append, List.length_take, List.length_drop, length_cells]
  omega

theorem cells_overlay (buffer : Buffer α size) {bytes : List α} (h : bytes.length ≤ size) :
    (buffer.overlay bytes).cells = bytes ++ buffer.cells.drop bytes.length := by
  have hfits : 0 + bytes.length ≤ size := by omega
  simp [overlay, cells_patch buffer hfits]

theorem cells_patch_singleton (buffer : Buffer α size) {position : ℕ} (h : position < size)
    (value : α) : (buffer.patch position [value]).cells = buffer.cells.set position value := by
  have hlength : position < buffer.cells.length := by simpa using h
  have hfits : position + [value].length ≤ size := h
  rw [cells_patch buffer hfits, List.set_eq_take_append_cons_drop, if_pos hlength]
  simp

theorem store_singleton_eq_ok {buffer next : Buffer α size} {position : ℕ} {value : α}
    (h : buffer.store position [value] = .ok next) :
    position < size ∧ next.cells = buffer.cells.set position value := by
  obtain ⟨hfits, rfl⟩ := guard_eq_ok.mp h
  have hposition : position < size := hfits
  exact ⟨hposition, cells_patch_singleton buffer hposition value⟩

@[simp]
theorem store_zero (buffer : Buffer α size) (bytes : List α) :
    buffer.store 0 bytes =
      if bytes.length ≤ size then .ok (buffer.overlay bytes) else .error .outOfBounds := by
  simp [store, overlay]

/-- A store right behind the written prefix extends the prefix. -/
theorem store_overlay (buffer : Buffer α size) (written bytes : List α) {position : ℕ}
    (hposition : position = written.length) :
    (buffer.overlay written).store position bytes =
      if written.length + bytes.length ≤ size then .ok (buffer.overlay (written ++ bytes))
      else .error .outOfBounds := by
  subst hposition
  refine if_ctx_congr Iff.rfl (fun hfits ↦ ?_) (fun _ ↦ rfl)
  congr 1
  ext1
  have hwritten : written.length ≤ size := by omega
  rw [cells_patch _ hfits, cells_overlay _ hwritten,
    cells_overlay _ (by simpa using hfits)]
  simp [List.drop_append, List.drop_drop]

theorem take_slice (buffer : Buffer α size) (position count : ℕ) {front : ℕ} (h : front ≤ count) :
    (buffer.slice position count).take front = buffer.slice position front := by
  simp [slice, List.take_take, h]

theorem drop_slice (buffer : Buffer α size) (position count front : ℕ) :
    (buffer.slice position count).drop front = buffer.slice (position + front) (count - front) := by
  simp [slice, List.drop_take, List.drop_drop]

theorem patch_nil (buffer : Buffer α size) {position : ℕ} (h : position ≤ size) :
    buffer.patch position [] = buffer := by
  ext1
  rw [cells_patch buffer (by simpa using h)]
  simp

theorem slice_patch_of_le (buffer : Buffer α size) {position start count : ℕ} {bytes : List α}
    (h : position + bytes.length ≤ size) (hcount : start + count ≤ position) :
    (buffer.patch position bytes).slice start count = buffer.slice start count := by
  have hlength : (buffer.cells.take position).length = position := by
    rw [List.length_take, length_cells]
    omega
  rw [slice, slice, cells_patch buffer h, List.append_assoc,
    List.drop_append_of_le_length (by omega),
    List.take_append_of_le_length (by rw [List.length_drop]; omega), List.drop_take,
    List.take_take, Nat.min_eq_left (by omega)]

theorem slice_patch_of_ge (buffer : Buffer α size) {position start : ℕ} {bytes : List α}
    (h : position + bytes.length ≤ size) (hstart : position + bytes.length ≤ start) (count : ℕ) :
    (buffer.patch position bytes).slice start count = buffer.slice start count := by
  have hlength : (buffer.cells.take position ++ bytes).length = position + bytes.length := by
    rw [List.length_append, List.length_take, length_cells]
    omega
  rw [slice, slice, cells_patch buffer h, List.drop_append, hlength,
    List.drop_eq_nil_of_le (by omega), List.nil_append, List.drop_drop]
  congr 2
  omega

/-- A slice apart from a written part. -/
theorem slice_patch_of_disjoint (buffer : Buffer α size) {position start count : ℕ} {bytes : List α}
    (h : position + bytes.length ≤ size)
    (hdisjoint : bytes.length = 0 ∨ count = 0 ∨ start + count ≤ position ∨
      position + bytes.length ≤ start) :
    (buffer.patch position bytes).slice start count = buffer.slice start count := by
  rcases hdisjoint with hbytes | rfl | hfront | hrest
  · obtain rfl : bytes = [] := List.length_eq_zero_iff.mp hbytes
    rw [patch_nil buffer (by simpa using h)]
  · simp [slice]
  · exact slice_patch_of_le buffer h hfront
  · exact slice_patch_of_ge buffer h hrest count

theorem slice_patch (buffer : Buffer α size) {position : ℕ} {bytes : List α}
    (h : position + bytes.length ≤ size) :
    (buffer.patch position bytes).slice 0 (position + bytes.length) =
      buffer.slice 0 position ++ bytes := by
  have hlength : (buffer.cells.take position ++ bytes).length = position + bytes.length := by
    rw [List.length_append, List.length_take, length_cells]
    omega
  rw [slice, slice, cells_patch buffer h, List.drop_zero, List.drop_zero, ← hlength,
    List.take_left]

theorem slice_patch_singleton (buffer : Buffer α size) {position : ℕ} (h : position < size)
    (value : α) :
    (buffer.patch position [value]).slice 0 (position + 1) = buffer.slice 0 position ++ [value] :=
  slice_patch buffer (Nat.succ_le_of_lt h : position + [value].length ≤ size)

theorem slice_of_store {buffer next : Buffer α size} {position : ℕ} {value : α}
    (h : buffer.store position [value] = .ok next) :
    next.slice 0 position = buffer.slice 0 position ∧
      next.slice 0 (position + 1) = buffer.slice 0 position ++ [value] := by
  obtain ⟨hfits, rfl⟩ := guard_eq_ok.mp h
  have hfront : 0 + position ≤ position := Nat.le_of_eq (Nat.zero_add position)
  exact ⟨slice_patch_of_le buffer hfits hfront, slice_patch buffer hfits⟩

theorem slice_overlay (buffer : Buffer α size) {bytes : List α} (h : bytes.length ≤ size) :
    (buffer.overlay bytes).slice 0 bytes.length = bytes := by
  simp [slice, cells_overlay buffer h]

/-- Writing into the written prefix replaces a part of it. -/
theorem patch_overlay (buffer : Buffer α size) {before old part after : List α} {position : ℕ}
    (hposition : position = before.length) (hpart : part.length = old.length)
    (h : (before ++ old ++ after).length ≤ size) :
    (buffer.overlay (before ++ old ++ after)).patch position part =
      buffer.overlay (before ++ part ++ after) := by
  subst hposition
  simp only [List.length_append] at h
  ext1
  rw [cells_patch _ (by omega), cells_overlay _ (by simp only [List.length_append]; omega),
    cells_overlay _ (by simp only [List.length_append]; omega)]
  simp [List.drop_append, hpart]

theorem overlay_slice (buffer : Buffer α size) {count : ℕ} (h : count ≤ size) :
    buffer.overlay (buffer.slice 0 count) = buffer := by
  have hlength := buffer.length_slice 0 count (by omega)
  ext1
  rw [cells_overlay buffer (Nat.le_trans (Nat.le_of_eq hlength) h), hlength]
  simp [slice]

theorem load_overlay_append (buffer : Buffer α size) (before part : List α) {position count : ℕ}
    (hposition : position = before.length) (hcount : count = part.length) :
    (buffer.overlay (before ++ part)).load position count =
      if before.length + part.length ≤ size then .ok part else .error .outOfBounds := by
  subst hposition hcount
  refine if_ctx_congr Iff.rfl (fun hfits ↦ ?_) (fun _ ↦ rfl)
  rw [slice, cells_overlay buffer (by simpa using hfits), List.append_assoc,
    List.drop_left, List.take_left]

theorem overlay_overlay (buffer : Buffer α size) {before after : List α}
    (hle : before.length ≤ after.length) (h : after.length ≤ size) :
    (buffer.overlay before).overlay after = buffer.overlay after := by
  ext1
  rw [cells_overlay _ h, cells_overlay _ h, cells_overlay buffer (Nat.le_trans hle h)]
  simp [List.drop_append, List.drop_eq_nil_of_le hle, hle]

theorem memcpy_eq (buffer : Buffer α size) (position : ℕ) (source : Buffer α target)
    (start count : ℕ) :
    buffer.memcpy position source start count =
      if start + count ≤ target then buffer.store position (source.slice start count)
      else .error .outOfBounds := by
  simp only [memcpy, load, bind, bind_guard]

theorem memcpy_of_fits (buffer : Buffer α size) {position : ℕ} (source : Buffer α target)
    {start count : ℕ} (hsource : start + count ≤ target) (hfits : position + count ≤ size) :
    buffer.memcpy position source start count =
      .ok (buffer.patch position (source.slice start count)) := by
  rw [memcpy_eq, if_pos hsource]
  exact if_pos (by rwa [length_slice source start count hsource])

/-- What a copy that returns has written. -/
theorem memcpy_eq_ok {buffer next : Buffer α size} {position : ℕ} {source : Buffer α target}
    {start count : ℕ} (h : buffer.memcpy position source start count = .ok next) :
    position + count ≤ size ∧ (source.slice start count).length = count ∧
      next = buffer.patch position (source.slice start count) := by
  rw [memcpy_eq] at h
  split_ifs at h with hsource
  have hlength := source.length_slice start count hsource
  obtain ⟨hfits, rfl⟩ := guard_eq_ok.mp h
  rw [hlength] at hfits
  exact ⟨hfits, hlength, rfl⟩

/-- What has been copied is read back. -/
theorem slice_of_memcpy {buffer next : Buffer α size} {position : ℕ} {source : Buffer α target}
    {start count : ℕ} (h : buffer.memcpy position source start count = .ok next) :
    next.slice position count = source.slice start count := by
  obtain ⟨hfits, hlength, rfl⟩ := memcpy_eq_ok h
  have hfront : (buffer.cells.take position).length = position := by
    rw [List.length_take, length_cells]
    omega
  have hpatch : position + (source.slice start count).length ≤ size := by rwa [hlength]
  have hskip : (buffer.patch position (source.slice start count)).cells.drop position =
      source.slice start count ++
        buffer.cells.drop (position + (source.slice start count).length) := by
    rw [cells_patch buffer hpatch, List.append_assoc, List.drop_left' hfront]
  rw [slice, hskip, List.take_left' hlength]

theorem memcpy_of_eq_ok {buffer next : Buffer α size} {position : ℕ} {source : Buffer α target}
    {start count : ℕ} (h : buffer.memcpy position source start count = .ok next)
    (other : Buffer α size) :
    other.memcpy position source start count =
      .ok (other.patch position (source.slice start count)) := by
  rw [memcpy_eq] at h ⊢
  split_ifs at h with hsource
  rw [if_pos hsource]
  exact if_pos (guard_eq_ok.mp h).1

theorem memcpy_zero (buffer : Buffer α size) (source : Buffer α target) (start count : ℕ) :
    buffer.memcpy 0 source start count =
      if start + count ≤ target ∧ count ≤ size then
        .ok (buffer.overlay (source.slice start count))
      else .error .outOfBounds := by
  rw [memcpy_eq, ← guard_guard]
  refine if_ctx_congr Iff.rfl (fun hsource ↦ ?_) (fun _ ↦ rfl)
  rw [store_zero, length_slice source start count hsource]

end Buffer

end CheckedMemory
