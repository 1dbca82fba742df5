import CrownstoneRouter.Drivers.BleDriver
import Mathlib.Data.List.Infix
import Mathlib.Data.List.Pairwise

/-!
# The attributes of a peripheral

A GATT database is a table of attributes in the order of their handles. The declaration of a service
stands before its characteristics, that of a characteristic before its value, and the descriptors of
a characteristic behind the value. A discovery reports the attributes of a kind in a range of
handles.
-/

namespace CrownstoneRouter

open CheckedMemory

/-- What an attribute is. -/
inductive AttrKind
  | primary
  | secondary
  | included
  | characteristic
  | value
  | descriptor
  deriving DecidableEq

/-- An attribute of a peripheral, with what the stack makes of it for a report. -/
structure DbAttr extends GattAttr where
  kind : AttrKind
  deriving DecidableEq

namespace DbAttr

def uuid128 (attr : DbAttr) : List UInt8 :=
  ServiceUuid.toUuid128 { uuid := attr.uuid }

def hasUuid (uuid : ServiceUuid) (attr : DbAttr) : Bool :=
  attr.uuid128 = uuid.toUuid128

/-- The UUID of the attribute is one that the protocol carries: it has 16 or 128 bits. -/
def Carried (attr : DbAttr) : Prop :=
  byteAt attr.uuid 0 = btUuidType16 ∨ byteAt attr.uuid 0 = btUuidType128

def DeclaresService (attr : DbAttr) : Prop :=
  attr.kind = .primary ∨ attr.kind = .secondary

instance (attr : DbAttr) : Decidable attr.DeclaresService :=
  inferInstanceAs (Decidable (_ ∨ _))

instance (attr : DbAttr) : Decidable attr.Carried :=
  inferInstanceAs (Decidable (_ ∨ _))

/-- The kind of the attributes that a discovery looks for. -/
def kindOf : DiscoverType → AttrKind
  | .primary => .primary
  | .characteristic => .characteristic
  | .descriptor => .descriptor

/-- A discovery reports the attribute. -/
def Matches (params : GattDiscoverParams) (attr : DbAttr) : Prop :=
  params.startHandle ≤ attr.handle ∧ attr.handle ≤ params.endHandle ∧
    attr.kind = kindOf params.type ∧ ∀ uuid ∈ params.uuid, attr.hasUuid uuid = true

instance (params : GattDiscoverParams) (attr : DbAttr) : Decidable (attr.Matches params) :=
  inferInstanceAs (Decidable (_ ∧ _ ∧ _ ∧ _))

end DbAttr

/-- The attributes of a peripheral. The value of a characteristic is directly behind its
declaration. -/
structure GattDb where
  attrs : List DbAttr
  increasing : attrs.Pairwise (·.handle < ·.handle)
  positive : ∀ attr ∈ attrs, 0 < attr.handle
  carried : ∀ attr ∈ attrs, attr.Carried
  valued : ∀ attr ∈ attrs, attr.kind = .characteristic →
    ∃ value ∈ attrs, [attr, value] <:+: attrs ∧ value.kind = .value ∧
      value.handle = attr.valueHandle

namespace GattDb

/-- What `bt_gatt_discover` reports, in the order of the handles. -/
def reports (db : GattDb) (params : GattDiscoverParams) : List DbAttr :=
  db.attrs.filter fun attr ↦ attr.Matches params

def servicesReported (db : GattDb) (uuid : Option ServiceUuid) : List DbAttr :=
  db.reports { uuid, startHandle := firstAttributeHandle, endHandle := 255, type := .primary }

def characteristicsReported (db : GattDb) (startHandle : UInt16) : List DbAttr :=
  db.reports { uuid := none, startHandle, endHandle := 255, type := .characteristic }

def descriptorsReported (db : GattDb) (uuid : ServiceUuid) (startHandle : UInt16) : List DbAttr :=
  db.reports { uuid := some uuid, startHandle, endHandle := startHandle + 1, type := .descriptor }

/-- The attribute belongs to the service: no other service begins between them. -/
def InService (db : GattDb) (service attr : DbAttr) : Prop :=
  service.handle < attr.handle ∧ ∀ other ∈ db.attrs, other.DeclaresService →
    other.handle ≤ service.handle ∨ attr.handle < other.handle

instance (db : GattDb) (service attr : DbAttr) : Decidable (db.InService service attr) :=
  inferInstanceAs (Decidable (_ ∧ _))

variable {db : GattDb} {attr other : DbAttr} {params : GattDiscoverParams}

theorem mem_reports : attr ∈ db.reports params ↔ attr ∈ db.attrs ∧ attr.Matches params := by
  simp [reports]

theorem reports_increasing (db : GattDb) (params : GattDiscoverParams) :
    (db.reports params).Pairwise (·.handle < ·.handle) :=
  db.increasing.filter _

theorem reports_carried (db : GattDb) (params : GattDiscoverParams) :
    ∀ attr ∈ db.reports params, attr.Carried :=
  fun attr hattr ↦ db.carried attr (mem_reports.mp hattr).1

/-- Nothing stands between an attribute and the one directly behind it. -/
theorem adjacent {left right : DbAttr} (h : [left, right] <:+: db.attrs) :
    left.handle < right.handle ∧
      ∀ other ∈ db.attrs, other.handle ≤ left.handle ∨ right.handle ≤ other.handle := by
  obtain ⟨before, after, hattrs⟩ := h
  have hsorted := db.increasing
  simp only [← hattrs, List.pairwise_append, List.pairwise_cons, List.mem_append, List.mem_cons,
    List.not_mem_nil, or_false] at hsorted
  obtain ⟨⟨-, ⟨hpair, -⟩, hbefore⟩, -, hafter⟩ := hsorted
  refine ⟨hpair right rfl, fun other hother ↦ ?_⟩
  simp only [← hattrs, List.mem_append, List.mem_cons, List.not_mem_nil, or_false] at hother
  rcases hother with (hother | rfl | rfl) | hother
  · exact .inl (UInt16.le_of_lt (hbefore other hother left (.inl rfl)))
  · exact .inl UInt16.le_rfl
  · exact .inr UInt16.le_rfl
  · exact .inr (UInt16.le_of_lt (hafter right (.inr (.inr rfl)) other hother))

theorem eq_of_handle_eq (hattr : attr ∈ db.attrs) (hother : other ∈ db.attrs)
    (h : attr.handle = other.handle) : attr = other := by
  have hsymm : Std.Symm fun first second : DbAttr ↦ first.handle ≠ second.handle :=
    ⟨fun _ _ hne ↦ hne.symm⟩
  have hdistinct : db.attrs.Pairwise fun first second ↦ first.handle ≠ second.handle :=
    db.increasing.imp UInt16.ne_of_lt
  by_contra hne
  exact hdistinct.forall hattr hother hne h

/-- The value handle tells the characteristics apart. -/
theorem eq_of_valueHandle_eq (hattr : attr ∈ db.attrs) (hkind : attr.kind = .characteristic)
    (hother : other ∈ db.attrs) (hotherKind : other.kind = .characteristic)
    (h : attr.valueHandle = other.valueHandle) : attr = other := by
  obtain ⟨value, -, hvalue, -, hhandle⟩ := db.valued attr hattr hkind
  obtain ⟨otherValue, -, hotherValue, -, hotherHandle⟩ := db.valued other hother hotherKind
  have hsame : value.handle = otherValue.handle := by rw [hhandle, hotherHandle, h]
  obtain ⟨hlt, hbetween⟩ := adjacent hvalue
  obtain ⟨hotherLt, hotherBetween⟩ := adjacent hotherValue
  refine eq_of_handle_eq hattr hother ?_
  have hle := hbetween other hother
  have hge := hotherBetween attr hattr
  grind

theorem handle_lt_valueHandle (hattr : attr ∈ db.attrs) (hkind : attr.kind = .characteristic) :
    attr.handle < attr.valueHandle := by
  obtain ⟨value, -, hvalue, -, hhandle⟩ := db.valued attr hattr hkind
  exact hhandle ▸ (adjacent hvalue).1

end GattDb

end CrownstoneRouter
