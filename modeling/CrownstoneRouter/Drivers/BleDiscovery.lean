import CrownstoneRouter.Drivers.BleEvents
import CrownstoneRouter.Drivers.GattDb
import CrownstoneRouter.Foundation.LastWrite

/-!
# Discovery of the service

The driver looks for its service, then for characteristics behind the declaration of the service,
and then for the descriptor behind the result characteristic, to which it subscribes. Each of these
discoveries is started by the last callback of the one before. All of them end at handle 255, and
the one for characteristics does not end with the service.
-/

namespace CrownstoneRouter

open CheckedMemory LastWrite DbAttr

/-- `BT_UUID_GATT_CCC` -/
def gattCccUuid : ServiceUuid where
  uuid := (Buffer.fill sizeofBleUuid 0).overlay [btUuidType16, 0, 0x02, 0x29]

/-- The UUID of a characteristic of a service. -/
def characteristicUuid (base : ServiceUuid) (shortUuid : UInt16) : ServiceUuid :=
  base.derived base shortUuid

def BleCall.discovery : BleCall → Option (ℕ × GattDiscoverParams)
  | .gattDiscover (some conn) params => some (conn, params)
  | _ => none

/-- The handles of the value and of the descriptor that a call subscribes to. -/
def BleCall.subscription : BleCall → Option (UInt16 × UInt16)
  | .gattSubscribe _ params => some (params.valueHandle, params.cccHandle)
  | _ => none

/-- The value handle that the reports of characteristics leave for the ones with the UUID. -/
abbrev valueHandleAfter (uuid : ServiceUuid) (held : UInt16) (attrs : List DbAttr) : UInt16 :=
  lastWrite (hasUuid uuid) (·.valueHandle) held attrs

/-- The handle behind the last attribute with the UUID that is reported. -/
abbrev handleBehind (uuid : ServiceUuid) (held : UInt16) (attrs : List DbAttr) : UInt16 :=
  lastWrite (hasUuid uuid) (·.handle + 1) held attrs

namespace BleDriver

/-- The callbacks of a discovery, until one of them asks to stop. `fresh` is what the UUIDs in a
callback hold before they are constructed. -/
def reportAll (fresh : Option DbAttr → ServiceUuid) (conn : ℕ) :
    List (Option DbAttr) → BleDriver → Checked (BleDriver × List BleCall)
  | [], ble => return (ble, [])
  | attr :: rest, ble => do
      let (iter, ble, calls) ←
        ble.handleDiscoveryResults conn (attr.map DbAttr.toGattAttr) (fresh attr)
      match iter with
      | .stop => return (ble, calls)
      | .continue =>
          let (ble, later) ← reportAll fresh conn rest ble
          return (ble, calls ++ later)

/-- The discovery that is among the calls, and the ones that its callbacks start, if there are at
most `rounds` of them. A discovery reports its attributes and then a null pointer. -/
def discoverAll (db : GattDb) (fresh : Option DbAttr → ServiceUuid) :
    ℕ → BleDriver → List BleCall → Checked (Option (BleDriver × List BleCall))
  | 0, ble, calls =>
      return if calls.findSome? BleCall.discovery = none then some (ble, calls) else none
  | rounds + 1, ble, calls =>
      match calls.findSome? BleCall.discovery with
      | none => return some (ble, calls)
      | some (conn, params) => do
          let (ble, asked) ← ble.reportAll fresh conn ((db.reports params).map some ++ [none])
          let result ← discoverAll db fresh rounds ble asked
          return result.map fun (ble, later) ↦ (ble, calls ++ later)

variable {ble : BleDriver} {attr : DbAttr} {attrs : List DbAttr}
  {fresh : Option DbAttr → ServiceUuid} {conn : ℕ}

/-- A discovered attribute is a characteristic of the service if it has its UUID. -/
theorem isCharacteristic_eq (ble : BleDriver) (hcarried : attr.Carried) (fresh : ServiceUuid)
    (shortUuid : UInt16) :
    ble.isCharacteristic attr.toGattAttr fresh shortUuid =
      attr.hasUuid (characteristicUuid ble.uuidBase shortUuid) := by
  rw [isCharacteristic, ServiceUuid.eq, ServiceUuid.toUuid128_wrapped _ hcarried,
    ServiceUuid.toUuid128_derived fresh ble.uuidBase]
  rfl

/-- The report of a service. -/
theorem handleDiscoveryResults_primary (htype : ble.gattDiscoverParams.type = .primary)
    (hcarried : attr.Carried) (fresh : ServiceUuid) :
    ble.handleDiscoveryResults conn (some attr.toGattAttr) fresh = .ok (.continue, { ble with
      nextHandle :=
        if attr.hasUuid ble.uuidBase then attr.handle + 1 else ble.nextHandle }, []) := by
  have hfound : (ServiceUuid.wrapped attr.uuid fresh.uuid).eq ble.uuidBase =
      attr.hasUuid ble.uuidBase := by
    rw [ServiceUuid.eq, ServiceUuid.toUuid128_wrapped _ hcarried]
    rfl
  simp only [handleDiscoveryResults, htype, ServiceUuid.ofUuid_eq, hfound, bind, bind_ok]
  split_ifs
  · rfl
  · rfl

/-- The report of a characteristic. -/
theorem handleDiscoveryResults_characteristic
    (htype : ble.gattDiscoverParams.type = .characteristic) (hcarried : attr.Carried)
    (fresh : ServiceUuid) :
    ble.handleDiscoveryResults conn (some attr.toGattAttr) fresh = .ok (.continue, { ble with
      sessionDataHandle := if attr.hasUuid (characteristicUuid ble.uuidBase sessionDataUuid) then
        attr.valueHandle else ble.sessionDataHandle
      controlHandle := if attr.hasUuid (characteristicUuid ble.uuidBase controlUuid) then
        attr.valueHandle else ble.controlHandle
      resultHandle := if attr.hasUuid (characteristicUuid ble.uuidBase resultUuid) then
        attr.valueHandle else ble.resultHandle
      nextHandle := if attr.hasUuid (characteristicUuid ble.uuidBase resultUuid) then
        attr.handle + 1 else ble.nextHandle
      gattSubscribeParams := { ble.gattSubscribeParams with
        valueHandle := if attr.hasUuid (characteristicUuid ble.uuidBase resultUuid) then
          attr.valueHandle else ble.gattSubscribeParams.valueHandle } }, []) := by
  simp only [handleDiscoveryResults, htype, discoverCharacteristic_eq,
    isCharacteristic_eq ble hcarried, bind, bind_ok]
  rfl

theorem reportAll_cons {next : BleDriver} {rest : List (Option DbAttr)}
    (h : ble.handleDiscoveryResults conn (some attr.toGattAttr) (fresh (some attr)) =
      .ok (.continue, next, [])) :
    ble.reportAll fresh conn (some attr :: rest) = next.reportAll fresh conn rest := by
  simp only [reportAll, Option.map_some, h, bind, bind_ok, List.nil_append]
  cases next.reportAll fresh conn rest with
  | ok result => rfl
  | error fault => rfl

/-- The driver after the reports of services. -/
def withServices (ble : BleDriver) (attrs : List DbAttr) : BleDriver :=
  let nextHandle := handleBehind ble.uuidBase ble.nextHandle attrs
  { ble with
    nextHandle := nextHandle
    gattDiscoverParams := { ble.gattDiscoverParams with
      uuid := none
      type := .characteristic
      startHandle := nextHandle } }

/-- The discovery of services ends with the discovery of the characteristics behind the last one
that has the UUID. -/
theorem reportAll_primary (htype : ble.gattDiscoverParams.type = .primary)
    (hcarried : ∀ attr ∈ attrs, attr.Carried) :
    ble.reportAll fresh conn (attrs.map some ++ [none]) = .ok (ble.withServices attrs,
      [.gattDiscover conn (ble.withServices attrs).gattDiscoverParams]) := by
  induction attrs generalizing ble with
  | nil =>
    simp [reportAll, handleDiscoveryResults, withServices, htype, bind, pure, Except.pure]
  | cons attr attrs ih =>
    obtain ⟨hattr, hattrs⟩ := List.forall_mem_cons.mp hcarried
    rw [List.map_cons, List.cons_append,
      reportAll_cons (handleDiscoveryResults_primary htype hattr _)]
    exact ih htype hattrs

/-- The driver after the reports of characteristics. -/
def withCharacteristics (ble : BleDriver) (attrs : List DbAttr) : BleDriver :=
  let nextHandle := handleBehind (characteristicUuid ble.uuidBase resultUuid) ble.nextHandle attrs
  { ble with
    sessionDataHandle := valueHandleAfter (characteristicUuid ble.uuidBase sessionDataUuid)
      ble.sessionDataHandle attrs
    controlHandle := valueHandleAfter (characteristicUuid ble.uuidBase controlUuid)
      ble.controlHandle attrs
    resultHandle := valueHandleAfter (characteristicUuid ble.uuidBase resultUuid)
      ble.resultHandle attrs
    nextHandle := nextHandle
    gattSubscribeParams := { ble.gattSubscribeParams with
      valueHandle := valueHandleAfter (characteristicUuid ble.uuidBase resultUuid)
        ble.gattSubscribeParams.valueHandle attrs }
    gattDiscoverParams := {
      uuid := some ble.uuidCcc
      type := .descriptor
      startHandle := nextHandle
      endHandle := nextHandle + 1 } }

/-- The discovery of characteristics ends with the discovery of the descriptor at the two handles
behind the declaration of the result characteristic. -/
theorem reportAll_characteristic (htype : ble.gattDiscoverParams.type = .characteristic)
    (hcarried : ∀ attr ∈ attrs, attr.Carried) :
    ble.reportAll fresh conn (attrs.map some ++ [none]) = .ok (ble.withCharacteristics attrs,
      [.gattDiscover conn (ble.withCharacteristics attrs).gattDiscoverParams]) := by
  induction attrs generalizing ble with
  | nil =>
    simp [reportAll, handleDiscoveryResults, withCharacteristics, htype, bind, pure, Except.pure]
  | cons attr attrs ih =>
    obtain ⟨hattr, hattrs⟩ := List.forall_mem_cons.mp hcarried
    rw [List.map_cons, List.cons_append,
      reportAll_cons (handleDiscoveryResults_characteristic htype hattr _)]
    exact ih htype hattrs

/-- The discovery of the descriptor ends with a subscription at the first one that is reported. -/
theorem reportAll_descriptor (htype : ble.gattDiscoverParams.type = .descriptor) :
    ∃ final calls, ble.reportAll fresh conn (attrs.map some ++ [none]) = .ok (final, calls) ∧
      final.sessionDataHandle = ble.sessionDataHandle ∧ final.controlHandle = ble.controlHandle ∧
      final.resultHandle = ble.resultHandle ∧ calls.findSome? BleCall.discovery = none ∧
      calls.filterMap BleCall.subscription =
        (attrs.head?.map fun attr ↦ (ble.gattSubscribeParams.valueHandle, attr.handle)).toList := by
  cases attrs with
  | nil =>
    have hreport : ble.reportAll fresh conn ([].map some ++ [none]) = .ok (ble, []) := by
      simp [reportAll, handleDiscoveryResults, htype, bind, pure, Except.pure]
    exact ⟨ble, [], hreport, rfl, rfl, rfl, rfl, rfl⟩
  | cons attr attrs =>
    let params : GattSubscribeParams := { ble.gattSubscribeParams with
      value := gattCccNotify
      cccHandle := attr.handle }
    have hreport : ble.reportAll fresh conn ((attr :: attrs).map some ++ [none]) =
        .ok ({ ble with gattSubscribeParams := params }, [.gattSubscribe conn params]) := by
      simp [reportAll, handleDiscoveryResults, htype, bind, pure, Except.pure, params]
    exact ⟨_, _, hreport, rfl, rfl, rfl, rfl, rfl⟩

theorem discoverAll_of_none {db : GattDb} {calls : List BleCall}
    (h : calls.findSome? BleCall.discovery = none) (rounds : ℕ) :
    discoverAll db fresh rounds ble calls = .ok (some (ble, calls)) := by
  cases rounds with
  | zero => simp [discoverAll, h, pure, Except.pure]
  | succ rounds => simp [discoverAll, h, pure, Except.pure]

theorem discoverAll_succ {db : GattDb} {params : GattDiscoverParams} {next final : BleDriver}
    {asked later : List BleCall} {rounds : ℕ}
    (hreport : ble.reportAll fresh conn ((db.reports params).map some ++ [none]) =
      .ok (next, asked))
    (hrest : discoverAll db fresh rounds next asked = .ok (some (final, later))) :
    discoverAll db fresh (rounds + 1) ble [.gattDiscover conn params] =
      .ok (some (final, .gattDiscover conn params :: later)) := by
  simp only [discoverAll, List.findSome?_cons, BleCall.discovery, hreport, hrest, bind, bind_ok]
  rfl

/-- What a discovery that has been started begins with. -/
theorem discoverServices_eq_ok {uuid : Option ServiceUuid} {bt : BtAnswers} {started : BleDriver}
    {asked : List BleCall} (h : ble.discoverServices uuid bt = (.ok, started, asked)) :
    ∃ conn, ble.conn = some conn ∧ started = { ble with
      gattDiscoverParams := {
        uuid
        startHandle := firstAttributeHandle
        endHandle := 255
        type := .primary }
      gattSubscribeParams := { valueHandle := 0, cccHandle := 0, value := 0 } } ∧
      asked = [.gattDiscover conn started.gattDiscoverParams] := by
  unfold discoverServices at h
  split_ifs at h with hinit hconn hdiscover
  · cases h
  · cases h
  · cases h
  · cases h
    have hconnected : ble.isConnected = true := by simpa using hconn
    obtain ⟨conn, hsome⟩ : ∃ conn, ble.conn = some conn := Option.isSome_iff_exists.mp hconnected
    exact ⟨conn, hsome, rfl, by rw [hsome]⟩

/-- What the discoveries leave of what is reported, if they look for characteristics from a handle
on. -/
structure LeavesReported (ble : BleDriver) (db : GattDb) (front : UInt16) (final : BleDriver)
    (calls : List BleCall) : Prop where
  session : final.sessionDataHandle =
    valueHandleAfter (characteristicUuid ble.uuidBase sessionDataUuid) ble.sessionDataHandle
      (db.characteristicsReported front)
  control : final.controlHandle =
    valueHandleAfter (characteristicUuid ble.uuidBase controlUuid) ble.controlHandle
      (db.characteristicsReported front)
  result : final.resultHandle =
    valueHandleAfter (characteristicUuid ble.uuidBase resultUuid) ble.resultHandle
      (db.characteristicsReported front)
  subscribed : calls.filterMap BleCall.subscription =
    ((db.descriptorsReported ble.uuidCcc
      (handleBehind (characteristicUuid ble.uuidBase resultUuid) front
        (db.characteristicsReported front))).head?.map fun attr ↦
          (valueHandleAfter (characteristicUuid ble.uuidBase resultUuid) 0
            (db.characteristicsReported front), attr.handle)).toList

/-- The three discoveries return, and look for characteristics behind the last service that is
reported. -/
theorem discoverAll_returns (db : GattDb) {uuid : Option ServiceUuid} {bt : BtAnswers}
    {started : BleDriver} {asked : List BleCall}
    (hstart : ble.discoverServices uuid bt = (.ok, started, asked))
    (fresh : Option DbAttr → ServiceUuid) {rounds : ℕ} (hrounds : 3 ≤ rounds) :
    ∃ final calls, discoverAll db fresh rounds started asked = .ok (some (final, calls)) ∧
      ble.LeavesReported db (handleBehind ble.uuidBase ble.nextHandle (db.servicesReported uuid))
        final calls := by
  obtain ⟨conn, -, hstarted, rfl⟩ := discoverServices_eq_ok hstart
  obtain ⟨rounds, rfl⟩ := Nat.exists_eq_add_of_le' hrounds
  let behind := started.withServices (db.servicesReported uuid)
  let found := behind.withCharacteristics (db.characteristicsReported behind.nextHandle)
  have hservices : started.reportAll fresh conn
      ((db.reports started.gattDiscoverParams).map some ++ [none]) =
        .ok (behind, [.gattDiscover conn behind.gattDiscoverParams]) := by
    have hreported : db.reports started.gattDiscoverParams = db.servicesReported uuid := by
      rw [hstarted]
      rfl
    rw [hreported]
    exact reportAll_primary (by rw [hstarted]) (db.reports_carried _)
  have hcharacteristics : behind.reportAll fresh conn
      ((db.reports behind.gattDiscoverParams).map some ++ [none]) =
        .ok (found, [.gattDiscover conn found.gattDiscoverParams]) := by
    have hreported : db.reports behind.gattDiscoverParams =
        db.characteristicsReported behind.nextHandle := by
      simp only [behind, hstarted]
      rfl
    rw [hreported]
    exact reportAll_characteristic rfl (db.reports_carried _)
  have hreported : db.reports found.gattDiscoverParams =
      db.descriptorsReported ble.uuidCcc found.nextHandle := by
    simp only [found, behind, hstarted]
    rfl
  obtain ⟨final, calls, hdescriptors, hsession, hcontrol, hresult, hnone, hsubscribed⟩ :=
    @reportAll_descriptor found (db.reports found.gattDiscoverParams) fresh conn rfl
  have hchain := discoverAll_succ hservices (discoverAll_succ hcharacteristics
    (discoverAll_succ hdescriptors (discoverAll_of_none hnone rounds)))
  rw [hreported] at hsubscribed
  simp only [found, behind, hstarted] at hsession hcontrol hresult hsubscribed
  exact ⟨final, _, hchain, ⟨hsession, hcontrol, hresult, hsubscribed⟩⟩

end BleDriver

/-! ## A peripheral with the service -/

/-- The one characteristic of a service that has a UUID. -/
structure ServiceCharacteristic (db : GattDb) (service : DbAttr) (uuid : ServiceUuid) where
  attr : DbAttr
  mem : attr ∈ db.attrs
  kind : attr.kind = .characteristic
  hasUuid : attr.hasUuid uuid = true
  inService : db.InService service attr
  only : ∀ other ∈ db.attrs, other.kind = .characteristic → other.hasUuid uuid = true →
    db.InService service other → other = attr

/-- The attributes of a peripheral that has the service with this UUID once, with a descriptor for
the client configuration directly behind the value of the result characteristic. -/
structure CrownstoneDb (base : ServiceUuid) extends GattDb where
  service : DbAttr
  service_mem : service ∈ attrs
  service_kind : service.kind = .primary
  service_hasUuid : service.hasUuid base = true
  service_only : ∀ other ∈ attrs, other.kind = .primary → other.hasUuid base = true →
    other = service
  session : ServiceCharacteristic toGattDb service (characteristicUuid base sessionDataUuid)
  control : ServiceCharacteristic toGattDb service (characteristicUuid base controlUuid)
  result : ServiceCharacteristic toGattDb service (characteristicUuid base resultUuid)
  ccc : DbAttr
  ccc_kind : ccc.kind = .descriptor
  ccc_hasUuid : ccc.hasUuid gattCccUuid = true
  ccc_behind : ∃ value ∈ attrs, [value, ccc] <:+: attrs ∧ value.handle = result.attr.valueHandle

/-- The attribute is the last characteristic with its UUID that the driver is told of. -/
def LastReported (db : GattDb) (uuid : ServiceUuid) (attr : DbAttr) : Prop :=
  attr.handle ≤ 255 ∧ ∀ other ∈ db.attrs, other.kind = .characteristic →
    other.hasUuid uuid = true → other.handle ≤ 255 → other.handle ≤ attr.handle

namespace ServiceCharacteristic

variable {db : GattDb} {service other : DbAttr} {uuid : ServiceUuid}

/-- The driver holds the value handle of the characteristic after the discovery: it is told of it,
or, beyond the end of the discovery, has held its value handle before. -/
def Found (characteristic : ServiceCharacteristic db service uuid) (held : UInt16) : Prop :=
  LastReported db uuid characteristic.attr ∨
    255 < characteristic.attr.handle ∧ held = characteristic.attr.valueHandle

theorem mem_characteristicsReported (hservice : service.handle ≤ 255) :
    other ∈ db.characteristicsReported (service.handle + 1) ↔
      other ∈ db.attrs ∧ other.kind = .characteristic ∧ service.handle < other.handle ∧
        other.handle ≤ 255 := by
  have hfront : service.handle + 1 ≤ other.handle ↔ service.handle < other.handle := by grind
  simp only [GattDb.characteristicsReported, GattDb.mem_reports, DbAttr.Matches, hfront]
  simp [DbAttr.kindOf]
  tauto

/-- No characteristic with the UUID is reported behind the last one. -/
theorem forall_of_lastReported (characteristic : ServiceCharacteristic db service uuid)
    (hservice : service.handle ≤ 255) (hlast : LastReported db uuid characteristic.attr) :
    ∀ other ∈ db.characteristicsReported (service.handle + 1), other.hasUuid uuid = true →
      other = characteristic.attr ∨ other.handle < characteristic.attr.handle := by
  intro other hother huuid
  obtain ⟨hmem, hkind, -, hend⟩ := (mem_characteristicsReported hservice).mp hother
  have hle := hlast.2 other hmem hkind huuid hend
  by_cases hsame : other.handle = characteristic.attr.handle
  · exact .inl (GattDb.eq_of_handle_eq hmem characteristic.mem hsame)
  · exact .inr (by grind)

theorem mem_reported (characteristic : ServiceCharacteristic db service uuid)
    (hend : characteristic.attr.handle ≤ 255) :
    characteristic.attr ∈ db.characteristicsReported (service.handle + 1) := by
  have hbehind := characteristic.inService.1
  have hservice : service.handle ≤ 255 := by grind
  exact (mem_characteristicsReported hservice).mpr
    ⟨characteristic.mem, characteristic.kind, hbehind, hend⟩

/-- If the characteristic is behind the end of the discovery, none with its UUID is reported:
between the service and this end no other service begins. -/
theorem hasUuid_eq_false_of_beyond (characteristic : ServiceCharacteristic db service uuid)
    (hservice : service.handle ≤ 255) (hbeyond : 255 < characteristic.attr.handle) :
    ∀ other ∈ db.characteristicsReported (service.handle + 1), other.hasUuid uuid = false := by
  intro other hother
  obtain ⟨hmem, hkind, hbehind, hreported⟩ := (mem_characteristicsReported hservice).mp hother
  have hinService : db.InService service other := by
    refine ⟨hbehind, fun declared hdeclared hdeclares ↦ ?_⟩
    have hapart := characteristic.inService.2 declared hdeclared hdeclares
    grind
  rw [← Bool.not_eq_true]
  intro huuid
  rw [characteristic.only other hmem hkind huuid hinService] at hreported
  exact UInt16.not_le.mpr hbeyond hreported

/-- If no characteristic with the UUID is reported behind this one, it is the last one. -/
theorem lastReported_of_forall (characteristic : ServiceCharacteristic db service uuid)
    (hend : characteristic.attr.handle ≤ 255)
    (hlast : ∀ other ∈ db.characteristicsReported (service.handle + 1),
      other.hasUuid uuid = true →
        other = characteristic.attr ∨ other.handle < characteristic.attr.handle) :
    LastReported db uuid characteristic.attr := by
  refine ⟨hend, fun other hmem hkind huuid hother ↦ ?_⟩
  by_contra hbehind
  have hbegins := characteristic.inService.1
  have hservice : service.handle ≤ 255 := by grind
  have hafter : service.handle < other.handle := by grind
  have hreported := (mem_characteristicsReported hservice).mpr ⟨hmem, hkind, hafter, hother⟩
  rcases hlast other hreported huuid with rfl | hbefore
  · exact hbehind UInt16.le_rfl
  · exact hbehind (UInt16.le_of_lt hbefore)

/-- The handle that the characteristics reported behind the service leave is the value handle of the
one of the service exactly if this one is found. -/
theorem valueHandle_iff (characteristic : ServiceCharacteristic db service uuid)
    (hservice : service.handle ≤ 255) (held : UInt16) :
    valueHandleAfter uuid held (db.characteristicsReported (service.handle + 1)) =
        characteristic.attr.valueHandle ↔
      characteristic.Found held := by
  have hsorted := db.reports_increasing
    { uuid := none, startHandle := service.handle + 1, endHandle := 255, type := .characteristic }
  by_cases hend : characteristic.attr.handle ≤ 255
  · have hsame : ∀ other ∈ db.characteristicsReported (service.handle + 1),
        other.hasUuid uuid = true → other.valueHandle = characteristic.attr.valueHandle →
          other = characteristic.attr := by
      intro other hother _ hvalue
      obtain ⟨hmem, hkind, -⟩ := (mem_characteristicsReported hservice).mp hother
      exact GattDb.eq_of_valueHandle_eq hmem hkind characteristic.mem characteristic.kind hvalue
    refine (lastWrite_eq_iff hsorted UInt16.lt_asymm (characteristic.mem_reported hend)
      characteristic.hasUuid hsame).trans ⟨fun hlast ↦ ?_, ?_⟩
    · exact .inl (characteristic.lastReported_of_forall hend hlast)
    · rintro (hlast | ⟨hbeyond, -⟩)
      · exact characteristic.forall_of_lastReported hservice hlast
      · exact absurd hbeyond (UInt16.not_lt.mpr hend)
  · have hbeyond : 255 < characteristic.attr.handle := UInt16.not_le.mp hend
    have hnone := characteristic.hasUuid_eq_false_of_beyond hservice hbeyond
    have hne : ∀ other ∈ db.characteristicsReported (service.handle + 1),
        other.hasUuid uuid = true → other.valueHandle ≠ characteristic.attr.valueHandle := by
      intro other hother huuid
      rw [hnone other hother] at huuid
      cases huuid
    refine (lastWrite_eq_iff_of_forall_ne hsorted hne).trans ⟨fun h ↦ .inr ⟨hbeyond, h.2⟩, ?_⟩
    rintro (hlast | ⟨-, hheld⟩)
    · exact absurd hlast.1 hend
    · exact ⟨hnone, hheld⟩

end ServiceCharacteristic

namespace CrownstoneDb

variable {base : ServiceUuid} (db : CrownstoneDb base)

theorem service_in_range (hend : db.result.attr.handle ≤ 255) : db.service.handle ≤ 255 :=
  UInt16.le_trans (UInt16.le_of_lt db.result.inService.1) hend

/-- The characteristics are looked for right behind the service, if the driver is told of it. -/
theorem nextHandle_of_service (hservice : db.service.handle ≤ 255) {uuid : Option ServiceUuid}
    (huuid : ∀ given ∈ uuid, given = base) (start : UInt16) :
    handleBehind base start (db.servicesReported uuid) = db.service.handle + 1 := by
  have hsorted := db.reports_increasing
    { uuid, startHandle := firstAttributeHandle, endHandle := 255, type := .primary }
  have hpositive := db.positive db.service db.service_mem
  have hfront : firstAttributeHandle ≤ db.service.handle := by
    unfold firstAttributeHandle
    grind
  have hreported : db.service ∈ db.servicesReported uuid := GattDb.mem_reports.mpr ⟨db.service_mem,
    hfront, hservice, db.service_kind, fun given hgiven ↦ huuid given hgiven ▸ db.service_hasUuid⟩
  have honly : ∀ other ∈ db.servicesReported uuid, other.hasUuid base = true →
      other = db.service := by
    intro other hother hbase
    obtain ⟨hmem, -, -, hkind, -⟩ := GattDb.mem_reports.mp hother
    exact db.service_only other hmem hkind hbase
  exact (lastWrite_eq_iff hsorted UInt16.lt_asymm hreported db.service_hasUuid
    fun other hother hbase _ ↦ honly other hother hbase).mpr
      fun other hother hbase ↦ .inl (honly other hother hbase)

/-- The descriptor is looked for right behind the declaration of the result characteristic, if the
driver is told of no later one. -/
theorem nextHandle_of_result
    (hlast : LastReported db.toGattDb (characteristicUuid base resultUuid) db.result.attr)
    (start : UInt16) :
    handleBehind (characteristicUuid base resultUuid) start
        (db.characteristicsReported (db.service.handle + 1)) = db.result.attr.handle + 1 := by
  have hsorted := db.reports_increasing {
    uuid := none, startHandle := db.service.handle + 1, endHandle := 255, type := .characteristic }
  have hservice := db.service_in_range hlast.1
  refine (lastWrite_eq_iff hsorted UInt16.lt_asymm (db.result.mem_reported hlast.1)
    db.result.hasUuid fun other hother _ hsame ↦ ?_).mpr
      (db.result.forall_of_lastReported hservice hlast)
  have hmem := (ServiceCharacteristic.mem_characteristicsReported hservice).mp hother
  exact GattDb.eq_of_handle_eq hmem.1 db.result.mem ((UInt16.add_left_inj 1).mp hsame)

/-- The value handle of the result characteristic is subscribed to only if the driver is told of
it. -/
theorem result_reported {front : UInt16}
    (h : valueHandleAfter (characteristicUuid base resultUuid) 0
      (db.characteristicsReported front) = db.result.attr.valueHandle) :
    db.result.attr.handle ≤ 255 := by
  have hpositive := GattDb.handle_lt_valueHandle db.result.mem db.result.kind
  have hsorted := db.reports_increasing
    { uuid := none, startHandle := front, endHandle := 255, type := .characteristic }
  rcases lastWrite_cases hsorted with ⟨-, hstart⟩ | ⟨last, hlast, -, -, hvalue⟩
  · have hzero := hstart.symm.trans h
    grind
  · obtain ⟨hmem, -, hend, hkind, -⟩ := GattDb.mem_reports.mp hlast
    obtain rfl := GattDb.eq_of_valueHandle_eq hmem hkind db.result.mem db.result.kind
      (hvalue.symm.trans h)
    exact hend

/-- The descriptor is the first one that is reported at the two handles behind the declaration of
the result characteristic exactly if it is at the second one. -/
theorem head_descriptors_iff (hresult : db.result.attr.handle ≤ 255) :
    (db.descriptorsReported gattCccUuid (db.result.attr.handle + 1)).head?.map (·.handle) =
        some db.ccc.handle ↔ db.ccc.handle = db.result.attr.handle + 2 := by
  obtain ⟨value, -, hvalue, hhandle⟩ := db.ccc_behind
  have hcccMem : db.ccc ∈ db.attrs := hvalue.subset (by simp)
  have hcccBehind := (GattDb.adjacent hvalue).1
  have hvalueBehind := GattDb.handle_lt_valueHandle db.result.mem db.result.kind
  rw [← hhandle] at hvalueBehind
  constructor
  · intro hhead
    obtain ⟨attr, hattr, hsame⟩ := Option.map_eq_some_iff.mp hhead
    obtain ⟨-, -, hend, -⟩ := GattDb.mem_reports.mp (List.mem_of_head? hattr)
    have hend : attr.handle ≤ db.result.attr.handle + 1 + 1 := hend
    grind
  · intro hccc
    have honly : ∀ attr ∈ db.descriptorsReported gattCccUuid (db.result.attr.handle + 1),
        attr = db.ccc := by
      intro attr hattr
      obtain ⟨hmem, hfront, hend, hkind, -⟩ := GattDb.mem_reports.mp hattr
      have hfront : db.result.attr.handle + 1 ≤ attr.handle := hfront
      have hend : attr.handle ≤ db.result.attr.handle + 1 + 1 := hend
      by_cases hsame : attr.handle = db.ccc.handle
      · exact GattDb.eq_of_handle_eq hmem hcccMem hsame
      · -- The only other attribute there is the value, which is no descriptor.
        obtain ⟨declared, hdeclaredMem, -, hdeclaredKind, hdeclaredHandle⟩ :=
          db.valued db.result.attr db.result.mem db.result.kind
        have hvalueHandle : attr.handle = declared.handle := by grind
        rw [GattDb.eq_of_handle_eq hmem hdeclaredMem hvalueHandle, hdeclaredKind] at hkind
        cases hkind
    have hreported : db.ccc ∈ db.descriptorsReported gattCccUuid (db.result.attr.handle + 1) := by
      have hfront : db.result.attr.handle + 1 ≤ db.ccc.handle := by grind
      have hend : db.ccc.handle ≤ db.result.attr.handle + 1 + 1 := by grind
      exact GattDb.mem_reports.mpr ⟨hcccMem, hfront, hend, db.ccc_kind, fun uuid huuid ↦
        Option.some.inj huuid ▸ db.ccc_hasUuid⟩
    obtain ⟨attr, rest, hreports⟩ := List.exists_cons_of_ne_nil (List.ne_nil_of_mem hreported)
    rw [hreports]
    have hfirst := honly attr (by simp [hreports])
    simp [hfirst]

end CrownstoneDb

/-- The driver holds the value handles of the characteristics, and has subscribed to the result
once. -/
structure ServiceDiscovered {base : ServiceUuid} (db : CrownstoneDb base) (ble : BleDriver)
    (calls : List BleCall) : Prop where
  session : ble.sessionDataHandle = db.session.attr.valueHandle
  control : ble.controlHandle = db.control.attr.valueHandle
  result : ble.resultHandle = db.result.attr.valueHandle
  subscribed : calls.filterMap BleCall.subscription =
    [(db.result.attr.valueHandle, db.ccc.handle)]

/-- The discoveries reach the service: the driver is told of the result characteristic, its
descriptor is at the second handle behind it, and the driver is told of the other characteristics,
or knows them. -/
structure ServiceInReach {base : ServiceUuid} (db : CrownstoneDb base) (ble : BleDriver) :
    Prop where
  result : LastReported db.toGattDb (characteristicUuid base resultUuid) db.result.attr
  ccc : db.ccc.handle = db.result.attr.handle + 2
  session : db.session.Found ble.sessionDataHandle
  control : db.control.Found ble.controlHandle

/-- One subscription is made to a descriptor exactly if it is the first one that is reported. -/
theorem subscription_iff {descriptors : List DbAttr} {value expected handle : UInt16} :
    (descriptors.head?.map fun attr ↦ (value, attr.handle)).toList = [(expected, handle)] ↔
      value = expected ∧ descriptors.head?.map (·.handle) = some handle := by
  cases descriptors with
  | nil => simp
  | cons attr descriptors => simp

namespace BleDriver.LeavesReported

variable {ble final : BleDriver} {calls : List BleCall} {db : CrownstoneDb ble.uuidBase}

/-- The service is discovered only if the driver has been told of the result characteristic. -/
theorem result_in_range {front : UInt16}
    (h : ble.LeavesReported db.toGattDb front final calls) (hdiscovered :
      ServiceDiscovered db final calls) : db.result.attr.handle ≤ 255 := by
  have hsubscribed := h.subscribed.symm.trans hdiscovered.subscribed
  exact db.result_reported (subscription_iff.mp hsubscribed).1

/-- A service that has been discovered is in reach. -/
theorem inReach (h : ble.LeavesReported db.toGattDb (db.service.handle + 1) final calls)
    (hccc : ble.uuidCcc = gattCccUuid) (hdiscovered : ServiceDiscovered db final calls) :
    ServiceInReach db ble := by
  have hend := h.result_in_range hdiscovered
  have hservice := db.service_in_range hend
  obtain ⟨hvalue, hhead⟩ := subscription_iff.mp (h.subscribed.symm.trans hdiscovered.subscribed)
  have hlast : LastReported db.toGattDb (characteristicUuid ble.uuidBase resultUuid)
      db.result.attr := by
    rcases (db.result.valueHandle_iff hservice 0).mp hvalue with hlast | ⟨hbeyond, -⟩
    · exact hlast
    · exact absurd hend (UInt16.not_le.mpr hbeyond)
  rw [db.nextHandle_of_result hlast, hccc] at hhead
  exact {
    result := hlast
    ccc := (db.head_descriptors_iff hend).mp hhead
    session := (db.session.valueHandle_iff hservice _).mp (h.session.symm.trans hdiscovered.session)
    control := (db.control.valueHandle_iff hservice _).mp
      (h.control.symm.trans hdiscovered.control) }

/-- A service in reach has been discovered. -/
theorem discovered (h : ble.LeavesReported db.toGattDb (db.service.handle + 1) final calls)
    (hccc : ble.uuidCcc = gattCccUuid) (hreach : ServiceInReach db ble) :
    ServiceDiscovered db final calls := by
  have hend := hreach.result.1
  have hservice := db.service_in_range hend
  have hfound (held : UInt16) := (db.result.valueHandle_iff hservice held).mpr (.inl hreach.result)
  have hhead := (db.head_descriptors_iff hend).mpr hreach.ccc
  rw [← db.nextHandle_of_result hreach.result, ← hccc] at hhead
  exact {
    session := h.session.trans ((db.session.valueHandle_iff hservice _).mpr hreach.session)
    control := h.control.trans ((db.control.valueHandle_iff hservice _).mpr hreach.control)
    result := h.result.trans (hfound ble.resultHandle)
    subscribed := h.subscribed.trans (subscription_iff.mpr ⟨hfound 0, hhead⟩) }

end BleDriver.LeavesReported

/-- The discoveries that are started for the service end with its handles and with a subscription to
its results exactly if they reach it. -/
theorem service_discovered_iff {ble : BleDriver} (db : CrownstoneDb ble.uuidBase)
    (hccc : ble.uuidCcc = gattCccUuid) {uuid : Option ServiceUuid}
    (huuid : ∀ given ∈ uuid, given = ble.uuidBase) {bt : BtAnswers} {started : BleDriver}
    {asked : List BleCall} (hstart : ble.discoverServices uuid bt = (.ok, started, asked))
    (fresh : Option DbAttr → ServiceUuid) {rounds : ℕ} (hrounds : 3 ≤ rounds) :
    ∃ final calls,
      BleDriver.discoverAll db.toGattDb fresh rounds started asked = .ok (some (final, calls)) ∧
      (ServiceDiscovered db final calls ↔ ServiceInReach db ble) := by
  obtain ⟨final, calls, hchain, hleaves⟩ :=
    BleDriver.discoverAll_returns db.toGattDb hstart fresh hrounds
  have hfront (hend : db.result.attr.handle ≤ 255) :=
    db.nextHandle_of_service (db.service_in_range hend) huuid ble.nextHandle
  refine ⟨final, calls, hchain, fun hdiscovered ↦ ?_, fun hreach ↦ ?_⟩
  · rw [hfront (hleaves.result_in_range hdiscovered)] at hleaves
    exact hleaves.inReach hccc hdiscovered
  · rw [hfront hreach.result.1] at hleaves
    exact hleaves.discovered hccc hreach

instance (db : GattDb) (uuid : ServiceUuid) (attr : DbAttr) :
    Decidable (LastReported db uuid attr) :=
  inferInstanceAs (Decidable (_ ∧ _))

instance {db : GattDb} {service : DbAttr} {uuid : ServiceUuid}
    (characteristic : ServiceCharacteristic db service uuid) (held : UInt16) :
    Decidable (characteristic.Found held) :=
  inferInstanceAs (Decidable (_ ∨ _))

/-- An attribute that declares a characteristic of the service. -/
def declaredAt (handle : UInt16) (shortUuid : UInt16) : DbAttr where
  handle := handle
  uuid := (serviceUuid shortUuid).uuid
  valueHandle := handle + 1
  kind := .characteristic

/-- The value of a characteristic of the service. -/
def valueAt (handle : UInt16) (shortUuid : UInt16) : DbAttr where
  handle := handle
  uuid := (serviceUuid shortUuid).uuid
  valueHandle := 0
  kind := .value

/-- A service that begins in front of handle 255 and ends behind it. -/
def lateGattDb : GattDb where
  attrs := [
    { handle := 250, uuid := (serviceUuid 0).uuid, valueHandle := 0, kind := .primary },
    declaredAt 251 resultUuid, valueAt 252 resultUuid,
    { handle := 253, uuid := gattCccUuid.uuid, valueHandle := 0, kind := .descriptor },
    declaredAt 254 controlUuid, valueAt 255 controlUuid,
    declaredAt 256 sessionDataUuid, valueAt 257 sessionDataUuid]
  increasing := by decide +kernel
  positive := by decide +kernel
  carried := by decide +kernel
  valued := by decide +kernel

/-- A peripheral with this service. -/
def lateDb : CrownstoneDb (serviceUuid 0) where
  toGattDb := lateGattDb
  service := { handle := 250, uuid := (serviceUuid 0).uuid, valueHandle := 0, kind := .primary }
  service_mem := by decide +kernel
  service_kind := rfl
  service_hasUuid := by decide +kernel
  service_only := by decide +kernel
  session := {
    attr := declaredAt 256 sessionDataUuid
    mem := by decide +kernel
    kind := rfl
    hasUuid := by decide +kernel
    inService := by decide +kernel
    only := by decide +kernel }
  control := {
    attr := declaredAt 254 controlUuid
    mem := by decide +kernel
    kind := rfl
    hasUuid := by decide +kernel
    inService := by decide +kernel
    only := by decide +kernel }
  result := {
    attr := declaredAt 251 resultUuid
    mem := by decide +kernel
    kind := rfl
    hasUuid := by decide +kernel
    inService := by decide +kernel
    only := by decide +kernel }
  ccc := { handle := 253, uuid := gattCccUuid.uuid, valueHandle := 0, kind := .descriptor }
  ccc_kind := rfl
  ccc_hasUuid := by decide +kernel
  ccc_behind := by decide +kernel

def driverHolding (sessionDataHandle : UInt16) : BleDriver :=
  { serviceDriver with conn := some 1, sessionDataHandle := sessionDataHandle }

def startingAnswers : BtAnswers :=
  (succeeding (.discoverServices none)).answers

/-- A driver that connects to the peripheral again discovers its service. -/
theorem service_discovered_again :
    ∃ final calls, BleDriver.discoverAll lateGattDb (fun _ ↦ serviceUuid 0) 3
        ((driverHolding 257).discoverServices (some (serviceUuid 0)) startingAnswers).2.1
        ((driverHolding 257).discoverServices (some (serviceUuid 0)) startingAnswers).2.2 =
          .ok (some (final, calls)) ∧ ServiceDiscovered lateDb final calls := by
  have hreach : ServiceInReach lateDb (driverHolding 257) :=
    ⟨by decide +kernel, by decide +kernel, by decide +kernel, by decide +kernel⟩
  obtain ⟨final, calls, hchain, hiff⟩ := @service_discovered_iff (driverHolding 257) lateDb rfl
    (some (serviceUuid 0)) (fun given hgiven ↦ (Option.some.inj hgiven).symm) startingAnswers _ _
    rfl (fun _ ↦ serviceUuid 0) 3 le_rfl
  exact ⟨final, calls, hchain, hiff.mpr hreach⟩

/-- A driver that connects to it for the first time does not find its session data. -/
theorem late_service_not_discovered :
    ∃ final calls, BleDriver.discoverAll lateGattDb (fun _ ↦ serviceUuid 0) 3
        ((driverHolding 0).discoverServices (some (serviceUuid 0)) startingAnswers).2.1
        ((driverHolding 0).discoverServices (some (serviceUuid 0)) startingAnswers).2.2 =
          .ok (some (final, calls)) ∧ ¬ ServiceDiscovered lateDb final calls := by
  refine ⟨_, _, rfl, fun h ↦ ?_⟩
  exact absurd h.session (by decide)

end CrownstoneRouter
