import CrownstoneRouter.PacketHandling.Encoding

/-!
# Packets for unknown handlers

`getHandler` returns a null pointer for an id that is not registered, and says so in the log. The
packet thread asks for up to two handlers per packet and follows the pointers at once, so that a
packet is handled without a null pointer exactly if every handler it asks for is registered. On the
outgoing path the pending request has been answered when the second lookup fails.
-/

namespace CrownstoneRouter

open CheckedMemory

variable (crc16_ccitt : UInt16 → List UInt8 → UInt16)

/-- The handlers that a packet asks for are registered. -/
def HandlersPresent (sys : System) (data : PacketData) : Prop :=
  match data.type with
  | .incoming => IsControl data → (sys.pkth.getHandler (incomingControl data).destId).isSome
  | .outgoing =>
      (sys.pkth.getHandler data.srcId).isSome ∧ (sys.pkth.getHandler data.destId).isSome

/-- No null pointer is used for a packet, and a packet that asks for a missing handler is dropped
with nothing changed. -/
def RefusedCleanly (sys : System) (data : PacketData) : Prop :=
  handlePacketData crc16_ccitt sys data ≠ .error .nullPointer ∧
    (¬ HandlersPresent sys data → handlePacketData crc16_ccitt sys data = .ok sys)

section Lookups

variable {crc16_ccitt} {sys : System} {data : PacketData}

/-- A packet whose handlers are registered uses no null pointer. -/
theorem handlePacketData_ne_nullPointer (h : HandlersPresent sys data) :
    handlePacketData crc16_ccitt sys data ≠ .error .nullPointer := by
  cases htype : data.type with
  | incoming =>
    simp only [HandlersPresent, htype] at h
    simp only [handlePacketData, htype]
    by_cases hloadable : Loadable data
    · by_cases hcontrol : IsControl data
      · obtain ⟨slot, hslot⟩ := Option.isSome_iff_exists.mp (h hcontrol)
        rw [handleIncomingPacket_of_control hloadable hcontrol hslot]
        split_ifs <;> simp
      · simp [handleIncomingPacket_of_not_control hloadable hcontrol]
    · simp [handleIncomingPacket_of_not_loadable hloadable]
  | outgoing =>
    simp only [HandlersPresent, htype] at h
    obtain ⟨source, hsource⟩ := Option.isSome_iff_exists.mp h.1
    obtain ⟨dest, hdest⟩ := Option.isSome_iff_exists.mp h.2
    simp only [handlePacketData, htype]
    by_cases hfits : OutgoingFits crc16_ccitt (sys.handler source).result data
    · simp [handleOutgoingPacket_of_fits crc16_ccitt hsource hfits hdest]
    · simp [handleOutgoingPacket_of_not_fits crc16_ccitt hsource hfits]

theorem handlersPresent_of_returns {next : System}
    (h : handlePacketData crc16_ccitt sys data = .ok next) : HandlersPresent sys data := by
  obtain ⟨htype, -, hcontrol, -⟩ | ⟨slot, htype, -, -, hslot, -⟩ |
      ⟨source, slot, htype, hsource, hslot, -⟩ := handlePacketData_cases crc16_ccitt h
  · simp [HandlersPresent, htype, hcontrol]
  · simp [HandlersPresent, htype, hslot]
  · simp [HandlersPresent, htype, hsource, hslot]

end Lookups

/-- Packets for unknown handlers are refused cleanly exactly if there are none: the packet thread
follows every pointer that a lookup returns. -/
theorem refusedCleanly_iff (sys : System) (data : PacketData) :
    RefusedCleanly crc16_ccitt sys data ↔ HandlersPresent sys data := by
  constructor
  · rintro ⟨-, hdropped⟩
    by_contra habsent
    exact habsent (handlersPresent_of_returns (hdropped habsent))
  · intro hpresent
    exact ⟨handlePacketData_ne_nullPointer hpresent, absurd hpresent⟩

/-! ## Packets that are handled -/

/-- The handlers of a packet are registered, what it announces ends in its buffer, and what is made
of it fits. -/
def Handleable (sys : System) (data : PacketData) : Prop :=
  HandlersPresent sys data ∧
    match data.type with
    | .incoming => Loadable data ∧ (IsControl data → controlEnd data ≤ packetBufSize)
    | .outgoing => RoomForHeaders sys data

instance (sys : System) (data : PacketData) : Decidable (HandlersPresent sys data) := by
  unfold HandlersPresent
  split <;> infer_instance

instance (sys : System) (data : PacketData) : Decidable (Handleable sys data) := by
  unfold Handleable
  split <;> infer_instance

theorem handleIncomingPacket_returns_iff (sys : System) (data : PacketData) :
    (∃ next, handleIncomingPacket crc16_ccitt sys data = .ok next) ↔
      Loadable data ∧ (IsControl data →
        (sys.pkth.getHandler (incomingControl data).destId).isSome ∧
          controlEnd data ≤ packetBufSize) := by
  by_cases hloadable : Loadable data
  · rw [and_iff_right hloadable]
    by_cases hcontrol : IsControl data
    · rw [forall_prop_of_true hcontrol]
      cases hdest : sys.pkth.getHandler (incomingControl data).destId with
      | none =>
        rw [handleIncomingPacket_of_unknown hloadable hcontrol hdest]
        exact iff_of_false (by simp) (by simp)
      | some slot =>
        rw [handleIncomingPacket_of_control hloadable hcontrol hdest]
        split_ifs with hend
        · exact iff_of_true ⟨_, rfl⟩ ⟨rfl, hend⟩
        · exact iff_of_false (by simp) fun h ↦ hend h.2
    · exact iff_of_true ⟨_, handleIncomingPacket_of_not_control hloadable hcontrol⟩
        fun h ↦ absurd h hcontrol
  · rw [handleIncomingPacket_of_not_loadable hloadable]
    exact iff_of_false (by simp) fun h ↦ hloadable h.1

/-- A packet is handled inside the memory exactly if it is handleable. -/
theorem handlePacketData_returns_iff (sys : System) (data : PacketData) :
    (∃ next, handlePacketData crc16_ccitt sys data = .ok next) ↔ Handleable sys data := by
  unfold Handleable HandlersPresent
  cases htype : data.type with
  | incoming =>
    simp only [handlePacketData, htype, handleIncomingPacket_returns_iff]
    exact ⟨fun h ↦ ⟨fun hcontrol ↦ (h.2 hcontrol).1, h.1, fun hcontrol ↦ (h.2 hcontrol).2⟩,
      fun h ↦ ⟨h.2.1, fun hcontrol ↦ ⟨h.1 hcontrol, h.2.2 hcontrol⟩⟩⟩
  | outgoing =>
    simp only [handlePacketData, htype, handleOutgoingPacket_returns_iff]
    constructor
    · rintro ⟨hroom, hdest⟩
      obtain ⟨source, hsource, -⟩ := id hroom
      exact ⟨⟨Option.isSome_iff_exists.mpr ⟨source, hsource⟩, hdest⟩, hroom⟩
    · rintro ⟨⟨-, hdest⟩, hroom⟩
      exact ⟨hroom, hdest⟩

/-- The message of a websocket read that has returned nothing. -/
def emptyRead : PacketData :=
  { PacketData.zero with srcId := instanceIdCloud }

/-- An empty read is a control packet for the id zero, which the router does not register. -/
theorem emptyRead_uses_null :
    handlePacketData zephyrCrc16Ccitt (.boot (PacketHandler.routerRegistry [])) emptyRead =
      .error .nullPointer ∧
    ¬ RefusedCleanly zephyrCrc16Ccitt (.boot (PacketHandler.routerRegistry [])) emptyRead := by
  have hstep : handlePacketData zephyrCrc16Ccitt (.boot (PacketHandler.routerRegistry []))
      emptyRead = .error .nullPointer :=
    handleIncomingPacket_of_unknown (by decide +kernel) (by decide +kernel) (by decide +kernel)
  exact ⟨hstep, fun hclean ↦ hclean.1 hstep⟩

end CrownstoneRouter
