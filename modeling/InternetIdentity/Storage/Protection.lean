import InternetIdentity.Storage.Anchor

namespace InternetIdentity.Storage

/-! # Protected devices

A destructive call resolves the key to a position in the current list, runs
`check_mutation_allowed` on the device at that position, and removes or
replaces that same device.  A device at any other position survives the
call, so a protected device outlives every call of a caller that does not
sign with its key, changing at most its usage timestamp.  Nothing is assumed
of the anchor, not even distinct keys.
-/

/-- The devices still hold `protectedDevice` in every field but the usage
timestamp, the one field `DeviceData` leaves out. -/
def Keeps (protectedDevice : Device) (devices : List Device) : Prop :=
  ∃ device ∈ devices, device.toDeviceData = protectedDevice.toDeviceData

section Protection

variable {selfAuthenticating : DeviceKey → Principal} {caller : Principal} {self after : Anchor}
  {protectedDevice : Device}

theorem mutation_blocked {device : Device}
    (same : device.toDeviceData = protectedDevice.toDeviceData)
    (isProtected : protectedDevice.protection = .protected)
    (notOwner : caller ≠ selfAuthenticating protectedDevice.pubkey) :
    checkMutationAllowed selfAuthenticating caller device ≠ .ok () := by
  have protection : device.protection = .protected := by
    rw [← isProtected]; exact congrArg DeviceData.protection same
  have pubkey : device.pubkey = protectedDevice.pubkey := congrArg DeviceData.pubkey same
  simp [checkMutationAllowed_eq_ok, protection, pubkey, notOwner]

theorem Keeps.of_set_ne {devices : List Device} {position index : Nat}
    (bound : position < devices.length)
    (same : devices[position].toDeviceData = protectedDevice.toDeviceData)
    (differs : index ≠ position) (value : Device) :
    Keeps protectedDevice (devices.set index value) :=
  ⟨_, List.getElem_mem (by simpa using bound), by rwa [List.getElem_set_ne differs]⟩

theorem Keeps.addDevice {device : Device} (keeps : Keeps protectedDevice self.devices)
    (added : (Anchor.addDevice device).run self = .ok () after) :
    Keeps protectedDevice after.devices := by
  obtain ⟨-, -, -, rfl⟩ := Anchor.addDevice_run_eq_ok.mp added
  obtain ⟨kept, member, same⟩ := keeps
  exact ⟨kept, List.mem_append_left _ member, same⟩

theorem Keeps.removeDevice {deviceKey : DeviceKey} (keeps : Keeps protectedDevice self.devices)
    (isProtected : protectedDevice.protection = .protected)
    (notOwner : caller ≠ selfAuthenticating protectedDevice.pubkey)
    (removed : (Anchor.removeDevice selfAuthenticating caller deviceKey).run self = .ok () after) :
    Keeps protectedDevice after.devices := by
  obtain ⟨⟨index, indexBound⟩, -, allowed, rfl⟩ := Anchor.removeDevice_run_eq_ok.mp removed
  obtain ⟨kept, member, same⟩ := keeps
  obtain ⟨position, bound, rfl⟩ := List.mem_iff_getElem.mp member
  refine ⟨_, List.mem_eraseIdx_iff_getElem.mpr ⟨position, bound, fun atIndex => ?_, rfl⟩, same⟩
  subst atIndex
  exact mutation_blocked same isProtected notOwner allowed

theorem Keeps.modifyDevice {deviceKey : DeviceKey} {modifiedDevice : Device}
    (keeps : Keeps protectedDevice self.devices)
    (isProtected : protectedDevice.protection = .protected)
    (notOwner : caller ≠ selfAuthenticating protectedDevice.pubkey)
    (modified : (Anchor.modifyDevice selfAuthenticating caller deviceKey modifiedDevice).run self =
      .ok () after) :
    Keeps protectedDevice after.devices := by
  obtain ⟨-, -, ⟨index, indexBound⟩, -, allowed, -, rfl⟩ :=
    Anchor.modifyDevice_run_eq_ok.mp modified
  obtain ⟨kept, member, same⟩ := keeps
  obtain ⟨position, bound, rfl⟩ := List.mem_iff_getElem.mp member
  refine Keeps.of_set_ne bound same (fun atIndex => ?_) modifiedDevice
  subst atIndex
  exact mutation_blocked same isProtected notOwner allowed

theorem Keeps.setDeviceUsageTimestamp {deviceKey : DeviceKey} {time : Timestamp}
    (keeps : Keeps protectedDevice self.devices)
    (used : (Anchor.setDeviceUsageTimestamp deviceKey time).run self = .ok () after) :
    Keeps protectedDevice after.devices := by
  obtain ⟨⟨index, indexBound⟩, -, rfl⟩ := Anchor.setDeviceUsageTimestamp_run_eq_ok.mp used
  obtain ⟨kept, member, same⟩ := keeps
  obtain ⟨position, bound, rfl⟩ := List.mem_iff_getElem.mp member
  by_cases atIndex : index = position
  · subst atIndex
    exact ⟨_, List.getElem_mem (by simpa using bound), by simpa using same⟩
  · exact Keeps.of_set_ne bound same atIndex _

theorem Keeps.apply (keeps : Keeps protectedDevice self.devices)
    (isProtected : protectedDevice.protection = .protected)
    (notOwner : caller ≠ selfAuthenticating protectedDevice.pubkey) (operation : Operation) :
    Keeps protectedDevice (self.apply selfAuthenticating caller operation).devices := by
  unfold Anchor.apply
  cases result : (operation.call selfAuthenticating caller).run self with
  | error reason after => rwa [operation.call_run_eq_error result]
  | ok value after =>
      cases value
      cases operation with
      | addDevice device => exact keeps.addDevice result
      | removeDevice deviceKey => exact keeps.removeDevice isProtected notOwner result
      | modifyDevice deviceKey modifiedDevice =>
          exact keeps.modifyDevice isProtected notOwner result
      | setDeviceUsageTimestamp deviceKey time => exact keeps.setDeviceUsageTimestamp result

theorem Keeps.applyAll (keeps : Keeps protectedDevice self.devices)
    (isProtected : protectedDevice.protection = .protected) (calls : List (Principal × Operation))
    (notOwner : ∀ call ∈ calls, call.1 ≠ selfAuthenticating protectedDevice.pubkey) :
    Keeps protectedDevice (self.applyAll selfAuthenticating calls).devices := by
  induction calls generalizing self with
  | nil => exact keeps
  | cons call calls induction =>
      exact induction (keeps.apply isProtected (notOwner call (by simp)) call.2)
        fun other member => notOwner other (by simp [member])

/-- After every step of any run whose callers do not sign with its key, a
protected device is still there, unchanged but for its usage timestamp. -/
theorem protected_device_kept (member : protectedDevice ∈ self.devices)
    (isProtected : protectedDevice.protection = .protected) (calls : List (Principal × Operation))
    (notOwner : ∀ call ∈ calls, call.1 ≠ selfAuthenticating protectedDevice.pubkey)
    (steps : Nat) :
    Keeps protectedDevice (self.applyAll selfAuthenticating (calls.take steps)).devices :=
  Keeps.applyAll ⟨protectedDevice, member, rfl⟩ isProtected _
    fun call taken => notOwner call (List.mem_of_mem_take taken)

theorem locked_recovery_phrase_kept :
    { Device.ofDeviceData recoveryDeviceData1 with protection := .protected } ∈
        [{ Device.ofDeviceData recoveryDeviceData1 with protection := .protected }] ∧
      ({ Device.ofDeviceData recoveryDeviceData1 with protection := .protected } :
          Device).protection = .protected ∧
      (∀ call ∈ [((⟨[]⟩ : Principal), Operation.removeDevice recoveryPubkey1)],
        call.1 ≠ Principal.mk recoveryPubkey1) ∧
      Keeps { Device.ofDeviceData recoveryDeviceData1 with protection := .protected }
        ((Anchor.mk
            [{ Device.ofDeviceData recoveryDeviceData1 with protection := .protected }]).applyAll
          Principal.mk
          ([((⟨[]⟩ : Principal), Operation.removeDevice recoveryPubkey1)].take 1)).devices :=
  ⟨List.mem_singleton_self _, rfl, by decide,
    protected_device_kept (List.mem_singleton_self _) rfl _ (by decide) 1⟩

end Protection

end InternetIdentity.Storage
