import InternetIdentity.Storage.Invariants

namespace InternetIdentity.Storage

/-! # The anchor as a map from device keys to devices

What an anchor is for: it holds at most one device per key, and each method
adds, removes or replaces the device of one key.  The abstract anchor is
that map, read off the device list by `Anchor::device`; `Operation.effect`
says what each operation does to it, and where the map alone rules the
operation out.  On an anchor whose keys are distinct, which every reachable
anchor is, a call that returns `Ok` changes the map by exactly its
operation's effect, and a call that returns `Err` leaves it as it was.  The
checks of the code refuse more than the map does; they never do anything
else.
-/

def updateDevice (devices : DeviceKey → Option Device) (deviceKey : DeviceKey)
    (entry : Option Device) : DeviceKey → Option Device :=
  fun other => if other = deviceKey then entry else devices other

/-- What an operation does to the map of devices, and `none` where the map
rules it out: a key already present for `add_device`, an absent key for the
others, a modification that changes the key. -/
def Operation.effect (devices : DeviceKey → Option Device) :
    Operation → Option (DeviceKey → Option Device)
  | .addDevice device =>
      if devices device.pubkey = none then
        some (updateDevice devices device.pubkey (some device))
      else none
  | .removeDevice deviceKey => (devices deviceKey).map fun _ => updateDevice devices deviceKey none
  | .modifyDevice deviceKey modifiedDevice =>
      if modifiedDevice.pubkey = deviceKey ∧ (devices deviceKey).isSome then
        some (updateDevice devices deviceKey (some modifiedDevice))
      else none
  | .setDeviceUsageTimestamp deviceKey time =>
      (devices deviceKey).map fun device =>
        updateDevice devices deviceKey (some { device with lastUsageTimestamp := some time })

/-! ## Looking keys up in the device list -/

section Lookup

variable {devices : List Device} {key : DeviceKey}

theorem find?_append_fresh {device : Device}
    (fresh : ∀ other ∈ devices, other.pubkey ≠ device.pubkey) :
    (devices ++ [device]).find? (·.pubkey == key) =
      if key = device.pubkey then some device else devices.find? (·.pubkey == key) := by
  rw [List.find?_append, List.find?_singleton]
  by_cases same : key = device.pubkey
  · subst same
    have absent : devices.find? (·.pubkey == device.pubkey) = none :=
      List.find?_eq_none.mpr fun other member => by simpa using fresh other member
    simp [absent]
  · simp [same, Ne.symm same]

theorem find?_set_of_pubkey (nodup : (devices.map (·.pubkey)).Nodup) {index : Nat}
    (bound : index < devices.length) {replacement : Device}
    (sameKey : replacement.pubkey = devices[index].pubkey) :
    (devices.set index replacement).find? (·.pubkey == key) =
      if key = devices[index].pubkey then some replacement
      else devices.find? (·.pubkey == key) := by
  induction devices generalizing index with
  | nil => cases bound
  | cons first rest induction =>
      simp only [List.map_cons, List.nodup_cons, List.mem_map, not_exists, not_and] at nodup
      cases index with
      | zero =>
          simp only [List.getElem_cons_zero] at sameKey ⊢
          by_cases same : key = first.pubkey
          · simp [List.find?_cons, same, sameKey]
          · simp [List.find?_cons, same, sameKey, Ne.symm same]
      | succ index =>
          simp only [List.getElem_cons_succ] at sameKey ⊢
          have restBound : index < rest.length := Nat.lt_of_succ_lt_succ bound
          have tail := induction nodup.2 restBound sameKey
          by_cases found : first.pubkey = key
          · have other : key ≠ rest[index].pubkey := fun same =>
              nodup.1 _ (List.getElem_mem _) (same ▸ found).symm
            simp [List.find?_cons, found, other]
          · simp [List.find?_cons, found, tail]

theorem find?_eraseIdx (nodup : (devices.map (·.pubkey)).Nodup) {index : Nat}
    (bound : index < devices.length) :
    (devices.eraseIdx index).find? (·.pubkey == key) =
      if key = devices[index].pubkey then none else devices.find? (·.pubkey == key) := by
  induction devices generalizing index with
  | nil => cases bound
  | cons first rest induction =>
      simp only [List.map_cons, List.nodup_cons, List.mem_map, not_exists, not_and] at nodup
      cases index with
      | zero =>
          simp only [List.eraseIdx_cons_zero, List.getElem_cons_zero]
          by_cases same : key = first.pubkey
          · subst same
            simpa [List.find?_eq_none] using nodup.1
          · simp [List.find?_cons, same, Ne.symm same]
      | succ index =>
          simp only [List.eraseIdx_cons_succ, List.getElem_cons_succ]
          have restBound : index < rest.length := Nat.lt_of_succ_lt_succ bound
          have tail := induction nodup.2 restBound
          by_cases found : first.pubkey = key
          · have other : key ≠ rest[index].pubkey := fun same =>
              nodup.1 _ (List.getElem_mem _) (same ▸ found).symm
            simp [List.find?_cons, found, other]
          · simp [List.find?_cons, found, tail]

end Lookup

/-! ## Each call refines its operation -/

section Refinement

variable {selfAuthenticating : DeviceKey → Principal} {caller : Principal} {self after : Anchor}
  {deviceKey : DeviceKey}

theorem Anchor.device_append_fresh {device : Device}
    (fresh : ∀ other ∈ self.devices, other.pubkey ≠ device.pubkey) :
    (⟨self.devices ++ [device]⟩ : Anchor).device =
      updateDevice self.device device.pubkey (some device) :=
  funext fun _ => find?_append_fresh fresh

theorem Anchor.device_eraseIdx (nodup : (self.devices.map (·.pubkey)).Nodup)
    (index : Fin self.devices.length) :
    (⟨self.devices.eraseIdx index⟩ : Anchor).device =
      updateDevice self.device self.devices[index.val].pubkey none :=
  funext fun _ => find?_eraseIdx nodup index.isLt

theorem Anchor.device_set (nodup : (self.devices.map (·.pubkey)).Nodup)
    (index : Fin self.devices.length) {replacement : Device}
    (sameKey : replacement.pubkey = self.devices[index.val].pubkey) :
    (⟨self.devices.set index replacement⟩ : Anchor).device =
      updateDevice self.device self.devices[index.val].pubkey (some replacement) :=
  funext fun _ => find?_set_of_pubkey nodup index.isLt sameKey

theorem Operation.call_refines (nodup : (self.devices.map (·.pubkey)).Nodup)
    (operation : Operation)
    (succeeded : (operation.call selfAuthenticating caller).run self = .ok () after) :
    operation.effect self.device = some after.device := by
  cases operation with
  | addDevice device =>
      obtain ⟨fresh, -, -, rfl⟩ := Anchor.addDevice_run_eq_ok.mp succeeded
      have absent : self.device device.pubkey = none :=
        List.find?_eq_none.mpr fun other member => by simpa using fresh other member
      rw [Operation.effect, if_pos absent, Anchor.device_append_fresh fresh]
  | removeDevice deviceKey =>
      obtain ⟨index, found, -, rfl⟩ := Anchor.removeDevice_run_eq_ok.mp succeeded
      have key : self.devices[index.val].pubkey = deviceKey := (Anchor.deviceIndex_eq_ok.mp found).1
      rw [Operation.effect, Anchor.device_of_deviceIndex found, Anchor.device_eraseIdx nodup, key]
      rfl
  | modifyDevice deviceKey modifiedDevice =>
      obtain ⟨rfl, -, index, found, -, -, rfl⟩ := Anchor.modifyDevice_run_eq_ok.mp succeeded
      have key : self.devices[index.val].pubkey = modifiedDevice.pubkey :=
        (Anchor.deviceIndex_eq_ok.mp found).1
      rw [Operation.effect, Anchor.device_of_deviceIndex found, if_pos ⟨rfl, rfl⟩,
        Anchor.device_set nodup index key.symm, key]
  | setDeviceUsageTimestamp deviceKey time =>
      obtain ⟨index, found, rfl⟩ := Anchor.setDeviceUsageTimestamp_run_eq_ok.mp succeeded
      have key : self.devices[index.val].pubkey = deviceKey := (Anchor.deviceIndex_eq_ok.mp found).1
      have sameKey :
          ({ self.devices[index] with lastUsageTimestamp := some time } : Device).pubkey =
            self.devices[index.val].pubkey := rfl
      rw [Operation.effect, Anchor.device_of_deviceIndex found,
        Anchor.device_set nodup index sameKey, key]
      rfl

/-- Every anchor reachable from `Anchor::new` refines its map of devices: a
further call that returns `Ok` changes the map by its operation's effect,
which the map allows, and a call that returns `Err` leaves the map as it
was. -/
theorem reachable_anchor_refines (calls : List (Principal × Operation)) (caller : Principal)
    (operation : Operation) :
    (∀ after, (operation.call selfAuthenticating caller).run
        (Anchor.new.applyAll selfAuthenticating calls) = .ok () after →
      operation.effect (Anchor.new.applyAll selfAuthenticating calls).device =
        some after.device) ∧
      ∀ error after, (operation.call selfAuthenticating caller).run
          (Anchor.new.applyAll selfAuthenticating calls) = .error error after →
        after.device = (Anchor.new.applyAll selfAuthenticating calls).device :=
  have valid := Anchor.applyAll_devicesValid Anchor.new_devicesValid calls
  ⟨fun _ succeeded => operation.call_refines valid.pubkeysNodup succeeded,
    fun _ _ failed => by rw [operation.call_run_eq_error failed]⟩

end Refinement

end InternetIdentity.Storage
