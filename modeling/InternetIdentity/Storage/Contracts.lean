import InternetIdentity.Storage.Invariants

namespace InternetIdentity.Storage

/-! # What `add_device`, `modify_device` and `remove_device` accept

On an anchor with distinct keys a device key names one device, so the index
`device_index` returns is the only one holding the key.  From that:
`add_device` accepts exactly the additions that keep a valid anchor valid,
`modify_device` accepts exactly when the list it stores is within the limits
(although it checks a reordered list), and removing what was just added
restores the anchor.
-/

section Contracts

variable {selfAuthenticating : DeviceKey → Principal} {caller : Principal} {self after : Anchor}

theorem Anchor.deviceIndex_of_pubkey (nodup : (self.devices.map (·.pubkey)).Nodup)
    (index : Fin self.devices.length) {deviceKey : DeviceKey}
    (key : self.devices[index].pubkey = deviceKey) : self.deviceIndex deviceKey = .ok index := by
  refine Anchor.deviceIndex_eq_ok.mpr ⟨key, fun earlier before same => ?_⟩
  have distinct := List.pairwise_iff_getElem.mp nodup earlier index.val
    (by simpa using before.trans index.isLt) (by simp) before
  simp only [Fin.getElem_fin] at key
  simp [same, key] at distinct

theorem fresh_of_nodup_append {devices : List Device} {device : Device}
    (nodup : ((devices ++ [device]).map (·.pubkey)).Nodup) :
    ∀ other ∈ devices, other.pubkey ≠ device.pubkey := by
  simp only [List.map_append, List.map_cons, List.map_nil, List.nodup_append,
    List.disjoint_singleton, List.mem_map, not_exists, not_and] at nodup
  exact nodup.2.2

/-- On a valid anchor, `add_device` accepts exactly the additions that keep
the anchor valid, and appends the device. -/
theorem addDevice_ok_iff_devicesValid (valid : DevicesValid self.devices) (device : Device) :
    ((∃ after, (Anchor.addDevice device).run self = .ok () after) ↔
        DevicesValid (self.devices ++ [device])) ∧
      ∀ after, (Anchor.addDevice device).run self = .ok () after →
        after.devices = self.devices ++ [device] := by
  refine ⟨⟨fun ⟨after, added⟩ => ?_, fun extended => ?_⟩, fun after added => ?_⟩
  · obtain ⟨-, -, -, rfl⟩ := Anchor.addDevice_run_eq_ok.mp added
    exact addDevice_devicesValid valid added
  · exact ⟨_, Anchor.addDevice_run_eq_ok.mpr ⟨fresh_of_nodup_append extended.pubkeysNodup,
      extended.devicesValid device (by simp), extended.withinAnchorLimits, rfl⟩⟩
  · obtain ⟨-, -, -, rfl⟩ := Anchor.addDevice_run_eq_ok.mp added
    rfl

set_option maxRecDepth 2000 in
theorem adding_at_the_size_limit :
    let anchor : Anchor := ⟨[1, 2, 3].map fun key =>
      .ofDeviceData { maxSizeDevice with pubkey := List.replicate 300 key }⟩
    let device : Device := .ofDeviceData
      { maxSizeDevice with
        pubkey := List.replicate 300 4, credentialId := some (List.replicate 92 7) }
    DevicesValid anchor.devices ∧ DevicesValid (anchor.devices ++ [device]) ∧
      ((∃ after, (Anchor.addDevice device).run anchor = .ok () after) ↔
          DevicesValid (anchor.devices ++ [device])) ∧
        ∀ after, (Anchor.addDevice device).run anchor = .ok () after →
          after.devices = anchor.devices ++ [device] :=
  have valid : DevicesValid ([1, 2, 3].map fun key =>
      Device.ofDeviceData { maxSizeDevice with pubkey := List.replicate 300 key }) := by decide
  ⟨valid, by decide, addDevice_ok_iff_devicesValid valid _⟩

theorem checked_iff_stored (nodup : (self.devices.map (·.pubkey)).Nodup)
    (index : Fin self.devices.length) {deviceKey : DeviceKey}
    (key : self.devices[index].pubkey = deviceKey) (modifiedDevice : Device) :
    WithinAnchorLimits (self.devices.filter (·.pubkey != deviceKey) ++ [modifiedDevice]) ↔
      WithinAnchorLimits (self.devices.set index modifiedDevice) := by
  subst key
  have perm := filter_append_perm_set index.isLt nodup modifiedDevice
  exact ⟨fun limits => limits.of_perm perm, fun limits => limits.of_perm perm.symm⟩

/-- On an anchor with distinct keys, `modify_device` accepts exactly when the
key is kept, the device holding it may be mutated by the caller, the new
device is valid and the list with the device replaced in place is within the
limits; it then stores that list, although it checked a reordered one. -/
theorem modifyDevice_ok_iff (nodup : (self.devices.map (·.pubkey)).Nodup) (caller : Principal)
    (deviceKey : DeviceKey) (modifiedDevice : Device) :
    ((∃ after, (Anchor.modifyDevice selfAuthenticating caller deviceKey modifiedDevice).run self =
        .ok () after) ↔
      modifiedDevice.pubkey = deviceKey ∧
        ∃ index : Fin self.devices.length, self.devices[index].pubkey = deviceKey ∧
          (self.devices[index].protection = .unprotected ∨
            caller = selfAuthenticating deviceKey) ∧
          modifiedDevice.Valid ∧ WithinAnchorLimits (self.devices.set index modifiedDevice)) ∧
    (∀ after, (Anchor.modifyDevice selfAuthenticating caller deviceKey modifiedDevice).run self =
        .ok () after →
      ∀ index : Fin self.devices.length, self.devices[index].pubkey = deviceKey →
        after.devices = self.devices.set index modifiedDevice) ∧
    ∀ index : Fin self.devices.length, self.devices[index].pubkey = deviceKey →
      (WithinAnchorLimits (self.devices.filter (·.pubkey != deviceKey) ++ [modifiedDevice]) ↔
        WithinAnchorLimits (self.devices.set index modifiedDevice)) := by
  refine ⟨⟨fun ⟨after, modified⟩ => ?_, fun ⟨sameKey, index, key, allowed, valid, limits⟩ => ?_⟩,
    fun after modified index key => ?_, fun index key => checked_iff_stored nodup index key _⟩
  · obtain ⟨rfl, valid, index, found, allowed, limits, -⟩ :=
      Anchor.modifyDevice_run_eq_ok.mp modified
    have key : self.devices[index.val].pubkey = modifiedDevice.pubkey :=
      (Anchor.deviceIndex_eq_ok.mp found).1
    refine ⟨rfl, index, key, ?_, valid, (checked_iff_stored nodup index key _).mp limits⟩
    simpa [key] using checkMutationAllowed_eq_ok.mp allowed
  · subst sameKey
    refine ⟨_, Anchor.modifyDevice_run_eq_ok.mpr ⟨rfl, valid, index,
      Anchor.deviceIndex_of_pubkey nodup index key, ?_,
      (checked_iff_stored nodup index key _).mpr limits, rfl⟩⟩
    exact checkMutationAllowed_eq_ok.mpr (by rwa [key])
  · obtain ⟨-, -, found, foundIndex, -, -, rfl⟩ := Anchor.modifyDevice_run_eq_ok.mp modified
    cases (Anchor.deviceIndex_of_pubkey nodup index key).symm.trans foundIndex
    rfl

theorem renaming_the_first_of_three_devices :
    let anchor : Anchor := ⟨[.ofDeviceData deviceData1, .ofDeviceData recoveryDeviceData1,
      .ofDeviceData (deviceWithOrigin (some "https://identity.ic0.app"))]⟩
    let renamed : Device := { Device.ofDeviceData deviceData1 with «alias» := "Laptop" }
    anchor.devices.filter (·.pubkey != pubkey1) ++ [renamed] ≠ anchor.devices.set 0 renamed ∧
    (anchor.devices.map (·.pubkey)).Nodup ∧
    ((∃ after, (Anchor.modifyDevice (fun _ => ⟨[]⟩) ⟨[]⟩ pubkey1 renamed).run anchor =
        .ok () after) ↔
      renamed.pubkey = pubkey1 ∧
        ∃ index : Fin anchor.devices.length, anchor.devices[index].pubkey = pubkey1 ∧
          (anchor.devices[index].protection = .unprotected ∨ (⟨[]⟩ : Principal) = ⟨[]⟩) ∧
          renamed.Valid ∧ WithinAnchorLimits (anchor.devices.set index renamed)) ∧
    (∀ after, (Anchor.modifyDevice (fun _ => ⟨[]⟩) ⟨[]⟩ pubkey1 renamed).run anchor =
        .ok () after →
      ∀ index : Fin anchor.devices.length, anchor.devices[index].pubkey = pubkey1 →
        after.devices = anchor.devices.set index renamed) ∧
    ∀ index : Fin anchor.devices.length, anchor.devices[index].pubkey = pubkey1 →
      (WithinAnchorLimits (anchor.devices.filter (·.pubkey != pubkey1) ++ [renamed]) ↔
        WithinAnchorLimits (anchor.devices.set index renamed)) :=
  ⟨by decide, by decide, modifyDevice_ok_iff (by decide) _ _ _⟩

theorem set_perm_filter {devices : List Device} {index : Nat} (bound : index < devices.length)
    (first : ∀ earlier (before : earlier < index),
      devices[earlier].pubkey ≠ devices[index].pubkey) (replacement : Device) :
    (devices.set index replacement).Perm
      ((devices.filter (·.pubkey != devices[index].pubkey) ++ [replacement]) ++
        (devices.filter (·.pubkey == devices[index].pubkey)).tail) := by
  induction devices generalizing index with
  | nil => cases bound
  | cons head rest induction =>
      cases index with
      | zero =>
          have split := List.filter_append_perm (·.pubkey != head.pubkey) rest
          simp only [Bool.not_not, bne] at split
          simpa [bne] using (List.perm_middle.trans (split.cons replacement)).symm
      | succ index =>
          have restBound : index < rest.length := Nat.lt_of_succ_lt_succ bound
          have differs : head.pubkey ≠ rest[index].pubkey := first 0 (Nat.succ_pos _)
          have tail := induction restBound (fun earlier before => first (earlier + 1) (by omega))
          simpa [differs] using tail.cons head

/-- On any anchor, a `modify_device` that returns `Ok` stores, up to order,
the list whose limits it checked together with the anchor's further devices
under the same key.  The check thus covers what is stored exactly when one
device holds the key, as on every reachable anchor. -/
theorem modifyDevice_stores_checked {deviceKey : DeviceKey} {modifiedDevice : Device}
    (succeeded : (Anchor.modifyDevice selfAuthenticating caller deviceKey modifiedDevice).run self =
      .ok () after) :
    after.devices.Perm
      ((self.devices.filter (·.pubkey != deviceKey) ++ [modifiedDevice]) ++
        (self.devices.filter (·.pubkey == deviceKey)).tail) := by
  obtain ⟨-, -, index, found, -, -, rfl⟩ := Anchor.modifyDevice_run_eq_ok.mp succeeded
  have key : self.devices[index.val].pubkey = deviceKey := (Anchor.deviceIndex_eq_ok.mp found).1
  have first : ∀ position (before : position < index.val),
      self.devices[position].pubkey ≠ self.devices[index.val].pubkey := fun position before => by
    rw [key]
    exact (Anchor.deviceIndex_eq_ok.mp found).2 position before
  have stored := set_perm_filter index.isLt first modifiedDevice
  rwa [key] at stored

def legacyDevice (key : UInt8) : Device where
  pubkey := List.replicate 300 key
  «alias» := ""
  credentialId := some (List.replicate 200 key)
  purpose := .authentication
  keyType := .unknown
  protection := .unprotected
  origin := none
  lastUsageTimestamp := none

/-- An anchor stored before the invariants, holding the key of
`legacyDevice 0` twice, once without a credential id. -/
def legacyAnchor : Anchor :=
  ⟨[{ legacyDevice 0 with credentialId := none }, legacyDevice 0, legacyDevice 1, legacyDevice 2,
    legacyDevice 3]⟩

set_option maxRecDepth 4000 in
theorem legacy_modification_exceeds_limits :
    WithinAnchorLimits legacyAnchor.devices ∧
      (Anchor.modifyDevice (fun _ => ⟨[]⟩) ⟨[]⟩ (legacyDevice 0).pubkey (legacyDevice 0)).run
          legacyAnchor =
        .ok () ⟨legacyAnchor.devices.set 0 (legacyDevice 0)⟩ ∧
      ¬WithinAnchorLimits (legacyAnchor.devices.set 0 (legacyDevice 0)) ∧
      (legacyAnchor.devices.set 0 (legacyDevice 0)).Perm
        ((legacyAnchor.devices.filter (·.pubkey != (legacyDevice 0).pubkey) ++
            [legacyDevice 0]) ++
          (legacyAnchor.devices.filter (·.pubkey == (legacyDevice 0).pubkey)).tail) := by
  have ran :
      (Anchor.modifyDevice (fun _ => ⟨[]⟩) ⟨[]⟩ (legacyDevice 0).pubkey (legacyDevice 0)).run
        legacyAnchor = .ok () ⟨legacyAnchor.devices.set 0 (legacyDevice 0)⟩ := rfl
  exact ⟨by decide, ran, by decide, modifyDevice_stores_checked ran⟩

/-- Removing the device just added undoes the addition, from any anchor:
the duplicate check makes the appended device the first with its key. -/
theorem addDevice_then_removeDevice {device : Device}
    (added : (Anchor.addDevice device).run self = .ok () after)
    (allowed : device.protection = .unprotected ∨ caller = selfAuthenticating device.pubkey) :
    (Anchor.removeDevice selfAuthenticating caller device.pubkey).run after = .ok () self := by
  obtain ⟨fresh, -, -, rfl⟩ := Anchor.addDevice_run_eq_ok.mp added
  have bound : self.devices.length < (self.devices ++ [device]).length := by simp
  have last : (self.devices ++ [device])[self.devices.length] = device := by simp
  refine Anchor.removeDevice_run_eq_ok.mpr
    ⟨⟨_, bound⟩, Anchor.deviceIndex_eq_ok.mpr ⟨by simp [last], fun earlier before => ?_⟩,
      checkMutationAllowed_eq_ok.mpr (by simpa [last] using allowed), ?_⟩
  · simpa [List.getElem_append_left before] using fresh _ (List.getElem_mem _)
  · simp [List.eraseIdx_append_of_length_le]

theorem add_then_remove_after_two_devices :
    let anchor : Anchor := ⟨[.ofDeviceData recoveryDeviceData1,
      .ofDeviceData (deviceWithOrigin (some "https://identity.ic0.app"))]⟩
    (Anchor.addDevice (.ofDeviceData deviceData1)).run anchor =
        .ok () ⟨anchor.devices ++ [.ofDeviceData deviceData1]⟩ ∧
      ((Device.ofDeviceData deviceData1).protection = .unprotected ∨
        (⟨[]⟩ : Principal) = ⟨[]⟩) ∧
      (Anchor.removeDevice (fun _ => ⟨[]⟩) ⟨[]⟩ (Device.ofDeviceData deviceData1).pubkey).run
        ⟨anchor.devices ++ [.ofDeviceData deviceData1]⟩ = .ok () anchor := by
  refine ⟨?added, .inl rfl, addDevice_then_removeDevice ?added (.inl rfl)⟩
  rfl

/-- On a valid anchor, a device that was removed can be added back, and the
anchor then holds the devices it held before, in another order at most. -/
theorem removeDevice_then_addDevice (valid : DevicesValid self.devices) {device : Device}
    (member : device ∈ self.devices)
    (removed :
      (Anchor.removeDevice selfAuthenticating caller device.pubkey).run self = .ok () after) :
    ∃ restored, (Anchor.addDevice device).run after = .ok () restored ∧
      restored.devices.Perm self.devices := by
  obtain ⟨index, found, -, rfl⟩ := Anchor.removeDevice_run_eq_ok.mp removed
  have same : self.devices[index.val] = device :=
    List.inj_on_of_nodup_map valid.pubkeysNodup (List.getElem_mem _) member
      (Anchor.deviceIndex_eq_ok.mp found).1
  have perm : (self.devices.eraseIdx index ++ [device]).Perm self.devices := by
    rw [← same]
    exact (List.perm_append_singleton _ _).trans
      (((List.erase_getElem index.isLt).symm.cons _).trans
        (List.perm_cons_erase (List.getElem_mem _)).symm)
  exact ⟨_, Anchor.addDevice_run_eq_ok.mpr
    ⟨fresh_of_nodup_append ((perm.map _).nodup_iff.mpr valid.pubkeysNodup),
      valid.devicesValid device member, valid.withinAnchorLimits.of_perm perm.symm, rfl⟩, perm⟩

theorem readding_recovery_phrase_1 :
    DevicesValid [.ofDeviceData recoveryDeviceData1, .ofDeviceData deviceData1] ∧
      Device.ofDeviceData recoveryDeviceData1 ∈
        [.ofDeviceData recoveryDeviceData1, .ofDeviceData deviceData1] ∧
      (Anchor.removeDevice (fun _ => ⟨[]⟩) ⟨[]⟩
          (Device.ofDeviceData recoveryDeviceData1).pubkey).run
          ⟨[.ofDeviceData recoveryDeviceData1, .ofDeviceData deviceData1]⟩ =
        .ok () ⟨[.ofDeviceData deviceData1]⟩ ∧
      ∃ restored, (Anchor.addDevice (.ofDeviceData recoveryDeviceData1)).run
          ⟨[.ofDeviceData deviceData1]⟩ = .ok () restored ∧
        restored.devices.Perm [.ofDeviceData recoveryDeviceData1, .ofDeviceData deviceData1] := by
  refine ⟨?valid, ?member, ?removed, removeDevice_then_addDevice ?valid ?member ?removed⟩
  · decide
  · simp
  · rfl

/-- On a valid anchor a modification can be undone: when the caller may
mutate the modified device, modifying it back to the device it replaced
succeeds and restores the anchor exactly. -/
theorem modifyDevice_then_modifyDevice (valid : DevicesValid self.devices)
    {deviceKey : DeviceKey} {modifiedDevice : Device}
    (modified : (Anchor.modifyDevice selfAuthenticating caller deviceKey modifiedDevice).run self =
      .ok () after)
    (allowed : checkMutationAllowed selfAuthenticating caller modifiedDevice = .ok ()) :
    ∃ original, self.device deviceKey = some original ∧
      (Anchor.modifyDevice selfAuthenticating caller deviceKey original).run after =
        .ok () self := by
  obtain ⟨rfl, -, index, found, -, -, rfl⟩ := Anchor.modifyDevice_run_eq_ok.mp modified
  have key : self.devices[index.val].pubkey = modifiedDevice.pubkey :=
    (Anchor.deviceIndex_eq_ok.mp found).1
  have modifiedNodup : ((self.devices.set index modifiedDevice).map (·.pubkey)).Nodup :=
    (map_set_of_eq (f := (·.pubkey)) index.isLt key.symm).symm ▸ valid.pubkeysNodup
  have bound : index.val < (self.devices.set index modifiedDevice).length := by simp
  have modifiedKey :
      (self.devices.set index modifiedDevice)[index.val].pubkey = modifiedDevice.pubkey := by
    simp
  have restored :
      (self.devices.set index modifiedDevice).set index self.devices[index] = self.devices := by
    rw [List.set_set]
    exact set_getElem_self index.isLt
  have limits := (@checked_iff_stored ⟨self.devices.set index modifiedDevice⟩ modifiedNodup
    ⟨index.val, bound⟩ _ modifiedKey self.devices[index]).mpr (restored ▸ valid.withinAnchorLimits)
  exact ⟨self.devices[index], Anchor.device_of_deviceIndex found,
    Anchor.modifyDevice_run_eq_ok.mpr ⟨key.symm, valid.devicesValid _ (List.getElem_mem _),
      ⟨index.val, bound⟩, Anchor.deviceIndex_of_pubkey modifiedNodup ⟨index.val, bound⟩ modifiedKey,
      by simpa using allowed, limits, (congrArg Anchor.mk restored).symm⟩⟩

theorem renaming_device_data_1_back :
    DevicesValid [.ofDeviceData deviceData1] ∧
      (Anchor.modifyDevice (fun _ => ⟨[]⟩) ⟨[]⟩ pubkey1
          { Device.ofDeviceData deviceData1 with «alias» := "Laptop" }).run
          ⟨[.ofDeviceData deviceData1]⟩ =
        .ok () ⟨[{ Device.ofDeviceData deviceData1 with «alias» := "Laptop" }]⟩ ∧
      checkMutationAllowed (fun _ => ⟨[]⟩) ⟨[]⟩
          { Device.ofDeviceData deviceData1 with «alias» := "Laptop" } = .ok () ∧
      ∃ original, (Anchor.mk [.ofDeviceData deviceData1]).device pubkey1 = some original ∧
        (Anchor.modifyDevice (fun _ => ⟨[]⟩) ⟨[]⟩ pubkey1 original).run
            ⟨[{ Device.ofDeviceData deviceData1 with «alias» := "Laptop" }]⟩ =
          .ok () ⟨[.ofDeviceData deviceData1]⟩ := by
  refine ⟨?valid, ?modified, ?allowed, modifyDevice_then_modifyDevice ?valid ?modified ?allowed⟩
  · decide
  · rfl
  · rfl

end Contracts

end InternetIdentity.Storage
