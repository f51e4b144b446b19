import InternetIdentity.Storage.Anchor

namespace InternetIdentity.Storage

/-! # The anchor invariants

`DevicesValid` is every invariant the spec states of an anchor: the limits
`check_anchor_invariants` enforces on the whole list, the ones
`check_device_invariants` enforces on each device, and distinct public keys,
which only the duplicate check of `add_device` guards.  The methods that add
or modify a device check the state they produce; the two that do not,
`remove_device` and `set_device_usage_timestamp`, cannot make an anchor
worse (`NotWorse`), which is what lets stored legacy anchors shed devices.
-/

/-- Every invariant of an anchor's device list. -/
@[mk_iff] structure DevicesValid (devices : List Device) : Prop where
  withinAnchorLimits : WithinAnchorLimits devices
  devicesValid : ∀ device ∈ devices, device.Valid
  pubkeysNodup : (devices.map (·.pubkey)).Nodup

instance (devices : List Device) : Decidable (DevicesValid devices) :=
  decidable_of_iff _ (devicesValid_iff devices).symm

/-- `after` is no further from the invariants than `before`: no bounded
measure grew and no invariant that held was lost. -/
structure NotWorse (before after : List Device) : Prop where
  numDevices : after.length ≤ before.length
  variableSize :
    (after.map Device.variableFieldsLen).sum ≤ (before.map Device.variableFieldsLen).sum
  seedPhrases : (after.filter (·.keyType == .seedPhrase)).length ≤
    (before.filter (·.keyType == .seedPhrase)).length
  protectedSeedPhrase :
    (∀ device ∈ before, device.protection = .protected → device.keyType = .seedPhrase) →
      ∀ device ∈ after, device.protection = .protected → device.keyType = .seedPhrase
  withinLimits : (∀ device ∈ before, device.WithinLimits) → ∀ device ∈ after, device.WithinLimits
  pubkeysNodup : (before.map (·.pubkey)).Nodup → (after.map (·.pubkey)).Nodup

section Lists

variable {before after : List Device}

theorem NotWorse.withinAnchorLimits (notWorse : NotWorse before after)
    (limits : WithinAnchorLimits before) : WithinAnchorLimits after :=
  ⟨notWorse.numDevices.trans limits.numDevices, notWorse.variableSize.trans limits.variableSize,
    notWorse.seedPhrases.trans limits.seedPhrases⟩

theorem NotWorse.devicesValid (notWorse : NotWorse before after) (valid : DevicesValid before) :
    DevicesValid after where
  withinAnchorLimits := notWorse.withinAnchorLimits valid.withinAnchorLimits
  devicesValid device member :=
    ⟨notWorse.withinLimits (fun other found => (valid.devicesValid other found).withinLimits)
        device member,
      notWorse.protectedSeedPhrase
        (fun other found => (valid.devicesValid other found).protectedSeedPhrase) device member⟩
  pubkeysNodup := notWorse.pubkeysNodup valid.pubkeysNodup

theorem NotWorse.of_sublist (sublist : after.Sublist before) : NotWorse before after where
  numDevices := sublist.length_le
  variableSize := (sublist.map _).sum_le_sum fun _ _ => Nat.zero_le _
  seedPhrases := (sublist.filter _).length_le
  protectedSeedPhrase holds device member := holds device (sublist.subset member)
  withinLimits holds device member := holds device (sublist.subset member)
  pubkeysNodup := (sublist.map _).nodup

theorem map_set_of_eq {α β : Type} {f : α → β} {list : List α} {index : Nat} {value : α}
    (bound : index < list.length) (same : f value = f list[index]) :
    (list.set index value).map f = list.map f := by
  apply List.ext_getElem (by simp)
  intro position _ _
  simp only [List.getElem_map, List.getElem_set]
  split <;> simp_all

theorem set_getElem_self {α : Type} {list : List α} {index : Nat} (bound : index < list.length) :
    list.set index list[index] = list := by
  induction list generalizing index with
  | nil => cases bound
  | cons first rest induction =>
      cases index with
      | zero => rfl
      | succ index =>
          simp only [List.set_cons_succ, List.getElem_cons_succ,
            induction (Nat.lt_of_succ_lt_succ bound)]

theorem NotWorse.of_set_usage {index : Nat} (bound : index < before.length) (time : Timestamp) :
    NotWorse before (before.set index { before[index] with lastUsageTimestamp := some time }) := by
  have sizes : (before.set index { before[index] with lastUsageTimestamp := some time }).map
      Device.variableFieldsLen = before.map Device.variableFieldsLen := map_set_of_eq bound rfl
  have keys : (before.set index { before[index] with lastUsageTimestamp := some time }).map
      Device.keyType = before.map Device.keyType := map_set_of_eq bound rfl
  have pubkeys : (before.set index { before[index] with lastUsageTimestamp := some time }).map
      (·.pubkey) = before.map (·.pubkey) := map_set_of_eq bound rfl
  refine ⟨(List.length_set ..).le, (congrArg List.sum sizes).le, ?_, ?_, ?_,
    fun nodup => pubkeys ▸ nodup⟩
  · have count (devices : List Device) : (devices.filter (·.keyType == .seedPhrase)).length =
        (devices.map Device.keyType).countP (· == .seedPhrase) := by
      rw [List.countP_map, List.countP_eq_length_filter]
      rfl
    rw [count, count, keys]
  · intro holds device member
    rcases List.mem_or_eq_of_mem_set member with member | rfl
    · exact holds device member
    · exact holds before[index] (List.getElem_mem bound)
  · intro holds device member
    rcases List.mem_or_eq_of_mem_set member with member | rfl
    · exact holds device member
    · have limits := holds before[index] (List.getElem_mem bound)
      exact ⟨limits.1, limits.2, limits.3, limits.4⟩

theorem WithinAnchorLimits.of_perm (perm : before.Perm after)
    (limits : WithinAnchorLimits before) : WithinAnchorLimits after :=
  ⟨perm.length_eq ▸ limits.numDevices,
    (perm.map Device.variableFieldsLen).sum_eq ▸ limits.variableSize,
    (perm.filter _).length_eq ▸ limits.seedPhrases⟩

theorem filter_append_perm_set {devices : List Device} {index : Nat}
    (bound : index < devices.length) (nodup : (devices.map (·.pubkey)).Nodup)
    (modified : Device) :
    (devices.filter (·.pubkey != devices[index].pubkey) ++ [modified]).Perm
      (devices.set index modified) := by
  induction devices generalizing index with
  | nil => simp at bound
  | cons first rest induction =>
      simp only [List.map_cons, List.nodup_cons, List.mem_map, not_exists, not_and] at nodup
      cases index with
      | zero =>
          have kept : rest.filter (·.pubkey != first.pubkey) = rest :=
            List.filter_eq_self.mpr fun other member => by simp [nodup.1 other member]
          simp [kept]
      | succ index =>
          have restBound : index < rest.length := by simpa using bound
          have differs : first.pubkey ≠ rest[index].pubkey := fun same =>
            nodup.1 _ (List.getElem_mem restBound) same.symm
          simpa [differs] using (induction restBound nodup.2).cons first

theorem DevicesValid.set_modified {devices : List Device} {index : Nat}
    (bound : index < devices.length) (valid : DevicesValid devices) {modified : Device}
    (sameKey : modified.pubkey = devices[index].pubkey) (deviceValid : modified.Valid)
    (limits : WithinAnchorLimits
      (devices.filter (·.pubkey != devices[index].pubkey) ++ [modified])) :
    DevicesValid (devices.set index modified) where
  withinAnchorLimits := limits.of_perm (filter_append_perm_set bound valid.pubkeysNodup modified)
  devicesValid device member := by
    rcases List.mem_or_eq_of_mem_set member with member | rfl
    · exact valid.devicesValid device member
    · exact deviceValid
  pubkeysNodup := (map_set_of_eq (f := (·.pubkey)) bound sameKey).symm ▸ valid.pubkeysNodup

end Lists

/-! ## Every call keeps a valid anchor valid -/

section Calls

variable {selfAuthenticating : DeviceKey → Principal} {caller : Principal} {self after : Anchor}

theorem addDevice_devicesValid {device : Device} (valid : DevicesValid self.devices)
    (succeeded : (Anchor.addDevice device).run self = .ok () after) :
    DevicesValid after.devices := by
  obtain ⟨fresh, deviceValid, limits, rfl⟩ := Anchor.addDevice_run_eq_ok.mp succeeded
  refine ⟨limits, ?_, ?_⟩
  · simpa [or_imp, forall_and] using And.intro valid.devicesValid deviceValid
  · simpa [List.nodup_append] using And.intro valid.pubkeysNodup fresh

theorem removeDevice_notWorse {deviceKey : DeviceKey}
    (succeeded :
      (Anchor.removeDevice selfAuthenticating caller deviceKey).run self = .ok () after) :
    NotWorse self.devices after.devices := by
  obtain ⟨index, -, -, rfl⟩ := Anchor.removeDevice_run_eq_ok.mp succeeded
  exact NotWorse.of_sublist (List.eraseIdx_sublist _ _)

theorem setDeviceUsageTimestamp_notWorse {deviceKey : DeviceKey} {time : Timestamp}
    (succeeded : (Anchor.setDeviceUsageTimestamp deviceKey time).run self = .ok () after) :
    NotWorse self.devices after.devices := by
  obtain ⟨index, -, rfl⟩ := Anchor.setDeviceUsageTimestamp_run_eq_ok.mp succeeded
  exact NotWorse.of_set_usage index.isLt time

theorem modifyDevice_devicesValid {deviceKey : DeviceKey} {modifiedDevice : Device}
    (valid : DevicesValid self.devices)
    (succeeded : (Anchor.modifyDevice selfAuthenticating caller deviceKey modifiedDevice).run self =
      .ok () after) :
    DevicesValid after.devices := by
  obtain ⟨rfl, deviceValid, index, found, -, limits, rfl⟩ :=
    Anchor.modifyDevice_run_eq_ok.mp succeeded
  have key : self.devices[index.val].pubkey = modifiedDevice.pubkey :=
    (Anchor.deviceIndex_eq_ok.mp found).1
  exact valid.set_modified index.isLt key.symm deviceValid (by rwa [key])

theorem Anchor.apply_devicesValid (valid : DevicesValid self.devices) (caller : Principal)
    (operation : Operation) :
    DevicesValid (self.apply selfAuthenticating caller operation).devices := by
  unfold Anchor.apply
  cases result : (operation.call selfAuthenticating caller).run self with
  | error reason after => rwa [operation.call_run_eq_error result]
  | ok value after =>
      cases value
      cases operation with
      | addDevice device => exact addDevice_devicesValid valid result
      | removeDevice deviceKey => exact (removeDevice_notWorse result).devicesValid valid
      | modifyDevice deviceKey modifiedDevice => exact modifyDevice_devicesValid valid result
      | setDeviceUsageTimestamp deviceKey time =>
          exact (setDeviceUsageTimestamp_notWorse result).devicesValid valid

theorem Anchor.applyAll_devicesValid (valid : DevicesValid self.devices)
    (calls : List (Principal × Operation)) :
    DevicesValid (self.applyAll selfAuthenticating calls).devices := by
  induction calls generalizing self with
  | nil => exact valid
  | cons call calls induction => exact induction (self.apply_devicesValid valid call.1 call.2)

theorem Anchor.new_devicesValid : DevicesValid Anchor.new.devices := by decide

/-- Every anchor reachable from `Anchor::new`, by any calls of any callers,
satisfies every invariant. -/
theorem reachable_anchor_devicesValid (calls : List (Principal × Operation)) :
    DevicesValid (Anchor.new.applyAll selfAuthenticating calls).devices :=
  Anchor.applyAll_devicesValid Anchor.new_devicesValid calls

/-- The two methods that check no invariant cannot make an anchor worse,
whether or not it was valid. -/
theorem unchecked_calls_not_worse {deviceKey : DeviceKey} {time : Timestamp}
    (succeeded :
      (Anchor.removeDevice selfAuthenticating caller deviceKey).run self = .ok () after ∨
        (Anchor.setDeviceUsageTimestamp deviceKey time).run self = .ok () after) :
    NotWorse self.devices after.devices :=
  succeeded.elim removeDevice_notWorse setDeviceUsageTimestamp_notWorse

theorem shedding_recovery_phrase_not_worse :
    ((Anchor.removeDevice (fun _ => ⟨[]⟩) ⟨[]⟩ recoveryPubkey2).run
          ⟨[.ofDeviceData recoveryDeviceData1, .ofDeviceData recoveryDeviceData2]⟩ =
        .ok () ⟨[.ofDeviceData recoveryDeviceData1]⟩ ∨
      (Anchor.setDeviceUsageTimestamp recoveryPubkey2 0).run
          ⟨[.ofDeviceData recoveryDeviceData1, .ofDeviceData recoveryDeviceData2]⟩ =
        .ok () ⟨[.ofDeviceData recoveryDeviceData1]⟩) ∧
    NotWorse [.ofDeviceData recoveryDeviceData1, .ofDeviceData recoveryDeviceData2]
      [.ofDeviceData recoveryDeviceData1] :=
  by refine ⟨?succeeded, unchecked_calls_not_worse ?succeeded⟩; exact .inl (by rfl)

end Calls

end InternetIdentity.Storage
