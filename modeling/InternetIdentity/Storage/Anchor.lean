import InternetIdentity.Storage.Device

namespace InternetIdentity.Storage

/-! # Anchors

The anchor keeps its devices private: they change only through the methods
below, each of which checks before it mutates.  A `&mut self` method that
returns `Result<(), AnchorError>` is an `EStateM AnchorError Anchor`
computation, whose error carries the anchor as it stands at the
`return Err`.
-/

structure Anchor where
  devices : List Device
deriving DecidableEq, Repr

abbrev AnchorM := EStateM AnchorError Anchor

section Run

variable {α β : Type} {anchor : Anchor}

@[simp] theorem run_get_bind (f : Anchor → AnchorM α) :
    (get >>= f : AnchorM α).run anchor = (f anchor).run anchor := rfl

@[simp] theorem run_throw (error : AnchorError) :
    (throw error : AnchorM α).run anchor = .error error anchor := rfl

@[simp] theorem run_throw_bind (error : AnchorError) (f : α → AnchorM β) :
    (throw error >>= f : AnchorM β).run anchor = .error error anchor := rfl

@[simp] theorem run_pure_bind (a : α) (f : α → AnchorM β) :
    (pure a >>= f : AnchorM β).run anchor = (f a).run anchor := rfl

@[simp] theorem run_set (after : Anchor) :
    (set after : AnchorM PUnit).run anchor = .ok ⟨⟩ after := rfl

@[simp] theorem run_ofExcept_ok_bind (a : α) (f : α → AnchorM β) :
    (MonadExcept.ofExcept (.ok a) >>= f : AnchorM β).run anchor = (f a).run anchor := rfl

@[simp] theorem run_ofExcept_error_bind (error : AnchorError) (f : α → AnchorM β) :
    (MonadExcept.ofExcept (.error error) >>= f : AnchorM β).run anchor = .error error anchor :=
  rfl

theorem run_check_bind_eq_ok {check : Except AnchorError Unit} {f : Unit → AnchorM β} {b : β}
    {after : Anchor} :
    (MonadExcept.ofExcept check >>= f : AnchorM β).run anchor = .ok b after ↔
      check = .ok () ∧ (f ()).run anchor = .ok b after := by
  cases check <;> simp

theorem run_check_bind_eq_error {check : Except AnchorError Unit} {f : Unit → AnchorM β}
    {error : AnchorError} {after : Anchor} :
    (MonadExcept.ofExcept check >>= f : AnchorM β).run anchor = .error error after ↔
      check = .error error ∧ after = anchor ∨
        check = .ok () ∧ (f ()).run anchor = .error error after := by
  cases check <;> simp [eq_comm]

end Run

/-! ## Checks on a whole anchor -/

def maxDevicesPerAnchor : Nat := 10
def variableFieldsLimit : Nat := 2348

def checkAnchorInvariants (devices : List Device) : Except AnchorError Unit := do
  if devices.length > maxDevicesPerAnchor then
    throw (.tooManyDevices maxDevicesPerAnchor devices.length)
  let existingVariableSize := (devices.map Device.variableFieldsLen).sum
  if existingVariableSize > variableFieldsLimit then
    throw (.cumulativeDataLimitExceeded existingVariableSize variableFieldsLimit)
  if (devices.filter (·.keyType == .seedPhrase)).length > 1 then
    throw .multipleRecoveryPhrases

@[mk_iff] structure WithinAnchorLimits (devices : List Device) : Prop where
  numDevices : devices.length ≤ maxDevicesPerAnchor
  variableSize : (devices.map Device.variableFieldsLen).sum ≤ variableFieldsLimit
  seedPhrases : (devices.filter (·.keyType == .seedPhrase)).length ≤ 1

instance (devices : List Device) : Decidable (WithinAnchorLimits devices) :=
  decidable_of_iff _ (withinAnchorLimits_iff devices).symm

theorem checkAnchorInvariants_eq_ok {devices : List Device} :
    checkAnchorInvariants devices = .ok () ↔ WithinAnchorLimits devices := by
  simp only [checkAnchorInvariants, ite_throw_bind, except_bind_eq_ok, ite_throw_eq_ok, gt_iff_lt,
    Nat.not_lt, withinAnchorLimits_iff]

theorem checkAnchorInvariants_eq_error {devices : List Device} {error : AnchorError} :
    checkAnchorInvariants devices = .error error ↔
      maxDevicesPerAnchor < devices.length ∧
          error = .tooManyDevices maxDevicesPerAnchor devices.length ∨
        devices.length ≤ maxDevicesPerAnchor ∧
          (variableFieldsLimit < (devices.map Device.variableFieldsLen).sum ∧
              error = .cumulativeDataLimitExceeded (devices.map Device.variableFieldsLen).sum
                variableFieldsLimit ∨
            (devices.map Device.variableFieldsLen).sum ≤ variableFieldsLimit ∧
              1 < (devices.filter (·.keyType == .seedPhrase)).length ∧
                error = .multipleRecoveryPhrases) := by
  simp only [checkAnchorInvariants, ite_throw_bind, except_bind_eq_error, except_bind_eq_ok,
    ite_throw_eq_error, ite_throw_eq_ok, gt_iff_lt, Nat.not_lt]

/-! ## Methods -/

section Caller

/- `Principal::self_authenticating`: the principal whose requests are signed
with a given device key. -/
variable (selfAuthenticating : DeviceKey → Principal)

/-- A protected device may only be mutated by its own key; `caller` is the
principal `ic_cdk::caller()` returns. -/
def checkMutationAllowed (caller : Principal) (device : Device) : Except AnchorError Unit :=
  match device.protection with
  | .unprotected => pure ()
  | .protected =>
      if caller ≠ selfAuthenticating device.pubkey then
        throw (.mutationNotAllowed (selfAuthenticating device.pubkey) caller)
      else pure ()

namespace Anchor

def new : Anchor := ⟨[]⟩

/-- The position of the first device with the key.  The index is a `Fin`:
`position` only returns indices of the list it searched. -/
def deviceIndex (self : Anchor) (deviceKey : DeviceKey) :
    Except AnchorError (Fin self.devices.length) :=
  if found : self.devices.findIdx (·.pubkey == deviceKey) < self.devices.length then
    pure ⟨_, found⟩
  else throw (.notFound deviceKey)

def device (self : Anchor) (deviceKey : DeviceKey) : Option Device :=
  self.devices.find? (·.pubkey == deviceKey)

def addDevice (device : Device) : AnchorM Unit := do
  let self ← get
  if self.devices.any (·.pubkey == device.pubkey) then
    throw (.duplicateDevice device.pubkey)
  MonadExcept.ofExcept (checkDeviceInvariants device)
  MonadExcept.ofExcept (checkAnchorInvariants (self.devices ++ [device]))
  set { self with devices := self.devices ++ [device] }

/-- Removing a device checks no anchor invariant, so that anchors stored
before the invariants existed can shed devices until they conform. -/
def removeDevice (caller : Principal) (deviceKey : DeviceKey) : AnchorM Unit := do
  let self ← get
  let index ← MonadExcept.ofExcept (self.deviceIndex deviceKey)
  MonadExcept.ofExcept (checkMutationAllowed selfAuthenticating caller self.devices[index])
  set { self with devices := self.devices.eraseIdx index }

/-- The anchor invariants are checked on the other devices followed by the
modified one; the modified device is stored in place. -/
def modifyDevice (caller : Principal) (deviceKey : DeviceKey) (modifiedDevice : Device) :
    AnchorM Unit := do
  if deviceKey ≠ modifiedDevice.pubkey then
    throw .cannotModifyDeviceKey
  MonadExcept.ofExcept (checkDeviceInvariants modifiedDevice)
  let self ← get
  let index ← MonadExcept.ofExcept (self.deviceIndex deviceKey)
  MonadExcept.ofExcept (checkMutationAllowed selfAuthenticating caller self.devices[index])
  MonadExcept.ofExcept (checkAnchorInvariants
    (self.devices.filter (·.pubkey != deviceKey) ++ [modifiedDevice]))
  set { self with devices := self.devices.set index modifiedDevice }

/-- `iter_mut().find` stops at the device `device_index` returns and fails
with the same error; no invariant is checked. -/
def setDeviceUsageTimestamp (deviceKey : DeviceKey) (time : Timestamp) : AnchorM Unit := do
  let self ← get
  let index ← MonadExcept.ofExcept (self.deviceIndex deviceKey)
  set { self with devices :=
    self.devices.set index { self.devices[index] with lastUsageTimestamp := some time } }

end Anchor

inductive Operation where
  | addDevice (device : Device)
  | removeDevice (deviceKey : DeviceKey)
  | modifyDevice (deviceKey : DeviceKey) (modifiedDevice : Device)
  | setDeviceUsageTimestamp (deviceKey : DeviceKey) (time : Timestamp)
deriving DecidableEq, Repr

def Operation.call (caller : Principal) : Operation → AnchorM Unit
  | .addDevice device => Anchor.addDevice device
  | .removeDevice deviceKey => Anchor.removeDevice selfAuthenticating caller deviceKey
  | .modifyDevice deviceKey modifiedDevice =>
      Anchor.modifyDevice selfAuthenticating caller deviceKey modifiedDevice
  | .setDeviceUsageTimestamp deviceKey time => Anchor.setDeviceUsageTimestamp deviceKey time

/-- The anchor that `&mut self` holds once the call returns, `Ok` or `Err`. -/
def Anchor.apply (self : Anchor) (caller : Principal) (operation : Operation) : Anchor :=
  match (operation.call selfAuthenticating caller).run self with
  | .ok _ after => after
  | .error _ after => after

def Anchor.applyAll (self : Anchor) (calls : List (Principal × Operation)) : Anchor :=
  calls.foldl (fun anchor call => anchor.apply selfAuthenticating call.1 call.2) self

end Caller

/-! ## What each method does -/

section Specification

variable {selfAuthenticating : DeviceKey → Principal} {caller : Principal}
  {self after : Anchor} {deviceKey : DeviceKey} {device : Device} {error : AnchorError}

theorem checkMutationAllowed_eq_ok :
    checkMutationAllowed selfAuthenticating caller device = .ok () ↔
      device.protection = .unprotected ∨ caller = selfAuthenticating device.pubkey := by
  unfold checkMutationAllowed
  split
  · simp_all [pure, Except.pure]
  · split <;> simp_all [throw, throwThe, MonadExceptOf.throw, pure, Except.pure]

namespace Anchor

theorem deviceIndex_eq_ok {index : Fin self.devices.length} :
    self.deviceIndex deviceKey = .ok index ↔
      self.devices[index].pubkey = deviceKey ∧
        ∀ earlier (before : earlier < index.val), self.devices[earlier].pubkey ≠ deviceKey := by
  unfold deviceIndex
  split
  · rename_i found
    simp only [pure, Except.pure, Except.ok.injEq, Fin.ext_iff, @eq_comm _ index.val,
      List.findIdx_eq index.isLt, beq_iff_eq, beq_eq_false_iff_ne, Fin.getElem_fin]
  · rename_i missing
    simp only [List.findIdx_lt_length, not_exists, not_and, beq_iff_eq] at missing
    simp only [throw, throwThe, MonadExceptOf.throw, reduceCtorEq, false_iff, not_and]
    exact fun found => absurd found (missing _ (List.getElem_mem _))

theorem deviceIndex_eq_error :
    self.deviceIndex deviceKey = .error error ↔
      error = .notFound deviceKey ∧ ∀ other ∈ self.devices, other.pubkey ≠ deviceKey := by
  unfold deviceIndex
  split
  · rename_i found
    simp only [List.findIdx_lt_length, beq_iff_eq] at found
    obtain ⟨other, member, same⟩ := found
    simp only [pure, Except.pure, reduceCtorEq, false_iff, not_and, not_forall, not_not]
    exact fun _ => ⟨other, member, same⟩
  · rename_i missing
    simp only [List.findIdx_lt_length, not_exists, not_and, beq_iff_eq] at missing
    simp only [throw, throwThe, MonadExceptOf.throw, Except.error.injEq]
    exact ⟨fun same => ⟨same.symm, missing⟩, fun ⟨same, _⟩ => same.symm⟩

theorem device_of_deviceIndex {index : Fin self.devices.length}
    (found : self.deviceIndex deviceKey = .ok index) :
    self.device deviceKey = some self.devices[index] := by
  obtain ⟨key, earlier⟩ := deviceIndex_eq_ok.mp found
  exact List.find?_eq_some_iff_getElem.mpr
    ⟨by simpa using key, index, index.isLt, rfl,
      fun j before => by simpa using earlier j before⟩

theorem addDevice_run_eq_ok :
    (addDevice device).run self = .ok () after ↔
      (∀ other ∈ self.devices, other.pubkey ≠ device.pubkey) ∧ device.Valid ∧
        WithinAnchorLimits (self.devices ++ [device]) ∧ after = ⟨self.devices ++ [device]⟩ := by
  rw [← checkDeviceInvariants_eq_ok, ← checkAnchorInvariants_eq_ok]
  simp only [addDevice, run_get_bind]
  split
  · rename_i duplicate
    simp only [List.any_eq_true, beq_iff_eq] at duplicate
    obtain ⟨other, member, same⟩ := duplicate
    simp only [run_throw_bind, reduceCtorEq, false_iff, not_and]
    exact fun fresh => absurd same (fresh other member)
  · rename_i fresh
    simp only [List.any_eq_true, beq_iff_eq, not_exists, not_and] at fresh
    simp only [run_pure_bind, run_check_bind_eq_ok, run_set, EStateM.Result.ok.injEq, true_and,
      @eq_comm Anchor _ after]
    exact ⟨fun checked => ⟨fresh, checked⟩, fun checked => checked.2⟩

theorem removeDevice_run_eq_ok :
    (removeDevice selfAuthenticating caller deviceKey).run self = .ok () after ↔
      ∃ index : Fin self.devices.length, self.deviceIndex deviceKey = .ok index ∧
        checkMutationAllowed selfAuthenticating caller self.devices[index] = .ok () ∧
        after = ⟨self.devices.eraseIdx index⟩ := by
  simp only [removeDevice, run_get_bind]
  cases self.deviceIndex deviceKey with
  | error reason => simp only [run_ofExcept_error_bind, reduceCtorEq, false_and, exists_false]
  | ok index =>
      simp only [run_ofExcept_ok_bind, run_check_bind_eq_ok, run_set, EStateM.Result.ok.injEq,
        true_and, Except.ok.injEq, exists_eq_left', @eq_comm Anchor _ after]

theorem modifyDevice_run_eq_ok {modifiedDevice : Device} :
    (modifyDevice selfAuthenticating caller deviceKey modifiedDevice).run self = .ok () after ↔
      deviceKey = modifiedDevice.pubkey ∧ modifiedDevice.Valid ∧
        ∃ index : Fin self.devices.length, self.deviceIndex deviceKey = .ok index ∧
          checkMutationAllowed selfAuthenticating caller self.devices[index] = .ok () ∧
          WithinAnchorLimits (self.devices.filter (·.pubkey != deviceKey) ++ [modifiedDevice]) ∧
          after = ⟨self.devices.set index modifiedDevice⟩ := by
  rw [← checkDeviceInvariants_eq_ok, ← checkAnchorInvariants_eq_ok]
  simp only [modifyDevice]
  split
  · rename_i changed
    simp only [run_throw_bind, reduceCtorEq, false_iff, not_and]
    exact fun same => absurd same changed
  · rename_i same
    simp only [ne_eq, Decidable.not_not] at same
    simp only [run_pure_bind, run_check_bind_eq_ok, run_get_bind, same, true_and]
    cases self.deviceIndex modifiedDevice.pubkey with
    | error reason => simp only [run_ofExcept_error_bind, reduceCtorEq, false_and, exists_false]
    | ok index =>
        simp only [run_ofExcept_ok_bind, run_check_bind_eq_ok, run_set, EStateM.Result.ok.injEq,
          true_and, Except.ok.injEq, exists_eq_left', @eq_comm Anchor _ after]

theorem setDeviceUsageTimestamp_run_eq_ok {time : Timestamp} :
    (setDeviceUsageTimestamp deviceKey time).run self = .ok () after ↔
      ∃ index : Fin self.devices.length, self.deviceIndex deviceKey = .ok index ∧
        after = ⟨self.devices.set index
          { self.devices[index] with lastUsageTimestamp := some time }⟩ := by
  simp only [setDeviceUsageTimestamp, run_get_bind]
  cases self.deviceIndex deviceKey with
  | error reason => simp only [run_ofExcept_error_bind, reduceCtorEq, false_and, exists_false]
  | ok index =>
      simp only [run_ofExcept_ok_bind, run_set, EStateM.Result.ok.injEq, true_and,
        Except.ok.injEq, exists_eq_left', @eq_comm Anchor _ after]

/-! Every method checks everything before it mutates, so a call that returns
`Err` leaves the anchor as it found it. -/

theorem addDevice_run_eq_error :
    (addDevice device).run self = .error error after → after = self := by
  simp only [addDevice, run_get_bind]
  split
  · exact fun failed => (EStateM.Result.error.inj failed).2.symm
  · simp only [run_pure_bind, run_check_bind_eq_error, run_set, reduceCtorEq, and_false,
      or_false]
    rintro (⟨-, rfl⟩ | ⟨-, -, rfl⟩) <;> rfl

theorem removeDevice_run_eq_error :
    (removeDevice selfAuthenticating caller deviceKey).run self = .error error after →
      after = self := by
  simp only [removeDevice, run_get_bind]
  cases self.deviceIndex deviceKey with
  | error reason => exact fun failed => (EStateM.Result.error.inj failed).2.symm
  | ok index =>
      simp only [run_ofExcept_ok_bind, run_check_bind_eq_error, run_set, reduceCtorEq, and_false,
        or_false]
      exact fun failed => failed.2

theorem modifyDevice_run_eq_error {modifiedDevice : Device} :
    (modifyDevice selfAuthenticating caller deviceKey modifiedDevice).run self =
      .error error after → after = self := by
  simp only [modifyDevice]
  split
  · exact fun failed => (EStateM.Result.error.inj failed).2.symm
  · simp only [run_pure_bind, run_check_bind_eq_error, run_get_bind]
    cases self.deviceIndex deviceKey with
    | error reason =>
        simp only [run_ofExcept_error_bind, EStateM.Result.error.injEq]
        rintro (⟨-, rfl⟩ | ⟨-, -, rfl⟩) <;> rfl
    | ok index =>
        simp only [run_ofExcept_ok_bind, run_check_bind_eq_error, run_set, reduceCtorEq, and_false,
          or_false]
        rintro (⟨-, rfl⟩ | ⟨-, ⟨-, rfl⟩ | ⟨-, -, rfl⟩⟩) <;> rfl

theorem modifyDevice_run_eq_error_iff {modifiedDevice : Device} :
    (modifyDevice selfAuthenticating caller deviceKey modifiedDevice).run self =
        .error error after ↔
      after = self ∧
        (deviceKey ≠ modifiedDevice.pubkey ∧ error = .cannotModifyDeviceKey ∨
          deviceKey = modifiedDevice.pubkey ∧
            (checkDeviceInvariants modifiedDevice = .error error ∨
              checkDeviceInvariants modifiedDevice = .ok () ∧
                (self.deviceIndex deviceKey = .error error ∨
                  ∃ index : Fin self.devices.length, self.deviceIndex deviceKey = .ok index ∧
                    (checkMutationAllowed selfAuthenticating caller self.devices[index] =
                        .error error ∨
                      checkMutationAllowed selfAuthenticating caller self.devices[index] = .ok () ∧
                        checkAnchorInvariants
                            (self.devices.filter (·.pubkey != deviceKey) ++ [modifiedDevice]) =
                          .error error)))) := by
  simp only [modifyDevice]
  split
  · rename_i changed
    simp only [run_throw_bind, EStateM.Result.error.injEq, changed, ne_eq, not_false_eq_true,
      true_and, false_and, or_false]
    exact ⟨fun ⟨reported, same⟩ => ⟨same.symm, reported.symm⟩,
      fun ⟨same, reported⟩ => ⟨reported.symm, same.symm⟩⟩
  · rename_i same
    simp only [ne_eq, Decidable.not_not] at same
    simp only [run_pure_bind, run_check_bind_eq_error, run_get_bind, same, not_true_eq_false,
      false_and, true_and, false_or]
    cases self.deviceIndex modifiedDevice.pubkey with
    | error reason =>
        simp only [run_ofExcept_error_bind, EStateM.Result.error.injEq, reduceCtorEq, false_and,
          exists_false, or_false, Except.error.injEq, ne_eq, not_true_eq_false, false_or,
          @eq_comm _ self after]
        tauto
    | ok index =>
        simp only [run_ofExcept_ok_bind, run_check_bind_eq_error, run_set, reduceCtorEq, and_false,
          or_false, Except.ok.injEq, exists_eq_left', ne_eq, not_true_eq_false, false_and, false_or]
        tauto

theorem setDeviceUsageTimestamp_run_eq_error {time : Timestamp} :
    (setDeviceUsageTimestamp deviceKey time).run self = .error error after → after = self := by
  simp only [setDeviceUsageTimestamp, run_get_bind]
  cases self.deviceIndex deviceKey with
  | error reason => exact fun failed => (EStateM.Result.error.inj failed).2.symm
  | ok index => simp only [run_ofExcept_ok_bind, run_set, reduceCtorEq, false_implies]

end Anchor

theorem Operation.call_run_eq_error (operation : Operation) :
    (operation.call selfAuthenticating caller).run self = .error error after → after = self := by
  cases operation with
  | addDevice device => exact Anchor.addDevice_run_eq_error
  | removeDevice deviceKey => exact Anchor.removeDevice_run_eq_error
  | modifyDevice deviceKey modifiedDevice => exact Anchor.modifyDevice_run_eq_error
  | setDeviceUsageTimestamp deviceKey time => exact Anchor.setDeviceUsageTimestamp_run_eq_error

/-- A call that returns `Err` leaves the anchor's devices as they were, from
any anchor and for any caller. -/
theorem failed_call_leaves_anchor (operation : Operation) :
    (operation.call selfAuthenticating caller).run self = .error error after → after = self :=
  operation.call_run_eq_error

theorem duplicate_add_leaves_anchor :
    ((Operation.addDevice (.ofDeviceData deviceData1)).call (fun _ => ⟨[]⟩) ⟨[]⟩).run
        ⟨[.ofDeviceData deviceData1]⟩ =
      .error (.duplicateDevice pubkey1) ⟨[.ofDeviceData deviceData1]⟩ ∧
    (⟨[.ofDeviceData deviceData1]⟩ : Anchor) = ⟨[.ofDeviceData deviceData1]⟩ :=
  by refine ⟨?failed, failed_call_leaves_anchor _ ?failed⟩; rfl

end Specification

end InternetIdentity.Storage
