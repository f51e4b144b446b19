import Mathlib

namespace InternetIdentity.Storage

/-! # Devices

The device record of `storage/anchor.rs`, the interface types it is built
from, and the checks that look at one device alone.  Byte buffers are lists
of bytes and `String::len` is the UTF-8 byte length.  Timestamps are `u64`
nanoseconds that the anchor only compares, never adds, so they are natural
numbers here.
-/

abbrev DeviceKey := List UInt8

abbrev CredentialId := List UInt8

abbrev Timestamp := Nat

inductive Purpose where
  | recovery
  | authentication
deriving DecidableEq, Repr

inductive KeyType where
  | unknown
  | platform
  | crossPlatform
  | seedPhrase
  | browserStorageKey
deriving DecidableEq, Repr

inductive DeviceProtection where
  | «protected»
  | unprotected
deriving DecidableEq, Repr

/-- A principal by its bytes.  The anchor only compares principals. -/
structure Principal where
  bytes : List UInt8
deriving DecidableEq, Repr

structure DeviceData where
  pubkey : DeviceKey
  «alias» : String
  credentialId : Option CredentialId
  purpose : Purpose
  keyType : KeyType
  protection : DeviceProtection
  origin : Option String
deriving DecidableEq, Repr

structure Device where
  pubkey : DeviceKey
  «alias» : String
  credentialId : Option CredentialId
  purpose : Purpose
  keyType : KeyType
  protection : DeviceProtection
  origin : Option String
  lastUsageTimestamp : Option Timestamp
deriving DecidableEq, Repr

inductive AnchorError where
  | tooManyDevices (limit numDevices : Nat)
  | deviceLimitExceeded (field : String) (length limit : Nat)
  | cumulativeDataLimitExceeded (length limit : Nat)
  | invalidDeviceProtection (keyType : KeyType)
  | mutationNotAllowed (authorizedPrincipal actualPrincipal : Principal)
  | multipleRecoveryPhrases
  | cannotModifyDeviceKey
  | notFound (deviceKey : DeviceKey)
  | duplicateDevice (deviceKey : DeviceKey)
deriving DecidableEq, Repr

namespace Device

/-- `impl From<DeviceData> for Device`: a new device has not been used yet. -/
def ofDeviceData (deviceData : DeviceData) : Device where
  pubkey := deviceData.pubkey
  «alias» := deviceData.alias
  credentialId := deviceData.credentialId
  purpose := deviceData.purpose
  keyType := deviceData.keyType
  protection := deviceData.protection
  origin := deviceData.origin
  lastUsageTimestamp := none

def toDeviceData (device : Device) : DeviceData where
  pubkey := device.pubkey
  «alias» := device.alias
  credentialId := device.credentialId
  purpose := device.purpose
  keyType := device.keyType
  protection := device.protection
  origin := device.origin

def applyDeviceData (self : Device) (deviceData : DeviceData) : Device :=
  { self with
    pubkey := deviceData.pubkey
    «alias» := deviceData.alias
    credentialId := deviceData.credentialId
    purpose := deviceData.purpose
    keyType := deviceData.keyType
    protection := deviceData.protection
    origin := deviceData.origin }

def variableFieldsLen (self : Device) : Nat :=
  self.alias.utf8ByteSize + self.pubkey.length +
    (self.credentialId.map (·.length)).getD 0 +
    (self.origin.map (·.utf8ByteSize)).getD 0

@[simp] theorem toDeviceData_ofDeviceData (deviceData : DeviceData) :
    (ofDeviceData deviceData).toDeviceData = deviceData := rfl

theorem applyDeviceData_eq (self : Device) (deviceData : DeviceData) :
    self.applyDeviceData deviceData =
      { ofDeviceData deviceData with lastUsageTimestamp := self.lastUsageTimestamp } := rfl

@[simp] theorem toDeviceData_applyDeviceData (self : Device) (deviceData : DeviceData) :
    (self.applyDeviceData deviceData).toDeviceData = deviceData := rfl

@[simp] theorem applyDeviceData_toDeviceData (self : Device) :
    self.applyDeviceData self.toDeviceData = self := rfl

end Device

/-! ## Checks on one device -/

def originLenLimit : Nat := 50
def aliasLenLimit : Nat := 64
def pkLenLimit : Nat := 300
def credentialIdLenLimit : Nat := 200

/-- One field check of `check_device_limits`; the four checks differ only in
the field's name, its length and its limit. -/
def checkFieldLimit (field : String) (length limit : Nat) : Except AnchorError Unit :=
  if length > limit then throw (.deviceLimitExceeded field length limit) else pure ()

def checkDeviceLimits (device : Device) : Except AnchorError Unit := do
  checkFieldLimit "alias" device.alias.utf8ByteSize aliasLenLimit
  checkFieldLimit "pubkey" device.pubkey.length pkLenLimit
  checkFieldLimit "credential_id" ((device.credentialId.map (·.length)).getD 0)
    credentialIdLenLimit
  checkFieldLimit "origin" ((device.origin.map (·.utf8ByteSize)).getD 0) originLenLimit

def checkDeviceInvariants (device : Device) : Except AnchorError Unit := do
  checkDeviceLimits device
  if device.protection = .protected ∧ device.keyType ≠ .seedPhrase then
    throw (.invalidDeviceProtection device.keyType)

@[mk_iff] structure Device.WithinLimits (device : Device) : Prop where
  «alias» : device.alias.utf8ByteSize ≤ aliasLenLimit
  pubkey : device.pubkey.length ≤ pkLenLimit
  credentialId : (device.credentialId.map (·.length)).getD 0 ≤ credentialIdLenLimit
  origin : (device.origin.map (·.utf8ByteSize)).getD 0 ≤ originLenLimit

@[mk_iff] structure Device.Valid (device : Device) : Prop where
  withinLimits : device.WithinLimits
  protectedSeedPhrase : device.protection = .protected → device.keyType = .seedPhrase

instance (device : Device) : Decidable device.WithinLimits :=
  decidable_of_iff _ (Device.withinLimits_iff device).symm

instance (device : Device) : Decidable device.Valid :=
  decidable_of_iff _ (Device.valid_iff device).symm

@[simp] theorem except_bind_eq_ok {x : Except AnchorError Unit} {f : Unit → Except AnchorError β}
    {b : β} : x >>= f = .ok b ↔ x = .ok () ∧ f () = .ok b := by
  cases x <;> simp [bind, Except.bind]

theorem except_bind_eq_error {x : Except AnchorError Unit} {f : Unit → Except AnchorError β}
    {error : AnchorError} :
    x >>= f = .error error ↔ x = .error error ∨ x = .ok () ∧ f () = .error error := by
  cases x <;> simp [bind, Except.bind]

theorem ite_throw_eq_ok {p : Prop} [Decidable p] {reported : AnchorError} :
    (if p then throw reported else pure () : Except AnchorError Unit) = .ok () ↔ ¬p := by
  by_cases holds : p <;> simp [holds, throw, throwThe, MonadExceptOf.throw, pure, Except.pure]

theorem ite_throw_eq_error {p : Prop} [Decidable p] {reported error : AnchorError} :
    (if p then throw reported else pure () : Except AnchorError Unit) = .error error ↔
      p ∧ error = reported := by
  by_cases holds : p <;>
    simp [holds, throw, throwThe, MonadExceptOf.throw, pure, Except.pure, eq_comm]

theorem ite_throw_bind {p : Prop} [Decidable p] {reported : AnchorError}
    {rest : PUnit → Except AnchorError Unit} :
    (if p then throw reported >>= rest else pure PUnit.unit >>= rest) =
      (if p then throw reported else pure ()) >>= rest := by
  split <;> rfl

theorem checkFieldLimit_eq_ok {field : String} {length limit : Nat} :
    checkFieldLimit field length limit = .ok () ↔ length ≤ limit :=
  ite_throw_eq_ok.trans Nat.not_lt

theorem checkFieldLimit_eq_error {field : String} {length limit : Nat} {error : AnchorError} :
    checkFieldLimit field length limit = .error error ↔
      limit < length ∧ error = .deviceLimitExceeded field length limit :=
  ite_throw_eq_error

theorem checkDeviceLimits_eq_ok {device : Device} :
    checkDeviceLimits device = .ok () ↔ device.WithinLimits := by
  simp only [checkDeviceLimits, except_bind_eq_ok, checkFieldLimit_eq_ok, Device.withinLimits_iff]

theorem checkDeviceLimits_eq_error {device : Device} {error : AnchorError} :
    checkDeviceLimits device = .error error ↔
      aliasLenLimit < device.alias.utf8ByteSize ∧
          error = .deviceLimitExceeded "alias" device.alias.utf8ByteSize aliasLenLimit ∨
        device.alias.utf8ByteSize ≤ aliasLenLimit ∧
          (pkLenLimit < device.pubkey.length ∧
              error = .deviceLimitExceeded "pubkey" device.pubkey.length pkLenLimit ∨
            device.pubkey.length ≤ pkLenLimit ∧
              (credentialIdLenLimit < (device.credentialId.map (·.length)).getD 0 ∧
                  error = .deviceLimitExceeded "credential_id"
                    ((device.credentialId.map (·.length)).getD 0) credentialIdLenLimit ∨
                (device.credentialId.map (·.length)).getD 0 ≤ credentialIdLenLimit ∧
                  originLenLimit < (device.origin.map (·.utf8ByteSize)).getD 0 ∧
                    error = .deviceLimitExceeded "origin"
                      ((device.origin.map (·.utf8ByteSize)).getD 0) originLenLimit)) := by
  simp only [checkDeviceLimits, except_bind_eq_error, checkFieldLimit_eq_error,
    checkFieldLimit_eq_ok]

theorem checkDeviceInvariants_eq_ok {device : Device} :
    checkDeviceInvariants device = .ok () ↔ device.Valid := by
  simp only [checkDeviceInvariants, except_bind_eq_ok, checkDeviceLimits_eq_ok, ite_throw_eq_ok,
    not_and, not_not, Device.valid_iff]

/-! ## Fixtures of the canister tests

The devices `canister_tests/src/framework.rs` registers in its tests. -/

/-- `ByteBuf::from` of a text: its UTF-8 bytes, which for the ASCII texts of
the tests are the characters' codes. -/
def byteBufFrom (text : String) : List UInt8 := text.toList.map (·.toNat.toUInt8)

def pubkey1 : DeviceKey := byteBufFrom "test"
def recoveryPubkey1 : DeviceKey := byteBufFrom "recovery 1"
def recoveryPubkey2 : DeviceKey := byteBufFrom "recovery 2"

def deviceData1 : DeviceData where
  pubkey := pubkey1
  «alias» := "My Device"
  credentialId := some (byteBufFrom "credential id 1")
  purpose := .authentication
  keyType := .unknown
  protection := .unprotected
  origin := some "https://identity.internetcomputer.org"

def recoveryDeviceData1 : DeviceData where
  pubkey := recoveryPubkey1
  «alias» := "Recovery Phrase 1"
  credentialId := none
  purpose := .recovery
  keyType := .seedPhrase
  protection := .unprotected
  origin := none

def recoveryDeviceData2 : DeviceData where
  pubkey := recoveryPubkey2
  «alias» := "Recovery Phrase 2"
  credentialId := none
  purpose := .recovery
  keyType := .seedPhrase
  protection := .unprotected
  origin := none

def maxSizeDevice : DeviceData where
  pubkey := List.replicate 300 255
  «alias» := String.mk (List.replicate 64 'a')
  credentialId := some (List.replicate 200 7)
  purpose := .authentication
  keyType := .unknown
  protection := .unprotected
  origin := some "https://rdmx6-jaaaa-aaaaa-aaadq-cai.foobar.icp0.io"

/-- The test helper keys a device by its origin when it has one. -/
def deviceWithOrigin (origin : Option String) : DeviceData where
  pubkey := byteBufFrom (origin.getD "test")
  «alias» := "My Device"
  credentialId := some (byteBufFrom "credential id 1")
  purpose := .authentication
  keyType := .unknown
  protection := .unprotected
  origin := origin

end InternetIdentity.Storage
