import InternetIdentity.Storage.Device

namespace InternetIdentity.Storage

/-! # The messages of the anchor's errors

`impl fmt::Display for AnchorError` of `storage/anchor.rs`: the text a
failed call reports.  Numbers are written in decimal, a key type by `{:?}`,
a device key by `hex::encode`, and a principal in its textual form, which
`candid` defines outside src/ and which is the parameter `principalText`.
-/

/-- Modelled from the spec: `KeyType` and its derived `Debug` are declared in
the interface crate, not under src/; the derive writes the variant's name. -/
def KeyType.debug : KeyType → String
  | .unknown => "Unknown"
  | .platform => "Platform"
  | .crossPlatform => "CrossPlatform"
  | .seedPhrase => "SeedPhrase"
  | .browserStorageKey => "BrowserStorageKey"

def hexDigits (byte : UInt8) : List Char :=
  [Nat.digitChar (byte.toNat / 16), Nat.digitChar (byte.toNat % 16)]

/-- Modelled from the spec: `hex::encode` belongs to the `hex` crate, not
under src/; it writes the digits of each byte in turn. -/
def hexEncode (bytes : List UInt8) : String :=
  ⟨bytes.flatMap hexDigits⟩

/-- `fmt` of `impl fmt::Display for AnchorError`. -/
def AnchorError.toString (principalText : Principal → String) : AnchorError → String
  | .tooManyDevices limit numDevices =>
      "Anchor device limit exceeded: num devices " ++ Nat.repr numDevices ++ ", limit " ++
        Nat.repr limit
  | .deviceLimitExceeded field length limit =>
      field ++ " limit exceeded: length " ++ Nat.repr length ++ ", limit " ++ Nat.repr limit
  | .cumulativeDataLimitExceeded length limit =>
      "Cumulative size of variable sized fields exceeds limit: length " ++ Nat.repr length ++
        ", limit " ++ Nat.repr limit ++
        ". Either use shorter aliases or remove an existing device."
  | .invalidDeviceProtection keyType =>
      "Only recovery phrases can be locked but key type is " ++ keyType.debug
  | .mutationNotAllowed authorizedPrincipal actualPrincipal =>
      "Device is locked. Must be authenticated with this device to mutate: authorized principal " ++
        principalText authorizedPrincipal ++ ", actual principal " ++ principalText actualPrincipal
  | .multipleRecoveryPhrases => "There is already a recovery phrase and only one is allowed."
  | .cannotModifyDeviceKey => "Device key cannot be updated."
  | .notFound deviceKey => "Device with key " ++ hexEncode deviceKey ++ " not found."
  | .duplicateDevice deviceKey =>
      "Device with key " ++ hexEncode deviceKey ++ " already exists on this anchor."

theorem checkFieldLimit_error_toString (principalText : Principal → String) {field : String}
    {length limit : Nat} {error : AnchorError}
    (rejected : checkFieldLimit field length limit = .error error) :
    limit < length ∧
      error.toString principalText =
        field ++ " limit exceeded: length " ++ Nat.repr length ++ ", limit " ++ Nat.repr limit := by
  obtain ⟨over, rfl⟩ := checkFieldLimit_eq_error.mp rejected
  exact ⟨over, rfl⟩

/-! ## A device key is written so that it can be read back -/

theorem digitChar_injOn : ∀ digit other : Fin 16,
    Nat.digitChar digit = Nat.digitChar other → digit = other := by
  decide

theorem hexDigits_injective : Function.Injective hexDigits := by
  intro byte other same
  have byteBound : byte.toNat < 256 := byte.toNat_lt
  have otherBound : other.toNat < 256 := other.toNat_lt
  simp only [hexDigits, List.cons.injEq, and_true] at same
  have high :=
    digitChar_injOn ⟨byte.toNat / 16, by omega⟩ ⟨other.toNat / 16, by omega⟩ same.1
  have low :=
    digitChar_injOn ⟨byte.toNat % 16, by omega⟩ ⟨other.toNat % 16, by omega⟩ same.2
  simp only [Fin.mk.injEq] at high low
  exact UInt8.toNat.inj (by omega)

theorem flatMap_hexDigits_injective : Function.Injective fun bytes : List UInt8 =>
    bytes.flatMap hexDigits := by
  intro bytes others same
  induction bytes generalizing others with
  | nil => cases others with
      | nil => rfl
      | cons other others => simp [hexDigits] at same
  | cons byte bytes induction => cases others with
      | nil => simp [hexDigits] at same
      | cons other others =>
          simp only [List.flatMap_cons] at same
          obtain ⟨first, rest⟩ := List.append_inj same rfl
          rw [hexDigits_injective first, induction rest]

theorem hexEncode_injective : Function.Injective hexEncode := fun _ _ same =>
  flatMap_hexDigits_injective (congrArg String.data same)

theorem append_append_cancel {pre post text other : String}
    (same : pre ++ text ++ post = pre ++ other ++ post) : text = other := by
  simp only [String.ext_iff, String.data_append] at same ⊢
  exact List.append_cancel_left (List.append_cancel_right same)

/-- The message of a `NotFound` or a `DuplicateDevice` error determines the
device key it reports. -/
theorem deviceKey_messages_injective (principalText : Principal → String) :
    Function.Injective (fun deviceKey => (AnchorError.notFound deviceKey).toString principalText) ∧
      Function.Injective
        (fun deviceKey => (AnchorError.duplicateDevice deviceKey).toString principalText) :=
  ⟨fun _ _ same => hexEncode_injective (append_append_cancel same),
    fun _ _ same => hexEncode_injective (append_append_cancel same)⟩

end InternetIdentity.Storage
