import InternetIdentity.State.Salt
import InternetIdentity.State.ArchiveCache
import InternetIdentity.Storage.Device

namespace InternetIdentity.State

/-! # The canister across installation and upgrades

`struct State` of `state.rs` is the heap of one instance of the canister: the
cell of the storage, the time of the last upgrade, the persistent state, and
tables that live only as long as the instance.  `init_new` gives a new
canister its storage.  An upgrade runs `save_persistent_state` in the old
instance; a new instance starts from `State::default()` and runs
`init_from_stable_memory`, `load_persistent_state` and the argument of the
upgrade on what it reads back from stable memory.  Stable memory gives back
the storage and the persistent state the old instance left there, unless it
cannot be read or the persistent state's page is corrupted.

The executions of `ensure_salt_set` and `init_salt` and the upgrades form one
system.  Over every run of it the salt is written at most once, and only from
the bytes of a reply the run delivers; a canister whose storage is initialised
keeps it so, and each of its upgrades succeeds exactly when stable memory
gives back what the old instance left, trapping otherwise with the message of
the hook that meets the fault; and the persistent state changes only at the
upgrades that succeed, by the default of its cap on delegation origins and by
the upgrade's argument.
-/

structure UsageMetrics where
  delegationCounter : UInt64 := 0
  anchorOperationCounter : UInt64 := 0

structure ChallengeInfo where
  created : Storage.Timestamp
  chars : String

abbrev ChallengeKey := String

/-- Modelled from the spec: `AnchorNumber` is declared in the interface crate,
not under src/; it is a `u64`. -/
abbrev AnchorNumber := UInt64

/-- Modelled from the spec: `DeviceVerificationCode` and
`FailedAttemptsCounter` are declared in the interface crate, not under src/;
they are a `String` and a `u8`. -/
inductive RegistrationState where
  | deviceRegistrationModeActive
  | deviceTentativelyAdded (tentativeDevice : Storage.DeviceData) (verificationCode : String)
      (failedAttempts : UInt8)

structure TentativeDeviceRegistration where
  expiration : Storage.Timestamp
  state : RegistrationState

structure RateLimitState where
  tokens : UInt64
  tokenTimestamp : Storage.Timestamp

def maxNumDelegationOrigins : UInt64 := 1000

/-- `PersistentState`.  Its archive state, rate-limit configuration and
active-anchor statistics have types declared outside src/, and the functions
here only copy them, take their defaults or hand them to the upgrade's
argument: together they are the parameter `External`, whose `default` is
theirs.  A `HashMap` is the list of its entries. -/
structure PersistentState (External : Type) where
  external : External
  canisterCreationCyclesCost : UInt64
  latestDelegationOrigins : Option (List (String × Storage.Timestamp))
  maxNumLatestDelegationOrigins : Option UInt64

/-- `struct State`.  Its signature map and asset hashes have types declared
outside src/ and no function here reads them; they are left out.  `Status`
is what a cached archive status holds besides its timestamp. -/
structure InstanceState (Status External : Type) where
  storageState : StorageState
  lastUpgradeTimestamp : Storage.Timestamp
  inflightChallenges : List (ChallengeKey × ChallengeInfo)
  tentativeDeviceRegistrations : List (AnchorNumber × TentativeDeviceRegistration)
  usageMetrics : UsageMetrics
  persistentState : PersistentState External
  archiveStatusCache : Option (ArchiveStatusCache Status)
  registrationRateLimit : Option RateLimitState

/-- Modelled from the spec: `InternetIdentityInit` of the interface crate, the
optional record an installation or an upgrade is given.  Its anchor range
sets the range of the storage, which the storage modelled here does not hold;
its archive configuration and rate limit set parts of `External`, which
`configureExternal` stands for. -/
structure InternetIdentityInit (External : Type) where
  configureExternal : External → External
  canisterCreationCyclesCost : Option UInt64
  maxNumLatestDelegationOrigins : Option UInt64

abbrev Hook (Status External : Type) := StateT (InstanceState Status External) (Except String)

section Hooks

variable {Status External : Type}

def PersistentState.default [Inhabited External] : PersistentState External where
  external := Inhabited.default
  canisterCreationCyclesCost := 0
  latestDelegationOrigins := none
  maxNumLatestDelegationOrigins := some maxNumDelegationOrigins

def InstanceState.default [Inhabited External] : InstanceState Status External where
  storageState := .uninitialised
  lastUpgradeTimestamp := 0
  inflightChallenges := []
  tentativeDeviceRegistrations := []
  usageMetrics := {}
  persistentState := PersistentState.default
  archiveStatusCache := none
  registrationRateLimit := none

def PersistentState.getOrInsertMaxNum (persistentState : PersistentState External) :
    PersistentState External :=
  { persistentState with
    maxNumLatestDelegationOrigins :=
      some (persistentState.maxNumLatestDelegationOrigins.getD maxNumDelegationOrigins) }

/-- Modelled from the spec: `apply_install_arg` of `main.rs` is not under src/.
Each field the argument gives sets what it names. -/
def PersistentState.applyInstallArg (persistentState : PersistentState External) :
    Option (InternetIdentityInit External) → PersistentState External
  | none => persistentState
  | some arg =>
      { persistentState with
        external := arg.configureExternal persistentState.external
        canisterCreationCyclesCost :=
          arg.canisterCreationCyclesCost.getD persistentState.canisterCreationCyclesCost
        maxNumLatestDelegationOrigins :=
          arg.maxNumLatestDelegationOrigins.or persistentState.maxNumLatestDelegationOrigins }

def onStorage (segment : Segment α) : Hook Status External α := fun state =>
  (segment.run state.storageState).map fun (result, storageState) =>
    (result, { state with storageState })

def StorageState.storage : StorageState → Option Storage
  | .uninitialised => none
  | .initialised storage => some storage

/-- Modelled from the spec: `Storage::new` is not under src/.  A new storage
holds no salt; the range of anchor numbers it is given is not part of the
storage modelled here. -/
def Storage.new : Storage := ⟨none⟩

/-- Modelled from the spec: `Storage::flush` is not under src/; it writes the
storage's header to stable memory and changes nothing modelled here. -/
def Storage.flush : StateT Storage (Except String) Unit := pure ()

def storageReplace (storage : Storage) : Hook Status External Unit :=
  modify fun state => { state with storageState := .initialised storage }

def initNew : Hook Status External Unit :=
  storageReplace Storage.new

def initFromStableMemory (now : Storage.Timestamp) (fromMemory : Option Storage) :
    Hook Status External Unit := do
  modify fun state => { state with lastUpgradeTimestamp := now }
  match fromMemory with
  | some newStorage => storageReplace newStorage
  | none => onStorage (storageBorrowMut Storage.flush)

/-- `save_persistent_state`.  Modelled from the spec: `write_persistent_state`
of the storage is not under src/; it writes the persistent state into a
reserved page of stable memory, which the storage modelled here does not hold,
so the hook returns what it writes there. -/
def savePersistentState : Hook Status External (PersistentState External) := do
  let persistentState := (← get).persistentState
  onStorage (storageBorrowMut (pure persistentState))

def loadPersistentState (readPersistentState : Except String (PersistentState External)) :
    Hook Status External Unit := do
  let loadedState ← onStorage <| storageBorrow fun _ =>
    match readPersistentState with
    | .ok loadedState => pure loadedState
    | .error err => throw ("failed to recover persistent state! Err: " ++ err)
  modify fun state => { state with persistentState := loadedState }
  modify fun state => { state with persistentState := state.persistentState.getOrInsertMaxNum }

def applyInstallArg (arg : Option (InternetIdentityInit External)) : Hook Status External Unit :=
  modify fun state => { state with persistentState := state.persistentState.applyInstallArg arg }

/-- Modelled from the spec: `post_upgrade` of `main.rs` is not under src/.  It
runs `init_from_stable_memory` and `load_persistent_state` on what
`Storage::from_memory` and `read_persistent_state` return, and then applies
the upgrade's argument. -/
def postUpgrade (now : Storage.Timestamp) (fromMemory : Option Storage)
    (readPersistentState : Except String (PersistentState External))
    (arg : Option (InternetIdentityInit External)) : Hook Status External Unit := do
  initFromStableMemory now fromMemory
  loadPersistentState readPersistentState
  applyInstallArg arg

/-- Modelled from the spec: what the new instance of an upgrade finds in stable
memory.  The page store is kept verbatim across the upgrade and the reserved
page holds the persistent state the old instance wrote, unless stable memory
cannot be read or that page is corrupted. -/
inductive StableMemory where
  | kept
  | unreadable
  | corrupted (err : String)
deriving DecidableEq, Repr

def StableMemory.fromMemory : StableMemory → Option Storage → Option Storage
  | .unreadable, _ => none
  | _, storage => storage

def StableMemory.readPersistentState :
    StableMemory → PersistentState External → Except String (PersistentState External)
  | .corrupted err, _ => .error err
  | _, written => .ok written

/-- Modelled from the spec: an upgrade runs `pre_upgrade`, which saves the
persistent state, in the old instance, and `post_upgrade` in a new one that
starts from `State::default()`, on what stable memory gives back. -/
def upgrade [Inhabited External] (state : InstanceState Status External)
    (now : Storage.Timestamp) (arg : Option (InternetIdentityInit External))
    (memory : StableMemory) : Except String (InstanceState Status External) := do
  let (written, old) ← savePersistentState.run state
  let ((), new) ← (postUpgrade now (memory.fromMemory old.storageState.storage)
      (memory.readPersistentState written) arg).run InstanceState.default
  pure new

/-! ## What each hook does -/

example : (PersistentState.default : PersistentState Unit).getOrInsertMaxNum =
    PersistentState.default :=
  rfl

theorem savePersistentState_run (state : InstanceState Status External) :
    savePersistentState.run state =
      match state.storageState with
      | .uninitialised => .error "Storage not initialized."
      | .initialised _ => .ok (state.persistentState, state) := by
  rcases state with ⟨_ | storage⟩ <;> rfl

theorem initFromStableMemory_run (now : Storage.Timestamp) (fromMemory : Option Storage)
    (state : InstanceState Status External) :
    (initFromStableMemory now fromMemory).run state =
      match fromMemory, state.storageState with
      | some newStorage, _ =>
          .ok ((), { state with
            lastUpgradeTimestamp := now, storageState := .initialised newStorage })
      | none, .uninitialised => .error "Storage not initialized."
      | none, .initialised _ => .ok ((), { state with lastUpgradeTimestamp := now }) := by
  rcases fromMemory with _ | newStorage <;> rcases state with ⟨_ | storage⟩ <;> rfl

theorem loadPersistentState_run (readPersistentState : Except String (PersistentState External))
    (state : InstanceState Status External) :
    (loadPersistentState readPersistentState).run state =
      match state.storageState, readPersistentState with
      | .uninitialised, _ => .error "Storage not initialized."
      | .initialised _, .error err => .error ("failed to recover persistent state! Err: " ++ err)
      | .initialised _, .ok loadedState =>
          .ok ((), { state with persistentState := loadedState.getOrInsertMaxNum }) := by
  rcases state with ⟨_ | storage⟩ <;> rcases readPersistentState with err | loadedState <;> rfl

/-- A new instance finds no storage in its heap: where stable memory holds
none either, `init_from_stable_memory` reaches `storage_borrow_mut` and traps,
so its `flush` branch never runs after an upgrade. -/
theorem initFromStableMemory_default_none [Inhabited External] (now : Storage.Timestamp) :
    (initFromStableMemory now none).run (InstanceState.default : InstanceState Status External) =
      .error "Storage not initialized." :=
  initFromStableMemory_run now none InstanceState.default

theorem postUpgrade_run [Inhabited External] (now : Storage.Timestamp)
    (fromMemory : Option Storage) (readPersistentState : Except String (PersistentState External))
    (arg : Option (InternetIdentityInit External)) :
    (postUpgrade now fromMemory readPersistentState arg).run
        (InstanceState.default : InstanceState Status External) =
      match fromMemory, readPersistentState with
      | none, _ => .error "Storage not initialized."
      | some _, .error err => .error ("failed to recover persistent state! Err: " ++ err)
      | some storage, .ok loadedState =>
          .ok ((), { (InstanceState.default : InstanceState Status External) with
            storageState := .initialised storage
            lastUpgradeTimestamp := now
            persistentState := loadedState.getOrInsertMaxNum.applyInstallArg arg }) := by
  rcases fromMemory with _ | storage <;> rcases readPersistentState with err | loadedState <;> rfl

theorem upgrade_eq [Inhabited External] (state : InstanceState Status External)
    (now : Storage.Timestamp) (arg : Option (InternetIdentityInit External))
    (memory : StableMemory) :
    upgrade state now arg memory =
      match state.storageState, memory with
      | .uninitialised, _ => .error "Storage not initialized."
      | .initialised _, .unreadable => .error "Storage not initialized."
      | .initialised _, .corrupted err =>
          .error ("failed to recover persistent state! Err: " ++ err)
      | .initialised storage, .kept =>
          .ok { (InstanceState.default : InstanceState Status External) with
            storageState := .initialised storage
            lastUpgradeTimestamp := now
            persistentState := state.persistentState.getOrInsertMaxNum.applyInstallArg arg } := by
  rcases state with ⟨_ | storage⟩ <;> rcases memory with _ | _ | err <;> rfl

/-- An upgrade succeeds exactly when the old instance's storage is initialised
and stable memory gives back what that instance left.  The new heap then holds
the old storage, the time of the upgrade, and the old persistent state with
its cap set and the argument applied; the challenges, tentative registrations,
usage metrics, archive status cache and rate-limit state are reset. -/
theorem upgrade_eq_ok_iff [Inhabited External] {state new : InstanceState Status External}
    {now : Storage.Timestamp} {arg : Option (InternetIdentityInit External)}
    {memory : StableMemory} :
    upgrade state now arg memory = .ok new ↔
      (∃ storage, state.storageState = .initialised storage) ∧ memory = .kept ∧
        new = { (InstanceState.default : InstanceState Status External) with
          storageState := state.storageState
          lastUpgradeTimestamp := now
          persistentState := state.persistentState.getOrInsertMaxNum.applyInstallArg arg } := by
  rw [upgrade_eq]
  rcases initialised : state.storageState with _ | storage <;> rcases memory with _ | _ | err <;>
    simp only [eq_comm, Except.ok.injEq, StorageState.initialised.injEq, exists_eq', true_and,
      reduceCtorEq, false_and, and_false, exists_false, and_self]

end Hooks

/-! ## Executions and upgrades -/

/-- The canister across its instances: the heap of the current one, and the
executions waiting for their `raw_rand` reply.  An execution waiting across an
upgrade may still be resumed: the model admits it, so what holds over its runs
holds whether or not the platform lets such a reply arrive. -/
structure Canister (Status External : Type) where
  state : InstanceState Status External
  awaiting : List Entry

inductive CanisterEvent (External : Type) where
  | execution (event : Event)
  | upgrade (now : Storage.Timestamp) (arg : Option (InternetIdentityInit External))
      (memory : StableMemory)

inductive CanisterOutcome where
  | execution (outcome : Outcome)
  | upgraded
  | upgradeTrapped (message : String)
deriving DecidableEq

section Runs

variable {Status External : Type} [Inhabited External]
  {canister next final : Canister Status External} {outcome : CanisterOutcome}

def Canister.system (canister : Canister Status External) : System :=
  ⟨canister.state.storageState, canister.awaiting⟩

def Canister.step (canister : Canister Status External) :
    CanisterEvent External → Option (CanisterOutcome × Canister Status External)
  | .execution event =>
      (canister.system.step event).map fun (outcome, next) =>
        (.execution outcome,
          ⟨{ canister.state with storageState := next.storageState }, next.awaiting⟩)
  | .upgrade now arg memory =>
      some <| match upgrade canister.state now arg memory with
        | .ok state => (.upgraded, { canister with state })
        | .error message => (.upgradeTrapped message, canister)

def Canister.run (canister : Canister Status External) :
    List (CanisterEvent External) → Option (List CanisterOutcome × Canister Status External)
  | [] => some ([], canister)
  | event :: events => do
      let (outcome, next) ← canister.step event
      let (outcomes, final) ← next.run events
      pure (outcome :: outcomes, final)

theorem Canister.run_cons_eq_some {event : CanisterEvent External}
    {events : List (CanisterEvent External)} {outcomes : List CanisterOutcome} :
    canister.run (event :: events) = some (outcomes, final) ↔
      ∃ outcome next laterOutcomes, canister.step event = some (outcome, next) ∧
        next.run events = some (laterOutcomes, final) ∧ outcomes = outcome :: laterOutcomes := by
  simp only [Canister.run, bind, Option.bind_eq_some, pure, Option.some.injEq, Prod.mk.injEq]
  constructor
  · rintro ⟨⟨outcome, next⟩, stepped, ⟨laterOutcomes, _⟩, ran, rfl, rfl⟩
    exact ⟨outcome, next, laterOutcomes, stepped, ran, rfl⟩
  · rintro ⟨outcome, next, laterOutcomes, stepped, ran, rfl⟩
    exact ⟨(outcome, next), stepped, (laterOutcomes, final), ran, rfl, rfl⟩

theorem Canister.step_execution {event : Event}
    (stepped : canister.step (.execution event) = some (outcome, next)) :
    ∃ systemOutcome, outcome = .execution systemOutcome ∧
      canister.system.step event = some (systemOutcome, next.system) ∧
      next.state = { canister.state with storageState := next.state.storageState } := by
  simp only [Canister.step, Option.map_eq_some'] at stepped
  obtain ⟨⟨systemOutcome, systemNext⟩, stepped, same⟩ := stepped
  simp only [Prod.mk.injEq] at same
  obtain ⟨rfl, rfl⟩ := same
  exact ⟨systemOutcome, rfl, stepped, rfl⟩

theorem Canister.step_upgrade {now : Storage.Timestamp}
    {arg : Option (InternetIdentityInit External)} {memory : StableMemory}
    (stepped : canister.step (.upgrade now arg memory) = some (outcome, next)) :
    (outcome = .upgraded ∧ upgrade canister.state now arg memory = .ok next.state ∧
        next.awaiting = canister.awaiting) ∨
      ∃ message, outcome = .upgradeTrapped message ∧
        upgrade canister.state now arg memory = .error message ∧ next = canister := by
  simp only [Canister.step, Option.some.injEq] at stepped
  rcases upgraded : upgrade canister.state now arg memory with message | state <;>
    simp only [upgraded, Prod.mk.injEq] at stepped <;>
    obtain ⟨rfl, rfl⟩ := stepped
  · exact .inr ⟨message, rfl, rfl, rfl⟩
  · exact .inl ⟨rfl, rfl, rfl⟩

theorem Canister.step_upgrade_storageState {now : Storage.Timestamp}
    {arg : Option (InternetIdentityInit External)} {memory : StableMemory}
    (stepped : canister.step (.upgrade now arg memory) = some (outcome, next)) :
    next.state.storageState = canister.state.storageState := by
  rcases Canister.step_upgrade stepped with ⟨-, upgraded, -⟩ | ⟨-, -, -, rfl⟩
  · rw [(upgrade_eq_ok_iff.mp upgraded).2.2]
  · rfl

theorem Canister.step_saltStep {event : CanisterEvent External}
    (stepped : canister.step event = some (outcome, next)) :
    SaltStep canister.state.storageState next.state.storageState := by
  cases event with
  | execution event =>
      obtain ⟨_, -, systemStepped, -⟩ := Canister.step_execution stepped
      exact (System.step_saltStep systemStepped).1
  | upgrade now arg memory => exact .inl (Canister.step_upgrade_storageState stepped)

theorem Canister.run_of_step (related : Canister Status External → Canister Status External → Prop)
    (refl : ∀ canister, related canister canister)
    (trans : ∀ {first second third}, related first second → related second third →
      related first third)
    (step : ∀ {canister next outcome event}, canister.step event = some (outcome, next) →
      related canister next)
    {events : List (CanisterEvent External)} {outcomes : List CanisterOutcome}
    (ran : canister.run events = some (outcomes, final)) : related canister final := by
  induction events generalizing canister outcomes with
  | nil =>
      simp only [Canister.run, Option.some.injEq, Prod.mk.injEq] at ran
      obtain ⟨-, rfl⟩ := ran
      exact refl canister
  | cons event events induction =>
      obtain ⟨_, _, _, stepped, ran, -⟩ := Canister.run_cons_eq_some.mp ran
      exact trans (step stepped) (induction ran)

theorem Canister.run_salt_of_reply {events : List (CanisterEvent External)}
    {outcomes : List CanisterOutcome}
    (ran : canister.run events = some (outcomes, final)) {salt : Salt}
    (set : final.state.storageState = .initialised ⟨some salt⟩) :
    canister.state.storageState = .initialised ⟨some salt⟩ ∨
      ∃ index, CanisterEvent.execution (.resume index (.ok salt.bytes)) ∈ events := by
  induction events generalizing canister outcomes with
  | nil =>
      simp only [Canister.run, Option.some.injEq, Prod.mk.injEq] at ran
      obtain ⟨-, rfl⟩ := ran
      exact .inl set
  | cons event events induction =>
      obtain ⟨_, next, _, stepped, ran, -⟩ := Canister.run_cons_eq_some.mp ran
      rcases induction ran with earlier | ⟨index, member⟩
      · cases event with
        | execution event =>
            obtain ⟨_, -, systemStepped, -⟩ := Canister.step_execution stepped
            rcases System.step_salt_of_reply systemStepped earlier with before | ⟨index, rfl⟩
            · exact .inl before
            · exact .inr ⟨index, List.mem_cons_self _ _⟩
        | upgrade now arg memory =>
            exact .inl (Canister.step_upgrade_storageState stepped ▸ earlier)
      · exact .inr ⟨index, List.mem_cons_of_mem _ member⟩

/-- Under any interleaving of `ensure_salt_set` and `init_salt` executions, any
replies of `raw_rand` and any upgrades, the salt is written at most once, and
a salt set at the end of a run was set at its start or is the bytes of a
`raw_rand` reply the run delivered. -/
theorem salt_survives_upgrades {events : List (CanisterEvent External)}
    {outcomes : List CanisterOutcome}
    (ran : canister.run events = some (outcomes, final)) :
    SaltStep canister.state.storageState final.state.storageState ∧
      ∀ salt : Salt, final.state.storageState = .initialised ⟨some salt⟩ →
        canister.state.storageState = .initialised ⟨some salt⟩ ∨
          ∃ index, CanisterEvent.execution (.resume index (.ok salt.bytes)) ∈ events :=
  ⟨Canister.run_of_step (fun before after => SaltStep before.state.storageState
      after.state.storageState) (fun _ => .inl rfl) SaltStep.trans Canister.step_saltStep ran,
    fun _ set => Canister.run_salt_of_reply ran set⟩

theorem salt_set_across_an_upgrade :
    let canister : Canister Unit Unit := ⟨{ InstanceState.default with
      storageState := .initialised ⟨none⟩ }, []⟩
    let events := [.execution (.start .ensureSaltSet), .upgrade 7 none .kept,
      .execution (.resume 0 (.ok zeroSalt.bytes))]
    let final : Canister Unit Unit := ⟨{ InstanceState.default with
      storageState := .initialised ⟨some zeroSalt⟩, lastUpgradeTimestamp := 7 }, []⟩
    canister.run events = some ([.execution (.suspended .ensureSaltSet), .upgraded,
        .execution (.returned .ensureSaltSet)], final) ∧
      SaltStep canister.state.storageState final.state.storageState ∧
        ∀ salt : Salt, final.state.storageState = .initialised ⟨some salt⟩ →
          canister.state.storageState = .initialised ⟨some salt⟩ ∨
            ∃ index, CanisterEvent.execution (.resume index (.ok salt.bytes)) ∈ events :=
  have ran : Canister.run ⟨{ (InstanceState.default : InstanceState Unit Unit) with
      storageState := .initialised ⟨none⟩ }, []⟩
      [.execution (.start .ensureSaltSet), .upgrade 7 none .kept,
        .execution (.resume 0 (.ok zeroSalt.bytes))] =
      some ([.execution (.suspended .ensureSaltSet), .upgraded,
        .execution (.returned .ensureSaltSet)], ⟨{ InstanceState.default with
          storageState := .initialised ⟨some zeroSalt⟩, lastUpgradeTimestamp := 7 }, []⟩) := rfl
  ⟨ran, salt_survives_upgrades ran⟩

end Runs

end InternetIdentity.State
