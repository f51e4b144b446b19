import Mathlib

namespace InternetIdentity.State

/-! # The salt and its lazy initialisation

`ensure_salt_set` and `init_salt` of `state.rs` set the canister-wide salt
from the management canister's `raw_rand`.  A message runs atomically up to
its await; there other messages may run, and the rest of it runs when the
reply arrives.  So each execution is two segments, before and after the call,
and a trap aborts the segment it happens in and discards that segment's
writes.  Segments are `StateT` computations over `Except`: an error carries
no state, so the state before the segment is the state after the trap.

A system holds the storage and the executions waiting for their reply; any
interleaving of executions and any replies is a list of events.  The salt is
written at most once over every run.
-/

structure Salt where
  bytes : List UInt8
  length_eq : bytes.length = 32
deriving DecidableEq

def Salt.tryFrom (bytes : List UInt8) : Option Salt :=
  if length : bytes.length = 32 then some ⟨bytes, length⟩ else none

theorem Salt.tryFrom_bytes (salt : Salt) : Salt.tryFrom salt.bytes = some salt := by
  simp [Salt.tryFrom, salt.length_eq]

theorem Salt.bytes_of_tryFrom {bytes : List UInt8} {salt : Salt}
    (found : Salt.tryFrom bytes = some salt) : salt.bytes = bytes := by
  unfold Salt.tryFrom at found
  split at found
  · cases found
    rfl
  · cases found

/-- Modelled from the spec: `Storage` is not under src/.  Of the storage the
salt functions read and write only the salt, which is unset until it is
initialised. -/
structure Storage where
  salt : Option Salt
deriving DecidableEq

inductive StorageState where
  | uninitialised
  | initialised (storage : Storage)
deriving DecidableEq

abbrev Segment := StateT StorageState (Except String)

def trap (message : String) : Segment α := throw message

def storageBorrow (f : Storage → Except String α) : Segment α := do
  match ← get with
  | .uninitialised => trap "Storage not initialized."
  | .initialised storage => f storage

def storageBorrowMut (f : StateT Storage (Except String) α) : Segment α := do
  match ← get with
  | .uninitialised => trap "Storage not initialized."
  | .initialised storage =>
      let (result, storage) ← f.run storage
      set (StorageState.initialised storage)
      pure result

/-- Modelled from the spec: `Storage::update_salt` is not under src/.  The
comment at its call and the spec say that it traps when a salt is set; the
text of that trap is not known, and no result depends on it. -/
def Storage.updateSalt (salt : Salt) : StateT Storage (Except String) Unit := do
  if (← get).salt.isSome then throw "update_salt: salt already set"
  set ({ salt := some salt } : Storage)

/-- The reply of `raw_rand`: the random bytes, or the text of the rejection
(its code is not read). -/
abbrev RawRandReply := Except String (List UInt8)

inductive Progress where
  | returned
  | awaitingRawRand
deriving DecidableEq, Repr

def initSaltBeforeCall : Segment Unit :=
  storageBorrow fun storage =>
    if storage.salt.isSome then throw "Salt already set" else pure ()

def initSaltAfterCall (reply : RawRandReply) : Segment Unit := do
  let res ← match reply with
    | .ok res => pure res
    | .error err => trap ("failed to get salt: " ++ err)
  let salt ← match Salt.tryFrom res with
    | some salt => pure salt
    | none => trap ("expected raw randomness to be of length 32, got " ++ toString res.length)
  storageBorrowMut (Storage.updateSalt salt)

def ensureSaltSetCheck : Segment Unit :=
  storageBorrow fun storage =>
    if storage.salt.isNone then throw "Salt is not set. Try calling init_salt() to set it"
    else pure ()

def ensureSaltSetBeforeCall : Segment Progress := do
  let salt ← storageBorrow fun storage => pure storage.salt
  if salt.isNone then
    initSaltBeforeCall
    pure .awaitingRawRand
  else
    ensureSaltSetCheck
    pure .returned

def ensureSaltSetAfterCall (reply : RawRandReply) : Segment Unit := do
  initSaltAfterCall reply
  ensureSaltSetCheck

def salt : Segment Salt :=
  storageBorrow fun storage =>
    match storage.salt with
    | some salt => pure salt
    | none => throw "Salt is not set. Try calling init_salt() to set it"

/-! ## Interleaved executions -/

inductive Entry where
  | ensureSaltSet
  | initSalt
deriving DecidableEq, Repr

def Entry.beforeCall : Entry → Segment Progress
  | .ensureSaltSet => ensureSaltSetBeforeCall
  | .initSalt => do
      initSaltBeforeCall
      pure .awaitingRawRand

def Entry.afterCall : Entry → RawRandReply → Segment Unit
  | .ensureSaltSet => ensureSaltSetAfterCall
  | .initSalt => initSaltAfterCall

structure System where
  storageState : StorageState
  awaiting : List Entry
deriving DecidableEq

inductive Event where
  | start (entry : Entry)
  | resume (index : Nat) (reply : RawRandReply)

inductive Outcome where
  | returned (entry : Entry)
  | trapped (entry : Entry) (message : String)
  | suspended (entry : Entry)
deriving DecidableEq, Repr

def System.step (system : System) : Event → Option (Outcome × System)
  | .start entry =>
      some <| match entry.beforeCall.run system.storageState with
        | .ok (.returned, storageState) => (.returned entry, { system with storageState })
        | .ok (.awaitingRawRand, storageState) =>
            (.suspended entry, { storageState, awaiting := system.awaiting ++ [entry] })
        | .error message => (.trapped entry message, system)
  | .resume index reply =>
      system.awaiting[index]?.map fun entry =>
        let awaiting := system.awaiting.eraseIdx index
        match (entry.afterCall reply).run system.storageState with
        | .ok ((), storageState) => (.returned entry, { storageState, awaiting })
        | .error message => (.trapped entry message, { system with awaiting })

def System.run (system : System) : List Event → Option (List Outcome × System)
  | [] => some ([], system)
  | event :: events => do
      let (outcome, next) ← system.step event
      let (outcomes, final) ← next.run events
      pure (outcome :: outcomes, final)

/-! ## What each segment does -/

section Segments

variable {state after : StorageState}

theorem segment_bind_eq_ok {x : Segment α} {f : α → Segment β} {b : β} :
    (x >>= f).run state = .ok (b, after) ↔
      ∃ a middle, x.run state = .ok (a, middle) ∧ (f a).run middle = .ok (b, after) := by
  rw [StateT.run_bind]
  rcases x.run state with _ | ⟨a, middle⟩ <;> simp [bind, Except.bind, and_assoc]

theorem storageBorrow_run_eq_ok {f : Storage → Except String α} {a : α} :
    (storageBorrow f).run state = .ok (a, after) ↔
      after = state ∧ ∃ storage, state = .initialised storage ∧ f storage = .ok a := by
  cases state with
  | uninitialised => exact iff_of_false (fun ran => nomatch ran) (by simp)
  | initialised storage =>
      cases result : f storage <;>
        simp [storageBorrow, result, StateT.run_bind, StateT.run_monadLift, eq_comm, and_comm]

theorem storageBorrowMut_run_eq_ok {f : StateT Storage (Except String) α} {a : α} :
    (storageBorrowMut f).run state = .ok (a, after) ↔
      ∃ storage stored, state = .initialised storage ∧ f.run storage = .ok (a, stored) ∧
        after = .initialised stored := by
  cases state with
  | uninitialised => exact iff_of_false (fun ran => nomatch ran) (by simp)
  | initialised storage =>
      cases result : f.run storage with
      | error => simp [storageBorrowMut, result, StateT.run_bind, StateT.run_monadLift]
      | ok value =>
          obtain ⟨value, stored⟩ := value
          simp [storageBorrowMut, result, StateT.run_bind, StateT.run_monadLift, eq_comm, and_assoc]

theorem updateSalt_run_eq_ok {salt : Salt} {storage stored : Storage} :
    (Storage.updateSalt salt).run storage = .ok ((), stored) ↔
      storage.salt = none ∧ stored = { salt := some salt } := by
  rcases storage with ⟨_ | current⟩
  · exact ⟨fun ran => ⟨rfl, by cases ran; rfl⟩, fun ⟨_, written⟩ => written ▸ rfl⟩
  · exact ⟨fun ran => (nomatch ran), fun ⟨unset, _⟩ => (nomatch unset)⟩

theorem ite_throw_eq_ok {p : Prop} [Decidable p] {message : String} :
    (if p then throw message else pure () : Except String Unit) = .ok () ↔ ¬p := by
  by_cases holds : p <;> simp [holds, throw, throwThe, MonadExceptOf.throw, pure, Except.pure]

theorem initSaltBeforeCall_run_eq_ok :
    initSaltBeforeCall.run state = .ok ((), after) ↔
      after = state ∧ state = .initialised ⟨none⟩ := by
  rcases state with _ | ⟨_ | current⟩ <;>
    simp [initSaltBeforeCall, storageBorrow_run_eq_ok, ite_throw_eq_ok]

theorem ensureSaltSetCheck_run_eq_ok :
    ensureSaltSetCheck.run state = .ok ((), after) ↔
      after = state ∧ ∃ salt, state = .initialised ⟨some salt⟩ := by
  rcases state with _ | ⟨_ | current⟩ <;>
    simp [ensureSaltSetCheck, storageBorrow_run_eq_ok, ite_throw_eq_ok]

theorem initSaltAfterCall_run_eq_ok {reply : RawRandReply} :
    (initSaltAfterCall reply).run state = .ok ((), after) ↔
      ∃ bytes salt, reply = .ok bytes ∧ Salt.tryFrom bytes = some salt ∧
        state = .initialised ⟨none⟩ ∧ after = .initialised ⟨some salt⟩ := by
  rcases reply with err | bytes
  · exact iff_of_false (fun ran => nomatch ran) fun ⟨_, _, replied, _⟩ => nomatch replied
  · cases tryFrom : Salt.tryFrom bytes with
    | none =>
        refine iff_of_false (fun ran => ?_) fun ⟨_, _, replied, found, _⟩ => by
          cases replied
          exact nomatch tryFrom.symm.trans found
        simp only [initSaltAfterCall, pure_bind, tryFrom] at ran
        nomatch ran
    | some salt =>
        have reduced : (initSaltAfterCall (.ok bytes)).run state =
            (storageBorrowMut (Storage.updateSalt salt)).run state := by
          simp only [initSaltAfterCall, pure_bind, tryFrom]
        rw [reduced, storageBorrowMut_run_eq_ok]
        constructor
        · rintro ⟨⟨current⟩, stored, rfl, updated, rfl⟩
          obtain ⟨unset, rfl⟩ := updateSalt_run_eq_ok.mp updated
          cases (unset : current = none)
          exact ⟨bytes, salt, rfl, tryFrom, rfl, rfl⟩
        · rintro ⟨_, found, ⟨⟩, same, rfl, rfl⟩
          cases tryFrom.symm.trans same
          exact ⟨⟨none⟩, _, rfl, updateSalt_run_eq_ok.mpr ⟨rfl, rfl⟩, rfl⟩

theorem salt_run_eq_ok {value : Salt} :
    salt.run state = .ok (value, after) ↔ after = state ∧ state = .initialised ⟨some value⟩ := by
  rcases state with _ | ⟨_ | current⟩ <;>
    simp [salt, storageBorrow_run_eq_ok, throw, throwThe, MonadExceptOf.throw, pure, Except.pure,
      @eq_comm Salt]

theorem Entry.beforeCall_run_eq_ok {entry : Entry} {progress : Progress}
    (ran : entry.beforeCall.run state = .ok (progress, after)) :
    after = state ∧ (progress = .returned → ∃ salt, state = .initialised ⟨some salt⟩) := by
  rcases state with _ | ⟨_ | current⟩ <;> cases entry <;> cases ran <;> simp

theorem Entry.afterCall_run_eq_ok {entry : Entry} {reply : RawRandReply}
    (ran : (entry.afterCall reply).run state = .ok ((), after)) :
    ∃ salt, reply = .ok salt.bytes ∧ state = .initialised ⟨none⟩ ∧
      after = .initialised ⟨some salt⟩ := by
  have initialised : ∀ {after}, (initSaltAfterCall reply).run state = .ok ((), after) →
      ∃ salt, reply = .ok salt.bytes ∧ state = .initialised ⟨none⟩ ∧
        after = .initialised ⟨some salt⟩ := fun ran => by
    obtain ⟨_, salt, rfl, found, unset, written⟩ := initSaltAfterCall_run_eq_ok.mp ran
    exact ⟨salt, by rw [Salt.bytes_of_tryFrom found], unset, written⟩
  cases entry with
  | ensureSaltSet =>
      obtain ⟨_, middle, initialisedRun, checked⟩ := segment_bind_eq_ok.mp ran
      obtain ⟨salt, replied, unset, rfl⟩ := initialised initialisedRun
      exact ⟨salt, replied, unset, (ensureSaltSetCheck_run_eq_ok.mp checked).1⟩
  | initSalt => exact initialised ran

theorem Entry.afterCall_stores (entry : Entry) (salt : Salt) :
    (entry.afterCall (.ok salt.bytes)).run (.initialised ⟨none⟩) =
      .ok ((), .initialised ⟨some salt⟩) := by
  have stored : (initSaltAfterCall (.ok salt.bytes)).run (.initialised ⟨none⟩) =
      .ok ((), .initialised ⟨some salt⟩) :=
    initSaltAfterCall_run_eq_ok.mpr ⟨_, _, rfl, Salt.tryFrom_bytes salt, rfl, rfl⟩
  cases entry with
  | ensureSaltSet =>
      exact segment_bind_eq_ok.mpr
        ⟨(), _, stored, ensureSaltSetCheck_run_eq_ok.mpr ⟨rfl, salt, rfl⟩⟩
  | initSalt => exact stored

/-! ### On an initialised storage no segment reports an uninitialised one -/

end Segments

/-! ## Every run writes the salt at most once -/

/-- The storage is unchanged, or a salt is written into a storage without one. -/
def SaltStep (before after : StorageState) : Prop :=
  after = before ∨ ∃ salt, before = .initialised ⟨none⟩ ∧ after = .initialised ⟨some salt⟩

theorem SaltStep.of_set {salt : Salt} {after : StorageState}
    (written : SaltStep (.initialised ⟨some salt⟩) after) : after = .initialised ⟨some salt⟩ := by
  rcases written with rfl | ⟨_, unset, -⟩
  · rfl
  · cases unset

theorem SaltStep.trans {first second third : StorageState} (earlier : SaltStep first second)
    (later : SaltStep second third) : SaltStep first third := by
  rcases earlier with rfl | ⟨salt, unset, rfl⟩
  · exact later
  · exact .inr ⟨salt, unset, later.of_set⟩

section Runs

variable {system next final : System} {outcome : Outcome}

theorem System.step_start {entry : Entry}
    (stepped : system.step (.start entry) = some (outcome, next)) :
    next.storageState = system.storageState ∧
      (∀ returned, outcome = .returned returned →
        ∃ salt, system.storageState = .initialised ⟨some salt⟩) ∧
      ∀ trapped message, outcome = .trapped trapped message →
        entry.beforeCall.run system.storageState = .error message := by
  simp only [System.step, Option.some.injEq] at stepped
  cases ran : entry.beforeCall.run system.storageState with
  | error message =>
      simp only [ran, Prod.mk.injEq] at stepped
      obtain ⟨rfl, rfl⟩ := stepped
      exact ⟨rfl, fun _ returned => (nomatch returned), fun _ _ trapped => by cases trapped; rfl⟩
  | ok result =>
      obtain ⟨progress, after⟩ := result
      obtain ⟨rfl, returned⟩ := Entry.beforeCall_run_eq_ok ran
      cases progress <;> simp only [ran, Prod.mk.injEq] at stepped <;> obtain ⟨rfl, rfl⟩ := stepped
      · exact ⟨rfl, fun _ _ => returned rfl, fun _ _ trapped => nomatch trapped⟩
      · simp

theorem System.step_resume {index : Nat} {reply : RawRandReply}
    (stepped : system.step (.resume index reply) = some (outcome, next)) :
    ∃ entry,
      (∃ message, outcome = .trapped entry message ∧ next.storageState = system.storageState ∧
        (entry.afterCall reply).run system.storageState = .error message) ∨
        (outcome = .returned entry ∧ ∃ salt, reply = .ok salt.bytes ∧
          system.storageState = .initialised ⟨none⟩ ∧
            next.storageState = .initialised ⟨some salt⟩) := by
  simp only [System.step, Option.map_eq_some'] at stepped
  obtain ⟨entry, -, stepped⟩ := stepped
  refine ⟨entry, ?_⟩
  cases ran : (entry.afterCall reply).run system.storageState with
  | error message =>
      simp only [ran, Prod.mk.injEq] at stepped
      obtain ⟨rfl, rfl⟩ := stepped
      exact .inl ⟨message, rfl, rfl, rfl⟩
  | ok result =>
      obtain ⟨⟨⟩, after⟩ := result
      simp only [ran, Prod.mk.injEq] at stepped
      obtain ⟨rfl, rfl⟩ := stepped
      exact .inr ⟨rfl, Entry.afterCall_run_eq_ok ran⟩

theorem System.step_saltStep {event : Event} (stepped : system.step event = some (outcome, next)) :
    SaltStep system.storageState next.storageState ∧
      ∀ entry, outcome = .returned entry →
        ∃ salt, next.storageState = .initialised ⟨some salt⟩ := by
  cases event with
  | start entry =>
      obtain ⟨same, returned, -⟩ := System.step_start stepped
      refine ⟨.inl same, fun entry isReturned => ?_⟩
      rw [same]
      exact returned entry isReturned
  | resume index reply =>
      obtain ⟨entry, ⟨message, rfl, same, -⟩ | ⟨rfl, salt, -, unset, written⟩⟩ :=
        System.step_resume stepped
      · exact ⟨.inl same, fun _ isReturned => nomatch isReturned⟩
      · exact ⟨.inr ⟨salt, unset, written⟩, fun _ _ => ⟨salt, written⟩⟩

theorem System.step_salt_of_reply {event : Event}
    (stepped : system.step event = some (outcome, next)) {salt : Salt}
    (set : next.storageState = .initialised ⟨some salt⟩) :
    system.storageState = .initialised ⟨some salt⟩ ∨
      ∃ index, event = .resume index (.ok salt.bytes) := by
  cases event with
  | start entry => exact .inl ((System.step_start stepped).1 ▸ set)
  | resume index reply =>
      obtain ⟨entry, ⟨message, -, same, -⟩ | ⟨-, written, replied, -, stored⟩⟩ :=
        System.step_resume stepped
      · exact .inl (same ▸ set)
      · rw [stored] at set
        cases set
        exact .inr ⟨index, by rw [replied]⟩

theorem System.run_saltStep {events : List Event} {outcomes : List Outcome}
    (ran : system.run events = some (outcomes, final)) :
    SaltStep system.storageState final.storageState ∧
      ∀ entry, .returned entry ∈ outcomes →
        ∃ salt, final.storageState = .initialised ⟨some salt⟩ := by
  induction events generalizing system outcomes with
  | nil =>
      simp only [System.run, Option.some.injEq, Prod.mk.injEq] at ran
      obtain ⟨rfl, rfl⟩ := ran
      exact ⟨.inl rfl, by simp⟩
  | cons event events induction =>
      simp only [System.run, bind, Option.bind_eq_some, pure, Option.some.injEq,
        Prod.mk.injEq] at ran
      obtain ⟨⟨outcome, next⟩, stepped, ⟨later, _⟩, ran, rfl, rfl⟩ := ran
      obtain ⟨written, returned⟩ := System.step_saltStep stepped
      obtain ⟨writtenLater, returnedLater⟩ := induction ran
      refine ⟨written.trans writtenLater, fun entry member => ?_⟩
      rcases List.mem_cons.mp member with isOutcome | member
      · obtain ⟨salt, set⟩ := returned entry isOutcome.symm
        rw [set] at writtenLater
        exact ⟨salt, writtenLater.of_set⟩
      · exact returnedLater entry member

/-- Under any interleaving of `ensure_salt_set` and `init_salt` executions
and any replies of `raw_rand`, a segment writes a salt only where none is
set, an `ensure_salt_set` that returns leaves a salt set, and a salt once
set stays for the rest of the run. -/
theorem salt_written_once :
    (∀ (system next : System) (event : Event) (outcome : Outcome),
        system.step event = some (outcome, next) →
          SaltStep system.storageState next.storageState ∧
            (outcome = .returned .ensureSaltSet →
              ∃ salt, next.storageState = .initialised ⟨some salt⟩)) ∧
      ∀ (system final : System) (events : List Event) (outcomes : List Outcome) (salt : Salt),
        system.run events = some (outcomes, final) →
          system.storageState = .initialised ⟨some salt⟩ →
            final.storageState = .initialised ⟨some salt⟩ :=
  ⟨fun _ _ _ _ stepped =>
      ⟨(System.step_saltStep stepped).1, (System.step_saltStep stepped).2 .ensureSaltSet⟩,
    fun _ _ _ _ _ ran set => by
      have written := (System.run_saltStep ran).1
      rw [set] at written
      exact written.of_set⟩

/-- Once `salt()` has returned a salt, it returns the same salt after any
run, so the seeds derived from it never change. -/
theorem salt_read_stable {events : List Event} {outcomes : List Outcome} {value : Salt}
    {after : StorageState} (read : salt.run system.storageState = .ok (value, after))
    (ran : system.run events = some (outcomes, final)) :
    salt.run final.storageState = .ok (value, final.storageState) := by
  obtain ⟨-, set⟩ := salt_run_eq_ok.mp read
  have written := (System.run_saltStep ran).1
  rw [set] at written
  exact salt_run_eq_ok.mpr ⟨rfl, written.of_set⟩

def zeroSalt : Salt := ⟨List.replicate 32 0, rfl⟩

theorem salt_read_after_ensureSaltSet :
    salt.run (.initialised ⟨some zeroSalt⟩) = .ok (zeroSalt, .initialised ⟨some zeroSalt⟩) ∧
      System.run ⟨.initialised ⟨some zeroSalt⟩, []⟩ [.start .ensureSaltSet] =
        some ([.returned .ensureSaltSet], ⟨.initialised ⟨some zeroSalt⟩, []⟩) ∧
      salt.run (.initialised ⟨some zeroSalt⟩) = .ok (zeroSalt, .initialised ⟨some zeroSalt⟩) :=
  ⟨rfl, rfl, @salt_read_stable ⟨.initialised ⟨some zeroSalt⟩, []⟩ ⟨.initialised ⟨some zeroSalt⟩, []⟩
    [.start .ensureSaltSet] [.returned .ensureSaltSet] zeroSalt _ rfl rfl⟩

theorem initialisation_returns (awaiting : List Entry) :
    (∀ salt : Salt, System.run ⟨.initialised ⟨some salt⟩, awaiting⟩ [.start .ensureSaltSet] =
        some ([.returned .ensureSaltSet], ⟨.initialised ⟨some salt⟩, awaiting⟩)) ∧
      ∀ (entry : Entry) (salt : Salt),
        System.run ⟨.initialised ⟨none⟩, awaiting⟩
            [.start entry, .resume awaiting.length (.ok salt.bytes)] =
          some ([.suspended entry, .returned entry], ⟨.initialised ⟨some salt⟩, awaiting⟩) := by
  refine ⟨fun salt => rfl, fun entry salt => ?_⟩
  have started : System.step ⟨.initialised ⟨none⟩, awaiting⟩ (.start entry) =
      some (.suspended entry, ⟨.initialised ⟨none⟩, awaiting ++ [entry]⟩) := by
    cases entry <;> rfl
  have resumed : System.step ⟨.initialised ⟨none⟩, awaiting ++ [entry]⟩
      (.resume awaiting.length (.ok salt.bytes)) =
        some (.returned entry, ⟨.initialised ⟨some salt⟩, awaiting⟩) := by
    simp only [System.step, List.getElem?_concat_length, Option.map_some',
      Entry.afterCall_stores, List.eraseIdx_append_of_length_le le_rfl, Nat.sub_self,
      List.eraseIdx_cons_zero, List.append_nil]
  simp only [System.run, started, bind, Option.bind, resumed]
  rfl

theorem first_reply_sets_salt (awaiting : List Entry) (index : Fin awaiting.length)
    (salt : Salt) :
    System.step ⟨.initialised ⟨none⟩, awaiting⟩ (.resume index (.ok salt.bytes)) =
      some (.returned awaiting[index], ⟨.initialised ⟨some salt⟩, awaiting.eraseIdx index⟩) := by
  simp only [System.step, List.getElem?_eq_getElem index.isLt, Option.map_some',
    Entry.afterCall_stores]
  rfl

theorem racing_initialisations_trap :
    (∀ (system : System) (entry : Entry), system.storageState = .initialised ⟨none⟩ →
        system.step (.start entry) =
          some (.suspended entry, { system with awaiting := system.awaiting ++ [entry] })) ∧
      ∀ (system next : System) (index : Nat) (reply : RawRandReply) (outcome : Outcome)
        (salt : Salt),
        system.storageState = .initialised ⟨some salt⟩ →
          system.step (.resume index reply) = some (outcome, next) →
            (∃ entry message, outcome = .trapped entry message) ∧
              next.storageState = system.storageState := by
  refine ⟨fun system entry unset => ?_, fun system next index reply outcome salt set stepped => ?_⟩
  · cases entry <;> simp only [System.step, unset] <;> rfl
  · obtain ⟨entry, ⟨message, rfl, same, -⟩ | ⟨-, _, -, unset, -⟩⟩ := System.step_resume stepped
    · exact ⟨⟨entry, message, rfl⟩, same⟩
    · rw [set] at unset
      cases unset

theorem System.run_cons_eq_some {event : Event} {events : List Event} {outcomes : List Outcome} :
    system.run (event :: events) = some (outcomes, final) ↔
      ∃ outcome next laterOutcomes, system.step event = some (outcome, next) ∧
        next.run events = some (laterOutcomes, final) ∧ outcomes = outcome :: laterOutcomes := by
  simp only [System.run, bind, Option.bind_eq_some, pure, Option.some.injEq, Prod.mk.injEq]
  constructor
  · rintro ⟨⟨outcome, next⟩, stepped, ⟨laterOutcomes, _⟩, ran, rfl, rfl⟩
    exact ⟨outcome, next, laterOutcomes, stepped, ran, rfl⟩
  · rintro ⟨outcome, next, laterOutcomes, stepped, ran, rfl⟩
    exact ⟨(outcome, next), stepped, (laterOutcomes, final), ran, rfl, rfl⟩

/-- The replies that reached the resumed executions of a run that returned. -/
def returnedReplies (events : List Event) (outcomes : List Outcome) : List RawRandReply :=
  (events.zip outcomes).filterMap fun
    | (.resume _ reply, .returned _) => some reply
    | _ => none

/-- Of executions racing to initialise the salt, at most one resumed execution
returns and every other traps: the one that returns, if any, resumed on a
storage without a salt and stored the bytes of its reply, which are the salt
at the end of the run. -/
theorem at_most_one_resume_returns {events : List Event} {outcomes : List Outcome}
    (ran : system.run events = some (outcomes, final)) :
    (∀ index reply outcome, (Event.resume index reply, outcome) ∈ events.zip outcomes →
      (∃ entry, outcome = .returned entry) ∨ ∃ entry message, outcome = .trapped entry message) ∧
    (returnedReplies events outcomes = [] ∨
      system.storageState = .initialised ⟨none⟩ ∧
        ∃ salt : Salt, returnedReplies events outcomes = [.ok salt.bytes] ∧
          final.storageState = .initialised ⟨some salt⟩) := by
  induction events generalizing system outcomes with
  | nil =>
      obtain ⟨rfl, -⟩ := Prod.mk.inj (Option.some.inj ran)
      exact ⟨fun _ _ _ member => (nomatch member), .inl rfl⟩
  | cons event events induction =>
      obtain ⟨outcome, next, laterOutcomes, stepped, rest, rfl⟩ := System.run_cons_eq_some.mp ran
      obtain ⟨resumes, replies⟩ := induction rest
      have tail : returnedReplies events laterOutcomes = [] ∨
          system.storageState = .initialised ⟨none⟩ ∧
            ∃ salt : Salt, returnedReplies events laterOutcomes = [.ok salt.bytes] ∧
              final.storageState = .initialised ⟨some salt⟩ := by
        rcases replies with none | ⟨unset, found⟩
        · exact .inl none
        · rcases (System.step_saltStep stepped).1 with same | ⟨_, -, written⟩
          · exact .inr ⟨same ▸ unset, found⟩
          · rw [written] at unset
            cases unset
      have first : ∀ index reply resumed,
          (Event.resume index reply, resumed) ∈ (event, outcome) :: events.zip laterOutcomes →
            (∃ entry, resumed = .returned entry) ∨
              ∃ entry message, resumed = .trapped entry message := by
        intro index reply resumed member
        rcases List.mem_cons.mp member with same | member
        · obtain ⟨rfl, rfl⟩ := Prod.mk.inj same
          obtain ⟨entry, ⟨message, rfl, -⟩ | ⟨rfl, -⟩⟩ := System.step_resume stepped
          · exact .inr ⟨entry, message, rfl⟩
          · exact .inl ⟨entry, rfl⟩
        · exact resumes index reply resumed member
      refine ⟨first, ?_⟩
      cases event with
      | start entry => exact tail
      | resume index reply =>
          obtain ⟨entry, ⟨message, rfl, -⟩ | ⟨rfl, salt, replied, unset, written⟩⟩ :=
            System.step_resume stepped
          · exact tail
          refine .inr ⟨unset, salt, ?_, ?_⟩
          · rcases replies with none | ⟨unsetNext, -⟩
            · show reply :: returnedReplies events laterOutcomes = _
              rw [none, replied]
            · rw [written] at unsetNext
              cases unsetNext
          · have kept := (System.run_saltStep rest).1
            rw [written] at kept
            exact kept.of_set

theorem racing_ensureSaltSet_executions :
    let events := [.start .ensureSaltSet, .start .ensureSaltSet,
      .resume 0 (.ok zeroSalt.bytes), .resume 0 (.ok (List.replicate 32 1))]
    let outcomes := [.suspended .ensureSaltSet, .suspended .ensureSaltSet,
      .returned .ensureSaltSet, .trapped .ensureSaltSet "update_salt: salt already set"]
    System.run ⟨.initialised ⟨none⟩, []⟩ events =
        some (outcomes, ⟨.initialised ⟨some zeroSalt⟩, []⟩) ∧
      (∀ index reply outcome, (Event.resume index reply, outcome) ∈ events.zip outcomes →
        (∃ entry, outcome = .returned entry) ∨ ∃ entry message, outcome = .trapped entry message) ∧
      (returnedReplies events outcomes = [] ∨
        StorageState.initialised ⟨none⟩ = .initialised ⟨none⟩ ∧
          ∃ salt : Salt, returnedReplies events outcomes = [.ok salt.bytes] ∧
            StorageState.initialised ⟨some zeroSalt⟩ = .initialised ⟨some salt⟩) :=
  have ran : System.run ⟨.initialised ⟨none⟩, []⟩
      [.start .ensureSaltSet, .start .ensureSaltSet,
        .resume 0 (.ok zeroSalt.bytes), .resume 0 (.ok (List.replicate 32 1))] =
      some ([.suspended .ensureSaltSet, .suspended .ensureSaltSet,
        .returned .ensureSaltSet, .trapped .ensureSaltSet "update_salt: salt already set"],
        ⟨.initialised ⟨some zeroSalt⟩, []⟩) := rfl
  ⟨ran, at_most_one_resume_returns ran⟩

end Runs

end InternetIdentity.State
