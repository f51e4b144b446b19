import Mathlib

namespace InternetIdentity.State

/-! # The archive status cache

`cached_archive_status` of `state.rs` returns the status that
`cache_archive_status` stored last, unless `invalidate_archive_status_cache`
dropped it or it is more than an hour old.  Times are the `u64` nanoseconds
of `ic_cdk::api::time`, and the age is a `u64` subtraction, so both are
`UInt64` here.  The canister's clock does not go back, so a status cached
from an earlier `time()` has a timestamp at most the current time; under that
assumption the age is the plain difference and no subtraction wraps.  Over
a run of calls on the cell the assumption is the guard of a step, and every
status read is then at most an hour old.
-/

/-- Modelled from the spec: `ArchiveStatusCache` is declared in `archive.rs`,
not under src/.  The cache reads only its `timestamp`; what else it holds is
the parameter `Status`. -/
structure ArchiveStatusCache (Status : Type) where
  timestamp : UInt64
  status : Status
deriving DecidableEq, Repr

def archiveStatusCacheLifetime : UInt64 := 60 * 60 * 1000000000

section Cache

variable {Status : Type}

/-- `cached_archive_status`, on the cache cell and the current `time()`. -/
def cachedArchiveStatus (cache : Option (ArchiveStatusCache Status)) (now : UInt64) :
    Option (ArchiveStatusCache Status) :=
  match cache with
  | none => none
  | some cachedStatus =>
      if now - cachedStatus.timestamp > archiveStatusCacheLifetime then none else some cachedStatus

theorem cachedArchiveStatus_some (cachedStatus : ArchiveStatusCache Status) {now : UInt64}
    (taken : cachedStatus.timestamp ≤ now) :
    cachedArchiveStatus (some cachedStatus) now =
      if now.toNat ≤ cachedStatus.timestamp.toNat + 3600000000000 then some cachedStatus
      else none := by
  have age : (now - cachedStatus.timestamp).toNat = now.toNat - cachedStatus.timestamp.toNat :=
    UInt64.toNat_sub_of_le _ _ taken
  have lifetime : archiveStatusCacheLifetime.toNat = 3600000000000 := rfl
  have ordered : cachedStatus.timestamp.toNat ≤ now.toNat := taken
  have expired : now - cachedStatus.timestamp > archiveStatusCacheLifetime ↔
      ¬now.toNat ≤ cachedStatus.timestamp.toNat + 3600000000000 := by
    change archiveStatusCacheLifetime.toNat < (now - cachedStatus.timestamp).toNat ↔ _
    omega
  simp only [cachedArchiveStatus, expired, ite_not]

/-- A cached status that has expired is not returned at any later time. -/
theorem cachedArchiveStatus_stale_later (cachedStatus : ArchiveStatusCache Status)
    {now later : UInt64} (taken : cachedStatus.timestamp ≤ now) (afterwards : now ≤ later)
    (stale : cachedArchiveStatus (some cachedStatus) now = none) :
    cachedArchiveStatus (some cachedStatus) later = none := by
  have laterTaken : cachedStatus.timestamp ≤ later := UInt64.le_trans taken afterwards
  have ordered : now.toNat ≤ later.toNat := afterwards
  have expired : ¬now.toNat ≤ cachedStatus.timestamp.toNat + 3600000000000 := fun fresh => by
    simp [cachedArchiveStatus_some cachedStatus taken, fresh] at stale
  rw [cachedArchiveStatus_some cachedStatus laterTaken, if_neg (by omega)]

theorem status_cached_at_zero_stale_later :
    (⟨0, ()⟩ : ArchiveStatusCache Unit).timestamp ≤ 3600000000001 ∧
      (3600000000001 : UInt64) ≤ 7200000000000 ∧
      cachedArchiveStatus (some ⟨0, ()⟩) 3600000000001 = none ∧
      cachedArchiveStatus (some (⟨0, ()⟩ : ArchiveStatusCache Unit)) 7200000000000 = none := by
  refine ⟨?taken, ?afterwards, ?stale,
    cachedArchiveStatus_stale_later _ ?taken ?afterwards ?stale⟩ <;> decide

theorem cachedArchiveStatus_eq_some {cache : Option (ArchiveStatusCache Status)}
    {cached : ArchiveStatusCache Status} {now : UInt64}
    (stamped : ∀ cachedStatus, cache = some cachedStatus → cachedStatus.timestamp ≤ now) :
    cachedArchiveStatus cache now = some cached ↔
      cache = some cached ∧ now.toNat ≤ cached.timestamp.toNat + 3600000000000 := by
  cases cache with
  | none => simp [cachedArchiveStatus]
  | some cachedStatus =>
      rw [cachedArchiveStatus_some cachedStatus (stamped cachedStatus rfl)]
      split_ifs with fresh
      · simp only [Option.some.injEq]
        exact ⟨fun same => ⟨same, same ▸ fresh⟩, fun ⟨same, _⟩ => same⟩
      · simp only [Option.some.injEq, false_iff, not_and]
        exact fun same => same ▸ fresh

/-! ## The cache over a run of calls

`cache_archive_status` and `invalidate_archive_status_cache` overwrite the
cell, and `cached_archive_status` reads it at the canister's `time()`.  That
clock does not go back, and a status is cached with a timestamp read from it,
so never one after the call that caches it: both facts of the platform are
the guards of a step.
-/

inductive CacheCall (Status : Type) where
  | cacheArchiveStatus (archiveStatus : ArchiveStatusCache Status)
  | invalidateArchiveStatusCache
  | cachedArchiveStatus

inductive CacheOutcome (Status : Type) where
  | written
  | returned (now : UInt64) (cached : Option (ArchiveStatusCache Status))
deriving DecidableEq

structure CacheState (Status : Type) where
  archiveStatusCache : Option (ArchiveStatusCache Status)
  clock : UInt64
deriving DecidableEq

/-- One call at canister time `now`; `none` where the clock would go back or
a status would be stamped after its call. -/
def CacheState.step (state : CacheState Status) (now : UInt64) :
    CacheCall Status → Option (CacheOutcome Status × CacheState Status)
  | .cacheArchiveStatus archiveStatus =>
      if state.clock ≤ now ∧ archiveStatus.timestamp ≤ now then
        some (.written, ⟨some archiveStatus, now⟩)
      else none
  | .invalidateArchiveStatusCache =>
      if state.clock ≤ now then some (.written, ⟨none, now⟩) else none
  | .cachedArchiveStatus =>
      if state.clock ≤ now then
        some (.returned now (cachedArchiveStatus state.archiveStatusCache now),
          { state with clock := now })
      else none

def CacheState.run (state : CacheState Status) :
    List (UInt64 × CacheCall Status) → Option (List (CacheOutcome Status) × CacheState Status)
  | [] => some ([], state)
  | (now, call) :: calls => do
      let (outcome, next) ← state.step now call
      let (outcomes, final) ← next.run calls
      pure (outcome :: outcomes, final)

def CacheState.Stamped (state : CacheState Status) : Prop :=
  ∀ cachedStatus, state.archiveStatusCache = some cachedStatus →
    cachedStatus.timestamp ≤ state.clock

def ArchiveStatusCache.FreshAt (cachedStatus : ArchiveStatusCache Status) (now : UInt64) : Prop :=
  cachedStatus.timestamp.toNat ≤ now.toNat ∧
    now.toNat ≤ cachedStatus.timestamp.toNat + 3600000000000

variable {state next : CacheState Status} {now : UInt64} {call : CacheCall Status}
  {outcome : CacheOutcome Status}

theorem CacheState.step_stamped (stamped : state.Stamped)
    (stepped : state.step now call = some (outcome, next)) :
    next.Stamped ∧
      ∀ moment cached, outcome = .returned moment (some cached) → cached.FreshAt moment := by
  cases call with
  | cacheArchiveStatus archiveStatus =>
      simp only [CacheState.step, Option.ite_none_right_eq_some, Option.some.injEq] at stepped
      obtain ⟨⟨-, taken⟩, rfl, rfl⟩ := stepped
      exact ⟨fun _ cached => Option.some.inj cached ▸ taken,
        fun _ _ written => nomatch written⟩
  | invalidateArchiveStatusCache =>
      simp only [CacheState.step, Option.ite_none_right_eq_some, Option.some.injEq] at stepped
      obtain ⟨-, rfl, rfl⟩ := stepped
      exact ⟨fun _ cached => (nomatch cached), fun _ _ written => nomatch written⟩
  | cachedArchiveStatus =>
      simp only [CacheState.step, Option.ite_none_right_eq_some, Option.some.injEq] at stepped
      obtain ⟨later, rfl, rfl⟩ := stepped
      have stampedNow : ∀ cachedStatus, state.archiveStatusCache = some cachedStatus →
          cachedStatus.timestamp ≤ now := fun cachedStatus cached =>
        UInt64.le_trans (stamped cachedStatus cached) later
      refine ⟨stampedNow, fun moment cached returned => ?_⟩
      simp only [CacheOutcome.returned.injEq] at returned
      obtain ⟨rfl, read⟩ := returned
      obtain ⟨cell, fresh⟩ := (cachedArchiveStatus_eq_some stampedNow).mp read
      exact ⟨stampedNow cached cell, fresh⟩

/-- Under the platform's clock, `cached_archive_status` never returns a
status stamped after the call or more than an hour before it, over any run of
calls on the cache. -/
theorem cachedArchiveStatus_run_fresh {calls : List (UInt64 × CacheCall Status)}
    {outcomes : List (CacheOutcome Status)} {final : CacheState Status}
    (stamped : state.Stamped) (ran : state.run calls = some (outcomes, final)) :
    ∀ moment cached, .returned moment (some cached) ∈ outcomes → cached.FreshAt moment := by
  induction calls generalizing state outcomes with
  | nil =>
      simp only [CacheState.run, Option.some.injEq, Prod.mk.injEq] at ran
      obtain ⟨rfl, rfl⟩ := ran
      simp
  | cons event calls induction =>
      obtain ⟨now, call⟩ := event
      simp only [CacheState.run, bind, Option.bind_eq_some, pure, Option.some.injEq,
        Prod.mk.injEq] at ran
      obtain ⟨⟨outcome, next⟩, stepped, ⟨later, _⟩, ran, rfl, rfl⟩ := ran
      obtain ⟨stampedNext, returned⟩ := CacheState.step_stamped stamped stepped
      intro moment cached member
      rcases List.mem_cons.mp member with isOutcome | member
      · exact returned moment cached isOutcome.symm
      · exact induction stampedNext ran moment cached member

theorem status_read_at_the_hour :
    (⟨none, 0⟩ : CacheState Unit).Stamped ∧
      CacheState.run ⟨none, 0⟩
          [(0, .cacheArchiveStatus ⟨0, ()⟩), (3600000000000, .cachedArchiveStatus)] =
        some ([.written, .returned 3600000000000 (some ⟨0, ()⟩)], ⟨some ⟨0, ()⟩, 3600000000000⟩) ∧
      (⟨0, ()⟩ : ArchiveStatusCache Unit).FreshAt 3600000000000 :=
  have stamped : (⟨none, 0⟩ : CacheState Unit).Stamped := fun _ cached => nomatch cached
  have ran : CacheState.run ⟨none, 0⟩
      [(0, .cacheArchiveStatus ⟨0, ()⟩), (3600000000000, .cachedArchiveStatus)] =
        some ([.written, .returned 3600000000000 (some ⟨0, ()⟩)],
          ⟨some ⟨0, ()⟩, 3600000000000⟩) := rfl
  ⟨stamped, ran, cachedArchiveStatus_run_fresh stamped ran _ _ (by simp)⟩

end Cache

end InternetIdentity.State
