import InternetIdentity.Storage.Anchor

namespace InternetIdentity.Storage

/-! # Activity of an anchor

`last_activity` sorts the usage timestamps and pops the largest;
`domain_activity_since` folds the origins of the devices used since a time
into three flags.  Both are characterised here without their traversal
order: the first is the maximum of the timestamps that are set, the second
depends only on which origins the recently used devices have.
-/

/-- Modelled from the spec: `IC0_APP_ORIGIN` of the crate root, not under
src/; the origin of the identity.ic0.app domain, as the test framework's
second device registers it. -/
def ic0AppOrigin : String := "https://identity.ic0.app"

/-- Modelled from the spec: `INTERNETCOMPUTER_ORG_ORIGIN` of the crate root,
not under src/; the origin the test framework's first device registers. -/
def internetcomputerOrgOrigin : String := "https://identity.internetcomputer.org"

inductive DomainActivity where
  | none
  | nonIIDomain
  | ic0App
  | internetComputerOrg
  | bothIIDomains
deriving DecidableEq, Repr

structure Accumulator where
  ic0App : Bool := false
  internetComputerOrg : Bool := false
  nonII : Bool := false
deriving DecidableEq, Repr

def Accumulator.assign (acc : Accumulator) (device : Device) : Accumulator :=
  match device.origin with
  | none => { acc with nonII := true }
  | some origin =>
      if origin = ic0AppOrigin then { acc with ic0App := true }
      else if origin = internetcomputerOrgOrigin then { acc with internetComputerOrg := true }
      else { acc with nonII := true }

/-- Rust's derived `Ord` on `Option<Timestamp>`: `None` is below every `Some`. -/
def optionLe : Option Timestamp → Option Timestamp → Bool
  | none, _ => true
  | some _, none => false
  | some earlier, some later => decide (earlier ≤ later)

def OptionLe (earlier later : Option Timestamp) : Prop := optionLe earlier later = true

instance : DecidableRel OptionLe := fun _ _ => inferInstanceAs (Decidable (_ = true))

theorem optionLe_total (earlier later : Option Timestamp) :
    OptionLe earlier later ∨ OptionLe later earlier := by
  cases earlier <;> cases later <;>
    simp only [OptionLe, optionLe, decide_eq_true_eq, Nat.le_total, true_or, or_true]

theorem optionLe_trans {first second third : Option Timestamp} (firstSecond : OptionLe first second)
    (secondThird : OptionLe second third) : OptionLe first third := by
  cases first <;> cases second <;> cases third <;>
    simp_all only [OptionLe, optionLe, decide_eq_true_eq, Bool.false_eq_true]
  exact Nat.le_trans firstSecond secondThird

instance : IsTotal (Option Timestamp) OptionLe := ⟨optionLe_total⟩

instance : IsTrans (Option Timestamp) OptionLe := ⟨fun _ _ _ => optionLe_trans⟩

namespace Anchor

/-- `sort_unstable` leaves the unique sorted permutation of the timestamps,
which insertion sort computes as well; `pop().unwrap_or_default()` reads its
last element, `None` for no devices. -/
def lastActivity (self : Anchor) : Option Timestamp :=
  let timestamps := self.devices.map (·.lastUsageTimestamp)
  ((timestamps.insertionSort OptionLe).getLast?).getD none

def accumulateActivity (self : Anchor) (timestamp : Timestamp) : Accumulator :=
  (self.devices.filter fun device =>
      (device.lastUsageTimestamp.map fun time => decide (time ≥ timestamp)).getD false).foldl
    Accumulator.assign {}

/-- Activity on other domains is dropped when there is activity on an II
domain. -/
def domainActivitySince (self : Anchor) (timestamp : Timestamp) : DomainActivity :=
  let result := self.accumulateActivity timestamp
  match result.ic0App, result.internetComputerOrg, result.nonII with
  | true, true, _ => .bothIIDomains
  | true, false, _ => .ic0App
  | false, true, _ => .internetComputerOrg
  | false, false, true => .nonIIDomain
  | false, false, false => .none

end Anchor

/-! ## The last activity is the latest timestamp -/

theorem getLast_sorted_eq_max {sorted timestamps : List (Option Timestamp)}
    (ordered : sorted.Sorted OptionLe) (perm : sorted.Perm timestamps) :
    sorted.getLast?.getD none = (timestamps.filterMap id).max? := by
  rcases List.eq_nil_or_concat sorted with rfl | ⟨earlier, last, rfl⟩
  · simp [← List.Perm.nil_eq perm]
  · rw [List.concat_eq_append] at ordered perm
    have bounded : ∀ time ∈ timestamps, OptionLe time last := by
      intro time member
      rcases List.mem_append.mp (perm.mem_iff.mpr member) with before | isLast
      · exact (List.pairwise_append.mp ordered).2.2 time before last (List.mem_singleton_self _)
      · rw [List.mem_singleton.mp isLast]
        exact refl_of OptionLe last
    have lastMember : last ∈ timestamps := perm.subset (by simp)
    rw [List.concat_eq_append, List.getLast?_concat]
    cases last with
    | none =>
        have unset : timestamps.filterMap id = [] := List.filterMap_eq_nil_iff.mpr
          fun time member => by
            cases time with
            | none => rfl
            | some time => exact absurd (bounded _ member) (by simp [OptionLe, optionLe])
        simp [unset]
    | some latest =>
        refine (List.max?_eq_some_iff'.mpr ⟨List.mem_filterMap.mpr ⟨_, lastMember, rfl⟩, ?_⟩).symm
        intro time member
        obtain ⟨_, member, rfl⟩ := List.mem_filterMap.mp member
        simpa [OptionLe, optionLe] using bounded _ member

theorem Anchor.lastActivity_eq_max (self : Anchor) :
    self.lastActivity = (self.devices.filterMap (·.lastUsageTimestamp)).max? := by
  rw [show self.devices.filterMap (·.lastUsageTimestamp) =
    (self.devices.map (·.lastUsageTimestamp)).filterMap id by simp [List.filterMap_map]]
  exact getLast_sorted_eq_max (List.sorted_insertionSort _ _) (List.perm_insertionSort _ _)

theorem Anchor.lastActivity_eq_none_iff (self : Anchor) :
    self.lastActivity = none ↔ ∀ device ∈ self.devices, device.lastUsageTimestamp = none := by
  simp [self.lastActivity_eq_max, List.filterMap_eq_nil_iff]

theorem Anchor.lastActivity_eq_some_iff (self : Anchor) (latest : Timestamp) :
    self.lastActivity = some latest ↔
      (∃ device ∈ self.devices, device.lastUsageTimestamp = some latest) ∧
        ∀ device ∈ self.devices, ∀ time, device.lastUsageTimestamp = some time → time ≤ latest := by
  rw [self.lastActivity_eq_max, List.max?_eq_some_iff']
  simp only [List.mem_filterMap]
  exact and_congr_right fun _ =>
    ⟨fun bound device member time stamped => bound time ⟨device, member, stamped⟩,
      fun bound time ⟨device, member, stamped⟩ => bound device member time stamped⟩

/-- `last_activity` is `None` exactly when no device has a usage timestamp,
and otherwise the latest one. -/
theorem Anchor.lastActivity_spec (self : Anchor) :
    (self.lastActivity = none ↔ ∀ device ∈ self.devices, device.lastUsageTimestamp = none) ∧
      ∀ latest, self.lastActivity = some latest ↔
        (∃ device ∈ self.devices, device.lastUsageTimestamp = some latest) ∧
          ∀ device ∈ self.devices, ∀ time, device.lastUsageTimestamp = some time → time ≤ latest :=
  ⟨self.lastActivity_eq_none_iff, self.lastActivity_eq_some_iff⟩

theorem Anchor.le_lastActivity {self : Anchor} {device : Device} {time : Timestamp}
    (member : device ∈ self.devices) (stamped : device.lastUsageTimestamp = some time) :
    ∃ latest, self.lastActivity = some latest ∧ time ≤ latest := by
  cases isLatest : self.lastActivity with
  | none => simp [(self.lastActivity_eq_none_iff.mp isLatest) device member] at stamped
  | some latest =>
      exact ⟨latest, rfl, ((self.lastActivity_eq_some_iff latest).mp isLatest).2 device member time
        stamped⟩

/-- Recording a usage no earlier than the last activity makes it the last
activity. -/
theorem Anchor.setDeviceUsageTimestamp_lastActivity {self after : Anchor} {deviceKey : DeviceKey}
    {time : Timestamp}
    (used : (Anchor.setDeviceUsageTimestamp deviceKey time).run self = .ok () after)
    (later : ∀ latest, self.lastActivity = some latest → latest ≤ time) :
    after.lastActivity = some time := by
  obtain ⟨index, -, rfl⟩ := Anchor.setDeviceUsageTimestamp_run_eq_ok.mp used
  refine (Anchor.lastActivity_eq_some_iff _ time).mpr
    ⟨⟨_, List.mem_set _ _ index.isLt _, rfl⟩, fun device member stamp stamped => ?_⟩
  rcases List.mem_or_eq_of_mem_set member with member | rfl
  · obtain ⟨latest, isLatest, bound⟩ := Anchor.le_lastActivity member stamped
    exact bound.trans (later latest isLatest)
  · exact le_of_eq (Option.some.inj stamped.symm)

theorem using_device_data_1_again :
    (Anchor.setDeviceUsageTimestamp pubkey1 5).run
        ⟨[{ Device.ofDeviceData deviceData1 with lastUsageTimestamp := some 3 }]⟩ =
      .ok () ⟨[{ Device.ofDeviceData deviceData1 with lastUsageTimestamp := some 5 }]⟩ ∧
    (∀ latest,
        (Anchor.mk
            [{ Device.ofDeviceData deviceData1 with lastUsageTimestamp := some 3 }]).lastActivity =
          some latest → latest ≤ 5) ∧
    (Anchor.mk
        [{ Device.ofDeviceData deviceData1 with lastUsageTimestamp := some 5 }]).lastActivity =
      some 5 := by
  refine ⟨?used, ?later, Anchor.setDeviceUsageTimestamp_lastActivity ?used ?later⟩
  · rfl
  · rintro latest ⟨⟩
    decide

/-! ## Domain activity depends only on the origins in use -/

def ActiveSince (timestamp : Timestamp) (device : Device) : Prop :=
  ∃ time, device.lastUsageTimestamp = some time ∧ timestamp ≤ time

def ActiveOn (devices : List Device) (timestamp : Timestamp) (origin : String) : Prop :=
  ∃ device ∈ devices, ActiveSince timestamp device ∧ device.origin = some origin

def ActiveElsewhere (devices : List Device) (timestamp : Timestamp) : Prop :=
  ∃ device ∈ devices, ActiveSince timestamp device ∧
    device.origin ≠ some ic0AppOrigin ∧ device.origin ≠ some internetcomputerOrgOrigin

theorem ic0AppOrigin_ne : ic0AppOrigin ≠ internetcomputerOrgOrigin := by decide

theorem Accumulator.assign_eq (acc : Accumulator) (device : Device) :
    acc.assign device =
      { ic0App := acc.ic0App || device.origin == some ic0AppOrigin
        internetComputerOrg :=
          acc.internetComputerOrg || device.origin == some internetcomputerOrgOrigin
        nonII := acc.nonII || (device.origin != some ic0AppOrigin &&
          device.origin != some internetcomputerOrgOrigin) } := by
  unfold Accumulator.assign
  split
  · rename_i absent
    simp [absent]
  · rename_i origin present
    by_cases ic0 : origin = ic0AppOrigin
    · subst ic0
      simp [present, ic0AppOrigin_ne]
    · by_cases org : origin = internetcomputerOrgOrigin
      · subst org
        simp [present, ic0AppOrigin_ne.symm]
      · simp [present, ic0, org]

theorem foldl_assign (devices : List Device) (acc : Accumulator) :
    devices.foldl Accumulator.assign acc =
      { ic0App := acc.ic0App || devices.any (·.origin == some ic0AppOrigin)
        internetComputerOrg :=
          acc.internetComputerOrg || devices.any (·.origin == some internetcomputerOrgOrigin)
        nonII := acc.nonII || devices.any fun device =>
          device.origin != some ic0AppOrigin &&
            device.origin != some internetcomputerOrgOrigin } := by
  induction devices generalizing acc with
  | nil => simp
  | cons device devices induction =>
      rw [List.foldl_cons, induction, Accumulator.assign_eq]
      simp only [List.any_cons, Bool.or_assoc]

theorem activeFilter_eq_true {timestamp : Timestamp} {device : Device} :
    (device.lastUsageTimestamp.map fun time => decide (time ≥ timestamp)).getD false = true ↔
      ActiveSince timestamp device := by
  cases stamp : device.lastUsageTimestamp <;> simp [ActiveSince, stamp]

theorem Anchor.accumulateActivity_flags (self : Anchor) (timestamp : Timestamp) :
    ((self.accumulateActivity timestamp).ic0App = true ↔
        ActiveOn self.devices timestamp ic0AppOrigin) ∧
      ((self.accumulateActivity timestamp).internetComputerOrg = true ↔
        ActiveOn self.devices timestamp internetcomputerOrgOrigin) ∧
      ((self.accumulateActivity timestamp).nonII = true ↔
        ActiveElsewhere self.devices timestamp) := by
  simp [Anchor.accumulateActivity, foldl_assign, ActiveOn, ActiveElsewhere, activeFilter_eq_true]

theorem exists_activeSince_iff {devices : List Device} {timestamp : Timestamp} :
    (∃ device ∈ devices, ActiveSince timestamp device) ↔
      ActiveOn devices timestamp ic0AppOrigin ∨
        ActiveOn devices timestamp internetcomputerOrgOrigin ∨
          ActiveElsewhere devices timestamp := by
  constructor
  · rintro ⟨device, member, active⟩
    by_cases ic0 : device.origin = some ic0AppOrigin
    · exact .inl ⟨device, member, active, ic0⟩
    by_cases org : device.origin = some internetcomputerOrgOrigin
    · exact .inr (.inl ⟨device, member, active, org⟩)
    · exact .inr (.inr ⟨device, member, active, ic0, org⟩)
  · rintro (⟨device, member, active, -⟩ | ⟨device, member, active, -⟩ |
        ⟨device, member, active, -⟩) <;>
      exact ⟨device, member, active⟩

theorem Anchor.accumulateActivity_perm {self other : Anchor}
    (perm : other.devices.Perm self.devices) (timestamp : Timestamp) :
    other.accumulateActivity timestamp = self.accumulateActivity timestamp := by
  obtain ⟨ic0, org, elsewhere⟩ := other.accumulateActivity_flags timestamp
  obtain ⟨ic0', org', elsewhere'⟩ := self.accumulateActivity_flags timestamp
  simp only [ActiveOn, ActiveElsewhere, perm.mem_iff] at ic0 org elsewhere
  generalize other.accumulateActivity timestamp = result at *
  generalize self.accumulateActivity timestamp = result' at *
  cases result; cases result'
  simp only [Accumulator.mk.injEq]
  exact ⟨Bool.eq_iff_iff.mpr (ic0.trans ic0'.symm), Bool.eq_iff_iff.mpr (org.trans org'.symm),
    Bool.eq_iff_iff.mpr (elsewhere.trans elsewhere'.symm)⟩

/-- `domain_activity_since` by the origins of the devices used since
`timestamp`; it depends on the devices, not on their order. -/
theorem Anchor.domainActivitySince_spec (self : Anchor) (timestamp : Timestamp) :
    (self.domainActivitySince timestamp = .bothIIDomains ↔
        ActiveOn self.devices timestamp ic0AppOrigin ∧
          ActiveOn self.devices timestamp internetcomputerOrgOrigin) ∧
      (self.domainActivitySince timestamp = .ic0App ↔
        ActiveOn self.devices timestamp ic0AppOrigin ∧
          ¬ActiveOn self.devices timestamp internetcomputerOrgOrigin) ∧
      (self.domainActivitySince timestamp = .internetComputerOrg ↔
        ¬ActiveOn self.devices timestamp ic0AppOrigin ∧
          ActiveOn self.devices timestamp internetcomputerOrgOrigin) ∧
      (self.domainActivitySince timestamp = .nonIIDomain ↔
        ¬ActiveOn self.devices timestamp ic0AppOrigin ∧
          ¬ActiveOn self.devices timestamp internetcomputerOrgOrigin ∧
            ∃ device ∈ self.devices, ActiveSince timestamp device) ∧
      (self.domainActivitySince timestamp = .none ↔
        ∀ device ∈ self.devices, ¬ActiveSince timestamp device) ∧
      ∀ other : Anchor, other.devices.Perm self.devices →
        other.domainActivitySince timestamp = self.domainActivitySince timestamp := by
  obtain ⟨ic0, org, elsewhere⟩ := self.accumulateActivity_flags timestamp
  have inactive : (∀ device ∈ self.devices, ¬ActiveSince timestamp device) ↔
      ¬∃ device ∈ self.devices, ActiveSince timestamp device := by simp
  rw [inactive, exists_activeSince_iff, ← ic0, ← org, ← elsewhere]
  refine ⟨?_, ?_, ?_, ?_, ?_, fun other perm => by
    simp only [Anchor.domainActivitySince, Anchor.accumulateActivity_perm perm]⟩ <;>
  · unfold Anchor.domainActivitySince
    rcases self.accumulateActivity timestamp with ⟨_ | _, _ | _, _ | _⟩ <;> decide

/-! ## The two activity measures agree -/

theorem Anchor.domainActivitySince_eq_none_iff (self : Anchor) (timestamp : Timestamp) :
    self.domainActivitySince timestamp = .none ↔
      ¬∃ device ∈ self.devices, ActiveSince timestamp device := by
  obtain ⟨ic0, org, elsewhere⟩ := self.accumulateActivity_flags timestamp
  rw [exists_activeSince_iff, ← ic0, ← org, ← elsewhere]
  unfold Anchor.domainActivitySince
  rcases self.accumulateActivity timestamp with ⟨_ | _, _ | _, _ | _⟩ <;> decide

/-- `domain_activity_since(t)` finds no activity exactly when
`last_activity` is unset or earlier than `t`. -/
theorem Anchor.domainActivitySince_none_iff_lastActivity_lt (self : Anchor)
    (timestamp : Timestamp) :
    self.domainActivitySince timestamp = .none ↔
      ∀ latest, self.lastActivity = some latest → latest < timestamp := by
  rw [self.domainActivitySince_eq_none_iff]
  constructor
  · intro inactive latest isLatest
    obtain ⟨⟨device, member, stamped⟩, -⟩ := (self.lastActivity_eq_some_iff latest).mp isLatest
    exact Nat.lt_of_not_le fun since => inactive ⟨device, member, latest, stamped, since⟩
  · rintro before ⟨device, member, time, stamped, since⟩
    obtain ⟨latest, isLatest, bound⟩ := Anchor.le_lastActivity member stamped
    exact absurd (before latest isLatest) (Nat.not_lt.mpr (since.trans bound))

/-! ## Using a device records its activity -/

theorem mem_set_or_eq {devices : List Device} {index : Nat} (bound : index < devices.length)
    {replacement device : Device} (member : device ∈ devices) :
    device ∈ devices.set index replacement ∨ device = devices[index] := by
  obtain ⟨position, within, rfl⟩ := List.getElem_of_mem member
  by_cases same : index = position
  · subst same
    exact .inr rfl
  · exact .inl (List.mem_iff_getElem.mpr
      ⟨position, by simpa using within, List.getElem_set_ne same _⟩)

theorem exists_activeSince_set {devices : List Device} {index : Nat}
    (bound : index < devices.length) {time since : Timestamp} (early : since ≤ time)
    (holds : Option String → Prop) :
    (∃ device ∈ devices.set index { devices[index] with lastUsageTimestamp := some time },
        ActiveSince since device ∧ holds device.origin) ↔
      (∃ device ∈ devices, ActiveSince since device ∧ holds device.origin) ∨
        holds devices[index].origin := by
  have usedMember : { devices[index] with lastUsageTimestamp := some time } ∈
      devices.set index { devices[index] with lastUsageTimestamp := some time } :=
    List.mem_set _ _ bound _
  have usedActive : ActiveSince since { devices[index] with lastUsageTimestamp := some time } :=
    ⟨time, rfl, early⟩
  constructor
  · rintro ⟨device, member, active, origin⟩
    rcases List.mem_or_eq_of_mem_set member with member | rfl
    · exact .inl ⟨device, member, active, origin⟩
    · exact .inr origin
  · rintro (⟨device, member, active, origin⟩ | origin)
    · rcases mem_set_or_eq bound member with member | rfl
      · exact ⟨device, member, active, origin⟩
      · exact ⟨_, usedMember, usedActive, origin⟩
    · exact ⟨_, usedMember, usedActive, origin⟩

theorem Accumulator.eq_of_flags {result other : Accumulator}
    (ic0App : result.ic0App = true ↔ other.ic0App = true)
    (internetComputerOrg : result.internetComputerOrg = true ↔ other.internetComputerOrg = true)
    (nonII : result.nonII = true ↔ other.nonII = true) : result = other := by
  cases result
  cases other
  simp only [Accumulator.mk.injEq]
  exact ⟨Bool.eq_iff_iff.mpr ic0App, Bool.eq_iff_iff.mpr internetComputerOrg,
    Bool.eq_iff_iff.mpr nonII⟩

/-- Using a device at `time` folds it into the activity since any time up to
`time` and takes no other activity away, so some activity is reported. -/
theorem Anchor.setDeviceUsageTimestamp_domainActivity {self after : Anchor}
    {deviceKey : DeviceKey} {time since : Timestamp}
    (used : (Anchor.setDeviceUsageTimestamp deviceKey time).run self = .ok () after)
    (early : since ≤ time) :
    ∃ device, self.device deviceKey = some device ∧
      after.accumulateActivity since = (self.accumulateActivity since).assign device ∧
        after.domainActivitySince since ≠ .none := by
  obtain ⟨index, found, rfl⟩ := Anchor.setDeviceUsageTimestamp_run_eq_ok.mp used
  refine ⟨self.devices[index], Anchor.device_of_deviceIndex found, ?_, ?_⟩
  · obtain ⟨afterIc0, afterOrg, afterElsewhere⟩ := Anchor.accumulateActivity_flags
      ⟨self.devices.set index { self.devices[index] with lastUsageTimestamp := some time }⟩ since
    obtain ⟨ic0, org, elsewhere⟩ := self.accumulateActivity_flags since
    refine Accumulator.eq_of_flags ?_ ?_ ?_ <;>
      simp only [Accumulator.assign_eq, Bool.or_eq_true, beq_iff_eq, Bool.and_eq_true, bne_iff_ne]
    · rw [afterIc0, ic0]
      exact exists_activeSince_set index.isLt early (· = some ic0AppOrigin)
    · rw [afterOrg, org]
      exact exists_activeSince_set index.isLt early (· = some internetcomputerOrgOrigin)
    · rw [afterElsewhere, elsewhere]
      exact exists_activeSince_set index.isLt early fun origin =>
        origin ≠ some ic0AppOrigin ∧ origin ≠ some internetcomputerOrgOrigin
  · rw [Ne, Anchor.domainActivitySince_eq_none_iff, not_not]
    exact ⟨_, List.mem_set _ _ index.isLt _, time, rfl, early⟩

theorem using_device_data_1_since_4 :
    (Anchor.setDeviceUsageTimestamp pubkey1 5).run
        ⟨[{ Device.ofDeviceData deviceData1 with lastUsageTimestamp := some 3 }]⟩ =
      .ok () ⟨[{ Device.ofDeviceData deviceData1 with lastUsageTimestamp := some 5 }]⟩ ∧
    4 ≤ 5 ∧
    ∃ device,
      (Anchor.mk [{ Device.ofDeviceData deviceData1 with lastUsageTimestamp := some 3 }]).device
          pubkey1 = some device ∧
        (Anchor.mk [{ Device.ofDeviceData deviceData1 with
            lastUsageTimestamp := some 5 }]).accumulateActivity 4 =
          ((Anchor.mk [{ Device.ofDeviceData deviceData1 with
            lastUsageTimestamp := some 3 }]).accumulateActivity 4).assign device ∧
        (Anchor.mk [{ Device.ofDeviceData deviceData1 with
            lastUsageTimestamp := some 5 }]).domainActivitySince 4 ≠ .none :=
  have used : (Anchor.setDeviceUsageTimestamp pubkey1 5).run
      ⟨[{ Device.ofDeviceData deviceData1 with lastUsageTimestamp := some 3 }]⟩ =
        .ok () ⟨[{ Device.ofDeviceData deviceData1 with lastUsageTimestamp := some 5 }]⟩ := rfl
  ⟨used, by decide, Anchor.setDeviceUsageTimestamp_domainActivity used (by decide)⟩

end InternetIdentity.Storage
