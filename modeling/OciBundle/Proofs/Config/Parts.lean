/-
**Actions that are confined to parts of a configuration.**

A configuration falls into parts that different actions are about. What is configured for Linux is
made on demand: its parts are those of the empty one while it is missing, and whether it is there is
kept apart.

* `Config.Part`, `Config.only`: the parts, and a configuration with one of them alone.
* `Config.ext_only`: a configuration is its parts, and whether something is configured for Linux.
* `Config.Confined`: an action leaves all other parts, and looks at none of them.
* `Confined.andThen`, `Confined.mono`: confined actions one after the other, and to more parts.
* `Confined.commute`: actions on different parts give the same in both orders.
-/

import Mathlib.Data.List.Basic
import OciBundle.Config.Update
import OciBundle.Proofs.Result

namespace OciBundle

/-! ### Parts -/

/-- The parts of what is configured for Linux. -/
inductive Linux.Part where
  | namespaces | settings | resources | seccomp
  deriving DecidableEq

/-- The parts of a configuration. -/
inductive Config.Part where
  | general | process | mounts | hooks
  | linux (part : Linux.Part)
  deriving DecidableEq

namespace Linux

/-- Puts a part of new settings in place of the old one. -/
def put (part : Part) (new old : Linux) : Linux :=
  match part with
  | .namespaces =>
    { old with
      namespaces := new.namespaces
      uidMappings := new.uidMappings
      gidMappings := new.gidMappings }
  | .settings =>
    { old with
      sysctl := new.sysctl
      cgroupsPath := new.cgroupsPath
      devices := new.devices
      rootfsPropagation := new.rootfsPropagation
      maskedPaths := new.maskedPaths
      readonlyPaths := new.readonlyPaths
      mountLabel := new.mountLabel }
  | .resources => { old with resources := new.resources }
  | .seccomp => { old with seccomp := new.seccomp }

/-- One part alone. -/
def only (part : Part) (linux : Linux) : Linux :=
  put part linux default

theorem only_put (part : Part) (new old : Linux) :
    (put part new old).only part = new.only part := by
  cases part <;> rfl

theorem only_put_of_ne {part other : Part} (different : other ≠ part) (new old : Linux) :
    (put part new old).only other = old.only other := by
  cases part <;> cases other <;> first | rfl | exact absurd rfl different

theorem ext_only {first second : Linux} (same : ∀ part, first.only part = second.only part) :
    first = second := by
  have namespaces := same .namespaces
  have settings := same .settings
  have resources := same .resources
  have seccomp := same .seccomp
  cases first
  cases second
  simp_all [only, put]

end Linux

namespace Config

/-- What is configured for Linux; without anything, the empty settings. -/
def linuxOrEmpty (config : Config) : Linux :=
  config.linux.getD default

/-- Puts a part of a new configuration in place of the old one. -/
def put (part : Part) (new old : Config) : Config :=
  match part with
  | .general =>
    { old with
      version := new.version
      platform := new.platform
      root := new.root
      hostname := new.hostname
      annotations := new.annotations }
  | .process => { old with process := new.process }
  | .mounts => { old with mounts := new.mounts }
  | .hooks => { old with hooks := new.hooks }
  | .linux part => { old with linux := some (.put part new.linuxOrEmpty old.linuxOrEmpty) }

/-- One part alone. -/
def only (part : Part) (config : Config) : Config :=
  put part config default

theorem only_put (part : Part) (new old : Config) :
    (put part new old).only part = new.only part := by
  cases part with
  | general | process | mounts | hooks => rfl
  | linux part =>
    exact congrArg (fun linux => { (default : Config) with linux := some linux })
      (Linux.only_put part new.linuxOrEmpty old.linuxOrEmpty)

theorem only_put_of_ne {part other : Part} (different : other ≠ part) (new old : Config) :
    (put part new old).only other = old.only other := by
  cases other with
  | general | process | mounts | hooks => cases part <;> first | rfl | exact absurd rfl different
  | linux other =>
    cases part with
    | general | process | mounts | hooks => rfl
    | linux part =>
      have apart : other ≠ part := fun same => different (congrArg Part.linux same)
      exact congrArg (fun linux => { (default : Config) with linux := some linux })
        (Linux.only_put_of_ne apart new.linuxOrEmpty old.linuxOrEmpty)

/-- **A configuration is its parts**, and whether something is configured for Linux. -/
theorem ext_only {first second : Config} (same : ∀ part, first.only part = second.only part)
    (present : first.linux.isSome = second.linux.isSome) : first = second := by
  have general := same .general
  have process := same .process
  have mounts := same .mounts
  have hooks := same .hooks
  have linux : first.linux = second.linux := by
    have settings : first.linuxOrEmpty = second.linuxOrEmpty := Linux.ext_only fun part =>
      Option.some.inj (congrArg Config.linux (same (.linux part)))
    cases found : first.linux <;> cases found' : second.linux <;>
      simp_all [linuxOrEmpty]
  cases first
  cases second
  simp_all [only, put]

/-- Whether two configurations agree on some parts. -/
def AgreeOn (parts : List Part) (first second : Config) : Prop :=
  ∀ part ∈ parts, first.only part = second.only part

/-! ### Confined actions -/

variable {ε ε' α : Type} {parts : List Part} {act act' : Config → Except ε Config}

/-- Whether an action looks at some parts alone and changes no others. Whether something is
configured for Linux afterwards may depend on this before, but is not looked at. -/
structure Confined (parts : List Part) (act : Config → Except ε Config) : Prop where
  frame : ∀ config after, act config = .ok after →
    ∀ part, part ∉ parts → after.only part = config.only part
  reads : ∀ first second after, AgreeOn parts first second → act first = .ok after →
    ∃ after', act second = .ok after' ∧ AgreeOn parts after after'
  makes : ∃ made : Bool, ∀ config after, act config = .ok after →
    after.linux.isSome = (config.linux.isSome || made)

/-- An action that always fails. -/
theorem confined_error {fault : Config → ε} :
    Confined parts fun config => .error (fault config) where
  frame _ _ done := nomatch done
  reads _ _ _ _ done := nomatch done
  makes := ⟨false, fun _ _ done => nomatch done⟩

/-- A change that leaves all other parts, and makes of a part what it makes of this part alone. -/
theorem confined_change {part : Part} {change : Config → Config} (made : Bool)
    (others : ∀ config other, other ≠ part → (change config).only other = config.only other)
    (alone : ∀ config, (change config).only part = (change (config.only part)).only part)
    (present : ∀ config, (change config).linux.isSome = (config.linux.isSome || made)) :
    Confined [part] fun config => (.ok (change config) : Except ε Config) where
  frame config after done other outside := by
    cases done
    exact others config other fun same => outside (List.mem_singleton.mpr same)
  reads first second after same done := by
    cases done
    refine ⟨_, rfl, List.forall_mem_singleton.mpr ?_⟩
    rw [alone first, alone second, same part List.mem_cons_self]
  makes := by
    refine ⟨made, fun config after done => ?_⟩
    cases done
    exact present config

/-- A change that puts something in place of a part. -/
theorem confined_put {part : Part} {change : Config → Config} (made : Bool)
    (puts : ∀ config, change config = put part (change (config.only part)) config)
    (present : ∀ config, (change config).linux.isSome = (config.linux.isSome || made)) :
    Confined [part] fun config => (.ok (change config) : Except ε Config) := by
  refine confined_change made (fun config other different => ?_) (fun config => ?_) present
  · rw [puts config, only_put_of_ne different]
  · rw [puts config, only_put]

theorem confined_withLinux {part : Linux.Part} {change : Linux → Linux}
    (puts : ∀ linux, change linux = .put part (change (linux.only part)) linux) :
    Confined [.linux part] fun config => (.ok (config.withLinux change) : Except ε Config) := by
  refine confined_put true (fun config => ?_) fun config => (Bool.or_true _).symm
  exact congrArg (fun linux => { config with linux := some linux }) (puts config.linuxOrEmpty)

theorem linuxOrEmpty_mapLinux {config : Config} {change : Linux → Linux}
    (empty : change default = default) :
    (config.mapLinux change).linuxOrEmpty = change config.linuxOrEmpty := by
  rw [linuxOrEmpty, mapLinux, linuxOrEmpty]
  cases config.linux with
  | none => exact empty.symm
  | some linux => rfl

/-- A change of what is configured for Linux, if there is something, that leaves empty settings
alone. -/
theorem confined_mapLinux {part : Linux.Part} {change : Linux → Linux}
    (puts : ∀ linux, change linux = .put part (change (linux.only part)) linux)
    (empty : change default = default) :
    Confined [.linux part] fun config => (.ok (config.mapLinux change) : Except ε Config) := by
  have only_linux (config : Config) (part : Linux.Part) :
      (config.mapLinux change).only (.linux part) =
        { (default : Config) with linux := some ((change config.linuxOrEmpty).only part) } := by
    rw [← linuxOrEmpty_mapLinux empty]
    rfl
  refine confined_change false (fun config other different => ?_) (fun config => ?_)
    fun config => by simp [mapLinux]
  · cases other with
    | general | process | mounts | hooks => rfl
    | linux other =>
      have apart : other ≠ part := fun same => different (congrArg Part.linux same)
      rw [only_linux, puts, Linux.only_put_of_ne apart]
      rfl
  · rw [only_linux, only_linux, puts, Linux.only_put]
    rfl

/-- A choice that does not look at the configuration. -/
theorem Confined.ite {condition : Prop} [Decidable condition] (confined : Confined parts act)
    (confined' : Confined parts act') :
    Confined parts fun config => if condition then act config else act' config := by
  by_cases holds : condition
  · simpa only [if_pos holds] using confined
  · simpa only [if_neg holds] using confined'

/-- A check of what some parts hold. -/
theorem Confined.guard {allowed : Config → Prop} [DecidablePred allowed]
    (looks : ∀ first second, AgreeOn parts first second → (allowed first ↔ allowed second))
    (confined : Confined parts act) (fault : Config → ε) :
    Confined parts fun config => if allowed config then act config else .error (fault config) where
  frame config after done := by
    split at done
    next => exact confined.frame config after done
    next => cases done
  reads first second after same done := by
    split at done
    next holds =>
      rw [if_pos ((looks first second same).mp holds)]
      exact confined.reads first second after same done
    next => cases done
  makes := by
    obtain ⟨made, present⟩ := confined.makes
    refine ⟨made, fun config after done => ?_⟩
    split at done
    next => exact present config after done
    next => cases done

theorem Confined.guard_not {refused : Config → Prop} [DecidablePred refused]
    (looks : ∀ first second, AgreeOn parts first second → (refused first ↔ refused second))
    (confined : Confined parts act) (fault : Config → ε) :
    Confined parts fun config => if refused config then .error (fault config) else act config := by
  have passes := confined.guard (fun first second same => not_congr (looks first second same)) fault
  simpa only [ite_not] using passes

/-- Values that are read before, whatever the configuration is. -/
theorem Confined.bind {step : Except ε α} {next : α → Config → Except ε Config}
    (confined : ∀ value, Confined parts (next value)) :
    Confined parts fun config => step >>= fun value => next value config := by
  cases step with
  | error fault => exact confined_error
  | ok value => exact confined value

theorem Confined.mapError (confined : Confined parts act) (rename : ε → ε') :
    Confined parts fun config => (act config).mapError rename where
  frame config after done := confined.frame config after (eq_ok_of_mapError_eq_ok done)
  reads first second after same done := by
    obtain ⟨after', done', same'⟩ :=
      confined.reads first second after same (eq_ok_of_mapError_eq_ok done)
    exact ⟨after', by rw [done']; rfl, same'⟩
  makes := by
    obtain ⟨made, present⟩ := confined.makes
    exact ⟨made, fun config after done => present config after (eq_ok_of_mapError_eq_ok done)⟩

/-- What is confined to parts is confined to more parts: of the ones in addition it leaves both
configurations as they are. -/
theorem Confined.mono {more : List Part} (confined : Confined parts act) (sub : parts ⊆ more) :
    Confined more act where
  frame config after done part outside :=
    confined.frame config after done part fun inside => outside (sub inside)
  reads first second after same done := by
    obtain ⟨after', done', same'⟩ :=
      confined.reads first second after (fun part inside => same part (sub inside)) done
    refine ⟨after', done', fun part inside => ?_⟩
    by_cases own : part ∈ parts
    · exact same' part own
    · rw [confined.frame first after done part own, confined.frame second after' done' part own]
      exact same part inside
  makes := confined.makes

theorem confined_pure : Confined parts fun config => (.ok config : Except ε Config) where
  frame config after done part _ := by
    cases done
    rfl
  reads first second after same done := by
    cases done
    exact ⟨second, rfl, same⟩
  makes := by
    refine ⟨false, fun config after done => ?_⟩
    cases done
    exact (Bool.or_false _).symm

/-- **Confined actions one after the other.** -/
theorem Confined.andThen (confined : Confined parts act) (confined' : Confined parts act') :
    Confined parts fun config => act config >>= act' where
  frame config after done part outside := by
    obtain ⟨between, here, later⟩ := exists_of_bind_eq_ok done
    rw [confined'.frame between after later part outside,
      confined.frame config between here part outside]
  reads first second after same done := by
    obtain ⟨between, here, later⟩ := exists_of_bind_eq_ok done
    obtain ⟨between', here', same'⟩ := confined.reads first second between same here
    obtain ⟨after', later', same''⟩ := confined'.reads between between' after same' later
    exact ⟨after', by rw [here']; exact later', same''⟩
  makes := by
    obtain ⟨made, present⟩ := confined.makes
    obtain ⟨made', present'⟩ := confined'.makes
    refine ⟨made || made', fun config after done => ?_⟩
    obtain ⟨between, here, later⟩ := exists_of_bind_eq_ok done
    rw [present' between after later, present config between here, Bool.or_assoc]

/-! ### Actions on different parts -/

section Two

variable {parts' : List Part} {config after : Config}

/-- What one order gives, the other one gives. -/
theorem Confined.swap (confined : Confined parts act) (confined' : Confined parts' act')
    (apart : parts.Disjoint parts') (done : act config >>= act' = .ok after) :
    act' config >>= act = .ok after := by
  obtain ⟨between, here, later⟩ := exists_of_bind_eq_ok done
  -- The second action does not see the first one, and the first one does not see the second.
  obtain ⟨between', later', same'⟩ := confined'.reads between config after
    (fun part inside => confined.frame config between here part fun own => apart own inside) later
  obtain ⟨after', here', same⟩ := confined.reads config between' between
    (fun part inside =>
      (confined'.frame config between' later' part fun other => apart inside other).symm) here
  have equal : after' = after := by
    refine ext_only (fun part => ?_) ?_
    · by_cases own : part ∈ parts
      · rw [← same part own]
        exact (confined'.frame between after later part (apart own)).symm
      · rw [confined.frame between' after' here' part own]
        by_cases other : part ∈ parts'
        · exact (same' part other).symm
        · rw [confined'.frame config between' later' part other,
            confined'.frame between after later part other,
            confined.frame config between here part own]
    · obtain ⟨made, present⟩ := confined.makes
      obtain ⟨made', present'⟩ := confined'.makes
      rw [present between' after' here', present' config between' later',
        present' between after later, present config between here, Bool.or_right_comm]
  rw [later', ← equal]
  exact here'

/-- **Actions on different parts give the same in both orders.** -/
theorem Confined.commute (confined : Confined parts act) (confined' : Confined parts' act')
    (apart : parts.Disjoint parts') :
    act config >>= act' = .ok after ↔ act' config >>= act = .ok after :=
  ⟨confined.swap confined' apart, confined'.swap confined fun _ other own => apart own other⟩

end Two

end Config

end OciBundle
