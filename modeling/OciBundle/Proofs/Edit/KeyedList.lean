/-
**The keyed lists of a configuration.**

Ten lists of a configuration hold one item per key: variables, limits of the process, namespaces,
devices, the weights and the four kinds of rates of block devices, huge pages and priorities of
network interfaces. Their edits put an item, remove the one with a key or remove all.

* `KeyedList`: these lists, with their items, their keys and the items that fit.
* `Edit.IsKeyed`: the edits of these lists.
* `Edit.listChange?`: the list that an edit changes, and the change.
* `KeyedList.Rewrites`: one list is rewritten and the others are left.
* `ProcessEdit.makes`, `LinuxEdit.makes`, `ResourcesEdit.makes`: an accepted edit makes its change.
-/

import OciBundle.Draft
import OciBundle.Proofs.Edit.Process
import OciBundle.Proofs.Keyed.History

namespace OciBundle

open Keyed (Change)

/-- The key of a variable, the text before the first `=`. -/
def envKey (entry : String) : String :=
  ((Text.cut '=' entry).map Prod.fst).getD entry

/-- A list of rates of block devices. -/
def BlockIo.throttle (limits : BlockIo) : Throttle → List ThrottleDevice
  | .readBps => limits.readBps
  | .writeBps => limits.writeBps
  | .readIops => limits.readIops
  | .writeIops => limits.writeIops

/-- The lists of a configuration that hold one item per key. -/
inductive KeyedList where
  | env
  | rlimits
  | namespaces
  | devices
  | weightDevices
  | throttleDevices (throttle : Throttle)
  | hugepageLimits
  | priorities
  deriving DecidableEq

namespace KeyedList

/-- The items of a list. -/
def Item : KeyedList → Type
  | env => String
  | rlimits => Rlimit
  | namespaces => Namespace
  | devices => Device
  | weightDevices => WeightDevice
  | throttleDevices _ => ThrottleDevice
  | hugepageLimits => HugepageLimit
  | priorities => InterfacePriority

/-- The keys of a list; a block device has two numbers. -/
def Key : KeyedList → Type
  | weightDevices | throttleDevices _ => Int64 × Int64
  | _ => String

instance (list : KeyedList) : DecidableEq list.Key :=
  match list with
  | weightDevices | throttleDevices _ => inferInstanceAs (DecidableEq (Int64 × Int64))
  | env | rlimits | namespaces | devices | hugepageLimits | priorities =>
    inferInstanceAs (DecidableEq String)

/-- The key of an item. -/
def key : (list : KeyedList) → list.Item → list.Key
  | env => envKey
  | rlimits => Rlimit.kind
  | namespaces => Namespace.kind
  | devices => Device.path
  | weightDevices => fun device => (device.major, device.minor)
  | throttleDevices _ => fun device => (device.major, device.minor)
  | hugepageLimits => HugepageLimit.pageSize
  | priorities => InterfacePriority.name

/-- Whether an item has the form that edits rely on: a variable has a `=`. -/
def Fits : (list : KeyedList) → list.Item → Prop
  | env => fun entry : String => '=' ∈ entry.toList
  | _ => fun _ => True

/-- What a configuration lists; a part that is missing lists nothing. -/
def items (config : Config) : (list : KeyedList) → List list.Item
  | env => config.process.env
  | rlimits => config.process.rlimits
  | namespaces => (config.linux.getD default).namespaces
  | devices => (config.linux.getD default).devices
  | weightDevices => (limits.blockIo.getD default).weightDevices
  | throttleDevices throttle => (limits.blockIo.getD default).throttle throttle
  | hugepageLimits => limits.hugepageLimits
  | priorities => (limits.network.getD default).priorities
where
  limits : Resources := (config.linux.getD default).resources.getD default

end KeyedList

/-- A change of a keyed list. -/
structure ListChange where
  list : KeyedList
  change : Change list.Key list.Item

/-- The change of a list, if it is one of this list. -/
def ListChange.on? (changed : ListChange) (list : KeyedList) :
    Option (Change list.Key list.Item) :=
  if same : changed.list = list then some (same ▸ changed.change) else none

namespace Edit

/-- Whether an edit is one of a keyed list. The key of a variable that is removed has no `=`. -/
def IsKeyed : Edit → Prop
  | .process (.addEnv _ _) | .process (.addEnvPair _) | .process .clearEnv
  | .process (.addRlimit _ _ _) | .process (.removeRlimit _) | .process .clearRlimits
  | .linux (.putNamespace _ _) | .linux (.removeNamespace _) | .linux .clearNamespaces
  | .linux (.putDevice _) | .linux (.removeDevice _) | .linux .clearDevices
  | .resources (.putWeightDevice _ _ _ _) | .resources (.dropWeightDevice _ _)
  | .resources (.putThrottleDevice _ _ _ _) | .resources (.dropThrottleDevice _ _ _)
  | .resources (.putHugepageLimit _ _) | .resources (.dropHugepageLimit _)
  | .resources (.putNetworkPriority _ _) | .resources (.dropNetworkPriority _) => True
  | .process (.removeEnv key) => '=' ∉ key.toList
  | _ => False

/-- The change that an edit makes when it is accepted. -/
def listChange? : Edit → Option ListChange
  | .process (.addEnv key value) => some ⟨.env, .put (key ++ "=" ++ value : String)⟩
  | .process (.addEnvPair pair) => some ⟨.env, .put pair⟩
  | .process (.removeEnv key) => some ⟨.env, .remove key⟩
  | .process .clearEnv => some ⟨.env, .clear⟩
  | .process (.addRlimit kind hard soft) => some ⟨.rlimits, .put (⟨kind, hard, soft⟩ : Rlimit)⟩
  | .process (.removeRlimit kind) => some ⟨.rlimits, .remove kind⟩
  | .process .clearRlimits => some ⟨.rlimits, .clear⟩
  | .linux (.putNamespace kind path) => (LinuxEdit.readKind kind).toOption.map fun kind =>
      ⟨.namespaces, .put (⟨kind.text, path⟩ : Namespace)⟩
  | .linux (.removeNamespace kind) => (LinuxEdit.readKind kind).toOption.map fun kind =>
      ⟨.namespaces, .remove kind.text⟩
  | .linux .clearNamespaces => some ⟨.namespaces, .clear⟩
  | .linux (.putDevice device) => some ⟨.devices, .put device⟩
  | .linux (.removeDevice path) => some ⟨.devices, .remove path⟩
  | .linux .clearDevices => some ⟨.devices, .clear⟩
  | .resources (.putWeightDevice major minor weight leafWeight) =>
      some ⟨.weightDevices, .put (⟨major, minor, weight, leafWeight⟩ : WeightDevice)⟩
  | .resources (.dropWeightDevice major minor) => some ⟨.weightDevices, .remove (major, minor)⟩
  | .resources (.putThrottleDevice throttle major minor rate) =>
      some ⟨.throttleDevices throttle, .put (⟨major, minor, rate⟩ : ThrottleDevice)⟩
  | .resources (.dropThrottleDevice throttle major minor) =>
      some ⟨.throttleDevices throttle, .remove (major, minor)⟩
  | .resources (.putHugepageLimit pageSize limit) =>
      some ⟨.hugepageLimits, .put (⟨pageSize, limit⟩ : HugepageLimit)⟩
  | .resources (.dropHugepageLimit pageSize) => some ⟨.hugepageLimits, .remove pageSize⟩
  | .resources (.putNetworkPriority name priority) =>
      some ⟨.priorities, .put (⟨name, priority⟩ : InterfacePriority)⟩
  | .resources (.dropNetworkPriority name) => some ⟨.priorities, .remove name⟩
  | _ => none

/-- The change that an edit makes in a list when it is accepted. -/
def change? (list : KeyedList) (edit : Edit) : Option (Change list.Key list.Item) :=
  edit.listChange?.bind (·.on? list)

end Edit

/-! ### Variables -/

section Variables

variable {entry name value : String}

theorem envKey_pair (none : '=' ∉ name.toList) : envKey (name ++ "=" ++ value) = name := by
  rw [envKey, cut_pair value none]
  rfl

theorem eq_pair_of_cut (found : Text.cut '=' entry = some (name, value)) :
    entry = name ++ "=" ++ value :=
  (Text.cut_eq_some_iff.mp found).1

/-- A text with a `=` is a variable. -/
theorem exists_eq_pair (fits : '=' ∈ entry.toList) :
    ∃ name value, '=' ∉ name.toList ∧ entry = name ++ "=" ++ value := by
  obtain ⟨before, after, split, none⟩ := List.eq_append_cons_of_mem fits
  refine ⟨String.ofList before, String.ofList after, ?_, ?_⟩
  · rw [String.toList_ofList]
    exact none
  · rw [← String.toList_inj, toList_pair, String.toList_ofList, String.toList_ofList]
    exact split

/-- **The test for a variable is one for its key**, although values may have a `=` as well. -/
theorem isEnvOf_iff (none : '=' ∉ name.toList) (fits : '=' ∈ entry.toList) :
    isEnvOf name entry = true ↔ envKey entry = name := by
  obtain ⟨other, value, none', rfl⟩ := exists_eq_pair fits
  rw [envKey_pair none', isEnvOf, Text.startsWith, List.isPrefixOf_iff_prefix]
  constructor
  · rintro ⟨rest, split⟩
    have cut : Text.cut '=' (other ++ "=" ++ value) = some (name, String.ofList rest) := by
      rw [Text.cut, ← split, String.toList_append, List.append_assoc]
      show (Text.cutChars '=' (name.toList ++ '=' :: rest)).map _ = _
      rw [Text.cutChars_append none]
      show some (String.ofList name.toList, String.ofList rest) = some (name, String.ofList rest)
      rw [String.ofList_toList]
    rw [cut_pair value none'] at cut
    exact congrArg Prod.fst (Option.some.inj cut)
  · rintro rfl
    have whole : (other ++ "=" ++ value).toList = (other ++ "=").toList ++ value.toList :=
      String.toList_append
    rw [whole]
    exact List.prefix_append _ _

end Variables

/-! ### Rewriting one list -/

namespace KeyedList

variable {list : KeyedList} {rewrite : List list.Item → List list.Item} {before after : Config}

/-- One list is rewritten and the others are left. -/
structure Rewrites (list : KeyedList) (rewrite : List list.Item → List list.Item)
    (before after : Config) : Prop where
  here : items after list = rewrite (items before list)
  others : ∀ other, other ≠ list → items after other = items before other

/-- Rewrites a list of a configuration; a part that is missing is made. -/
def fill (config : Config) : (list : KeyedList) → (List list.Item → List list.Item) → Config
  | env, rewrite => config.mapProcess fun process => { process with env := rewrite process.env }
  | rlimits, rewrite => config.mapProcess fun process =>
      { process with rlimits := rewrite process.rlimits }
  | namespaces, rewrite => config.withLinux fun linux =>
      { linux with namespaces := rewrite linux.namespaces }
  | devices, rewrite => config.withLinux fun linux =>
      { linux with devices := rewrite linux.devices }
  | weightDevices, rewrite => config.withResources (·.withBlockIo fun limits =>
      { limits with weightDevices := rewrite limits.weightDevices })
  | throttleDevices throttle, rewrite => config.withResources (·.withBlockIo fun limits =>
      limits.mapThrottle throttle rewrite)
  | hugepageLimits, rewrite => config.withResources fun limits =>
      { limits with hugepageLimits := rewrite limits.hugepageLimits }
  | priorities, rewrite => config.withResources (·.withNetwork fun network =>
      { network with priorities := rewrite network.priorities })

/-- Rewrites a list of a configuration; a part that is missing stays away. -/
def map (config : Config) : (list : KeyedList) → (List list.Item → List list.Item) → Config
  | env, rewrite => config.mapProcess fun process => { process with env := rewrite process.env }
  | rlimits, rewrite => config.mapProcess fun process =>
      { process with rlimits := rewrite process.rlimits }
  | namespaces, rewrite => config.mapLinux fun linux =>
      { linux with namespaces := rewrite linux.namespaces }
  | devices, rewrite => config.mapLinux fun linux =>
      { linux with devices := rewrite linux.devices }
  | weightDevices, rewrite => config.mapResources (·.mapBlockIo fun limits =>
      { limits with weightDevices := rewrite limits.weightDevices })
  | throttleDevices throttle, rewrite => config.mapResources (·.mapBlockIo fun limits =>
      limits.mapThrottle throttle rewrite)
  | hugepageLimits, rewrite => config.mapResources fun limits =>
      { limits with hugepageLimits := rewrite limits.hugepageLimits }
  | priorities, rewrite => config.mapResources (·.mapNetwork fun network =>
      { network with priorities := rewrite network.priorities })

theorem throttle_mapThrottle (limits : BlockIo) (throttle : Throttle)
    (rewrite : List ThrottleDevice → List ThrottleDevice) :
    (limits.mapThrottle throttle rewrite).throttle throttle = rewrite (limits.throttle throttle) := by
  cases throttle <;> rfl

theorem throttle_mapThrottle_of_ne (limits : BlockIo) {throttle other : Throttle}
    (different : other ≠ throttle) (rewrite : List ThrottleDevice → List ThrottleDevice) :
    (limits.mapThrottle throttle rewrite).throttle other = limits.throttle other := by
  cases throttle <;> cases other <;> first | rfl | exact absurd rfl different

theorem weightDevices_mapThrottle (limits : BlockIo) (throttle : Throttle)
    (rewrite : List ThrottleDevice → List ThrottleDevice) :
    (limits.mapThrottle throttle rewrite).weightDevices = limits.weightDevices := by
  cases throttle <;> rfl

theorem throttle_default (throttle : Throttle) : (default : BlockIo).throttle throttle = [] := by
  cases throttle <;> rfl

theorem rewrites_fill (config : Config) (list : KeyedList)
    (rewrite : List list.Item → List list.Item) :
    list.Rewrites rewrite config (fill config list rewrite) where
  here := by
    cases list
    case throttleDevices throttle => exact throttle_mapThrottle _ throttle rewrite
    all_goals rfl
  others other different := by
    cases list
    case throttleDevices throttle =>
      cases other
      case weightDevices => exact weightDevices_mapThrottle _ throttle rewrite
      case throttleDevices other =>
        exact throttle_mapThrottle_of_ne _ (fun same => different (congrArg _ same)) rewrite
      all_goals rfl
    all_goals
      cases other
      all_goals first | rfl | exact absurd rfl different

/-- Where the part with a list is missing, nothing is listed and nothing changes. -/
theorem map_eq (config : Config) (list : KeyedList) (rewrite : List list.Item → List list.Item) :
    map config list rewrite = config ∧ items config list = [] ∨
      map config list rewrite = fill config list rewrite := by
  rcases config with ⟨_, _, _, _, _, _, _, _, linux⟩
  rcases linux with _ | ⟨_, _, _, resources, _, _, _, _, _, _, _, _⟩
  · cases list
    case throttleDevices throttle => exact .inl ⟨rfl, throttle_default throttle⟩
    all_goals first | exact .inr rfl | exact .inl ⟨rfl, rfl⟩
  rcases resources with _ | ⟨_, _, _, _, blockIo, _, network⟩
  · cases list
    case throttleDevices throttle => exact .inl ⟨rfl, throttle_default throttle⟩
    all_goals first | exact .inr rfl | exact .inl ⟨rfl, rfl⟩
  rcases blockIo with _ | _ <;> rcases network with _ | _ <;> cases list <;>
    first | exact .inr rfl | exact .inl ⟨rfl, rfl⟩ | exact .inl ⟨rfl, throttle_default _⟩

theorem rewrites_map (config : Config) (list : KeyedList)
    (rewrite : List list.Item → List list.Item) (none : rewrite [] = []) :
    list.Rewrites rewrite config (map config list rewrite) := by
  rcases map_eq config list rewrite with ⟨same, empty⟩ | filled
  · rw [same]
    refine ⟨?_, fun _ _ => rfl⟩
    rw [empty, none]
  · rw [filled]
    exact rewrites_fill config list rewrite

end KeyedList

/-! ### Accepted edits -/

/-- A change of a list is made, as far as its items fit, and the other lists are left. -/
structure ListChange.Makes (changed : ListChange) (before after : Config) : Prop where
  fits : ∀ item, changed.change = .put item → changed.list.Fits item
  here : (∀ item ∈ KeyedList.items before changed.list, changed.list.Fits item) →
    KeyedList.items after changed.list =
      changed.change.apply changed.list.key (KeyedList.items before changed.list)
  others : ∀ other, other ≠ changed.list →
    KeyedList.items after other = KeyedList.items before other

namespace KeyedList

variable {config after : Config}

theorem makes_put (list : KeyedList) {item : list.Item} {test : list.Item → Bool}
    (fits : list.Fits item) (agrees : ∀ other, list.Fits other →
      test other = decide (list.key other = list.key item)) :
    ListChange.Makes ⟨list, .put item⟩ config (fill config list (Keyed.put test item)) := by
  have rewrites := rewrites_fill config list (Keyed.put test item)
  refine ⟨?_, fun inside => ?_, rewrites.others⟩
  · intro other same
    cases same
    exact fits
  · rw [rewrites.here]
    exact Keyed.put_congr fun other member => agrees other (inside other member)

theorem makes_remove (list : KeyedList) {removed : list.Key} {test : list.Item → Bool}
    (agrees : ∀ other, list.Fits other → test other = !decide (list.key other = removed)) :
    ListChange.Makes ⟨list, .remove removed⟩ config (map config list (List.filter test)) := by
  have rewrites := rewrites_map config list (List.filter test) List.filter_nil
  refine ⟨?_, fun inside => ?_, rewrites.others⟩
  · intro other same
    cases same
  · rw [rewrites.here]
    refine List.filter_congr fun other member => ?_
    rw [agrees other (inside other member), decide_not]

theorem makes_clear (list : KeyedList) :
    ListChange.Makes ⟨list, .clear⟩ config (map config list fun _ => []) := by
  have rewrites := rewrites_map config list (fun _ => []) rfl
  refine ⟨?_, fun _ => rewrites.here, rewrites.others⟩
  intro other same
  cases same

end KeyedList

open KeyedList (makes_put makes_remove makes_clear)

variable {config after : Config}

theorem ProcessEdit.makes_putEnv {key value : String}
    (done : putEnv config key value = .ok after) :
    ListChange.Makes ⟨.env, .put (key ++ "=" ++ value : String)⟩ config after := by
  rw [putEnv] at done
  split at done
  next => cases done
  next proper =>
    cases done
    have none : '=' ∉ key.toList := fun member => proper (.inr (List.contains_iff_mem.mpr member))
    refine makes_put .env ?_ fun entry fits => ?_
    · show '=' ∈ (key ++ "=" ++ value).toList
      rw [toList_pair]
      exact List.mem_append_right _ List.mem_cons_self
    · show isEnvOf key entry = decide (envKey entry = envKey (key ++ "=" ++ value))
      rw [envKey_pair none, Bool.eq_iff_iff, isEnvOf_iff none fits, decide_eq_true_iff]

/-- **Accepted edits of the process.** -/
theorem ProcessEdit.makes {edit : ProcessEdit} {host : Option Host}
    (keyed : (Edit.process edit).IsKeyed) (done : edit.apply host config = .ok after) :
    ∃ changed, (Edit.process edit).listChange? = some changed ∧ changed.Makes config after := by
  cases edit with
  | addEnv key value => exact ⟨_, rfl, makes_putEnv done⟩
  | addEnvPair pair =>
    rw [apply] at done
    split at done
    next key value found =>
      have whole : key ++ "=" ++ value = pair := (eq_pair_of_cut found).symm
      exact ⟨_, rfl, whole ▸ makes_putEnv done⟩
    next => cases done
  | removeEnv key =>
    cases done
    refine ⟨_, rfl, makes_remove .env fun entry fits => ?_⟩
    have same : isEnvOf key entry = decide (envKey entry = key) := by
      rw [Bool.eq_iff_iff, isEnvOf_iff keyed fits, decide_eq_true_iff]
    exact congrArg not same
  | clearEnv =>
    cases done
    exact ⟨_, rfl, makes_clear .env⟩
  | addRlimit kind hard soft =>
    rw [apply] at done
    split at done
    next => cases done
    next =>
      split at done
      next => cases done
      next =>
        cases done
        exact ⟨_, rfl, makes_put .rlimits trivial fun _ _ => rfl⟩
  | removeRlimit kind =>
    cases done
    exact ⟨_, rfl, makes_remove .rlimits fun _ _ => decide_not⟩
  | clearRlimits =>
    cases done
    exact ⟨_, rfl, makes_clear .rlimits⟩
  | setUid _ | setGid _ | setUsername _ | addAdditionalGid _ | clearAdditionalGids | setCwd _
  | setArgs _ | setTerminal _ | setConsoleSize _ _ | setNoNewPrivileges _ | setSelinuxLabel _
  | setApparmorProfile _ | setOomScoreAdj _ | addCapability _ | dropCapability _
  | clearCapabilities | setPrivileged => exact keyed.elim

/-- **Accepted edits of what is configured for Linux.** -/
theorem LinuxEdit.makes {edit : LinuxEdit} (keyed : (Edit.linux edit).IsKeyed)
    (done : edit.apply config = .ok after) :
    ∃ changed, (Edit.linux edit).listChange? = some changed ∧ changed.Makes config after := by
  cases edit with
  | putNamespace name path =>
    obtain ⟨kind, read, equal⟩ := exists_of_bind_eq_ok done
    cases equal
    refine ⟨⟨.namespaces, .put (⟨kind.text, path⟩ : Namespace)⟩, ?_, ?_⟩
    · rw [Edit.listChange?, read]
      rfl
    · exact makes_put .namespaces trivial fun _ _ => rfl
  | removeNamespace name =>
    obtain ⟨kind, read, equal⟩ := exists_of_bind_eq_ok done
    cases equal
    refine ⟨⟨.namespaces, .remove kind.text⟩, ?_, ?_⟩
    · rw [Edit.listChange?, read]
      rfl
    · exact makes_remove .namespaces fun _ _ => decide_not
  | clearNamespaces =>
    cases done
    exact ⟨_, rfl, makes_clear .namespaces⟩
  | putDevice device =>
    obtain ⟨_, _, equal⟩ := exists_of_bind_eq_ok done
    cases equal
    exact ⟨_, rfl, makes_put .devices trivial fun _ _ => rfl⟩
  | removeDevice path =>
    cases done
    exact ⟨_, rfl, makes_remove .devices fun _ _ => decide_not⟩
  | clearDevices =>
    cases done
    exact ⟨_, rfl, makes_clear .devices⟩
  | addIdMapping _ _ | addIdMappingText _ _ | clearIdMappings _ | addSysctl _ _ | removeSysctl _
  | clearSysctl | setRootfsPropagation _ | setCgroupsPath _ | setMountLabel _ | addMaskedPath _
  | clearMaskedPaths | addReadonlyPath _ | clearReadonlyPaths => exact keyed.elim

/-- The test for the two numbers of a device. -/
theorem decide_numbers (major minor major' minor' : Int64) :
    (decide (major = major') && decide (minor = minor')) =
      decide ((major, minor) = (major', minor')) := by
  rw [← Bool.decide_and, decide_eq_decide, Prod.mk.injEq]

/-- **Accepted edits of the limits.** -/
theorem ResourcesEdit.makes {edit : ResourcesEdit} (keyed : (Edit.resources edit).IsKeyed)
    (done : edit.apply config = .ok after) :
    ∃ changed, (Edit.resources edit).listChange? = some changed ∧ changed.Makes config after := by
  cases edit with
  | putWeightDevice major minor weight leafWeight =>
    obtain ⟨_, _, rest⟩ := exists_of_bind_eq_ok done
    obtain ⟨_, _, equal⟩ := exists_of_bind_eq_ok rest
    cases equal
    exact ⟨_, rfl, makes_put .weightDevices trivial fun device _ => decide_numbers _ _ _ _⟩
  | dropWeightDevice major minor =>
    cases done
    refine ⟨_, rfl, makes_remove .weightDevices fun device _ => ?_⟩
    exact congrArg not (decide_numbers _ _ _ _)
  | putThrottleDevice throttle major minor rate =>
    cases done
    exact ⟨_, rfl, makes_put (.throttleDevices throttle) trivial fun device _ =>
      decide_numbers _ _ _ _⟩
  | dropThrottleDevice throttle major minor =>
    cases done
    refine ⟨_, rfl, makes_remove (.throttleDevices throttle) fun device _ => ?_⟩
    exact congrArg not (decide_numbers _ _ _ _)
  | putHugepageLimit pageSize limit =>
    rw [apply] at done
    split at done
    next => cases done
    next =>
      cases done
      exact ⟨_, rfl, makes_put .hugepageLimits trivial fun _ _ => rfl⟩
  | dropHugepageLimit pageSize =>
    cases done
    exact ⟨_, rfl, makes_remove .hugepageLimits fun _ _ => decide_not⟩
  | putNetworkPriority name priority =>
    rw [apply] at done
    split at done
    next => cases done
    next =>
      cases done
      exact ⟨_, rfl, makes_put .priorities trivial fun _ _ => rfl⟩
  | dropNetworkPriority name =>
    cases done
    exact ⟨_, rfl, makes_remove .priorities fun _ _ => decide_not⟩
  | setCpuShares _ | setCpuQuota _ | setCpuPeriod _ | setCpuRealtimeRuntime _
  | setCpuRealtimePeriod _ | setCpuCpus _ | setCpuMems _ | setMemoryLimit _
  | setMemoryReservation _ | setMemorySwap _ | setMemoryKernel _ | setMemoryKernelTcp _
  | setMemorySwappiness _ | setMemoryDisableOomKiller _ | setPidsLimit _ | setBlockIoWeight _
  | setBlockIoLeafWeight _ | setNetworkClassId _ | addDeviceRule _ _ _ _ _ | clearDeviceRules =>
    exact keyed.elim

end OciBundle
