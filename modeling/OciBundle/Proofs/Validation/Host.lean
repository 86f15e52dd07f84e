/-
**The comparison with the host is exact.**

A device with a known type and an absolute path is compared with the node of the host at that path.
The numbers are words on the host and signed in a configuration, and where the host keeps to small
numbers a device has the same words just when it has the same integers. Each trait that differs is
reported once, in a fixed order, about the device that has it.

* `Device.Compared`, `NodeKind.Named`: which devices are compared, and with which kind of node.
* `Device.Shares`: what a node has in common with a device, for each `Device.Trait`.
* `toUInt64_eq_iff`: words and integers.
* `Device.Tells`, `Device.forall₂_tells`: the texts about the traits that differ.
* `Device.Contrasted`, `Device.Judged`: what is reported about a device.
* `Violation.filter_each`, `Violation.each_eq_flatMap_range`: reports that name the items of a list.
* `Bundle.devices_compared`: the devices of a bundle that is compared with a host.
-/

import Mathlib.Algebra.Group.Nat.Defs
import OciBundle.Proofs.Validation.Once

namespace OciBundle

open Outline (itemPath)
open Violation (Within each)

/-! ### Devices and nodes -/

/-- A device is compared with the host: its type is known and its path is absolute. -/
def Device.Compared (device : Device) : Prop :=
  device.kind ∈ ["b", "c", "u", "p"] ∧ Text.isAbsolute device.path = true

/-- The kind of node that a type of device names. -/
inductive NodeKind.Named : String → NodeKind → Prop
  | block : Named "b" .blockDevice
  | char : Named "c" .charDevice
  | unbuffered : Named "u" .charDevice
  | fifo : Named "p" .fifo

/-- A path is looked up, or nothing is there. -/
def FileTree.Settles (tree : FileTree) (path : String) : Prop :=
  ∀ fault, tree.find path = .error fault → fault = .notFound

/-- The numbers of all nodes are below 2^32. -/
def FileTree.SmallNumbers (tree : FileTree) : Prop :=
  ∀ entry ∈ tree.nodes, entry.2.major.toNat < 2 ^ 32 ∧ entry.2.minor.toNat < 2 ^ 32

namespace Device

/-- What a device and a node of its kind can have in common. -/
inductive Trait where
  | numbers | mode | uid | gid

/-- The traits in the order in which they are compared. -/
def Trait.all : List Trait := [.numbers, .mode, .uid, .gid]

theorem Trait.mem_all (trait : Trait) : trait ∈ all := by
  cases trait <;> simp [all]

/-- A node has what a device asks for. Both numbers are compared, as integers, for the types that have
numbers; the mode is compared with the low twelve bits. -/
def Shares (device : Device) (node : Node) : Trait → Prop
  | .numbers => device.kind ∈ ["b", "c", "u"] →
      device.major.toInt = node.major.toNat ∧ device.minor.toInt = node.minor.toNat
  | .mode => ∀ mode ∈ device.fileMode, mode.toNat = node.mode.toNat % 2 ^ 12
  | .uid => ∀ owner ∈ device.uid, owner = node.uid
  | .gid => ∀ owner ∈ device.gid, owner = node.gid

instance (device : Device) (node : Node) : DecidablePred (device.Shares node)
  | .numbers => inferInstanceAs (Decidable (_ ∈ _ → _))
  | .mode => Option.decidableForallMem device.fileMode
  | .uid => Option.decidableForallMem device.uid
  | .gid => Option.decidableForallMem device.gid

/-- The text about a trait that a node does not share. -/
inductive Tells (device : Device) (node : Node) : Trait → String → Prop
  | numbers : Tells device node .numbers
      (device.path ++ " is " ++ Word.text node.major ++ ":" ++ Word.text node.minor
        ++ " on the host, not " ++ Word.text device.major ++ ":" ++ Word.text device.minor)
  | mode {mode : UInt32} (given : device.fileMode = some mode) : Tells device node .mode
      (device.path ++ " has mode " ++ octalText node.permissions ++ " on the host, not "
        ++ octalText mode)
  | uid {owner : UInt32} (given : device.uid = some owner) : Tells device node .uid
      (device.path ++ " is owned by uid " ++ Word.text node.uid ++ " on the host, not "
        ++ Word.text owner)
  | gid {owner : UInt32} (given : device.gid = some owner) : Tells device node .gid
      (device.path ++ " is owned by gid " ++ Word.text node.gid ++ " on the host, not "
        ++ Word.text owner)

/-- **What is reported about a device that the host has.** -/
structure Contrasted (device : Device) (node : Node) (reports : List Violation) : Prop where
  /-- Nothing is reported just when the node is like the device. -/
  alike : reports = [] ↔
    NodeKind.Named device.kind node.kind ∧ ∀ trait, device.Shares node trait
  /-- Of a node of another kind nothing else is reported. -/
  kind : ¬ NodeKind.Named device.kind node.kind → reports.map Violation.message =
    [device.path ++ " is not a " ++ device.kind ++ " device on the host"]
  /-- Of a node of the kind, each trait that differs is reported once, in their order. -/
  traits : NodeKind.Named device.kind node.kind →
    List.Forall₂ (device.Tells node) (Trait.all.filter fun trait => ¬ device.Shares node trait)
      (reports.map Violation.message)

/-- **What is reported about a device.** -/
structure Judged (device : Device) (tree : FileTree) (reports : List Violation) : Prop where
  skipped : ¬ device.Compared ∨ tree.find device.path = .error .notFound → reports = []
  contrasted : device.Compared → ∀ node, tree.find device.path = .ok node →
    device.Contrasted node reports

end Device

/-! ### Known types -/

namespace DeviceKind

theorem mem_types_iff {type : String} :
    type ∈ ["b", "c", "u", "p"] ↔ ∃ kind : DeviceKind, kind.text = type := by
  constructor
  · intro known
    simp only [List.mem_cons, List.not_mem_nil, or_false] at known
    rcases known with rfl | rfl | rfl | rfl
    · exact ⟨.block, rfl⟩
    · exact ⟨.char, rfl⟩
    · exact ⟨.unbuffered, rfl⟩
    · exact ⟨.fifo, rfl⟩
  · rintro ⟨kind, rfl⟩
    cases kind <;> decide

theorem requiresNumbers_iff {kind : DeviceKind} :
    kind.requiresNumbers = true ↔ kind.text ∈ ["b", "c", "u"] := by
  cases kind <;> decide

theorem named_text_iff {kind : DeviceKind} {node : NodeKind} :
    NodeKind.Named kind.text node ↔ node = kind.nodeKind := by
  constructor
  · intro named
    generalize same : kind.text = type at named
    cases named <;> cases kind <;> first | rfl | exact absurd same (by decide)
  · rintro rfl
    cases kind
    · exact .block
    · exact .char
    · exact .unbuffered
    · exact .fifo

end DeviceKind

/-! ### Words and integers -/

/-- **A signed number has the bits of a small word just when it is the same integer.** The bits of a
negative number are those of a word that is not small. -/
theorem toUInt64_eq_iff {number : Int64} {word : UInt64} (small : word.toNat < 2 ^ 32) :
    number.toUInt64 = word ↔ number.toInt = word.toNat := by
  have bound := number.toBitVec.isLt
  rw [← UInt64.toNat_inj, ← Int64.toInt_toBitVec, BitVec.toInt_eq_toNat_cond]
  show number.toBitVec.toNat = word.toNat ↔ _
  split
  next nonnegative => omega
  next negative => omega

theorem Node.toNat_permissions (node : Node) :
    node.permissions.toNat = node.mode.toNat % 2 ^ 12 := by
  rw [permissions, UInt32.toNat_and]
  exact Nat.and_two_pow_sub_one_eq_mod _ 12

/-! ### How a device differs from a node of its kind -/

namespace Device

variable {device : Device} {kind : DeviceKind} {node : Node} {trait : Trait}

/-- How a device of a kind differs from a node of this kind in a trait. -/
def differencesIn (device : Device) (kind : DeviceKind) (node : Node) : Trait → List String
  | .numbers => if kind.requiresNumbers then device.numberDifference node else []
  | .mode => device.modeDifference node
  | .uid => ownerDifference device.path "uid" device.uid node.uid
  | .gid => ownerDifference device.path "gid" device.gid node.gid

theorem differences_eq_flatMap (same : node.kind = kind.nodeKind) :
    device.differences kind node = Trait.all.flatMap (device.differencesIn kind node) := by
  rw [differences, if_neg (not_not_intro same)]
  simp only [Trait.all, differencesIn, List.flatMap_cons, List.flatMap_nil, List.append_nil,
    List.append_assoc]

/-- A trait is shared and nothing is said about it, or it is not and there is one text about it. -/
def Discerned (device : Device) (node : Node) (trait : Trait) (texts : List String) : Prop :=
  device.Shares node trait ∧ texts = [] ∨
    ¬ device.Shares node trait ∧ ∃ text, texts = [text] ∧ device.Tells node trait text

theorem discerned_numbers (known : kind.text = device.kind)
    (small : node.major.toNat < 2 ^ 32 ∧ node.minor.toNat < 2 ^ 32) :
    device.Discerned node .numbers (device.differencesIn kind node .numbers) := by
  show Discerned _ _ _ (if kind.requiresNumbers then device.numberDifference node else [])
  by_cases numbered : kind.requiresNumbers = true
  · have asked : device.kind ∈ ["b", "c", "u"] := known ▸ DeviceKind.requiresNumbers_iff.mp numbered
    rw [if_pos numbered]
    unfold numberDifference
    split
    next same =>
      rw [toUInt64_eq_iff small.1, toUInt64_eq_iff small.2] at same
      exact .inl ⟨fun _ => same, rfl⟩
    next other =>
      rw [toUInt64_eq_iff small.1, toUInt64_eq_iff small.2] at other
      exact .inr ⟨fun shared => other (shared asked), _, rfl, .numbers⟩
  · have spared : device.kind ∉ ["b", "c", "u"] :=
      known ▸ mt DeviceKind.requiresNumbers_iff.mpr numbered
    rw [if_neg numbered]
    exact .inl ⟨fun asked => absurd asked spared, rfl⟩

theorem discerned_mode : device.Discerned node .mode (device.differencesIn kind node .mode) := by
  show device.Discerned node .mode (device.modeDifference node)
  unfold modeDifference
  split
  next absent => exact .inl ⟨fun mode given => (nomatch absent.symm.trans given), rfl⟩
  next mode given =>
    have shares_iff : device.Shares node .mode ↔ mode = node.permissions := by
      rw [← UInt32.toNat_inj, node.toNat_permissions]
      refine ⟨fun shared => shared mode given, fun same other given' => ?_⟩
      rwa [← Option.some.inj (given.symm.trans given')]
    split
    next same => exact .inl ⟨shares_iff.mpr same, rfl⟩
    next other => exact .inr ⟨mt shares_iff.mp other, _, rfl, .mode given⟩

/-- An owner is compared with the one on the host. -/
theorem discerned_owner {what : String} {owner : Option UInt32} {onHost : UInt32}
    (shares : device.Shares node trait ↔ ∀ given ∈ owner, given = onHost)
    (tells : ∀ given, owner = some given → device.Tells node trait
      (device.path ++ (" is owned by " ++ what ++ " ") ++ Word.text onHost ++ " on the host, not "
        ++ Word.text given)) :
    device.Discerned node trait (ownerDifference device.path what owner onHost) := by
  unfold ownerDifference
  split
  next => exact .inl ⟨shares.mpr nofun, rfl⟩
  next given =>
    split
    next same => exact .inl ⟨shares.mpr fun other here => Option.some.inj here ▸ same, rfl⟩
    next other =>
      refine .inr ⟨fun shared => other (shares.mp shared given rfl), _, rfl, ?_⟩
      have told := tells given rfl
      simp only [String.append_assoc] at told ⊢
      exact told

theorem discerned_differencesIn (known : kind.text = device.kind)
    (small : node.major.toNat < 2 ^ 32 ∧ node.minor.toNat < 2 ^ 32) :
    (trait : Trait) → device.Discerned node trait (device.differencesIn kind node trait)
  | .numbers => discerned_numbers known small
  | .mode => discerned_mode
  | .uid => discerned_owner .rfl fun _ => .uid
  | .gid => discerned_owner .rfl fun _ => .gid

/-- Of any traits, those that differ are told in their order. -/
theorem forall₂_tells {texts : Trait → List String}
    (discerned : ∀ trait, device.Discerned node trait (texts trait)) (traits : List Trait) :
    List.Forall₂ (device.Tells node) (traits.filter fun trait => ¬ device.Shares node trait)
      (traits.flatMap texts) := by
  induction traits with
  | nil => exact .nil
  | cons trait rest hypothesis =>
    rw [List.flatMap_cons]
    rcases discerned trait with ⟨shared, silent⟩ | ⟨differs, text, said, tells⟩
    · rw [List.filter_cons_of_neg (by simpa using shared), silent]
      exact hypothesis
    · rw [List.filter_cons_of_pos (by simpa using differs), said]
      exact .cons tells hypothesis

/-- **A device and a node of the host are contrasted.** -/
theorem contrasted_of_differences {reports : List Violation} (known : kind.text = device.kind)
    (small : node.major.toNat < 2 ^ 32 ∧ node.minor.toNat < 2 ^ 32)
    (told : reports.map Violation.message = device.differences kind node) :
    device.Contrasted node reports := by
  have named_iff : NodeKind.Named device.kind node.kind ↔ node.kind = kind.nodeKind :=
    known ▸ DeviceKind.named_text_iff
  have other (differs : ¬ NodeKind.Named device.kind node.kind) : reports.map Violation.message =
      [device.path ++ " is not a " ++ device.kind ++ " device on the host"] := by
    rw [told, differences, if_pos (mt named_iff.mpr differs), known]
  have traits (named : NodeKind.Named device.kind node.kind) :
      List.Forall₂ (device.Tells node) (Trait.all.filter fun trait => ¬ device.Shares node trait)
        (reports.map Violation.message) := by
    rw [told, differences_eq_flatMap (named_iff.mp named)]
    exact forall₂_tells (discerned_differencesIn known small) Trait.all
  refine ⟨⟨fun silent => ?_, fun ⟨named, shared⟩ => ?_⟩, other, traits⟩
  · subst silent
    have named : NodeKind.Named device.kind node.kind :=
      Classical.byContradiction fun differs => nomatch other differs
    have none := List.filter_eq_nil_iff.mp (List.forall₂_nil_right_iff.mp (traits named))
    exact ⟨named, fun trait => by simpa using none trait trait.mem_all⟩
  · have none : (Trait.all.filter fun trait => ¬ device.Shares node trait) = [] :=
      List.filter_eq_nil_iff.mpr fun trait _ => by simpa using shared trait
    have silent := traits named
    rw [none] at silent
    exact List.map_eq_nil_iff.mp (List.forall₂_nil_left_iff.mp silent)

end Device

/-! ### Looking a device up -/

namespace FileTree

variable {tree : FileTree} {node : Node} {path : String}

/-- A node that is found has small numbers, like the other ones. -/
theorem SmallNumbers.of_find (small : tree.SmallNumbers) (found : tree.find path = .ok node) :
    node.major.toNat < 2 ^ 32 ∧ node.minor.toNat < 2 ^ 32 := by
  obtain ⟨place, _, found⟩ := exists_of_bind_eq_ok found
  split at found
  next other here =>
    cases found
    unfold node? at here
    split at here
    next =>
      cases here
      decide
    next =>
      obtain ⟨front, back, split, _⟩ := List.lookup_eq_some_iff.mp here
      exact small (place, node) (split ▸ List.mem_append_right _ List.mem_cons_self)
  next => cases found

end FileTree

namespace Device

variable {device : Device} {tree : FileTree} {index : Nat}

/-- What is reported about a device, where its path can be looked at. -/
def hostReports (tree : FileTree) (index : Nat) (device : Device) : List Violation :=
  match device.checkOnHost tree index with
  | .ok reports => reports
  | .error _ => []

theorem exists_kind_of_compared (compared : device.Compared) :
    ∃ kind : DeviceKind, kind.text = device.kind :=
  DeviceKind.mem_types_iff.mp compared.1

theorem checkOnHost_of_not_compared (skipped : ¬ device.Compared) :
    device.checkOnHost tree index = .ok [] := by
  unfold checkOnHost
  split
  next => rfl
  next kind known =>
    have same : kind.text = device.kind := Vocabulary.ofText?_eq_some_iff.mp known
    exact if_pos fun absolute => skipped ⟨DeviceKind.mem_types_iff.mpr ⟨kind, same⟩, absolute⟩

theorem checkOnHost_of_compared {kind : DeviceKind} (known : kind.text = device.kind)
    (absolute : Text.isAbsolute device.path = true) :
    device.checkOnHost tree index = match tree.find device.path with
      | .error .notFound => .ok []
      | .error .nulInPath => .error (.invalidPath device.path)
      | .error fault => .error (.access device.path fault)
      | .ok node =>
        .ok ((device.differences kind node).map fun message =>
          ⟨.devicesFileNotMatch, itemPath "linux.devices" index, message⟩) := by
  unfold checkOnHost
  rw [Vocabulary.ofText?_eq_some_iff.mpr known]
  exact if_neg (not_not_intro absolute)

/-- The comparison of a device ends where its path can be looked at. -/
theorem checkOnHost_eq_ok_iff {reports : List Violation} :
    device.checkOnHost tree index = .ok reports ↔
      (device.Compared → tree.Settles device.path) ∧ device.hostReports tree index = reports := by
  have settled : (∃ reports, device.checkOnHost tree index = .ok reports) ↔
      (device.Compared → tree.Settles device.path) := by
    by_cases compared : device.Compared
    · obtain ⟨kind, known⟩ := exists_kind_of_compared compared
      rw [checkOnHost_of_compared known compared.2]
      unfold FileTree.Settles
      split <;> simp_all
    · exact iff_of_true ⟨[], checkOnHost_of_not_compared compared⟩ (absurd · compared)
  rw [← settled, hostReports]
  cases device.checkOnHost tree index with
  | error fault => simp
  | ok reports' => simp

/-- **What is reported about a device** is exact. -/
theorem judged_hostReports (small : tree.SmallNumbers) (device : Device) (index : Nat) :
    device.Judged tree (device.hostReports tree index) where
  skipped := by
    intro skipped
    by_cases compared : device.Compared
    · obtain ⟨kind, known⟩ := exists_kind_of_compared compared
      have absent := skipped.resolve_left (not_not_intro compared)
      rw [hostReports, checkOnHost_of_compared known compared.2, absent]
    · rw [hostReports, checkOnHost_of_not_compared compared]
  contrasted compared node found := by
    obtain ⟨kind, known⟩ := exists_kind_of_compared compared
    refine contrasted_of_differences known (small.of_find found) ?_
    rw [hostReports, checkOnHost_of_compared known compared.2, found]
    exact (List.map_map ..).trans (List.map_id' _)

/-- The reports about a device name its place. -/
theorem subject_of_mem_hostReports {violation : Violation}
    (inside : violation ∈ device.hostReports tree index) :
    violation.subject = itemPath "linux.devices" index := by
  by_cases compared : device.Compared
  · obtain ⟨kind, known⟩ := exists_kind_of_compared compared
    rw [hostReports, checkOnHost_of_compared known compared.2] at inside
    split at inside
    next reports done =>
      split at done
      next =>
        cases done
        cases inside
      next => cases done
      next => cases done
      next node found =>
        cases done
        obtain ⟨message, _, rfl⟩ := List.mem_map.mp inside
        rfl
    next => cases inside
  · rw [hostReports, checkOnHost_of_not_compared compared] at inside
    cases inside

end Device

/-- The comparison of all devices ends where the paths of those that are compared can be looked at. -/
theorem Linux.checkHostDevices_eq_ok_iff {linux : Linux} {tree : FileTree}
    {reports : List Violation} :
    linux.checkHostDevices tree = .ok reports ↔
      (∀ device ∈ linux.devices, device.Compared → tree.Settles device.path) ∧
        each linux.devices (fun index device => device.hostReports tree index) = reports := by
  have settled : (∀ entry ∈ linux.devices.zipIdx,
      entry.1.Compared → tree.Settles entry.1.path) ↔
      ∀ device ∈ linux.devices, device.Compared → tree.Settles device.path := by
    rw [← List.forall_mem_map (f := Prod.fst)
      (P := fun device : Device => device.Compared → tree.Settles device.path),
      List.zipIdx_map_fst]
  rw [← settled]
  unfold checkHostDevices
  rw [bind_eq_ok_iff]
  simp only [mapM_eq_ok_iff_map fun entry result => Device.checkOnHost_eq_ok_iff]
  constructor
  · rintro ⟨results, ⟨settles, rfl⟩, joined⟩
    exact ⟨settles, (List.flatMap_def ..).trans (Except.ok.inj joined)⟩
  · rintro ⟨settles, rfl⟩
    exact ⟨_, ⟨settles, rfl⟩, congrArg Except.ok (List.flatMap_def ..).symm⟩

/-! ### Reports that name the items of a list -/

namespace Violation

variable {α : Type} {base : String} {items : List α} {check : Nat → α → List Violation}

/-- Of reports that name their items, those that name an item are its own. -/
theorem filter_each {index : Nat} {item : α}
    (named : ∀ index item, ∀ violation ∈ check index item, violation.subject = itemPath base index)
    (placed : items[index]? = some item) :
    ((each items check).filter fun violation => violation.subject = itemPath base index) =
      check index item := by
  have here : (item, index) ∈ items.zipIdx := List.mem_zipIdx_iff_getElem?.mpr placed
  obtain ⟨front, back, split⟩ := List.append_of_mem here
  have once : index ∉ (front ++ back).map Prod.snd := by
    have distinct : (items.zipIdx.map Prod.snd).Nodup := by
      rw [List.zipIdx_map_snd]
      exact List.nodup_range'
    rw [split, List.map_append, List.map_cons, List.nodup_middle, ← List.map_append] at distinct
    exact (List.nodup_cons.mp distinct).1
  have elsewhere : ∀ entry ∈ front ++ back, ((check entry.2 entry.1).filter fun violation =>
      violation.subject = itemPath base index) = [] := by
    refine fun entry inside => List.filter_eq_nil_iff.mpr fun violation reported same => once ?_
    have subject := named entry.2 entry.1 violation reported
    have equal : entry.2 = index := itemPath_injective (subject.symm.trans (of_decide_eq_true same))
    exact equal ▸ List.mem_map_of_mem inside
  have own : ((check index item).filter fun violation => violation.subject = itemPath base index) =
      check index item :=
    List.filter_eq_self.mpr fun violation reported =>
      decide_eq_true (named index item violation reported)
  rw [each, List.filter_flatMap, split, List.flatMap_append, List.flatMap_cons, own,
    List.flatMap_eq_nil_iff.mpr fun entry inside => elsewhere entry (List.mem_append_left _ inside),
    List.flatMap_eq_nil_iff.mpr fun entry inside => elsewhere entry (List.mem_append_right _ inside),
    List.nil_append, List.append_nil]

/-- The reports about items by their indices. -/
theorem each_eq_flatMap_range {reports : Nat → List Violation}
    (same : ∀ index item, items[index]? = some item → check index item = reports index) :
    each items check = (List.range items.length).flatMap reports := by
  have places : List.range items.length = items.zipIdx.map Prod.snd := by
    rw [List.zipIdx_map_snd, List.range_eq_range']
  rw [each, places, List.flatMap_map]
  exact List.flatMap_congr fun entry inside =>
    same entry.2 entry.1 (List.mem_zipIdx_iff_getElem?.mp inside)

end Violation

/-! ### Bundles -/

namespace Bundle

variable {bundle : Bundle} {tree : FileTree} {linux : Linux} {found : List Violation}

/-- The violations about the nodes of the host. -/
def deviceReports (found : List Violation) : List Violation :=
  found.filter fun violation => violation.code = .devicesFileNotMatch

/-- Those about the device at a place. -/
def deviceReportsAt (found : List Violation) (index : Nat) : List Violation :=
  (deviceReports found).filter fun violation =>
    violation.subject = itemPath "linux.devices" index

/-- Reports of other rules are not about the nodes of the host. -/
theorem deviceReports_of_within {codes : List Code} {violations : List Violation}
    (within : Within codes violations) (other : .devicesFileNotMatch ∉ codes) :
    deviceReports violations = [] :=
  within.filter_eq_nil (· = .devicesFileNotMatch) fun _ inside =>
    decide_eq_false fun same => other (same ▸ inside)

/-- The comparison with the host comes last, and nothing else reports its rule. -/
theorem deviceReports_validate (done : bundle.validate tree = .ok found) :
    bundle.checkHostDevices tree = .ok (deviceReports found) := by
  obtain ⟨platform, root, devices, parts⟩ := parts_of_validate done
  have own : deviceReports devices = devices :=
    parts.devices.filter_eq_self (· = .devicesFileNotMatch) (by decide)
  have process := (bundle.config.process.neat_check bundle.host).within
  have split (first second : List Violation) :
      deviceReports (first ++ second) = deviceReports first ++ deviceReports second :=
    List.filter_append first second
  rw [parts.compared, parts.parts]
  simp only [split, own, List.nil_append,
    deviceReports_of_within bundle.config.neat_checkMandatory.within (by decide),
    deviceReports_of_within bundle.config.neat_checkVersion.within (by decide),
    deviceReports_of_within bundle.config.neat_checkPlatform.within (by decide),
    deviceReports_of_within parts.platform (by decide),
    deviceReports_of_within parts.root.within (by decide),
    deviceReports_of_within process (by decide),
    deviceReports_of_within (bundle.neat_checkProfile tree).within (by decide),
    deviceReports_of_within bundle.config.neat_checkHooks.within (by decide),
    deviceReports_of_within (bundle.neat_checkMounts tree).within (by decide),
    deviceReports_of_within bundle.config.neat_checkAnnotations.within (by decide),
    deviceReports_of_within bundle.config.neat_checkLinux.within (by decide)]

theorem exists_checkRoot_eq_ok_iff :
    (∃ root, bundle.checkRoot tree = .ok root) ↔
      (bundle.config.root.path ≠ "" → tree.Settles bundle.rootfs) := by
  unfold checkRoot FileTree.Settles
  split
  next empty => exact iff_of_true ⟨[], rfl⟩ (absurd empty ·)
  next named =>
    rw [← ne_eq] at named
    split <;> simp_all

/-- A validation ends where the paths that it must know about can be looked at. -/
theorem exists_validate_eq_ok_iff {host : Host} (wanted : bundle.host = some host)
    (configured : bundle.config.linux = some linux) :
    (∃ found, bundle.validate tree = .ok found) ↔
      (bundle.config.root.path ≠ "" → tree.Settles bundle.rootfs) ∧
        ∀ device ∈ linux.devices, device.Compared → tree.Settles device.path := by
  have devices (reports : List Violation) : bundle.checkHostDevices tree = .ok reports ↔
      linux.checkHostDevices tree = .ok reports := by
    rw [checkHostDevices, wanted, configured]
  rw [← exists_checkRoot_eq_ok_iff]
  unfold validate
  simp only [bind_eq_ok_iff, devices, Linux.checkHostDevices_eq_ok_iff]
  constructor
  · rintro ⟨found, root, rooted, reports, ⟨settles, same⟩, joined⟩
    exact ⟨⟨root, rooted⟩, settles⟩
  · rintro ⟨⟨root, rooted⟩, settles⟩
    exact ⟨_, root, rooted, _, ⟨settles, rfl⟩, rfl⟩

/-- **The comparison of the devices with the host is exact.** Where the nodes of the host have small
numbers, a validation ends just when each path it must know about can be looked at or leads nowhere.
Then what is reported about the nodes of the host is what is reported about the devices one after the
other: nothing about a device that is not compared or that the host does not have, and else one
violation for another kind, or one for each trait that differs. -/
theorem devices_compared {host : Host} (wanted : bundle.host = some host)
    (configured : bundle.config.linux = some linux) (small : tree.SmallNumbers) :
    ((∃ found, bundle.validate tree = .ok found) ↔
      (bundle.config.root.path ≠ "" → tree.Settles bundle.rootfs) ∧
        ∀ device ∈ linux.devices, device.Compared → tree.Settles device.path) ∧
    ∀ found, bundle.validate tree = .ok found →
      deviceReports found =
          (List.range linux.devices.length).flatMap (deviceReportsAt found) ∧
        ∀ (index : Nat) (device : Device), linux.devices[index]? = some device →
          device.Judged tree (deviceReportsAt found index) := by
  refine ⟨exists_validate_eq_ok_iff wanted configured, fun found done => ?_⟩
  have compared : linux.checkHostDevices tree = .ok (deviceReports found) := by
    have compared := deviceReports_validate done
    rwa [checkHostDevices, wanted, configured] at compared
  obtain ⟨_, same⟩ := Linux.checkHostDevices_eq_ok_iff.mp compared
  have own (index : Nat) (device : Device) (placed : linux.devices[index]? = some device) :
      device.hostReports tree index = deviceReportsAt found index := by
    have named (index : Nat) (device : Device) : ∀ violation ∈ device.hostReports tree index,
        violation.subject = itemPath "linux.devices" index :=
      fun _ => Device.subject_of_mem_hostReports
    rw [deviceReportsAt, ← same]
    exact (Violation.filter_each named placed).symm
  refine ⟨same.symm.trans (Violation.each_eq_flatMap_range own), fun index device placed => ?_⟩
  rw [← own index device placed]
  exact Device.judged_hostReports small device index

/-- A device like the one of the host, one with a negative number, another mode and another group, one
of another kind and one whose path is relative. -/
theorem devices_compared_null :
    let null : Device := ⟨"/dev/null", "c", 1, 3, some 0o666, none, none⟩
    let other : Device := { null with major := -1, fileMode := some 0o600, gid := some 5 }
    let block : Device := { null with kind := "b" }
    let relative : Device := { null with path := "dev/null", minor := 0 }
    let linux : Linux := { (default : Linux) with devices := [null, other, block, relative] }
    let bundle : Bundle := ⟨"/b", { (default : Config) with linux := some linux }, some default⟩
    let node : Node := ⟨.charDevice, [], 0o20666, 0, 0, 1, 3⟩
    let tree : FileTree := ⟨[(["dev"], .directory), (["dev", "null"], node)], []⟩
    tree.SmallNumbers ∧ ∃ found, bundle.validate tree = .ok found ∧
      deviceReportsAt found 0 = [] ∧ (deviceReportsAt found 1).length = 3 ∧
      (deviceReportsAt found 2).length = 1 ∧ deviceReportsAt found 3 = [] := by
  intro null other block relative linux bundle node tree
  have small : tree.SmallNumbers := by
    unfold FileTree.SmallNumbers
    decide
  have found : tree.find "/dev/null" = .ok node := by decide +kernel
  have wanted : bundle.host = some default := rfl
  have configured : bundle.config.linux = some linux := rfl
  obtain ⟨ends, judged⟩ := devices_compared wanted configured small
  have settles : ∀ device ∈ linux.devices, device.Compared → tree.Settles device.path := by
    intro device inside compared fault refused
    have path : device.path = "/dev/null" := by
      simp only [linux, List.mem_cons, List.not_mem_nil, or_false] at inside
      rcases inside with rfl | rfl | rfl | rfl
      · rfl
      · rfl
      · rfl
      · exact absurd compared.2 (by decide)
    rw [path, found] at refused
    cases refused
  obtain ⟨reports, done⟩ := ends.mpr ⟨absurd rfl, settles⟩
  obtain ⟨_, judged⟩ := judged reports done
  have likeHost := (judged 0 null rfl).contrasted ⟨by decide, by decide⟩ node found
  have differs := (judged 1 other rfl).contrasted ⟨by decide, by decide⟩ node found
  have apart := (judged 2 block rfl).contrasted ⟨by decide, by decide⟩ node found
  refine ⟨small, reports, done, likeHost.alike.mpr ⟨.char, ?_⟩, ?_, ?_,
    (judged 3 relative rfl).skipped (.inl fun compared => absurd compared.2 (by decide))⟩
  · intro trait
    cases trait <;> decide
  · have told := (differs.traits .char).length_eq
    rw [List.length_map] at told
    exact told.symm.trans (by decide)
  · have unnamed : ¬ NodeKind.Named DeviceKind.block.text .charDevice :=
      mt DeviceKind.named_text_iff.mp (by decide)
    have told := congrArg List.length (apart.kind unnamed)
    rwa [List.length_map] at told

end Bundle

end OciBundle
