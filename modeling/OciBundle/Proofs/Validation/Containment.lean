/-
**Where a container's paths are looked up.**

The destinations of mounts and the profile are looked up below the root file system. Where their
components never lead above it, and the profile is not absolute, nothing elsewhere decides on the
rules about them. An absolute profile stands for itself, and `..` is followed out of the root file
system, so such paths see the nodes around it.

* `Config.Contained`: a configuration whose paths stay in the root file system.
* `Bundle.checkDestination_eq`, `Bundle.checkProfile_eq`: the rules of paths that stay there.
* `Bundle.validate_eq`: a whole validation.
* `Bundle.contained_lookups`: all of them, for trees that agree below the root file system.
* `Bundle.lookups_escape`: paths that lead out of it.
-/

import OciBundle.Proofs.FileTree.Below
import OciBundle.Proofs.Validation.Reports
import OciBundle.Validation.Bundle

namespace OciBundle

/-! ### Paths in a root file system -/

namespace Path

theorem isAbsolute_dropWhile (path : String) :
    Text.isAbsolute (String.ofList (path.toList.dropWhile (· = '/'))) = false := by
  rw [Text.isAbsolute, String.toList_ofList]
  cases shape : (path.toList.dropWhile (· = '/')).head? with
  | none => rfl
  | some first =>
    have other := List.head?_dropWhile_not (· = '/') path.toList
    rw [shape] at other
    simpa using other

theorem join_of_slash {base path : String} (relative : Text.isAbsolute path = false)
    (slash : base.toList = [] ∨ base.toList.getLast? = some '/') : join base path = base ++ path := by
  rw [join, if_neg (by simp [relative]), if_pos slash]

theorem join_of_no_slash {base path : String} (relative : Text.isAbsolute path = false)
    (bare : ¬ (base.toList = [] ∨ base.toList.getLast? = some '/')) :
    join base path = base ++ "/" ++ path := by
  rw [join, if_neg (by simp [relative]), if_neg bare]

/-- What stands before a relative path, where it is joined to a base. -/
theorem exists_join_eq_append (base : String) :
    ∃ front, ∀ path, Text.isAbsolute path = false → join base path = front ++ path := by
  by_cases slash : base.toList = [] ∨ base.toList.getLast? = some '/'
  · exact ⟨base, fun _ relative => join_of_slash relative slash⟩
  · exact ⟨base ++ "/", fun _ relative => join_of_no_slash relative slash⟩

/-- A path below a path below another one. -/
theorem join_join {base middle path : String} (relative : Text.isAbsolute middle = false)
    (relative' : Text.isAbsolute path = false) (named : middle ≠ "")
    (ends : middle.toList.getLast? ≠ some '/') :
    join (join base middle) path = join base (middle ++ "/" ++ path) := by
  obtain ⟨front, joined⟩ := exists_join_eq_append base
  have filled : middle.toList ≠ [] := mt String.toList_eq_nil_iff.mp named
  have longer : Text.isAbsolute (middle ++ "/" ++ path) = false := by
    rw [String.append_assoc, Text.isAbsolute_append named, relative]
  have no_slash : ¬ ((front ++ middle).toList = [] ∨
      (front ++ middle).toList.getLast? = some '/') := by
    rw [String.toList_append, List.getLast?_append_of_ne_nil _ filled]
    exact not_or.mpr ⟨List.append_ne_nil_of_right_ne_nil _ filled, ends⟩
  rw [joined middle relative, joined _ longer, join_of_no_slash relative' no_slash]
  simp only [String.append_assoc]

end Path

/-! ### Checks of paths that stay -/

/-- A destination that is looked up stays in the root file system. -/
def Mount.Contained (mount : Mount) : Prop :=
  Text.isAbsolute mount.destination = true → Path.Stays mount.destination

instance (mount : Mount) : Decidable mount.Contained :=
  inferInstanceAs (Decidable (_ → _))

namespace Config

/-- Where the profile lies in the root file system, unless it is absolute. -/
def profile (config : Config) : String :=
  "etc/apparmor.d/" ++ config.process.apparmorProfile

/-- **The paths of a container stay in its root file system.** -/
structure Contained (config : Config) : Prop where
  destinations : ∀ mount ∈ config.mounts, mount.Contained
  relative : Text.isAbsolute config.process.apparmorProfile = false
  profile : Path.Stays config.profile

end Config

namespace Bundle

open FileTree (AgreeBelow toOption_find_join contains_eq_of_toOption isDirectory_eq_of_toOption)
open Violation (Reports)

variable {bundle : Bundle} {tree tree' : FileTree}

theorem checkDestination_eq (agree : AgreeBelow bundle.rootfs tree tree') (index : Nat)
    {mount : Mount} (contained : mount.Contained) :
    bundle.checkDestination tree index mount = bundle.checkDestination tree' index mount := by
  cases absolute : Text.isAbsolute mount.destination with
  | false =>
    unfold checkDestination
    simp only [absolute, Bool.not_false, Bool.true_or]
  | true =>
    have stays := Path.stays_dropWhile_iff.mpr (contained absolute)
    have found : (tree.find (bundle.destinationPath mount)).toOption =
        (tree'.find (bundle.destinationPath mount)).toOption :=
      toOption_find_join agree (Path.isAbsolute_dropWhile _) stays
    rw [checkDestination, checkDestination, isDirectory_eq_of_toOption found]

theorem checkProfile_eq (agree : AgreeBelow bundle.rootfs tree tree')
    (relative : Text.isAbsolute bundle.config.process.apparmorProfile = false)
    (stays : Path.Stays bundle.config.profile) :
    bundle.checkProfile tree = bundle.checkProfile tree' := by
  have placed : bundle.profilePath = Path.join bundle.rootfs bundle.config.profile :=
    Path.join_join (by decide) relative (by decide) (by decide)
  have inside : Text.isAbsolute bundle.config.profile = false :=
    Text.isAbsolute_append (by decide) _
  have found : (tree.find bundle.profilePath).toOption = (tree'.find bundle.profilePath).toOption :=
    placed ▸ toOption_find_join agree inside stays
  rw [checkProfile, checkProfile, contains_eq_of_toOption found]

theorem checkMounts_eq (agree : AgreeBelow bundle.rootfs tree tree')
    (contained : ∀ mount ∈ bundle.config.mounts, mount.Contained) :
    bundle.checkMounts tree = bundle.checkMounts tree' := by
  refine List.flatMap_congr fun ⟨mount, index⟩ inside => ?_
  have here : mount ∈ bundle.config.mounts := List.fst_mem_of_mem_zipIdx inside
  exact congrArg (mount.check index ++ ·) (checkDestination_eq agree index (contained mount here))

/-- **The rest of the file tree is no matter of a validation** without a comparison with a host. -/
theorem validate_eq (agree : AgreeBelow bundle.rootfs tree tree')
    (contained : bundle.config.Contained) (alone : bundle.host = none)
    (root : bundle.checkRoot tree = bundle.checkRoot tree') :
    bundle.validate tree = bundle.validate tree' := by
  have devices (tree : FileTree) : bundle.checkHostDevices tree = .ok [] := by
    rw [checkHostDevices, alone]
  unfold validate
  rw [root, devices, devices, checkProfile_eq agree contained.relative contained.profile,
    checkMounts_eq agree contained.destinations]

/-- **A container's paths are looked up in its root file system only, as long as they stay there.**
Two   trees that agree on it give the same report on every such destination and on such a profile,
and   where all paths stay, a validation without a comparison with a host gives the same reports as
a   whole. -/
theorem contained_lookups (agree : AgreeBelow bundle.rootfs tree tree') :
    (∀ (index : Nat) (mount : Mount), mount.Contained →
      bundle.checkDestination tree index mount = bundle.checkDestination tree' index mount) ∧
    (Text.isAbsolute bundle.config.process.apparmorProfile = false →
      Path.Stays bundle.config.profile → bundle.checkProfile tree = bundle.checkProfile tree') ∧
    (bundle.config.Contained → bundle.checkMounts tree = bundle.checkMounts tree' ∧
      (bundle.host = none → bundle.checkRoot tree = bundle.checkRoot tree' →
        bundle.validate tree = bundle.validate tree')) :=
  ⟨fun index _ contained => checkDestination_eq agree index contained, checkProfile_eq agree,
    fun contained => ⟨checkMounts_eq agree contained.destinations,
      validate_eq agree contained⟩⟩

/-- A destination leads up and down again, a profile lies beside its directory, and only one of two
trees has another directory at the root. -/
theorem contained_lookups_climbing :
    let process : Process := { (default : Process) with apparmorProfile := "../box" }
    let mount : Mount := { (default : Mount) with destination := "//etc/../proc" }
    let root : Root := ⟨"rootfs", true⟩
    let config : Config := { (default : Config) with root, process, mounts := [mount] }
    let bundle : Bundle := ⟨"/b", config, none⟩
    let nodes := [(["b"], Node.directory), (["b", "rootfs"], .directory)]
    let tree : FileTree := ⟨nodes, []⟩
    let outside : FileTree := ⟨(["proc"], .directory) :: nodes, []⟩
    AgreeBelow bundle.rootfs tree outside ∧ bundle.config.Contained ∧
      bundle.validate tree = bundle.validate outside := by
  intro process mount root config bundle nodes tree outside
  have agree : AgreeBelow bundle.rootfs tree outside :=
    .there (by decide +kernel : tree.ground bundle.rootfs = .ok ["b", "rootfs"])
      (by decide +kernel) (FileTree.node?_cons .directory (by decide))
  have contained : config.Contained :=
    ⟨by decide +kernel, by decide +kernel, by decide +kernel⟩
  have found : tree.find bundle.rootfs = outside.find bundle.rootfs := by decide +kernel
  have roots : bundle.checkRoot tree = bundle.checkRoot outside := by
    rw [checkRoot, checkRoot, found]
  exact ⟨agree, contained, ((contained_lookups agree).2.2 contained).2 rfl roots⟩

/-- **Paths lead out of the root file system**: of two trees that agree on it, only one has a
directory   at the root, which an absolute profile names and a destination with `..` reaches. -/
theorem lookups_escape :
    let mount : Mount := { (default : Mount) with destination := "/../../out" }
    let process : Process := { (default : Process) with apparmorProfile := "/out" }
    let root : Root := ⟨"rootfs", true⟩
    let mounting : Bundle := ⟨"/b", { (default : Config) with root, mounts := [mount] }, none⟩
    let profiled : Bundle := ⟨"/b", { (default : Config) with root, process }, none⟩
    let nodes := [(["b"], Node.directory), (["b", "rootfs"], .directory)]
    let tree : FileTree := ⟨nodes, []⟩
    let outside : FileTree := ⟨(["out"], .directory) :: nodes, []⟩
    AgreeBelow mounting.rootfs tree outside ∧ AgreeBelow profiled.rootfs tree outside ∧
      Reports (mounting.checkMounts tree) .mountDestinationNotExist ∧
      ¬ Reports (mounting.checkMounts outside) .mountDestinationNotExist ∧
      Reports (profiled.checkProfile tree) .procApparmorProfileNotExist ∧
      ¬ Reports (profiled.checkProfile outside) .procApparmorProfileNotExist := by
  intro mount process root mounting profiled nodes tree outside
  have agree (bundle : Bundle) (rootfs : bundle.rootfs = "/b/rootfs") :
      AgreeBelow bundle.rootfs tree outside := by
    rw [rootfs]
    exact .there (by decide +kernel : tree.ground "/b/rootfs" = .ok ["b", "rootfs"])
      (by decide +kernel) (FileTree.node?_cons .directory (by decide))
  refine ⟨agree mounting (by decide +kernel), agree profiled (by decide +kernel), ?_⟩
  decide +kernel

end Bundle

end OciBundle
