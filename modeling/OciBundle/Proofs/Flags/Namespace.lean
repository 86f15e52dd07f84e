/-
**What flags about namespaces build.**

Each of these flags is about namespaces of one kind, and no two about those of the same kind. So
afterwards the namespaces are the ones that flags ask for, at their paths, and of the old ones those
that no flag is about.

* `NamespaceFlags.namespaces_of_edit`: what one flag changes.
* `NamespaceFlags.Settles`, `settles_runAll`: the flags one after the other.
* `NamespaceFlags.built`: what all flags of the group build.
-/

import OciBundle.Flags.Namespace
import OciBundle.Proofs.Flags.Step
import OciBundle.Proofs.Keyed.History

namespace OciBundle.NamespaceFlags

open Config (Kept Steady)
open Keyed (Change)
open Step (AllAsk exists_of_runAll_append exists_of_runAll_ofOption kept_runAll)

variable {config result : Config} {draft after : Draft} {name path : String}
  {entries : List (String × Option String)}

/-! ### One flag -/

/-- Whether a name is the text of the kind that it is read as. -/
def IsProper (name : String) : Prop :=
  ∃ kind, LinuxEdit.readKind name = .ok kind ∧ kind.text = name

/-- The change of the namespaces that a flag asks for. -/
def change (name path : String) : Change String Namespace :=
  if path = "host" then .remove name else .put ⟨name, path⟩

theorem touches_change {kind : String} :
    (change name path).Touches Namespace.kind kind ↔ name = kind := by
  rw [change]
  split <;> exact Iff.rfl

theorem change_eq_put {listed : Namespace} :
    change name path = .put listed ↔ path ≠ "host" ∧ listed = ⟨name, path⟩ := by
  rw [change]
  split
  next host => simp [host]
  next other => simp [other, eq_comm]

theorem namespaces_of_edit (proper : IsProper name)
    (done : (edit name path).apply config = .ok result) :
    result.namespaces = (change name path).apply Namespace.kind config.namespaces := by
  obtain ⟨kind, read, rfl⟩ := proper
  rw [change]
  unfold edit at done
  split at done
  next host =>
    obtain ⟨other, read', equal⟩ := exists_of_bind_eq_ok done
    cases equal
    cases read.symm.trans read'
    rw [if_pos host]
    exact Config.namespaces_mapLinux (List.filter _) (fun _ => rfl) List.filter_nil
  next other =>
    obtain ⟨other, read', equal⟩ := exists_of_bind_eq_ok done
    cases equal
    cases read.symm.trans read'
    rw [if_neg other]
    rfl

theorem steady_of_edit (done : (edit name path).apply config = .ok result) :
    Steady config result := by
  unfold edit at done
  split at done
  next =>
    obtain ⟨kind, _, equal⟩ := exists_of_bind_eq_ok done
    cases equal
    exact Config.steady_mapLinux fun linux whole =>
      { whole with
        namespaces := fun entry member => whole.namespaces entry (List.mem_filter.mp member).1 }
  next =>
    obtain ⟨kind, _, equal⟩ := exists_of_bind_eq_ok done
    cases equal
    exact Config.steady_withLinux fun linux whole =>
      { whole with namespaces := Keyed.forall_mem_put whole.namespaces kind.text_ne_empty }

/-! ### All flags -/

/-- The steps that a flag of a namespace asks for. -/
def entrySteps (entry : String × Option String) : List Step :=
  Step.ofOption ("--" ++ entry.1) (.linux ∘ edit entry.1) entry.2

/-- Entries settle which namespaces there are afterwards: those that they ask for, and the ones
before of kinds that they leave alone. -/
def Settles (entries : List (String × Option String)) (before after : List Namespace) : Prop :=
  ∀ listed : Namespace, listed ∈ after ↔
    ((listed.kind, some listed.path) ∈ entries ∧ listed.path ≠ "host") ∨
      listed ∈ before ∧ ∀ path, (listed.kind, some path) ∉ entries

/-- Which paths are joined afterwards, where there are only new namespaces before. -/
theorem Settles.forall_paths_iff {before after : List Namespace}
    (settled : Settles entries before after) (fresh : ∀ entry ∈ before, entry.path = "") :
    (∀ entry ∈ after, entry.path = "" ∨ Text.isAbsolute entry.path = true) ↔
      ∀ kind path, (kind, some path) ∈ entries →
        path = "" ∨ path = "host" ∨ Text.isAbsolute path = true := by
  constructor
  · intro paths kind path asked
    by_cases host : path = "host"
    · exact .inr (.inl host)
    · have member : ⟨kind, path⟩ ∈ after := (settled ⟨kind, path⟩).mpr (.inl ⟨asked, host⟩)
      exact (paths ⟨kind, path⟩ member).imp_right .inr
  · intro paths entry member
    rcases (settled entry).mp member with ⟨asked, other⟩ | ⟨old, _⟩
    · exact (paths entry.kind entry.path asked).imp_right (·.resolve_left other)
    · exact .inl (fresh entry old)

theorem Settles.cons_none {before after : List Namespace} (settled : Settles entries before after) :
    Settles ((name, none) :: entries) before after := by
  intro listed
  rw [settled listed]
  simp

/-- An entry that asks for something, in front of entries about other kinds. -/
theorem Settles.cons_some {before after : List Namespace}
    (absent : ∀ other, (name, some other) ∉ entries)
    (nodup : (before.map Namespace.kind).Nodup)
    (settled : Settles entries ((change name path).apply Namespace.kind before) after) :
    Settles ((name, some path) :: entries) before after := by
  intro listed
  rw [settled listed, Keyed.mem_apply nodup, change_eq_put, touches_change]
  by_cases same : listed.kind = name
  · have here : listed = ⟨name, path⟩ ↔ listed.path = path := by
      rw [← same]
      exact ⟨fun equal => congrArg Namespace.path equal, fun equal => equal ▸ rfl⟩
    simp only [same, here, absent, List.mem_cons, Prod.mk.injEq, Option.some.injEq, true_and,
      false_and, false_or, or_false, not_true, not_false_eq_true, implies_true, and_true]
    constructor
    · rintro ⟨joined, equal⟩
      exact .inl ⟨equal, equal ▸ joined⟩
    · rintro (⟨equal, joined⟩ | ⟨_, none⟩)
      · exact ⟨equal ▸ joined, equal⟩
      · exact absurd rfl (none path)
  · have other : listed ≠ ⟨name, path⟩ := fun equal => same (congrArg Namespace.kind equal)
    simp [same, other, Ne.symm same]

/-- **Flags about different kinds, one after the other.** -/
theorem settles_runAll (proper : ∀ entry ∈ entries, IsProper entry.1)
    (different : (entries.map Prod.fst).Nodup)
    (nodup : (draft.config.namespaces.map Namespace.kind).Nodup)
    (done : Step.runAll draft (entries.flatMap entrySteps) = .ok after) :
    Settles entries draft.config.namespaces after.config.namespaces := by
  induction entries generalizing draft with
  | nil =>
    cases done
    intro listed
    simp
  | cons entry entries hypothesis =>
    obtain ⟨name, value⟩ := entry
    obtain ⟨between, here, later⟩ := exists_of_runAll_append done
    obtain ⟨first, others⟩ := List.forall_mem_cons.mp proper
    obtain ⟨fresh, apart⟩ := List.nodup_cons.mp different
    rcases exists_of_runAll_ofOption here with ⟨absent, rfl⟩ | ⟨path, decisions, given, step⟩
    · cases absent
      exact (hypothesis others apart nodup later).cons_none
    · cases given
      have changed := namespaces_of_edit first (Draft.yields_apply step)
      have kinds : (between.config.namespaces.map Namespace.kind).Nodup := by
        rw [changed]
        exact Keyed.nodup_apply nodup _
      have absent (other : String) : (name, some other) ∉ entries := fun member =>
        fresh (List.mem_map.mpr ⟨_, member, rfl⟩)
      refine .cons_some absent nodup ?_
      rw [← changed]
      exact hypothesis others apart kinds later

/-- The flags' names are texts of kinds. -/
theorem proper_entries (flags : NamespaceFlags) : ∀ entry ∈ flags.entries, IsProper entry.1 := by
  simp only [entries, List.forall_mem_cons]
  exact ⟨⟨.network, rfl, rfl⟩, ⟨.pid, rfl, rfl⟩, ⟨.mount, rfl, rfl⟩, ⟨.ipc, rfl, rfl⟩,
    ⟨.uts, rfl, rfl⟩, ⟨.user, rfl, rfl⟩, ⟨.cgroup, rfl, rfl⟩, nofun⟩

theorem nodup_entries (flags : NamespaceFlags) : (flags.entries.map Prod.fst).Nodup := by
  show ["network", "pid", "mount", "ipc", "uts", "user", "cgroup"].Nodup
  decide

variable {flags : NamespaceFlags}

theorem steady_runAll (done : Step.runAll draft (entries.flatMap entrySteps) = .ok after) :
    Steady draft.config after.config := by
  have asks : AllAsk (fun change => ∃ name path, change = .linux (edit name path))
      (entries.flatMap entrySteps) := by
    simp [entrySteps]
  refine Step.holds_runAll (fun other => Steady draft.config other.config) asks ?_ (.refl _) done
  rintro before after _ decisions ⟨name, path, rfl⟩ step kept
  exact kept.trans (steady_of_edit (Draft.yields_apply step))

/-- **What flags about namespaces build.** -/
theorem built (nodup : (draft.config.namespaces.map Namespace.kind).Nodup)
    (done : Step.runAll draft flags.steps = .ok after) :
    Steady draft.config after.config ∧
      Settles flags.entries draft.config.namespaces after.config.namespaces := by
  obtain ⟨second, done, groups⟩ := exists_of_runAll_append done
  obtain ⟨first, named, users⟩ := exists_of_runAll_append done
  have mappings : Kept first.config after.config :=
    (kept_runAll (by simp [Edit.IsTame, LinuxEdit.IsTame]) users).trans
      (kept_runAll (by simp [Edit.IsTame, LinuxEdit.IsTame]) groups)
  refine ⟨(steady_runAll named).trans mappings.toSteady, ?_⟩
  rw [mappings.namespaces]
  exact settles_runAll flags.proper_entries flags.nodup_entries nodup named

end OciBundle.NamespaceFlags
