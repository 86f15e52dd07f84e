/-
**The texts of mounts.**

A text of a mount is its destination, for a bind mount with the source in front, and options between
commas behind a further colon. Empty options are left out, and a bind mount gets the option that makes
it one if none of its own does. So a mount that is read has a plain text, with a colon before its
options even where it has none, that is read as the same mount.

* `Mount.Binds`: options that make a bind mount.
* `Mount.Lists`, `Mount.BindText`, `Mount.TmpfsText`: the options that a text gives, and the texts of
  mounts.
* `Mount.readBind_eq_ok_iff`, `Mount.readTmpfs_eq_ok_iff`: what is read are the texts of mounts.
* `Mount.writeBind`, `Mount.writeTmpfs`: the plain texts.
* `Mount.readBind_writeBind`, `Mount.readTmpfs_writeTmpfs`: a mount is read from its plain text.
* `Mount.exists_readTmpfs_iff`: which texts are read as temporary file systems.
* `Mount.texts_stable`: what is known of every mount that is read.
-/

import Mathlib.Data.List.TakeWhile
import OciBundle.Config.Notation
import OciBundle.Proofs.Text.Separated

namespace OciBundle.Mount

variable {mount : Mount} {input text source destination : String} {given options : List String}

/-! ### Options -/

/-- **Options that make a bind mount.** -/
def Binds (options : List String) : Prop :=
  "bind" ∈ options ∨ "rbind" ∈ options

theorem bindsIn_iff : bindsIn options = true ↔ Binds options := by
  rw [bindsIn, List.any_eq_true, Binds]
  constructor
  · rintro ⟨option, inside, same⟩
    rcases Bool.or_eq_true_iff.mp same with same | same
    · exact .inl (of_decide_eq_true same ▸ inside)
    · exact .inr (of_decide_eq_true same ▸ inside)
  · rintro (inside | inside)
    · exact ⟨_, inside, by decide⟩
    · exact ⟨_, inside, by decide⟩

/-- **The options that a text gives**: what stands between its commas, where something does. -/
def Lists (text : String) (given : List String) : Prop :=
  ∃ fields, fields ≠ [] ∧ text = ",".intercalate fields ∧ (∀ field ∈ fields, ',' ∉ field.toList) ∧
    given = fields.filter (· ≠ "")

theorem lists_iff : Lists text given ↔ Text.items text = given := by
  constructor
  · rintro ⟨fields, some, joined, free, rfl⟩
    rw [Text.items, Text.fields_eq_iff.mpr ⟨some, joined, free⟩]
  · rintro rfl
    obtain ⟨some, joined, free⟩ := Text.fields_eq_iff.mp (rfl : Text.fields ',' text = _)
    exact ⟨Text.fields ',' text, some, joined, free, rfl⟩

/-- The options of a bind mount: the given ones, and one that makes it a bind mount if none of them
does. -/
def Completes (given options : List String) : Prop :=
  Binds given ∧ options = given ∨ ¬ Binds given ∧ options = given ++ ["bind"]

theorem completes_iff :
    Completes given options ↔ (if bindsIn given then given else given ++ ["bind"]) = options := by
  by_cases binds : Binds given
  · rw [if_pos (bindsIn_iff.mpr binds), Completes, eq_comm (a := given)]
    simp [binds]
  · rw [if_neg (mt bindsIn_iff.mp binds), Completes, eq_comm (a := given ++ ["bind"])]
    simp [binds]

theorem Completes.binds (completes : Completes given options) : Binds options := by
  rcases completes with ⟨binds, rfl⟩ | ⟨_, rfl⟩
  · exact binds
  · exact .inl (List.mem_append_right _ List.mem_cons_self)

/-! ### Texts of mounts -/

/-- A path in a text of a mount: it is not empty and has no colon. -/
def IsField (path : String) : Prop :=
  path ≠ "" ∧ ':' ∉ path.toList

/-- **The texts of bind mounts**: a source and a destination with a colon between them, and options
behind another one. Without these the mount is read-only. -/
inductive BindText (source destination : String) : List String → String → Prop
  | bare : BindText source destination ["ro"] (source ++ ":" ++ destination)
  | listed {list : String} {items : List String} (lists : Lists list items) :
    BindText source destination items (source ++ ":" ++ destination ++ ":" ++ list)

/-- **The texts of temporary file systems**: a destination, and options behind a colon. Without these
the mount has the default ones. -/
inductive TmpfsText (destination : String) : List String → String → Prop
  | bare : TmpfsText destination defaultTmpfsOptions destination
  | listed {list : String} {items : List String} (lists : Lists list items) :
    TmpfsText destination items (destination ++ ":" ++ list)

/-- **What is read as a bind mount.** -/
theorem readBind_eq_ok_iff : readBind input = .ok mount ↔
    mount.kind = "bind" ∧ IsField mount.source ∧ IsField mount.destination ∧
      ∃ given, BindText mount.source mount.destination given input ∧
        Completes given mount.options := by
  constructor
  · intro done
    unfold readBind at done
    dsimp only at done
    split at done
    next list cut =>
      split at done
      next => cases done
      next named =>
        obtain ⟨named, named'⟩ := not_or.mp named
        cases done
        cases list with
        | none =>
          obtain ⟨rfl, free, free'⟩ := Text.cutTwice_eq_none_iff.mp cut
          exact ⟨rfl, ⟨named, free⟩, ⟨named', free'⟩, ["ro"], .bare, completes_iff.mpr rfl⟩
        | some list =>
          obtain ⟨rfl, free, free'⟩ := Text.cutTwice_eq_some_iff.mp cut
          exact ⟨rfl, ⟨named, free⟩, ⟨named', free'⟩, _, .listed (lists_iff.mpr rfl),
            completes_iff.mpr rfl⟩
    next => cases done
  · rintro ⟨kind, ⟨named, free⟩, ⟨named', free'⟩, given, bind, completes⟩
    have named := not_or.mpr ⟨named, named'⟩
    have options := completes_iff.mp completes
    cases bind with
    | bare =>
      have cut : Text.cutTwice ':' (mount.source ++ ":" ++ mount.destination) =
          (mount.source, some mount.destination, none) :=
        Text.cutTwice_eq_none_iff.mpr ⟨rfl, free, free'⟩
      unfold readBind
      simp only [cut, if_neg named, options]
      rw [← kind]
    | @listed list _ lists =>
      have cut : Text.cutTwice ':' (mount.source ++ ":" ++ mount.destination ++ ":" ++ list) =
          (mount.source, some mount.destination, some list) :=
        Text.cutTwice_eq_some_iff.mpr ⟨rfl, free, free'⟩
      unfold readBind
      simp only [cut, if_neg named, lists_iff.mp lists, options]
      rw [← kind]

/-- **What is read as a temporary file system.** -/
theorem readTmpfs_eq_ok_iff : readTmpfs input = .ok mount ↔
    mount.kind = "tmpfs" ∧ mount.source = "tmpfs" ∧ IsField mount.destination ∧
      TmpfsText mount.destination mount.options input := by
  constructor
  · intro done
    unfold readTmpfs at done
    cases cut : Text.cut ':' input with
    | none =>
      simp only [cut] at done
      split at done
      next => cases done
      next named =>
        cases done
        exact ⟨rfl, rfl, ⟨named, Text.cut_eq_none_iff.mp cut⟩, .bare⟩
    | some parts =>
      simp only [cut] at done
      split at done
      next => cases done
      next named =>
        cases done
        obtain ⟨rfl, free⟩ := Text.cut_eq_some_iff.mp cut
        exact ⟨rfl, rfl, ⟨named, free⟩, .listed (lists_iff.mpr rfl)⟩
  · rintro ⟨kind, source, ⟨named, free⟩, tmpfs⟩
    obtain ⟨destination, _, _, options⟩ := mount
    cases kind
    cases source
    unfold readTmpfs
    cases tmpfs with
    | bare =>
      simp only [Text.cut_eq_none_iff.mpr free]
      exact if_neg named
    | @listed list _ lists =>
      have cut : Text.cut ':' (destination ++ ":" ++ list) = some (destination, list) :=
        Text.cut_eq_some_iff.mpr ⟨rfl, free⟩
      simp only [cut, lists_iff.mp lists]
      exact if_neg named

/-! ### Plain texts -/

/-- The plain text of a bind mount. -/
def writeBind (mount : Mount) : String :=
  mount.source ++ ":" ++ mount.destination ++ ":" ++ ",".intercalate mount.options

/-- The plain text of a temporary file system. -/
def writeTmpfs (mount : Mount) : String :=
  mount.destination ++ ":" ++ ",".intercalate mount.options

/-- Options as they are listed: none is empty, and none has a comma. -/
def Proper (options : List String) : Prop :=
  ∀ option ∈ options, option ≠ "" ∧ ',' ∉ option.toList

theorem Lists.proper (lists : Lists text given) : Proper given :=
  lists_iff.mp lists ▸ fun _ => Text.mem_items

theorem Proper.lists (proper : Proper options) : Lists (",".intercalate options) options :=
  lists_iff.mpr (Text.items_intercalate proper)

theorem BindText.proper (bind : BindText source destination given input) : Proper given := by
  cases bind with
  | bare => simp [Proper]
  | listed lists => exact lists.proper

theorem TmpfsText.proper (tmpfs : TmpfsText destination given input) : Proper given := by
  cases tmpfs with
  | bare => simp [Proper, defaultTmpfsOptions]
  | listed lists => exact lists.proper

theorem Completes.proper (completes : Completes given options) (proper : Proper given) :
    Proper options := by
  rcases completes with ⟨_, rfl⟩ | ⟨_, rfl⟩
  · exact proper
  · exact List.forall_mem_append.mpr ⟨proper, List.forall_mem_singleton.mpr (by decide)⟩

/-- **A bind mount that is read is read from its plain text as well.** Its options already have one
that makes it a bind mount, so none is added. -/
theorem readBind_writeBind (done : readBind input = .ok mount) :
    readBind mount.writeBind = .ok mount := by
  obtain ⟨kind, source, destination, given, bind, completes⟩ := readBind_eq_ok_iff.mp done
  have proper : Proper mount.options := completes.proper bind.proper
  exact readBind_eq_ok_iff.mpr ⟨kind, source, destination, mount.options, .listed proper.lists,
    .inl ⟨completes.binds, rfl⟩⟩

/-- **A temporary file system that is read is read from its plain text as well**, and gets no default
options from it if it has none. -/
theorem readTmpfs_writeTmpfs (done : readTmpfs input = .ok mount) :
    readTmpfs mount.writeTmpfs = .ok mount := by
  obtain ⟨kind, source, destination, tmpfs⟩ := readTmpfs_eq_ok_iff.mp done
  exact readTmpfs_eq_ok_iff.mpr ⟨kind, source, destination, .listed tmpfs.proper.lists⟩

/-! ### All texts -/

/-- Every text has a destination, which may be empty. -/
theorem exists_tmpfsText (input : String) :
    ∃ destination given, TmpfsText destination given input ∧ ':' ∉ destination.toList := by
  cases cut : Text.cut ':' input with
  | none => exact ⟨input, _, .bare, Text.cut_eq_none_iff.mp cut⟩
  | some parts =>
    obtain ⟨rfl, free⟩ := Text.cut_eq_some_iff.mp cut
    exact ⟨_, _, .listed (lists_iff.mpr rfl), free⟩

/-- The destination is the text before the first colon. -/
theorem TmpfsText.takeWhile_eq (tmpfs : TmpfsText destination given input)
    (free : ':' ∉ destination.toList) :
    input.toList.takeWhile (· ≠ ':') = destination.toList := by
  have all : ∀ char ∈ destination.toList, decide (char ≠ ':') = true :=
    fun char inside => decide_eq_true fun same => free (same ▸ inside)
  cases tmpfs with
  | bare => exact List.takeWhile_eq_self_iff.mpr all
  | listed _ =>
    rw [String.toList_append, String.toList_append, List.append_assoc,
      List.takeWhile_append_of_pos all]
    exact List.append_nil _

theorem exists_readTmpfs_iff :
    (∃ mount, readTmpfs input = .ok mount) ↔ input.toList.takeWhile (· ≠ ':') ≠ [] := by
  constructor
  · rintro ⟨mount, done⟩
    obtain ⟨_, _, ⟨named, free⟩, tmpfs⟩ := readTmpfs_eq_ok_iff.mp done
    rw [tmpfs.takeWhile_eq free]
    exact mt String.toList_eq_nil_iff.mp named
  · intro some
    obtain ⟨destination, given, tmpfs, free⟩ := exists_tmpfsText input
    rw [tmpfs.takeWhile_eq free] at some
    have named : destination ≠ "" := mt String.toList_eq_nil_iff.mpr some
    exact ⟨⟨destination, "tmpfs", "tmpfs", given⟩,
      readTmpfs_eq_ok_iff.mpr ⟨rfl, rfl, ⟨named, free⟩, tmpfs⟩⟩

/-- **A bind mount as it is read.** -/
structure Bound (mount : Mount) : Prop where
  kind : mount.kind = "bind"
  source : IsField mount.source
  destination : IsField mount.destination
  options : ∀ option ∈ mount.options, option ≠ ""
  binds : Binds mount.options

/-- **What is known of every mount that is read.** A bind mount has a source, a destination, no empty
option and one that makes it a bind mount, which is added at the end exactly if its text gives none;
both kinds of mounts are read from their plain texts as what they are; and of a temporary file system,
the text needs a destination and nothing else. -/
theorem texts_stable :
    (∀ input mount, readBind input = .ok mount →
      mount.Bound ∧
      (∃ given, BindText mount.source mount.destination given input ∧
        (Binds given → mount.options = given) ∧
        (¬ Binds given → mount.options = given ++ ["bind"])) ∧
      readBind mount.writeBind = .ok mount) ∧
    (∀ input mount, readTmpfs input = .ok mount → readTmpfs mount.writeTmpfs = .ok mount) ∧
    ∀ input, (∃ mount, readTmpfs input = .ok mount) ↔ input.toList.takeWhile (· ≠ ':') ≠ [] := by
  refine ⟨fun input mount done => ⟨?bound, ?completed, readBind_writeBind done⟩,
    fun _ _ => readTmpfs_writeTmpfs, fun _ => exists_readTmpfs_iff⟩
  case bound =>
    obtain ⟨kind, source, destination, given, bind, completes⟩ := readBind_eq_ok_iff.mp done
    exact ⟨kind, source, destination,
      fun option inside => (completes.proper bind.proper option inside).1, completes.binds⟩
  case completed =>
    obtain ⟨_, _, _, given, bind, completes⟩ := readBind_eq_ok_iff.mp done
    refine ⟨given, bind, fun binds => ?_, fun lacks => ?_⟩
    · exact completes.elim And.right fun other => absurd binds other.1
    · exact completes.elim (fun other => absurd other.1 lacks) And.right

/-- An option with a colon, empty options and none that makes a bind mount; and a temporary file system
with a colon but no options. -/
theorem texts_stable_separators :
    (∃ mount, readBind "/a:/b:,x=1:2,,rw," = .ok mount ∧ mount.options = ["x=1:2", "rw", "bind"] ∧
      mount.writeBind = "/a:/b:x=1:2,rw,bind" ∧ readBind "/a:/b:x=1:2,rw,bind" = .ok mount) ∧
    ∃ mount, readTmpfs "/run:," = .ok mount ∧ mount.options = [] ∧
      mount.writeTmpfs = "/run:" ∧ readTmpfs "/run:" = .ok mount := by
  obtain ⟨binds, others, _⟩ := texts_stable
  have bind : readBind "/a:/b:,x=1:2,,rw," =
      .ok ⟨"/b", "bind", "/a", ["x=1:2", "rw", "bind"]⟩ := by
    decide +kernel
  have tmpfs : readTmpfs "/run:," = .ok ⟨"/run", "tmpfs", "tmpfs", []⟩ := by
    decide +kernel
  exact ⟨⟨_, bind, rfl, by decide +kernel, (binds _ _ bind).2.2⟩,
    ⟨_, tmpfs, rfl, by decide +kernel, others _ _ tmpfs⟩⟩

end OciBundle.Mount
