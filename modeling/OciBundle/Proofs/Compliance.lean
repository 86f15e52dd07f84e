/-
**The command that validates and the check before a run agree.**

The command reports every violation and counts the errors on the way; the check before a run takes
the violations of demands first and prints these alone. Both come to the same verdict about every
bundle, and the check prints those lines of the command that begin as errors.

* `Compliance.reportAll_eq`: counting on the way finds the violations from the level on.
* `Bundle.lines`: the lines that a validation prints for a level.
* `Compliance.Reported`: what a report for a level is, given the violations that are found.
* `ValidateFlags.reported_run`: the command reports all violations.
* `RuntimeFlags.Heeds`: a test keeps to the verdict of a validation.
* `RuntimeFlags.heeds_run`: every test keeps to the verdict of the command.
* `Compliance.verdicts_agree`: both, and what a stricter level changes.
-/

import OciBundle.Proofs.Result
import OciBundle.RuntimeTest

namespace OciBundle

open Violation (atLeast)

namespace Compliance

variable {level stricter : Level} {violation : Violation} {violations : List Violation}
  {failure : Failure}

/-! ### Errors -/

theorem mem_atLeast :
    violation ∈ atLeast level violations ↔ violation ∈ violations ∧ isError level violation = true :=
  List.mem_filter

/-- What is an error for a level is one for every level that is less severe. -/
theorem isError_of_severity_le (harder : level.severity ≤ stricter.severity)
    (error : isError stricter violation = true) : isError level violation = true :=
  decide_eq_true (Nat.le_trans harder (of_decide_eq_true error))

/-- A more severe level leaves fewer violations from the level on. -/
theorem atLeast_sublist (harder : level.severity ≤ stricter.severity) (violations : List Violation) :
    (atLeast stricter violations).Sublist (atLeast level violations) :=
  List.monotone_filter_right violations fun _ => isError_of_severity_le harder

/-! ### Lines -/

/-- Whether a line is one of an error. -/
def isErrorLine (text : String) : Bool :=
  Text.startsWith "error: " text

theorem isErrorLine_report : isErrorLine (report level violation) = isError level violation := by
  rw [isErrorLine, Text.startsWith, report, line]
  simp only [String.toList_append]
  cases isError level violation <;> rfl

/-- The lines of a report that begin as errors are those of the violations from the level on. -/
theorem filter_isErrorLine_map_report (level : Level) (violations : List Violation) :
    (violations.map (report level)).filter isErrorLine =
      (atLeast level violations).map (line "error") := by
  have begins : isErrorLine ∘ report level = isError level := by
    funext violation
    exact isErrorLine_report
  rw [List.filter_map, begins]
  refine List.map_congr_left fun violation member => ?_
  rw [report, if_pos (List.mem_filter.mp member).2]

/-- **The loop over the violations** counts those from the level on, and prints them all. -/
theorem reportAll_eq (level : Level) (violations : List Violation) :
    reportAll level violations =
      ((atLeast level violations).length, String.join (violations.map (report level))) := by
  induction violations with
  | nil => rfl
  | cons violation rest hypothesis =>
    rw [reportAll, hypothesis, List.map_cons, String.join_cons]
    dsimp only
    cases error : isError level violation with
    | true =>
      have kept : atLeast level (violation :: rest) = violation :: atLeast level rest :=
        List.filter_cons_of_pos error
      rw [kept, List.length_cons, if_pos rfl]
    | false =>
      have dropped : atLeast level (violation :: rest) = atLeast level rest :=
        List.filter_cons_of_neg (Bool.eq_false_iff.mp error)
      rw [dropped, if_neg Bool.false_ne_true]

/-- Every level has a name that is read. -/
theorem readLevel_text (level : Level) : readLevel (some level.text) = .ok level := by
  cases level <;> decide

end Compliance

open Compliance (isErrorLine line readLevel report)

/-! ### The command -/

/-- The lines that a validation of the bundle in a directory prints for a level. -/
def Bundle.lines (tree : FileTree) (path : String) (host : Option Host) (level : Level) :
    List String :=
  match examine tree path host with
  | .error _ => []
  | .ok violations => violations.map (report level)

/-- **A report for a level** of the violations that are found: each is printed once, in their order,
as   an error exactly if it is one from the level on, and the verdict is good exactly if there are
none   of these. -/
structure Compliance.Reported (level : Level) (violations : List Violation) (outcome : Outcome) :
    Prop where
  printed : outcome.err = String.join (violations.map fun violation =>
    line (if violation ∈ atLeast level violations then "error" else "warning") violation)
  verdict : outcome.result = .ok () ↔ atLeast level violations = []

namespace ValidateFlags

variable {flags : ValidateFlags} {settings : Settings} {host : Host} {tree : FileTree}
  {level : Level} {violations : List Violation} {failure : Failure}

theorem result_judge_eq_ok_iff {path : String} :
    (judge level path violations).result = .ok () ↔ atLeast level violations = [] := by
  rw [judge, Compliance.reportAll_eq]
  dsimp only
  rw [← List.length_eq_zero_iff]
  split
  next clean => exact iff_of_true rfl clean
  next faulty => exact iff_of_false (fun passed => by cases passed) faulty

theorem err_judge {path : String} :
    (judge level path violations).err = String.join (violations.map (report level)) := by
  rw [judge, Compliance.reportAll_eq]
  dsimp only
  split <;> rfl

/-- What the command does with the violations that are found. -/
theorem run_of_examine_eq_ok
    (wanted : readLevel (flags.level <|> settings.complianceLevel) = .ok level)
    (found : Bundle.examine tree flags.path
      (host.target (settings.hostSpecific || flags.hostSpecific)) = .ok violations) :
    flags.run settings host tree = judge level flags.path violations := by
  rw [run, wanted]
  dsimp only
  rw [found]
  rfl

/-- A bundle that cannot be checked fails without a word. -/
theorem run_of_examine_eq_error
    (wanted : readLevel (flags.level <|> settings.complianceLevel) = .ok level)
    (faulty : Bundle.examine tree flags.path
      (host.target (settings.hostSpecific || flags.hostSpecific)) = .error failure) :
    flags.run settings host tree = .failed failure := by
  rw [run, wanted]
  dsimp only
  rw [faulty]
  rfl

/-- **The command reports all violations** that are found. -/
theorem reported_run
    (wanted : readLevel (flags.level <|> settings.complianceLevel) = .ok level)
    (found : Bundle.examine tree flags.path
      (host.target (settings.hostSpecific || flags.hostSpecific)) = .ok violations) :
    Compliance.Reported level violations (flags.run settings host tree) := by
  rw [run_of_examine_eq_ok wanted found]
  refine ⟨?_, result_judge_eq_ok_iff⟩
  rw [err_judge]
  refine congrArg String.join (List.map_congr_left fun violation member => ?_)
  rw [report]
  congr 1
  by_cases error : Compliance.isError level violation = true
  · rw [if_pos error, if_pos (Compliance.mem_atLeast.mpr ⟨member, error⟩)]
  · rw [if_neg error, if_neg fun inside => error (Compliance.mem_atLeast.mp inside).2]

theorem err_run (wanted : readLevel (flags.level <|> settings.complianceLevel) = .ok level) :
    (flags.run settings host tree).err = String.join (Bundle.lines tree flags.path
      (host.target (settings.hostSpecific || flags.hostSpecific)) level) := by
  unfold Bundle.lines
  cases found : Bundle.examine tree flags.path
    (host.target (settings.hostSpecific || flags.hostSpecific)) with
  | error failure =>
    rw [run_of_examine_eq_error wanted found]
    rfl
  | ok violations => rw [run_of_examine_eq_ok wanted found, err_judge]

/-- The verdict of the command. -/
theorem result_run_eq_ok_iff
    (wanted : readLevel (flags.level <|> settings.complianceLevel) = .ok level) :
    (flags.run settings host tree).result = .ok () ↔ ∃ violations,
      Bundle.examine tree flags.path (host.target (settings.hostSpecific || flags.hostSpecific)) =
          .ok violations ∧
        atLeast level violations = [] := by
  cases found : Bundle.examine tree flags.path
    (host.target (settings.hostSpecific || flags.hostSpecific)) with
  | error failure =>
    rw [run_of_examine_eq_error wanted found]
    exact iff_of_false (fun passed => by cases passed) fun ⟨_, same, _⟩ => by cases same
  | ok violations =>
    rw [run_of_examine_eq_ok wanted found, result_judge_eq_ok_iff]
    exact ⟨fun clean => ⟨violations, rfl, clean⟩, fun ⟨_, same, clean⟩ => Except.ok.inj same ▸ clean⟩

end ValidateFlags

/-! ### The check before a run -/

namespace Bundle

variable {tree : FileTree} {path : String}

/-- The verdict of the check. -/
theorem result_approve_eq_ok_iff :
    (approve tree path).result = .ok () ↔
      ∃ violations, examine tree path none = .ok violations ∧ atLeast .must violations = [] := by
  unfold approve
  cases examine tree path none with
  | error failure =>
    exact iff_of_false (fun passed => by cases passed) fun ⟨_, same, _⟩ => by cases same
  | ok violations =>
    dsimp only
    split
    next clean => exact iff_of_true rfl ⟨violations, rfl, clean⟩
    next faulty =>
      refine iff_of_false (fun passed => by cases passed) fun ⟨_, same, clean⟩ => faulty ?_
      rw [Except.ok.inj same, clean]

/-- A bundle that is refused is so for a reason. -/
theorem exists_of_result_approve_eq_error {breakdown : Breakdown}
    (refused : (approve tree path).result = .error breakdown) :
    ∃ reason, breakdown = .failed reason := by
  unfold approve at refused
  split at refused
  next =>
    cases refused
    exact ⟨_, rfl⟩
  next =>
    split at refused
    next => cases refused
    next =>
      cases refused
      exact ⟨_, rfl⟩

/-- The check prints the lines of errors. -/
theorem err_approve :
    (approve tree path).err = String.join ((lines tree path none .must).filter isErrorLine) := by
  unfold approve lines
  cases examine tree path none with
  | error failure => rfl
  | ok violations =>
    dsimp only
    rw [Compliance.filter_isErrorLine_map_report]
    split
    next clean =>
      rw [clean]
      rfl
    next => rfl

end Bundle

/-! ### Both verdicts -/

/-- **A test keeps to the verdict of a validation** that prints lines: it makes calls for a valid
bundle only, and for any other one it fails and prints the lines of errors, without a call. -/
structure RuntimeFlags.Heeds (tested : List Call × Outcome) (checked : Outcome)
    (lines : List String) : Prop where
  printed : checked.err = String.join lines
  calls : tested.1 ≠ [] → checked.result = .ok ()
  refused : ∀ failure, checked.result = .error failure →
    tested.1 = [] ∧ (∃ reason, tested.2.result = .error (.failed reason)) ∧
      tested.2.err = String.join (lines.filter isErrorLine)

/-- A bundle that is refused is not run. -/
theorem RuntimeFlags.run_of_refused {flags : RuntimeFlags} {tree : FileTree}
    {breakdown : Breakdown} (settings : Settings) (programs : Programs) (id : String)
    (clockSecs : Int64)
    (refused : (Bundle.approve tree (flags.bundle.getD "")).result = .error breakdown) :
    flags.run settings tree programs id clockSecs =
      ([], Bundle.approve tree (flags.bundle.getD "")) := by
  unfold run
  dsimp only
  rw [refused]

/-- **Every test keeps to the verdict of the command** about demands, apart from this host. -/
theorem RuntimeFlags.heeds_run (tested : RuntimeFlags) (settings : Settings) (tree : FileTree)
    (programs : Programs) (id : String) (clockSecs : Int64) (host : Host) {checked : ValidateFlags}
    {settings' : Settings}
    (same : tested.bundle.getD "" = checked.path)
    (apart : (settings'.hostSpecific || checked.hostSpecific) = false)
    (wanted : readLevel (checked.level <|> settings'.complianceLevel) = .ok .must) :
    Heeds (tested.run settings tree programs id clockSecs) (checked.run settings' host tree)
      (Bundle.lines tree checked.path none .must) := by
  have verdict : (checked.run settings' host tree).result = .ok () ↔
      (Bundle.approve tree (tested.bundle.getD "")).result = .ok () := by
    rw [ValidateFlags.result_run_eq_ok_iff wanted, Bundle.result_approve_eq_ok_iff, apart, same,
      Host.target_false]
  refine ⟨?_, fun called => ?_, fun failure failed => ?_⟩
  · rw [ValidateFlags.err_run wanted, apart, Host.target_false]
  · cases approved : (Bundle.approve tree (tested.bundle.getD "")).result with
    | ok value => exact verdict.mpr approved
    | error breakdown =>
      rw [run_of_refused settings programs id clockSecs approved] at called
      exact absurd rfl called
  · cases approved : (Bundle.approve tree (tested.bundle.getD "")).result with
    | ok value =>
      rw [verdict.mpr approved] at failed
      cases failed
    | error breakdown =>
      rw [run_of_refused settings programs id clockSecs approved]
      obtain ⟨reason, rfl⟩ := Bundle.exists_of_result_approve_eq_error approved
      exact ⟨rfl, ⟨reason, approved⟩, by rw [Bundle.err_approve, same]⟩

namespace Compliance

/-- **The command that validates and the check before a run agree.** A test keeps to the verdict of
the   command about demands, which leaves this host aside. For every level, which has a name, the
command reports every violation, or fails without a word where the bundle cannot be checked. A
more severe level makes warnings of errors and changes no other line. -/
theorem verdicts_agree (tree : FileTree) :
    (∀ (tested : RuntimeFlags) (settings settings' : Settings) (programs : Programs) (id : String)
        (clockSecs : Int64) (host : Host) (checked : ValidateFlags),
      tested.bundle.getD "" = checked.path →
      (settings'.hostSpecific || checked.hostSpecific) = false →
      readLevel (checked.level <|> settings'.complianceLevel) = .ok .must →
        RuntimeFlags.Heeds (tested.run settings tree programs id clockSecs)
          (checked.run settings' host tree)
          (Bundle.lines tree checked.path none .must)) ∧
      (∀ level : Level, readLevel (some level.text) = .ok level ∧
        ∀ (checked : ValidateFlags) (settings : Settings) (host : Host),
          readLevel (checked.level <|> settings.complianceLevel) = .ok level →
          let found := Bundle.examine tree checked.path
            (host.target (settings.hostSpecific || checked.hostSpecific))
          (∀ failure, found = .error failure → checked.run settings host tree = .failed failure) ∧
            ∀ violations, found = .ok violations →
              Reported level violations (checked.run settings host tree)) ∧
      ∀ level stricter : Level, level.severity ≤ stricter.severity → ∀ violations,
        (atLeast stricter violations).Sublist (atLeast level violations) ∧
          ∀ violation, report stricter violation = report level violation ∨
            report level violation = line "error" violation ∧
              report stricter violation = line "warning" violation := by
  refine ⟨fun tested settings settings' programs id clockSecs host checked same apart
      wanted => ?_,
    fun level => ⟨readLevel_text level, fun checked settings host wanted =>
      ⟨fun failure faulty => ?_, fun violations found => ?_⟩⟩,
    fun level stricter harder violations => ⟨atLeast_sublist harder violations, fun violation => ?_⟩⟩
  · exact RuntimeFlags.heeds_run tested settings tree programs id clockSecs host same apart wanted
  · exact ValidateFlags.run_of_examine_eq_error wanted faulty
  · exact ValidateFlags.reported_run wanted found
  · rw [report, report]
    cases error : isError stricter violation with
    | true =>
      rw [isError_of_severity_le harder error]
      exact .inl rfl
    | false =>
      cases isError level violation with
      | true => exact .inr ⟨rfl, rfl⟩
      | false => exact .inl rfl

/-- A bundle that lacks six members that are demanded, and a namespace that its hostname is advised
to have: the test makes no call, and prints the lines of errors among the seven of the command. -/
theorem verdicts_agree_bare :
    let config := "\x7b\"hostname\":\"h\",\"linux\":\x7b\x7d\x7d"
    let tree : FileTree :=
      ⟨[(["b"], .directory), (["b", "config.json"], .file (.ofString config))], []⟩
    let tested : RuntimeFlags := ⟨none, some "/b", none, none⟩
    let checked : ValidateFlags := ⟨"/b", false, some "MUST"⟩
    let programs : Programs := fun _ _ => .ended (.code 0) "" ""
    let host : Host := ⟨"linux", "amd64", Capability.all⟩
    let lines := Bundle.lines tree "/b" none .must
    lines.length = 7 ∧
      (tested.run default tree programs "c" 0).1 = [] ∧
      (tested.run default tree programs "c" 0).2.err = String.join (lines.filter isErrorLine) ∧
      (checked.run default host tree).err = String.join lines := by
  intro config tree tested checked programs host lines
  have wanted : readLevel (checked.level <|> (default : Settings).complianceLevel) = .ok .must :=
    readLevel_text .must
  have heeds : RuntimeFlags.Heeds (tested.run default tree programs "c" 0)
      (checked.run default host tree) lines :=
    (verdicts_agree tree).1 tested default default programs "c" 0 host checked rfl rfl wanted
  have refused : (checked.run default host tree).result.isOk = false := by decide +kernel
  cases failed : (checked.run default host tree).result with
  | ok value => simp [failed, Except.isOk, Except.toBool] at refused
  | error failure =>
    obtain ⟨silent, _, printed⟩ := heeds.refused failure failed
    exact ⟨by decide +kernel, silent, printed, heeds.printed⟩

end Compliance

end OciBundle
