/-
**Tests of a runtime keep to the order of a container's life.**

* `Bundle.exists_resolve_of_approve`: the directory of a bundle that is approved is found.
* `Client.heard`, `Client.course`: what a client hears of the program that it calls, and a test by
  it.
* `RuntimeFlags.run_eq`, `RuntimeFlags.course_eq`: a run is a test by its client, which makes its
  calls and ends as it does.
* `Client.Drives`, `RuntimeFlags.lawful_run`: the order that the calls keep to, and how a run
  without a deadline leaves the container.
* `Client.Ends`, `RuntimeFlags.run_ok_iff_clean`: which runs end well, and how the others fail.
-/

import OciBundle.Proofs.CommandLine
import OciBundle.Proofs.FileTree
import OciBundle.Proofs.Lifecycle.Outcome
import OciBundle.RuntimeTest

namespace OciBundle

variable {tree : FileTree} {path : String}

/-- The directory of a bundle that is approved is found, since its configuration has been read. -/
theorem Bundle.exists_resolve_of_approve (named : path ≠ "")
    (approved : (approve tree path).result = .ok ()) :
    ∃ bundle, tree.resolve path = .ok bundle := by
  unfold approve at approved
  split at approved
  · cases approved
  next violations examined =>
    obtain ⟨bundle, loaded, _⟩ := exists_of_bind_eq_ok (eq_ok_of_mapError_eq_ok examined)
    obtain ⟨config, kept, _⟩ := exists_of_bind_eq_ok loaded
    have present : ∃ text, tree.readText (Path.join path "config.json") = .ok text := by
      unfold Config.loadBundle at kept
      dsimp only at kept
      split at kept
      next text done => exact ⟨text, done⟩
      next => cases kept
      next => cases kept
    obtain ⟨text, done⟩ := present
    obtain ⟨source, seen, _⟩ := exists_of_bind_eq_ok done
    obtain ⟨inner, located⟩ := FileTree.exists_locate_of_read seen
    obtain ⟨place, found⟩ := FileTree.exists_locate_of_locate_join named (by decide) located
    refine ⟨"/" ++ "/".intercalate place, ?_⟩
    rw [FileTree.resolve, found]
    rfl

/-! ### Runs and clients -/

namespace Client

/-- What a client hears of the program that it calls. -/
def heard (client : Client) (programs : Programs) : Runtime :=
  client.reach (programs client.program)

/-- The calls of a test by a client, and how it ended. -/
def course (client : Client) (programs : Programs) : List Call × Except Breakdown Unit :=
  client.test (client.heard programs)

end Client

namespace RuntimeFlags

variable {flags : RuntimeFlags} {settings : Settings} {programs : Programs} {id bundle : String}
  {clockSecs : Int64} {line : List String} {outer : ProgramFlags}

/-- The line that a run prints when its test ends well. -/
def farewell (client : Client) : Except Breakdown Unit → String
  | .ok () => "Runtime test of " ++ client.id ++ " succeeded.\n"
  | .error _ => ""

/-- **A run with a bundle that is approved** is a test by its client. -/
theorem run_eq (given : flags.bundle = some path)
    (approved : (Bundle.approve tree path).result = .ok ())
    (resolved : tree.resolve path = .ok bundle) :
    flags.run settings tree programs id clockSecs =
      let client := flags.client settings bundle id clockSecs
      let tested := client.course programs
      (tested.1, ⟨tested.2, farewell client tested.2, (Bundle.approve tree path).err⟩) := by
  obtain rfl : flags.bundle.getD "" = path := by
    rw [given]
    rfl
  unfold run
  simp only [approved, resolved]
  rfl

/-- The calls of a run, and how it ended. -/
def course (flags : RuntimeFlags) (settings : Settings) (tree : FileTree) (id : String)
    (clockSecs : Int64) (programs : Programs) : List Call × Except Breakdown Unit :=
  ((flags.run settings tree programs id clockSecs).1,
    (flags.run settings tree programs id clockSecs).2.result)

theorem fst_course : (flags.course settings tree id clockSecs programs).1 =
    (flags.run settings tree programs id clockSecs).1 := by
  rw [course]

theorem snd_course : (flags.course settings tree id clockSecs programs).2 =
    (flags.run settings tree programs id clockSecs).2.result := by
  rw [course]

theorem course_eq (given : flags.bundle = some path)
    (approved : (Bundle.approve tree path).result = .ok ())
    (resolved : tree.resolve path = .ok bundle) :
    flags.course settings tree id clockSecs =
      (flags.client settings bundle id clockSecs).course := by
  funext programs
  rw [course, run_eq given approved resolved]

/-- **A run of a command line** with a bundle that is approved takes the course of a test by its
client. -/
theorem exists_course_eq (asked : Invocation.read line = .ok ⟨outer, .testRuntime flags⟩)
    (approved : (Bundle.approve tree (flags.bundle.getD "")).result = .ok ()) :
    ∃ bundle, tree.resolve (flags.bundle.getD "") = .ok bundle ∧
      flags.course settings tree id clockSecs =
        (flags.client settings bundle id clockSecs).course := by
  obtain ⟨path, given, named⟩ := Invocation.bundle_of_read asked
  rw [given] at approved ⊢
  obtain ⟨bundle, resolved⟩ := Bundle.exists_resolve_of_approve named approved
  exact ⟨bundle, resolved, course_eq given approved resolved⟩

end RuntimeFlags

/-! ### A bare bundle and its container -/

namespace RuntimeFlags

/-- A file tree with a bundle that only has what is demanded. -/
def bareTree : FileTree :=
  let config := "\x7b\"ociVersion\":\"1.0.0\","
    ++ "\"platform\":\x7b\"os\":\"linux\",\"arch\":\"amd64\"\x7d,"
    ++ "\"process\":\x7b\"args\":[\"sh\"],\"cwd\":\"/\"\x7d,\"root\":\x7b\"path\":\"/\"\x7d\x7d"
  ⟨[(["b"], .directory), (["b", "config.json"], .file (.ofString config))], []⟩

/-- The command with that bundle. -/
def bareFlags : RuntimeFlags := ⟨none, some "/b", none, none⟩

theorem read_bareFlags : Invocation.read ["runtime-test", "--bundle", "/b"] =
    .ok ⟨default, .testRuntime bareFlags⟩ := by
  decide +kernel

theorem result_approve_bareTree : (Bundle.approve bareTree "/b").result = .ok () :=
  eq_ok_of_isOk (by decide +kernel)

theorem resolve_bareTree : bareTree.resolve "/b" = .ok "/b" := by
  decide +kernel

/-- The document of a container's state. -/
def stateText (name : String) (status : Status) : String :=
  "\x7b\"ociVersion\":\"1.0.0\",\"id\":\"" ++ name ++ "\",\"status\":\"" ++ status.text
    ++ "\",\"bundle\":\"/b\"\x7d"

theorem ofText_stateText (status : Status) :
    State.ofText (stateText "c" status) = .ok ⟨"1.0.0", "c", status, none, "/b", default⟩ := by
  cases status <;> decide +kernel

/-- A runtime whose container stops by itself before the second question; later questions are
answered about a container of some name. -/
def stopsAs (name : String) : Programs := fun _ calls =>
  .ended (.code 0) (match calls.length with
    | 2 => stateText "c" .created
    | 4 => stateText "c" .stopped
    | _ => stateText name .stopped) ""

end RuntimeFlags

namespace Client

variable {client : Client}

theorem hears_stateText (same : client.id = "c") (status : Status) :
    client.Hears (.ended (.code 0) (RuntimeFlags.stateText "c" status) "") status :=
  hears_iff.mpr ⟨_, ⟨_, _, rfl, RuntimeFlags.ofText_stateText status⟩, same.symm, rfl⟩

/-- A client of the usual program hears all its answers. -/
theorem heard_eq (program : client.program = "runc") (same : client.id = "c")
    (programs : Programs) : client.heard programs = programs "runc" := by
  have callable : client.canCall = true := by
    rw [canCall, program, same]
    decide
  funext calls
  rw [heard, reach, if_pos callable, program]

theorem brought_stopsAs (same : client.id = "c") (name program : String) :
    client.Brought (RuntimeFlags.stopsAs name program) false where
  create := ⟨_, _, rfl⟩
  created := hears_stateText same .created
  start := ⟨_, _, rfl⟩
  started := hears_stateText same .stopped
  kill killed := absurd killed Bool.false_ne_true

end Client

/-! ### The order of the calls -/

/-- **How a client drives a runtime.** A test comes to its end in the order of a container's life,
unless the wait for the stop is reached and has no deadline: then the program breaks off there,
and the container is left without a delete. -/
structure Client.Drives (client : Client) (programs : Programs)
    (course : List Call × Except Breakdown Unit) : Prop where
  lawful : (∀ killed, ¬ client.BreaksOff (client.heard programs) killed) →
    Whole course ∧ client.Lawful (client.heard programs)
      (client.follow (client.heard programs) .create []) course.1
  left : ∀ killed, client.BreaksOff (client.heard programs) killed →
    course = (client.itinerary killed 0, .error overflow)

theorem Client.drives_course (client : Client) (programs : Programs) :
    client.Drives programs (client.course programs) where
  lawful goes := by
    have whole : Whole (client.course programs) := by
      intro message crashed
      obtain ⟨killed, breaks⟩ := exists_breaksOff crashed
      exact goes killed breaks
    exact ⟨whole, lawful_test (whole_follow_of_whole_test whole)⟩
  left _ := test_of_breaksOff

namespace RuntimeFlags

variable {settings : Settings} {id : String} {line : List String} {outer : ProgramFlags}

/-- **A run with a bundle that is approved drives the runtime along the order of a container's
life**, whatever the runtime answers, unless the clock cannot show the end of the time limit. Its
client would do so whatever number of questions it might ask while it waits. -/
theorem lawful_run (flags : RuntimeFlags) (settings : Settings) (programs : Programs) (id : String)
    (clockSecs : Int64) (asked : Invocation.read line = .ok ⟨outer, .testRuntime flags⟩)
    (approved : (Bundle.approve tree (flags.bundle.getD "")).result = .ok ()) :
    ∃ bundle, tree.resolve (flags.bundle.getD "") = .ok bundle ∧
      let client := flags.client settings bundle id clockSecs
      client.Drives programs (flags.course settings tree id clockSecs programs) ∧
        ∀ patience, let patient := { client with patience := patience }
          patient.Drives programs (patient.course programs) := by
  obtain ⟨bundle, resolved, same⟩ := exists_course_eq asked approved
  refine ⟨bundle, resolved, ?_, fun _ => Client.drives_course _ _⟩
  rw [same]
  exact Client.drives_course _ _

/-- A runtime that is killed at once. -/
theorem lawful_run_killed :
    let programs : Programs := fun _ _ => .ended (.signal 9 false) "" ""
    ∃ bundle, bareTree.resolve "/b" = .ok bundle ∧
      (bareFlags.client default bundle "c" 0).Drives programs
        (bareFlags.course default bareTree "c" 0 programs) := by
  intro programs
  obtain ⟨bundle, resolved, drives, _⟩ :=
    lawful_run bareFlags default programs "c" 0 read_bareFlags result_approve_bareTree
  exact ⟨bundle, resolved, drives⟩

/-- **The container may be left without a delete**: with the longest time limit, of which no clock
shows   the end, the program breaks off though the runtime answers well. -/
theorem undeleted_of_endless_limit :
    let flags : RuntimeFlags := { bareFlags with timeoutSecs := some 0xffffffffffffffff }
    let client := flags.client default "/b" "c" 0
    let course := flags.course default bareTree "c" 0 (stopsAs "c")
    Invocation.read ["runtime-test", "--bundle", "/b", "--timeout", "18446744073709551615"] =
        .ok ⟨default, .testRuntime flags⟩ ∧
      (Bundle.approve bareTree "/b").result = .ok () ∧
      course = (client.opening, .error Client.overflow) ∧
      ∀ life, ¬ client.Lawful (client.heard (stopsAs "c")) life course.1 := by
  intro flags client course
  have breaks : client.BreaksOff (client.heard (stopsAs "c")) false := by
    rw [Client.heard_eq rfl rfl]
    exact ⟨Client.brought_stopsAs rfl "c" "runc", Client.deadline_eq_none_iff.mpr (by decide)⟩
  have left : course = (client.opening, .error Client.overflow) :=
    (congrFun (course_eq rfl result_approve_bareTree resolve_bareTree) (stopsAs "c")).trans
      (Client.test_of_breaksOff breaks)
  refine ⟨by decide +kernel, result_approve_bareTree, left, fun life lawful => ?_⟩
  have deleted := lawful.deletedOnce
  rw [left] at deleted
  exact absurd deleted (by decide)

end RuntimeFlags

/-! ### How runs end -/

/-- **How tests by a client end**: well, exactly when the runtime leads the container through a
clean   life and the calls are those of that life. A test that comes to its end does so exactly when
the   container is found stopped soon enough; the program breaks off only where the wait for that is
reached and has no deadline. When the life fails, it does so at a first bad answer, and the test
fails with the failure of that answer: so it does with all other programs that answer the calls of
that life alike. -/
structure Client.Ends (client : Client) (programs : Programs)
    (course : Programs → List Call × Except Breakdown Unit) : Prop where
  ok_iff : (course programs).2 = .ok () ↔ ∃ killed questions,
    (course programs).1 = client.itinerary killed (questions + 1) ++ [.delete client.id] ∧
      client.Clean (client.heard programs) killed questions
  finished_ok_iff : Whole (course programs) →
    ((course programs).2 = .ok () ↔ ∃ killed questions, questions ≤ client.patience ∧
      client.Clean (client.heard programs) killed questions)
  crashed_iff : (∃ message, (course programs).2 = .error (.crashed message)) ↔
    ∃ killed, client.BreaksOff (client.heard programs) killed
  failed : ∀ made failure,
    client.follow (client.heard programs) .create [] = (made, .error (.failed failure)) →
      client.Fails (client.heard programs) made failure ∧
        ∀ programs' : Programs, Agree (client.heard programs) (client.heard programs') made →
          (course programs').2 = .error (.failed failure)

theorem Client.ends_course (client : Client) (programs : Programs) :
    client.Ends programs client.course where
  ok_iff := test_eq_ok_iff_calls
  finished_ok_iff whole := by
    refine ⟨fun well => (test_eq_ok_iff.mp well).2, fun soon => test_eq_ok_iff.mpr ⟨?_, soon⟩⟩
    obtain ⟨killed, questions, _, clean⟩ := soon
    refine Option.isSome_iff_ne_none.mpr fun endless => ?_
    exact whole _ (congrArg Prod.snd (test_of_breaksOff ⟨clean.toBrought, endless⟩))
  crashed_iff := by
    constructor
    · rintro ⟨message, crashed⟩
      exact exists_breaksOff crashed
    · rintro ⟨killed, breaks⟩
      exact ⟨_, congrArg Prod.snd (test_of_breaksOff breaks)⟩
  failed made failure failed := by
    have fails := follow_eq_error_iff.mp failed
    exact ⟨fails, fun _ agree => test_eq_error_of_agree fails agree⟩

namespace RuntimeFlags

variable {line : List String} {outer : ProgramFlags}

/-- **A run with a bundle that is approved ends well exactly when the runtime leads the container
through a clean life**, and otherwise it fails as the first bad answer says, or breaks off for
want of a deadline. So it would, whatever number of questions its client might ask while it waits.
-/
theorem run_ok_iff_clean (flags : RuntimeFlags) (settings : Settings) (programs : Programs)
    (id : String) (clockSecs : Int64)
    (asked : Invocation.read line = .ok ⟨outer, .testRuntime flags⟩)
    (approved : (Bundle.approve tree (flags.bundle.getD "")).result = .ok ()) :
    ∃ bundle, tree.resolve (flags.bundle.getD "") = .ok bundle ∧
      let client := flags.client settings bundle id clockSecs
      client.Ends programs (flags.course settings tree id clockSecs) ∧
        ∀ patience, let patient := { client with patience := patience }
          patient.Ends programs patient.course := by
  obtain ⟨bundle, resolved, same⟩ := exists_course_eq asked approved
  refine ⟨bundle, resolved, ?_, fun _ => Client.ends_course _ _⟩
  rw [same]
  exact Client.ends_course _ _

/-- A runtime whose container runs until it is killed, and is found stopped at the second question.
-/
theorem run_ok_iff_clean_killed :
    let programs : Programs := fun _ calls => .ended (.code 0) (match calls.length with
      | 2 => stateText "c" .created
      | 4 | 6 => stateText "c" .running
      | _ => stateText "c" .stopped) ""
    (bareFlags.run default bareTree programs "c" 0).2.result = .ok () := by
  intro programs
  obtain ⟨bundle, resolved, ends, _⟩ :=
    run_ok_iff_clean bareFlags default programs "c" 0 read_bareFlags result_approve_bareTree
  have few : 1 ≤ (bareFlags.client default bundle "c" 0).patience := by
    show 1 ≤ 10 * (30 : UInt64).toNat
    decide
  have timed : (bareFlags.client default bundle "c" 0).deadline.isSome = true := by
    show (Word.ofInt? (α := Int64) (Word.toInt (0 : Int64) + Word.toInt (30 : UInt64))).isSome = true
    decide
  have whole : Client.Whole (bareFlags.course default bareTree "c" 0 programs) := by
    intro message crashed
    obtain ⟨killed, breaks⟩ := ends.crashed_iff.mp ⟨message, crashed⟩
    exact Option.isSome_iff_ne_none.mp timed breaks.endless
  rw [← snd_course]
  refine (ends.finished_ok_iff whole).mpr ⟨true, 1, few, ?_⟩
  rw [Client.heard_eq rfl rfl]
  exact
    { create := ⟨_, _, rfl⟩
      created := Client.hears_stateText rfl .created
      start := ⟨_, _, rfl⟩
      started := Client.hears_stateText rfl .running
      kill := fun _ => ⟨_, _, rfl⟩
      stops :=
        { going := by
            intro earlier before
            obtain rfl := Nat.lt_one_iff.mp before
            exact ⟨_, ⟨_, _, rfl, ofText_stateText .running⟩, nofun⟩
          stopped := ⟨_, ⟨_, _, rfl, ofText_stateText .stopped⟩, rfl⟩ }
      delete := ⟨_, _, rfl⟩ }

end RuntimeFlags

end OciBundle
