/-
**How a test of a runtime ends.**

A test ends well exactly when the runtime leads the container through a clean life: every call is
answered well, and every question is answered by the status that is due. Otherwise it ends with the
failure at the first call that is answered badly. What the runtime answers later, also to the kill
and the delete of the clean-up, does not change that failure. A time limit without a deadline is the
exception: then the program breaks off where the wait for the stop is due, without a clean-up.

* `Answer.Succeeds`, `Answer.Tells`: what a good answer is, apart from the failures of bad ones.
* `Client.Brought`, `Client.Clean`: a life up to the wait for the stop, and a clean one as a whole,
  in terms of the answers to their calls.
* `Client.judge_start_iff`, `Client.judge_waiting_iff`, …: the answers that lead on from a stage.
* `Client.follow_create_iff`: the lives that do not fail up to the wait;
  `Client.follow_waiting_iff`: the waits that end well.
* `Client.test_eq_ok_iff`: the tests that end well; `Client.BreaksOff`, `Client.exists_breaksOff`:
  those in which the program breaks off.
* `Client.Leads`, `Client.Fails`: the stages that a runtime leads to, and the first bad answer
  behind them; `Client.follow_eq_error_iff` finds it in every life that fails.
* `Client.follow_congr`: a life depends on the answers to its own calls only.
* `Client.test_eq_error_of_agree`: so does the failure of a test.
-/

import OciBundle.Proofs.Lifecycle

namespace OciBundle

/-! ### Good answers -/

namespace Answer

/-- The call has ended with the code for success. -/
def Succeeds (answer : Answer) : Prop :=
  ∃ out err, answer = .ended (.code 0) out err

/-- The call has ended with the code for success, and its output holds a state. -/
def Tells (answer : Answer) (state : State) : Prop :=
  ∃ out err, answer = .ended (.code 0) out err ∧ State.ofText out = .ok state

end Answer

namespace Client

variable {client : Client} {runtime runtime' : Runtime} {stage next : Stage}
  {calls made : List Call} {call : Call} {answer : Answer} {state : State}
  {expected : List Status} {failure : Failure} {result : Option Stage}

theorem output_eq_ok_iff {out : String} :
    client.output call answer = .ok out ↔ ∃ err, answer = .ended (.code 0) out err := by
  constructor
  · intro done
    unfold output at done
    split at done
    next => cases done
    next => cases done
    next => cases done
    next status out err =>
      split at done
      next success =>
        cases done
        exact ⟨err, by rw [success]⟩
      next => cases done
  · rintro ⟨err, rfl⟩
    rfl

/-- Output is taken from successful calls only. -/
theorem exists_output_eq_ok_iff :
    (∃ out, client.output call answer = .ok out) ↔ answer.Succeeds := by
  simp only [output_eq_ok_iff, Answer.Succeeds]

theorem state_eq_ok_iff : client.state answer = .ok state ↔ answer.Tells state := by
  constructor
  · intro done
    obtain ⟨out, put, read⟩ := exists_of_bind_eq_ok done
    obtain ⟨err, ended⟩ := output_eq_ok_iff.mp put
    exact ⟨out, err, ended, eq_ok_of_mapError_eq_ok read⟩
  · rintro ⟨out, err, rfl, read⟩
    show (State.ofText out).mapError _ = .ok state
    rw [read]
    rfl

theorem expectState_eq_ok_iff :
    client.expectState expected answer = .ok state ↔
      answer.Tells state ∧ state.id = client.id ∧ state.status ∈ expected := by
  constructor
  · intro done
    obtain ⟨found, asked, checked⟩ := exists_of_bind_eq_ok done
    obtain ⟨same, checked⟩ := of_check_eq_ok checked
    obtain ⟨inside, checked⟩ := of_check_eq_ok checked
    cases checked
    exact ⟨state_eq_ok_iff.mp asked, not_not.mp same, by simpa using inside⟩
  · rintro ⟨told, same, inside⟩
    have known : expected.contains state.status = true := List.contains_iff_mem.mpr inside
    rw [expectState, state_eq_ok_iff.mpr told]
    simp only [bind, Except.bind, pure, Except.pure, same, known, ne_eq, not_true_eq_false,
      if_false]

/-- What is heard is told by a good answer. -/
theorem hears_iff {status : Status} :
    client.Hears answer status ↔
      ∃ state, answer.Tells state ∧ state.id = client.id ∧ state.status = status := by
  simp only [Hears, state_eq_ok_iff]

/-! ### Clean lives -/

/-- Behind calls, questions are answered by a state each, and the last one is the first that is
answered by a stopped container. -/
structure Settles (client : Client) (runtime : Runtime) (calls : List Call) (questions : Nat) :
    Prop where
  going : ∀ earlier < questions, ∃ state,
    (runtime (calls ++ List.replicate (earlier + 1) (.state client.id))).Tells state ∧
      state.status ≠ .stopped
  stopped : ∃ state,
    (runtime (calls ++ List.replicate (questions + 1) (.state client.id))).Tells state ∧
      state.status = .stopped

/-- **A container is brought to the wait for its stop**: it is created, started, and killed if it
runs. -/
structure Brought (client : Client) (runtime : Runtime) (killed : Bool) : Prop where
  create : (runtime [.create client.bundle client.id]).Succeeds
  created : client.Hears (runtime (client.opening.take 2)) .created
  start : (runtime (client.opening.take 3)).Succeeds
  /-- A container that does not run any more need not be killed. -/
  started : client.Hears (runtime client.opening) (if killed then .running else .stopped)
  kill : killed = true → (runtime (client.itinerary true 0)).Succeeds

/-- **A clean life**: the container is brought to the wait for its stop, found stopped, and deleted.
So   many questions are answered before the one that finds it stopped. -/
structure Clean (client : Client) (runtime : Runtime) (killed : Bool) (questions : Nat) : Prop
    extends client.Brought runtime killed where
  stops : client.Settles runtime (client.itinerary killed 0) questions
  delete : (runtime (client.itinerary killed (questions + 1) ++ [.delete client.id])).Succeeds

theorem settles_zero_iff :
    client.Settles runtime calls 0 ↔
      ∃ state, (runtime (calls ++ [.state client.id])).Tells state ∧ state.status = .stopped :=
  ⟨fun settles => settles.stopped, fun stopped => ⟨nofun, stopped⟩⟩

/-- The first question is answered by a container that goes on, and the rest settles. -/
theorem settles_succ_iff {questions : Nat} :
    client.Settles runtime calls (questions + 1) ↔
      (∃ state, (runtime (calls ++ [.state client.id])).Tells state ∧ state.status ≠ .stopped) ∧
        client.Settles runtime (calls ++ [.state client.id]) questions := by
  have later (count : Nat) : calls ++ [.state client.id] ++ List.replicate count (.state client.id) =
      calls ++ List.replicate (count + 1) (.state client.id) := by
    rw [List.append_assoc]
    rfl
  constructor
  · rintro ⟨going, stopped⟩
    refine ⟨going 0 (Nat.succ_pos _), fun earlier before => ?_, ?_⟩
    · rw [later]
      exact going (earlier + 1) (Nat.succ_lt_succ before)
    · rw [later]
      exact stopped
  · rintro ⟨first, going, stopped⟩
    refine ⟨fun earlier before => ?_, ?_⟩
    · cases earlier with
      | zero => exact first
      | succ earlier =>
        rw [← later]
        exact going earlier (Nat.lt_of_succ_lt_succ before)
    · rw [← later]
      exact stopped

/-! ### Answers that lead on -/

theorem map_const_eq_ok_iff {α β ε : Type} {step : Except ε α} {value other : β} :
    (step.map fun _ => value) = .ok other ↔ (∃ found, step = .ok found) ∧ other = value := by
  cases step with
  | error fault => simp [Except.map]
  | ok found => simp [Except.map, eq_comm]

theorem judge_create_iff :
    client.judge .create answer = .ok result ↔ answer.Succeeds ∧ result = some .created := by
  rw [judge, map_const_eq_ok_iff, exists_output_eq_ok_iff]

theorem judge_created_iff :
    client.judge .created answer = .ok result ↔
      client.Hears answer .created ∧ result = some .start := by
  rw [judge, map_const_eq_ok_iff, hears_iff]
  simp only [expectState_eq_ok_iff, List.mem_singleton]

theorem judge_start_iff :
    client.judge .start answer = .ok result ↔ answer.Succeeds ∧ result = some .started := by
  rw [judge, map_const_eq_ok_iff, exists_output_eq_ok_iff]

/-- A container that has been started runs or has stopped already. -/
theorem judge_started_iff :
    client.judge .started answer = .ok result ↔
      client.Hears answer .running ∧ result = some .kill ∨
        client.Hears answer .stopped ∧ result = some (.waiting client.patience) := by
  rw [hears_iff, hears_iff]
  constructor
  · intro judged
    obtain ⟨state, asked, equal⟩ := map_eq_ok_iff.mp judged
    obtain ⟨told, same, inside⟩ := expectState_eq_ok_iff.mp asked
    split at equal
    next running => exact .inl ⟨⟨state, told, same, running⟩, equal.symm⟩
    next other =>
      have stopped : state.status = .stopped := by simpa [other] using inside
      exact .inr ⟨⟨state, told, same, stopped⟩, equal.symm⟩
  · rintro (⟨⟨state, told, same, running⟩, rfl⟩ | ⟨⟨state, told, same, stopped⟩, rfl⟩)
    · have asked : client.expectState [.running, .stopped] answer = .ok state :=
        expectState_eq_ok_iff.mpr ⟨told, same, by simp [running]⟩
      rw [judge, asked]
      simp [Except.map, running]
    · have asked : client.expectState [.running, .stopped] answer = .ok state :=
        expectState_eq_ok_iff.mpr ⟨told, same, by simp [stopped]⟩
      rw [judge, asked]
      simp [Except.map, stopped]

theorem judge_kill_iff :
    client.judge .kill answer = .ok result ↔
      answer.Succeeds ∧ result = some (.waiting client.patience) := by
  rw [judge, map_const_eq_ok_iff, exists_output_eq_ok_iff]

/-- While waiting, a container that goes on is asked again as long as there are questions left. -/
theorem judge_waiting_iff {left : Nat} :
    client.judge (.waiting left) answer = .ok result ↔
      ∃ state, answer.Tells state ∧ (state.status = .stopped ∧ result = none ∨
        state.status ≠ .stopped ∧ ∃ fewer, left = fewer + 1 ∧ result = some (.waiting fewer)) := by
  constructor
  · intro judged
    obtain ⟨state, asked, decided⟩ := exists_of_bind_eq_ok judged
    refine ⟨state, state_eq_ok_iff.mp asked, ?_⟩
    split at decided
    next stopped =>
      cases decided
      exact .inl ⟨stopped, rfl⟩
    next going =>
      cases left with
      | zero => cases decided
      | succ fewer =>
        cases decided
        exact .inr ⟨going, fewer, rfl, rfl⟩
  · rintro ⟨state, told, ⟨stopped, rfl⟩ | ⟨going, fewer, rfl, rfl⟩⟩
    · simp only [judge, state_eq_ok_iff.mpr told, bind, Except.bind, stopped, if_true]
      rfl
    · simp only [judge, state_eq_ok_iff.mpr told, bind, Except.bind, going, if_false]
      rfl

/-! ### Lives without a bad answer -/

/-- The wait for the stop, behind the calls that have brought the container there. -/
def wait (client : Client) (runtime : Runtime) (killed : Bool) :
    List Call × Except Breakdown Unit :=
  if client.deadline.isSome then
    client.follow runtime (.waiting client.patience) (client.itinerary killed 0)
  else (client.itinerary killed 0, .error overflow)

theorem ok_ne_failed (failure : Failure) :
    (.ok () : Except Breakdown Unit) ≠ .error (.failed failure) := nofun

theorem crashed_ne_failed (message : String) (failure : Failure) :
    (.error (.crashed message) : Except Breakdown Unit) ≠ .error (.failed failure) := nofun

section Unfailing

variable {result : Except Breakdown Unit} (unfailing : ∀ failure, result ≠ .error (.failed failure))

include unfailing

/-- **One step.** Without a bad answer, a life ends behind one that ends it, or goes on behind one
that   leads to a stage, if that can be entered. -/
theorem follow_eq_iff :
    client.follow runtime stage calls = (made, result) ↔
      client.judge stage (runtime (calls ++ [client.call stage])) = .ok none ∧
          (calls ++ [client.call stage], .ok ()) = (made, result) ∨
        ∃ next, client.judge stage (runtime (calls ++ [client.call stage])) = .ok (some next) ∧
          (if client.admits next then client.follow runtime next (calls ++ [client.call stage])
            else (calls ++ [client.call stage], .error overflow)) = (made, result) := by
  rw [follow_eq]
  cases client.judge stage (runtime (calls ++ [client.call stage])) with
  | error failure =>
    have failed : result ≠ .error (.failed failure) := unfailing failure
    simp [failed.symm]
  | ok answered => cases answered <;> simp

/-- Behind the opening, a life goes on with the wait when the container is killed if it runs. -/
theorem follow_started_iff :
    client.follow runtime .started (client.opening.take 3) = (made, result) ↔
      ∃ killed, client.Hears (runtime client.opening) (if killed then .running else .stopped) ∧
        (killed = true → (runtime (client.itinerary true 0)).Succeeds) ∧
        client.wait runtime killed = (made, result) := by
  have asked : client.opening.take 3 ++ [client.call .started] = client.opening := rfl
  have kill : client.opening ++ [client.call .kill] = client.itinerary true 0 := rfl
  have none : client.opening = client.itinerary false 0 := rfl
  rw [follow_eq_iff unfailing, asked, judge_started_iff]
  constructor
  · rintro (⟨⟨_, other⟩ | ⟨_, other⟩, _⟩ | ⟨next, judged, later⟩)
    · cases other
    · cases other
    · rcases judge_started_iff.mp judged with ⟨running, some⟩ | ⟨stopped, some⟩
      · cases some
        rw [admits, if_pos rfl, follow_eq_iff unfailing, kill, judge_kill_iff] at later
        rcases later with ⟨⟨_, other⟩, _⟩ | ⟨next, judged, later⟩
        · cases other
        · obtain ⟨succeeds, some⟩ := judge_kill_iff.mp judged
          cases some
          exact ⟨true, running, fun _ => succeeds, later⟩
      · cases some
        exact ⟨false, stopped, nofun, later⟩
  · rintro ⟨killed, heard, succeeds, later⟩
    cases killed with
    | true =>
      refine .inr ⟨.kill, judge_started_iff.mpr (.inl ⟨heard, rfl⟩), ?_⟩
      rw [admits, if_pos rfl, follow_eq_iff unfailing, kill]
      exact .inr ⟨.waiting client.patience, judge_kill_iff.mpr ⟨succeeds rfl, rfl⟩, later⟩
    | false =>
      exact .inr ⟨.waiting client.patience, judge_started_iff.mpr (.inr ⟨heard, rfl⟩), later⟩

/-- **A life that does not fail before the wait** goes on with it behind good answers to all calls.
-/
theorem follow_create_iff :
    client.follow runtime .create [] = (made, result) ↔
      ∃ killed, client.Brought runtime killed ∧ client.wait runtime killed = (made, result) := by
  have first : ([] : List Call) ++ [client.call .create] = client.opening.take 1 := rfl
  have second : client.opening.take 1 ++ [client.call .created] = client.opening.take 2 := rfl
  have third : client.opening.take 2 ++ [client.call .start] = client.opening.take 3 := rfl
  rw [follow_eq_iff unfailing, first, judge_create_iff]
  constructor
  · rintro (⟨⟨_, other⟩, _⟩ | ⟨next, judged, later⟩)
    · cases other
    · obtain ⟨create, some⟩ := judge_create_iff.mp judged
      cases some
      rw [admits, if_pos rfl, follow_eq_iff unfailing, second, judge_created_iff] at later
      rcases later with ⟨⟨_, other⟩, _⟩ | ⟨next, judged, later⟩
      · cases other
      · obtain ⟨created, some⟩ := judge_created_iff.mp judged
        cases some
        rw [admits, if_pos rfl, follow_eq_iff unfailing, third, judge_start_iff] at later
        rcases later with ⟨⟨_, other⟩, _⟩ | ⟨next, judged, later⟩
        · cases other
        · obtain ⟨start, some⟩ := judge_start_iff.mp judged
          cases some
          rw [admits, if_pos rfl] at later
          obtain ⟨killed, started, kill, rest⟩ := (follow_started_iff unfailing).mp later
          exact ⟨killed, ⟨create, created, start, started, kill⟩, rest⟩
  · rintro ⟨killed, ⟨create, created, start, started, kill⟩, rest⟩
    have later := (follow_started_iff unfailing).mpr ⟨killed, started, kill, rest⟩
    refine .inr ⟨.created, judge_create_iff.mpr ⟨create, rfl⟩, ?_⟩
    rw [admits, if_pos rfl, follow_eq_iff unfailing, second]
    refine .inr ⟨.start, judge_created_iff.mpr ⟨created, rfl⟩, ?_⟩
    rw [admits, if_pos rfl, follow_eq_iff unfailing, third]
    exact .inr ⟨.started, judge_start_iff.mpr ⟨start, rfl⟩, (if_pos rfl).trans later⟩

end Unfailing

/-! ### The wait for the stop -/

/-- **While waiting**, a life ends well when the container is found stopped soon enough. -/
theorem follow_waiting_iff {left : Nat} (timed : client.deadline.isSome = true) :
    client.follow runtime (.waiting left) calls = (made, .ok ()) ↔
      ∃ questions ≤ left, client.Settles runtime calls questions ∧
        made = calls ++ List.replicate (questions + 1) (.state client.id) := by
  induction left generalizing calls with
  | zero =>
    rw [follow_eq_iff ok_ne_failed, judge_waiting_iff]
    constructor
    · rintro (⟨⟨state, told, ⟨stopped, _⟩ | ⟨_, _, none, _⟩⟩, same⟩ | ⟨next, judged, _⟩)
      · cases same
        exact ⟨0, Nat.le_refl 0, settles_zero_iff.mpr ⟨state, told, stopped⟩, rfl⟩
      · cases none
      · obtain ⟨_, _, ⟨_, none⟩ | ⟨_, _, none, _⟩⟩ := judge_waiting_iff.mp judged
        · cases none
        · cases none
    · rintro ⟨questions, few, settles, rfl⟩
      obtain rfl := Nat.le_zero.mp few
      obtain ⟨state, told, stopped⟩ := settles_zero_iff.mp settles
      exact .inl ⟨⟨state, told, .inl ⟨stopped, rfl⟩⟩, rfl⟩
  | succ left hypothesis =>
    rw [follow_eq_iff ok_ne_failed, judge_waiting_iff]
    constructor
    · rintro (⟨⟨state, told, ⟨stopped, _⟩ | ⟨_, _, _, none⟩⟩, same⟩ | ⟨next, judged, later⟩)
      · cases same
        exact ⟨0, Nat.zero_le _, settles_zero_iff.mpr ⟨state, told, stopped⟩, rfl⟩
      · cases none
      · obtain ⟨state, told, ⟨_, none⟩ | ⟨going, fewer, same, some⟩⟩ := judge_waiting_iff.mp judged
        · cases none
        · cases same
          cases some
          rw [admits, if_pos timed] at later
          obtain ⟨questions, few, settles, rfl⟩ := hypothesis.mp later
          refine ⟨questions + 1, Nat.succ_le_succ few,
            settles_succ_iff.mpr ⟨⟨state, told, going⟩, settles⟩, ?_⟩
          rw [List.append_assoc]
          rfl
    · rintro ⟨questions, few, settles, rfl⟩
      cases questions with
      | zero =>
        obtain ⟨state, told, stopped⟩ := settles_zero_iff.mp settles
        exact .inl ⟨⟨state, told, .inl ⟨stopped, rfl⟩⟩, rfl⟩
      | succ questions =>
        obtain ⟨⟨state, told, going⟩, settles⟩ := settles_succ_iff.mp settles
        refine .inr ⟨.waiting left, judge_waiting_iff.mpr
          ⟨state, told, .inr ⟨going, left, rfl, rfl⟩⟩, ?_⟩
        rw [admits, if_pos timed]
        refine hypothesis.mpr ⟨questions, Nat.le_of_succ_le_succ few, settles, ?_⟩
        rw [List.append_assoc]
        rfl

/-- A wait with a deadline comes to its end. -/
theorem whole_follow_waiting {left : Nat} (timed : client.deadline.isSome = true) :
    Whole (client.follow runtime (.waiting left) calls) := by
  induction left generalizing calls with
  | zero =>
    rw [follow_eq]
    split
    next => nofun
    next => nofun
    next next judged =>
      obtain ⟨_, _, ⟨_, none⟩ | ⟨_, _, none, _⟩⟩ := judge_waiting_iff.mp judged
      · cases none
      · cases none
  | succ left hypothesis =>
    rw [follow_eq]
    split
    next => nofun
    next => nofun
    next next judged =>
      obtain ⟨_, _, ⟨_, none⟩ | ⟨_, fewer, same, some⟩⟩ := judge_waiting_iff.mp judged
      · cases none
      · cases same
        cases some
        rw [admits, if_pos timed]
        exact hypothesis

/-! ### Tests that end well -/

/-- A life ends well when the container is brought to the wait, which has a deadline, and is found
stopped soon enough. -/
theorem follow_eq_ok_iff :
    client.follow runtime .create [] = (made, .ok ()) ↔
      client.deadline.isSome = true ∧ ∃ killed questions, questions ≤ client.patience ∧
        client.Brought runtime killed ∧
        client.Settles runtime (client.itinerary killed 0) questions ∧
        made = client.itinerary killed (questions + 1) := by
  rw [follow_create_iff ok_ne_failed]
  constructor
  · rintro ⟨killed, brought, waited⟩
    unfold wait at waited
    split at waited
    next timed =>
      obtain ⟨questions, few, settles, equal⟩ := (follow_waiting_iff timed).mp waited
      exact ⟨timed, killed, questions, few, brought, settles,
        equal.trans (itinerary_append_replicate killed _)⟩
    next => cases waited
  · rintro ⟨timed, killed, questions, few, brought, settles, equal⟩
    rw [← itinerary_append_replicate] at equal
    exact ⟨killed, brought, (if_pos timed).trans
      ((follow_waiting_iff timed).mpr ⟨questions, few, settles, equal⟩)⟩

/-- A test ends well when its life does and the container is deleted. -/
theorem cleanUp_eq_ok_iff {life : List Call × Except Breakdown Unit} :
    (client.cleanUp runtime life).2 = .ok () ↔
      life = (life.1, .ok ()) ∧ (runtime (life.1 ++ [.delete client.id])).Succeeds := by
  obtain ⟨calls, result⟩ := life
  cases result with
  | error breakdown => cases breakdown <;> simp [cleanUp]
  | ok value =>
    have deleted : (∃ out, client.output (.delete client.id)
        (runtime (calls ++ [.delete client.id])) = .ok out) ↔
          (runtime (calls ++ [.delete client.id])).Succeeds := exists_output_eq_ok_iff
    rw [← deleted, cleanUp]
    cases client.output (.delete client.id) (runtime (calls ++ [.delete client.id])) with
    | error failure => simp
    | ok out => simp

/-- A clean life is the itinerary up to the question that finds the container stopped. -/
theorem follow_of_clean {killed : Bool} {questions : Nat} (timed : client.deadline.isSome = true)
    (few : questions ≤ client.patience) (clean : client.Clean runtime killed questions) :
    client.follow runtime .create [] = (client.itinerary killed (questions + 1), .ok ()) :=
  follow_eq_ok_iff.mpr ⟨timed, killed, questions, few, clean.toBrought, clean.stops, rfl⟩

/-- **A test ends well exactly when the runtime leads the container through a clean life**, and
finds it stopped before the deadline, which there has to be. -/
theorem test_eq_ok_iff :
    (client.test runtime).2 = .ok () ↔
      client.deadline.isSome = true ∧ ∃ killed questions, questions ≤ client.patience ∧
        client.Clean runtime killed questions := by
  rw [test, cleanUp_eq_ok_iff]
  constructor
  · rintro ⟨well, delete⟩
    obtain ⟨timed, killed, questions, few, brought, stops, made⟩ := follow_eq_ok_iff.mp well
    rw [made] at delete
    exact ⟨timed, killed, questions, few, ⟨brought, stops, delete⟩⟩
  · rintro ⟨timed, killed, questions, few, clean⟩
    rw [follow_of_clean timed few clean]
    exact ⟨rfl, clean.delete⟩

/-- A test of a clean life makes the calls of the itinerary, and the delete. -/
theorem test_of_clean {killed : Bool} {questions : Nat} (timed : client.deadline.isSome = true)
    (few : questions ≤ client.patience) (clean : client.Clean runtime killed questions) :
    client.test runtime =
      (client.itinerary killed (questions + 1) ++ [.delete client.id], .ok ()) := by
  have followed := follow_of_clean timed few clean
  refine Prod.ext ?_ (test_eq_ok_iff.mpr ⟨timed, killed, questions, few, clean⟩)
  rw [test_eq (by rw [followed]; nofun), followed]
  exact congrArg (· ++ _) (List.append_nil _)

/-! ### Tests that break off -/

/-- **The wait for the stop is reached and has no deadline.** -/
structure BreaksOff (client : Client) (runtime : Runtime) (killed : Bool) : Prop
    extends client.Brought runtime killed where
  endless : client.deadline = none

/-- Then the program breaks off: the calls so far are all. -/
theorem test_of_breaksOff {killed : Bool} (breaks : client.BreaksOff runtime killed) :
    client.test runtime = (client.itinerary killed 0, .error overflow) := by
  have waited : client.wait runtime killed = (client.itinerary killed 0, .error overflow) := by
    rw [wait, breaks.endless]
    rfl
  rw [test, (follow_create_iff (crashed_ne_failed _)).mpr ⟨killed, breaks.toBrought, waited⟩]
  rfl

/-- The program breaks off in the life only. -/
theorem crashed_of_cleanUp {life : List Call × Except Breakdown Unit} {message : String}
    (crashed : (client.cleanUp runtime life).2 = .error (.crashed message)) :
    life = (life.1, .error (.crashed message)) := by
  obtain ⟨calls, result⟩ := life
  cases result with
  | error breakdown =>
    cases breakdown with
    | failed failure => cases crashed
    | crashed other =>
      cases crashed
      rfl
  | ok value =>
    rw [cleanUp] at crashed
    split at crashed <;> cases crashed

/-- **The program breaks off for one reason only.** -/
theorem exists_breaksOff {message : String}
    (crashed : (client.test runtime).2 = .error (.crashed message)) :
    ∃ killed, client.BreaksOff runtime killed := by
  obtain ⟨killed, brought, waited⟩ :=
    (follow_create_iff (crashed_ne_failed _)).mp (crashed_of_cleanUp crashed)
  refine ⟨killed, brought, ?_⟩
  unfold wait at waited
  split at waited
  next timed => exact absurd (congrArg Prod.snd waited) (whole_follow_waiting timed message)
  next endless => simpa using endless

/-- A life is whole where its test is. -/
theorem whole_follow_of_whole_test (whole : Whole (client.test runtime)) :
    Whole (client.follow runtime .create []) := by
  intro message crashed
  refine whole message ?_
  rw [test]
  generalize client.follow runtime .create [] = life at crashed ⊢
  obtain ⟨calls, result⟩ := life
  cases crashed
  rfl

/-- **A test ends well exactly when its calls are those of a clean life and the delete.** The calls
tell   how often the container has been asked for, so that no time limit need be spoken of. -/
theorem test_eq_ok_iff_calls :
    (client.test runtime).2 = .ok () ↔ ∃ killed questions,
      (client.test runtime).1 = client.itinerary killed (questions + 1) ++ [.delete client.id] ∧
        client.Clean runtime killed questions := by
  constructor
  · intro well
    obtain ⟨timed, killed, questions, few, clean⟩ := test_eq_ok_iff.mp well
    exact ⟨killed, questions, by rw [test_of_clean timed few clean], clean⟩
  · rintro ⟨killed, questions, calls, clean⟩
    have whole : Whole (client.test runtime) := by
      intro message crashed
      -- A test that breaks off makes no delete.
      obtain ⟨killed', breaks⟩ := exists_breaksOff crashed
      rw [test_of_breaksOff breaks] at calls
      exact delete_notMem_itinerary killed' 0
        (calls ▸ List.mem_append_right _ (List.mem_singleton_self _))
    rw [test_eq (whole_follow_of_whole_test whole)] at calls
    have life := List.append_cancel_right calls
    rw [test, cleanUp_eq_ok_iff]
    cases ended : (client.follow runtime .create []).2 with
    | ok value =>
      rw [ended] at life
      have made : (client.follow runtime .create []).1 = client.itinerary killed (questions + 1) :=
        (List.append_nil _).symm.trans life
      exact ⟨Prod.ext rfl ended, made ▸ clean.delete⟩
    | error breakdown =>
      -- The last call would be a kill and a question at once.
      rw [ended, ← itinerary_append_state] at life
      cases (List.append_inj' life rfl).2

/-! ### The first bad answer -/

/-- The stages that a runtime leads to, each behind the calls that have been answered well. -/
inductive Leads (client : Client) (runtime : Runtime) : Stage → List Call → Prop
  | start : client.Leads runtime .create []
  | step {stage next : Stage} {calls : List Call} (before : client.Leads runtime stage calls)
      (judged : client.judge stage (runtime (calls ++ [client.call stage])) = .ok (some next))
      (admitted : client.admits next = true) :
      client.Leads runtime next (calls ++ [client.call stage])

/-- The first bad answer is the one to the last one of some calls. -/
def Fails (client : Client) (runtime : Runtime) (calls : List Call) (failure : Failure) : Prop :=
  ∃ stage before, client.Leads runtime stage before ∧ calls = before ++ [client.call stage] ∧
    client.judge stage (runtime calls) = .error failure

/-- A life goes on from every stage that the runtime leads to. -/
theorem follow_of_leads (leads : client.Leads runtime stage calls) :
    client.follow runtime .create [] = client.follow runtime stage calls := by
  induction leads with
  | start => rfl
  | step before judged admitted hypothesis => rw [hypothesis, follow_of_admits judged admitted]

/-- A life that fails does so at a bad answer behind good ones, and ends there. -/
theorem fails_of_follow_eq_error (leads : client.Leads runtime stage calls)
    (failed : client.follow runtime stage calls = (made, .error (.failed failure))) :
    client.Fails runtime made failure := by
  induction stage, calls using follow.induct client runtime with
  | case1 stage calls _ fault judged =>
    rw [follow_of_bad judged] at failed
    cases failed
    exact ⟨stage, calls, leads, rfl, judged⟩
  | case2 stage calls _ judged =>
    rw [follow_of_last judged] at failed
    cases failed
  | case3 stage calls _ next judged admitted hypothesis =>
    rw [follow_of_admits judged admitted] at failed
    exact hypothesis (leads.step judged admitted) failed
  | case4 stage calls _ next judged barred =>
    rw [follow_of_barred judged barred] at failed
    cases failed

/-- **A life fails at the first bad answer**, and with the failure of that answer. -/
theorem follow_eq_error_iff :
    client.follow runtime .create [] = (made, .error (.failed failure)) ↔
      client.Fails runtime made failure := by
  refine ⟨fails_of_follow_eq_error .start, ?_⟩
  rintro ⟨stage, before, leads, rfl, judged⟩
  rw [follow_of_leads leads, follow_of_bad judged]

/-- A life goes on behind the calls that have been made. -/
theorem append_call_prefix_follow :
    calls ++ [client.call stage] <+: (client.follow runtime stage calls).1 := by
  induction stage, calls using follow.induct client runtime with
  | case1 stage calls _ fault judged =>
    exact ⟨[], by rw [follow_of_bad judged, List.append_nil]⟩
  | case2 stage calls _ judged =>
    exact ⟨[], by rw [follow_of_last judged, List.append_nil]⟩
  | case3 stage calls _ next judged admitted hypothesis =>
    rw [follow_of_admits judged admitted]
    exact (List.prefix_append _ _).trans hypothesis
  | case4 stage calls _ next judged barred =>
    exact ⟨[], by rw [follow_of_barred judged barred, List.append_nil]⟩

/-- Two runtimes agree on a life: each of its calls has the same answer from both. -/
def Agree (runtime runtime' : Runtime) (life : List Call) : Prop :=
  ∀ asked, asked <+: life → asked ≠ [] → runtime asked = runtime' asked

/-- **A life depends on the answers to its own calls only.** -/
theorem follow_congr (agree : Agree runtime runtime' (client.follow runtime stage calls).1) :
    client.follow runtime' stage calls = client.follow runtime stage calls := by
  have same : runtime (calls ++ [client.call stage]) = runtime' (calls ++ [client.call stage]) :=
    agree _ append_call_prefix_follow (by simp)
  induction stage, calls using follow.induct client runtime with
  | case1 stage calls _ fault judged =>
    rw [follow_of_bad judged, follow_of_bad (same ▸ judged)]
  | case2 stage calls _ judged => rw [follow_of_last judged, follow_of_last (same ▸ judged)]
  | case3 stage calls _ next judged admitted hypothesis =>
    rw [follow_of_admits judged admitted] at agree ⊢
    rw [follow_of_admits (same ▸ judged) admitted]
    exact hypothesis agree (agree _ append_call_prefix_follow (by simp))
  | case4 stage calls _ next judged barred =>
    rw [follow_of_barred judged barred, follow_of_barred (same ▸ judged) barred]

/-- **The first bad answer makes the test fail**, whatever the answers to the clean-up. -/
theorem test_eq_error_of_agree (fails : client.Fails runtime made failure)
    (agree : Agree runtime runtime' made) :
    (client.test runtime').2 = .error (.failed failure) := by
  have failed := follow_eq_error_iff.mpr fails
  have same : client.follow runtime' .create [] = (made, .error (.failed failure)) := by
    rw [← failed]
    exact follow_congr (by rwa [failed])
  rw [test, same]
  rfl

end Client

end OciBundle
