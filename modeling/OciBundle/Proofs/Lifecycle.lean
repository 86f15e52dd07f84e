/-
**A client keeps to the order of a container's life.**

Whatever a runtime answers, a test begins an itinerary: it creates the container, asks for its
state, starts it, asks again, kills it if it runs, and asks until it has stopped. Then it kills the
container if something went wrong, and deletes it. Only a life without a deadline, in which the
program breaks off, is left as it is.

* `Client.itinerary`: the calls of a life in which nothing goes wrong.
* `Client.Hears`: what an answer to a question for the state tells.
* `Client.Due`: the calls behind a stage, which is the invariant of a life.
* `Client.Begins`: a life goes along the itinerary that the runtime's answers ask for.
* `Client.due_of_judge`, `Client.orderly_of_due`: what an answer keeps, and what a call makes of it.
* `Client.orderly_follow`: what holds of a whole life.
* `Client.deadline_eq_none_iff`: the time limits without a deadline.
* `Client.Lawful`, `Client.lawful_test`: the order that a whole test keeps to.
-/

import Mathlib.Data.List.Basic
import OciBundle.Lifecycle
import OciBundle.Proofs.Result

namespace OciBundle

/-- The container that a call is about. -/
def Call.id : Call → String
  | .create _ id | .state id | .start id | .kill id | .delete id => id

namespace Client

variable {client : Client} {runtime : Runtime} {stage next : Stage} {calls life : List Call}
  {answer : Answer} {state : State} {status : Status} {expected : List Status}

/-! ### Itineraries -/

/-- The calls up to the second question for the state. -/
def opening (client : Client) : List Call :=
  [.create client.bundle client.id, .state client.id, .start client.id, .state client.id]

/-- The calls of a life in which nothing goes wrong: the opening, a kill if the container runs, and
the questions while it stops. -/
def itinerary (client : Client) (killed : Bool) (questions : Nat) : List Call :=
  client.opening ++ (if killed then [.kill client.id] else [])
    ++ List.replicate questions (.state client.id)

/-- One more question goes on with an itinerary. -/
theorem itinerary_append_state (killed : Bool) (questions : Nat) :
    client.itinerary killed questions ++ [.state client.id] =
      client.itinerary killed (questions + 1) := by
  rw [itinerary, List.append_assoc, ← List.replicate_succ']
  rfl

/-- An itinerary is what comes before its questions, and these. -/
theorem itinerary_append_replicate (killed : Bool) (questions : Nat) :
    client.itinerary killed 0 ++ List.replicate questions (.state client.id) =
      client.itinerary killed questions := by
  rw [itinerary, itinerary, List.replicate_zero, List.append_nil]

/-- All calls of an itinerary are about the client's container. -/
theorem id_of_mem_itinerary {killed : Bool} {questions : Nat} {call : Call}
    (member : call ∈ client.itinerary killed questions) : call.id = client.id := by
  have listed : (call ∈ client.opening ∨ call = .kill client.id) ∨ call = .state client.id := by
    rcases List.mem_append.mp member with early | asked
    · refine .inl ((List.mem_append.mp early).imp_right fun kill => ?_)
      split at kill
      · exact List.mem_singleton.mp kill
      · exact absurd kill List.not_mem_nil
    · exact .inr (List.eq_of_mem_replicate asked)
  rcases listed with (inside | rfl) | rfl
  · simp only [opening, List.mem_cons, List.not_mem_nil, or_false] at inside
    rcases inside with rfl | rfl | rfl | rfl <;> rfl
  · rfl
  · rfl

/-- The delete is none of the calls of an itinerary. -/
theorem delete_notMem_itinerary (killed : Bool) (questions : Nat) :
    Call.delete client.id ∉ client.itinerary killed questions := by
  cases killed <;> simp [itinerary, opening, List.mem_replicate]

/-- A call that stands at one place of a list only stands at that place of a beginning, too. -/
theorem eq_of_append_cons_prefix {call : Call} {front back before after : List Call}
    (ahead : call ∉ front) (behind : call ∉ back)
    (start : before ++ call :: after <+: front ++ call :: back) : before = front := by
  obtain ⟨rest, equal⟩ := start
  rw [List.append_assoc, List.cons_append] at equal
  exact ((List.append_cons_inj_of_notMem ahead behind).mp equal.symm).1.symm

/-- What comes before the start. -/
theorem eq_take_opening_of_start {killed : Bool} {questions : Nat} {before after : List Call}
    (start : before ++ .start client.id :: after <+: client.itinerary killed questions) :
    before = client.opening.take 2 := by
  have ahead : Call.start client.id ∉ client.opening.take 2 := by simp [opening]
  refine eq_of_append_cons_prefix ahead ?_ start
  cases killed <;> simp [List.mem_replicate]

/-- A kill comes behind the opening of an itinerary with a kill. -/
theorem eq_opening_of_kill {killed : Bool} {questions : Nat} {before after : List Call}
    (start : before ++ .kill client.id :: after <+: client.itinerary killed questions) :
    killed = true ∧ before = client.opening := by
  cases killed with
  | false =>
    have member : Call.kill client.id ∈ client.itinerary false questions :=
      start.subset (List.mem_append_right _ List.mem_cons_self)
    simp [itinerary, opening, List.mem_replicate] at member
  | true =>
    rw [itinerary, List.append_assoc] at start
    exact ⟨rfl, eq_of_append_cons_prefix (by simp [opening]) (by simp [List.mem_replicate]) start⟩

/-! ### What answers tell -/

/-- An answer to a question for the state tells that the client's container has a status. -/
def Hears (client : Client) (answer : Answer) (status : Status) : Prop :=
  ∃ state, client.state answer = .ok state ∧ state.id = client.id ∧ state.status = status

/-- An expected state is one of the client's container. -/
theorem hears_of_expectState (judged : client.expectState expected answer = .ok state) :
    client.Hears answer state.status ∧ state.status ∈ expected := by
  obtain ⟨found, asked, checked⟩ := exists_of_bind_eq_ok judged
  obtain ⟨same, checked⟩ := of_check_eq_ok checked
  obtain ⟨inside, checked⟩ := of_check_eq_ok checked
  cases checked
  exact ⟨⟨state, asked, not_not.mp same, rfl⟩, by simpa using inside⟩

/-- An answer tells one status. -/
theorem Hears.unique {other : Status} (first : client.Hears answer status)
    (second : client.Hears answer other) : status = other := by
  obtain ⟨state, asked, _, rfl⟩ := first
  obtain ⟨state', asked', _, rfl⟩ := second
  cases asked.symm.trans asked'
  rfl

/-! ### The calls behind a stage -/

/-- The calls that have been made when a stage is due, and what has been heard by then. -/
def Due (client : Client) (runtime : Runtime) (calls : List Call) : Stage → Prop
  | .create => calls = []
  | .created => calls = client.opening.take 1
  | .start =>
    calls = client.opening.take 2 ∧ client.Hears (runtime (client.opening.take 2)) .created
  | .started =>
    calls = client.opening.take 3 ∧ client.Hears (runtime (client.opening.take 2)) .created
  | .kill =>
    calls = client.opening ∧ client.Hears (runtime (client.opening.take 2)) .created ∧
      client.Hears (runtime client.opening) .running
  | .waiting _ =>
    client.Hears (runtime (client.opening.take 2)) .created ∧
      ∃ killed questions, (killed = true ↔ client.Hears (runtime client.opening) .running) ∧
        calls = client.itinerary killed questions

/-- **One step.** When an answer leads to a stage, the calls behind that stage have been made. -/
theorem due_of_judge (due : client.Due runtime calls stage)
    (judged : client.judge stage (runtime (calls ++ [client.call stage])) = .ok (some next)) :
    client.Due runtime (calls ++ [client.call stage]) next := by
  cases stage with
  | create =>
    obtain ⟨_, _, equal⟩ := map_eq_ok_iff.mp judged
    cases equal
    cases due
    rfl
  | created =>
    obtain ⟨state, expected, equal⟩ := map_eq_ok_iff.mp judged
    cases equal
    cases due
    obtain ⟨heard, inside⟩ := hears_of_expectState expected
    rw [List.mem_singleton.mp inside] at heard
    exact ⟨rfl, heard⟩
  | start =>
    obtain ⟨_, _, equal⟩ := map_eq_ok_iff.mp judged
    cases equal
    obtain ⟨rfl, created⟩ := due
    exact ⟨rfl, created⟩
  | started =>
    obtain ⟨state, expected, equal⟩ := map_eq_ok_iff.mp judged
    obtain ⟨rfl, created⟩ := due
    have heard : client.Hears (runtime client.opening) state.status :=
      (hears_of_expectState expected).1
    split at equal
    next running =>
      cases equal
      rw [running] at heard
      exact ⟨rfl, created, heard⟩
    next stopped =>
      cases equal
      -- The answer tells one status only, so it does not tell that the container runs.
      refine ⟨created, false, 0, iff_of_false Bool.false_ne_true fun running => ?_, rfl⟩
      exact stopped (heard.unique running)
  | kill =>
    obtain ⟨_, _, equal⟩ := map_eq_ok_iff.mp judged
    cases equal
    obtain ⟨rfl, created, running⟩ := due
    exact ⟨created, true, 0, iff_of_true rfl running, rfl⟩
  | waiting left =>
    obtain ⟨created, killed, questions, running, rfl⟩ := due
    obtain ⟨state, _, decided⟩ := exists_of_bind_eq_ok judged
    split at decided
    · cases decided
    · cases left with
      | zero => cases decided
      | succ left =>
        cases decided
        exact ⟨created, killed, questions + 1, running, itinerary_append_state killed questions⟩

/-! ### A life -/

/-- A life begins an itinerary, with a kill exactly if the second answer is that the container
runs. -/
def Begins (client : Client) (runtime : Runtime) (life : List Call) : Prop :=
  ∃ killed questions, (killed = true ↔ client.Hears (runtime client.opening) .running) ∧
    life <+: client.itinerary killed questions

/-- A life begins an itinerary, and goes on behind the first question only if the answer is that the
container has been created. -/
structure Orderly (client : Client) (runtime : Runtime) (life : List Call) : Prop where
  nonempty : life ≠ []
  begins : client.Begins runtime life
  created : 2 < life.length → client.Hears (runtime (client.opening.take 2)) .created

/-- A beginning of the opening begins the itinerary that the runtime asks for. -/
theorem begins_of_prefix_opening (start : life <+: client.opening) :
    client.Begins runtime life := by
  -- The itineraries with and without a kill share the opening.
  have longer (killed : Bool) : life <+: client.itinerary killed 0 := by
    rw [itinerary, List.append_assoc]
    exact start.trans (List.prefix_append _ _)
  by_cases running : client.Hears (runtime client.opening) .running
  · exact ⟨true, 0, iff_of_true rfl running, longer true⟩
  · exact ⟨false, 0, iff_of_false Bool.false_ne_true running, longer false⟩

/-- A life may end with the call that is due. -/
theorem orderly_of_due (due : client.Due runtime calls stage) :
    client.Orderly runtime (calls ++ [client.call stage]) where
  nonempty := List.append_ne_nil_of_right_ne_nil _ (List.cons_ne_nil _ _)
  begins := by
    cases stage with
    | create =>
      cases due
      exact begins_of_prefix_opening (List.take_prefix 1 client.opening)
    | created =>
      cases due
      exact begins_of_prefix_opening (List.take_prefix 2 client.opening)
    | start =>
      obtain ⟨rfl, _⟩ := due
      exact begins_of_prefix_opening (List.take_prefix 3 client.opening)
    | started =>
      obtain ⟨rfl, _⟩ := due
      exact begins_of_prefix_opening (List.prefix_refl client.opening)
    | kill =>
      obtain ⟨rfl, _, running⟩ := due
      exact ⟨true, 0, iff_of_true rfl running, List.prefix_refl _⟩
    | waiting left =>
      obtain ⟨_, killed, questions, running, rfl⟩ := due
      refine ⟨killed, questions + 1, running, ?_⟩
      rw [← itinerary_append_state]
      exact List.prefix_refl _
  created := by
    intro longer
    cases stage with
    | create | created =>
      cases due
      simp [opening] at longer
    | start | started => exact due.2
    | kill => exact due.2.1
    | waiting left => exact due.1

/-- What an answer makes of a life. -/
theorem follow_eq (stage : Stage) (calls : List Call) :
    client.follow runtime stage calls =
      match client.judge stage (runtime (calls ++ [client.call stage])) with
      | .error failure => (calls ++ [client.call stage], .error (.failed failure))
      | .ok none => (calls ++ [client.call stage], .ok ())
      | .ok (some next) =>
        if client.admits next then client.follow runtime next (calls ++ [client.call stage])
        else (calls ++ [client.call stage], .error overflow) := by
  rw [follow]
  split
  next judged => rw [judged]
  next judged => rw [judged]
  next judged => rw [judged]

section Answered

variable {failure : Failure}

/-- A bad answer ends a life. -/
theorem follow_of_bad
    (judged : client.judge stage (runtime (calls ++ [client.call stage])) = .error failure) :
    client.follow runtime stage calls =
      (calls ++ [client.call stage], .error (.failed failure)) := by
  rw [follow_eq, judged]

theorem follow_of_last
    (judged : client.judge stage (runtime (calls ++ [client.call stage])) = .ok none) :
    client.follow runtime stage calls = (calls ++ [client.call stage], .ok ()) := by
  rw [follow_eq, judged]

/-- A good answer leads on to a stage that can be entered. -/
theorem follow_of_admits
    (judged : client.judge stage (runtime (calls ++ [client.call stage])) = .ok (some next))
    (admitted : client.admits next = true) :
    client.follow runtime stage calls =
      client.follow runtime next (calls ++ [client.call stage]) := by
  rw [follow_eq, judged]
  exact if_pos admitted

/-- A good answer that leads to a wait without a deadline breaks the program off. -/
theorem follow_of_barred
    (judged : client.judge stage (runtime (calls ++ [client.call stage])) = .ok (some next))
    (barred : ¬ client.admits next = true) :
    client.follow runtime stage calls = (calls ++ [client.call stage], .error overflow) := by
  rw [follow_eq, judged]
  exact if_neg barred

end Answered

/-- **A whole life.** From any stage on, behind the calls that lead there, a life stays in order. -/
theorem orderly_follow (due : client.Due runtime calls stage) :
    client.Orderly runtime (client.follow runtime stage calls).1 := by
  induction stage, calls using follow.induct client runtime with
  | case1 stage calls _ failure judged =>
    rw [follow_of_bad judged]
    exact orderly_of_due due
  | case2 stage calls _ judged =>
    rw [follow_of_last judged]
    exact orderly_of_due due
  | case3 stage calls _ next judged admitted hypothesis =>
    rw [follow_of_admits judged admitted]
    exact hypothesis (due_of_judge due judged)
  | case4 stage calls _ next judged barred =>
    rw [follow_of_barred judged barred]
    exact orderly_of_due due

/-! ### Deadlines -/

/-- **A time limit has no deadline** when the clock runs past its last second before the limit ends.
-/
theorem deadline_eq_none_iff :
    client.deadline = none ↔
      0x7fffffffffffffff < client.clockSecs.toInt + (client.timeoutSecs.toNat : Int) := by
  have above : (-0x8000000000000000 : Int) ≤ client.clockSecs.toInt :=
    Word.low_le_toInt client.clockSecs
  show (if _ ∧ _ then _ else _) = none ↔ _
  rw [ite_eq_right_iff]
  show (-0x8000000000000000 ≤ client.clockSecs.toInt + (client.timeoutSecs.toNat : Int) ∧
    client.clockSecs.toInt + (client.timeoutSecs.toNat : Int) ≤ 0x7fffffffffffffff → _) ↔ _
  constructor
  · intro outside
    by_contra within
    exact nomatch outside ⟨by omega, by omega⟩
  · intro past within
    omega

/-! ### A test -/

/-- The order that a test keeps to, behind a life that has ended well or not. -/
structure Lawful (client : Client) (runtime : Runtime) (life : List Call × Except Breakdown Unit)
    (calls : List Call) : Prop where
  /-- The life comes first, then a kill exactly if it failed, then a delete. -/
  parts : calls = life.1 ++ (if life.2.isOk then [] else [.kill client.id]) ++ [.delete client.id]
  nonempty : life.1 ≠ []
  begins : client.Begins runtime life.1
  /-- A start follows the answer that the container has been created. -/
  started : ∀ before after, calls = before ++ .start client.id :: after →
    (∃ earlier, before = earlier ++ [.state client.id]) ∧ client.Hears (runtime before) .created
  /-- A kill in the life follows the answer that the container runs. -/
  killed : ∀ before after, life.1 = before ++ .kill client.id :: after →
    (∃ earlier, before = earlier ++ [.state client.id]) ∧ client.Hears (runtime before) .running
  deletedOnce : calls.count (.delete client.id) = 1
  deletedLast : calls.getLast? = some (.delete client.id)
  /-- All calls are about the same container. -/
  same : ∀ call ∈ calls, call.id = client.id

/-- A life that the program does not break off. -/
def Whole (life : List Call × Except Breakdown Unit) : Prop :=
  ∀ message, life.2 ≠ .error (.crashed message)

/-- The calls of a test are those of the life and the clean-up, unless the program breaks off. -/
theorem test_eq (whole : Whole (client.follow runtime .create [])) :
    (client.test runtime).1 =
      (client.follow runtime .create []).1
        ++ (if (client.follow runtime .create []).2.isOk then [] else [.kill client.id])
        ++ [.delete client.id] := by
  rw [test]
  generalize client.follow runtime .create [] = life at whole ⊢
  obtain ⟨calls, result⟩ := life
  cases result with
  | ok value =>
    rw [cleanUp, List.append_assoc]
    dsimp only
    split <;> rfl
  | error breakdown =>
    cases breakdown with
    | failed failure =>
      rw [cleanUp, List.append_assoc]
      rfl
    | crashed message => exact absurd rfl (whole message)

/-- A call that is none of the later ones stands among the earlier ones. -/
theorem exists_of_append_eq_append_cons {call : Call} {later before after : List Call}
    (other : call ∉ later) (equal : life ++ later = before ++ call :: after) :
    ∃ rest, life = before ++ call :: rest := by
  rcases List.append_eq_append_iff.mp equal with ⟨middle, _, same⟩ | ⟨middle, same, behind⟩
  · exact absurd (same ▸ List.mem_append_right _ List.mem_cons_self) other
  · cases middle with
    | nil =>
      rw [List.nil_append] at behind
      exact absurd (behind ▸ List.mem_cons_self) other
    | cons first rest =>
      obtain ⟨rfl, _⟩ := List.cons.inj behind
      exact ⟨rest, same⟩

/-- **A test drives the runtime along the order of a container's life**, whatever the runtime
answers, unless the program breaks off. -/
theorem lawful_test (whole : Whole (client.follow runtime .create [])) :
    client.Lawful runtime (client.follow runtime .create []) (client.test runtime).1 := by
  rw [test_eq whole]
  clear whole
  have orderly : client.Orderly runtime (client.follow runtime .create []).1 := orderly_follow rfl
  generalize client.follow runtime .create [] = life at orderly
  obtain ⟨killed, questions, running, start⟩ := orderly.begins
  -- The clean-up kills and deletes only: a start stands in the life.
  have apart (call : Call) (other : call ≠ .kill client.id) (last : call ≠ .delete client.id) :
      call ∉ (if life.2.isOk then [] else [.kill client.id]) ++ [.delete client.id] := by
    split <;> simp [other, last]
  have kept : Call.delete client.id ∉ life.1 := fun inside =>
    delete_notMem_itinerary killed questions (start.subset inside)
  exact
    { parts := rfl
      nonempty := orderly.nonempty
      begins := orderly.begins
      started := by
        intro before after equal
        rw [List.append_assoc] at equal
        obtain ⟨rest, here⟩ :=
          exists_of_append_eq_append_cons (apart _ (by simp) (by simp)) equal
        have early : before = client.opening.take 2 := eq_take_opening_of_start (here ▸ start)
        have heard := orderly.created (by simp [here, early, opening])
        exact ⟨⟨[.create client.bundle client.id], early⟩, early ▸ heard⟩
      killed := by
        intro before after here
        obtain ⟨wanted, early⟩ := eq_opening_of_kill (here ▸ start)
        exact ⟨⟨client.opening.take 3, early⟩, early ▸ running.mp wanted⟩
      deletedOnce := by
        rw [List.count_append, List.count_append, List.count_eq_zero_of_not_mem kept]
        split <;> simp
      deletedLast := List.getLast?_concat
      same := by
        intro call member
        rcases List.mem_append.mp member with early | last
        · rcases List.mem_append.mp early with inside | kill
          · exact id_of_mem_itinerary (start.subset inside)
          · split at kill
            · exact absurd kill List.not_mem_nil
            · rw [List.mem_singleton.mp kill]
              rfl
        · rw [List.mem_singleton.mp last]
          rfl }

end Client

end OciBundle
