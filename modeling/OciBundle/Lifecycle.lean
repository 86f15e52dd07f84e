/-
**Driving a runtime through a container's life.**

The container is created, started, killed if it runs, and waited for until it has stopped; the state
is asked for in between. At the end the container is deleted; when something went wrong, it is
killed before that. There is one exception: a time limit of which the clock cannot show the end
makes the program break off where the wait begins, and nothing is cleaned up.

* `Call`, `Answer`, `Runtime`: what is asked of a runtime and what it answers.
* `Stage`: the place in the container's life; `Client.call` is the call that is due there, and
  `Client.judge` takes the answer to the next stage.
* `Client.reach`: the answers that reach a client.
* `Client.deadline`, `Client.admits`: the end of the wait, without which it cannot be entered.
* `Client.follow`: the calls of a life, and how it ended.
* `Client.test`: the same with the clean-up.
-/

import OciBundle.ExitStatus
import OciBundle.Failure
import OciBundle.FileTree
import OciBundle.State
import OciBundle.Text.Blank
import OciBundle.Text.Quoted
import OciBundle.Word

namespace OciBundle

/-- A call of a runtime. -/
inductive Call where
  | create (bundle id : String)
  | state (id : String)
  | start (id : String)
  | kill (id : String)
  | delete (id : String)
  deriving DecidableEq

namespace Call

/-- The arguments of a call. -/
def args : Call → List String
  | .create bundle id => ["create", "--bundle", bundle, id]
  | .state id => ["state", id]
  | .start id => ["start", id]
  | .kill id => ["kill", id, "KILL"]
  | .delete id => ["delete", id]

/-- The command of a call. -/
def verb (call : Call) : String := call.args.headD ""

/-- The arguments in a line. -/
def line (call : Call) : String := " ".intercalate call.args

end Call

/-- The answer to a call. -/
inductive Answer where
  /-- The program cannot be executed. -/
  | unavailable (fault : LookupFault)
  /-- The call cannot be made, since its words hold a NUL. -/
  | unspeakable
  /-- The program does not end in time. -/
  | late
  /-- The program has ended, and has put out two texts by then. -/
  | ended (status : ExitStatus) (out err : String)
  deriving DecidableEq

/-- A runtime: the answer to the last one of the calls so far. -/
abbrev Runtime := List Call → Answer

/-- How a runtime is driven. -/
structure Client where
  /-- The program that is called. -/
  program : String
  /-- The directory of the bundle. -/
  bundle : String
  /-- The container. -/
  id : String
  timeoutSecs : UInt64
  /-- The seconds on the clock when the wait for the stop begins. -/
  clockSecs : Int64
  /-- How often the state is asked for again while waiting for the container to stop. -/
  patience : Nat
  deriving DecidableEq

/-- A place in a container's life. -/
inductive Stage where
  | create
  /-- The container has been created; its state is due. -/
  | created
  | start
  /-- The container has been started; its state is due. -/
  | started
  | kill
  /-- The container has to stop; so many questions may follow the next one. -/
  | waiting (left : Nat)
  deriving DecidableEq

/-- The number of stages ahead at most. -/
def Stage.rank (patience : Nat) : Stage → Nat
  | .create => patience + 5
  | .created => patience + 4
  | .start => patience + 3
  | .started => patience + 2
  | .kill => patience + 1
  | .waiting left => left

namespace Client

/-- Whether calls can be made: neither the program's name nor the container's holds a NUL. -/
def canCall (client : Client) : Bool :=
  !(client.program.toList ++ client.id.toList).contains '\x00'

/-- The answers that reach the client. -/
def reach (client : Client) (runtime : Runtime) : Runtime := fun calls =>
  if client.canCall then runtime calls else .unspeakable

/-- The text of the time limit. -/
def limit (client : Client) : String :=
  if client.timeoutSecs = 0 then "0ns" else Word.text client.timeoutSecs ++ "s"

/-- The output of a successful call. -/
def output (client : Client) (call : Call) : Answer → Except Failure String
  | .unavailable fault =>
    .error ((Failure.because fault.message).within ("failed to execute " ++ client.program))
  | .unspeakable =>
    .error ((Failure.because "nul byte found in provided data").within
      ("failed to execute " ++ client.program))
  | .late =>
    .error (.because (client.program ++ " " ++ call.line ++ " timed out after " ++ client.limit))
  | .ended status out err =>
    if status = .code 0 then .ok out
    else
      .error (.because (client.program ++ " " ++ call.line ++ " failed (" ++ status.text ++ "): "
        ++ Text.trim err))

/-- The state that a call has put out. -/
def state (client : Client) (answer : Answer) : Except Failure State := do
  let out ← client.output (.state client.id) answer
  (State.ofText out).mapError fun fault =>
    (Failure.ofDocument (.json fault)).within ("invalid state output: " ++ Text.trim out)

/-- The state that a call has put out, which has to be one of the container in an expected status.
-/
def expectState (client : Client) (expected : List Status) (answer : Answer) :
    Except Failure State := do
  let state ← client.state answer
  if state.id ≠ client.id then
    throw (.because ("state reports container " ++ Text.quoted state.id ++ ", expected "
      ++ Text.quoted client.id))
  if ¬ expected.contains state.status then
    throw (.because ("container " ++ client.id ++ " is " ++ state.status.text
      ++ ", expected one of [" ++ ", ".intercalate (expected.map (·.name)) ++ "]"))
  return state

/-- The call that is due. -/
def call (client : Client) : Stage → Call
  | .create => .create client.bundle client.id
  | .start => .start client.id
  | .kill => .kill client.id
  | .created | .started | .waiting _ => .state client.id

/-- The stage after an answer; none when the container has stopped. -/
def judge (client : Client) (stage : Stage) (answer : Answer) : Except Failure (Option Stage) :=
  match stage with
  | .create => (client.output (client.call .create) answer).map fun _ => some .created
  | .created => (client.expectState [.created] answer).map fun _ => some .start
  | .start => (client.output (client.call .start) answer).map fun _ => some .started
  | .started =>
    (client.expectState [.running, .stopped] answer).map fun state =>
      if state.status = .running then some .kill else some (.waiting client.patience)
  | .kill =>
    (client.output (client.call .kill) answer).map fun _ => some (.waiting client.patience)
  | .waiting left => do
    let state ← client.state answer
    if state.status = .stopped then return none
    match left with
    | 0 =>
      throw (.because ("container " ++ client.id ++ " did not stop within " ++ client.limit))
    | left + 1 => return some (.waiting left)

/-- Every answer leads to a later stage. -/
theorem rank_lt_of_judge {client : Client} {stage next : Stage} {answer : Answer}
    (judged : client.judge stage answer = .ok (some next)) :
    next.rank client.patience < stage.rank client.patience := by
  cases stage with
  | create | created | start | kill =>
    simp only [judge, Except.map] at judged
    split at judged
    · cases judged
    · cases judged
      simp [Stage.rank]
  | started =>
    simp only [judge, Except.map] at judged
    split at judged
    · cases judged
    · injection judged with judged
      split at judged <;> cases judged <;> simp only [Stage.rank] <;> omega
  | waiting left =>
    simp only [judge] at judged
    cases asked : client.state answer with
    | error failure => simp [asked, bind, Except.bind] at judged
    | ok state =>
      simp only [asked, bind, Except.bind] at judged
      split at judged
      · cases judged
      · cases left with
        | zero => cases judged
        | succ left =>
          cases judged
          simp [Stage.rank]

/-- The end of the wait for the stop, in seconds on the clock, if the clock can show it. -/
def deadline (client : Client) : Option Int64 :=
  Word.ofInt? (Word.toInt client.clockSecs + Word.toInt client.timeoutSecs)

/-- Whether a stage can be entered: a wait needs its deadline. -/
def admits (client : Client) : Stage → Bool
  | .waiting _ => client.deadline.isSome
  | .create | .created | .start | .started | .kill => true

/-- The crash of the program for want of a deadline. -/
def overflow : Breakdown := .crashed "overflow when adding duration to instant"

/-- The calls of a container's life from a stage on, behind earlier calls, and how it ended. -/
def follow (client : Client) (runtime : Runtime) (stage : Stage) (calls : List Call) :
    List Call × Except Breakdown Unit :=
  let calls := calls ++ [client.call stage]
  match _judged : client.judge stage (runtime calls) with
  | .error failure => (calls, .error (.failed failure))
  | .ok none => (calls, .ok ())
  | .ok (some next) =>
    if client.admits next then follow client runtime next calls else (calls, .error overflow)
termination_by stage.rank client.patience
decreasing_by exact rank_lt_of_judge ‹_›

/-- The clean-up after a life: its calls, and the failure of the life or else of the clean-up.
Behind a crash there is none. -/
def cleanUp (client : Client) (runtime : Runtime) :
    List Call × Except Breakdown Unit → List Call × Except Breakdown Unit
  | (calls, .error (.crashed message)) => (calls, .error (.crashed message))
  | (calls, .error (.failed failure)) =>
    (calls ++ [.kill client.id, .delete client.id], .error (.failed failure))
  | (calls, .ok ()) =>
    let delete : Call := .delete client.id
    let calls := calls ++ [delete]
    match client.output delete (runtime calls) with
    | .ok _ => (calls, .ok ())
    | .error failure => (calls, .error (.failed (failure.within "failed to delete container")))

/-- The calls of a whole test, and how it ended. -/
def test (client : Client) (runtime : Runtime) : List Call × Except Breakdown Unit :=
  client.cleanUp runtime (client.follow runtime .create [])

end Client

end OciBundle
