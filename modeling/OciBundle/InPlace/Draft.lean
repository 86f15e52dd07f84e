/-
**Drafts that are changed in place.**

* `Operation`: all that can be done to a draft: the edits, and the merge of a single rule.
* `Draft.perform`: the draft that an operation leaves, and its result.
* `Draft.performAll`: operations one after the other.
* `Draft.granted`: the operations that are not rejected.
-/

import OciBundle.Draft
import OciBundle.InPlace.Edit

namespace OciBundle

/-- What can be done to a draft. -/
inductive Operation where
  | edit (edit : Edit)
  /-- Merges a single rule. -/
  | mergeRule (rule : NameRule)
  deriving DecidableEq

namespace Draft

/-- What a program does to the configuration of a draft. -/
def within (draft : Draft) (program : InPlace (List Decision)) :
    Draft × Except Rejection (List Decision) :=
  let (result, config) := program.outcome draft.config
  ({ draft with config }, result)

/-- A program without decisions. -/
def silent (program : InPlace Unit) : InPlace (List Decision) := do
  program
  return []

/-- The draft that an operation leaves, with the decisions on added rules or the rejection. -/
def perform (draft : Draft) : Operation → Draft × Except Rejection (List Decision)
  | .edit (.general edit) => draft.within (silent edit.perform)
  | .edit (.process edit) => draft.within (silent (edit.perform draft.target))
  | .edit (.mount edit) => draft.within (silent edit.perform)
  | .edit (.hook edit) => draft.within (silent edit.perform)
  | .edit (.linux edit) => draft.within (silent edit.perform)
  | .edit (.resources edit) => draft.within (silent edit.perform)
  | .edit (.seccomp edit) => draft.within edit.perform
  | .edit .sanitize => draft.within (silent (InPlace.write (·.sanitize)))
  | .edit (.setHostSpecific hostSpecific) => ({ draft with hostSpecific }, .ok [])
  | .mergeRule rule => draft.within (do return [← rule.perform])

/-- The draft that operations leave one after the other, with the results of all of them. -/
def performAll (draft : Draft) :
    List Operation → Draft × List (Except Rejection (List Decision))
  | [] => (draft, [])
  | operation :: rest =>
    let (after, result) := draft.perform operation
    let (final, results) := after.performAll rest
    (final, result :: results)

/-- The operations that are not rejected when they are done one after the other. -/
def granted (draft : Draft) (operations : List Operation) : List Operation :=
  ((operations.zip (draft.performAll operations).2).filter (·.2.isOk)).map Prod.fst

end Draft

end OciBundle
