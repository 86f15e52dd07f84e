/-
**Lists with one item per key.**

A list keeps the order in which its keys came in: a new value of a known key takes the place of the
old one, a new key goes to the end.

* `Keyed.change`: changes the first item that satisfies a test, or appends one.
* `Keyed.put`: puts an item in place of the first one that satisfies a test, or appends it.
* `Keyed.addNew`: appends an item that the list does not hold yet.
-/

namespace OciBundle.Keyed

variable {α : Type}

/-- Changes the first item that satisfies the test; without one, appends a fresh item. -/
def change (test : α → Bool) (update : α → α) (fresh : α) : List α → List α
  | [] => [fresh]
  | item :: rest =>
    if test item then update item :: rest else item :: change test update fresh rest

/-- Puts an item in place of the first one that satisfies the test, or at the end. -/
def put (test : α → Bool) (item : α) (items : List α) : List α :=
  change test (fun _ => item) item items

/-- Appends an item that the list does not hold yet. -/
def addNew [BEq α] (item : α) (items : List α) : List α :=
  if items.contains item then items else items ++ [item]

/-- Where no item satisfies the test, the fresh item goes to the end. -/
theorem change_of_forall_not {test : α → Bool} {update : α → α} {fresh : α} {items : List α}
    (none : ∀ item ∈ items, test item = false) :
    change test update fresh items = items ++ [fresh] := by
  induction items with
  | nil => rfl
  | cons head rest hypothesis =>
    rw [change, none head List.mem_cons_self, if_neg (by simp),
      hypothesis fun item member => none item (List.mem_cons_of_mem _ member)]
    rfl

end OciBundle.Keyed
