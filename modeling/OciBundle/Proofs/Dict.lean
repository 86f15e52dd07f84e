/-
**Which entries a dictionary holds.**

A dictionary keeps its entries in the order of their keys. Of entries with different keys it holds
just these, in whatever order they were put in.

* `Dict.isSome_of_insert`, `Dict.isSome_of_erase`: the keys after one operation.
* `Dict.perm_ofList`: the entries of a dictionary that was made of entries.
* `Dict.ofList_perm`: entries in another order.
-/

import OciBundle.Dict

namespace OciBundle.Dict

variable {α : Type}

/-! ### Keys -/

/-- A key with a value after an insertion had one before, or is the inserted one. -/
theorem isSome_of_insert {dict : Dict α} {key wanted : String} {value : α}
    (held : ((dict.insert key value).get? wanted).isSome = true) :
    (dict.get? wanted).isSome = true ∨ wanted = key := by
  by_cases same : wanted = key
  · exact .inr same
  · rw [get?_insert, if_neg same] at held
    exact .inl held

/-- A key with a value after a removal had one before. -/
theorem isSome_of_erase {dict : Dict α} {key wanted : String}
    (held : ((dict.erase key).get? wanted).isSome = true) : (dict.get? wanted).isSome = true := by
  rw [get?_erase] at held
  split at held
  next => cases held
  next => exact held

theorem isSome_erase_self {dict : Dict α} {key : String} :
    ¬ ((dict.erase key).get? key).isSome = true := by
  rw [get?_erase, if_pos rfl]
  exact Bool.false_ne_true

/-! ### The order of entries -/

theorem perm_putEntry {key : String} {value : α} {entries : List (String × α)}
    (fresh : key ∉ entries.map Prod.fst) : (putEntry key value entries).Perm ((key, value) :: entries) := by
  induction entries with
  | nil => exact .refl _
  | cons head rest hypothesis =>
    obtain ⟨different, later⟩ := not_or.mp fun inside => fresh (List.mem_cons.mpr inside)
    rw [putEntry]
    split
    next => exact .refl _
    next => exact ((hypothesis later).cons head).trans (.swap _ _ _)

theorem perm_foldl_insert {dict : Dict α} {entries : List (String × α)}
    (distinct : ((dict.entries ++ entries).map Prod.fst).Nodup) :
    (entries.foldl (fun dict entry => dict.insert entry.1 entry.2) dict).entries.Perm
      (dict.entries ++ entries) := by
  induction entries generalizing dict with
  | nil => rw [List.foldl_nil, List.append_nil]
  | cons head rest hypothesis =>
    have fresh : head.1 ∉ dict.entries.map Prod.fst := by
      rw [List.map_append] at distinct
      exact fun old => (List.nodup_append.mp distinct).2.2 _ old head.1
        (List.mem_map_of_mem List.mem_cons_self) rfl
    have placed : ((dict.insert head.1 head.2).entries ++ rest).Perm (dict.entries ++ head :: rest) :=
      ((perm_putEntry fresh).append_right rest).trans List.perm_middle.symm
    rw [List.foldl_cons]
    exact (hypothesis ((placed.map Prod.fst).nodup_iff.mpr distinct)).trans placed

/-- A dictionary that is made of entries with different keys holds these entries. -/
theorem perm_ofList {entries : List (String × α)} (distinct : (entries.map Prod.fst).Nodup) :
    (ofList entries).entries.Perm entries :=
  perm_foldl_insert distinct

/-- **The order of entries with different keys does not matter.** -/
theorem ofList_perm {entries entries' : List (String × α)} (perm : entries.Perm entries')
    (distinct : (entries.map Prod.fst).Nodup) : ofList entries = ofList entries' := by
  have distinct' := (perm.map Prod.fst).nodup_iff.mp distinct
  have same := (perm_ofList distinct).trans (perm.trans (perm_ofList distinct').symm)
  refine ext (same.eq_of_pairwise ?_ (ofList entries).sorted (ofList entries').sorted)
  exact fun first second _ _ less more => absurd (String.lt_trans less more) (String.lt_irrefl _)

end OciBundle.Dict
