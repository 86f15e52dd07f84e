/-
**What a rule text is read as.**

* `NameRule.exists_of_readAll`: rules for some names, with one action and the same conditions.
* `NameRule.ne_nil_of_readAll`: there is a rule.
* `NameRule.eq_of_readAll`: there is no other rule for the same name.
-/

import OciBundle.Proofs.Result
import OciBundle.Seccomp.Notation

namespace OciBundle.NameRule

variable {input : String} {rules : List NameRule}

/-- **Rules that are read** are for a name each, all with one action and the same conditions. -/
theorem exists_of_readAll (read : readAll input = .ok rules) :
    ∃ names action fields args, names ≠ [] ∧ readConditions input fields = .ok args ∧
      rules = names.map fun name => ⟨name, action, args⟩ := by
  unfold readAll at read
  dsimp only at read
  split at read
  next fields =>
    obtain ⟨_, read⟩ := of_check_eq_ok read
    obtain ⟨action, _, read⟩ := exists_of_bind_eq_ok read
    obtain ⟨args, readArgs, read⟩ := exists_of_bind_eq_ok read
    obtain ⟨some, read⟩ := of_check_eq_ok read
    cases read
    exact ⟨_, action, _, args, fun none => some (List.isEmpty_iff.mpr none), readArgs, rfl⟩
  next => cases read

/-- A text that is read holds rules. -/
theorem ne_nil_of_readAll (read : readAll input = .ok rules) : rules ≠ [] := by
  obtain ⟨names, _, _, _, some, _, rfl⟩ := exists_of_readAll read
  rw [ne_eq, List.map_eq_nil_iff]
  exact some

/-- A text holds no two different rules for one name. -/
theorem eq_of_readAll (read : readAll input = .ok rules) :
    ∀ first ∈ rules, ∀ second ∈ rules, first.name = second.name → first = second := by
  obtain ⟨names, action, _, args, _, _, rfl⟩ := exists_of_readAll read
  intro first member second member' same
  obtain ⟨name, _, rfl⟩ := List.mem_map.mp member
  obtain ⟨name', _, rfl⟩ := List.mem_map.mp member'
  cases same
  rfl

end OciBundle.NameRule
