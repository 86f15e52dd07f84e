/-
**Dictionaries: texts to values, in ascending order of the texts.**

* `Dict.insert`, `Dict.erase`, `Dict.get?`: one entry; a later insertion wins.
* `Dict.ofList`: the dictionary of a list in which a repeated key keeps its last value.
* `get?_insert`, `get?_erase`: what the operations do to the look-up.
* `ofList_entries`: a dictionary is the one of its own entries.
-/

namespace OciBundle

/-- Entries with strictly ascending keys. -/
structure Dict (α : Type) where
  /-- The entries in order. -/
  entries : List (String × α)
  /-- The keys ascend, so that no key occurs twice. -/
  sorted : entries.Pairwise fun first second => first.1 < second.1

namespace Dict

variable {α : Type}

/-- Dictionaries with equal entries are equal. -/
@[ext] theorem ext {first second : Dict α} (same : first.entries = second.entries) :
    first = second := by
  cases first
  cases second
  cases same
  rfl

instance [DecidableEq α] : DecidableEq (Dict α) := fun first second =>
  decidable_of_iff (first.entries = second.entries) ⟨ext, fun same => by rw [same]⟩

/-- The dictionary without entries. -/
def empty : Dict α := ⟨[], .nil⟩

instance : Inhabited (Dict α) := ⟨empty⟩

/-- The number of entries. -/
def size (dict : Dict α) : Nat := dict.entries.length

/-- Whether there is no entry. -/
def isEmpty (dict : Dict α) : Bool := dict.entries.isEmpty

/-- The value of a key. -/
def get? (dict : Dict α) (key : String) : Option α := dict.entries.lookup key

/-! ### Insertion -/

/-- Puts an entry at its place among ascending entries. -/
def putEntry (key : String) (value : α) : List (String × α) → List (String × α)
  | [] => [(key, value)]
  | entry :: rest =>
    if key < entry.1 then (key, value) :: entry :: rest
    else if key = entry.1 then (key, value) :: rest
    else entry :: putEntry key value rest

theorem fst_eq_or_mem_of_mem_putEntry {key : String} {value : α} {entries : List (String × α)}
    {entry : String × α} (member : entry ∈ putEntry key value entries) :
    entry.1 = key ∨ entry ∈ entries := by
  induction entries with
  | nil => simp_all [putEntry]
  | cons head rest hypothesis =>
    simp only [putEntry] at member
    split at member
    · rcases List.mem_cons.mp member with rfl | later
      · exact .inl rfl
      · exact .inr later
    · split at member
      · rcases List.mem_cons.mp member with rfl | later
        · exact .inl rfl
        · exact .inr (List.mem_cons_of_mem _ later)
      · rcases List.mem_cons.mp member with rfl | later
        · exact .inr List.mem_cons_self
        · exact (hypothesis later).imp_right (List.mem_cons_of_mem _)

theorem pairwise_putEntry (key : String) (value : α) {entries : List (String × α)}
    (sorted : entries.Pairwise fun first second => first.1 < second.1) :
    (putEntry key value entries).Pairwise fun first second => first.1 < second.1 := by
  induction entries with
  | nil => simp [putEntry]
  | cons head rest hypothesis =>
    obtain ⟨above, tail⟩ := List.pairwise_cons.mp sorted
    simp only [putEntry]
    split
    · rename_i less
      refine List.pairwise_cons.mpr ⟨fun entry member => ?_, sorted⟩
      rcases List.mem_cons.mp member with rfl | later
      · exact less
      · exact String.lt_trans less (above entry later)
    · rename_i notLess
      split
      · rename_i same
        exact List.pairwise_cons.mpr ⟨fun entry member => same ▸ above entry member, tail⟩
      · rename_i different
        refine List.pairwise_cons.mpr ⟨fun entry member => ?_, hypothesis tail⟩
        rcases fst_eq_or_mem_of_mem_putEntry member with same | later
        · rw [same]
          exact Decidable.byContradiction fun notAbove =>
            different (String.le_antisymm (String.not_lt.mp notAbove) (String.not_lt.mp notLess))
        · exact above entry later

/-- Sets the value of a key. -/
def insert (dict : Dict α) (key : String) (value : α) : Dict α :=
  ⟨putEntry key value dict.entries, pairwise_putEntry key value dict.sorted⟩

/-- The dictionary of a list of entries; a repeated key keeps its last value. -/
def ofList (entries : List (String × α)) : Dict α :=
  entries.foldl (fun dict entry => dict.insert entry.1 entry.2) empty

theorem lookup_cons_entry (wanted : String) (entry : String × α) (rest : List (String × α)) :
    (entry :: rest).lookup wanted =
      if wanted = entry.1 then some entry.2 else rest.lookup wanted := by
  obtain ⟨key, value⟩ := entry
  by_cases same : wanted = key
  · simp [same]
  · have other : (wanted == key) = false := by simpa using same
    simp [List.lookup_cons, same, other]

theorem lookup_putEntry (key wanted : String) (value : α) (entries : List (String × α)) :
    (putEntry key value entries).lookup wanted =
      if wanted = key then some value else entries.lookup wanted := by
  induction entries with
  | nil => simp only [putEntry, lookup_cons_entry, List.lookup_nil]
  | cons head rest hypothesis =>
    rw [putEntry]
    split
    · simp only [lookup_cons_entry]
    · split
      · rename_i equal
        simp only [lookup_cons_entry, ← equal]
        split <;> rfl
      · rename_i different
        simp only [lookup_cons_entry, hypothesis]
        split
        · rename_i same
          rw [if_neg fun (equal : wanted = key) => different (equal ▸ same)]
        · rfl

/-- The value of a key after an insertion. -/
theorem get?_insert (dict : Dict α) (key wanted : String) (value : α) :
    (dict.insert key value).get? wanted = if wanted = key then some value else dict.get? wanted :=
  lookup_putEntry key wanted value dict.entries

theorem putEntry_eq_append {key : String} {value : α} {entries : List (String × α)}
    (above : ∀ entry ∈ entries, entry.1 < key) :
    putEntry key value entries = entries ++ [(key, value)] := by
  induction entries with
  | nil => rfl
  | cons head rest hypothesis =>
    have less : head.1 < key := above head List.mem_cons_self
    have notBelow : ¬ key < head.1 := fun below =>
      String.lt_irrefl _ (String.lt_trans below less)
    have different : key ≠ head.1 := fun same => String.lt_irrefl _ (same ▸ less)
    rw [putEntry, if_neg notBelow, if_neg different,
      hypothesis fun entry member => above entry (List.mem_cons_of_mem _ member)]
    rfl

theorem entries_foldl_insert (dict : Dict α) (entries : List (String × α))
    (sorted : (dict.entries ++ entries).Pairwise fun first second => first.1 < second.1) :
    (entries.foldl (fun dict entry => dict.insert entry.1 entry.2) dict).entries =
      dict.entries ++ entries := by
  induction entries generalizing dict with
  | nil => simp
  | cons head rest hypothesis =>
    have placed : (dict.insert head.1 head.2).entries = dict.entries ++ [head] :=
      putEntry_eq_append fun entry member =>
        (List.pairwise_append.mp sorted).2.2 entry member head List.mem_cons_self
    rw [List.foldl_cons, hypothesis, placed, List.append_assoc]
    · rfl
    · rw [placed, List.append_assoc]
      exact sorted

/-- A dictionary is the one of its own entries. -/
@[simp] theorem ofList_entries (dict : Dict α) : ofList dict.entries = dict :=
  ext (entries_foldl_insert empty dict.entries (by simpa [empty] using dict.sorted))

/-! ### Removal -/

/-- Removes the entry of a key. -/
def erase (dict : Dict α) (key : String) : Dict α :=
  ⟨dict.entries.filter (·.1 ≠ key), dict.sorted.filter _⟩

theorem lookup_filter (key wanted : String) (entries : List (String × α)) :
    (entries.filter (·.1 ≠ key)).lookup wanted =
      if wanted = key then none else entries.lookup wanted := by
  induction entries with
  | nil => simp
  | cons head rest hypothesis =>
    by_cases kept : head.1 = key
    · rw [List.filter_cons_of_neg (by simpa using kept), hypothesis, lookup_cons_entry, kept]
      split <;> rfl
    · rw [List.filter_cons_of_pos (by simpa using kept), lookup_cons_entry, lookup_cons_entry,
        hypothesis]
      split
      · rename_i same
        rw [if_neg fun equal => kept (same ▸ equal)]
      · rfl

/-- The value of a key after a removal. -/
theorem get?_erase (dict : Dict α) (key wanted : String) :
    (dict.erase key).get? wanted = if wanted = key then none else dict.get? wanted :=
  lookup_filter key wanted dict.entries

end Dict

end OciBundle
