/-
**The members of a record may come in any order.**

The members of an object are taken one after the other. Fields that are set apart from each other
can be taken in any order, unknown members leave no trace, and a member that is `null` leaves a fresh
record as it is.

* `Field.commutes_setting`: fields that set parts of their own can be taken in either order.
* `Record.Takes`: what it means that members are taken.
* `Record.Orderly`: records whose fields are set apart from each other and are fresh without a value.
* `Record.Takes.perm`: members in another order.
* `Record.takes_unknown_iff`, `Record.Takes.remove_null`, `Record.Takes.insert_null`: members that
  leave no trace.
-/

import Mathlib.Data.List.Pairwise
import OciBundle.Proofs.Json.Lossless
import OciBundle.Proofs.Result

namespace OciBundle.Json

namespace Field

variable {σ α β : Type}

/-- Two ways to take a value can be taken in either order. -/
def Commutes (first second : Document → σ → Except Fault σ) : Prop :=
  ∀ value value' record last,
    (∃ middle, first value record = .ok middle ∧ second value' middle = .ok last) ↔
      ∃ middle, second value' record = .ok middle ∧ first value middle = .ok last

instance : Std.Symm (Commutes (σ := σ)) :=
  ⟨fun _ _ commutes value value' record last => (commutes value' value record last).symm⟩

/-- Takes a value by setting what is read of it. -/
def setting (read : Document → Except Fault α) (set : α → σ → σ) (value : Document) (record : σ) :
    Except Fault σ :=
  (read value).map (set · record)

@[simp] theorem decode_always [Coded α] [Inhabited α] {name : String} {get : σ → α}
    {set : α → σ → σ} : (always name get set).decode = setting decodeOrDefault set :=
  rfl

@[simp] theorem decode_unlessDefault [Coded α] [Inhabited α] [DecidableEq α] {name : String}
    {get : σ → α} {set : α → σ → σ} :
    (unlessDefault name get set).decode = setting decodeOrDefault set :=
  rfl

@[simp] theorem decode_ifPresent [Coded α] {name : String} {get : σ → Option α}
    {set : Option α → σ → σ} : (ifPresent name get set).decode = setting decodeOption set :=
  rfl

/-- **Values that are set apart from each other** can be taken in either order. -/
@[simp] theorem commutes_setting {read : Document → Except Fault α}
    {read' : Document → Except Fault β} {set : α → σ → σ} {set' : β → σ → σ}
    (apart : ∀ part part' record, set' part' (set part record) = set part (set' part' record)) :
    Commutes (setting read set) (setting read' set') := by
  intro value value' record last
  unfold setting
  cases read value with
  | error fault => simp [Except.map]
  | ok part =>
    cases read' value' with
    | error fault => simp [Except.map]
    | ok part' => simp [Except.map, apart]

end Field

namespace Record

variable {σ : Type} {fields : List (Field σ)} {seen seen' : List String} {record last : σ}
  {token : Token String} {value : Document} {name : String}
  {members members' front back : List (Token String × Document)}

/-- **Members are taken** from a record on, after members with names that were seen. -/
inductive Takes (fields : List (Field σ)) :
    List String → σ → List (Token String × Document) → σ → Prop
  | nil {seen : List String} {record : σ} : Takes fields seen record [] record
  | unknown {seen : List String} {record last : σ} {token : Token String} {value : Document}
    {name : String} {rest : List (Token String × Document)} (kept : token.kept = .ok name)
    (missing : fields.find? (·.name = name) = none) (valid : value.skip = .ok ())
    (later : Takes fields seen record rest last) : Takes fields seen record ((token, value) :: rest) last
  | known {seen : List String} {record next last : σ} {token : Token String} {value : Document}
    {name : String} {field : Field σ} {rest : List (Token String × Document)}
    (kept : token.kept = .ok name) (found : fields.find? (·.name = name) = some field)
    (fresh : name ∉ seen) (taken : field.decode value record = .ok next)
    (later : Takes fields (name :: seen) next rest last) :
    Takes fields seen record ((token, value) :: rest) last

theorem decodeMembers_eq_ok_iff :
    decodeMembers fields seen record members = .ok last ↔ Takes fields seen record members last := by
  constructor
  · intro done
    induction members generalizing seen record with
    | nil =>
      cases done
      exact .nil
    | cons member rest hypothesis =>
      obtain ⟨token, value⟩ := member
      obtain ⟨name, kept, done⟩ := exists_of_bind_eq_ok done
      split at done
      next missing =>
        obtain ⟨_, valid, done⟩ := exists_of_bind_eq_ok done
        exact .unknown kept missing valid (hypothesis done)
      next field found =>
        split at done
        next => cases done
        next fresh =>
          obtain ⟨next, taken, done⟩ := exists_of_bind_eq_ok done
          exact .known kept found fresh taken (hypothesis done)
  · intro takes
    induction takes with
    | nil => rfl
    | unknown kept missing valid _ hypothesis =>
      simp only [decodeMembers, kept, missing, valid, bind, Except.bind, hypothesis]
    | known kept found fresh taken _ hypothesis =>
      simp only [decodeMembers, kept, found, fresh, taken, bind, Except.bind, if_false, hypothesis]

/-! ### Names that were seen -/

theorem name_of_find? {field : Field σ} (found : fields.find? (·.name = name) = some field) :
    field.name = name :=
  by simpa using List.find?_some found

theorem Takes.of_fewer_seen (takes : Takes fields seen record members last)
    (fewer : ∀ name ∈ seen', name ∈ seen) : Takes fields seen' record members last := by
  induction takes generalizing seen' with
  | nil => exact .nil
  | unknown kept missing valid _ hypothesis => exact .unknown kept missing valid (hypothesis fewer)
  | known kept found fresh taken _ hypothesis =>
    refine .known kept found (fun old => fresh (fewer _ old)) taken (hypothesis ?_)
    intro name inside
    rcases List.mem_cons.mp inside with rfl | old
    · exact List.mem_cons_self
    · exact List.mem_cons_of_mem _ (fewer name old)

/-- A name that no member has may be seen before. -/
theorem Takes.of_absent (takes : Takes fields seen record members last)
    (absent : ∀ member ∈ members, member.1.kept ≠ .ok name) (more : ∀ other ∈ seen',
      other = name ∨ other ∈ seen) : Takes fields seen' record members last := by
  induction takes generalizing seen' with
  | nil => exact .nil
  | unknown kept missing valid _ hypothesis =>
    exact .unknown kept missing valid
      (hypothesis (fun member inside => absent member (List.mem_cons_of_mem _ inside)) more)
  | @known _ _ _ _ _ _ here _ _ kept found fresh taken _ hypothesis =>
    have other : here ≠ name := fun same => absent _ List.mem_cons_self (same ▸ kept)
    refine .known kept found (fun old => (more here old).elim other fresh) taken ?_
    refine hypothesis (fun member inside => absent member (List.mem_cons_of_mem _ inside)) ?_
    intro earlier inside
    rcases List.mem_cons.mp inside with rfl | old
    · exact .inr List.mem_cons_self
    · exact (more earlier old).imp_right (List.mem_cons_of_mem _)

/-! ### Orderly records -/

/-- **Fields that are set apart from each other**, with names of their own; without a value, each
leaves a fresh record as it is. -/
structure Orderly (fresh : σ) (fields : List (Field σ)) : Prop where
  distinct : (fields.map Field.name).Nodup
  commutes : (fields.map Field.decode).Pairwise Field.Commutes
  null : ∀ field ∈ fields, field.decode .null fresh = .ok fresh

variable {fresh : σ}

/-- Fields with different names can be taken in either order. -/
theorem Orderly.commutes_of_find? (orderly : Orderly fresh fields) {first second : Field σ}
    {name' : String} (found : fields.find? (·.name = name) = some first)
    (found' : fields.find? (·.name = name') = some second) (other : name ≠ name') :
    Field.Commutes first.decode second.decode := by
  refine (List.pairwise_map.mp orderly.commutes).forall (List.mem_of_find?_eq_some found)
    (List.mem_of_find?_eq_some found') fun same => other ?_
  rw [← name_of_find? found, ← name_of_find? found', same]

/-- **Members may come in any order.** -/
theorem Takes.perm (orderly : Orderly fresh fields) (perm : members.Perm members')
    (takes : Takes fields seen record members last) : Takes fields seen record members' last := by
  induction perm generalizing seen record with
  | nil => exact takes
  | cons member _ hypothesis =>
    cases takes with
    | unknown kept missing valid later => exact .unknown kept missing valid (hypothesis later)
    | known kept found fresh taken later => exact .known kept found fresh taken (hypothesis later)
  | trans _ _ hypothesis hypothesis' => exact hypothesis' (hypothesis takes)
  | swap second first rest =>
    cases takes with
    | unknown kept missing valid later =>
      cases later with
      | unknown kept' missing' valid' later =>
        exact .unknown kept' missing' valid' (.unknown kept missing valid later)
      | known kept' found' fresh' taken' later =>
        exact .known kept' found' fresh' taken' (.unknown kept missing valid later)
    | known kept found fresh taken later =>
      cases later with
      | unknown kept' missing' valid' later =>
        exact .unknown kept' missing' valid' (.known kept found fresh taken later)
      | known kept' found' fresh' taken' later =>
        obtain ⟨other, notSeen⟩ := not_or.mp fun earlier => fresh' (List.mem_cons.mpr earlier)
        have commutes := orderly.commutes_of_find? found found' (Ne.symm other)
        obtain ⟨middle, first', second'⟩ := (commutes _ _ _ _).mp ⟨_, taken, taken'⟩
        refine .known kept' found' notSeen first' (.known kept found ?_ second' ?_)
        · exact fun earlier => (List.mem_cons.mp earlier).elim (Ne.symm other) fresh
        · exact later.of_fewer_seen fun name inside => (List.Perm.swap _ _ seen).mem_iff.mp inside

/-- A member anywhere may as well come first. -/
theorem takes_middle_iff (orderly : Orderly fresh fields) {member : Token String × Document} :
    Takes fields seen record (front ++ member :: back) last ↔
      Takes fields seen record (member :: (front ++ back)) last :=
  ⟨.perm orderly List.perm_middle, .perm orderly List.perm_middle.symm⟩

/-- **An unknown member leaves no trace**, but its value has to be one that can be passed over. -/
theorem takes_unknown_iff (orderly : Orderly fresh fields) (kept : token.kept = .ok name)
    (unknown : name ∉ fields.map Field.name) :
    Takes fields seen record (front ++ (token, value) :: back) last ↔
      value.skip = .ok () ∧ Takes fields seen record (front ++ back) last := by
  have missing : fields.find? (·.name = name) = none :=
    List.find?_eq_none.mpr fun field inside same =>
      unknown (List.mem_map.mpr ⟨field, inside, of_decide_eq_true same⟩)
  rw [takes_middle_iff orderly]
  constructor
  · intro takes
    cases takes with
    | unknown _ _ valid later => exact ⟨valid, later⟩
    | known kept' found _ _ _ =>
      cases kept.symm.trans kept'
      rw [missing] at found
      cases found
  · rintro ⟨valid, later⟩
    exact .unknown kept missing valid later

/-- A known member of a fresh record is taken by its field. -/
theorem takes_known_iff (orderly : Orderly fresh fields) {field : Field σ}
    (kept : token.kept = .ok field.name) (known : field ∈ fields) :
    Takes fields [] record (front ++ (token, value) :: back) last ↔
      ∃ next, field.decode value record = .ok next ∧
        Takes fields [field.name] next (front ++ back) last := by
  have found : fields.find? (·.name = field.name) = some field := find?_name orderly.distinct known
  rw [takes_middle_iff orderly]
  constructor
  · intro takes
    cases takes with
    | unknown kept' missing _ _ =>
      cases kept.symm.trans kept'
      rw [found] at missing
      cases missing
    | known kept' found' _ taken later =>
      cases kept.symm.trans kept'
      cases found.symm.trans found'
      exact ⟨_, taken, later⟩
  · rintro ⟨next, taken, later⟩
    exact .known kept found List.not_mem_nil taken later

/-- **A member that is null leaves no trace.** -/
theorem Takes.remove_null (orderly : Orderly fresh fields) {field : Field σ}
    (kept : token.kept = .ok field.name) (known : field ∈ fields)
    (takes : Takes fields [] fresh (front ++ (token, .null) :: back) last) :
    Takes fields [] fresh (front ++ back) last := by
  obtain ⟨next, taken, later⟩ := (takes_known_iff orderly kept known).mp takes
  cases (orderly.null field known).symm.trans taken
  exact later.of_fewer_seen fun _ none => absurd none List.not_mem_nil

/-- **A member may be given as null** where no other member has its name. -/
theorem Takes.insert_null (orderly : Orderly fresh fields) {field : Field σ}
    (kept : token.kept = .ok field.name) (known : field ∈ fields)
    (absent : ∀ member ∈ front ++ back, member.1.kept ≠ .ok field.name)
    (takes : Takes fields [] fresh (front ++ back) last) :
    Takes fields [] fresh (front ++ (token, .null) :: back) last := by
  refine (takes_known_iff orderly kept known).mpr ⟨fresh, orderly.null field known, ?_⟩
  exact takes.of_absent absent fun _ inside => .inl (List.mem_singleton.mp inside)

end Record

end OciBundle.Json
