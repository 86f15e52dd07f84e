/-
**Documents that hold the same record.**

What a record keeps of a document depends on its known members that are not null. The members of an
object may be permuted, unknown members and members that are null may come and go, and all of this
at any place that the record is read from.

* `Layout`: what the places of a document are read as.
* `Rewrite`: one change of a document that a reader of a layout does not see.
* `Laid`: types whose values are kept alike from documents that are rewritten.
* `Respects.rewrites`: any number of changes.
* `Record.respects`: records of fields with layouts.
-/

import Mathlib.Data.List.Nodup
import Mathlib.Data.List.Perm.Basic
import Mathlib.Logic.Relation
import OciBundle.Proofs.Dict
import OciBundle.Proofs.Json.Reading
import OciBundle.Proofs.Json.Members

namespace OciBundle.Json

/-- What a place of a document is read as. -/
inductive Layout where
  /-- A single value. -/
  | value
  /-- An object with any members. -/
  | dict
  | list (item : Layout)
  /-- An object with known members. -/
  | record (members : List (String × Layout))

/-- A value that some text spells. -/
def Valid (value : Document) : Prop :=
  ∃ chars, Spells value chars

/-- **A change of a document that a reader of a layout does not see.** -/
inductive Rewrite : Layout → Document → Document → Prop
  /-- The members of an object with distinct names are permuted. -/
  | permute {layout : Layout} {members members' : List (Token String × Document)}
    (perm : members.Perm members') (distinct : (members.map fun member => member.1.kept).Nodup) :
    Rewrite layout (.object members none) (.object members' none)
  /-- A member with an unknown name comes in. -/
  | insertUnknown {known : List (String × Layout)} {front back : List (Token String × Document)}
    {name : String} {value : Document} (unknown : name ∉ known.map Prod.fst) (valid : Valid value) :
    Rewrite (.record known) (.object (front ++ back) none)
      (.object (front ++ (Quote.token name, value) :: back) none)
  /-- A member with an unknown name goes out; with another value it may come in again. -/
  | removeUnknown {known : List (String × Layout)} {front back : List (Token String × Document)}
    {name : String} {value : Document} (unknown : name ∉ known.map Prod.fst) :
    Rewrite (.record known) (.object (front ++ (Quote.token name, value) :: back) none)
      (.object (front ++ back) none)
  /-- A known member that is absent comes in as null. -/
  | insertNull {known : List (String × Layout)} {front back : List (Token String × Document)}
    {name : String} (isKnown : name ∈ known.map Prod.fst)
    (absent : ∀ member ∈ front ++ back, member.1.kept ≠ .ok name) :
    Rewrite (.record known) (.object (front ++ back) none)
      (.object (front ++ (Quote.token name, .null) :: back) none)
  /-- A known member that is null goes out. -/
  | removeNull {known : List (String × Layout)} {front back : List (Token String × Document)}
    {name : String} (isKnown : name ∈ known.map Prod.fst) :
    Rewrite (.record known) (.object (front ++ (Quote.token name, .null) :: back) none)
      (.object (front ++ back) none)
  /-- The value of a known member is rewritten. -/
  | member {known : List (String × Layout)} {front back : List (Token String × Document)}
    {name : String} {layout : Layout} {value value' : Document} (isKnown : (name, layout) ∈ known)
    (inside : Rewrite layout value value') :
    Rewrite (.record known) (.object (front ++ (Quote.token name, value) :: back) none)
      (.object (front ++ (Quote.token name, value') :: back) none)
  /-- An item of a list is rewritten. -/
  | item {layout : Layout} {front back : List Document} {value value' : Document}
    (inside : Rewrite layout value value') :
    Rewrite (.list layout) (.list (front ++ value :: back) none)
      (.list (front ++ value' :: back) none)

/-- A reader that keeps the same value of a document that is rewritten. -/
def Respects {α : Type} (layout : Layout) (decode : Document → Except Fault α) : Prop :=
  ∀ document document' value, Rewrite layout document document' → decode document = .ok value →
    decode document' = .ok value

/-- The same value is kept however often a document is rewritten. -/
theorem Respects.rewrites {α : Type} {layout : Layout} {decode : Document → Except Fault α}
    (respects : Respects layout decode) {document document' : Document} {value : α}
    (rewrites : Relation.ReflTransGen (Rewrite layout) document document')
    (done : decode document = .ok value) : decode document' = .ok value := by
  induction rewrites with
  | refl => exact done
  | tail _ rewrite hypothesis => exact respects _ _ _ rewrite hypothesis

/-- **A type whose values are kept alike** from documents that are rewritten. -/
class Laid (α : Type) [Coded α] where
  layout : Layout
  respects : Respects layout (decode : Document → Except Fault α)

/-! ### Single values -/

/-- A reader of single values takes no object. -/
theorem respects_value {α : Type} {decode : Document → Except Fault α}
    (refuses : ∀ members ending value, decode (.object members ending) ≠ .ok value) :
    Respects .value decode := by
  intro document document' value rewrite done
  cases rewrite with
  | permute _ _ => exact absurd done (refuses _ _ _)

instance : Laid Bool := ⟨.value, respects_value fun _ _ _ => nofun⟩

instance : Laid String := ⟨.value, respects_value fun _ _ _ => nofun⟩

instance (α : Type) [Word α] : Laid α := ⟨.value, respects_value fun _ _ _ => nofun⟩

/-! ### Lists -/

theorem mapM_of_item {α : Type} {keep : Document → Except Fault α} {item item' : Document}
    (same : ∀ value, keep item = .ok value → keep item' = .ok value) {front back : List Document}
    {values : List α} (done : (front ++ item :: back).mapM keep = .ok values) :
    (front ++ item' :: back).mapM keep = .ok values := by
  rw [mapM_eq_ok_iff] at done ⊢
  induction front generalizing values with
  | nil =>
    cases done with
    | cons here later => exact .cons (same _ here) later
  | cons first front hypothesis =>
    cases done with
    | cons here later => exact .cons here (hypothesis later)

theorem respects_list {α : Type} [Coded α] {layout : Layout}
    (respects : Respects layout (decode : Document → Except Fault α)) :
    Respects (.list layout) (decodeList : Document → Except Fault (List α)) := by
  intro document document' values rewrite done
  cases rewrite with
  | permute _ _ => cases done
  | item inside =>
    obtain ⟨kept, all, done⟩ := exists_of_bind_eq_ok done
    have same := mapM_of_item (fun value => respects _ _ value inside) all
    rw [decodeList, same]
    exact done

instance (α : Type) [Coded α] [Laid α] : Laid (List α) :=
  ⟨.list (Laid.layout α), respects_list Laid.respects⟩

/-! ### Dictionaries -/

/-- The results of items in another order. -/
theorem perm_of_mapM_eq_ok {α β : Type} {keep : α → Except Fault β} {items items' : List α}
    (perm : items.Perm items') {values : List β} (done : items.mapM keep = .ok values) :
    ∃ values', items'.mapM keep = .ok values' ∧ values.Perm values' := by
  obtain ⟨values', each, same⟩ := List.perm_comp_forall₂ perm.symm (mapM_eq_ok_iff.mp done)
  exact ⟨values', mapM_eq_ok_iff.mpr each, same.symm⟩

/-- The names of members are the keys of their entries. -/
theorem map_kept_of_mapM_decodeEntry {members : List (Token String × Document)}
    {entries : List (String × String)} (done : members.mapM decodeEntry = .ok entries) :
    (members.map fun member => member.1.kept) = entries.map fun entry => .ok entry.1 := by
  have each := mapM_eq_ok_iff.mp done
  clear done
  induction each with
  | nil => rfl
  | cons here _ hypothesis =>
    obtain ⟨name, kept, here⟩ := exists_of_bind_eq_ok here
    obtain ⟨value, _, here⟩ := exists_of_bind_eq_ok here
    cases here
    rw [List.map_cons, List.map_cons, hypothesis, kept]

theorem respects_dict : Respects .dict decodeDict := by
  intro document document' dict rewrite done
  cases rewrite with
  | permute perm distinct =>
    obtain ⟨entries, all, done⟩ := exists_of_bind_eq_ok done
    obtain ⟨entries', all', same⟩ := perm_of_mapM_eq_ok perm all
    rw [map_kept_of_mapM_decodeEntry all] at distinct
    have keys : (entries.map Prod.fst).Nodup := by
      refine List.Nodup.of_map (Except.ok (ε := Fault)) ?_
      rwa [List.map_map]
    rw [decodeDict, all', ← done, Dict.ofList_perm same keys]
    rfl

instance : Laid (Dict String) := ⟨.dict, respects_dict⟩

/-! ### Fields -/

/-- What is rewritten is not null. -/
theorem Rewrite.ne_null {layout : Layout} {document document' : Document}
    (rewrite : Rewrite layout document document') : document ≠ .null ∧ document' ≠ .null := by
  cases rewrite <;> exact ⟨nofun, nofun⟩

namespace Field

variable {σ α : Type} [Coded α]

theorem decodeOrDefault_of_ne_null [Inhabited α] {document : Document} (given : document ≠ .null) :
    (decodeOrDefault document : Except Fault α) = Coded.decode document := by
  cases document with
  | null => exact absurd rfl given
  | _ => rfl

theorem decodeOption_of_ne_null {document : Document} (given : document ≠ .null) :
    (decodeOption document : Except Fault (Option α)) = (Coded.decode document).map some := by
  cases document with
  | null => exact absurd rfl given
  | _ => rfl

theorem respects_decodeOrDefault [Laid α] [Inhabited α] :
    Respects (Laid.layout α) (decodeOrDefault : Document → Except Fault α) := by
  intro document document' value rewrite done
  obtain ⟨given, given'⟩ := rewrite.ne_null
  rw [decodeOrDefault_of_ne_null given] at done
  rw [decodeOrDefault_of_ne_null given']
  exact Laid.respects _ _ _ rewrite done

theorem respects_decodeOption [Laid α] :
    Respects (Laid.layout α) (decodeOption : Document → Except Fault (Option α)) := by
  intro document document' value rewrite done
  obtain ⟨given, given'⟩ := rewrite.ne_null
  rw [decodeOption_of_ne_null given] at done
  rw [decodeOption_of_ne_null given']
  cases here : (Coded.decode document : Except Fault α) with
  | error fault =>
    rw [here] at done
    cases done
  | ok kept =>
    rw [here] at done
    rw [Laid.respects _ _ _ rewrite here]
    exact done

end Field

/-! ### Records -/

/-- A field keeps the same of documents that are rewritten. -/
def Field.Respects {σ : Type} (layout : Layout) (field : Field σ) : Prop :=
  ∀ document document' record next, Rewrite layout document document' →
    field.decode document record = .ok next → field.decode document' record = .ok next

/-- A field that sets what a reader keeps. -/
theorem Field.respects_of_setting {σ α : Type} {layout : Layout} {field : Field σ}
    {read : Document → Except Fault α} {set : α → σ → σ} (respects : Json.Respects layout read)
    (sets : field.decode = setting read set) : field.Respects layout := by
  intro document document' record next rewrite done
  rw [sets, setting] at done ⊢
  cases here : read document with
  | error fault =>
    rw [here] at done
    cases done
  | ok kept =>
    rw [here] at done
    rw [respects _ _ _ rewrite here]
    exact done

/-- **Fields with their layouts**, each of which is fresh without a value. -/
inductive Lays {σ : Type} (fresh : σ) : List (Field σ) → List (String × Layout) → Prop
  | done : Lays fresh [] []
  | always {α : Type} [Coded α] [Inhabited α] [Laid α] {name : String} {get : σ → α}
    {set : α → σ → σ} {fields : List (Field σ)} {layouts : List (String × Layout)}
    (null : set default fresh = fresh) (rest : Lays fresh fields layouts) :
    Lays fresh (.always name get set :: fields) ((name, Laid.layout α) :: layouts)
  | unlessDefault {α : Type} [Coded α] [Inhabited α] [DecidableEq α] [Laid α] {name : String}
    {get : σ → α} {set : α → σ → σ} {fields : List (Field σ)} {layouts : List (String × Layout)}
    (null : set default fresh = fresh) (rest : Lays fresh fields layouts) :
    Lays fresh (.unlessDefault name get set :: fields) ((name, Laid.layout α) :: layouts)
  | ifPresent {α : Type} [Coded α] [Laid α] {name : String} {get : σ → Option α}
    {set : Option α → σ → σ} {fields : List (Field σ)} {layouts : List (String × Layout)}
    (null : set none fresh = fresh) (rest : Lays fresh fields layouts) :
    Lays fresh (.ifPresent name get set :: fields) ((name, Laid.layout α) :: layouts)

namespace Lays

variable {σ : Type} {fresh : σ} {fields : List (Field σ)} {layouts : List (String × Layout)}

theorem map_name (lays : Lays fresh fields layouts) :
    fields.map Field.name = layouts.map Prod.fst := by
  induction lays with
  | done => rfl
  | always _ _ hypothesis | unlessDefault _ _ hypothesis | ifPresent _ _ hypothesis =>
    exact congrArg _ hypothesis

theorem null (lays : Lays fresh fields layouts) :
    ∀ field ∈ fields, field.decode .null fresh = .ok fresh := by
  induction lays with
  | done => exact fun _ none => absurd none List.not_mem_nil
  | always null _ hypothesis | unlessDefault null _ hypothesis | ifPresent null _ hypothesis =>
    exact List.forall_mem_cons.mpr ⟨congrArg Except.ok null, hypothesis⟩

theorem exists_field (lays : Lays fresh fields layouts) {name : String} {layout : Layout}
    (known : (name, layout) ∈ layouts) :
    ∃ field ∈ fields, field.name = name ∧ field.Respects layout := by
  induction lays with
  | done => cases known
  | always _ _ hypothesis | unlessDefault _ _ hypothesis =>
    rcases List.mem_cons.mp known with same | later
    · cases same
      refine ⟨_, List.mem_cons_self, rfl, ?_⟩
      exact Field.respects_of_setting Field.respects_decodeOrDefault rfl
    · obtain ⟨field, inside, rest⟩ := hypothesis later
      exact ⟨field, List.mem_cons_of_mem _ inside, rest⟩
  | ifPresent _ _ hypothesis =>
    rcases List.mem_cons.mp known with same | later
    · cases same
      refine ⟨_, List.mem_cons_self, rfl, ?_⟩
      exact Field.respects_of_setting Field.respects_decodeOption rfl
    · obtain ⟨field, inside, rest⟩ := hypothesis later
      exact ⟨field, List.mem_cons_of_mem _ inside, rest⟩

end Lays

namespace Record

variable {σ : Type} [Record σ] {layouts : List (String × Layout)}

theorem decode_object_eq_ok_iff {members : List (Token String × Document)} {record : σ} :
    (decode (.object members none) : Except Fault σ) = .ok record ↔
      Takes Record.fields [] default members record := by
  rw [← decodeMembers_eq_ok_iff, decode]
  constructor
  · intro done
    obtain ⟨kept, taken, done⟩ := exists_of_bind_eq_ok done
    cases done
    exact taken
  · intro taken
    rw [taken]
    rfl

/-- **A record is kept alike** from documents that are rewritten. -/
theorem respects (lays : Lays default (Record.fields : List (Field σ)) layouts)
    (distinct : (layouts.map Prod.fst).Nodup)
    (commutes : ((Record.fields : List (Field σ)).map Field.decode).Pairwise Field.Commutes) :
    Respects (.record layouts) (decode : Document → Except Fault σ) := by
  have orderly : Orderly default (Record.fields : List (Field σ)) :=
    ⟨lays.map_name ▸ distinct, commutes, lays.null⟩
  intro document document' record rewrite done
  cases rewrite with
  | permute perm _ =>
    rw [decode_object_eq_ok_iff] at done ⊢
    exact done.perm orderly perm
  | insertUnknown unknown valid =>
    obtain ⟨chars, spelled⟩ := valid
    rw [← lays.map_name] at unknown
    rw [decode_object_eq_ok_iff] at done ⊢
    exact (takes_unknown_iff orderly rfl unknown).mpr ⟨Document.skip_of_spells spelled, done⟩
  | removeUnknown unknown =>
    rw [← lays.map_name] at unknown
    rw [decode_object_eq_ok_iff] at done ⊢
    exact ((takes_unknown_iff orderly rfl unknown).mp done).2
  | insertNull isKnown absent =>
    rw [← lays.map_name] at isKnown
    obtain ⟨field, known, rfl⟩ := List.mem_map.mp isKnown
    rw [decode_object_eq_ok_iff] at done ⊢
    exact done.insert_null orderly rfl known absent
  | removeNull isKnown =>
    rw [← lays.map_name] at isKnown
    obtain ⟨field, known, rfl⟩ := List.mem_map.mp isKnown
    rw [decode_object_eq_ok_iff] at done ⊢
    exact done.remove_null orderly rfl known
  | member isKnown inside =>
    obtain ⟨field, known, rfl, respects⟩ := lays.exists_field isKnown
    rw [decode_object_eq_ok_iff, takes_known_iff orderly rfl known] at done ⊢
    obtain ⟨next, taken, later⟩ := done
    exact ⟨next, respects _ _ _ _ inside taken, later⟩

end Record

end OciBundle.Json
