/-
**Kept values are the written ones.**

A type is lossless when each of its values is kept unchanged from the document that it is written
as. Truth values, texts, words, lists and dictionaries are; a record is when its fields are, and
when what a field leaves out is what a fresh record holds.

* `Lossless`: the law.
* `Restores`: fields that carry a record over, one after the other.
* `lossless_of_restores`: the law for records.
* `keep_read_document`: a lossless value is kept from the text of its document.
-/

import OciBundle.Json.Record
import OciBundle.Proofs.Json.Writing

namespace OciBundle.Json

open Document (ofJson ofItems ofMembers)

/-- Types whose values are kept unchanged from what they are written as. -/
class Lossless (α : Type) [Coded α] : Prop where
  writable : ∀ value : α, Writable (encode value)
  decode_ofJson : ∀ value : α, decode (ofJson (encode value)) = .ok value

export Lossless (decode_ofJson)

/-- **A lossless value is kept from the text of its document.** -/
theorem keep_read_document {α : Type} [Coded α] [Lossless α] (value : α) :
    (Document.read (.ofString (document (encode value)))).keep decode = .ok value := by
  rw [read_document (Lossless.writable value)]
  exact Document.Whole.keep_eq_ok_iff.mpr ⟨decode_ofJson value, rfl⟩

/-! ### Leaves -/

instance : Lossless Bool where
  writable := .bool
  decode_ofJson _ := rfl

instance : Lossless String where
  writable := .text
  decode_ofJson _ := rfl

/-- Words within 64 bits are lossless. -/
theorem lossless_word {α : Type} [Word α] (low : -0x8000000000000000 ≤ Word.low α)
    (high : Word.high α ≤ 0xffffffffffffffff) : Lossless α where
  writable word := by
    have above := Word.low_le_toInt word
    have below := Word.toInt_le_high word
    exact .int (by omega) (by omega)
  decode_ofJson word := by
    show (Word.ofInt? (Word.toInt word)).elim (Except.error Fault.mismatch) .ok = .ok word
    rw [Word.ofInt?_toInt]
    rfl

instance : Lossless UInt16 := lossless_word (by decide) (by decide)

instance : Lossless UInt32 := lossless_word (by decide) (by decide)

instance : Lossless UInt64 := lossless_word (by decide) (by decide)

instance : Lossless Int32 := lossless_word (by decide) (by decide)

instance : Lossless Int64 := lossless_word (by decide) (by decide)

/-! ### Lists and dictionaries -/

theorem mapM_decode_ofItems {α : Type} [Coded α] [Lossless α] (values : List α) :
    (ofItems (values.map encode)).mapM decode = .ok values := by
  induction values with
  | nil => rfl
  | cons value values hypothesis =>
    rw [List.map_cons, ofItems, List.mapM_cons, decode_ofJson, hypothesis]
    rfl

instance (α : Type) [Coded α] [Lossless α] : Lossless (List α) where
  writable values := by
    refine .list fun item member => ?_
    obtain ⟨value, _, rfl⟩ := List.mem_map.mp member
    exact Lossless.writable value
  decode_ofJson values := by
    show ((ofItems (values.map encode)).mapM decode >>= (Document.close · none)) = .ok values
    rw [mapM_decode_ofItems]
    rfl

theorem mapM_decodeEntry_ofMembers (entries : List (String × String)) :
    (ofMembers (entries.map fun (name, value) => (name, .text value))).mapM decodeEntry =
      .ok entries := by
  induction entries with
  | nil => rfl
  | cons entry entries hypothesis =>
    rw [List.map_cons, ofMembers, List.mapM_cons, hypothesis]
    rfl

instance : Lossless (Dict String) where
  writable dict := by
    refine .object fun member inside => ?_
    obtain ⟨entry, _, rfl⟩ := List.mem_map.mp inside
    exact .text entry.2
  decode_ofJson dict := by
    show ((ofMembers (dict.entries.map fun (name, value) => (name, .text value))).mapM decodeEntry
      >>= fun entries => Document.close (Dict.ofList entries) none) = .ok dict
    rw [mapM_decodeEntry_ofMembers]
    show Except.ok (Dict.ofList dict.entries) = .ok dict
    rw [Dict.ofList_entries]

/-! ### Fields -/

section Fields

variable {σ α : Type} [Coded α] [Lossless α]

/-- A field carries its member of a record over: reading what is written turns one record into the
next, and where nothing is written these two are the same. -/
structure Field.Carries (field : Field σ) (record last next : σ) : Prop where
  writable : ∀ json, field.encode record = some json → Writable json
  written : ∀ json, field.encode record = some json → field.decode (ofJson json) last = .ok next
  unwritten : field.encode record = none → last = next

/-- A written value is no `null`. -/
theorem decodeOrDefault_ofJson [Inhabited α] (value : α) :
    Field.decodeOrDefault (ofJson (encode value)) = .ok value := by
  rw [← decode_ofJson value, Field.decodeOrDefault]
  intro null
  cases shape : encode value <;> rw [shape] at null <;> cases null

/-- A written value is no missing one. -/
theorem decodeOption_ofJson (value : α) :
    Field.decodeOption (ofJson (encode value)) = .ok (some value) := by
  have kept : Field.decodeOption (ofJson (encode value)) =
      (decode (ofJson (encode value))).map (some : α → Option α) := by
    rw [Field.decodeOption]
    intro null
    cases shape : encode value <;> rw [shape] at null <;> cases null
  rw [kept, decode_ofJson]
  rfl

theorem carries_always [Inhabited α] {name : String} {get : σ → α} {set : α → σ → σ}
    (record last : σ) :
    (Field.always name get set).Carries record last (set (get record) last) where
  writable json equal := by
    cases equal
    exact Lossless.writable (get record)
  written json equal := by
    cases equal
    show (Field.decodeOrDefault (ofJson (encode (get record)))).map (set · last) = _
    rw [decodeOrDefault_ofJson]
    rfl
  unwritten equal := nomatch equal

theorem carries_unlessDefault [Inhabited α] [DecidableEq α] {name : String} {get : σ → α}
    {set : α → σ → σ} (record last : σ) (fresh : set default last = last) :
    (Field.unlessDefault name get set).Carries record last (set (get record) last) := by
  have encoded : (Field.unlessDefault name get set).encode record =
      if get record = default then none else some (encode (get record)) := rfl
  by_cases missing : get record = default
  · rw [if_pos missing] at encoded
    exact
      { writable := fun json equal => nomatch encoded.symm.trans equal
        written := fun json equal => nomatch encoded.symm.trans equal
        unwritten := fun _ => by rw [missing, fresh] }
  · rw [if_neg missing] at encoded
    have always : (Field.always name get set).Carries record last (set (get record) last) :=
      carries_always record last
    exact
      { writable := fun json equal => always.writable json (encoded.symm.trans equal)
        written := fun json equal => always.written json (encoded.symm.trans equal)
        unwritten := fun equal => nomatch encoded.symm.trans equal }

theorem carries_ifPresent {name : String} {get : σ → Option α} {set : Option α → σ → σ}
    (record last : σ) (fresh : set none last = last) :
    (Field.ifPresent name get set).Carries record last (set (get record) last) := by
  have encoded : (Field.ifPresent name get set).encode record = (get record).map encode := rfl
  cases present : get record with
  | none =>
    rw [present] at encoded
    exact
      { writable := fun json equal => nomatch encoded.symm.trans equal
        written := fun json equal => nomatch encoded.symm.trans equal
        unwritten := fun _ => fresh.symm }
  | some value =>
    rw [present] at encoded
    refine
      { writable := fun json equal => ?_
        written := fun json equal => ?_
        unwritten := fun equal => nomatch encoded.symm.trans equal }
    · cases encoded.symm.trans equal
      exact Lossless.writable value
    · cases encoded.symm.trans equal
      show (Field.decodeOption (ofJson (encode value))).map (set · last) = _
      rw [decodeOption_ofJson]
      rfl

/-- Fields that carry a record over one after the other, from the last record on. -/
inductive Restores (record : σ) : σ → List (Field σ) → Prop
  | done : Restores record record []
  | step {field : Field σ} {fields : List (Field σ)} {last next : σ}
      (carries : field.Carries record last next) (rest : Restores record next fields) :
      Restores record last (field :: fields)

namespace Restores

variable {record last : σ} {fields : List (Field σ)} {name : String}

theorem always [Inhabited α] {get : σ → α} {set : α → σ → σ}
    (rest : Restores record (set (get record) last) fields) :
    Restores record last (.always name get set :: fields) :=
  .step (carries_always record last) rest

theorem unlessDefault [Inhabited α] [DecidableEq α] {get : σ → α} {set : α → σ → σ}
    (fresh : set default last = last) (rest : Restores record (set (get record) last) fields) :
    Restores record last (.unlessDefault name get set :: fields) :=
  .step (carries_unlessDefault record last fresh) rest

theorem ifPresent {get : σ → Option α} {set : Option α → σ → σ} (fresh : set none last = last)
    (rest : Restores record (set (get record) last) fields) :
    Restores record last (.ifPresent name get set :: fields) :=
  .step (carries_ifPresent record last fresh) rest

end Restores

end Fields

/-! ### Records -/

namespace Record

variable {σ : Type} {record last : σ} {fields : List (Field σ)}

theorem encodeMembers_cons_none {field : Field σ} (missing : field.encode record = none) :
    encodeMembers (field :: fields) record = encodeMembers fields record := by
  rw [encodeMembers, List.filterMap_cons_none (by rw [missing]; rfl), encodeMembers]

theorem encodeMembers_cons_some {field : Field σ} {json : Json}
    (written : field.encode record = some json) :
    encodeMembers (field :: fields) record = (field.name, json) :: encodeMembers fields record := by
  rw [encodeMembers, List.filterMap_cons_some (by rw [written]; rfl), encodeMembers]

/-- Members of fields that carry a record over can be written. -/
theorem writable_of_restores (restores : Restores record last fields) :
    ∀ member ∈ encodeMembers fields record, Writable member.2 := by
  induction restores with
  | done => exact fun member inside => nomatch inside
  | @step field fields last next carries rest hypothesis =>
    cases written : field.encode record with
    | none =>
      rw [encodeMembers_cons_none written]
      exact hypothesis
    | some json =>
      rw [encodeMembers_cons_some written]
      exact List.forall_mem_cons.mpr ⟨carries.writable json written, hypothesis⟩

/-- Where names are distinct, a field is found by its name. -/
theorem find?_name {field : Field σ} (distinct : (fields.map Field.name).Nodup)
    (member : field ∈ fields) : fields.find? (·.name = field.name) = some field := by
  induction fields with
  | nil => cases member
  | cons first fields hypothesis =>
    obtain ⟨others, distinct⟩ := List.nodup_cons.mp distinct
    rcases List.mem_cons.mp member with rfl | later
    · rw [List.find?_cons_of_pos (by simp)]
    · have different : first.name ≠ field.name := fun equal =>
        others (equal ▸ List.mem_map_of_mem later)
      rw [List.find?_cons_of_neg (by simpa using different), hypothesis distinct later]

/-- A known member that has not been seen is kept by its field. -/
theorem decodeMembers_cons {known : List (Field σ)} {seen : List String} {field : Field σ}
    {value : Document} {next : σ} {rest : List (Token String × Document)}
    (found : known.find? (·.name = field.name) = some field) (unseen : field.name ∉ seen)
    (kept : field.decode value last = .ok next) :
    decodeMembers known seen last ((Quote.token field.name, value) :: rest) =
      decodeMembers known (field.name :: seen) next rest := by
  rw [decodeMembers]
  simp only [Quote.token, bind, Except.bind, found, if_neg unseen, kept]

/-- **Members are kept one after the other** when their fields carry the record over: what has been
seen holds none of the names to come. -/
theorem decodeMembers_of_restores {known : List (Field σ)} {seen : List String}
    (restores : Restores record last fields)
    (found : ∀ field ∈ fields, known.find? (·.name = field.name) = some field)
    (unseen : ∀ field ∈ fields, field.name ∉ seen) (distinct : (fields.map Field.name).Nodup) :
    decodeMembers known seen last (ofMembers (encodeMembers fields record)) = .ok record := by
  induction restores generalizing seen with
  | done => rfl
  | @step field fields last next carries rest hypothesis =>
    obtain ⟨others, distinct⟩ := List.nodup_cons.mp distinct
    have foundLater := fun field member => found field (List.mem_cons_of_mem _ member)
    cases written : field.encode record with
    | none =>
      rw [encodeMembers_cons_none written, carries.unwritten written]
      exact hypothesis foundLater
        (fun field member => unseen field (List.mem_cons_of_mem _ member)) distinct
    | some json =>
      have unseenLater : ∀ later ∈ fields, later.name ∉ field.name :: seen := by
        intro later member inside
        rcases List.mem_cons.mp inside with equal | before
        · exact others (equal ▸ List.mem_map_of_mem member)
        · exact unseen later (List.mem_cons_of_mem _ member) before
      have here : known.find? (·.name = field.name) = some field :=
        found field List.mem_cons_self
      rw [encodeMembers_cons_some written, ofMembers,
        decodeMembers_cons here (unseen field List.mem_cons_self) (carries.written json written)]
      exact hypothesis foundLater unseenLater distinct

/-- **Records are lossless** when their fields, under distinct names, carry every record over from
a fresh one. -/
theorem lossless_of_restores [Record σ]
    (distinct : ((Record.fields (σ := σ)).map Field.name).Nodup)
    (restores : ∀ record : σ, Restores record default Record.fields) : Lossless σ where
  writable record := .object (writable_of_restores (restores record))
  decode_ofJson record := by
    have kept : decodeMembers Record.fields [] default
        (ofMembers (encodeMembers Record.fields record)) = .ok record :=
      decodeMembers_of_restores (restores record) (fun field member => find?_name distinct member)
        (fun _ _ => List.not_mem_nil) distinct
    show (decodeMembers Record.fields [] default
      (ofMembers (encodeMembers Record.fields record)) >>= (Document.close · none)) = .ok record
    rw [kept]
    rfl

end Record

end OciBundle.Json
