/-
**Written documents are spelled and read back.**

A written value holds integers of 64 bits and nothing that a reader would refuse, so its text is one
of the grammar, and reading it gives a document without a single fault.

* `Document.ofJson`: the document of a value.
* `Writable`: all integers of a value fit 64 bits.
* `spells_of_writable`: a writable value is spelled as it is written.
* `read_document`: the text of a document is read as the document of its value.
-/

import OciBundle.Proofs.Json.Reading

namespace OciBundle.Json

namespace Document

mutual

/-- The document of a value. -/
def ofJson : Json → Document
  | .bool value => .bool ⟨.ok value, none⟩
  | .int value => Number.document value
  | .text value => .text (Quote.token value)
  | .list items => .list (ofItems items) none
  | .object members => .object (ofMembers members) none

/-- The documents of items. -/
def ofItems : List Json → List Document
  | [] => []
  | item :: rest => ofJson item :: ofItems rest

/-- The documents of members. -/
def ofMembers : List (String × Json) → List (Token String × Document)
  | [] => []
  | (name, value) :: rest => (Quote.token name, ofJson value) :: ofMembers rest

end

end Document

open Document (ofJson ofItems ofMembers)

/-- Values whose integers fit 64 bits. -/
inductive Writable : Json → Prop
  | bool (value : Bool) : Writable (.bool value)
  | int {value : Int} (low : -0x8000000000000000 ≤ value) (high : value ≤ 0xffffffffffffffff) :
    Writable (.int value)
  | text (value : String) : Writable (.text value)
  | list {items : List Json} (each : ∀ item ∈ items, Writable item) : Writable (.list items)
  | object {members : List (String × Json)} (each : ∀ member ∈ members, Writable member.2) :
    Writable (.object members)

/-! ### Leaves -/

/-- A line end and its tabs are a gap. -/
theorem gap_newLine (depth : Nat) : Gap (newLine depth) := by
  intro char member
  rcases List.mem_cons.mp member with rfl | tab
  · decide
  · rw [List.eq_of_mem_replicate tab]
    decide

theorem gap_nil : Gap [] :=
  fun _ none => absurd none List.not_mem_nil

/-- A name is spelled as it is written, without blanks around it. -/
theorem spellsName_encode (name : String) : SpellsName (Quote.token name) (Quote.encode name) := by
  have spelled := SpellsName.name gap_nil (Quote.spells_encode name) gap_nil
  rwa [List.nil_append, List.append_nil] at spelled

theorem spells_bool (value : Bool) (depth : Nat) :
    Spells (ofJson (.bool value)) (render depth (.bool value)) := by
  cases value
  · exact .false
  · exact .true

/-! ### Lists -/

/-- Items with their texts: each one on its own line, the last one in front of `behind`. -/
theorem exists_items_of_spells {depth : Nat} {behind : List Char} (blank : Gap behind) (item : Json)
    (items : List Json) (each : ∀ entry ∈ item :: items, Spells (ofJson entry) (render depth entry)) :
    ∃ (first : Document × List Char) (others : List (Document × List Char)),
      (∀ entry ∈ first :: others, Spells entry.1 entry.2) ∧
      (first :: others).map Prod.fst = ofItems (item :: items) ∧
      first.2 ++ behindCommas (others.map Prod.snd) =
        newLine depth ++ (render depth item ++ (renderItems depth items ++ behind)) := by
  obtain ⟨here, later⟩ := List.forall_mem_cons.mp each
  induction items generalizing item with
  | nil =>
    refine ⟨(ofJson item, newLine depth ++ (render depth item ++ behind)), [], ?_, rfl, ?_⟩
    · exact List.forall_mem_singleton.mpr (.gaps (gap_newLine depth) here blank)
    · rw [renderItems, List.map_nil, behindCommas, List.append_nil, List.nil_append]
  | cons next items hypothesis =>
    obtain ⟨first, others, spelled, documents, text⟩ :=
      hypothesis next later (later next List.mem_cons_self)
        fun entry member => later entry (List.mem_cons_of_mem _ member)
    refine ⟨(ofJson item, newLine depth ++ (render depth item ++ [])), first :: others, ?_, ?_, ?_⟩
    · exact List.forall_mem_cons.mpr ⟨.gaps (gap_newLine depth) here gap_nil, spelled⟩
    · rw [List.map_cons, documents]
      rfl
    · rw [List.map_cons, behindCommas, text, renderItems]
      simp only [List.append_assoc, List.cons_append, List.nil_append]

theorem spells_list {items : List Json}
    (each : ∀ item ∈ items, ∀ depth, Spells (ofJson item) (render depth item)) (depth : Nat) :
    Spells (ofJson (.list items)) (render depth (.list items)) := by
  cases items with
  | nil => exact .emptyList gap_nil
  | cons item items =>
    obtain ⟨first, others, spelled, documents, text⟩ :=
      exists_items_of_spells (gap_newLine depth) item items fun entry member =>
        each entry member (depth + 1)
    have whole := Spells.list spelled
    rw [documents, ← List.append_assoc, text] at whole
    simp only [render, List.append_assoc, List.cons_append] at whole ⊢
    exact whole

/-! ### Objects -/

/-- Members with their texts: each one on its own line, the last one in front of `behind`. -/
theorem exists_members_of_spells {depth : Nat} {behind : List Char} (blank : Gap behind)
    (name : String) (value : Json) (members : List (String × Json))
    (each : ∀ entry ∈ (name, value) :: members, Spells (ofJson entry.2) (render depth entry.2)) :
    ∃ (first : MemberText) (others : List MemberText),
      (∀ entry ∈ first :: others, SpellsName entry.name entry.nameText) ∧
      (∀ entry ∈ first :: others, Spells entry.value entry.valueText) ∧
      (first :: others).map MemberText.member = ofMembers ((name, value) :: members) ∧
      first.text ++ behindCommas (others.map MemberText.text) =
        newLine depth ++ (Quote.encode name ++ (':' :: ' ' :: (render depth value ++
          (renderMembers depth members ++ behind)))) := by
  have space : Gap [' '] := List.forall_mem_singleton.mpr (by decide)
  obtain ⟨here, later⟩ := List.forall_mem_cons.mp each
  induction members generalizing name value with
  | nil =>
    refine ⟨⟨Quote.token name, newLine depth ++ (Quote.encode name ++ []), ofJson value,
      [' '] ++ (render depth value ++ behind)⟩, [], ?_, ?_, rfl, ?_⟩
    · refine List.forall_mem_singleton.mpr ?_
      exact .name (gap_newLine depth) (Quote.spells_encode name) gap_nil
    · exact List.forall_mem_singleton.mpr (.gaps space here blank)
    · simp only [MemberText.text, renderMembers, List.map_nil, behindCommas, List.append_nil,
        List.append_assoc, List.cons_append, List.nil_append]
  | cons next members hypothesis =>
    obtain ⟨nextName, nextValue⟩ := next
    obtain ⟨first, others, names, values, documents, text⟩ :=
      hypothesis nextName nextValue later (later _ List.mem_cons_self)
        fun entry member => later entry (List.mem_cons_of_mem _ member)
    refine ⟨⟨Quote.token name, newLine depth ++ (Quote.encode name ++ []), ofJson value,
      [' '] ++ (render depth value ++ [])⟩, first :: others, ?_, ?_, ?_, ?_⟩
    · refine List.forall_mem_cons.mpr ⟨?_, names⟩
      exact .name (gap_newLine depth) (Quote.spells_encode name) gap_nil
    · exact List.forall_mem_cons.mpr ⟨.gaps space here gap_nil, values⟩
    · rw [List.map_cons, documents]
      rfl
    · rw [List.map_cons, behindCommas, text, renderMembers, MemberText.text]
      simp only [List.append_assoc, List.cons_append, List.nil_append, List.append_nil]

theorem spells_object {members : List (String × Json)}
    (each : ∀ member ∈ members, ∀ depth, Spells (ofJson member.2) (render depth member.2))
    (depth : Nat) : Spells (ofJson (.object members)) (render depth (.object members)) := by
  cases members with
  | nil => exact .emptyObject gap_nil
  | cons member members =>
    obtain ⟨name, value⟩ := member
    obtain ⟨first, others, names, values, documents, text⟩ :=
      exists_members_of_spells (gap_newLine depth) name value members fun entry member =>
        each entry member (depth + 1)
    have whole := Spells.object names values
    rw [documents, ← List.append_assoc, text] at whole
    simp only [render, List.append_assoc, List.cons_append, List.nil_append] at whole ⊢
    exact whole

/-! ### Documents -/

/-- **A writable value is spelled as it is written**, at any depth. -/
theorem spells_of_writable {json : Json} (writable : Writable json) :
    ∀ depth, Spells (ofJson json) (render depth json) := by
  induction writable with
  | bool value => exact spells_bool value
  | int low high => exact fun _ => Number.spells_integerText low high
  | text value => exact fun _ => .string (Quote.spells_encode value)
  | list _ hypothesis => exact spells_list hypothesis
  | object _ hypothesis => exact spells_object hypothesis

/-- **A written document is read back** as the document of its value, with nothing behind it. -/
theorem read_document {json : Json} (writable : Writable json) :
    Document.read (Source.ofString (document json)) = ⟨ofJson json, none⟩ := by
  have lineEnd : Gap ['\n'] := gap_newLine 0
  refine Document.read_of_spells ?_
  rw [document, String.toList_ofList, ← List.nil_append (render 0 json ++ ['\n'])]
  exact .gaps gap_nil (spells_of_writable writable 0) lineEnd

end OciBundle.Json
