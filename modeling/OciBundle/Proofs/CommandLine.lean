/-
**What the flags of a command keep, its command line keeps.**

* `Flag.Keeps`: a flag that is set leaves a property of the options.
* `Reading.Fits`: the options have the property, and the flag that is not settled keeps it.
* `Reading.fits_scan`, `Flag.keeps_readAll`: what reading a command line leaves.
* `Invocation.bundle_of_read`: a test of a runtime is given a bundle by a path that is not empty.
-/

import OciBundle.Program
import OciBundle.Proofs.Result

namespace OciBundle

/-- A flag leaves a property of the options, whatever its value. -/
def Flag.Keeps {σ : Type} (property : σ → Prop) (flag : Flag σ) : Prop :=
  ∀ value options after, flag.set value options = .ok after → property options → property after

/-- A flag with a value keeps what its values keep. -/
theorem Flag.keeps_reading {σ α : Type} {property : σ → Prop} {name : String}
    {read : String → Except UsageFault α} {set : α → σ → σ}
    (keeps : ∀ text value options, read text = .ok value → property options →
      property (set value options)) : (Flag.reading name read set).Keeps property := by
  intro text options after done holds
  obtain ⟨value, found, rfl⟩ := map_eq_ok_iff.mp done
  exact keeps text value options found holds

namespace Reading

variable {σ : Type} {property : σ → Prop} {table : List (Flag σ)} {reading after : Reading σ}
  {flag : Flag σ}

/-- The options have a property, and the flag that is not settled keeps it. -/
structure Fits (property : σ → Prop) (reading : Reading σ) : Prop where
  options : property reading.options
  pending : ∀ flag value, reading.pending = some (flag, value) → flag.Keeps property

/-- Setting a flag that keeps the property. -/
theorem fits_accept {value : Option String} (fits : reading.Fits property)
    (keeps : flag.Keeps property) (done : reading.accept flag value = .ok after) :
    after.Fits property := by
  unfold accept at done
  obtain ⟨_, done⟩ := of_check_eq_ok done
  obtain ⟨_, done⟩ := of_check_eq_ok done
  obtain ⟨options, set, equal⟩ := exists_of_bind_eq_ok done
  cases equal
  exact ⟨keeps _ _ _ set fits.options, fun _ _ waiting => nomatch waiting⟩

/-- Settling the last flag. -/
theorem fits_settle (fits : reading.Fits property) (done : reading.settle = .ok after) :
    after.Fits property := by
  unfold settle at done
  split at done
  · cases done
    exact fits
  next flag value waiting => exact fits_accept fits (fits.pending flag value waiting) done

theorem fits_open? (fits : reading.Fits property) (keeps : flag.Keeps property)
    (done : reading.open? flag = .ok after) : after.Fits property := by
  obtain ⟨settled, first, rest⟩ := exists_of_bind_eq_ok done
  have clean : settled.Fits property := fits_settle fits first
  split at rest
  · exact fits_accept clean keeps rest
  · cases rest
    refine ⟨clean.options, fun flag value waiting => ?_⟩
    cases waiting
    exact keeps

theorem fits_attach {value : String} (fits : reading.Fits property) (keeps : flag.Keeps property)
    (done : reading.attach flag value = .ok after) : after.Fits property := by
  obtain ⟨settled, first, rest⟩ := exists_of_bind_eq_ok done
  exact fits_accept (fits_settle fits first) keeps rest

/-- Reading a flag by its name. -/
theorem fits_byName {name : String} {value : Option String}
    (keeps : ∀ flag ∈ table, flag.Keeps property) (fits : reading.Fits property)
    (done : reading.byName table name value = .ok after) : after.Fits property := by
  unfold byName at done
  split at done
  · cases done
  next flag found => exact fits_open? fits (keeps flag (List.mem_of_find?_eq_some found)) done
  next flag value found =>
    split at done
    · cases done
    · exact fits_attach fits (keeps flag (List.mem_of_find?_eq_some found)) done

/-- Reading flags by their letters, one after the other. -/
theorem fits_byLetters {letters : List Char} (keeps : ∀ flag ∈ table, flag.Keeps property)
    (fits : reading.Fits property) (done : reading.byLetters table letters = .ok after) :
    after.Fits property := by
  induction letters generalizing reading with
  | nil =>
    cases done
    exact fits
  | cons letter rest hypothesis =>
    rw [byLetters] at done
    split at done
    · cases done
    next flag found =>
      have kept : flag.Keeps property := keeps flag (List.mem_of_find?_eq_some found)
      split at done
      · obtain ⟨opened, first, done⟩ := exists_of_bind_eq_ok done
        exact hypothesis (fits_open? fits kept first) done
      · split at done
        · exact fits_open? fits kept done
        · exact fits_attach fits kept done
        · exact fits_attach fits kept done

/-- Taking a word for the value of the last flag. -/
theorem fits_take? {word : String} (fits : reading.Fits property)
    (taken : reading.take? word = some after) : after.Fits property := by
  unfold take? at taken
  split at taken
  next flag waiting =>
    split at taken
    · cases taken
      refine ⟨fits.options, fun other value settled => ?_⟩
      cases settled
      exact fits.pending flag none waiting
    · cases taken
  · cases taken

/-- **Reading flags**, word by word. -/
theorem fits_scan {words rest : List String} (keeps : ∀ flag ∈ table, flag.Keeps property)
    (fits : reading.Fits property) (done : reading.scan table words = .ok (after, rest)) :
    after.Fits property := by
  induction words generalizing reading with
  | nil =>
    cases done
    exact fits
  | cons word words hypothesis =>
    rw [scan] at done
    split at done
    next waiting taken => exact hypothesis (fits_take? fits taken) done
    next =>
      split at done
      · split at done
        · cases done
          exact fits
        · cases done
      · obtain ⟨named, first, done⟩ := exists_of_bind_eq_ok done
        exact hypothesis (fits_byName keeps fits first) done
      · obtain ⟨lettered, first, done⟩ := exists_of_bind_eq_ok done
        exact hypothesis (fits_byLetters keeps fits first) done
      · cases done
        exact fits

end Reading

/-- **Reading a command line** of flags that keep a property. -/
theorem Flag.keeps_readAll {σ : Type} {property : σ → Prop} {table : List (Flag σ)}
    {start options : σ} {line : List String} (keeps : ∀ flag ∈ table, flag.Keeps property)
    (holds : property start) (done : readAll table start line = .ok options) :
    property options := by
  obtain ⟨⟨reading, rest⟩, scanned, done⟩ := exists_of_bind_eq_ok done
  have blank : (Reading.start start).Fits property := ⟨holds, fun _ _ waiting => by cases waiting⟩
  have fits : reading.Fits property := Reading.fits_scan keeps blank scanned
  obtain ⟨_, done⟩ := of_check_eq_ok done
  obtain ⟨settled, last, equal⟩ := exists_of_bind_eq_ok done
  cases equal
  exact (Reading.fits_settle fits last).options

/-- Whether the path of a bundle is not empty. -/
def RuntimeFlags.IsNamed (flags : RuntimeFlags) : Prop :=
  flags.bundle ≠ some ""

namespace Invocation

/-- The flags of the program leave the options of its command alone. -/
theorem keeps_readFlags {σ : Type} [Inhabited σ] {property : σ → Prop} {table : List (Flag σ)}
    {outer : ProgramFlags} {options : σ} {line : List String}
    (keeps : ∀ flag ∈ table, flag.Keeps property) (holds : property default)
    (done : readFlags table line = .ok (outer, options)) : property options := by
  have both : ∀ flag ∈ Flag.help :: table.map (.within Prod.snd fun flags both => (both.1, flags))
      ++ ProgramFlags.table.map (.within Prod.fst fun flags both => (flags, both.2)),
      flag.Keeps fun both : ProgramFlags × σ => property both.2 := by
    intro flag member value before after set inside
    rcases List.mem_append.mp member with early | late
    · rcases List.mem_cons.mp early with rfl | own
      · cases set
      · obtain ⟨part, listed, rfl⟩ := List.mem_map.mp own
        obtain ⟨found, kept, rfl⟩ := map_eq_ok_iff.mp set
        exact keeps part listed value before.2 found kept inside
    · obtain ⟨part, _, rfl⟩ := List.mem_map.mp late
      obtain ⟨_, _, rfl⟩ := map_eq_ok_iff.mp set
      exact inside
  have kept := Flag.keeps_readAll both holds done
  exact kept

/-- The flags of a test of a runtime read no empty path. -/
theorem keeps_isNamed : ∀ flag ∈ RuntimeFlags.table, flag.Keeps RuntimeFlags.IsNamed := by
  intro flag member
  simp only [RuntimeFlags.table, List.mem_cons, List.not_mem_nil, or_false] at member
  rcases member with rfl | rfl | rfl | rfl
  · exact Flag.keeps_reading fun _ _ _ _ holds => holds
  · refine Flag.keeps_reading fun text path options checked _ same => ?_
    cases same
    split at checked
    · cases checked
    next named =>
      cases checked
      exact named rfl
  · exact Flag.keeps_reading fun _ _ _ _ holds => holds
  · exact Flag.keeps_reading fun _ _ _ _ holds => holds

/-- **A test of a runtime** is given a bundle by a path that is not empty. -/
theorem bundle_of_read {line : List String} {outer : ProgramFlags} {flags : RuntimeFlags}
    (done : read line = .ok ⟨outer, .testRuntime flags⟩) :
    ∃ path, flags.bundle = some path ∧ path ≠ "" := by
  obtain ⟨⟨reading, rest⟩, _, done⟩ := exists_of_bind_eq_ok done
  dsimp only at done
  split at done
  · cases done
  · cases done
  next name words =>
    obtain ⟨settled, _, done⟩ := exists_of_bind_eq_ok done
    unfold readCommand at done
    split at done
    · obtain ⟨⟨inner, options⟩, _, done⟩ := exists_of_bind_eq_ok done
      obtain ⟨_, _, equal⟩ := exists_of_bind_eq_ok done
      cases equal
    · obtain ⟨⟨inner, options⟩, _, done⟩ := exists_of_bind_eq_ok done
      obtain ⟨_, _, equal⟩ := exists_of_bind_eq_ok done
      cases equal
    · obtain ⟨⟨inner, options⟩, _, equal⟩ := exists_of_bind_eq_ok done
      cases equal
    · obtain ⟨⟨inner, options⟩, found, done⟩ := exists_of_bind_eq_ok done
      obtain ⟨checked, given, equal⟩ := exists_of_bind_eq_ok done
      cases equal
      have named : options.IsNamed :=
        keeps_readFlags keeps_isNamed (fun same => by cases same) found
      unfold RuntimeFlags.check at given
      split at given
      next isSome =>
        cases given
        obtain ⟨path, bundle⟩ := Option.isSome_iff_exists.mp isSome
        exact ⟨path, bundle, fun empty => named (empty ▸ bundle)⟩
      · cases given
    · cases done

end Invocation

end OciBundle
