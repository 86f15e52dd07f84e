/-
**Whose states a test of a runtime relies on.**

Behind the creation and the start, a test takes the state of its own container only. While it waits
for the stop, it looks at the status and not at the name: the answers to these questions may be
about any container, and the test ends as it would with its own.

* `Client.Trusts`: the states that a test has relied on.
* `Client.AlikeButNames`: runtimes whose answers differ in the names told while the container stops.
* `Client.Clean.of_alike`: a life that is clean with one of them is clean with the other.
* `RuntimeFlags.run_otherStops`: a run that another container ends.
* `RuntimeFlags.trusts_run`: what holds of every run that ends well.
* `RuntimeFlags.stopped_by_other`: the last state need not be of the container under test.
-/

import OciBundle.Proofs.RuntimeTest

namespace OciBundle

/-- An answer tells one state at most. -/
theorem Answer.Tells.unique {answer : Answer} {state other : State} (first : answer.Tells state)
    (second : answer.Tells other) : state = other := by
  obtain ⟨out, err, rfl, read⟩ := first
  obtain ⟨_, _, same, read'⟩ := second
  cases same
  exact Except.ok.inj (read.symm.trans read')

namespace Client

variable {client : Client} {runtime runtime' : Runtime} {killed : Bool} {questions : Nat}

/-- **The states that a test has relied on**: that of its own container behind the creation and the
start, and then one of a stopped container. -/
structure Trusts (client : Client) (runtime : Runtime) (killed : Bool) (questions : Nat) : Prop where
  created : ∃ state, (runtime (client.opening.take 2)).Tells state ∧
    state.id = client.id ∧ state.status = .created
  started : ∃ state, (runtime client.opening).Tells state ∧
    state.id = client.id ∧ state.status = if killed then .running else .stopped
  stopped : ∃ state, (runtime (client.itinerary killed (questions + 1))).Tells state ∧
    state.status = .stopped

theorem Clean.trusts (clean : client.Clean runtime killed questions) :
    client.Trusts runtime killed questions where
  created := hears_iff.mp clean.created
  started := hears_iff.mp clean.started
  stopped := by
    rw [← itinerary_append_replicate]
    exact clean.stops.stopped

/-- **Two runtimes answer alike but for the names told while the container stops**: the questions
are   answered by states of the same status, and the calls around them by the same. -/
structure AlikeButNames (client : Client) (runtime runtime' : Runtime) (killed : Bool)
    (questions : Nat) : Prop where
  before : Agree runtime runtime' (client.itinerary killed 0)
  waiting : ∀ earlier ≤ questions, ∃ state state',
    (runtime (client.itinerary killed (earlier + 1))).Tells state ∧
      (runtime' (client.itinerary killed (earlier + 1))).Tells state' ∧
      state'.status = state.status
  delete : runtime (client.itinerary killed (questions + 1) ++ [.delete client.id]) =
    runtime' (client.itinerary killed (questions + 1) ++ [.delete client.id])

/-- The opening comes first. -/
theorem opening_prefix_itinerary (client : Client) (killed : Bool) (questions : Nat) :
    client.opening <+: client.itinerary killed questions := by
  rw [itinerary, List.append_assoc]
  exact List.prefix_append _ _

/-- What a runtime tells of a status while it is waited for, the other one tells, too. -/
theorem AlikeButNames.tells (alike : client.AlikeButNames runtime runtime' killed questions)
    {earlier : Nat} (inside : earlier ≤ questions) {state : State}
    (told : (runtime (client.itinerary killed (earlier + 1))).Tells state) :
    ∃ state', (runtime' (client.itinerary killed (earlier + 1))).Tells state' ∧
      state'.status = state.status := by
  obtain ⟨state₀, state', told₀, told', same⟩ := alike.waiting earlier inside
  obtain rfl := told.unique told₀
  exact ⟨state', told', same⟩

/-- **Names do not matter while the container stops.** -/
theorem Clean.of_alike (clean : client.Clean runtime killed questions)
    (alike : client.AlikeButNames runtime runtime' killed questions) :
    client.Clean runtime' killed questions := by
  have early (count : Nat) (some : client.opening.take count ≠ []) :
      runtime (client.opening.take count) = runtime' (client.opening.take count) :=
    alike.before _ ((List.take_prefix _ _).trans (client.opening_prefix_itinerary killed 0)) some
  have stops := clean.stops
  exact
    { create := early 1 (by simp [opening]) ▸ clean.create
      created := early 2 (by simp [opening]) ▸ clean.created
      start := early 3 (by simp [opening]) ▸ clean.start
      started := early 4 (by simp [opening]) ▸ clean.started
      kill := by
        rintro rfl
        rw [← alike.before _ List.prefix_rfl (by simp [itinerary])]
        exact clean.kill rfl
      stops :=
        { going := by
            intro earlier before
            obtain ⟨state, told, going⟩ := stops.going earlier before
            rw [itinerary_append_replicate] at told ⊢
            obtain ⟨state', told', same⟩ := alike.tells (Nat.le_of_lt before) told
            exact ⟨state', told', same ▸ going⟩
          stopped := by
            obtain ⟨state, told, stopped⟩ := stops.stopped
            rw [itinerary_append_replicate] at told ⊢
            obtain ⟨state', told', same⟩ := alike.tells (Nat.le_refl _) told
            exact ⟨state', told', same.trans stopped⟩ }
      delete := alike.delete ▸ clean.delete }

end Client

namespace RuntimeFlags

variable {flags : RuntimeFlags} {settings : Settings} {tree : FileTree} {programs : Programs}
  {id path bundle : String} {clockSecs : Int64}

/-- A run that ends well is one with a bundle that has been given, approved and found. -/
theorem exists_of_result_run_eq_ok
    (ok : (flags.run settings tree programs id clockSecs).2.result = .ok ()) :
    ∃ path bundle, flags.bundle = some path ∧ (Bundle.approve tree path).result = .ok () ∧
      tree.resolve path = .ok bundle := by
  unfold run at ok
  dsimp only at ok
  cases approved : (Bundle.approve tree (flags.bundle.getD "")).result with
  | error breakdown =>
    rw [approved] at ok
    cases approved.symm.trans ok
  | ok value =>
    rw [approved] at ok
    cases resolved : tree.resolve (flags.bundle.getD "") with
    | error fault =>
      rw [resolved] at ok
      cases ok
    | ok bundle =>
      cases given : flags.bundle with
      -- The path of a bundle that is not given is empty, and leads nowhere.
      | none =>
        rw [given] at resolved
        cases resolved
      | some path =>
        rw [given] at approved resolved
        exact ⟨path, bundle, rfl, approved, resolved⟩

/-! ### A run that another container ends -/

/-- A runtime that answers the last question by the state of another container. -/
def otherStops : Programs := stopsAs "d"

/-- The container stops by itself, and one question is answered before the delete. -/
theorem run_otherStops :
    let client := bareFlags.client default "/b" "c" 0
    (bareFlags.run default bareTree otherStops "c" 0).2.result = .ok () ∧
      (bareFlags.run default bareTree otherStops "c" 0).1 =
        client.itinerary false 1 ++ [.delete client.id] ∧
      client.reach (otherStops client.program) = otherStops client.program := by
  intro client
  have clean : client.Clean (otherStops client.program) false 0 :=
    { Client.brought_stopsAs rfl "d" client.program with
      stops := Client.settles_zero_iff.mpr ⟨⟨"1.0.0", "d", .stopped, none, "/b", default⟩,
        ⟨_, _, rfl, by decide +kernel⟩, rfl⟩
      delete := ⟨_, _, rfl⟩ }
  have reached : client.heard otherStops = otherStops client.program   :=
    Client.heard_eq rfl rfl otherStops
  have tested := Client.test_of_clean (by decide) (Nat.zero_le _) clean
  rw [← reached] at tested
  refine ⟨?_, ?_, reached⟩
  · rw [← snd_course, course_eq rfl result_approve_bareTree resolve_bareTree]
    exact congrArg Prod.snd tested
  · rw [← fst_course, course_eq rfl result_approve_bareTree resolve_bareTree]
    exact congrArg Prod.fst tested

/-! ### What runs rely on -/

/-- **A run that ends well has relied on its own container up to the wait for the stop**, and from
then   on on any one: it has asked for the state behind the creation and the start, where it was
told   that of the container under test, and it has been told of a stopped container at the end.
With   names exchanged in the answers while it waits, it would have been the same run. -/
theorem trusts_run (ok : (flags.run settings tree programs id clockSecs).2.result = .ok ()) :
    ∃ path bundle killed questions, flags.bundle = some path ∧ tree.resolve path = .ok bundle ∧
      let client := flags.client settings bundle id clockSecs
      let runtime := client.reach (programs client.program)
      client.Trusts runtime killed questions ∧
        (flags.run settings tree programs id clockSecs).1 =
          client.itinerary killed (questions + 1) ++ [.delete client.id] ∧
        ∀ programs' : Programs,
          client.AlikeButNames runtime (client.reach (programs' client.program)) killed questions →
            flags.run settings tree programs' id clockSecs =
              flags.run settings tree programs id clockSecs := by
  obtain ⟨path, bundle, given, approved, resolved⟩ := exists_of_result_run_eq_ok ok
  rw [← snd_course, course_eq given approved resolved] at ok
  obtain ⟨timed, killed, questions, few, clean⟩ := Client.test_eq_ok_iff.mp ok
  have tested : (flags.client settings bundle id clockSecs).course programs = _ :=
    Client.test_of_clean timed few clean
  refine ⟨path, bundle, killed, questions, given, resolved, clean.trusts, ?_, ?_⟩
  · rw [← fst_course, course_eq given approved resolved, tested]
  · intro programs' alike
    have tested' : (flags.client settings bundle id clockSecs).course programs' = _ :=
      Client.test_of_clean timed few (clean.of_alike alike)
    rw [run_eq given approved resolved, run_eq given approved resolved]
    dsimp only
    rw [tested, tested']

/-- A run that ends with the state of another container has relied on the two states before. -/
theorem trusts_run_otherStops :
    let client := bareFlags.client default "/b" "c" 0
    (bareFlags.run default bareTree otherStops "c" 0).2.result = .ok () ∧
      ∃ killed questions,
        client.Trusts (client.reach (otherStops client.program)) killed questions := by
  intro client
  obtain ⟨ok, _⟩ := run_otherStops
  obtain ⟨path, bundle, killed, questions, given, resolved, trusts, _⟩ := trusts_run ok
  obtain rfl : "/b" = path := Option.some.inj given
  obtain rfl : "/b" = bundle := Except.ok.inj (resolve_bareTree.symm.trans resolved)
  exact ⟨ok, killed, questions, trusts⟩

/-- **Another container ends the wait**: the run ends well, though the state that its last question
is   answered by is not of the container under test. -/
theorem stopped_by_other :
    let client := bareFlags.client default "/b" "c" 0
    (bareFlags.run default bareTree otherStops "c" 0).2.result = .ok () ∧
      (bareFlags.run default bareTree otherStops "c" 0).1 =
        client.itinerary false 1 ++ [.delete client.id] ∧
      ∃ state, (client.reach (otherStops client.program) (client.itinerary false 1)).Tells state ∧
        state.status = .stopped ∧ state.id ≠ client.id := by
  intro client
  obtain ⟨ok, calls, reached⟩ := run_otherStops
  rw [reached]
  exact ⟨ok, calls, ⟨"1.0.0", "d", .stopped, none, "/b", default⟩,
    ⟨_, _, rfl, by decide +kernel⟩, rfl, by decide⟩

end RuntimeFlags

end OciBundle
