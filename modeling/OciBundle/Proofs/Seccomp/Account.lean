/-
**What decisions tell of the edit.**

The rules of a text are merged one after the other, each into the list that the earlier ones left;
yet the decisions tell what became of the list that there was before. A place that is named was
listed for the rule's name alone, so it is neither a place that an earlier rule of the text was
appended to nor one that an earlier rule took: these belong to other names, or to a rule that is
settled by now.

* `appended`: the rules that decisions append.
* `Accounts`: what decisions tell of a list before and after them.
* `Accounts.cons`: one more decision in front, if no later one changes what it wrote.
* `Seccomp.accounts_addRules`: the rules of a text, merged into a filter.
* `Draft.perform_addRules_accounts`: a text that is added to a draft.
-/

import OciBundle.Proofs.Seccomp.Repetition

namespace OciBundle

variable {before middle after : List SyscallRule} {rule other : NameRule} {place : Nat}
  {decision : Decision} {taken : List (NameRule × Decision)}

/-- The rules that decisions append, as they are listed. -/
def appended (taken : List (NameRule × Decision)) : List SyscallRule :=
  (taken.filter (·.2 = .append)).map (·.1.toRule)

/-- **What decisions tell** of a list before and after them; each is taken on the rule beside it. -/
structure Accounts (before after : List SyscallRule) (taken : List (NameRule × Decision)) :
    Prop where
  /-- The list grows by one rule for each decision to append. -/
  length : after.length = before.length + (taken.map Prod.snd).count .append
  /-- A place that is overwritten was there and listed for the name alone; now it is the rule. -/
  overwritten : ∀ rule place, (rule, .overwrite place) ∈ taken →
    (∃ inside : place < before.length, before[place].names = [rule.name]) ∧
      after[place]? = some rule.toRule
  /-- All other places are as they were. -/
  unchanged : ∀ place < before.length, (∀ rule, (rule, .overwrite place) ∉ taken) →
    after[place]? = before[place]?
  /-- Behind the list that there was stand the appended rules in their order. -/
  behind : after.drop before.length = appended taken

namespace Accounts

theorem nil (rules : List SyscallRule) : Accounts rules rules [] where
  length := rfl
  overwritten _ _ member := absurd member List.not_mem_nil
  unchanged _ _ _ := rfl
  behind := List.drop_length

/-- Where the list has the rule of another name, no place is overwritten. -/
theorem not_mem_of_toRule (later : Accounts middle after taken)
    (apart : ∀ other place, (other, .overwrite place) ∈ taken → other.name ≠ rule.name)
    (written : middle[place]? = some rule.toRule) (other : NameRule) :
    (other, .overwrite place) ∉ taken := by
  intro member
  obtain ⟨⟨inside, names⟩, _⟩ := later.overwritten other place member
  have here : middle[place] = rule.toRule :=
    Option.some.inj ((List.getElem?_eq_getElem inside).symm.trans written)
  have same : [rule.name] = [other.name] := (congrArg SyscallRule.names here).symm.trans names
  exact apart other place member (List.cons.inj same).1.symm

theorem cons_nothing (later : Accounts before after taken) (rule : NameRule) :
    Accounts before after ((rule, .nothing) :: taken) where
  length := by
    rw [List.map_cons, List.count_cons_of_ne Decision.noConfusion]
    exact later.length
  overwritten other place member := by
    rcases List.mem_cons.mp member with equal | inside
    · cases equal
    · exact later.overwritten other place inside
  unchanged place inside free :=
    later.unchanged place inside fun other member => free other (List.mem_cons_of_mem _ member)
  behind := later.behind

theorem cons_append (later : Accounts (before ++ [rule.toRule]) after taken)
    (apart : ∀ other place, (other, .overwrite place) ∈ taken → other.name ≠ rule.name) :
    Accounts before after ((rule, .append) :: taken) := by
  have length : (before ++ [rule.toRule]).length = before.length + 1 := List.length_append
  have last : (before ++ [rule.toRule])[before.length]? = some rule.toRule :=
    List.getElem?_concat_length
  have spared := later.not_mem_of_toRule apart last
  -- What was appended first still stands in its place.
  have first : after[before.length]? = some rule.toRule := by
    rw [later.unchanged before.length (by omega) spared, last]
  have old (place : Nat) (inside : place < before.length) :
      (before ++ [rule.toRule])[place]? = before[place]? := List.getElem?_append_left inside
  constructor
  case length =>
    rw [List.map_cons, List.count_cons_self, later.length, length]
    omega
  case overwritten =>
    intro other place member
    have tail : (other, .overwrite place) ∈ taken := by
      rcases List.mem_cons.mp member with equal | tail
      · cases equal
      · exact tail
    obtain ⟨⟨inside, names⟩, written⟩ := later.overwritten other place tail
    have inner : place < before.length := by
      have different : place ≠ before.length := fun equal => spared other (equal ▸ tail)
      omega
    refine ⟨⟨inner, ?_⟩, written⟩
    rw [← names, List.getElem_append_left inner]
  case unchanged =>
    intro place inside free
    have tail (other : NameRule) : (other, .overwrite place) ∉ taken :=
      fun member => free other (List.mem_cons_of_mem _ member)
    rw [later.unchanged place (by omega) tail, old place inside]
  case behind =>
    obtain ⟨inside, here⟩ := List.getElem?_eq_some_iff.mp first
    have rest : after.drop (before.length + 1) = appended taken := by
      rw [← length]
      exact later.behind
    rw [List.drop_eq_getElem_cons inside, here, rest]
    rfl

theorem cons_overwrite (later : Accounts (before.set place rule.toRule) after taken)
    (apart : ∀ other place, (other, .overwrite place) ∈ taken → other.name ≠ rule.name)
    (inside : place < before.length) (names : before[place].names = [rule.name]) :
    Accounts before after ((rule, .overwrite place) :: taken) := by
  have length : (before.set place rule.toRule).length = before.length := List.length_set
  have here : (before.set place rule.toRule)[place]? = some rule.toRule :=
    List.getElem?_set_self inside
  have spared := later.not_mem_of_toRule apart here
  constructor
  case length =>
    rw [List.map_cons, List.count_cons_of_ne Decision.noConfusion, later.length, length]
  case overwritten =>
    intro other place' member
    rcases List.mem_cons.mp member with equal | tail
    · cases equal
      refine ⟨⟨inside, names⟩, ?_⟩
      rw [later.unchanged place (by omega) spared, here]
    · obtain ⟨⟨inside', names'⟩, written⟩ := later.overwritten other place' tail
      have different : place ≠ place' := fun equal => spared other (equal ▸ tail)
      refine ⟨⟨by omega, ?_⟩, written⟩
      rw [← names', List.getElem_set_ne different]
  case unchanged =>
    intro place' inside' free
    have different : place ≠ place' := fun equal => free rule (equal ▸ List.mem_cons_self)
    have tail (other : NameRule) : (other, .overwrite place') ∉ taken :=
      fun member => free other (List.mem_cons_of_mem _ member)
    rw [later.unchanged place' (by omega) tail, List.getElem?_set_ne different]
  case behind =>
    rw [← length]
    exact later.behind

/-- **One more decision in front**, if the later ones overwrite no rule for its name. -/
theorem cons (later : Accounts (rule.apply decision before) after taken)
    (single : ∀ place, decision = .overwrite place →
      ∃ inside : place < before.length, before[place].names = [rule.name])
    (apart : ∀ other place, (other, .overwrite place) ∈ taken → other.name ≠ rule.name) :
    Accounts before after ((rule, decision) :: taken) := by
  cases decision with
  | nothing => exact later.cons_nothing rule
  | append => exact later.cons_append apart
  | overwrite place =>
    obtain ⟨inside, names⟩ := single place rfl
    rw [NameRule.apply, if_pos inside] at later
    exact later.cons_overwrite apart inside names

end Accounts

/-! ### The rules of a text -/

namespace Seccomp

variable {seccomp : Seccomp} {rules : List NameRule}

/-- The rules of a text, each with the decision on it. -/
def account (seccomp : Seccomp) (rules : List NameRule) : List (NameRule × Decision) :=
  rules.zip (seccomp.addRules rules).2

theorem account_cons (rule : NameRule) (rules : List NameRule) :
    seccomp.account (rule :: rules) =
      (rule, seccomp.decide rule) :: (seccomp.addRule rule).account rules := rfl

theorem length_addRules (rules : List NameRule) :
    (seccomp.addRules rules).2.length = rules.length := by
  induction rules generalizing seccomp with
  | nil => rfl
  | cons rule rules hypothesis => exact congrArg (· + 1) hypothesis

/-- A rule that is settled before is settled when its turn comes. -/
theorem eq_nothing_of_settled (settled : seccomp.decide other = .nothing)
    (alike : ∀ rule ∈ rules, other.name = rule.name → other = rule)
    (member : (other, decision) ∈ seccomp.account rules) : decision = .nothing := by
  induction rules generalizing seccomp with
  | nil => exact absurd member List.not_mem_nil
  | cons rule rules hypothesis =>
    obtain ⟨here, later⟩ := List.forall_mem_cons.mp alike
    rw [account_cons] at member
    rcases List.mem_cons.mp member with equal | tail
    · cases equal
      exact settled
    · have still : (seccomp.addRules [rule]).1.decide other = .nothing :=
        decide_addRules_of_settled settled (List.forall_mem_singleton.mpr here)
      exact hypothesis still later tail

/-- A decision to overwrite names a rule that is listed for the name alone. -/
theorem names_of_decide (decided : seccomp.decide rule = .overwrite place) :
    ∃ inside : place < seccomp.syscalls.length, seccomp.syscalls[place].names = [rule.name] := by
  rw [decide] at decided
  split at decided
  next => cases decided
  next =>
    obtain ⟨listed, here, names⟩ := NameRule.names_of_decide decided
    obtain ⟨inside, rfl⟩ := List.getElem?_eq_some_iff.mp here
    exact ⟨inside, names⟩

/-- **The rules of a text**: the decisions tell what became of the list. By induction on the rules:
the first one is settled once it is merged, so no later decision is on a rule for its name. -/
theorem accounts_addRules
    (alike : ∀ first ∈ rules, ∀ second ∈ rules, first.name = second.name → first = second) :
    Accounts seccomp.syscalls (seccomp.addRules rules).1.syscalls (seccomp.account rules) := by
  induction rules generalizing seccomp with
  | nil => exact .nil _
  | cons rule rules hypothesis =>
    have later : Accounts (seccomp.addRule rule).syscalls
        ((seccomp.addRule rule).addRules rules).1.syscalls
        ((seccomp.addRule rule).account rules) := by
      refine hypothesis fun first inside second inside' => ?_
      exact alike first (List.mem_cons_of_mem _ inside) second (List.mem_cons_of_mem _ inside')
    have apart (other : NameRule) (place : Nat)
        (member : (other, .overwrite place) ∈ (seccomp.addRule rule).account rules) :
        other.name ≠ rule.name := by
      intro same
      have inside : other ∈ rules := (List.of_mem_zip member).1
      obtain rfl : other = rule :=
        alike other (List.mem_cons_of_mem _ inside) rule List.mem_cons_self same
      have nothing : Decision.overwrite place = .nothing :=
        eq_nothing_of_settled decide_addRule_self
          (fun second inside' =>
            alike other List.mem_cons_self second (List.mem_cons_of_mem _ inside'))
          member
      cases nothing
    rw [account_cons]
    exact later.cons (fun _ => names_of_decide) apart

end Seccomp

/-! ### Drafts -/

/-- The listed rules of a configuration; there are none without a filter. -/
def Config.listedRules (config : Config) : List SyscallRule :=
  (config.seccomp.getD default).syscalls

namespace Draft

variable {input : String} {rules : List NameRule}

/-- **What the decisions on a text tell.** A text that is read is added to every draft, with one
decision for each of its rules. The list of rules grows by one for each decision to append; a place
that a decision names was in the list before, for the name of its rule alone, and now has exactly
this rule; all other places are as they were; and the rules that are appended stand behind in their
order. -/
theorem perform_addRules_accounts (draft : Draft) (read : NameRule.readAll input = .ok rules) :
    ∃ after decisions,
      draft.perform (.edit (.seccomp (.addRules input))) = (after, .ok decisions) ∧
        decisions.length = rules.length ∧
        Accounts draft.config.listedRules after.config.listedRules (rules.zip decisions) := by
  refine ⟨_, _, perform_addRules read, Seccomp.length_addRules rules, ?_⟩
  have made : (draft.config.withSeccomp fun seccomp => (seccomp.addRules rules).1).seccomp =
      some ((draft.config.seccomp.getD default).addRules rules).1 := by
    rw [Config.getD_seccomp]
    rfl
  rw [Config.listedRules, Config.listedRules, made, Option.getD_some]
  exact Seccomp.accounts_addRules (NameRule.eq_of_readAll read)

/-- A text for four names, one of which it has twice: two rules are appended, around one that takes
the second place, and two decisions are to do nothing. -/
theorem perform_addRules_accounts_read :
    let condition : ArgCondition := ⟨0, 1, 0, "SCMP_CMP_EQ"⟩
    let seccomp : Seccomp := ⟨"SCMP_ACT_KILL", [],
      [⟨["write", "read"], "SCMP_ACT_ERRNO", []⟩, ⟨["read"], "SCMP_ACT_ALLOW", []⟩,
        ⟨["stat", "open"], "SCMP_ACT_ALLOW", [condition]⟩]⟩
    let draft := ofConfig default ((default : Config).withSeccomp fun _ => seccomp)
    let input := "allow:write,read,open,close,write:0:1:0:EQ"
    ∃ rules after decisions, NameRule.readAll input = .ok rules ∧
      draft.perform (.edit (.seccomp (.addRules input))) = (after, .ok decisions) ∧
      decisions = [.append, .overwrite 1, .nothing, .append, .nothing] ∧
      Accounts seccomp.syscalls after.config.listedRules (rules.zip decisions) := by
  intro condition seccomp draft input
  have read : NameRule.readAll "allow:write,read,open,close,write:0:1:0:EQ" =
      .ok [⟨"write", .allow, [condition]⟩, ⟨"read", .allow, [condition]⟩,
        ⟨"open", .allow, [condition]⟩, ⟨"close", .allow, [condition]⟩,
        ⟨"write", .allow, [condition]⟩] := by rfl
  obtain ⟨after, decisions, performs, _, accounts⟩ := perform_addRules_accounts draft read
  refine ⟨_, after, decisions, read, performs, ?_, accounts⟩
  rw [perform_addRules read] at performs
  exact (Except.ok.inj (Prod.mk.inj performs).2).symm.trans rfl

end Draft

end OciBundle
