import QuotaRing.Proofs.Limit.Chosen
import QuotaRing.Proofs.Limit.OwnCounters
import QuotaRing.Proofs.Pattern.Anchoring

/-!
# Rules that match whole uris

The pattern of a limit is put between the ends of the text before it is read.
Main statement: whatever configuration is accepted, a rule counts just the uris
that its pattern matches from the first to the last character, if no parenthesis
of the pattern closes the group around it.  A pattern with such a parenthesis is
no expression by itself, and its rule can count other uris.
-/

namespace QuotaRing.Limit

open QuotaRing.Checks (bind_eq_ok mem_of_mapM)
open QuotaRing.Pattern (Regex)
open QuotaRing.Pattern.Syntax (closesEarly)

/-- All rules in force. -/
def Rules.all (rules : Rules) : List Rule :=
  rules.groups.flatMap (·.rules) ++ rules.shared

/--
Whether the pattern of a rule is an expression, and the rule counts the uris
that the expression matches as a whole.
-/
def Rule.MatchesWhole (rule : Rule) : Prop :=
  ∃ regex, Regex.ofPattern? rule.definition.pattern.toList = some regex ∧
    ∀ uri method, rule.counts uri method = true ↔
      rule.definition.appliesTo method = true ∧ regex.MatchesWhole uri.toList

variable
    {dialect : Dialect}
    {config : Config}
    {version : UInt64}
    {rules : Rules}

theorem Rules.definitions_of_compile
    (compiled : Rules.compile dialect config version = .ok rules) :
    rules.all.map Rule.definition = config.limits.map Prod.snd := by
  have same : Rule.definition ∘ Rule.ofDefinition dialect = id := rfl
  have named (group : String) : Prod.snd ∘ (fun definition : Definition =>
      (group, definition)) = id := rfl
  rcases Rules.eq_of_compile compiled with ⟨_, groups, shared⟩
  rw [Rules.all, Config.limits, groups, shared, List.map_append, List.map_append,
    List.map_map, List.map_map, List.flatMap_map, List.map_flatMap, List.map_flatMap,
    same, named]
  simp only [RuleGroup.ofGroup, List.map_map, same, named]

theorem compile_of_mem_of_mapM
    {limits : List Definition}
    {compiled : List Rule}
    (made : limits.mapM (Rule.compile dialect) = .ok compiled)
    {rule : Rule}
    (member : rule ∈ compiled) :
    Rule.compile dialect rule.definition = .ok rule := by
  rcases mem_of_mapM made rule member with ⟨definition, _, same⟩
  rw [definition_of_compile same]
  exact same

/-- Every rule in force is one that its limit was compiled to. -/
theorem Rules.compile_of_mem_all
    (compiled : Rules.compile dialect config version = .ok rules)
    {rule : Rule}
    (member : rule ∈ rules.all) :
    Rule.compile dialect rule.definition = .ok rule := by
  rw [Rules.compile] at compiled
  rcases bind_eq_ok compiled with ⟨_, _, compiled⟩
  rcases bind_eq_ok compiled with ⟨groups, groupsMade, compiled⟩
  rcases bind_eq_ok compiled with ⟨shared, sharedMade, same⟩
  cases same
  rcases List.mem_append.1 member with own | common
  · rcases List.mem_flatMap.1 own with ⟨group, held, among⟩
    rcases mem_of_mapM groupsMade group held with ⟨_, _, made⟩
    rw [RuleGroup.compile] at made
    rcases bind_eq_ok made with ⟨rules, rulesMade, same⟩
    cases same
    exact compile_of_mem_of_mapM rulesMade among
  · exact compile_of_mem_of_mapM sharedMade common

theorem Rule.matchesWhole_iff
    {rule : Rule}
    (compiled : Rule.compile regexDialect rule.definition = .ok rule) :
    rule.MatchesWhole ↔ closesEarly rule.definition.pattern.toList = false := by
  rw [Rule.compile, regexDialect] at compiled
  cases anchored : Regex.ofPattern? (Pattern.anchored rule.definition.pattern) with
  | none =>
      rw [anchored] at compiled
      cases compiled
  | some whole =>
      rw [anchored] at compiled
      have accepts : rule.accepts = fun text => whole.matchesIn text.toList :=
        congrArg Rule.accepts (Except.ok.inj compiled).symm
      rcases Regex.ofPattern?_anchored anchored with
        ⟨early, refused⟩ | ⟨late, regex, read, same⟩
      · constructor
        · rintro ⟨regex, read, _⟩
          rw [refused] at read
          cases read
        · intro late
          rw [early] at late
          cases late
      · refine ⟨fun _ => late, fun _ => ⟨regex, read, fun uri method => ?_⟩⟩
        rw [Rule.counts, Bool.and_eq_true, accepts, same, Regex.matchesIn_anchored_iff]

/--
The rules that a configuration is compiled to are those of all its limits, and
just the patterns of which no parenthesis closes the group around them are
expressions that are matched with whole uris.
-/
theorem Rules.match_whole_uris_iff
    (compiled : Rules.compile regexDialect config version = .ok rules) :
    rules.all.map Rule.definition = config.limits.map Prod.snd ∧
      ∀ rule ∈ rules.all, rule.MatchesWhole ↔
        closesEarly rule.definition.pattern.toList = false :=
  ⟨definitions_of_compile compiled,
    fun _ member => Rule.matchesWhole_iff (compile_of_mem_all compiled member)⟩

/-- Of two limits with alternatives one matches whole uris and one does not. -/
theorem Rules.match_whole_uris_iff_alternatives :
    let limit (id pattern : String) : Definition :=
      ⟨id, "/", pattern, [.any], .second, 1⟩
    let config : Config :=
      ⟨[⟨"g", true, [], [limit "whole" "/a|/b", limit "split" "a)|(b"]⟩], none⟩
    ∃ rules, Rules.compile regexDialect config 1 = .ok rules ∧
      ∀ rule ∈ rules.all,
        rule.MatchesWhole ↔ rule.definition = limit "whole" "/a|/b" := by
  intro limit config
  have accepted : (Rules.compile regexDialect config 1).isOk = true := by
    decide +kernel
  cases compiled : Rules.compile regexDialect config 1 with
  | error fault =>
      rw [compiled] at accepted
      cases accepted
  | ok rules =>
      rcases Rules.match_whole_uris_iff compiled with ⟨definitions, whole⟩
      refine ⟨rules, rfl, fun rule member => (whole rule member).trans ?_⟩
      have among := List.mem_map_of_mem (f := Rule.definition) member
      rw [definitions] at among
      rcases List.mem_cons.1 among with same | others
      · rw [same]
        decide +kernel
      · rw [List.mem_singleton.1 others]
        decide +kernel

/--
A pattern that is no expression is accepted, and its rule counts a uri of which
only the start is among the alternatives.
-/
theorem Rules.counts_part_of_uri :
    let config : Config :=
      ⟨[⟨"g", true, [], [⟨"split", "/", "a)|(b", [.any], .second, 1⟩]⟩], none⟩
    ∃ rules, Rules.compile regexDialect config 1 = .ok rules ∧
      ∃ rule ∈ rules.all, Regex.ofPattern? rule.definition.pattern.toList = none ∧
        rule.counts "ax" .get = true ∧ ¬ rule.MatchesWhole := by
  intro config
  have counted : (Rules.compile regexDialect config 1).toOption.map
      (fun rules => rules.all.map fun rule =>
        (rule.definition.pattern, rule.counts "ax" .get)) =
        some [("a)|(b", true)] := by
    decide +kernel
  have refused : Regex.ofPattern? "a)|(b".toList = none := by decide +kernel
  cases compiled : Rules.compile regexDialect config 1 with
  | error fault =>
      rw [compiled] at counted
      cases counted
  | ok rules =>
      rw [compiled] at counted
      have all := Option.some.inj counted
      rcases List.map_eq_singleton_iff.1 all with ⟨rule, alone, same⟩
      rcases Prod.mk.inj same with ⟨pattern, counts⟩
      have member : rule ∈ rules.all := by
        rw [alone]
        exact List.mem_cons_self
      rw [← pattern] at refused
      refine ⟨rules, rfl, rule, member, refused, counts, ?_⟩
      rintro ⟨regex, read, _⟩
      rw [refused] at read
      cases read

end QuotaRing.Limit
