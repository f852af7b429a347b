import Mathlib.Data.List.Nodup
import XmlTypes.Configuration
import XmlTypes.Proofs.Tables
/-!
# Resolved namespaces

What a resolver answers follows from its rules alone where there is one for the reference: it is the
first rule of the first key that the reference may be looked up under. Otherwise a policy is asked,
and a name that it gives is remembered for the very pair of document and namespace. So, over a whole
series of requests, the names that are remembered are those that the policy has given, each once and
in the order in which it gave them.
-/

namespace XmlTypes

namespace Resolver

variable {es : List (NamespaceKey × String)} {r : Resolver} {source : Option String}
  {uri output : String} {key : NamespaceKey}

/-! ## Choice of a rule -/

/-- The keys that a rule for a reference may have, the most specific one first. Those of the
document are left out where there is no document, those of its file name where it has none. -/
def candidates (source : Option String) (uri : String) : List NamespaceKey :=
  let file := source.bind Uri.fileName?
  [source.map fun document => ⟨some document, some uri⟩,
    source.map fun document => ⟨some document, none⟩,
    file.map fun name => ⟨some name, some uri⟩,
    file.map fun name => ⟨some name, none⟩,
    some ⟨none, some uri⟩,
    some ⟨none, none⟩].filterMap id

/-- The output is that of the first rule of the first key for which there is a rule. -/
def Chosen (rules : List (NamespaceKey × String)) (keys : List NamespaceKey)
    (output : String) : Prop :=
  ∃ earlier key later, keys = earlier ++ key :: later ∧
    (∀ k ∈ earlier, ∀ rule ∈ rules, rule.1 ≠ k) ∧
    ∃ before after, rules = before ++ (key, output) :: after ∧ ∀ rule ∈ before, rule.1 ≠ key

theorem fallbacks_eq (source : Option String) (uri : String) :
    fallbacks source uri = candidates source uri := by
  unfold fallbacks candidates
  cases source with
  | none => rfl
  | some document => cases h : Uri.fileName? document <;> simp [keysOf, h]

theorem get?_ofEntries_eq_some :
    (Table.ofEntries es).get? key = some output ↔
      ∃ before after, es = before ++ (key, output) :: after ∧ ∀ e ∈ before, e.1 ≠ key := by
  rw [Table.get?_ofEntries, Table.get?, Option.map_eq_some_iff]
  constructor
  · rintro ⟨⟨k, a⟩, hfind, rfl⟩
    obtain ⟨hk, before, after, hes, hbefore⟩ := List.find?_eq_some_iff_append.1 hfind
    obtain rfl : k = key := by simpa using hk
    exact ⟨before, after, hes, fun e he => by simpa using hbefore e he⟩
  · rintro ⟨before, after, hes, hbefore⟩
    refine ⟨(key, output), List.find?_eq_some_iff_append.2 ⟨decide_eq_true rfl, ?_⟩, rfl⟩
    exact ⟨before, after, hes, fun e he => by simpa using hbefore e he⟩

theorem get?_ofEntries_eq_none :
    (Table.ofEntries es).get? key = none ↔ ∀ e ∈ es, e.1 ≠ key := by
  rw [Table.get?_ofEntries, Table.get?, Option.map_eq_none_iff, List.find?_eq_none]
  exact forall₂_congr fun e _ => by rw [decide_eq_true_eq]

/-- The rules of the resolver are found as among these entries. -/
def FindsRulesOf (r : Resolver) (es : List (NamespaceKey × String)) : Prop :=
  r.rules.get? = (Table.ofEntries es).get?

/-- A rule is found exactly if it is chosen. -/
theorem rule?_eq_some_iff (hr : r.FindsRulesOf es) :
    r.rule? source uri = some output ↔ Chosen es (candidates source uri) output := by
  rw [rule?, hr, fallbacks_eq, List.findSome?_eq_some_iff]
  constructor
  · rintro ⟨earlier, key, later, hkeys, hkey, hearlier⟩
    refine ⟨earlier, key, later, hkeys, fun k hk => ?_, get?_ofEntries_eq_some.1 hkey⟩
    exact get?_ofEntries_eq_none.1 (hearlier k hk)
  · rintro ⟨earlier, key, later, hkeys, hearlier, hrules⟩
    refine ⟨earlier, key, later, hkeys, get?_ofEntries_eq_some.2 hrules, fun k hk => ?_⟩
    exact get?_ofEntries_eq_none.2 (hearlier k hk)

/-- No rule is found exactly if none has one of the keys. -/
theorem rule?_eq_none_iff (hr : r.FindsRulesOf es) :
    r.rule? source uri = none ↔ ∀ e ∈ es, e.1 ∉ candidates source uri := by
  rw [rule?, hr, fallbacks_eq, List.findSome?_eq_none_iff]
  constructor
  · intro h e he hkey
    exact get?_ofEntries_eq_none.1 (h e.1 hkey) e he rfl
  · intro h k hk
    exact get?_ofEntries_eq_none.2 fun e he hkey => h e he (hkey ▸ hk)

/-- A rule with one of the keys is there, so one is chosen. -/
theorem exists_chosen (hr : r.FindsRulesOf es) (h : ∃ e ∈ es, e.1 ∈ candidates source uri) :
    ∃ output, r.rule? source uri = some output := by
  obtain ⟨e, he, hkey⟩ := h
  refine Option.ne_none_iff_exists'.1 fun hnone => ?_
  exact (rule?_eq_none_iff hr).1 hnone e he hkey

/-- A rule that is the first one for a reference is chosen for it. -/
theorem chosen_concat (hkey : key ∈ candidates source uri)
    (h : ∀ rule ∈ es, rule.1 ∉ candidates source uri) :
    Chosen (es ++ [(key, output)]) (candidates source uri) output := by
  obtain ⟨earlier, later, hkeys, hearlier⟩ := List.eq_append_cons_of_mem hkey
  refine ⟨earlier, key, later, hkeys, fun k hk rule hrule => ?_, es, [], rfl, ?_⟩
  · rcases List.mem_append.1 hrule with hrule | hrule
    · rintro rfl
      exact h rule hrule (hkeys ▸ List.mem_append_left _ hk)
    · obtain rfl := List.mem_singleton.1 hrule
      rintro rfl
      exact hearlier hk
  · rintro rule hrule rfl
    exact h rule hrule hkey

/-! ## One request -/

theorem resolve_of_rule (h : r.rule? source uri = some output) :
    r.resolve source uri = (.ok output, r) := by
  simp only [resolve, h]

/-- Without a policy only a rule can help. -/
theorem resolve_ofRules (es : List (NamespaceKey × String)) (source : Option String)
    (uri : String) :
    (ofRules es).resolve source uri =
      (((ofRules es).rule? source uri).elim (.error (.unmapped uri source)) .ok, ofRules es) := by
  cases h : (ofRules es).rule? source uri with
  | some output => exact resolve_of_rule h
  | none =>
    have hmemo : (ofRules es).generated.get? ⟨source, some uri⟩ = none := rfl
    have hpolicy : (ofRules es).policy = none := rfl
    simp only [resolve, h, hmemo, hpolicy, Option.elim]

end Resolver

/-- The output for a reference is that of the first rule, in the order of the configuration, of the
first key that a rule has. Where no rule has one of the keys the failure tells the namespace and the
document. The resolver stays as it is. -/
theorem Configuration.resolve_first_rule (c : Configuration) (source : Option String)
    (uri : String) :
    let rules := c.rules.map fun rule => (rule.key, rule.output)
    let keys := Resolver.candidates source uri
    let outcome := c.resolver.resolve source uri
    (∀ output, outcome.1 = .ok output ↔ Resolver.Chosen rules keys output) ∧
      (∀ failure, outcome.1 = .error failure ↔
        (∀ rule ∈ c.rules, rule.key ∉ keys) ∧ failure = .unmapped uri source) ∧
      outcome.2 = c.resolver := by
  intro rules keys outcome
  have hfinds : c.resolver.FindsRulesOf rules := by
    funext key
    exact Table.get?_ofEntries c.ruleTable.entries key
  have hkeys : c.resolver.rule? source uri = none ↔ ∀ rule ∈ c.rules, rule.key ∉ keys := by
    rw [Resolver.rule?_eq_none_iff hfinds]
    exact List.forall_mem_map
  have houtcome : outcome = ((c.resolver.rule? source uri).elim (.error (.unmapped uri source)) .ok,
      c.resolver) := Resolver.resolve_ofRules c.ruleTable.entries source uri
  refine ⟨fun output => ?_, fun failure => ?_, congrArg Prod.snd houtcome⟩
  · rw [houtcome, ← Resolver.rule?_eq_some_iff hfinds]
    cases c.resolver.rule? source uri <;> simp
  · rw [houtcome, ← hkeys]
    cases c.resolver.rule? source uri <;> simp [eq_comm]

namespace Resolver

variable {es : List (NamespaceKey × String)} {r : Resolver} {source : Option String}
  {uri output : String} {key : NamespaceKey} {policy : NamespacePolicy}

/-! ## Many requests -/

/-- What is asked of a resolver. -/
inductive Request
  | resolve (source : Option String) (uri : String)
  | addRule (key : NamespaceKey) (output : String)

/-- The rule that a request adds. -/
def Request.rule? : Request → Option (NamespaceKey × String)
  | resolve _ _ => none
  | addRule key output => some (key, output)

/-- The resolver after a request. -/
def serve (r : Resolver) : Request → Resolver
  | .resolve source uri => (r.resolve source uri).2
  | .addRule key output => r.addRule key output

/-- A resolver with rules and a policy, after some requests. -/
def after (rules : List (NamespaceKey × String)) (policy : NamespacePolicy)
    (requests : List Request) : Resolver :=
  requests.foldl serve { ofRules rules with policy := some policy }

/-- The name that the policy gives, with the key it is remembered for. -/
def answer? (policy : NamespacePolicy) (question : Option String × String) :
    Option (NamespaceKey × String) :=
  (policy question.1 question.2).map fun output => (⟨question.1, some question.2⟩, output)

/-- The questions that the policy has an answer to. -/
def answered (policy : NamespacePolicy) (questions : List (Option String × String)) :
    List (Option String × String) :=
  questions.filter fun question => (policy question.1 question.2).isSome

/-- The resolver has these rules and this policy, and remembers what the policy has answered. -/
structure Remembers (es : List (NamespaceKey × String)) (policy : NamespacePolicy)
    (r : Resolver) : Prop where
  rules : r.rules = .ofEntries es
  asks : r.policy = some policy
  generated : r.generated.entries = r.asked.filterMap (answer? policy)
  /-- Nothing that was answered is asked again. -/
  once : (answered policy r.asked).Nodup

theorem get?_answers (policy : NamespacePolicy) (source : Option String) (uri : String)
    (questions : List (Option String × String)) :
    (Table.mk (questions.filterMap (answer? policy))).get? ⟨source, some uri⟩ =
      if (source, uri) ∈ questions then policy source uri else none := by
  induction questions with
  | nil => rfl
  | cons question questions ih =>
    by_cases hq : (source, uri) = question
    · subst hq
      rw [if_pos List.mem_cons_self]
      cases hp : policy source uri with
      | none =>
        rw [List.filterMap_cons_none (by simp [answer?, hp]), ih, hp, ite_self]
      | some output =>
        rw [List.filterMap_cons_some (b := (⟨source, some uri⟩, output)) (by simp [answer?, hp])]
        simp [Table.get?]
    · have hmem : (source, uri) ∈ question :: questions ↔ (source, uri) ∈ questions := by
        simp [hq]
      simp only [hmem]
      cases hp : policy question.1 question.2 with
      | none => rw [List.filterMap_cons_none (by simp [answer?, hp]), ih]
      | some output =>
        rw [List.filterMap_cons_some (b := (⟨question.1, some question.2⟩, output))
          (by simp [answer?, hp]), ← ih]
        have hkey : (⟨question.1, some question.2⟩ : NamespaceKey) ≠ ⟨source, some uri⟩ := by
          intro h
          injection h with hsource huri
          exact hq (Prod.ext hsource.symm (Option.some.inj huri).symm)
        simp [Table.get?, hkey]

namespace Remembers

theorem findsRulesOf (hr : Remembers es policy r) : r.FindsRulesOf es := by
  rw [FindsRulesOf, hr.rules]

/-- What is remembered for a reference is what the policy gives, if it has been asked. -/
theorem get?_generated (hr : Remembers es policy r) (source : Option String) (uri : String) :
    r.generated.get? ⟨source, some uri⟩ =
      if (source, uri) ∈ r.asked then policy source uri else none := by
  rw [← get?_answers, ← hr.generated]

/-- Where no rule is found the answer is the policy's, whether it has to be asked or not. -/
theorem resolve_eq (hr : Remembers es policy r) (h : r.rule? source uri = none) :
    r.resolve source uri = match policy source uri with
      | some output => (.ok output, if (source, uri) ∈ r.asked then r else
          { r with
            asked := r.asked ++ [(source, uri)]
            generated := ⟨r.generated.entries ++ [(⟨source, some uri⟩, output)]⟩ })
      | none => (.error (.unmapped uri source),
          { r with asked := r.asked ++ [(source, uri)] }) := by
  have hmemo := hr.get?_generated source uri
  unfold resolve
  cases hp : policy source uri with
  | none =>
    rw [hp, ite_self] at hmemo
    simp only [h, hmemo, hr.asks, hp]
  | some output =>
    rw [hp] at hmemo
    by_cases hasked : (source, uri) ∈ r.asked
    · rw [if_pos hasked] at hmemo
      simp only [h, hmemo, if_pos hasked]
    · rw [if_neg hasked] at hmemo
      have hinsert : r.generated.insert ⟨source, some uri⟩ output =
          ⟨r.generated.entries ++ [(⟨source, some uri⟩, output)]⟩ := by
        rw [Table.insert, if_neg (by simp [Table.contains_eq, hmemo])]
      simp only [h, hmemo, hr.asks, hp, if_neg hasked, hinsert]

/-! ### Steps -/

theorem resolve (hr : Remembers es policy r) (source : Option String) (uri : String) :
    Remembers es policy (r.resolve source uri).2 := by
  cases h : r.rule? source uri with
  | some output => rwa [resolve_of_rule h]
  | none =>
    rw [hr.resolve_eq h]
    cases hp : policy source uri with
    | none =>
      have hanswer : answer? policy (source, uri) = none := by simp [answer?, hp]
      refine ⟨hr.rules, hr.asks, ?_, ?_⟩
      · simp [hanswer, hr.generated]
      · simpa [answered, hp] using hr.once
    | some output =>
      have hanswer : answer? policy (source, uri) = some (⟨source, some uri⟩, output) := by
        simp [answer?, hp]
      dsimp only
      split
      · exact hr
      · rename_i hasked
        refine ⟨hr.rules, hr.asks, ?_, ?_⟩
        · simp [hanswer, hr.generated]
        · -- The new answer is to a question that has not been asked.
          have hnew : (source, uri) ∉ answered policy r.asked := fun h =>
            hasked (List.mem_filter.1 h).1
          have hanswered : answered policy (r.asked ++ [(source, uri)]) =
              answered policy r.asked ++ [(source, uri)] := by
            simp [answered, hp]
          rw [hanswered]
          exact List.concat_eq_append ▸ hr.once.concat hnew

theorem addRule (hr : Remembers es policy r) (key : NamespaceKey) (output : String) :
    Remembers (es ++ [(key, output)]) policy (r.addRule key output) := by
  refine ⟨?_, hr.asks, hr.generated, hr.once⟩
  rw [Resolver.addRule, hr.rules, Table.ofEntries, Table.ofEntries, List.foldl_append]
  rfl

/-- A request may add its rule, and nothing else changes what is remembered. -/
theorem serve (hr : Remembers es policy r) (request : Request) :
    Remembers (es ++ request.rule?.toList) policy (r.serve request) := by
  cases request with
  | resolve source uri =>
    rw [Request.rule?, Option.toList_none, List.append_nil]
    exact hr.resolve source uri
  | addRule key output => exact hr.addRule key output

theorem foldl_serve (requests : List Request) :
    ∀ {es : List (NamespaceKey × String)} {r : Resolver}, Remembers es policy r →
      Remembers (es ++ requests.filterMap Request.rule?) policy
        (requests.foldl Resolver.serve r) := by
  induction requests with
  | nil =>
    intro es r hr
    rwa [List.filterMap_nil, List.append_nil]
  | cons request requests ih =>
    intro es r hr
    have h := ih (hr.serve request)
    rw [List.append_assoc] at h
    cases hrule : request.rule? <;> simpa [hrule] using h

end Remembers

theorem remembers_after (rules : List (NamespaceKey × String)) (policy : NamespacePolicy)
    (requests : List Request) :
    Remembers (rules ++ requests.filterMap Request.rule?) policy (after rules policy requests) :=
  Remembers.foldl_serve requests ⟨rfl, rfl, rfl, List.nodup_nil⟩

/-! ### What is remembered and what is asked -/

/-- What the policy is asked, what becomes of its answers and how rules come before them. -/
structure AsksOnce (rules : List (NamespaceKey × String)) (policy : NamespacePolicy)
    (r : Resolver) : Prop where
  /-- The policy is asked exactly where no rule can be chosen and it has not answered before. -/
  asked_resolve : ∀ source uri, (r.resolve source uri).2.asked =
    if (∀ rule ∈ rules, rule.1 ∉ candidates source uri) ∧
        ¬((source, uri) ∈ r.asked ∧ (policy source uri).isSome)
    then r.asked ++ [(source, uri)] else r.asked
  /-- Where it is not asked any other policy would do, or none at all. -/
  unasked : ∀ source uri other, (r.resolve source uri).2.asked = r.asked →
    (Resolver.resolve { r with policy := other } source uri).1 = (r.resolve source uri).1
  /-- A rule is added without asking. -/
  asked_addRule : ∀ key output, (r.addRule key output).asked = r.asked
  /-- No question is answered twice. -/
  once : (answered policy r.asked).Nodup
  /-- What is remembered are the answers, in their order. -/
  generated : r.generated.entries = r.asked.filterMap (answer? policy)
  /-- A rule that can be chosen is the answer, whatever is remembered, and nothing changes. -/
  by_rule : ∀ source uri, (∃ rule ∈ rules, rule.1 ∈ candidates source uri) →
    ∃ output, Chosen rules (candidates source uri) output ∧ r.resolve source uri = (.ok output, r)
  /-- Where there is none the answer is what the policy gives. -/
  by_policy : ∀ source uri, (∀ rule ∈ rules, rule.1 ∉ candidates source uri) →
    (r.resolve source uri).1 = (policy source uri).elim (.error (.unmapped uri source)) .ok
  /-- The first rule for a reference is the answer from then on. -/
  added : ∀ key output source uri, (∀ rule ∈ rules, rule.1 ∉ candidates source uri) →
    key ∈ candidates source uri →
    (r.addRule key output).resolve source uri = (.ok output, r.addRule key output)
  /-- A second rule for a key changes nothing. -/
  kept : ∀ key output, (∃ rule ∈ rules, rule.1 = key) → r.addRule key output = r
  /-- A failure leaves the rules and what is remembered. -/
  failed : ∀ source uri failure, (r.resolve source uri).1 = .error failure →
    (r.resolve source uri).2.rules = r.rules ∧
      (r.resolve source uri).2.generated = r.generated

/-- Only what is asked depends on the policy. -/
theorem resolve_of_not_asked (hpolicy : r.policy = some policy)
    (h : (r.resolve source uri).2.asked = r.asked) (other : Option NamespacePolicy) :
    (Resolver.resolve { r with policy := other } source uri).1 = (r.resolve source uri).1 := by
  cases hrule : r.rule? source uri with
  | some output =>
    have hother : Resolver.rule? { r with policy := other } source uri = some output := hrule
    rw [resolve_of_rule hrule, resolve_of_rule hother]
  | none =>
    have hother : Resolver.rule? { r with policy := other } source uri = none := hrule
    cases hmemo : r.generated.get? ⟨source, some uri⟩ with
    | some output => simp only [Resolver.resolve, hrule, hother, hmemo]
    | none =>
      -- With nothing remembered the question would be put.
      have hasked : (r.resolve source uri).2.asked = r.asked ++ [(source, uri)] := by
        simp only [Resolver.resolve, hrule, hmemo, hpolicy]
        cases policy source uri <;> rfl
      rw [hasked] at h
      exact absurd h (by simp)

namespace Remembers

theorem asked_resolve (hr : Remembers es policy r) (source : Option String) (uri : String) :
    (r.resolve source uri).2.asked =
      if (∀ rule ∈ es, rule.1 ∉ candidates source uri) ∧
          ¬((source, uri) ∈ r.asked ∧ (policy source uri).isSome)
      then r.asked ++ [(source, uri)] else r.asked := by
  simp only [← rule?_eq_none_iff hr.findsRulesOf]
  cases h : r.rule? source uri with
  | some output => simp [resolve_of_rule h]
  | none =>
    rw [hr.resolve_eq h]
    cases policy source uri with
    | none => simp
    | some output => by_cases hasked : (source, uri) ∈ r.asked <;> simp [hasked]

theorem addRule_eq_self (hr : Remembers es policy r) (h : ∃ rule ∈ es, rule.1 = key) :
    r.addRule key output = r := by
  obtain ⟨rule, hrule, hkey⟩ := h
  have hcontains : r.rules.contains key = true := by
    rw [hr.rules, Table.contains_iff]
    exact Option.ne_none_iff_exists'.1 fun hnone =>
      get?_ofEntries_eq_none.1 hnone rule hrule hkey
  rw [Resolver.addRule, Table.insertNew, if_pos hcontains]

theorem of_error (hr : Remembers es policy r) {failure : Failure}
    (h : (r.resolve source uri).1 = .error failure) :
    (r.resolve source uri).2.rules = r.rules ∧
      (r.resolve source uri).2.generated = r.generated := by
  cases hrule : r.rule? source uri with
  | some output =>
    rw [resolve_of_rule hrule] at h
    exact absurd h nofun
  | none =>
    rw [hr.resolve_eq hrule] at h ⊢
    cases hp : policy source uri with
    | none => exact ⟨rfl, rfl⟩
    | some output =>
      rw [hp] at h
      exact absurd h nofun

end Remembers

/-- Whatever requests there have been, with the rules that were there and those that they added. -/
theorem policy_asked_once (initial : List (NamespaceKey × String)) (policy : NamespacePolicy)
    (requests : List Request) :
    AsksOnce (initial ++ requests.filterMap Request.rule?) policy
      (after initial policy requests) := by
  have hr := remembers_after initial policy requests
  refine
    { asked_resolve := hr.asked_resolve
      unasked := fun _ _ other h => resolve_of_not_asked hr.asks h other
      asked_addRule := fun _ _ => rfl
      once := hr.once
      generated := hr.generated
      by_rule := fun source uri h => ?rule
      by_policy := fun source uri h => ?policy
      added := fun key output source uri h hkey => ?added
      kept := fun _ _ h => hr.addRule_eq_self h
      failed := fun _ _ _ h => hr.of_error h }
  case rule =>
    obtain ⟨output, hrule⟩ := exists_chosen hr.findsRulesOf h
    exact ⟨output, (rule?_eq_some_iff hr.findsRulesOf).1 hrule, resolve_of_rule hrule⟩
  case policy =>
    rw [hr.resolve_eq ((rule?_eq_none_iff hr.findsRulesOf).2 h)]
    cases policy source uri <;> rfl
  case added =>
    apply resolve_of_rule
    apply (rule?_eq_some_iff (hr.addRule key output).findsRulesOf).2
    exact chosen_concat hkey h

/-- Asked twice, the policy is heard once, and a rule for another document does not matter. -/
example :
    (after [] (fun _ uri => some uri)
      [.resolve none "u", .addRule (.ofSource "a.xsd") "A", .resolve none "u"]).asked =
      [(none, "u")] := by decide

end Resolver

end XmlTypes
