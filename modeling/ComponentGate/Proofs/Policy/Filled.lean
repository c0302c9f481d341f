import ComponentGate.Command.Execution
import ComponentGate.Proofs.Policy.Extension

/-! Empty entries. A policy that is read from a value has none, but an extension takes every text: the
empty one lets in the specifiers that begin with a double slash, which name a host, and no others. -/

namespace ComponentGate

namespace Intake

variable {α β : Type}

theorem Checked.both_eq_ok_iff {first : Checked α} {second : Checked β} {values : α × β} :
    first.both second = .ok values ↔ first = .ok values.1 ∧ second = .ok values.2 := by
  obtain ⟨value, other⟩ := values
  cases first <;> cases second <;> simp [both]

theorem Checked.within_eq_ok_iff {step : Step} {check : Checked α} {value : α} :
    check.within step = .ok value ↔ check = .ok value := by
  cases check <;> simp [within]

theorem Checked.map_eq_ok_iff {check : Checked α} {f : α → β} {value : β} :
    check.map f = .ok value ↔ ∃ source, check = .ok source ∧ f source = value := by
  cases check <;> simp [Except.map]

theorem Checked.all_eq_ok_iff {checks : List (Checked α)} {values : List α} :
    all checks = .ok values ↔ checks = values.map .ok := by
  induction checks generalizing values with
  | nil => cases values <;> simp [all]
  | cons first rest ih =>
    have split : all (first :: rest) = .ok values ↔
        ∃ value others, first = .ok value ∧ all rest = .ok others ∧ value :: others = values := by
      cases first <;> cases h : all rest <;> simp [all, combine, both, Except.map, h]
    rw [split]
    constructor
    · rintro ⟨value, others, rfl, passed, rfl⟩
      rw [ih.1 passed, List.map_cons]
    · intro same
      cases values with
      | nil => simp at same
      | cons value others =>
        obtain ⟨head, tail⟩ := List.cons.inj same
        exact ⟨value, others, head, ih.2 tail, rfl⟩

theorem part_eq_ok_iff {entries : List (String × Json)} {key : String} {absent : Checked α}
    {check : Json → Checked α} {value : α} :
    part entries key absent check = .ok value ↔
      (∃ found, Entries.get? entries key = some found ∧ check found = .ok value) ∨
        Entries.get? entries key = none ∧ absent = .ok value := by
  rw [part]
  cases Entries.get? entries key <;> simp [Checked.within_eq_ok_iff]

theorem asText_eq_ok_iff {value : Json} {text : String} :
    asText value = .ok text ↔ value = .string text := by
  cases value <;> simp [asText, Checked.fail]

theorem asListOf_asText_eq_ok_iff {value : Json} {texts : List String} :
    asListOf asText value = .ok texts ↔ value = .array (texts.map Json.string) := by
  cases value with
  | array items =>
    rw [asListOf, Checked.all_eq_ok_iff, Json.array.injEq, List.ext_getElem?_iff,
      List.ext_getElem?_iff]
    refine forall_congr' fun position => ?_
    rw [List.getElem?_mapIdx, List.getElem?_map, List.getElem?_map]
    cases items[position]? <;> cases texts[position]? <;>
      simp [Checked.within_eq_ok_iff, asText_eq_ok_iff]
  | _ => simp [asListOf, Checked.fail]

end Intake

namespace Policy

open Intake

variable {policy : Policy} {specifiers : List String}

/-- A policy without empty entries in its two lists. -/
structure Filled (policy : Policy) : Prop where
  allowed : "" ∉ policy.allowedImports
  prefixes : "" ∉ policy.aliasPrefixes

theorem filled_standard : standard.Filled := ⟨by decide, by decide⟩

theorem asEntries_eq_ok_iff {value : Json} {entries : List String} :
    asEntries value = .ok entries ↔ "" ∉ entries ∧ value = .array (entries.map Json.string) := by
  rw [← asListOf_asText_eq_ok_iff, asEntries]
  cases asListOf asText value with
  | error issues => simp
  | ok found =>
    have empties : found.any String.isEmpty = true ↔ "" ∈ found := by simp
    by_cases blank : "" ∈ found
    · simp only [empties.2 blank, if_true, Checked.fail, reduceCtorEq, false_iff, not_and]
      rintro filled same
      exact filled (Except.ok.inj same ▸ blank)
    · have none : found.any String.isEmpty = false := by rwa [← Bool.not_eq_true, empties]
      simp only [none, Bool.false_eq_true, if_false, iff_and_self]
      intro same
      exact Except.ok.inj same ▸ blank

theorem filled_of_part {entries : List (String × Json)} {key : String} {absent found : List String}
    (filled : "" ∉ absent) (passed : part entries key (.ok absent) asEntries = .ok found) :
    "" ∉ found := by
  rcases part_eq_ok_iff.1 passed with ⟨_, _, checked⟩ | ⟨_, same⟩
  · exact (asEntries_eq_ok_iff.1 checked).1
  · exact Except.ok.inj same ▸ filled

theorem ofEntries_eq_ok_iff {entries : List (String × Json)} :
    ofEntries entries = .ok policy ↔
      part entries "allowed_imports" (.ok standard.allowedImports) asEntries =
          .ok policy.allowedImports ∧
        part entries "alias_prefixes" (.ok standard.aliasPrefixes) asEntries =
          .ok policy.aliasPrefixes ∧
        part entries "aliases" (.ok standard.aliases) (asEntriesOf asText) = .ok policy.aliases ∧
        onlyKnown ["allowed_imports", "alias_prefixes", "aliases"] entries = .ok () := by
  obtain ⟨allowed, prefixes, aliases⟩ := policy
  rw [ofEntries, Checked.map_eq_ok_iff]
  constructor
  · rintro ⟨values, passed, same⟩
    rw [Checked.both_eq_ok_iff, Checked.both_eq_ok_iff, Checked.both_eq_ok_iff] at passed
    obtain ⟨rfl, rfl, rfl⟩ := Policy.mk.inj same
    exact ⟨passed.1.1.1, passed.1.1.2, passed.1.2, passed.2⟩
  · rintro ⟨first, second, third, known⟩
    refine ⟨(((allowed, prefixes), aliases), ()), ?_, rfl⟩
    simp only [Checked.both_eq_ok_iff]
    exact ⟨⟨⟨first, second⟩, third⟩, known⟩

theorem filled_of_value {value : Json} (built : ofValue value = .ok policy) : policy.Filled := by
  cases value with
  | object entries =>
    have parts := ofEntries_eq_ok_iff.1 built
    exact ⟨filled_of_part filled_standard.allowed parts.1,
      filled_of_part filled_standard.prefixes parts.2.1⟩
  | _ => simp [ofValue, asRecord, Checked.fail] at built

/-- A value that spells a policy. -/
def toValue (policy : Policy) : Json :=
  .object [("allowed_imports", .array (policy.allowedImports.map Json.string)),
    ("alias_prefixes", .array (policy.aliasPrefixes.map Json.string)),
    ("aliases", .object (policy.aliases.map fun entry => (entry.1, .string entry.2)))]

/-- The checks let every policy pass that has no empty entries. -/
theorem ofValue_toValue (filled : policy.Filled) : ofValue policy.toValue = .ok policy := by
  refine ofEntries_eq_ok_iff.2 ⟨?_, ?_, ?_, rfl⟩
  · exact part_eq_ok_iff.2 (.inl ⟨_, rfl, asEntries_eq_ok_iff.2 ⟨filled.allowed, rfl⟩⟩)
  · exact part_eq_ok_iff.2 (.inl ⟨_, rfl, asEntries_eq_ok_iff.2 ⟨filled.prefixes, rfl⟩⟩)
  · refine part_eq_ok_iff.2 (.inl ⟨_, rfl, ?_⟩)
    rw [asEntriesOf, Checked.all_eq_ok_iff, List.map_map]
    conv_rhs => rw [← List.map_id policy.aliases, List.map_map]
    rfl

theorem mem_foldl_withAllowed {entry : String} {extensions : List (List String)} :
    entry ∈ (extensions.foldl withAllowed policy).allowedImports ↔
      entry ∈ policy.allowedImports ∨ ∃ specifiers ∈ extensions, entry ∈ specifiers := by
  induction extensions generalizing policy with
  | nil => simp
  | cons specifiers rest ih =>
    rw [List.foldl_cons, ih, withAllowed, mem_distinct, List.mem_append]
    simp [or_assoc]

end Policy

namespace Specifier

variable {policy : Policy} {specifier : String}

theorem startsWith_slash (doubled : startsWith specifier "//" = true) :
    startsWith specifier "/" = true := by
  rw [startsWith, List.isPrefixOf_iff_prefix] at doubled ⊢
  exact (List.prefix_append ['/'] ['/']).trans doubled

theorem ne_empty_of_startsWith (doubled : startsWith specifier "//" = true) : specifier ≠ "" := by
  rintro rfl
  exact absurd doubled (by decide)

theorem matchesEntry_empty : matchesEntry specifier "" = (specifier == "" || startsWith specifier "/") :=
  rfl

/-- The empty entry matters to specifiers that begin with a double slash only. -/
theorem isAllowed_iff : isAllowed policy specifier = true ↔
    specifier ≠ "" ∧ (isRelative specifier = true ∨
      (∃ start ∈ policy.localPrefixes, startsWith specifier start = true) ∨
      (∃ entry ∈ policy.allowedImports, entry ≠ "" ∧ matchesEntry specifier entry = true) ∨
      startsWith specifier "//" = true ∧ "" ∈ policy.allowedImports) := by
  simp only [isAllowed, Bool.and_eq_true, Bool.or_eq_true, decide_eq_true_eq, List.any_eq_true,
    or_assoc]
  refine and_congr_right fun named => or_congr_right' fun absolute => or_congr_right ?_
  constructor
  · rintro ⟨entry, listed, matched⟩
    by_cases blank : entry = ""
    · subst blank
      rw [matchesEntry_empty, Bool.or_eq_true, beq_iff_eq] at matched
      have rooted := matched.resolve_left named
      -- a path from the root is relative, unless it has two slashes
      have doubled : startsWith specifier "//" = true := by
        simpa [isRelative, rooted] using absolute
      exact .inr ⟨doubled, listed⟩
    · exact .inl ⟨entry, listed, blank, matched⟩
  · rintro (⟨entry, listed, _, matched⟩ | ⟨doubled, listed⟩)
    · exact ⟨entry, listed, matched⟩
    · exact ⟨"", listed, by rw [matchesEntry_empty, startsWith_slash doubled, Bool.or_true]⟩

end Specifier

/-- A policy from the command line is a filled one, extended by what the command line allows. -/
theorem Command.exists_of_loadPolicy {file : Option ByteArray} {allowed : List String}
    {loaded : Policy} (passed : loadPolicy file allowed = .ok loaded) :
    ∃ policy : Policy, policy.Filled ∧
      loaded = if allowed.isEmpty then policy else policy.withAllowed allowed := by
  cases file with
  | none => exact ⟨.standard, Policy.filled_standard, (Except.ok.inj passed).symm⟩
  | some bytes =>
    cases read : loadText bytes with
    | error error => simp [loadPolicy, read, bind, Except.bind] at passed
    | ok text =>
      cases checked : Policy.ofText text with
      | error issues =>
        simp [loadPolicy, read, checked, Except.mapError, bind, Except.bind] at passed
      | ok policy =>
        refine ⟨policy, ?_, ?_⟩
        · rw [Policy.ofText] at checked
          split at checked
          · exact Policy.filled_of_value checked
          · simp [Intake.Checked.fail] at checked
        · simpa [loadPolicy, read, checked, Except.mapError, bind, Except.bind, pure,
            Except.pure] using passed.symm

/-- A policy that a value spells and that is then extended any number of times has an empty entry
exactly when one of the extensions brings it, and lets a specifier that begins with a double slash pass
exactly when it begins with a local prefix, an entry matches it that is not empty, or an extension
brings the empty entry. A policy from the command line has an empty entry exactly when the command line
allows it. -/
theorem empty_entry_iff_extended {value : Json} {policy : Policy}
    (built : Policy.ofValue value = .ok policy) (extensions : List (List String)) :
    ("" ∈ (extensions.foldl Policy.withAllowed policy).allowedImports ↔
        ∃ specifiers ∈ extensions, "" ∈ specifiers) ∧
      (∀ specifier, Specifier.startsWith specifier "//" = true →
        (Specifier.isAllowed (extensions.foldl Policy.withAllowed policy) specifier = true ↔
          (∃ start ∈ (extensions.foldl Policy.withAllowed policy).localPrefixes,
            Specifier.startsWith specifier start = true) ∨
          (∃ entry ∈ (extensions.foldl Policy.withAllowed policy).allowedImports,
            entry ≠ "" ∧ Specifier.matchesEntry specifier entry = true) ∨
          ∃ specifiers ∈ extensions, "" ∈ specifiers)) ∧
      ∀ file allowed loaded, Command.loadPolicy file allowed = .ok loaded →
        ("" ∈ loaded.allowedImports ↔ "" ∈ allowed) := by
  have blank : "" ∈ (extensions.foldl Policy.withAllowed policy).allowedImports ↔
      ∃ specifiers ∈ extensions, "" ∈ specifiers := by
    rw [Policy.mem_foldl_withAllowed]
    exact or_iff_right (Policy.filled_of_value built).allowed
  refine ⟨blank, fun specifier doubled => ?_, fun file allowed loaded passed => ?_⟩
  · have absolute : Specifier.isRelative specifier = false := by
      rw [Specifier.isRelative, doubled, Bool.not_true, Bool.false_and]
    rw [Specifier.isAllowed_iff, blank, absolute]
    simp [Specifier.ne_empty_of_startsWith doubled, doubled]
  · obtain ⟨base, filled, rfl⟩ := Command.exists_of_loadPolicy passed
    have absent := filled.allowed
    cases allowed with
    | nil => simpa using absent
    | cons first rest =>
      have extended := @Policy.mem_foldl_withAllowed base "" [first :: rest]
      simpa [absent] using extended

/-- A policy with packages and an alias of its own, and two extensions. -/
def extendedPolicy : Policy where
  allowedImports := ["react", "@radix-ui/*"]
  aliasPrefixes := ["@/"]
  aliases := [("//cdn.local/*", "vendor/*")]

/-- The second extension brings the empty entry, and with it every host. -/
theorem extendedPolicy_lets_hosts_in :
    Policy.ofValue extendedPolicy.toValue = .ok extendedPolicy ∧
      ("" ∈ ([["lodash"], ["", "react"]].foldl Policy.withAllowed extendedPolicy).allowedImports ↔
        ∃ specifiers ∈ [["lodash"], ["", "react"]], "" ∈ specifiers) ∧
      Specifier.isAllowed ([["lodash"], ["", "react"]].foldl Policy.withAllowed extendedPolicy)
        "//cdn.example/x.js" = true ∧
      "" ∉ (Policy.standard.withAllowed ["lodash"]).allowedImports := by
  have built : Policy.ofValue extendedPolicy.toValue = .ok extendedPolicy := rfl
  have extended := empty_entry_iff_extended built [["lodash"], ["", "react"]]
  refine ⟨built, extended.1, ?_, ?_⟩
  · exact (extended.2.1 _ (by decide)).2 (.inr (.inr ⟨["", "react"], by decide⟩))
  · exact fun listed => absurd ((extended.2.2 none ["lodash"] _ rfl).1 listed) (by decide)

/-- The standard policy with the empty entry allows a host that no prefix and no other entry allows. -/
theorem blank_extension_lets_host_in :
    Policy.ofValue (.object []) = .ok .standard ∧
      "" ∈ (Policy.standard.withAllowed [""]).allowedImports ∧
      Specifier.isAllowed (Policy.standard.withAllowed [""]) "//cdn.example/x.js" = true ∧
      (∀ start ∈ (Policy.standard.withAllowed [""]).localPrefixes,
        Specifier.startsWith "//cdn.example/x.js" start = false) ∧
      ∀ entry ∈ (Policy.standard.withAllowed [""]).allowedImports,
        entry ≠ "" → Specifier.matchesEntry "//cdn.example/x.js" entry = false := by
  refine ⟨rfl, ?_⟩
  decide +kernel

end ComponentGate
