import Mathlib.Logic.Relation
import Routebook.Proofs.Config.Acceptance

/-!
# The arrangement of a configuration

The keys of a configuration may be permuted, unknown keys may come and go, and a field may change
its spelling, at the top and inside of structured routes.  None of this changes whether the
configuration is accepted, nor what comes of it (`ClientConfig.arrangement_free`).  What counts is
the order of the names under each method: it is the order of the routes.
-/

namespace Routebook

set_option autoImplicit false

/-! ## Where keys lead -/

namespace Value

theorem lookup_append (key : Value) (before after : Entries) :
    lookup key (before ++ after) = (lookup key before).or (lookup key after) := by
  induction before with
  | nil => rfl
  | cons entry rest inductionHypothesis =>
      by_cases equal : same key entry.1 = true <;> simp [lookup, equal, inductionHypothesis]

/-- A permuted mapping is a mapping. -/
theorem Keyed.perm {entries others : Entries} (keyed : Keyed entries)
    (permuted : entries.Perm others) : Keyed others := by
  have apart : entries.Pairwise fun first second =>
      ¬same first.1 second.1 = true ∧ ¬same second.1 first.1 = true := by
    refine keyed.distinct.imp_of_mem fun {first second} present _ different => ⟨different, ?_⟩
    rwa [← same_comm first.1 second.1 (keyed.hashable first present)]
  constructor
  · intro entry present
    exact keyed.hashable entry (permuted.mem_iff.mpr present)
  · exact ((permuted.pairwise_iff fun both => both.symm).mp apart).imp fun both => both.1

/-- **Where a key leads does not depend on the order of a mapping.** -/
theorem lookup_perm {entries others : Entries} (permuted : entries.Perm others)
    (keyed : Keyed entries) {key : Value} (hashable : key.isHashable = true) :
    lookup key entries = lookup key others := by
  induction permuted with
  | nil => rfl
  | cons entry _ inductionHypothesis => rw [lookup, lookup, inductionHypothesis keyed.tail]
  | swap first second rest =>
      simp only [lookup]
      by_cases leads : same key second.1 = true
      · have other : ¬same key first.1 = true := by
          rw [same_congr hashable keyed.head leads]
          exact keyed.apart first List.mem_cons_self
        simp [leads, other]
      · simp [leads]
  | trans earlier _ first second =>
      exact (first keyed).trans (second (keyed.perm earlier))

section Texts

variable {name : String} {key value : Value} {before after : Entries}

/-- An entry with another key makes no difference. -/
theorem lookupText_insert_of_ne (other : key ≠ .text name) :
    lookupText name (before ++ (key, value) :: after) = lookupText name (before ++ after) := by
  have different : ¬same (.text name) key = true := fun equal => other (Store.same_text.mp equal)
  simp [lookupText, lookup_append, lookup, different]

theorem lookupText_eq_none {entries : Entries}
    (absent : ∀ entry ∈ entries, entry.1 ≠ .text name) : lookupText name entries = none := by
  rw [lookupText, lookup_eq_none_iff]
  intro entry present equal
  exact absent entry present (Store.same_text.mp equal)

/-- An entry with the key, if there is none before it. -/
theorem lookupText_insert_self (absent : ∀ entry ∈ before ++ after, entry.1 ≠ .text name) :
    lookupText name (before ++ (.text name, value) :: after) = some value := by
  have first : lookupText name before = none :=
    lookupText_eq_none fun entry present => absent entry (List.mem_append_left after present)
  have own : same (.text name) (.text name) = true := Store.same_text.mpr rfl
  rw [lookupText] at first
  simp [lookupText, lookup_append, first, lookup, own]

end Texts

end Value

namespace Schema

/-! ## Rearranging a mapping -/

/-- One mapping of fields is another one rearranged in one step. -/
inductive Rearranged (fields : List (String × String)) : Entries → Entries → Prop
  /-- The keys change their order. -/
  | permuted {entries others : Entries} (keyed : Value.Keyed entries)
      (permutation : entries.Perm others) : Rearranged fields entries others
  /-- An entry whose key is no field comes in. -/
  | unknown (before after : Entries) (key value : Value)
      (stranger : ∀ field ∈ fields, key ≠ .text field.1 ∧ key ≠ .text field.2) :
      Rearranged fields (before ++ after) (before ++ (key, value) :: after)
  /-- A field changes its spelling, and is there in no other one. -/
  | respelled (before after : Entries) (field : String × String) (listed : field ∈ fields)
      (value : Value)
      (alone : ∀ entry ∈ before ++ after,
        entry.1 ≠ .text field.1 ∧ entry.1 ≠ .text field.2) :
      Rearranged fields (before ++ (.text field.1, value) :: after)
        (before ++ (.text field.2, value) :: after)

/-- Two fields have no spelling in common. -/
def Distinct (first second : String × String) : Prop :=
  first.1 ≠ second.1 ∧ first.1 ≠ second.2 ∧ first.2 ≠ second.1 ∧ first.2 ≠ second.2

instance (first second : String × String) : Decidable (Distinct first second) :=
  inferInstanceAs (Decidable (_ ∧ _))

/-- **A rearranged mapping has the same values for its fields.** -/
theorem value?_of_rearranged {fields : List (String × String)}
    (distinct : ∀ first ∈ fields, ∀ second ∈ fields, first = second ∨ Distinct first second)
    {entries others : Entries} (step : Rearranged fields entries others) (field : String × String)
    (listed : field ∈ fields) : value? entries field = value? others field := by
  cases step with
  | permuted keyed permutation =>
      simp only [value?, Value.lookupText,
        Value.lookup_perm permutation keyed (rfl : (Value.text _).isHashable = true)]
  | unknown before after key value stranger =>
      obtain ⟨label, name⟩ := stranger field listed
      simp only [value?, Value.lookupText_insert_of_ne label, Value.lookupText_insert_of_ne name]
  | respelled before after changed present value alone =>
      rcases distinct changed present field listed with rfl | apart
      · have label := fun entry among => (alone entry among).1
        have name := fun entry among => (alone entry among).2
        by_cases alike : changed.1 = changed.2
        · rw [alike]
        · have other : Value.text changed.2 ≠ .text changed.1 := by simpa using Ne.symm alike
          have missing : Value.lookupText changed.1 (before ++ after) = none :=
            Value.lookupText_eq_none label
          simp [value?, Value.lookupText_insert_self label, Value.lookupText_insert_self name,
            Value.lookupText_insert_of_ne other, missing]
      · obtain ⟨first, second, third, fourth⟩ := apart
        simp only [value?, Value.lookupText_insert_of_ne (mt Value.text.inj first),
          Value.lookupText_insert_of_ne (mt Value.text.inj second),
          Value.lookupText_insert_of_ne (mt Value.text.inj third),
          Value.lookupText_insert_of_ne (mt Value.text.inj fourth)]

/-! ## Rearranging a configuration -/

/-- The fields of a configuration besides the methods, in both spellings. -/
def plainFields : List (String × String) :=
  [("root", "root"), ("parseJson", "parse_json"), ("encodeValues", "encode_values"),
   ("requestDefaults", "request_defaults")]

/-- The fields of a configuration, in both spellings. -/
def clientFields : List (String × String) :=
  plainFields ++ Method.all.map fun method => (method.key, method.key)

/-- One configuration is another one rearranged in one step, at the top or inside of a structured
route. -/
inductive Rearrangement : Entries → Entries → Prop
  | top {entries others : Entries} (step : Rearranged clientFields entries others) :
      Rearrangement entries others
  | inside (before after : Entries) (method : Method) {routes changedRoutes : Value}
      (earlier later : Entries) (name : Value) {route changedRoute : Value}
      {entries others : Entries}
      (routesOpened : routes.opened = .mapping (earlier ++ (name, route) :: later))
      (changedOpened : changedRoutes.opened = .mapping (earlier ++ (name, changedRoute) :: later))
      (routeOpened : route.opened = .mapping entries)
      (changedRouteOpened : changedRoute.opened = .mapping others)
      (step : Rearranged routeFields entries others) :
      Rearrangement (before ++ (.text method.key, routes) :: after)
        (before ++ (.text method.key, changedRoutes) :: after)

theorem key_injective {method other : Method} (same : method.key = other.key) : method = other := by
  revert same
  cases method <;> cases other <;> decide

/-- No method is spelled like a plain field. -/
theorem key_ne_plain (method : Method) :
    ∀ field ∈ plainFields, method.key ≠ field.1 ∧ method.key ≠ field.2 := by
  cases method <;> decide

theorem mem_clientFields (method : Method) : (method.key, method.key) ∈ clientFields := by
  cases method <;> decide

variable [Runtime]

/-- Configurations whose plain fields have the same values, and under whose methods the same comes
of the routes, are accepted alike. -/
theorem toOption_check_congr {entries others : Entries}
    (plain : ∀ field ∈ plainFields, value? entries field = value? others field)
    (routes : ∀ method, (checkRoutes entries method).toOption
      = (checkRoutes others method).toOption) :
    (check entries).toOption = (check others).toOption := by
  simp only [toOption_check, toOption_required placeless_checkRoot,
    toOption_optional placeless_checkTruth, toOption_optional placeless_checkDefaults, routes,
    plain ("root", "root") (by decide), plain ("parseJson", "parse_json") (by decide),
    plain ("encodeValues", "encode_values") (by decide),
    plain ("requestDefaults", "request_defaults") (by decide)]

/-- What comes of a structured route depends only on what comes of its entries. -/
theorem toOption_checkRoute_of_opened {route : Value} {entries : Entries}
    (opened : route.opened = .mapping entries) (place : List Place) :
    (checkRoute place route).toOption = acceptDetailed entries := by
  have noText : (checkText [] route).toOption = none := by
    cases route with
    | text text => cases opened
    | bytes bytes => cases opened
    | _ => rfl
  rw [toOption_checkRoute, noText, entries?_eq_some opened]
  rfl

theorem acceptDetailed_of_rearranged {entries others : Entries}
    (step : Rearranged routeFields entries others) :
    acceptDetailed entries = acceptDetailed others := by
  have values := value?_of_rearranged (by decide) step
  simp only [acceptDetailed, values ("pathPattern", "path_pattern") (by decide),
    values ("requestOptions", "request_options") (by decide)]

/-- What comes of the routes under a method, if one of them is exchanged for another of which the
same comes. -/
theorem acceptRoutes_congr {routes changedRoutes name route changedRoute : Value}
    {earlier later : Entries}
    (routesOpened : routes.opened = .mapping (earlier ++ (name, route) :: later))
    (changedOpened : changedRoutes.opened = .mapping (earlier ++ (name, changedRoute) :: later))
    (same : (checkRoute [] route).toOption = (checkRoute [] changedRoute).toOption) :
    acceptRoutes routes = acceptRoutes changedRoutes := by
  have entry : acceptEntry (fun value => (checkRoute [] value).toOption) (name, route)
      = acceptEntry (fun value => (checkRoute [] value).toOption) (name, changedRoute) := by
    simp only [acceptEntry, same]
  simp only [acceptRoutes, entries?_eq_some routesOpened, entries?_eq_some changedOpened,
    Option.bind_some, List.mapM_append, List.mapM_cons, entry]

/-- **A rearranged configuration is accepted alike.** -/
theorem toOption_check_of_rearrangement {entries others : Entries}
    (step : Rearrangement entries others) :
    (check entries).toOption = (check others).toOption := by
  cases step with
  | top step =>
      have values := value?_of_rearranged (by decide) step
      apply toOption_check_congr
      · intro field listed
        exact values field (List.mem_append_left _ listed)
      · intro method
        rw [toOption_checkRoutes, toOption_checkRoutes, values _ (mem_clientFields method)]
  | @inside before after method routes changedRoutes earlier later name route changedRoute entries
      others routesOpened changedOpened routeOpened changedRouteOpened step =>
      have same : acceptRoutes routes = acceptRoutes changedRoutes := by
        apply acceptRoutes_congr routesOpened changedOpened
        rw [toOption_checkRoute_of_opened routeOpened,
          toOption_checkRoute_of_opened changedRouteOpened, acceptDetailed_of_rearranged step]
      apply toOption_check_congr
      · intro field listed
        obtain ⟨label, name⟩ := key_ne_plain method field listed
        simp only [value?, Value.lookupText_insert_of_ne (mt Value.text.inj label),
          Value.lookupText_insert_of_ne (mt Value.text.inj name)]
      · intro other
        simp only [toOption_checkRoutes, value?, Option.or_self]
        by_cases own : method = other
        · have equal : Value.same (.text other.key) (.text other.key) = true :=
            Store.same_text.mpr rfl
          subst own
          simp only [Value.lookupText, Value.lookup_append, Value.lookup, equal, if_true]
          cases Value.lookup (.text method.key) before with
          | some value => rfl
          | none => exact same
        · have apart : Value.text method.key ≠ .text other.key :=
            fun equal => own (key_injective (Value.text.inj equal))
          simp only [Value.lookupText_insert_of_ne apart]

theorem toOption_check_of_eqvGen {entries others : Entries}
    (rearranged : Relation.EqvGen Rearrangement entries others) :
    (check entries).toOption = (check others).toOption := by
  induction rearranged with
  | rel _ _ step => exact toOption_check_of_rearrangement step
  | refl _ => rfl
  | symm _ _ _ inductionHypothesis => exact inductionHypothesis.symm
  | trans _ _ _ _ _ first second => exact first.trans second

end Schema

namespace ClientConfig

section Runtimes

variable [Runtime]

/-- A configuration is made of a mapping when the schema accepts its entries. -/
theorem toOption_ofValue {value : Value} {entries : Entries}
    (opened : value.opened = .mapping entries) :
    (ofValue value).toOption = (Schema.check entries).toOption := by
  have given : value.toEntries = .ok entries := by rw [Value.toEntries, opened]
  rw [ofValue, given]
  simp only [bind, Except.bind]
  cases Schema.check entries <;> rfl

/-- **The spelling and the arrangement of a configuration do not matter.**  Mappings that can be
rearranged into one another, by any number of steps, are both refused or make the same
configuration, and so the same routes in the same order.  These are, method by method, those of the
names under the method, in the order in which they come first there. -/
theorem arrangement_free :
    (∀ (value other : Value) (entries others : Entries), value.opened = .mapping entries →
      other.opened = .mapping others → Relation.EqvGen Schema.Rearrangement entries others →
        (ofValue value).toOption = (ofValue other).toOption) ∧
    ∀ (value : Value) (entries : Entries) (config : ClientConfig),
      value.opened = .mapping entries → ofValue value = .ok config →
        config.routes.map (fun definition => (definition.method, definition.name))
          = Method.all.flatMap fun method =>
              ((Schema.keysUnder entries method).filterMap Schema.keyText?).eraseDups.map
                fun name => (method, name) := by
  constructor
  · intro value other entries others opened otherOpened rearranged
    rw [toOption_ofValue opened, toOption_ofValue otherOpened]
    exact Schema.toOption_check_of_eqvGen rearranged
  · intro value entries config opened made
    have accepted := toOption_ofValue opened
    rw [made] at accepted
    have checked : Schema.check entries = .ok config := Action.eq_ok_of_toOption accepted.symm
    simp only [routes, List.map_flatMap, List.map_map]
    refine congrArg (fun names => Method.all.flatMap names) (funext fun method => ?_)
    rw [← Schema.names_of_checkRoutes (Schema.checkRoutes_of_check checked method), List.map_map]
    rfl

end Runtimes

/-! ## One configuration in two arrangements -/

attribute [local instance] Runtime.usual

/-- An address and two routes, the second of them structured. -/
def rootEntry : Value × Value := (.text "root", .text "http://h")

@[inherit_doc rootEntry]
def routesEntry (route : Entries) : Value × Value :=
  (.text "get", .mapping [(.text "second", .text "/s"), (.text "first", .mapping route)])

/-- A configuration in the spelling of the file format. -/
def camelConfig : Entries :=
  [rootEntry, (.text "parseJson", .truth true), routesEntry [(.text "pathPattern", .text "/f")]]

/-- The configuration in other spellings, with keys that mean nothing, and in another order. -/
def snakeConfig : Entries :=
  [(.text "parse_json", .truth true), rootEntry, (.text "note", .int 1),
   routesEntry [(.text "path_pattern", .text "/f"), (.text "method", .null)]]

theorem rearranged_snakeConfig : Relation.EqvGen Schema.Rearrangement camelConfig snakeConfig := by
  have respelled : Schema.Rearrangement camelConfig [rootEntry, (.text "parse_json", .truth true),
      routesEntry [(.text "pathPattern", .text "/f")]] :=
    .top (.respelled [rootEntry] [_] ("parseJson", "parse_json") (by decide) _
      (by simp [rootEntry, routesEntry]))
  have permuted : Schema.Rearrangement
      [rootEntry, (.text "parse_json", .truth true), routesEntry [(.text "pathPattern", .text "/f")]]
      [(.text "parse_json", .truth true), rootEntry,
        routesEntry [(.text "pathPattern", .text "/f")]] :=
    .top (.permuted (by decide +kernel) (.swap _ _ _))
  have noted : Schema.Rearrangement
      [(.text "parse_json", .truth true), rootEntry, routesEntry [(.text "pathPattern", .text "/f")]]
      [(.text "parse_json", .truth true), rootEntry, (.text "note", .int 1),
        routesEntry [(.text "pathPattern", .text "/f")]] :=
    .top (.unknown [_, _] [_] _ _ (by simp [Schema.clientFields, Schema.plainFields, Method.all,
      Method.key]))
  have inner : Schema.Rearrangement
      [(.text "parse_json", .truth true), rootEntry, (.text "note", .int 1),
        routesEntry [(.text "pathPattern", .text "/f")]]
      [(.text "parse_json", .truth true), rootEntry, (.text "note", .int 1),
        routesEntry [(.text "path_pattern", .text "/f")]] :=
    .inside [_, _, _] [] .get [_] [] _ rfl rfl rfl rfl
      (.respelled [] [] ("pathPattern", "path_pattern") (by decide) _ nofun)
  have innerNoted : Schema.Rearrangement
      [(.text "parse_json", .truth true), rootEntry, (.text "note", .int 1),
        routesEntry [(.text "path_pattern", .text "/f")]] snakeConfig :=
    .inside [_, _, _] [] .get [_] [] _ rfl rfl rfl rfl
      (.unknown [_] [] _ _ (by simp [Schema.routeFields]))
  exact (((Relation.EqvGen.rel _ _ respelled).trans _ _ _ (.rel _ _ permuted)).trans _ _ _
    (.rel _ _ noted)).trans _ _ _ ((Relation.EqvGen.rel _ _ inner).trans _ _ _
      (.rel _ _ innerNoted))

/-- The configuration in both arrangements makes the same routes, in the order under the method. -/
theorem arrangement_free_snake :
    Relation.EqvGen Schema.Rearrangement camelConfig snakeConfig ∧
    (ofValue (.mapping camelConfig)).toOption = (ofValue (.mapping snakeConfig)).toOption ∧
    ∃ config, ofValue (.mapping snakeConfig) = .ok config ∧
      config.routes.map (fun definition => (definition.method, definition.name))
        = [(.get, "second"), (.get, "first")] := by
  obtain ⟨same, ordered⟩ := arrangement_free
  have makes : (ofValue (.mapping snakeConfig)).toOption.isSome = true := by decide +kernel
  obtain ⟨config, made⟩ := Option.isSome_iff_exists.mp makes
  have made : ofValue (.mapping snakeConfig) = .ok config := Action.eq_ok_of_toOption made
  refine ⟨rearranged_snakeConfig, same _ _ _ _ rfl rfl rearranged_snakeConfig, config, made, ?_⟩
  rw [ordered _ snakeConfig config rfl made]
  decide +kernel

-- The order under a method is the order of the routes.
example :
    (ofValue (.mapping [rootEntry, (.text "get", .mapping
      [(.text "first", .text "/f"), (.text "second", .text "/s")])])).toOption.map
        (fun config => config.routes.map RouteDefinition.name) = some ["first", "second"] := by
  decide +kernel

end ClientConfig

end Routebook
