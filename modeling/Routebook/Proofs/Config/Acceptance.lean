import Mathlib.Data.List.Induction
import Routebook.Config.Schema
import Routebook.Options
import Routebook.Proofs.Client.Declared
import Routebook.Proofs.Value.Overlay

/-!
# What the schema accepts

A check yields a result or issues, and the issues name the place of the value.  What is accepted,
and what comes of it, does not depend on the place (`Schema.Placeless`): of a mapping the checks
read nothing but the values of its fields, in either spelling (`Schema.toOption_check`), and of the
routes under a method the entries in their order (`Schema.names_of_checkRoutes`).
-/

namespace Routebook.Schema

set_option autoImplicit false

/-- A check accepts a value at one place as it does at any other. -/
def Placeless {α : Type} (check : List Place → Value → Checked α) : Prop :=
  ∀ place other value, (check place value).toOption = (check other value).toOption

theorem toOption_refuse {α : Type} (place : List Place) (violation : Violation) :
    (refuse place violation : Checked α).toOption = none := rfl

theorem toOption_map {ε α β : Type} (result : Except ε α) (change : α → β) :
    (result.map change).toOption = result.toOption.map change := by
  cases result <;> rfl

theorem Placeless.map {α β : Type} {check : List Place → Value → Checked α}
    (placeless : Placeless check) (change : α → β) :
    Placeless fun place value => (check place value).map change := by
  intro place other value
  rw [toOption_map, toOption_map, placeless place other]

/-! ## Simple values -/

theorem placeless_checkText : Placeless checkText := by
  intro place other value
  cases value with
  | bytes bytes =>
      simp only [checkText]
      cases Text.utf8Decode bytes <;> rfl
  | _ => rfl

theorem toOption_checkTruthWord (place other : List Place) (word : String) :
    (checkTruthWord place word).toOption = (checkTruthWord other word).toOption := by
  simp only [checkTruthWord]
  cases truthWords.find? fun entry => entry.1 == word.toLower <;> rfl

theorem placeless_checkTruth : Placeless checkTruth := by
  intro place other value
  cases value with
  | text word => exact toOption_checkTruthWord place other word
  | bytes bytes =>
      simp only [checkTruth]
      cases Text.utf8Decode bytes with
      | ok text => exact toOption_checkTruthWord place other (String.ofList text)
      | error fault => rfl
  | int value =>
      simp only [checkTruth]
      by_cases zero : (value == 0) = true
      · simp [zero]
      · by_cases one : (value == 1) = true
        · simp [zero, one]
        · by_cases sized : isMachineSized value = true <;> simp [zero, one, sized, toOption_refuse]
  | float value =>
      simp only [checkTruth]
      by_cases zero : value.equalsInt 0 = true
      · simp [zero]
      · by_cases one : value.equalsInt 1 = true
        · simp [zero, one]
        · by_cases sized : isMachineInteger value = true <;>
            simp [zero, one, sized, toOption_refuse]
  | _ => rfl

theorem toOption_checkRoot (place : List Place) (value : Value) :
    (checkRoot place value).toOption
      = (checkText place value).toOption.bind fun root =>
          if Text.isBlankText root then none else some root := by
  unfold checkRoot
  cases checkText place value with
  | error issues => rfl
  | ok root =>
      dsimp only [Except.toOption, Option.bind_some]
      by_cases blank : Text.isBlankText root = true
      · simp only [blank, if_true]
        rfl
      · simp only [blank]
        rfl

theorem placeless_checkRoot : Placeless checkRoot := by
  intro place other value
  rw [toOption_checkRoot, toOption_checkRoot, placeless_checkText place other]

/-! ## Mappings -/

/-- Several checks are passed together when each of them is. -/
theorem toOption_gather {α : Type} (checks : List (Checked α)) :
    (gather checks).toOption = checks.mapM Except.toOption := by
  induction checks with
  | nil => rfl
  | cons check rest inductionHypothesis =>
      rw [List.mapM_cons, ← inductionHypothesis]
      cases check with
      | error issues => cases rest <;> rfl
      | ok result =>
          simp only [gather]
          cases gather rest <;> rfl

/-- The entries of a value that is a mapping. -/
def entries? (value : Value) : Option Entries := (Options.requireMapping value).toOption

theorem entries?_eq_some {value : Value} {entries : Entries}
    (opened : value.opened = .mapping entries) : entries? value = some entries := by
  rw [entries?, Options.requireMapping, opened]
  rfl

/-- The text that a key is, if it is one. -/
def keyText? [Runtime] (key : Value) : Option String := (checkKey [] key).toOption

/-- What comes of an entry of a mapping whose values pass a check. -/
def acceptEntry [Runtime] {α : Type} (accept : Value → Option α) (entry : Value × Value) :
    Option (String × α) := do
  return (← keyText? entry.1, ← accept entry.2)

/-- What is accepted of a mapping: each entry for itself, in order. -/
theorem toOption_checkMapping [Runtime] {α : Type} {checkValue : List Place → Value → Checked α}
    (placeless : Placeless checkValue) (place : List Place) (value : Value) :
    (checkMapping place checkValue value).toOption
      = (entries? value).bind fun entries =>
          entries.mapM (acceptEntry fun value => (checkValue [] value).toOption) := by
  simp only [checkMapping, entries?, Options.requireMapping]
  cases value.opened with
  | mapping entries =>
      dsimp only
      rw [toOption_gather, List.mapM_map]
      refine congrArg (fun step => List.mapM step entries) (funext fun entry => ?_)
      have key := placeless_checkText (place ++ [keyPlace entry.1, .name "[key]"])
        ([] ++ [keyPlace entry.1, .name "[key]"]) entry.1
      have content := placeless (place ++ [keyPlace entry.1]) [] entry.2
      simp only [Function.comp, acceptEntry, keyText?, checkKey, ← key, ← content]
      cases checkText (place ++ [keyPlace entry.1, .name "[key]"]) entry.1 with
      | error issues => rfl
      | ok name => cases checkValue (place ++ [keyPlace entry.1]) entry.2 <;> rfl
  | _ => rfl

theorem placeless_checkMapping [Runtime] {α : Type} {checkValue : List Place → Value → Checked α}
    (placeless : Placeless checkValue) :
    Placeless fun place => checkMapping place checkValue := by
  intro place other value
  rw [toOption_checkMapping placeless, toOption_checkMapping placeless]

theorem placeless_checkOptions [Runtime] : Placeless checkOptions :=
  Placeless.map (placeless_checkMapping fun _ _ _ => rfl) _

theorem placeless_checkDefaults [Runtime] : Placeless checkDefaults := by
  intro place other value
  have given := placeless_checkOptions.map some place other value
  cases value with
  | null => rfl
  | _ => exact given

/-! ## Fields -/

/-- The value of a field, under either of its spellings. -/
def value? (entries : Entries) (field : String × String) : Option Value :=
  (Value.lookupText field.1 entries).or (Value.lookupText field.2 entries)

section Fields

variable {α : Type} {check : List Place → Value → Checked α} (placeless : Placeless check)
  (place : List Place) (entries : Entries) (label name : String)

include placeless in
theorem toOption_required :
    (required place entries label name check).toOption
      = (value? entries (label, name)).bind fun value => (check [] value).toOption := by
  simp only [required, field?, value?]
  cases Value.lookupText label entries with
  | some value => exact placeless _ _ value
  | none =>
      cases Value.lookupText name entries with
      | some value => exact placeless _ _ value
      | none => rfl

include placeless in
theorem toOption_optional (default : α) :
    (optional place entries label name default check).toOption
      = (value? entries (label, name)).elim (some default) fun value =>
          (check [] value).toOption := by
  simp only [optional, field?, value?]
  cases Value.lookupText label entries with
  | some value => exact placeless _ _ value
  | none =>
      cases Value.lookupText name entries with
      | some value => exact placeless _ _ value
      | none => rfl

end Fields

/-! ## Routes -/

/-- The fields of a structured route, in both spellings. -/
def routeFields : List (String × String) :=
  [("pathPattern", "path_pattern"), ("requestOptions", "request_options")]

/-- What comes of the entries of a structured route. -/
def acceptDetailed [Runtime] (entries : Entries) : Option RouteEntry := do
  let pathPattern ← (value? entries ("pathPattern", "path_pattern")).bind fun value =>
    (checkText [] value).toOption
  let requestOptions ← (value? entries ("requestOptions", "request_options")).elim (some [])
    fun value => (checkOptions [] value).toOption
  return .detailed pathPattern requestOptions

theorem toOption_checkDetailed [Runtime] (place : List Place) (value : Value) :
    (checkDetailed place value).toOption = (entries? value).bind acceptDetailed := by
  simp only [checkDetailed, entries?, Options.requireMapping]
  cases value.opened with
  | mapping entries =>
      have accepted : (Except.ok entries : Except Failure Entries).toOption.bind acceptDetailed
          = acceptDetailed entries := rfl
      dsimp only
      rw [accepted, acceptDetailed, ← toOption_required placeless_checkText place,
        ← toOption_optional placeless_checkOptions place]
      cases required place entries "pathPattern" "path_pattern" checkText with
      | error issues => rfl
      | ok pathPattern =>
          cases optional place entries "requestOptions" "request_options" [] checkOptions <;> rfl
  | _ => rfl

theorem toOption_checkRoute [Runtime] (place : List Place) (value : Value) :
    (checkRoute place value).toOption
      = ((checkText [] value).toOption.map RouteEntry.template).or
          ((entries? value).bind acceptDetailed) := by
  rw [← toOption_checkDetailed (place ++ [.name "RouteSpec"]),
    placeless_checkText [] (place ++ [.name "str"])]
  unfold checkRoute
  cases checkText (place ++ [.name "str"]) value with
  | ok template => rfl
  | error issues => cases checkDetailed (place ++ [.name "RouteSpec"]) value <;> rfl

theorem placeless_checkRoute [Runtime] : Placeless checkRoute := by
  intro place other value
  rw [toOption_checkRoute, toOption_checkRoute]

/-- What comes of the routes under a method. -/
def acceptRoutes [Runtime] (value : Value) : Option (List (String × RouteEntry)) :=
  ((entries? value).bind fun entries =>
    entries.mapM (acceptEntry fun value => (checkRoute [] value).toOption)).map settle

theorem toOption_checkRoutes [Runtime] (entries : Entries) (method : Method) :
    (checkRoutes entries method).toOption
      = (value? entries (method.key, method.key)).elim (some []) acceptRoutes := by
  have placeless : Placeless fun place value => (checkMapping place checkRoute value).map settle :=
    (placeless_checkMapping placeless_checkRoute).map settle
  rw [checkRoutes, toOption_optional placeless]
  simp only [toOption_map, toOption_checkMapping placeless_checkRoute]
  rfl

/-! ## The order of names -/

theorem names_writeEntry {α : Type} (name : String) (value : α) (written : List (String × α)) :
    (writeEntry name value written).map Prod.fst
      = if name ∈ written.map Prod.fst then written.map Prod.fst
        else written.map Prod.fst ++ [name] := by
  induction written with
  | nil => simp [writeEntry]
  | cons entry rest inductionHypothesis =>
      by_cases own : entry.1 = name
      · simp [writeEntry, own]
      · have apart : name ≠ entry.1 := fun same => own same.symm
        by_cases later : name ∈ rest.map Prod.fst
        · simp only [later, if_true] at inductionHypothesis
          simp only [writeEntry, beq_iff_eq, own, if_false, List.map_cons, inductionHypothesis,
            List.mem_cons, apart, later, or_true, if_true]
        · simp only [later, if_false] at inductionHypothesis
          simp only [writeEntry, beq_iff_eq, own, if_false, List.map_cons, inductionHypothesis,
            List.mem_cons, apart, later, or_false, List.cons_append]

theorem settle_append_singleton {α : Type} (entries : List (String × α)) (entry : String × α) :
    settle (entries ++ [entry]) = writeEntry entry.1 entry.2 (settle entries) := by
  simp [settle]

/-- Settling entries keeps the order in which their names came first. -/
theorem names_settle {α : Type} (entries : List (String × α)) :
    (settle entries).map Prod.fst = (entries.map Prod.fst).eraseDups := by
  induction entries using List.reverseRecOn with
  | nil => rfl
  | append_singleton entries entry inductionHypothesis =>
      rw [settle_append_singleton, names_writeEntry, inductionHypothesis, List.map_append,
        List.map_singleton, eraseDups_append_singleton]

/-- The entries that are accepted have the texts of their keys for names. -/
theorem names_acceptEntry [Runtime] {α : Type} {accept : Value → Option α} {entries : Entries}
    {accepted : List (String × α)} (run : entries.mapM (acceptEntry accept) = some accepted) :
    accepted.map Prod.fst = (entries.map Prod.fst).filterMap keyText? := by
  induction entries generalizing accepted with
  | nil =>
      cases run
      rfl
  | cons entry rest inductionHypothesis =>
      simp only [List.mapM_cons, acceptEntry, Option.bind_eq_bind, Option.pure_def,
        Option.bind_eq_some_iff, Option.some.injEq] at run
      obtain ⟨_, ⟨name, key, value, content, rfl⟩, others, later, rfl⟩ := run
      simp [key, inductionHypothesis later]

/-- The keys of the mapping under a method. -/
def keysUnder (entries : Entries) (method : Method) : List Value :=
  ((Value.lookupText method.key entries).bind entries?).elim [] fun routes =>
    routes.map Prod.fst

/-- **The routes under a method have the names of the mapping in its order.** -/
theorem names_of_checkRoutes [Runtime] {entries : Entries} {method : Method}
    {routes : List (String × RouteEntry)} (run : checkRoutes entries method = .ok routes) :
    routes.map Prod.fst = ((keysUnder entries method).filterMap keyText?).eraseDups := by
  have accepted := toOption_checkRoutes entries method
  simp only [run, value?, Option.or_self] at accepted
  rw [keysUnder]
  cases given : Value.lookupText method.key entries with
  | none =>
      rw [given] at accepted
      cases accepted
      rfl
  | some value =>
      rw [given] at accepted
      cases opened : entries? value with
      | none =>
          simp only [Option.elim_some, acceptRoutes, opened] at accepted
          cases accepted
      | some under =>
          simp only [Option.elim_some, acceptRoutes, opened, Option.bind_some] at accepted ⊢
          obtain ⟨declared, run, settled⟩ := Option.map_eq_some_iff.mp accepted.symm
          rw [← settled, names_settle, names_acceptEntry run]

/-! ## Configurations -/

/-- What is accepted of a configuration: each of its fields for itself. -/
theorem toOption_check [Runtime] (entries : Entries) :
    (check entries).toOption = (do
      let root ← (required [] entries "root" "root" checkRoot).toOption
      let parseJson ← (optional [] entries "parseJson" "parse_json" false checkTruth).toOption
      let encodeValues ←
        (optional [] entries "encodeValues" "encode_values" false checkTruth).toOption
      let requestDefaults ←
        (optional [] entries "requestDefaults" "request_defaults" none checkDefaults).toOption
      let delete ← (checkRoutes entries .delete).toOption
      let get ← (checkRoutes entries .get).toOption
      let head ← (checkRoutes entries .head).toOption
      let patch ← (checkRoutes entries .patch).toOption
      let post ← (checkRoutes entries .post).toOption
      let put ← (checkRoutes entries .put).toOption
      return { root, parseJson, encodeValues, requestDefaults
               declarations := { delete, get, head, patch, post, put } }) := by
  unfold check
  cases required [] entries "root" "root" checkRoot with
  | error issues => rfl
  | ok root =>
  cases optional [] entries "parseJson" "parse_json" false checkTruth with
  | error issues => rfl
  | ok parseJson =>
  cases optional [] entries "encodeValues" "encode_values" false checkTruth with
  | error issues => rfl
  | ok encodeValues =>
  cases optional [] entries "requestDefaults" "request_defaults" none checkDefaults with
  | error issues => rfl
  | ok requestDefaults =>
  cases checkRoutes entries .delete with
  | error issues => rfl
  | ok delete =>
  cases checkRoutes entries .get with
  | error issues => rfl
  | ok get =>
  cases checkRoutes entries .head with
  | error issues => rfl
  | ok head =>
  cases checkRoutes entries .patch with
  | error issues => rfl
  | ok patch =>
  cases checkRoutes entries .post with
  | error issues => rfl
  | ok post => cases checkRoutes entries .put <;> rfl

/-- The routes of a configuration are those of the checks for each method. -/
theorem checkRoutes_of_check [Runtime] {entries : Entries} {config : ClientConfig}
    (run : check entries = .ok config) (method : Method) :
    checkRoutes entries method = .ok (config.declarations.under method) := by
  unfold check at run
  dsimp only at run
  split at run
  · cases run
    cases method <;> assumption
  · cases run

end Routebook.Schema
