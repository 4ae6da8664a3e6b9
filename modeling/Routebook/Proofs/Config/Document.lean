import Routebook.Config.Document
import Routebook.Proofs.Http.Reply
import Routebook.Proofs.Json.Limits
import Routebook.Proofs.Yaml.Faults

/-!
# What the reader of documents lets out

A stage on the way to a configuration is to end well or with a problem with the configuration.  Some
stages let other failures out (`LetsOut`).  The reader of documents lets out the failures of the
reader of JSON at its limits, and those of values that a YAML document names but that do not exist
(`Document.Escapes`); whatever else is wrong with a document is a problem with the configuration
(`Document.letsOut_read`).
-/

namespace Routebook

set_option autoImplicit false

/-! ## Stages -/

/-- Whether a failure is a problem with a configuration. -/
def Failure.IsConfigurationProblem : Failure → Prop
  | .problem cause => cause.kind = .configuration
  | _ => False

/-- A failure that is no problem is no problem with a configuration. -/
theorem Failure.IsUnreported.not_isConfigurationProblem {failure : Failure}
    (unreported : failure.IsUnreported) : ¬failure.IsConfigurationProblem := by
  intro problem
  cases failure with
  | problem cause => exact unreported cause rfl
  | _ => exact problem

/-- A stage lets out certain failures, none of them a problem that a caller is told about; it fails
by them and by problems with the configuration alone. -/
structure LetsOut {α : Type} (escapes : Failure → Prop) (result : Except Failure α) : Prop where
  outcome : Outcome (fun failure => failure.IsConfigurationProblem ∨ escapes failure)
    (fun _ => True) result
  escaped : ∀ failure, escapes failure → result = .error failure ∧ failure.IsUnreported

namespace LetsOut

variable {α β : Type} {escapes : Failure → Prop} {result : Except Failure α}

/-- A stage that ends well lets nothing out. -/
theorem ok (value : α) (nothing : ∀ failure, ¬escapes failure) :
    LetsOut escapes (.ok value : Except Failure α) :=
  ⟨trivial, fun failure holds => absurd holds (nothing failure)⟩

/-- A stage that ends with a problem with the configuration lets nothing out. -/
theorem problem {cause : Problem} (kind : cause.kind = .configuration)
    (nothing : ∀ failure, ¬escapes failure) :
    LetsOut escapes (.error (.problem cause) : Except Failure α) :=
  ⟨.inl kind, fun failure holds => absurd holds (nothing failure)⟩

/-- A stage that fails otherwise lets out that failure alone. -/
theorem failure {cause : Failure} (unreported : cause.IsUnreported) (out : escapes cause)
    (only : ∀ failure, escapes failure → failure = cause) :
    LetsOut escapes (.error cause : Except Failure α) := by
  refine ⟨.inr out, fun failure holds => ?_⟩
  cases only failure holds
  exact ⟨rfl, unreported⟩

theorem congr {others : Failure → Prop} (stage : LetsOut escapes result)
    (same : ∀ failure, others failure ↔ escapes failure) : LetsOut others result where
  outcome := stage.outcome.imp fun failure => Or.imp id (same failure).mpr
  escaped failure holds := stage.escaped failure ((same failure).mp holds)

/-- A stage in two steps lets out the failures of the first one, and what the second one lets out.
-/
theorem bind {first : Except Failure α} {next : α → Except Failure β} {rest : α → Failure → Prop}
    (start : Unreported first)
    (stages : ∀ value, first = .ok value → LetsOut (rest value) (next value)) :
    LetsOut (fun failure =>
      first = .error failure ∨ ∃ value, first = .ok value ∧ rest value failure) (first >>= next) := by
  cases first with
  | error cause =>
      refine .failure start (.inl rfl) ?_
      rintro failure (same | ⟨value, same, -⟩)
      · exact (Except.error.inj same).symm
      · cases same
  | ok value =>
      refine (stages value rfl).congr fun failure => ⟨?_, fun holds => .inr ⟨value, rfl, holds⟩⟩
      rintro (same | ⟨other, same, holds⟩)
      · cases same
      · cases same
        exact holds

/-- A step that lets nothing out lets out what comes before it. -/
theorem andThen {next : α → Except Failure β} (stage : LetsOut escapes result)
    (rest : ∀ value, Outcome Failure.IsConfigurationProblem (fun _ => True) (next value)) :
    LetsOut escapes (result >>= next) where
  outcome := .bind stage.outcome fun value _ => (rest value).imp fun _ => .inl
  escaped failure escapes := by
    obtain ⟨failed, unreported⟩ := stage.escaped failure escapes
    rw [failed]
    exact ⟨rfl, unreported⟩

end LetsOut

/-! ## Documents -/

namespace Document

theorem letsOut_requireMapping {escapes : Failure → Prop} (source : String) (value : Value)
    (nothing : ∀ failure, ¬escapes failure) : LetsOut escapes (requireMapping source value) := by
  unfold requireMapping
  split
  · exact .ok _ nothing
  · exact .problem rfl nothing

variable [Runtime] {hint : Hint} {source content : String}

/-- Whether a text is refused as JSON for what it says, and not at a limit of the reader. -/
def IsRefusedAsJson (content : String) : Prop :=
  ∃ fault, Json.parse content = .error fault ∧ fault ≠ .tooManyDigits ∧ fault ≠ .tooDeep

/-- The failures that get past the reader of documents: those of the reader of JSON at its limits,
and those of values that a YAML document names but that do not exist. -/
inductive Escapes (hint : Hint) (content : String) : Failure → Prop
  | longInteger (tried : hint ≠ .yaml) (refused : Json.parse content = .error .tooManyDigits) :
      Escapes hint content .badValue
  | deepNesting (tried : hint ≠ .yaml) (refused : Json.parse content = .error .tooDeep) :
      Escapes hint content .tooDeep
  | scalar {cause : Failure} (tried : hint = .yaml ∨ hint = .unknown ∧ IsRefusedAsJson content)
      (refused : Yaml.parse content = .error (.failure cause)) : Escapes hint content cause

theorem letsOut_readYaml {escapes : Failure → Prop} (source : String) (jsonReason : Option String)
    (same : ∀ failure, escapes failure ↔ Yaml.parse content = .error (.failure failure)) :
    LetsOut escapes (readYaml source jsonReason content) := by
  refine LetsOut.congr ?_ same
  unfold readYaml
  have faults := Yaml.faults_parse content
  cases parsed : Yaml.parse content with
  | ok value => exact letsOut_requireMapping source value nofun
  | error fault =>
      cases fault with
      | malformed complaint => exact .problem rfl nofun
      | failure cause =>
          refine .failure (fun problem same => ?_) rfl ?_
          · have known := faults.error parsed
            rw [same] at known
            cases known
          · rintro failure same
            cases same
            rfl

/-- What gets past the reader when JSON is tried is decided by the fault of the text as JSON. -/
theorem Escapes.of_tried {failure : Failure} (escapes : Escapes hint content failure)
    (tried : hint ≠ .yaml) :
    ∃ fault, Json.parse content = .error fault ∧
      ((fault = .tooManyDigits ∧ failure = .badValue) ∨ (fault = .tooDeep ∧ failure = .tooDeep) ∨
        (fault ≠ .tooManyDigits ∧ fault ≠ .tooDeep ∧ hint = .unknown ∧
          Yaml.parse content = .error (.failure failure))) := by
  rcases escapes with ⟨-, refused⟩ | ⟨-, refused⟩ |
    ⟨named | ⟨unknown, fault, refused, short, flat⟩, broken⟩
  · exact ⟨_, refused, .inl ⟨rfl, rfl⟩⟩
  · exact ⟨_, refused, .inr (.inl ⟨rfl, rfl⟩)⟩
  · exact absurd named tried
  · exact ⟨fault, refused, .inr (.inr ⟨short, flat, unknown, broken⟩)⟩

/-- A text that is refused as JSON is read as YAML, unless it is to be JSON. -/
theorem letsOut_readRefused {fault : Json.Fault} (tried : hint ≠ .yaml) (source : String)
    (parsed : Json.parse content = .error fault) (short : fault ≠ .tooManyDigits)
    (flat : fault ≠ .tooDeep) :
    LetsOut (Escapes hint content)
      (if (hint == .json) = true then .error (.problem (.notJson source fault.message))
      else readYaml source (some fault.message) content) := by
  have read : ∀ failure, Escapes hint content failure →
      hint = .unknown ∧ Yaml.parse content = .error (.failure failure) := by
    intro failure escapes
    obtain ⟨found, refused, ⟨rfl, -⟩ | ⟨rfl, -⟩ | ⟨-, -, fallsBack⟩⟩ := escapes.of_tried tried
    · exact absurd (Except.error.inj (parsed.symm.trans refused)) short
    · exact absurd (Except.error.inj (parsed.symm.trans refused)) flat
    · exact fallsBack
  cases hint with
  | yaml => exact absurd rfl tried
  | json => exact .problem rfl fun failure escapes => nomatch (read failure escapes).1
  | unknown =>
      refine letsOut_readYaml source _ fun failure => ⟨fun escapes => (read failure escapes).2, ?_⟩
      exact .scalar (.inr ⟨rfl, fault, parsed, short, flat⟩)

/-- A document that is not to be YAML is read as JSON first. -/
theorem read_of_tried (tried : hint ≠ .yaml) (source content : String) :
    read hint source content = match Json.parse content with
      | .ok value => requireMapping source value
      | .error .tooManyDigits => .error .badValue
      | .error .tooDeep => .error .tooDeep
      | .error fault =>
          if hint == .json then .error (.problem (.notJson source fault.message))
          else readYaml source (some fault.message) content := by
  cases hint with
  | yaml => exact absurd rfl tried
  | json => rfl
  | unknown => rfl

/-- The reader of documents lets out the limits of the reader of JSON, when it comes to them. -/
theorem letsOut_readJson (tried : hint ≠ .yaml) (source content : String) :
    LetsOut (Escapes hint content) (read hint source content) := by
  rw [read_of_tried tried]
  cases parsed : Json.parse content with
  | ok value =>
      refine letsOut_requireMapping source value fun failure escapes => ?_
      obtain ⟨fault, refused, -⟩ := escapes.of_tried tried
      cases parsed.symm.trans refused
  | error fault =>
      have decided : ∀ failure, Escapes hint content failure →
          (fault = .tooManyDigits → failure = .badValue) ∧ (fault = .tooDeep → failure = .tooDeep) := by
        intro failure escapes
        obtain ⟨found, refused, known⟩ := escapes.of_tried tried
        cases parsed.symm.trans refused
        rcases known with ⟨rfl, rfl⟩ | ⟨rfl, rfl⟩ | ⟨short, flat, -⟩
        · exact ⟨fun _ => rfl, fun same => by cases same⟩
        · exact ⟨(fun same => by cases same), fun _ => rfl⟩
        · exact ⟨fun same => absurd same short, fun same => absurd same flat⟩
      cases fault with
      | tooManyDigits =>
          exact .failure (fun _ same => by cases same) (.longInteger tried parsed)
            fun failure escapes => (decided failure escapes).1 rfl
      | tooDeep =>
          exact .failure (fun _ same => by cases same) (.deepNesting tried parsed)
            fun failure escapes => (decided failure escapes).2 rfl
      | malformed reason line column offset =>
          exact letsOut_readRefused tried source parsed (fun same => by cases same)
            fun same => by cases same
      | undecodable damage =>
          exact letsOut_readRefused tried source parsed (fun same => by cases same)
            fun same => by cases same

/-- **What the reader of documents lets out.** -/
theorem letsOut_read (hint : Hint) (source content : String) :
    LetsOut (Escapes hint content) (read hint source content) := by
  by_cases tried : hint = .yaml
  · subst tried
    refine letsOut_readYaml source none fun failure => ⟨?_, .scalar (.inl rfl)⟩
    rintro (⟨tried, -⟩ | ⟨tried, -⟩ | ⟨-, refused⟩)
    · exact absurd rfl tried
    · exact absurd rfl tried
    · exact refused
  · exact letsOut_readJson tried source content

end Document

end Routebook
