import Routebook.Proofs.Options.Layering

/-!
# Supported options

The supported part of options is made of the entries whose keys are known.  Writing to options
writes to their supported part or leaves it as it is, so merging two layers merges their supported
parts (`Options.supported_merge`), and what is read of options by a known name is read of this part.
-/

namespace Routebook.Options

set_option autoImplicit false

open Value

/-- The entries with known keys. -/
def supported (options : Entries) : Entries := options.filter fun entry => isKnown entry.1

theorem supported_cons (entry : Value × Value) (rest : Entries) :
    supported (entry :: rest)
      = if isKnown entry.1 then entry :: supported rest else supported rest := by
  simp [supported, List.filter_cons]

/-! ## Known keys -/

section Keys

variable {key other : Value} {name : String}

theorem isKnown_text (listed : name ∈ known) : isKnown (.text name) = true :=
  List.contains_iff_mem.mpr listed

theorem exists_of_isKnown (recognized : isKnown key = true) : ∃ name, key = .text name := by
  cases key with
  | text name => exact ⟨name, rfl⟩
  | _ => cases recognized

/-- A key that is the same as a known one is that one. -/
theorem eq_of_same_of_isKnown (recognized : isKnown other = true)
    (equal : same key other = true) : key = other := by
  obtain ⟨name, rfl⟩ := exists_of_isKnown recognized
  exact Store.same_text_right.mp equal

/-- Of two keys that are the same both are known, or neither. -/
theorem isKnown_congr (equal : same key other = true) : isKnown key = isKnown other := by
  by_cases recognized : isKnown other = true
  · rw [eq_of_same_of_isKnown recognized equal]
  · by_cases alsoRecognized : isKnown key = true
    · obtain ⟨name, rfl⟩ := exists_of_isKnown alsoRecognized
      rw [Store.same_text.mp equal]
    · simp only [recognized, alsoRecognized]

/-- **A known option is an option of the supported part.** -/
theorem lookupText_supported (listed : name ∈ known) (options : Entries) :
    lookupText name (supported options) = lookupText name options := by
  simp only [lookupText]
  induction options with
  | nil => rfl
  | cons entry rest inductionHypothesis =>
      rw [supported_cons, lookup]
      by_cases equal : same (.text name) entry.1 = true
      · have recognized : isKnown entry.1 = true :=
          (isKnown_congr equal).symm.trans (isKnown_text listed)
        simp [recognized, lookup, equal]
      · by_cases recognized : isKnown entry.1 = true <;>
          simp [recognized, lookup, equal, inductionHypothesis]

theorem get_supported (listed : name ∈ known) (options : Entries) :
    get (supported options) name = get options name := by
  rw [get, lookupText_supported listed, get]

theorem getOr_supported (listed : name ∈ known) (options : Entries) (default : Value) :
    getOr (supported options) name default = getOr options name default := by
  rw [getOr, lookupText_supported listed, getOr]

end Keys

/-! ## Writing -/

/-- Writing to options writes to their supported part, if the key is known. -/
theorem supported_insert (key value : Value) (options : Entries) :
    supported (insert key value options)
      = if isKnown key then insert key value (supported options) else supported options := by
  induction options with
  | nil => simp [supported, Value.insert, List.filter_cons]
  | cons entry rest inductionHypothesis =>
      by_cases equal : same key entry.1 = true
      · have alike := isKnown_congr equal
        by_cases recognized : isKnown entry.1 = true <;>
          simp [supported_cons, Value.insert, equal, alike, recognized]
      · by_cases own : isKnown key = true <;> by_cases recognized : isKnown entry.1 = true <;>
          simp [supported_cons, Value.insert, equal, own, recognized, inductionHypothesis]

/-- **The supported part of options with others written over them.** -/
theorem supported_overlay (base override : Entries) :
    supported (overlay base override) = overlay (supported base) (supported override) := by
  induction override generalizing base with
  | nil => rfl
  | cons entry rest inductionHypothesis =>
      rw [overlay_cons, inductionHypothesis, supported_insert, supported_cons]
      split
      · rw [overlay_cons]
      · rfl

theorem headers_mem_known : "headers" ∈ known := by decide

/-- **The supported part of merged layers.** -/
theorem supported_merge (base override : Entries) :
    merge (supported base) (supported override) = (merge base override).map supported := by
  have same : mergeHeaders (supported base) (supported override) = mergeHeaders base override := by
    simp only [mergeHeaders, lookupText_supported headers_mem_known]
  simp only [merge, same, bind, Except.bind]
  cases mergeHeaders base override with
  | error failure => rfl
  | ok headers =>
      cases headers with
      | none => exact congrArg Except.ok (supported_overlay base override).symm
      | some fields =>
          have written : supported (insertText "headers" (.mapping fields) (overlay base override))
              = insertText "headers" (.mapping fields)
                  (overlay (supported base) (supported override)) := by
            simp [insertText, supported_insert, supported_overlay, isKnown_text headers_mem_known]
          exact congrArg Except.ok written.symm

/-- Every key of merged layers is a key of one of them, or the one of the header fields. -/
theorem keys_merge {property : Value → Prop} {base override merged : Entries}
    (named : property (.text "headers")) (lower : ∀ entry ∈ base, property entry.1)
    (upper : ∀ entry ∈ override, property entry.1) (merging : merge base override = .ok merged) :
    ∀ entry ∈ merged, property entry.1 := by
  obtain ⟨headers, -, rest⟩ := Outcome.exists_of_bind merging
  have laid := keys_overlay lower upper
  cases headers with
  | none =>
      cases rest
      exact laid
  | some fields =>
      cases rest
      exact keys_insert laid named

/-! ## Keys that are texts -/

/-- Whether a key is a text. -/
def IsName (key : Value) : Prop := ∃ name, key = .text name

/-- Whether all keys of options are texts. -/
def textKeys (options : Entries) : Bool :=
  options.all fun entry => match entry.1 with
    | .text _ => true
    | _ => false

theorem textKeys_iff {options : Entries} :
    textKeys options = true ↔ ∀ entry ∈ options, IsName entry.1 := by
  rw [textKeys, List.all_eq_true]
  refine forall₂_congr fun entry _ => ?_
  cases entry.1 <;> simp [IsName]

/-! ## Lines -/

variable [Runtime]

/-- All ignored options can be told of exactly when the keys of all of them have a text. -/
theorem exists_ignoredLines_iff {options : Entries} :
    (∃ lines, ignoredLines options = .ok lines)
      ↔ ∀ entry ∈ options, isKnown entry.1 = false → ∃ text, entry.1.asText = .ok text := by
  have line : ∀ key : Value, (∃ text, ignoredLine key = .ok text) ↔ ∃ text, key.asText = .ok text := by
    intro key
    unfold ignoredLine
    cases key.asText with
    | ok text => exact iff_of_true ⟨_, rfl⟩ ⟨text, rfl⟩
    | error failure => exact iff_of_false nofun nofun
  have lines : (∃ lines, ignoredLines options = .ok lines)
      ↔ ∃ found, ((options.map Prod.fst).filter (!isKnown ·)).mapM ignoredLine = .ok found := by
    unfold ignoredLines
    cases ((options.map Prod.fst).filter (!isKnown ·)).mapM ignoredLine with
    | ok found => exact iff_of_true ⟨_, rfl⟩ ⟨found, rfl⟩
    | error failure => exact iff_of_false nofun nofun
  rw [lines, Outcome.exists_mapM_eq_ok_iff]
  simp only [line, List.mem_filter, List.mem_map, Bool.not_eq_true']
  constructor
  · exact fun told entry present ignored => told entry.1 ⟨⟨entry, present, rfl⟩, ignored⟩
  · rintro told key ⟨⟨entry, present, rfl⟩, ignored⟩
    exact told entry present ignored

/-- Nothing of the supported part is ignored. -/
theorem ignoredLines_supported (options : Entries) :
    ignoredLines (supported options) = .ok [] := by
  have none : ((supported options).map Prod.fst).filter (!isKnown ·) = [] := by
    simp [supported]
  simp only [ignoredLines, none, List.mapM_nil, pure_bind, List.mergeSort_nil]
  rfl

end Routebook.Options
