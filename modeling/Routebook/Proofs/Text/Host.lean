import Routebook.Proofs.Outcome
import Routebook.Proofs.Text.Search
import Routebook.Text.HostLabel
import Routebook.Text.Lowercase

/-!
# Marks in the names of hosts

A question mark or a number sign in the name of a host would part the address that the name stands
in.  Neither comes about on the way to the form within ASCII: no other character has one of them as
its lower-case form (`Text.not_mem_lower`), and the compact form of a label is made of its own
characters, letters, digits and hyphens (`Text.not_mem_punycode`).  So a name without them keeps
without them (`Text.not_mem_asciiHost`).
-/

namespace Routebook.Text

set_option autoImplicit false

/-- The marks in front of a query and in front of a fragment. -/
def partMarks : List Char := ['?', '#']

variable {mark : Char}

theorem mem_partMarks : mark ∈ partMarks ↔ mark = '?' ∨ mark = '#' := by
  simp only [partMarks, List.mem_cons, List.not_mem_nil, or_false]

/-- A mark is missing from a text that neither of the two is in. -/
theorem not_mem_of_marks {text : List Char} (own : mark ∈ partMarks) (question : '?' ∉ text)
    (number : '#' ∉ text) : mark ∉ text := by
  rcases mem_partMarks.mp own with rfl | rfl
  · exact question
  · exact number

/-- The marks come before the capital letters, and no name is written with them. -/
theorem bounds_of_mem_partMarks (own : mark ∈ partMarks) :
    0 < mark.toNat ∧ mark.toNat < 0x40 ∧ mark ≠ '-' ∧ mark ≠ '.' ∧ mark ∉ compactMark := by
  rcases mem_partMarks.mp own with rfl | rfl <;> decide

/-! ## Lower case -/

theorem ofNat_ne {code : Nat} (own : mark ∈ partMarks) (beyond : 0x40 < code) :
    Char.ofNat code ≠ mark := by
  obtain ⟨positive, below, -⟩ := bounds_of_mem_partMarks own
  intro same
  by_cases valid : code.isValidChar
  · have made : Char.ofNat code = Char.ofNatAux code valid := dif_pos valid
    have size : mark.toNat = code := by
      rw [← same, made]
      rfl
    omega
  · have made : Char.ofNat code = Char.ofNat 0 := dif_neg valid
    have size : mark.toNat = 0 := by
      rw [← same, made]
      rfl
    omega

theorem toLower_ne {character : Char} (own : mark ∈ partMarks) (other : mark ≠ character) :
    mark ≠ character.toLower := by
  by_cases capital : character.val ≥ 'A'.val ∧ character.val ≤ 'Z'.val
  · have lowered : character.toLower.val = character.val + ('a'.val - 'A'.val) :=
      congrArg Char.val (dif_pos capital)
    obtain ⟨-, bound, -⟩ := bounds_of_mem_partMarks own
    rintro rfl
    obtain ⟨least, most⟩ := capital
    have low : 65 ≤ character.val.toNat := least
    have high : character.val.toNat ≤ 90 := most
    rw [Char.toNat, lowered, UInt32.toNat_add] at bound
    have step : ('a'.val - 'A'.val).toNat = 32 := rfl
    omega
  · have kept : character.toLower = character := dif_neg capital
    rwa [kept]

/-- No character beyond ASCII has one of the marks as its counterpart. -/
theorem lowercaseRuns_beyond :
    ∀ run ∈ lowercaseRuns, (0x40 : Int) < (run.1 : Int) + run.2.2.2 := by decide +kernel

theorem not_mem_lowerCharacter {character : Char} (own : mark ∈ partMarks)
    (other : mark ≠ character) : mark ∉ lowerCharacter character := by
  unfold lowerCharacter
  dsimp only
  split
  · rw [List.mem_singleton]
    exact toLower_ne own other
  split
  · exact not_mem_of_marks own (by decide) (by decide)
  split
  · rename_i run found
    have beyond := lowercaseRuns_beyond run (List.mem_of_find?_eq_some found)
    have inside := List.find?_some found
    simp only [Bool.and_eq_true, decide_eq_true_eq] at inside
    rw [List.mem_singleton]
    exact (ofNat_ne own (by omega)).symm
  · rwa [List.mem_singleton]

/-- **Lowering brings no mark.** -/
theorem not_mem_lowerAfter {text : List Char} (own : mark ∈ partMarks) (absent : mark ∉ text)
    (before : List Char) : mark ∉ lowerAfter before text := by
  induction text generalizing before with
  | nil => exact List.not_mem_nil
  | cons character rest inductionHypothesis =>
      rw [List.mem_cons, not_or] at absent
      rw [lowerAfter, List.mem_append, not_or]
      refine ⟨?_, inductionHypothesis absent.2 _⟩
      split
      · split <;> exact not_mem_of_marks own (by decide) (by decide)
      · exact not_mem_lowerCharacter own absent.1

theorem not_mem_lower {text : List Char} (own : mark ∈ partMarks) (absent : mark ∉ text) :
    mark ∉ lower text := not_mem_lowerAfter own absent []

/-! ## Compact forms -/

theorem punycodeThreshold_bounds (bias base : Nat) :
    1 ≤ punycodeThreshold bias base ∧ punycodeThreshold bias base ≤ 26 := by
  unfold punycodeThreshold
  split
  · omega
  · split <;> omega

theorem punycodeDigit_ne {number : Nat} (own : mark ∈ partMarks) (small : number < 36) :
    mark ≠ punycodeDigit number := by
  have digits : ∀ digit : Fin 36, punycodeDigit digit ≠ '?' ∧ punycodeDigit digit ≠ '#' := by
    decide
  obtain ⟨question, hash⟩ := digits ⟨number, small⟩
  rcases mem_partMarks.mp own with rfl | rfl
  · exact question.symm
  · exact hash.symm

theorem not_mem_punycodeNumber (own : mark ∈ partMarks) (bias steps base value : Nat) :
    mark ∉ punycodeNumber bias steps base value := by
  induction steps generalizing base value with
  | zero => exact List.not_mem_nil
  | succ steps inductionHypothesis =>
      obtain ⟨positive, most⟩ := punycodeThreshold_bounds bias base
      rw [punycodeNumber]
      split
      · rw [List.mem_singleton]
        exact punycodeDigit_ne own (by omega)
      · have weight := Nat.mod_lt (value - punycodeThreshold bias base)
          (show 0 < 36 - punycodeThreshold bias base by omega)
        rw [List.mem_cons, not_or]
        exact ⟨punycodeDigit_ne own (by omega), inductionHypothesis _ _⟩

theorem not_mem_punycodePass (own : mark ∈ partMarks) (code basic : Nat) (label : List Char)
    {state : PunycodeState} (absent : mark ∉ state.output) :
    mark ∉ (punycodePass code basic label state).output := by
  unfold punycodePass
  induction label generalizing state with
  | nil => exact absent
  | cons character rest inductionHypothesis =>
      rw [List.foldl_cons]
      refine inductionHypothesis ?_
      split
      · exact absent
      split
      · rw [List.mem_append, not_or]
        exact ⟨absent, not_mem_punycodeNumber own _ _ _ _⟩
      · exact absent

/-- **The compact form of a label has no mark that the label lacks.** -/
theorem not_mem_punycode {label : List Char} (own : mark ∈ partMarks) (absent : mark ∉ label) :
    mark ∉ punycode label := by
  have basic : mark ∉ label.filter fun character => character.toNat < 0x80 :=
    fun present => absent (List.mem_filter.mp present).1
  obtain ⟨-, -, hyphen, -⟩ := bounds_of_mem_partMarks own
  have start : mark ∉ (if (label.filter fun character => character.toNat < 0x80).isEmpty then []
      else (label.filter fun character => character.toNat < 0x80) ++ ['-']) := by
    split
    · exact List.not_mem_nil
    · rw [List.mem_append, List.mem_singleton, not_or]
      exact ⟨basic, hyphen⟩
  -- Every pass over the label adds digits alone to what is written.
  refine @List.foldlRecOn (PunycodeState × Nat) _ (fun reached => mark ∉ reached.1.output) _ _ _
    start ?_
  exact fun reached plain code _ => not_mem_punycodePass own _ _ _ plain

/-! ## Labels and names -/

theorem not_mem_asciiLabel {label encoded : List Char} (own : mark ∈ partMarks)
    (absent : mark ∉ label) (encoding : asciiLabel label = .ok encoded) : mark ∉ encoded := by
  unfold asciiLabel at encoding
  dsimp only at encoding
  split at encoding
  · obtain ⟨_, -, rest⟩ := Outcome.exists_of_bind encoding
    rw [pure_bind] at rest
    split at rest <;> cases rest
    exact absent
  · obtain ⟨_, -, rest⟩ := Outcome.exists_of_bind encoding
    rw [pure_bind] at rest
    split at rest <;> cases rest
    rw [List.mem_append, not_or]
    exact ⟨(bounds_of_mem_partMarks own).2.2.2.2, not_mem_punycode own absent⟩

/-- A label of a name is made of characters of the name. -/
theorem not_mem_splitName {name label : List Char} (own : mark ∈ partMarks) (absent : mark ∉ name)
    (present : label ∈ (splitName name).1) : mark ∉ label := by
  have dotted : mark ∉ name.map fun character =>
      if labelDots.contains character then '.' else character := by
    intro inside
    obtain ⟨character, among, same⟩ := List.mem_map.mp inside
    split at same
    · exact (bounds_of_mem_partMarks own).2.2.2.1 same.symm
    · rw [same] at among
      exact absent among
  have piece : label ∈ split '.' (name.map fun character =>
      if labelDots.contains character then '.' else character) := by
    unfold splitName at present
    dsimp only at present
    split at present
    · exact List.dropLast_subset _ present
    · exact present
  obtain ⟨-, before, after, whole, -, -⟩ := isPiece_of_mem_split piece
  intro inside
  rw [whole] at dotted
  exact dotted (List.mem_append_left _ (List.mem_append_right _ inside))

/-- **A name in its form within ASCII has no mark that the name lacks.** -/
theorem not_mem_asciiHost {name encoded : List Char} (own : mark ∈ partMarks)
    (absent : mark ∉ name) (encoding : asciiHost name = .ok encoded) : mark ∉ encoded := by
  obtain ⟨-, -, -, dot, -⟩ := bounds_of_mem_partMarks own
  unfold asciiHost at encoding
  dsimp only at encoding
  split at encoding
  · cases encoding
  · obtain ⟨labels, made, rest⟩ := Outcome.exists_of_bind encoding
    have joined : mark ∉ ['.'].intercalate labels := by
      refine not_mem_intercalate (by simpa using dot) fun one among => ?_
      obtain ⟨label, inside, done⟩ := Outcome.exists_of_mem_mapM made among
      exact not_mem_asciiLabel own (not_mem_splitName own absent inside) done
    split at rest
    · cases rest
    · cases rest
      split
      · rw [List.mem_append, List.mem_singleton, not_or]
        exact ⟨joined, dot⟩
      · exact joined

end Routebook.Text
