import Routebook.Proofs.Json.Limits
import Routebook.Proofs.Value.Text

/-!
# Integers

An integer has one notation in JSON: digits of which the first is zero only if it stands alone,
behind a minus sign if the integer is negative (`Json.IntegerNotation`).  The reader takes a text in
this notation for the integer whose notation it is, unless there are more digits than it reads
(`Json.IntegerNotation.parse`), and the integer is written in this notation again
(`Json.IntegerNotation.asText`).
-/

namespace Routebook

set_option autoImplicit false

namespace Number

/-! ## Whole numbers -/

/-- The digits of a whole number: there is one at least, and zero is in front only if it stands
alone.
-/
structure WholeDigits (digits : List Char) : Prop where
  all : ∀ digit ∈ digits, digit.isDigit = true
  nonempty : digits ≠ []
  leading : digits.head? = some '0' → digits = ['0']

instance (digits : List Char) : Decidable (WholeDigits digits) :=
  decidable_of_iff (digits.all Char.isDigit = true ∧ digits ≠ [] ∧
      (digits.head? = some '0' → digits = ['0']))
    ⟨fun whole => ⟨List.all_eq_true.mp whole.1, whole.2.1, whole.2.2⟩,
      fun whole => ⟨List.all_eq_true.mpr whole.1, whole.2, whole.3⟩⟩

theorem toNat_bounds {digit : Char} (isDigit : digit.isDigit = true) :
    '0'.toNat ≤ digit.toNat ∧ digit.toNat - '0'.toNat < 10 := by
  simp only [Char.isDigit, ge_iff_le, Bool.and_eq_true, decide_eq_true_eq, UInt32.le_iff_toNat_le]
    at isDigit
  have zero : '0'.toNat = 48 := rfl
  have lower : 48 ≤ digit.toNat := isDigit.1
  have upper : digit.toNat ≤ 57 := isDigit.2
  omega

theorem digitChar_of_isDigit {digit : Char} (isDigit : digit.isDigit = true) :
    Nat.digitChar (digit.toNat - '0'.toNat) = digit := by
  obtain ⟨lower, small⟩ := toNat_bounds isDigit
  have zero : '0'.toNat = 48 := rfl
  apply Char.toNat_inj.mp
  rw [Nat.toNat_digitChar_of_lt_ten small]
  omega

/-- Reading on behind a number that is not zero writes on behind its digits. -/
theorem toDigits_foldl {digits : List Char} (all : ∀ digit ∈ digits, digit.isDigit = true)
    {start : Nat} (positive : 0 < start) :
    Nat.toDigits 10 (digits.foldl
        (fun total digit => total * 10 + (digit.toNat - '0'.toNat)) start)
      = Nat.toDigits 10 start ++ digits := by
  induction digits generalizing start with
  | nil => exact (List.append_nil _).symm
  | cons digit digits inductionHypothesis =>
      rw [List.forall_mem_cons] at all
      obtain ⟨-, small⟩ := toNat_bounds all.1
      have written := Nat.toDigits_append_toDigits (b := 10) (by decide) positive small
      rw [Nat.toDigits_of_lt_base small, digitChar_of_isDigit all.1, Nat.mul_comm] at written
      rw [List.foldl_cons, inductionHypothesis all.2 (by omega), ← written, List.append_assoc,
        List.singleton_append]

/-- **The digits of a whole number are those of the number they stand for.** -/
theorem toDigits_digitsValue {digits : List Char} (whole : WholeDigits digits) :
    Nat.toDigits 10 (digitsValue digits) = digits := by
  match digits with
  | [] => exact absurd rfl whole.nonempty
  | first :: rest =>
      obtain ⟨isDigit, others⟩ := List.forall_mem_cons.mp whole.all
      by_cases zero : first = '0'
      · rw [whole.leading (congrArg some zero)]
        rfl
      · obtain ⟨lower, small⟩ := toNat_bounds isDigit
        have positive : 0 < first.toNat - '0'.toNat := by
          have different : first.toNat ≠ '0'.toNat := fun same => zero (Char.toNat_inj.mp same)
          omega
        rw [digitsValue, List.foldl_cons, Nat.zero_mul, Nat.zero_add,
          toDigits_foldl others positive, Nat.toDigits_of_lt_base small,
          digitChar_of_isDigit isDigit, List.singleton_append]

/-- Few digits stand for a number that is not too long to be written. -/
theorem digitsValue_lt_digitBound {digits : List Char} (all : ∀ digit ∈ digits, digit.isDigit = true)
    (few : digits.length ≤ digitLimit) : digitsValue digits < digitBound := by
  have bounded : ∀ start : Nat, digits.foldl
      (fun total digit => total * 10 + (digit.toNat - '0'.toNat)) start
        < (start + 1) * 10 ^ digits.length := by
    clear few
    induction digits with
    | nil =>
        intro start
        rw [List.length_nil, Nat.pow_zero, Nat.mul_one]
        exact start.lt_succ_self
    | cons digit digits inductionHypothesis =>
        intro start
        rw [List.forall_mem_cons] at all
        obtain ⟨-, small⟩ := toNat_bounds all.1
        refine Nat.lt_of_lt_of_le (inductionHypothesis all.2 _) ?_
        rw [List.length_cons, Nat.pow_succ', ← Nat.mul_assoc]
        exact Nat.mul_le_mul_right _ (by dsimp only; omega)
  unfold digitBound
  generalize digitLimit = limit at few ⊢
  refine Nat.lt_of_lt_of_le (bounded 0) ?_
  rw [Nat.zero_add, Nat.one_mul]
  exact Nat.pow_le_pow_right (by decide) few

end Number

namespace Json

open Number

variable {digits text : List Char}

/-! ## Notations -/

/-- The notation of an integer. -/
inductive IntegerNotation : Int → List Char → Prop
  | whole {digits : List Char} (whole : WholeDigits digits) :
      IntegerNotation (digitsValue digits) digits
  /-- A negative integer; zero has no sign. -/
  | negative {digits : List Char} (whole : WholeDigits digits) (nonzero : digits ≠ ['0']) :
      IntegerNotation (-(digitsValue digits : Int)) ('-' :: digits)

/-- The number of digits in a text. -/
def digitCount (text : List Char) : Nat := text.countP Char.isDigit

theorem digitCount_of_all (all : ∀ digit ∈ digits, digit.isDigit = true) :
    digitCount digits = digits.length := List.countP_eq_length.mpr all

theorem digitCount_minus : digitCount ('-' :: digits) = digitCount digits := by
  rw [digitCount, List.countP_cons_of_neg (by decide), digitCount]

namespace IntegerNotation

variable {value : Int}

/-- The notation of an integer starts with a digit or a minus sign. -/
theorem exists_cons (written : IntegerNotation value text) :
    ∃ first rest, text = first :: rest ∧ (first.isDigit = true ∨ first = '-') := by
  cases written with
  | whole whole =>
      obtain ⟨first, rest, rfl⟩ := List.exists_cons_of_ne_nil whole.nonempty
      exact ⟨first, rest, rfl, .inl (List.forall_mem_cons.mp whole.all).1⟩
  | negative whole nonzero => exact ⟨'-', _, rfl, .inr rfl⟩

end IntegerNotation

/-! ## Reading -/

/-- The whole part of whole digits is all of them. -/
theorem takeWhole_of_wholeDigits (whole : WholeDigits digits) : takeWhole digits = (digits, []) := by
  unfold takeWhole
  split
  · rename_i rest
    have alone : '0' :: rest = ['0'] := whole.leading rfl
    rw [(List.cons.inj alone).2]
  · have taken := @List.takeWhile_append_of_pos _ Char.isDigit digits [] whole.all
    have dropped := @List.dropWhile_append_of_pos _ Char.isDigit digits [] whole.all
    rw [List.append_nil] at taken dropped
    rw [taken, dropped]
    exact congrArg (·, []) (List.append_nil digits)

/-- Whole digits are read as their number, unless there are too many. -/
theorem readNumber?_of_wholeDigits (whole : WholeDigits digits) (negative : Bool) :
    readNumber? negative digits = some (if digitLimit < digits.length then .error .tooManyDigits
      else .ok (.int (if negative then -(digitsValue digits : Int) else digitsValue digits), [])) := by
  have present : digits.isEmpty = false := List.isEmpty_eq_false_iff.mpr whole.nonempty
  unfold readNumber?
  rw [takeWhole_of_wholeDigits whole]
  simp only [present, Bool.false_eq_true, if_false, takeFraction, takeExponent, List.isEmpty_nil,
    Option.isNone_none, Bool.and_self, if_true]
  split <;> rfl

theorem ne_of_isDigit {first other : Char} (isDigit : first.isDigit = true)
    (isNone : other.isDigit = false) : first ≠ other := by
  rintro rfl
  rw [isDigit] at isNone
  cases isNone

/-- No word starts with a digit. -/
theorem readWord?_of_isDigit {first : Char} (isDigit : first.isDigit = true) (rest : List Char) :
    readWord? (first :: rest) = none := by
  have apart : ∀ other : Char, other.isDigit = false → (other == first) = false :=
    fun other isNone => beq_eq_false_iff_ne.mpr (ne_of_isDigit isDigit isNone).symm
  simp [readWord?, words, Text.dropWord?, apart]

/-- No word goes on with a digit behind a minus sign. -/
theorem readWord?_minus {first : Char} (isDigit : first.isDigit = true) (rest : List Char) :
    readWord? ('-' :: first :: rest) = none := by
  have apart : ('I' == first) = false :=
    beq_eq_false_iff_ne.mpr (ne_of_isDigit isDigit (by decide)).symm
  simp [readWord?, words, Text.dropWord?, apart]

variable [Runtime]

/-- A text that starts with no quote and no bracket, and with no word, is read as a number. -/
theorem readValue_of_number {first : Char} {rest : List Char} (noQuote : first ≠ '"')
    (noBracket : opens first = false) (noWord : readWord? (first :: rest) = none)
    (room budget : Nat) :
    readValue room (budget + 1) (first :: rest)
      = (if first = '-' then readNumber? true rest else readNumber? false (first :: rest)).getD
          (.error (.malformed .valueExpected (rest.length + 1))) := by
  have list : first ≠ '[' := by
    rintro rfl
    cases noBracket
  have mapping : first ≠ '\x7b' := by
    rintro rfl
    cases noBracket
  unfold readValue
  split
  · rename_i none
    cases none
  · rename_i empty _
    cases empty
  · rename_i same
    exact absurd (List.cons.inj same).1 noQuote
  · rename_i same
    exact absurd (List.cons.inj same).1 list
  · rename_i same
    exact absurd (List.cons.inj same).1 mapping
  · rw [noWord]
    dsimp only
    split
    · rename_i same
      obtain ⟨rfl, rfl⟩ := List.cons.inj same
      rfl
    · rename_i other
      rw [if_neg fun minus => other rest (congrArg (· :: rest) minus)]
      rfl

/-- Whole digits are read as a value of their own. -/
theorem readValue_of_wholeDigits (whole : WholeDigits digits) (room budget : Nat) :
    readValue room (budget + 1) digits
      = if digitLimit < digits.length then .error .tooManyDigits
        else .ok (.int (digitsValue digits), []) := by
  match digits with
  | [] => exact absurd rfl whole.nonempty
  | first :: rest =>
      have isDigit := (List.forall_mem_cons.mp whole.all).1
      have noBracket : opens first = false := by
        rw [opens, Bool.or_eq_false_iff, beq_eq_false_iff_ne, beq_eq_false_iff_ne]
        exact ⟨ne_of_isDigit isDigit (by decide), ne_of_isDigit isDigit (by decide)⟩
      rw [readValue_of_number (ne_of_isDigit isDigit (by decide)) noBracket
          (readWord?_of_isDigit isDigit rest), if_neg (ne_of_isDigit isDigit (by decide)),
        readNumber?_of_wholeDigits whole]
      rfl

/-- Whole digits behind a minus sign are read as a value of their own. -/
theorem readValue_minus (whole : WholeDigits digits) (room budget : Nat) :
    readValue room (budget + 1) ('-' :: digits)
      = if digitLimit < digits.length then .error .tooManyDigits
        else .ok (.int (-(digitsValue digits : Int)), []) := by
  match digits with
  | [] => exact absurd rfl whole.nonempty
  | first :: rest =>
      rw [readValue_of_number (by decide) (by decide)
          (readWord?_minus (List.forall_mem_cons.mp whole.all).1 rest), if_pos rfl,
        readNumber?_of_wholeDigits whole]
      rfl

/-! ## Documents -/

/-- A text without blanks in front that is read to its end is the value that is read. -/
theorem parse_of_readValue {text : String} {first : Char} {rest : List Char}
    {reading : Except Stop Value} (start : text.toList = first :: rest)
    (noBlank : isBlank first = false) (noMark : first ≠ '\uFEFF')
    (read : ∀ budget, readValue Runtime.jsonDepth (budget + 1) (first :: rest)
      = reading.map fun value => (value, [])) :
    parse text = located text.toList reading := by
  have unmarked : refuseMark (first :: rest) = .ok () := by
    unfold refuseMark
    split
    · rename_i same
      exact absurd (List.cons.inj same).1 noMark
    · rfl
  have skipped : skipBlanks (first :: rest) = first :: rest := by
    rw [skipBlanks, List.dropWhile_cons_of_neg (by simp [noBlank])]
  have document : readDocument (first :: rest) = reading := by
    have reads := read (2 * (first :: rest).length + 1)
    cases reading with
    | error stop => exact readDocument_of_error (by rw [skipped]; exact reads)
    | ok value => exact readDocument_of_ok (by rw [skipped]; exact reads)
  rw [parse, start, unmarked]
  exact congrArg (located (first :: rest)) document

namespace IntegerNotation

variable {value : Int}

/-- The notation of an integer is read to its end. -/
theorem readValue (written : IntegerNotation value text) (room budget : Nat) :
    Json.readValue room (budget + 1) text
      = (if digitLimit < digitCount text then Except.error Stop.tooManyDigits
        else .ok (.int value)).map fun value => (value, []) := by
  cases written with
  | whole whole =>
      rw [readValue_of_wholeDigits whole, digitCount_of_all whole.all]
      split <;> rfl
  | negative whole nonzero =>
      rw [readValue_minus whole, digitCount_minus, digitCount_of_all whole.all]
      split <;> rfl

/-- **The notation of an integer is read as the integer, unless it has more digits than are read.**
-/
theorem parse {text : String} (written : IntegerNotation value text.toList) :
    Json.parse text = if digitLimit < digitCount text.toList then .error .tooManyDigits
      else .ok (.int value) := by
  obtain ⟨first, rest, start, opening⟩ := written.exists_cons
  have reads := written.readValue Runtime.jsonDepth
  rw [start] at reads
  have noBlank : isBlank first = false := by
    rcases opening with isDigit | rfl
    · simp [isBlank, ne_of_isDigit isDigit]
    · rfl
  have noMark : first ≠ '\uFEFF' := by
    rcases opening with isDigit | rfl
    · exact ne_of_isDigit isDigit (by decide)
    · decide
  rw [parse_of_readValue start noBlank noMark reads, start]
  split <;> rfl

/-- **The notation of an integer is the text of the integer.** -/
theorem display {text : String} (written : IntegerNotation value text.toList) :
    (Value.int value).display = text := by
  have shown : (Value.int value).display = toString value := rfl
  rw [shown, Int.toString_eq_repr, Int.repr_eq_if]
  generalize start : text.toList = characters at written
  cases written with
  | whole whole =>
      rw [if_pos (Int.natCast_nonneg _), Int.toNat_natCast, Nat.repr_eq_ofList_toDigits,
        toDigits_digitsValue whole, ← start, String.ofList_toList]
  | @negative digits whole nonzero =>
      have positive : 0 < digitsValue digits := by
        refine Nat.pos_of_ne_zero fun zero => nonzero ?_
        rw [← toDigits_digitsValue whole, zero]
        rfl
      rw [if_neg (by omega), Int.neg_neg, Int.toNat_natCast, Nat.repr_eq_ofList_toDigits,
        toDigits_digitsValue whole, ← @String.ofList_toList text, start, String.ofList_cons]
      rfl

/-- An integer with few digits is written in this notation. -/
theorem asText {text : String} (written : IntegerNotation value text.toList)
    (few : digitCount text.toList ≤ digitLimit) : (Value.int value).asText = .ok text := by
  have short : isTooLong value = false := by
    have bounded : value.natAbs < digitBound := by
      generalize text.toList = characters at written few
      cases written with
      | whole whole =>
          rw [digitCount_of_all whole.all] at few
          exact digitsValue_lt_digitBound whole.all few
      | negative whole nonzero =>
          rw [digitCount_minus, digitCount_of_all whole.all] at few
          rw [Int.natAbs_neg, Int.natAbs_natCast]
          exact digitsValue_lt_digitBound whole.all few
    exact decide_eq_false (Nat.not_le.mpr bounded)
  rw [Value.asText_int short]
  exact congrArg Except.ok written.display

end IntegerNotation

end Json

end Routebook
