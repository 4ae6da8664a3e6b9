import Routebook.Proofs.Outcome
import Routebook.Text.Utf8

/-!
# Reading back what was written

A step of the reader takes the bytes of one character and yields that character
(`Text.utf8Step_utf8Bytes`).  The four lengths of the form are four cases, each of them a statement
on the numbers that the bytes carry: they are large enough not to be written more briefly, and they
are not reserved, so no byte is refused.  Reading a whole text therefore gives back the text that
was written (`Text.utf8Decode_utf8Encode`).  In the other direction a character that is read is
written as the bytes that it was read from, so bytes are read exactly when they are those of a text
(`Text.utf8Decode_eq_ok_iff`).
-/

namespace Routebook.Text

set_option autoImplicit false

/-! ## Bytes -/

theorem toNat_ofNat {number : Nat} (small : number < 0x100) :
    (UInt8.ofNat number).toNat = number :=
  UInt8.toNat_ofNat_of_lt small

/-- A byte that continues a character carries its six bits. -/
theorem continuation_ofNat {bits : Nat} (small : bits < 0x40) :
    isContinuation (UInt8.ofNat (0x80 + bits)) = true ∧
      payload (UInt8.ofNat (0x80 + bits)) = bits := by
  have bound : 0x80 + bits < 0x100 := by omega
  constructor
  · rw [isContinuation, toNat_ofNat bound, Bool.and_eq_true, decide_eq_true_eq, decide_eq_true_eq]
    omega
  · calc payload (UInt8.ofNat (0x80 + bits))
      _ = 0x80 + bits - 0x80 := congrArg (· - 0x80) (toNat_ofNat bound)
      _ = bits := Nat.add_sub_cancel_left ..

/-- A second byte is allowed when the character could not be written more briefly, is not reserved,
and is not beyond the last one. -/
theorem isSecondByte_ofNat {lead bits : Nat} (byteLead : lead < 0x100) (small : bits < 0x40)
    (long : lead = 0xE0 → 0x20 ≤ bits) (longest : lead = 0xF0 → 0x10 ≤ bits)
    (free : lead = 0xED → bits < 0x20) (inRange : lead = 0xF4 → bits < 0x10) :
    isSecondByte (UInt8.ofNat lead) (UInt8.ofNat (0x80 + bits)) = true := by
  have second : (UInt8.ofNat (0x80 + bits)).toNat = 0x80 + bits := toNat_ofNat (by omega)
  simp only [isSecondByte, secondByteRange, toNat_ofNat byteLead, second, beq_iff_eq,
    Bool.and_eq_true, decide_eq_true_eq]
  split
  · simp only
    omega
  · split
    · simp only
      omega
    · split
      · simp only
        omega
      · split <;> simp only <;> omega

/-! ## One step of the reader -/

section Steps

variable (rest : List UInt8)

theorem utf8Step_one {code : Nat} (small : code < 0x80) :
    utf8Step (UInt8.ofNat code) rest = .character (Char.ofNat code) 1 := by
  have lead : (UInt8.ofNat code).toNat = code := toNat_ofNat (by omega)
  simp only [utf8Step, lead]
  rw [if_pos small]

theorem utf8Step_two {high low : Nat} (long : 2 ≤ high) (most : high < 0x20) (small : low < 0x40) :
    utf8Step (UInt8.ofNat (0xC0 + high)) (UInt8.ofNat (0x80 + low) :: rest)
      = .character (Char.ofNat (high * 0x40 + low)) 2 := by
  have lead : (UInt8.ofNat (0xC0 + high)).toNat = 0xC0 + high := toNat_ofNat (by omega)
  obtain ⟨continues, carries⟩ := continuation_ofNat small
  simp only [utf8Step, lead, continues, carries, Nat.add_sub_cancel_left, if_true]
  rw [if_neg (by omega), if_neg (by omega), if_pos (by omega)]

theorem utf8Step_three {high middle low : Nat} (most : high < 0x10) (middleSmall : middle < 0x40)
    (small : low < 0x40) (long : high = 0 → 0x20 ≤ middle) (free : high = 0xD → middle < 0x20) :
    utf8Step (UInt8.ofNat (0xE0 + high))
        (UInt8.ofNat (0x80 + middle) :: UInt8.ofNat (0x80 + low) :: rest)
      = .character (Char.ofNat (high * 0x1000 + middle * 0x40 + low)) 3 := by
  have lead : (UInt8.ofNat (0xE0 + high)).toNat = 0xE0 + high := toNat_ofNat (by omega)
  have second : isSecondByte (UInt8.ofNat (0xE0 + high)) (UInt8.ofNat (0x80 + middle)) = true := by
    apply isSecondByte_ofNat <;> omega
  have carriesMiddle := (continuation_ofNat middleSmall).2
  obtain ⟨continues, carries⟩ := continuation_ofNat small
  simp only [utf8Step, lead, second, continues, carries, carriesMiddle, Nat.add_sub_cancel_left,
    Bool.not_true, Bool.false_eq_true, if_false, if_true]
  rw [if_neg (by omega), if_neg (by omega), if_neg (by omega), if_pos (by omega)]

theorem utf8Step_four {high upper middle low : Nat} (most : high < 5) (upperSmall : upper < 0x40)
    (middleSmall : middle < 0x40) (small : low < 0x40) (long : high = 0 → 0x10 ≤ upper)
    (inRange : high = 4 → upper < 0x10) :
    utf8Step (UInt8.ofNat (0xF0 + high))
        (UInt8.ofNat (0x80 + upper) :: UInt8.ofNat (0x80 + middle) :: UInt8.ofNat (0x80 + low)
          :: rest)
      = .character (Char.ofNat (high * 0x40000 + upper * 0x1000 + middle * 0x40 + low)) 4 := by
  have lead : (UInt8.ofNat (0xF0 + high)).toNat = 0xF0 + high := toNat_ofNat (by omega)
  have second : isSecondByte (UInt8.ofNat (0xF0 + high)) (UInt8.ofNat (0x80 + upper)) = true := by
    apply isSecondByte_ofNat <;> omega
  have carriesUpper := (continuation_ofNat upperSmall).2
  obtain ⟨continuesMiddle, carriesMiddle⟩ := continuation_ofNat middleSmall
  obtain ⟨continues, carries⟩ := continuation_ofNat small
  simp only [utf8Step, lead, second, continues, carries, continuesMiddle, carriesMiddle,
    carriesUpper, Nat.add_sub_cancel_left, Bool.not_true, Bool.false_eq_true, if_false, if_true]
  rw [if_neg (by omega), if_neg (by omega), if_neg (by omega), if_neg (by omega),
    if_pos (by omega)]

/-- **The bytes of a character are read as that character.** -/
theorem utf8Step_utf8Bytes (character : Char) :
    ∃ first more, utf8Bytes character = first :: more ∧
      utf8Step first (more ++ rest) = .character character (more.length + 1) := by
  have valid : character.toNat < 0xD800 ∨ 0xDFFF < character.toNat ∧ character.toNat < 0x110000 :=
    character.valid
  have same : Char.ofNat character.toNat = character := Char.ofNat_toNat character
  unfold utf8Bytes
  -- The four lengths speak of the number alone; `valid` is all that a character adds to it.
  generalize character.toNat = code at valid same
  subst same
  by_cases one : code < 0x80
  · refine ⟨_, _, if_pos one, ?_⟩
    exact utf8Step_one _ one
  by_cases two : code < 0x800
  · refine ⟨_, _, (if_neg one).trans (if_pos two), ?_⟩
    have number : code = code / 0x40 * 0x40 + code % 0x40 := by omega
    refine (utf8Step_two rest (by omega) (by omega) (by omega)).trans ?_
    rw [← number]
    rfl
  by_cases three : code < 0x10000
  · refine ⟨_, _, (if_neg one).trans ((if_neg two).trans (if_pos three)), ?_⟩
    have number : code = code / 0x1000 * 0x1000 + code / 0x40 % 0x40 * 0x40 + code % 0x40 := by
      omega
    refine (utf8Step_three rest (by omega) (by omega) (by omega) (by omega) (by omega)).trans ?_
    rw [← number]
    rfl
  · refine ⟨_, _, (if_neg one).trans ((if_neg two).trans (if_neg three)), ?_⟩
    have number : code = code / 0x40000 * 0x40000 + code / 0x1000 % 0x40 * 0x1000
        + code / 0x40 % 0x40 * 0x40 + code % 0x40 := by
      omega
    refine (utf8Step_four rest (by omega) (by omega) (by omega) (by omega) (by omega)
      (by omega)).trans ?_
    rw [← number]
    rfl

end Steps

/-! ## Whole texts -/

/-- Reading the bytes of a text within a sufficient budget gives the text. -/
theorem decodeStrictFrom_utf8Encode (encoding : String) (text : List Char) {budget : Nat}
    (enough : (utf8Encode text).length ≤ budget) (offset : Nat) :
    decodeStrictFrom encoding utf8Step budget offset (utf8Encode text) = .ok text := by
  induction text generalizing budget offset with
  | nil => cases budget <;> rfl
  | cons character text inductionHypothesis =>
      obtain ⟨first, more, bytes, step⟩ := utf8Step_utf8Bytes (utf8Encode text) character
      have whole : utf8Encode (character :: text) = first :: (more ++ utf8Encode text) := by
        rw [utf8Encode, List.flatMap_cons, bytes]
        rfl
      rw [whole] at enough ⊢
      cases budget with
      | zero => simp at enough
      | succ budget =>
          have fewer : (utf8Encode text).length ≤ budget := by
            simp only [List.length_cons, List.length_append] at enough
            omega
          rw [decodeStrictFrom, step]
          simp only [Nat.add_sub_cancel, List.drop_left, inductionHypothesis fewer]
          rfl

/-- **A text that is written as bytes is read back.** -/
theorem utf8Decode_utf8Encode (text : List Char) : utf8Decode (utf8Encode text) = .ok text :=
  decodeStrictFrom_utf8Encode "utf-8" text (Nat.le_refl _) 0

/-- A reader that replaces damage reads what a strict one accepts. -/
theorem decodeReplacingFrom_of_decodeStrictFrom {encoding : String}
    {step : UInt8 → List UInt8 → Step} {budget offset : Nat} {bytes : List UInt8} {text : List Char}
    (read : decodeStrictFrom encoding step budget offset bytes = .ok text) :
    decodeReplacingFrom step budget bytes = text := by
  induction budget generalizing offset bytes text with
  | zero => exact Except.ok.inj read
  | succ budget inductionHypothesis =>
      cases bytes with
      | nil => exact Except.ok.inj read
      | cons first rest =>
          rw [decodeStrictFrom] at read
          rw [decodeReplacingFrom]
          cases taken : step first rest with
          | damage defect length =>
              rw [taken] at read
              cases read
          | character value length =>
              rw [taken] at read
              dsimp only at read ⊢
              obtain ⟨others, later, made⟩ := Outcome.exists_of_bind read
              cases made
              rw [inductionHypothesis later]

theorem utf8DecodeReplacing_utf8Encode (text : List Char) :
    utf8DecodeReplacing (utf8Encode text) = text :=
  decodeReplacingFrom_of_decodeStrictFrom (utf8Decode_utf8Encode text)

/-! ## Writing back what was read -/

theorem toNat_ofNat_valid {code : Nat} (valid : code.isValidChar) :
    (Char.ofNat code).toNat = code := by
  rw [Char.ofNat, dif_pos valid]
  rfl

theorem ofNat_eq {number : Nat} (byte : UInt8) (same : number = byte.toNat) :
    UInt8.ofNat number = byte := by
  rw [same, UInt8.ofNat_toNat]

theorem isContinuation_iff {byte : UInt8} :
    isContinuation byte = true ↔ 0x80 ≤ byte.toNat ∧ byte.toNat < 0xC0 := by
  rw [isContinuation, Bool.and_eq_true, decide_eq_true_eq, decide_eq_true_eq]

/-- A second byte continues the character; it is large enough that the character could not be
written more briefly, and small enough that the character is neither reserved nor beyond the last
one. -/
theorem bounds_of_isSecondByte {first second : UInt8} (allowed : isSecondByte first second = true) :
    (0x80 ≤ second.toNat ∧ second.toNat < 0xC0) ∧ (first.toNat = 0xE0 → 0xA0 ≤ second.toNat) ∧
      (first.toNat = 0xED → second.toNat < 0xA0) ∧ (first.toNat = 0xF0 → 0x90 ≤ second.toNat) ∧
      (first.toNat = 0xF4 → second.toNat < 0x90) := by
  simp only [isSecondByte, secondByteRange, beq_iff_eq, Bool.and_eq_true, decide_eq_true_eq]
    at allowed
  grind

section Bytes

variable {first second third fourth : UInt8}

theorem utf8Bytes_one (lead : first.toNat < 0x80) : utf8Bytes (Char.ofNat first.toNat) = [first] := by
  unfold utf8Bytes
  rw [toNat_ofNat_valid (.inl (by omega))]
  exact (if_pos lead).trans (congrArg (· :: []) (ofNat_eq first rfl))

theorem utf8Bytes_two (long : 0xC2 ≤ first.toNat) (most : first.toNat < 0xE0)
    (continues : isContinuation second = true) :
    utf8Bytes (Char.ofNat ((first.toNat - 0xC0) * 0x40 + payload second)) = [first, second] := by
  obtain ⟨least, bound⟩ := isContinuation_iff.mp continues
  unfold utf8Bytes payload
  rw [toNat_ofNat_valid (.inl (by omega))]
  refine (if_neg (by omega)).trans ((if_pos (by omega)).trans ?_)
  rw [ofNat_eq first (by omega), ofNat_eq second (by omega)]

theorem utf8Bytes_three (long : 0xE0 ≤ first.toNat) (most : first.toNat < 0xF0)
    (allowed : isSecondByte first second = true) (continues : isContinuation third = true) :
    utf8Bytes (Char.ofNat
        ((first.toNat - 0xE0) * 0x1000 + payload second * 0x40 + payload third))
      = [first, second, third] := by
  obtain ⟨⟨least, bound⟩, shortest, free, -, -⟩ := bounds_of_isSecondByte allowed
  obtain ⟨thirdLeast, thirdBound⟩ := isContinuation_iff.mp continues
  unfold utf8Bytes payload
  rw [toNat_ofNat_valid (by unfold Nat.isValidChar; omega)]
  refine (if_neg (by omega)).trans ((if_neg (by omega)).trans ((if_pos (by omega)).trans ?_))
  rw [ofNat_eq first (by omega), ofNat_eq second (by omega), ofNat_eq third (by omega)]

theorem utf8Bytes_four (long : 0xF0 ≤ first.toNat) (most : first.toNat < 0xF5)
    (allowed : isSecondByte first second = true) (thirdContinues : isContinuation third = true)
    (continues : isContinuation fourth = true) :
    utf8Bytes (Char.ofNat ((first.toNat - 0xF0) * 0x40000 + payload second * 0x1000
        + payload third * 0x40 + payload fourth))
      = [first, second, third, fourth] := by
  obtain ⟨⟨least, bound⟩, -, -, shortest, inRange⟩ := bounds_of_isSecondByte allowed
  obtain ⟨thirdLeast, thirdBound⟩ := isContinuation_iff.mp thirdContinues
  obtain ⟨fourthLeast, fourthBound⟩ := isContinuation_iff.mp continues
  unfold utf8Bytes payload
  rw [toNat_ofNat_valid (by unfold Nat.isValidChar; omega)]
  refine (if_neg (by omega)).trans ((if_neg (by omega)).trans ((if_neg (by omega)).trans ?_))
  rw [ofNat_eq first (by omega), ofNat_eq second (by omega), ofNat_eq third (by omega),
    ofNat_eq fourth (by omega)]

end Bytes

/-- **A character that is read is written as the bytes that it was read from.** -/
theorem utf8Bytes_of_utf8Step {first : UInt8} {rest : List UInt8} {value : Char} {length : Nat}
    (step : utf8Step first rest = .character value length) :
    ∃ more tail, rest = more ++ tail ∧ utf8Bytes value = first :: more ∧
      length = more.length + 1 := by
  unfold utf8Step at step
  dsimp only at step
  split at step
  · obtain ⟨rfl, rfl⟩ := Step.character.inj step
    exact ⟨[], rest, rfl, utf8Bytes_one (by assumption), rfl⟩
  split at step
  · cases step
  split at step
  · split at step
    · cases step
    · rename_i second tail
      split at step
      · obtain ⟨rfl, rfl⟩ := Step.character.inj step
        exact ⟨[second], tail, rfl, utf8Bytes_two (by omega) (by omega) (by assumption), rfl⟩
      · cases step
  split at step
  · split at step
    · cases step
    · rename_i second _
      split at step
      · cases step
      · rename_i allowed
        split at step
        · cases step
        · rename_i third tail
          split at step
          · obtain ⟨rfl, rfl⟩ := Step.character.inj step
            exact ⟨[second, third], tail, rfl, utf8Bytes_three (by omega) (by omega)
              (by simpa using allowed) (by assumption), rfl⟩
          · cases step
  split at step
  · split at step
    · cases step
    · rename_i second _
      split at step
      · cases step
      · rename_i allowed
        split at step
        · cases step
        · rename_i third _
          split at step
          · cases step
          · rename_i thirdContinues
            split at step
            · cases step
            · rename_i fourth tail
              split at step
              · obtain ⟨rfl, rfl⟩ := Step.character.inj step
                exact ⟨[second, third, fourth], tail, rfl, utf8Bytes_four (by omega) (by omega)
                  (by simpa using allowed) (by simpa using thirdContinues) (by assumption), rfl⟩
              · cases step
  · cases step

/-- A text that is read within a sufficient budget is written as the bytes that it was read from. -/
theorem utf8Encode_of_decodeStrictFrom (encoding : String) {bytes : List UInt8} {budget offset : Nat}
    (enough : bytes.length ≤ budget) {text : List Char}
    (read : decodeStrictFrom encoding utf8Step budget offset bytes = .ok text) :
    utf8Encode text = bytes := by
  induction budget generalizing bytes offset text with
  | zero =>
      cases List.eq_nil_of_length_eq_zero (Nat.le_zero.mp enough)
      cases read
      rfl
  | succ budget inductionHypothesis =>
      cases bytes with
      | nil =>
          cases read
          rfl
      | cons first rest =>
          rw [decodeStrictFrom] at read
          split at read
          · rename_i value length step
            obtain ⟨more, tail, rfl, written, rfl⟩ := utf8Bytes_of_utf8Step step
            rw [Nat.add_sub_cancel, List.drop_left] at read
            obtain ⟨others, later, made⟩ := Outcome.exists_of_bind read
            cases made
            have fewer : tail.length ≤ budget := by
              simp only [List.length_cons, List.length_append] at enough
              omega
            have same := inductionHypothesis fewer later
            rw [utf8Encode] at same ⊢
            rw [List.flatMap_cons, same, written]
            rfl
          · cases read

/-- **Bytes are read as a text exactly when they are the bytes of that text.** -/
theorem utf8Decode_eq_ok_iff {bytes : List UInt8} {text : List Char} :
    utf8Decode bytes = .ok text ↔ utf8Encode text = bytes := by
  constructor
  · exact utf8Encode_of_decodeStrictFrom "utf-8" (Nat.le_refl _)
  · rintro rfl
    exact utf8Decode_utf8Encode text

end Routebook.Text
