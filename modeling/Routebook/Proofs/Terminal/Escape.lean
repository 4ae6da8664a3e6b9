import Mathlib.Data.List.TakeWhile
import Routebook.Proofs.Terminal.Markup

/-!
# Escaped texts

When a text is escaped, every tag in it is read as a stretch, so the text is read as its stretches
(`Terminal.piecesFrom_escapeTags`).  The backslashes at its end are the exception: a single one is
doubled by escaping, and before the tag that closes a style each pair of them is read as one.  What
is shown in the end is said for an escaped text in a style (`Terminal.markedText_styled`) and for
one that follows a heading (`Terminal.markedText_headed`); neither is ever refused.
-/

namespace Routebook.Terminal

set_option autoImplicit false

/-! ## Escaped texts -/

theorem tagRest?_tagged (count : Nat) (content after : List Char) :
    tagRest? (tagged count content after) = none := by
  induction count with
  | zero => rfl
  | succ count inductionHypothesis =>
      change tagRest? ('\\' :: tagged count content after) = none
      rw [tagRest?, inductionHypothesis]
      rfl

/-- A text with a tag in front completes no other tag. -/
theorem apart_tagged (count : Nat) (content after : List Char) : Apart (tagged count content after) :=
  ⟨tagRest?_tagged count content after, by cases count <;> rfl⟩

/-- A text that does not complete a tag does not complete one when the tags in it are escaped. -/
theorem tagRest?_escapeTags {text : List Char} (unclosed : tagRest? text = none) :
    tagRest? (escapeTags text) = none := by
  fun_induction escapeTags text with
  | case1 => rfl
  | case2 character rest count content after found inductionHypothesis =>
      exact tagRest?_tagged _ _ _
  | case3 character rest missing inductionHypothesis =>
      rw [tagRest?] at unclosed ⊢
      split
      · rename_i closes
        rw [if_pos closes] at unclosed
        cases unclosed
      · rename_i stays
        rw [if_neg stays] at unclosed
        split
        · rfl
        · rename_i inside
          rw [if_neg inside, Option.map_eq_none_iff] at unclosed
          rw [inductionHypothesis unclosed]
          rfl

/-- Escaping keeps what a text starts with, unless that is an escaped tag. -/
theorem head?_escapeTags (text : List Char) :
    (escapeTags text).head? = text.head? ∨ (escapeTags text).head? = some '\\' := by
  fun_cases escapeTags text with
  | case1 => exact .inl rfl
  | case2 character rest count content after found =>
      exact .inr (by rw [List.replicate_succ]; rfl)
  | case3 character rest missing => exact .inl rfl

/-- A bracket that starts no tag starts none when the tags after it are escaped. -/
theorem tag?_escapeTags {text : List Char} (missing : tag? ('[' :: text) = none) :
    tag? ('[' :: escapeTags text) = none := by
  cases text with
  | nil => rwa [escapeTags_nil]
  | cons first rest =>
      cases opens : opensTag first with
      | false =>
          apply tag?_of_head
          rcases head?_escapeTags (first :: rest) with same | backslash
          · simp [same, opens]
          · rw [backslash]
            decide
      | true =>
          have notBackslash : first ≠ '\\' := by
            rintro rfl
            revert opens
            decide
          have notBracket : first ≠ '[' := by
            rintro rfl
            revert opens
            decide
          have stays : escapedTag? (first :: rest) = none := by
            rw [escapedTag?, if_neg (by simpa using notBackslash), tag?_of_ne notBracket]
            rfl
          rw [tag?, if_pos opens, Option.map_eq_none_iff] at missing
          rw [escapeTags_cons stays, tag?, if_pos opens, tagRest?_escapeTags missing]
          rfl

/-- No tag starts where none started before the tags were escaped. -/
theorem escapedTag?_escapeTags {text : List Char} (missing : escapedTag? text = none) :
    escapedTag? (escapeTags text) = none := by
  induction text with
  | nil => rw [escapeTags_nil, missing]
  | cons character rest inductionHypothesis =>
      rw [escapeTags_cons missing]
      rw [escapedTag?] at missing ⊢
      split
      · rename_i backslash
        rw [if_pos backslash, Option.map_eq_none_iff] at missing
        rw [inductionHypothesis missing]
        rfl
      · rename_i other
        rw [if_neg other, Option.map_eq_none_iff] at missing
        rw [Option.map_eq_none_iff]
        by_cases opens : character = '['
        · subst opens
          exact tag?_escapeTags missing
        · exact tag?_of_ne opens _

/-- Escaping keeps the last character. -/
theorem getLast?_escapeTags (text : List Char) : (escapeTags text).getLast? = text.getLast? := by
  fun_induction escapeTags text with
  | case1 => rfl
  | case2 character rest count content after found inductionHypothesis =>
      rw [(escapedTag?_eq_some_iff.mp found).1, tagged]
      cases after <;> simp_all [List.getLast?_append, List.getLast?_cons]
  | case3 character rest missing inductionHypothesis =>
      rw [List.getLast?_cons, List.getLast?_cons, inductionHypothesis]

theorem unslashed_of_append {front back : List Char}
    (unslashed : (front ++ back).getLast? ≠ some '\\') : back.getLast? ≠ some '\\' := by
  intro slashed
  rw [List.getLast?_append, slashed] at unslashed
  exact unslashed rfl

/-- What is read of an escaped tag is its backslashes and the tag. -/
theorem escapedPieces_escaped (count : Nat) (content : List Char) :
    escapedPieces (2 * count + 1) content
      = (backslashes count ++ [('[' :: (content ++ [']']))]).map .plain := by
  have half : (2 * count + 1) / 2 = count := by omega
  have odd : (2 * count + 1) % 2 = 1 := by omega
  rw [escapedPieces, half, odd, backslashes]
  split <;> rfl

/-- Where no tag starts, none starts after escaping, also if a tag follows what does not end in a
backslash. -/
theorem escapedTag?_escapeTags_append {back : List Char} (apart : Apart back) {character : Char}
    {rest : List Char} (missing : escapedTag? (character :: rest) = none)
    (separate : back = [] ∨ (character :: rest).getLast? ≠ some '\\') :
    escapedTag? (escapeTags (character :: rest) ++ back) = none := by
  have missingEscaped := escapedTag?_escapeTags missing
  rcases separate with rfl | unslashed
  · rwa [List.append_nil]
  · obtain ⟨last, isLast⟩ : ∃ last, (character :: rest).getLast? = some last :=
      ⟨_, List.getLast?_cons⟩
    have present : last ∈ escapeTags (character :: rest) := by
      apply List.mem_of_getLast?
      rw [getLast?_escapeTags, isLast]
    have different : last ≠ '\\' := by
      rintro rfl
      exact unslashed isLast
    rw [escapedTag?_append apart ⟨last, present, different⟩, missingEscaped]
    rfl

/-- A text with escaped tags is read as its stretches.  A tag may follow it if its last character is
not a backslash. -/
theorem piecesFrom_escapeTags {back : List Char} {more : List Piece} (apart : Apart back)
    (reads : ∀ pending, piecesFrom pending back = (flushed pending).map .plain ++ more)
    {text : List Char} (separate : back = [] ∨ text.getLast? ≠ some '\\') (pending : List Char) :
    piecesFrom pending (escapeTags text ++ back)
      = (fragmentsFrom pending text).map .plain ++ more := by
  fun_induction fragmentsFrom pending text with
  | case1 pending => rw [escapeTags_nil, List.nil_append, reads]
  | case2 pending character rest count content after found inductionHypothesis =>
      obtain ⟨parts, isContent⟩ := escapedTag?_eq_some_iff.mp found
      have foundEscaped : escapedTag? (escapeTags (character :: rest) ++ back)
          = some (2 * count + 1, content, escapeTags after ++ back) := by
        rw [escapedTag?_eq_some_iff, escapeTags_tag found]
        exact ⟨by simp [tagged], isContent⟩
      have separateAfter : back = [] ∨ after.getLast? ≠ some '\\' := by
        have whole : character :: rest
            = (List.replicate count '\\' ++ '[' :: (content ++ [']'])) ++ after := by
          rw [parts, tagged]
          simp
        refine separate.imp_right fun unslashed => ?_
        rw [whole] at unslashed
        exact unslashed_of_append unslashed
      rw [piecesFrom_tag foundEscaped, inductionHypothesis separateAfter, escapedPieces_escaped]
      simp
  | case3 pending character rest missing inductionHypothesis =>
      have stays := escapedTag?_escapeTags_append apart missing separate
      rw [escapeTags_cons missing, List.cons_append] at stays ⊢
      rw [piecesFrom_cons stays]
      apply inductionHypothesis
      refine separate.imp_right fun unslashed => ?_
      rw [← List.singleton_append] at unslashed
      exact unslashed_of_append unslashed

/-! ## Backslashes at the end -/

theorem escapedTag?_backslashes (count : Nat) : escapedTag? (List.replicate count '\\') = none := by
  induction count with
  | zero => rfl
  | succ count inductionHypothesis =>
      rw [List.replicate_succ, escapedTag?, inductionHypothesis]
      rfl

/-- Backslashes at the end of a text take no part in its last tag. -/
theorem escapedTag?_append_backslashes (text : List Char) (count : Nat) :
    escapedTag? (text ++ List.replicate count '\\')
      = (escapedTag? text).map fun found =>
          (found.1, found.2.1, found.2.2 ++ List.replicate count '\\') := by
  have apart : Apart (List.replicate count '\\') := by
    refine ⟨?_, by cases count <;> rfl⟩
    induction count with
    | zero => rfl
    | succ count inductionHypothesis =>
        rw [List.replicate_succ, tagRest?, inductionHypothesis]
        rfl
  by_cases unfinished : ∃ character ∈ text, character ≠ '\\'
  · exact escapedTag?_append apart unfinished
  · have all : text = List.replicate text.length '\\' := by
      refine List.eq_replicate_iff.mpr ⟨rfl, fun character present => ?_⟩
      by_contra different
      exact unfinished ⟨character, present, different⟩
    rw [all, ← List.replicate_add, escapedTag?_backslashes, escapedTag?_backslashes]
    rfl

theorem fragmentsFrom_backslashes (pending : List Char) (count : Nat) :
    fragmentsFrom pending (List.replicate count '\\')
      = flushed (List.replicate count '\\' ++ pending) := by
  induction count generalizing pending with
  | zero => exact fragmentsFrom_nil
  | succ count inductionHypothesis =>
      have missing := escapedTag?_backslashes (count + 1)
      rw [List.replicate_succ] at missing
      rw [List.replicate_succ, fragmentsFrom_cons missing, inductionHypothesis,
        List.append_cons, ← List.replicate_succ', List.replicate_succ]

/-- Backslashes at the end of a text are shown. -/
theorem shownFragments_backslashes (pending text : List Char) (count : Nat) :
    shownFragments (fragmentsFrom pending (text ++ List.replicate count '\\'))
      = shownFragments (fragmentsFrom pending text) ++ List.replicate count '\\' := by
  fun_induction fragmentsFrom pending text with
  | case1 pending =>
      rw [List.nil_append, fragmentsFrom_backslashes, shownFragments_flushed, shownFragments_flushed,
        List.reverse_append, List.reverse_replicate, shownPiece_backslashes]
  | case2 pending character rest count content after found inductionHypothesis =>
      have stillFound := escapedTag?_append_backslashes (character :: rest)
      rw [found] at stillFound
      rw [fragmentsFrom_tag (stillFound _)]
      simp only [shownFragments_append, shownFragments_cons, inductionHypothesis, List.append_assoc]
  | case3 pending character rest missing inductionHypothesis =>
      have stillMissing := escapedTag?_append_backslashes (character :: rest) count
      rw [missing, List.cons_append] at stillMissing
      rw [List.cons_append, fragmentsFrom_cons stillMissing, inductionHypothesis]

theorem shownText_backslashes (text : List Char) (count : Nat) :
    shownText (text ++ List.replicate count '\\') = shownText text ++ List.replicate count '\\' :=
  shownFragments_backslashes [] text count

theorem escapeTags_backslashes (text : List Char) (count : Nat) :
    escapeTags (text ++ List.replicate count '\\')
      = escapeTags text ++ List.replicate count '\\' := by
  have alone : escapeTags (List.replicate count '\\') = List.replicate count '\\' := by
    induction count with
    | zero => exact escapeTags_nil
    | succ count inductionHypothesis =>
        have missing := escapedTag?_backslashes (count + 1)
        rw [List.replicate_succ] at missing ⊢
        rw [escapeTags_cons missing, inductionHypothesis]
  fun_induction escapeTags text with
  | case1 => exact alone
  | case2 character rest number content after found inductionHypothesis =>
      have stillFound := escapedTag?_append_backslashes (character :: rest) count
      rw [found] at stillFound
      rw [escapeTags_tag stillFound, inductionHypothesis, tagged]
      simp
  | case3 character rest missing inductionHypothesis =>
      have stillMissing := escapedTag?_append_backslashes (character :: rest) count
      rw [missing, List.cons_append] at stillMissing
      rw [List.cons_append, escapeTags_cons stillMissing, inductionHypothesis, List.cons_append]

/-- The number of backslashes at the end of a text. -/
def trailing (text : List Char) : Nat := (text.reverse.takeWhile (· == '\\')).length

/-- A text without the backslashes at its end. -/
def body (text : List Char) : List Char := (text.reverse.dropWhile (· == '\\')).reverse

theorem body_append_trailing (text : List Char) :
    body text ++ List.replicate (trailing text) '\\' = text := by
  have run : text.reverse.takeWhile (· == '\\') = List.replicate (trailing text) '\\' :=
    List.eq_replicate_iff.mpr ⟨rfl, fun character present => by
      simpa using List.mem_takeWhile_imp present⟩
  rw [body, ← List.reverse_replicate, ← run, ← List.reverse_append, List.takeWhile_append_dropWhile,
    List.reverse_reverse]

theorem getLast?_body (text : List Char) : (body text).getLast? ≠ some '\\' := by
  intro slashed
  rw [body, List.getLast?_reverse] at slashed
  have stopped := List.head?_dropWhile_not (· == '\\') text.reverse
  rw [slashed] at stopped
  cases stopped

/-- The number of backslashes at the end of a text after it is escaped: a single one is doubled. -/
def doubled (count : Nat) : Nat := if count = 1 then 2 else count

theorem escape_eq (text : List Char) :
    escape text = escapeTags (body text) ++ List.replicate (doubled (trailing text)) '\\' := by
  have parts : escapeTags text
      = escapeTags (body text) ++ List.replicate (trailing text) '\\' := by
    rw [← escapeTags_backslashes, body_append_trailing]
  have unslashed : (escapeTags (body text)).reverse.head? ≠ some '\\' := by
    rw [List.head?_reverse, getLast?_escapeTags]
    exact getLast?_body text
  rw [escape, parts, List.reverse_append, List.reverse_replicate]
  match trailing text with
  | 0 =>
      rw [List.replicate_zero, List.nil_append, List.append_nil]
      split
      · rename_i same
        rw [same] at unslashed
        exact absurd rfl unslashed
      · rename_i same
        rw [same] at unslashed
        exact absurd rfl unslashed
      · exact (List.append_nil _).symm
  | 1 =>
      have twice : List.replicate (doubled 1) '\\' = ['\\'] ++ ['\\'] := rfl
      rw [List.replicate_one, twice, List.singleton_append]
      cases before : (escapeTags (body text)).reverse with
      | nil => simp
      | cons last others =>
          have different : last ≠ '\\' := by
            rintro rfl
            rw [before] at unslashed
            exact unslashed rfl
          simp [different]
  | count + 2 =>
      have same : doubled (count + 2) = count + 2 := if_neg (by omega)
      rw [same, List.replicate_succ, List.replicate_succ]
      rfl

/-! ## Reading escaped texts -/

/-- A text without backslashes and brackets is read as it is. -/
theorem piecesFrom_plain {front : List Char} (plain : '\\' ∉ front ∧ '[' ∉ front)
    (pending back : List Char) :
    piecesFrom pending (front ++ back) = piecesFrom (front.reverse ++ pending) back := by
  induction front generalizing pending with
  | nil => rfl
  | cons character front inductionHypothesis =>
      obtain ⟨unslashed, unbracketed⟩ := plain
      have notBackslash : character ≠ '\\' := (List.ne_of_not_mem_cons unslashed).symm
      have notBracket : character ≠ '[' := (List.ne_of_not_mem_cons unbracketed).symm
      have later : '\\' ∉ front ∧ '[' ∉ front :=
        ⟨List.not_mem_of_not_mem_cons unslashed, List.not_mem_of_not_mem_cons unbracketed⟩
      have stays : escapedTag? (character :: (front ++ back)) = none := by
        rw [escapedTag?, if_neg (by simpa using notBackslash), tag?_of_ne notBracket]
        rfl
      rw [List.cons_append, piecesFrom_cons stays, inductionHypothesis later, List.reverse_cons,
        List.append_assoc, List.singleton_append]

theorem piecesFrom_tagged {content : List Char} (isContent : IsTagContent content) (count : Nat)
    (pending after : List Char) :
    piecesFrom pending (tagged count content after)
      = (flushed pending).map .plain ++ escapedPieces count content ++ piecesFrom [] after :=
  piecesFrom_tag (escapedTag?_eq_some_iff.mpr ⟨rfl, isContent⟩)

/-- An escaped text before a closing tag is read as its stretches, and then as what is left of the
backslashes at its end. -/
theorem piecesFrom_escape_tagged {content : List Char} (isContent : IsTagContent content)
    (pending text : List Char) :
    piecesFrom pending (escape text ++ tagged 0 content [])
      = (fragmentsFrom pending (body text)).map .plain
          ++ escapedPieces (doubled (trailing text)) content := by
  have joined : escape text ++ tagged 0 content []
      = escapeTags (body text) ++ tagged (doubled (trailing text)) content [] := by
    rw [escape_eq, List.append_assoc]
    rfl
  have reads : ∀ pending, piecesFrom pending (tagged (doubled (trailing text)) content [])
      = (flushed pending).map .plain ++ escapedPieces (doubled (trailing text)) content := by
    intro pending
    rw [piecesFrom_tagged isContent, piecesFrom_nil]
    exact List.append_nil _
  rw [joined, piecesFrom_escapeTags (apart_tagged _ _ _) reads (.inr (getLast?_body text))]

/-- An escaped text at the end is read as its stretches and the backslashes at its end. -/
theorem piecesFrom_escape (pending text : List Char) :
    piecesFrom pending (escape text)
      = (fragmentsFrom pending
          (body text ++ List.replicate (doubled (trailing text)) '\\')).map .plain := by
  have reads : ∀ pending, piecesFrom pending [] = (flushed pending).map .plain ++ [] := by
    intro pending
    rw [piecesFrom_nil, List.append_nil]
  have whole : piecesFrom pending
      (escapeTags (body text ++ List.replicate (doubled (trailing text)) '\\') ++ []) = _ :=
    piecesFrom_escapeTags ⟨rfl, rfl⟩ reads (.inl rfl) pending
  rwa [List.append_nil, List.append_nil, escapeTags_backslashes, ← escape_eq] at whole

theorem styled_eq (style : String) (text : List Char) :
    styled style text
      = tagged 0 style.toList (text ++ tagged 0 ('/' :: style.toList) []) := rfl

/-- What is left of backslashes before the tag that closes a style: each pair shows as one, and a
single one shows the tag. -/
def leftOver (style : List Char) (count : Nat) : List Char :=
  List.replicate (count / 2) '\\' ++ if count % 2 = 1 then '[' :: ('/' :: style ++ [']']) else []

/-! ## Styles -/

/-- A style that is the last one open is the one that is found by its name. -/
theorem takeStyle_cons (style : OpenStyle) (rest : List OpenStyle) :
    takeStyle style.name (style :: rest) = some (style, rest) := by
  rw [takeStyle, if_pos (beq_self_eq_true _)]

variable [Dialect]

/-- Whether a text can name a style that is opened and closed around another text. -/
structure IsStyle (style : List Char) : Prop where
  isContent : IsTagContent style
  opening : style.head? ≠ some '/'
  plain : '=' ∉ style ∧ ':' ∉ style ∧ '\\' ∉ style
  trimmed : Text.trim style = style
  readable : (Dialect.normalStyle style).isOk = true

/-- Whether a style is open behind the tag that names it, until the tag with a slash closes it. -/
structure Opens (style : List Char) (opened : OpenStyle) : Prop where
  opening : ∀ openStyles, applyTag openStyles style = .ok (opened :: openStyles)
  closing : ∀ openStyles, applyTag (opened :: openStyles) ('/' :: style) = .ok openStyles

section Styles

variable {style : List Char}

theorem IsStyle.isContent_closing (isStyle : IsStyle style) : IsTagContent ('/' :: style) := by
  refine ⟨rfl, ?_, ?_⟩
  · simp [isStyle.isContent.2.1]
  · simp [isStyle.isContent.2.2]

/-- A tag without parameters that starts with no slash opens a style. -/
theorem applyTag_of_opening {content : List Char} (bare : '=' ∉ content)
    (opening : content.head? ≠ some '/') (openStyles : List OpenStyle) :
    applyTag openStyles content = do
      let opened : OpenStyle := ⟨← Dialect.normalStyle content, none⟩
      opened.requireReadable
      return opened :: openStyles := by
  unfold applyTag
  rw [Text.cut_of_not_mem bare]
  cases content with
  | nil => rfl
  | cons first rest =>
      dsimp only
      split
      · rename_i written same
        rw [same] at opening
        exact absurd rfl opening
      · rfl

/-- A tag without parameters that starts with a slash closes a style. -/
theorem applyTag_of_closing {written : List Char} (bare : '=' ∉ '/' :: written)
    (openStyles : List OpenStyle) :
    applyTag openStyles ('/' :: written) = do
      let (closed, rest) ← closeStyle openStyles written
      closed.requireValue
      return rest := by
  unfold applyTag
  rw [Text.cut_of_not_mem bare]
  rfl

/-- The tag of a style opens it, and the tag with a slash closes it: a name in its normal form is
found again, and without parameters there is nothing to look up or to evaluate. -/
theorem IsStyle.exists_opens (isStyle : IsStyle style) : ∃ opened, Opens style opened := by
  obtain ⟨normal, read⟩ := Outcome.exists_of_isOk isStyle.readable
  have visible : (Text.trim style).isEmpty = false := by
    rw [isStyle.trimmed, List.isEmpty_eq_false_iff]
    rintro rfl
    cases isStyle.isContent.1
  refine ⟨⟨normal, none⟩, fun openStyles => ?_, fun openStyles => ?_⟩
  · rw [applyTag_of_opening isStyle.plain.1 isStyle.opening, read]
    rfl
  · have closed : closeStyle (⟨normal, none⟩ :: openStyles) style
        = .ok (⟨normal, none⟩, openStyles) := by
      rw [closeStyle, if_neg (by simp [visible]), isStyle.trimmed, read]
      have taken := takeStyle_cons ⟨normal, none⟩ openStyles
      dsimp only at taken
      simp only [Except.bind, bind, taken]
      rfl
    have valued : (OpenStyle.mk normal none).requireValue = .ok () := by
      simp [OpenStyle.requireValue]
    rw [applyTag_of_closing (by simp [isStyle.plain.1]), closed]
    change ((OpenStyle.mk normal none).requireValue >>= fun _ => pure openStyles) = _
    rw [valued]
    rfl

/-- The closing tag shows as it is if it is escaped. -/
theorem IsStyle.literal_closing (isStyle : IsStyle style) :
    Literal ('[' :: ('/' :: style ++ [']'])) := by
  obtain ⟨-, colonless, unslashed⟩ := isStyle.plain
  refine ⟨fun escaped => ?_, pictureless_of_colonless (by simp [colonless])⟩
  have present : '\\' ∈ '[' :: ('/' :: style ++ [']']) := escaped.subset (by simp)
  simp [unslashed] at present

end Styles

/-! ## Reading styled texts -/

/-- What is left of backslashes before the tag that closes a style. -/
theorem textOfPieces_escapedPieces {style : List Char} {opened : OpenStyle}
    (isStyle : IsStyle style) (opens : Opens style opened) (count : Nat) :
    textOfPieces [opened] (escapedPieces count ('/' :: style)) = .ok (leftOver style count) := by
  have run : shownPiece (List.replicate (count / 2) '\\') = List.replicate (count / 2) '\\' := by
    have shown := shownPiece_backslashes [] (count / 2)
    rwa [List.nil_append, shownPiece_nil, List.nil_append] at shown
  have last : textOfPieces [opened]
      [if count % 2 == 1 then .plain ('[' :: ('/' :: style ++ [']'])) else .tag ('/' :: style)]
        = .ok (if count % 2 = 1 then '[' :: ('/' :: style ++ [']']) else []) := by
    by_cases odd : count % 2 = 1
    · rw [if_pos odd, if_pos (by simpa using odd), textOfPieces,
        shownPiece_eq_self isStyle.literal_closing, textOfPieces]
      exact congrArg Except.ok (List.append_nil _)
    · rw [if_neg odd, if_neg (by simpa using odd), textOfPieces, opens.closing]
      rfl
  rw [escapedPieces, leftOver]
  split
  · rename_i alone
    rw [eq_of_beq alone]
    exact last
  · rw [List.singleton_append, textOfPieces, last, run]
    rfl

section Shown

variable {style : String}

/-- What follows the opening tag of a style. -/
theorem textOfPieces_styled {opened : OpenStyle} (isStyle : IsStyle style.toList)
    (opens : Opens style.toList opened) (text : List Char) :
    textOfPieces [] (pieces (styled style text))
      = textOfPieces [opened] (piecesFrom [] (text ++ tagged 0 ('/' :: style.toList) [])) := by
  rw [pieces, styled_eq, piecesFrom_tagged isStyle.isContent]
  change textOfPieces [] (.tag style.toList :: piecesFrom [] _) = _
  rw [textOfPieces, opens.opening]
  rfl

/-- **An escaped text in a style shows its stretches and what is left of the backslashes at its
end.** -/
theorem markedText_styled (isStyle : IsStyle style.toList) (text : List Char) :
    markedText (styled style (escape text))
      = .ok (uncontrolled
          (shownText (body text) ++ leftOver style.toList (doubled (trailing text)))) := by
  obtain ⟨opened, opens⟩ := isStyle.exists_opens
  rw [markedText, textOfPieces_styled isStyle opens,
    piecesFrom_escape_tagged isStyle.isContent_closing, textOfPieces_map_plain,
    textOfPieces_escapedPieces isStyle opens]
  rfl

/-- A name in escaped brackets may stand in front. -/
theorem markedText_styled_named (isStyle : IsStyle style.toList) {name : List Char}
    (isContent : IsTagContent name) (literal : Literal ('[' :: (name ++ [']']))) (text : List Char) :
    markedText (styled style (tagged 1 name (' ' :: escape text)))
      = .ok (uncontrolled ('[' :: (name ++ ']' :: ' ' :: (shownText (body text)
          ++ leftOver style.toList (doubled (trailing text)))))) := by
  have joined : tagged 1 name (' ' :: escape text) ++ tagged 0 ('/' :: style.toList) []
      = tagged 1 name ([' '] ++ (escape text ++ tagged 0 ('/' :: style.toList) [])) := by
    simp [tagged]
  obtain ⟨opened, opens⟩ := isStyle.exists_opens
  have reads : textOfPieces [opened]
      (piecesFrom [' '] (escape text ++ tagged 0 ('/' :: style.toList) []))
        = .ok (' ' :: (shownText (body text)
            ++ leftOver style.toList (doubled (trailing text)))) := by
    rw [piecesFrom_escape_tagged isStyle.isContent_closing, textOfPieces_map_plain,
      textOfPieces_escapedPieces isStyle opens, ← List.nil_append [' '], shownFragments_space]
    rfl
  rw [markedText, textOfPieces_styled isStyle opens, joined, piecesFrom_tagged isContent,
    piecesFrom_plain (by decide)]
  change ((textOfPieces [opened] (.plain ('[' :: (name ++ [']']))
    :: piecesFrom [' '] (escape text ++ tagged 0 ('/' :: style.toList) []))).map _) = _
  rw [textOfPieces, reads, shownPiece_eq_self literal]
  simp [Except.map, uncontrolled]

/-- **An escaped text after a heading in a style shows its stretches and the backslashes at its
end.** -/
theorem markedText_headed (isStyle : IsStyle style.toList) {heading : List Char}
    (plain : '\\' ∉ heading ∧ '[' ∉ heading) (nonempty : heading ≠ [])
    (literal : Literal heading) (text : List Char) :
    markedText (styled style heading ++ ' ' :: escape text)
      = .ok (uncontrolled (heading ++ ' ' :: (shownText (body text)
          ++ List.replicate (doubled (trailing text)) '\\'))) := by
  have joined : styled style heading ++ ' ' :: escape text
      = tagged 0 style.toList (heading ++ tagged 0 ('/' :: style.toList) ([' '] ++ escape text)) := by
    simp [styled, tagged]
  have flushedHeading : flushed (heading.reverse ++ []) = [heading] := by
    simp [flushed, nonempty]
  have reads : textOfPieces [] (piecesFrom [' '] (escape text))
      = .ok (' ' :: (shownText (body text)
          ++ List.replicate (doubled (trailing text)) '\\')) := by
    rw [piecesFrom_escape, ← List.append_nil (List.map _ _), textOfPieces_map_plain,
      ← List.nil_append [' '], shownFragments_space, shownFragments_backslashes]
    simp [textOfPieces, Except.map, shownText, fragments]
  obtain ⟨opened, opens⟩ := isStyle.exists_opens
  rw [markedText, pieces, joined, piecesFrom_tagged isStyle.isContent, piecesFrom_plain plain,
    piecesFrom_tagged isStyle.isContent_closing, piecesFrom_plain (by decide), flushedHeading]
  change ((textOfPieces [] (.tag style.toList :: .plain heading :: .tag ('/' :: style.toList)
    :: piecesFrom [' '] (escape text))).map _) = _
  rw [textOfPieces, opens.opening]
  change ((textOfPieces [opened] (.plain heading :: .tag ('/' :: style.toList)
    :: piecesFrom [' '] (escape text))).map _) = _
  rw [textOfPieces, textOfPieces, opens.closing]
  change (((textOfPieces [] (piecesFrom [' '] (escape text))).map _).map _) = _
  rw [reads, shownPiece_eq_self literal]
  rfl

end Shown

end Routebook.Terminal
