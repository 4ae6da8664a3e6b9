import Routebook.Proofs.Output.Streams
import Routebook.Proofs.Terminal.Escape
import Routebook.Proofs.Terminal.Wrap

/-!
# Lines with colour

A line with colour is a marked text, in which the announced text is escaped unless it is
information.  Such a line can always be read (`Output.markedText_markup`).  It is the line without
colour exactly when it keeps its text, fits, and no blank at its end is dropped
(`Output.wrapped_markedNotice_iff`).
-/

namespace Routebook.Output

set_option autoImplicit false

open Terminal

/-! ## What a line with colour shows -/

/-- The marked text of a line with colour; information is not marked. -/
def markup (text : String) : Diagnostic → List Char
  | .info => text.toList
  | .success => styled "green" (escape text.toList)
  | .warning => styled "yellow" "Warning:".toList ++ ' ' :: escape text.toList
  | .error => styled "bold red" "Error:".toList ++ ' ' :: escape text.toList
  | .debug => styled "dim" ("\\[debug] ".toList ++ escape text.toList)

/-- An escaped text between the tags of a style. -/
def enclosed (style : String) (text : List Char) : List Char :=
  shownText (body text) ++ leftOver style.toList (doubled (trailing text))

/-- An escaped text at the end of a line. -/
def ending (text : List Char) : List Char :=
  shownText (body text) ++ List.replicate (doubled (trailing text)) '\\'

/-- What a line starts with. -/
def heading : Diagnostic → String
  | .info | .success => ""
  | .warning => "Warning: "
  | .error => "Error: "
  | .debug => "[debug] "

/-- What a line with colour shows for a text. -/
def shownMessage (text : List Char) : Diagnostic → List Char
  | .info => expandShortcodes text
  | .success => enclosed "green" text
  | .warning | .error => ending text
  | .debug => enclosed "dim" text

/-- What a line with colour shows, before characters that control the terminal are dropped. -/
def shownLine (text : String) (kind : Diagnostic) : List Char :=
  (heading kind).toList ++ shownMessage text.toList kind

/-- The styles of lines are those that a terminal has for diagnostics. -/
theorem readable_of_mem [Runtime] {style : String} (listed : style ∈ diagnosticStyles) :
    (Dialect.normalStyle style.toList).isOk = true :=
  Dialect.normalStyle_diagnostic style listed

theorem isStyle_green [Runtime] : IsStyle "green".toList :=
  ⟨by decide +kernel, by decide, by decide, by decide +kernel, readable_of_mem (by decide)⟩

theorem isStyle_yellow [Runtime] : IsStyle "yellow".toList :=
  ⟨by decide +kernel, by decide, by decide, by decide +kernel, readable_of_mem (by decide)⟩

theorem isStyle_boldRed [Runtime] : IsStyle "bold red".toList :=
  ⟨by decide +kernel, by decide, by decide, by decide +kernel, readable_of_mem (by decide)⟩

theorem isStyle_dim [Runtime] : IsStyle "dim".toList :=
  ⟨by decide +kernel, by decide, by decide, by decide +kernel, readable_of_mem (by decide)⟩

/-- **A line with colour can be read as marked text**, and shows what is said above. -/
theorem markedText_markup [Runtime] (text : String) {kind : Diagnostic} (marked : kind ≠ .info) :
    markedText (markup text kind) = .ok (uncontrolled (shownLine text kind)) := by
  cases kind with
  | info => exact absurd rfl marked
  | success => exact markedText_styled isStyle_green text.toList
  | warning =>
      exact markedText_headed isStyle_yellow (by decide) (by decide) (by decide +kernel) text.toList
  | error =>
      exact markedText_headed isStyle_boldRed (by decide) (by decide) (by decide +kernel) text.toList
  | debug =>
      exact @markedText_styled_named _ _ isStyle_dim "debug".toList (by decide +kernel)
        (by decide +kernel) text.toList

theorem markedNotice_eq [Runtime] (text : String) (kind : Diagnostic) :
    markedNotice (kind.notice text) = uncontrolled (shownLine text kind) := by
  have reads := fun marked => @markedText_markup _ text kind marked
  cases kind with
  | info => rfl
  | success | warning | error | debug =>
      have shown := reads (by decide)
      simp only [markedNotice, Diagnostic.notice]
      rw [markup] at shown
      rw [shown]

/-! ## When a line with colour keeps its text -/

/-- A line without colour, character by character. -/
def plainLine (text : String) (kind : Diagnostic) : List Char :=
  (heading kind).toList ++ text.toList

theorem plainNotice_eq (text : String) (kind : Diagnostic) :
    plainNotice (kind.notice text) = String.ofList (plainLine text kind) := by
  rw [plainLine, ← String.toList_append, String.ofList_toList]
  cases kind with
  | info | success => exact String.empty_append.symm
  | warning | error | debug => rfl

/-- Whether a line with colour shows its text as it is. -/
def Keeps (text : List Char) : Diagnostic → Prop
  | .info => Pictureless text
  | .success | .debug => Verbatim text ∧ trailing text ≤ 1
  | .warning | .error => Verbatim text ∧ trailing text ≠ 1

instance (text : List Char) : (kind : Diagnostic) → Decidable (Keeps text kind)
  | .info => inferInstanceAs (Decidable (Pictureless _))
  | .success | .debug | .warning | .error => inferInstanceAs (Decidable (_ ∧ _))

/-- The backslashes at the end of a text have no part in what its stretches show. -/
theorem verbatim_body_iff {text : List Char} : Verbatim (body text) ↔ Verbatim text := by
  have whole := body_append_trailing text
  have shown := shownText_backslashes (body text) (trailing text)
  rw [whole] at shown
  rw [← shownText_eq_self_iff, ← shownText_eq_self_iff]
  constructor
  · intro same
    rw [shown, same, whole]
  · intro same
    exact List.append_cancel_right (shown.symm.trans (same.trans whole.symm))

theorem marks_body (text : List Char) : marks text = marks (body text) + trailing text := by
  have counted := congrArg marks (body_append_trailing text)
  rwa [marks_append, marks_backslashes, eq_comm] at counted

/-- An escaped text in a style is shown if at most one backslash stands at its end. -/
theorem enclosed_eq_self {style : String} {text : List Char} (verbatim : Verbatim text)
    (few : trailing text ≤ 1) : enclosed style text = text := by
  have whole := body_append_trailing text
  rw [enclosed, shownText_eq_self (verbatim_body_iff.mpr verbatim)]
  have cases : trailing text = 0 ∨ trailing text = 1 := by omega
  rcases cases with same | same
  · rw [same] at whole ⊢
    exact whole
  · rw [same] at whole ⊢
    exact whole

/-- Otherwise marks are lost. -/
theorem marks_enclosed_lt {style : String} (unmarked : marks style.toList = 0)
    {text : List Char} (changed : ¬ (Verbatim text ∧ trailing text ≤ 1)) :
    marks (enclosed style text) < marks text := by
  have closing : marks ('[' :: ('/' :: style.toList ++ [']'])) = 1 := by
    simp [marks_cons, isMark, unmarked]
  have rest := marks_body text
  have left : marks (leftOver style.toList (doubled (trailing text)))
      ≤ doubled (trailing text) / 2 + doubled (trailing text) % 2 := by
    rw [leftOver, marks_append, marks_backslashes]
    split
    · rw [closing]
      omega
    · exact Nat.add_le_add_left (Nat.zero_le _) _
  have half : doubled (trailing text) / 2 + doubled (trailing text) % 2 ≤ trailing text ∧
      (1 < trailing text →
        doubled (trailing text) / 2 + doubled (trailing text) % 2 < trailing text) := by
    rw [doubled]
    split <;> omega
  rw [enclosed, marks_append]
  by_cases verbatim : Verbatim text
  · have many : 1 < trailing text := Nat.not_le.mp fun few => changed ⟨verbatim, few⟩
    have kept := marks_shownText_le (body text)
    have fewer := half.2 many
    omega
  · have fewer := marks_shownText_lt (mt verbatim_body_iff.mp verbatim)
    have most := half.1
    omega

/-- An escaped text at the end of a line is shown unless exactly one backslash stands at its end. -/
theorem ending_eq_self {text : List Char} (verbatim : Verbatim text) (other : trailing text ≠ 1) :
    ending text = text := by
  rw [ending, shownText_eq_self (verbatim_body_iff.mpr verbatim), doubled, if_neg other,
    body_append_trailing]

/-- Otherwise marks are lost, if not exactly one backslash stands at its end. -/
theorem marks_ending_lt {text : List Char} (other : trailing text ≠ 1)
    (changed : ¬ (Verbatim text ∧ trailing text ≠ 1)) : marks (ending text) < marks text := by
  have altered : ¬ Verbatim text := fun verbatim => changed ⟨verbatim, other⟩
  have fewer := marks_shownText_lt (mt verbatim_body_iff.mp altered)
  have rest := marks_body text
  rw [ending, marks_append, marks_backslashes, doubled, if_neg other]
  omega

/-! ## Lines with colour and without -/

/-- A line that fits is laid out as it is, unless blanks at its end are dropped. -/
theorem wrapped_of_fits {width : Nat} {line : List Char} (fits : Fits width line) :
    wrapped width line = String.ofList (dropExcess width line) := by
  rw [wrapped, fits.wrap_eq, List.intercalate_singleton]

/-- What is laid out as one line has the marks of that line. -/
theorem marks_of_wrapped_eq {width : Nat} {shown line : List Char} (unbroken : '\n' ∉ line)
    (same : wrapped width shown = String.ofList line) : marks shown = marks line := by
  have trimmed := trimEnd_of_intercalate_wrap unbroken (String.ofList_injective same)
  have counted := congrArg marks trimmed
  rwa [marks_trimEnd, marks_trimEnd, marks_expandTabs, eq_comm] at counted

/-- A line that shows two backslashes at its end has two of them. -/
theorem getLast?_of_wrapped_eq {width : Nat} {shown line : List Char}
    (unbroken : '\n' ∉ line ++ ['\\'])
    (same : wrapped width (shown ++ ['\\', '\\']) = String.ofList (line ++ ['\\'])) :
    line.getLast? = some '\\' := by
  have trimmed := trimEnd_of_intercalate_wrap unbroken (String.ofList_injective same)
  have pair : expandTabs 0 shown ++ ['\\', '\\'] = (expandTabs 0 shown ++ ['\\']) ++ ['\\'] := by
    simp
  rw [expandTabs_append (by decide), pair, trimEnd_append_visible _ (by decide),
    trimEnd_append_visible _ (by decide)] at trimmed
  rw [List.append_cancel_right trimmed]
  simp

/-- A way in which what is shown differs from a line so that no layout can make up for it: marks are
lost, or a single backslash at the end is doubled. -/
def Differs (shown line : List Char) : Prop :=
  marks shown < marks line ∨
    ∃ front start, shown = front ++ ['\\', '\\'] ∧ line = start ++ ['\\'] ∧
      start.getLast? ≠ some '\\'

theorem Differs.wrapped_ne {width : Nat} {shown line : List Char} (differs : Differs shown line)
    (unbroken : '\n' ∉ line) : wrapped width (uncontrolled shown) ≠ String.ofList line := by
  intro same
  rcases differs with fewer | ⟨front, start, rfl, rfl, single⟩
  · have kept := marks_of_wrapped_eq unbroken same
    have most := marks_uncontrolled_le shown
    omega
  · have split : uncontrolled (front ++ ['\\', '\\']) = uncontrolled front ++ ['\\', '\\'] :=
      List.filter_append _ _
    rw [split] at same
    exact single (getLast?_of_wrapped_eq unbroken same)

theorem differs_ending {heading : List Char} (spaced : heading.getLast? ≠ some '\\')
    {text : List Char} (changed : ¬ (Verbatim text ∧ trailing text ≠ 1)) :
    Differs (heading ++ ending text) (heading ++ text) := by
  by_cases single : trailing text = 1
  · right
    refine ⟨heading ++ shownText (body text), heading ++ body text, ?_, ?_, ?_⟩
    · rw [ending, single, List.append_assoc]
      rfl
    · have whole := body_append_trailing text
      rw [single] at whole
      rw [List.append_assoc]
      exact congrArg (heading ++ ·) whole.symm
    · rw [List.getLast?_append]
      have other := getLast?_body text
      cases last : (body text).getLast? with
      | none => exact spaced
      | some character =>
          rw [last] at other
          exact other
  · left
    rw [marks_append, marks_append]
    exact Nat.add_lt_add_left (marks_ending_lt single changed) _

/-- A line with colour that keeps its text shows the line without colour. -/
theorem shownLine_of_keeps {text : String} {kind : Diagnostic} (keeps : Keeps text.toList kind) :
    shownLine text kind = plainLine text kind := by
  rw [shownLine, plainLine]
  congr 1
  cases kind with
  | info => exact expandShortcodes_eq_self keeps
  | success | debug => exact enclosed_eq_self keeps.1 keeps.2
  | warning | error => exact ending_eq_self keeps.1 keeps.2

/-- A line with colour that does not keep its text shows something else. -/
theorem differs_of_not_keeps {text : String} {kind : Diagnostic} (changed : ¬ Keeps text.toList kind) :
    Differs (shownLine text kind) (plainLine text kind) := by
  have fewer : marks (shownMessage text.toList kind) < marks text.toList →
      Differs (shownLine text kind) (plainLine text kind) := by
    intro lost
    left
    rw [shownLine, plainLine, marks_append, marks_append]
    exact Nat.add_lt_add_left lost _
  cases kind with
  | info => exact fewer (marks_expandShortcodes_lt changed)
  | success | debug => exact fewer (marks_enclosed_lt (by decide) changed)
  | warning | error => exact differs_ending (by decide +kernel) changed

/-- Whether no blank at the end of a line is dropped when the line is laid out: the line has no more
characters than cells fit, or does not end in a space. -/
def Uncropped (width : Nat) (line : List Char) : Prop :=
  line.length ≤ width ∨ line.getLast? ≠ some ' '

/-- Blanks at the end of a line that fits are kept exactly when the line is not too long. -/
theorem dropExcess_eq_self_iff_uncropped {width : Nat} {line : List Char} (fits : Fits width line) :
    dropExcess width line = line ↔ Uncropped width line := by
  rw [dropExcess_eq_self_iff, Uncropped]
  refine or_congr_right ?_
  cases last : line.getLast? with
  | none => simp
  | some character =>
      have printable := fits.printable character (List.mem_of_getLast? last)
      rw [Option.any_some, Bool.eq_false_iff, ne_eq, ne_eq, Option.some_inj]
      refine not_congr ⟨eq_space_of_isPrintable printable, ?_⟩
      rintro rfl
      decide

/-- A line that fits is the line without colour exactly when it keeps its text and no blank at its
end is dropped. -/
theorem wrapped_markedNotice_iff_of_fits [Runtime] {width : Nat} {text : String} {kind : Diagnostic}
    (fits : Fits width (plainLine text kind)) :
    wrapped width (markedNotice (kind.notice text)) = plainNotice (kind.notice text)
      ↔ Keeps text.toList kind ∧ Uncropped width (plainLine text kind) := by
  rw [markedNotice_eq, plainNotice_eq, ← dropExcess_eq_self_iff_uncropped fits]
  by_cases keeps : Keeps text.toList kind
  · rw [shownLine_of_keeps keeps, fits.printable.uncontrolled_eq, wrapped_of_fits fits,
      String.ofList_inj]
    exact (and_iff_right keeps).symm
  · exact iff_of_false ((differs_of_not_keeps keeps).wrapped_ne fits.printable.unbroken) fun both =>
      keeps both.1

theorem printable_plainLine {text : String} (printable : Printable text.toList) (kind : Diagnostic) :
    Printable (plainLine text kind) := by
  have headed : Printable (heading kind).toList := by cases kind <;> decide +kernel
  intro character present
  rcases List.mem_append.mp present with inHeading | inText
  · exact headed character inHeading
  · exact printable character inText

/-- **A line with colour is the line without colour exactly when it keeps its text, fits, and no
blank at its end is dropped.** -/
theorem wrapped_markedNotice_iff [Runtime] {width : Nat} {text : String} {kind : Diagnostic}
    (printable : Printable text.toList) :
    wrapped width (markedNotice (kind.notice text)) = plainNotice (kind.notice text)
      ↔ Keeps text.toList kind ∧ Fits width (plainLine text kind) ∧
        Uncropped width (plainLine text kind) := by
  have printableLine := printable_plainLine printable kind
  constructor
  · intro same
    have joined := same
    rw [plainNotice_eq, wrapped] at joined
    have fits : Fits width (plainLine text kind) :=
      ⟨printableLine,
        cells_le_of_intercalate_wrap printableLine.unbroken (String.ofList_injective joined)⟩
    obtain ⟨keeps, uncropped⟩ := (wrapped_markedNotice_iff_of_fits fits).mp same
    exact ⟨keeps, fits, uncropped⟩
  · rintro ⟨keeps, fits, uncropped⟩
    exact (wrapped_markedNotice_iff_of_fits fits).mpr ⟨keeps, uncropped⟩

end Routebook.Output
