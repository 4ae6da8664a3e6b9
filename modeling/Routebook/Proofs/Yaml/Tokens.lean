import Routebook.Proofs.Outcome
import Routebook.Yaml.Token

/-!
# Faults of YAML tokens

A fault of a text is a complaint about it, or the failure of a value in it that does not exist
(`Yaml.Fault.IsOfText`).  Cutting a text into tokens ends at the first fault, and the fault stands
as the last token.  Every step adds tokens that stand for faults of the text alone, so this holds of
all tokens of a text (`Yaml.Token.isOfText_ofText`).
-/

namespace Routebook.Yaml

set_option autoImplicit false

/-! ## Faults of a text -/

/-- Whether a failure is that of a value that does not exist: it is malformed, too large, nested too
deeply, of another type than its tag says, without a first character, or not among the known ones.
-/
def isValueFailure : Failure → Bool
  | .badValue | .overflow | .tooDeep | .wrongType | .badIndex | .missingKey | .missingAttribute =>
      true
  | _ => false

/-- Whether a fault is a complaint about a text or the failure of a value in it. -/
def Fault.IsOfText : Fault → Prop
  | .malformed _ => True
  | .failure cause => isValueFailure cause = true

/-- A reading goes wrong by a fault of the text alone. -/
abbrev FaultsOfText {α : Type} (result : Except Fault α) : Prop :=
  Outcome Fault.IsOfText (fun _ => True) result

theorem FaultsOfText.map {α β : Type} {result : Except Fault α} (outcome : FaultsOfText result)
    (change : α → β) : FaultsOfText (result.map change) :=
  Outcome.map outcome fun _ _ => trivial

/-! ## Scalars -/

theorem faults_blockIndicators (cursor : Cursor) : FaultsOfText (blockIndicators cursor) := by
  unfold blockIndicators
  exact .ite trivial trivial

theorem faults_ignoredLine (complaint : Complaint) (cursor : Cursor) :
    FaultsOfText (ignoredLine complaint cursor) := by
  unfold ignoredLine
  dsimp only
  split <;> exact trivial

theorem faults_blockScalar (folded : Bool) (parent : Int) (cursor : Cursor) :
    FaultsOfText (blockScalar folded parent cursor) :=
  .bind (faults_blockIndicators _) fun _ _ => .bind (faults_ignoredLine _ _) fun _ _ => trivial

theorem faults_quotedBreaks (steps : Nat) (cursor : Cursor) :
    FaultsOfText (quotedBreaks steps cursor) := by
  induction steps generalizing cursor with
  | zero => exact trivial
  | succ steps inductionHypothesis =>
      unfold quotedBreaks
      dsimp only
      split
      · exact trivial
      · split
        · split
          · exact .bind (inductionHypothesis _) fun _ _ => trivial
          · exact trivial
        · exact trivial

theorem faults_escapedCode (code : Nat) : FaultsOfText (escapedCode code) := by
  unfold escapedCode
  split
  · exact trivial
  · split
    · exact rfl
    · exact rfl

theorem faults_quotedEscape (cursor : Cursor) : FaultsOfText (quotedEscape cursor) := by
  unfold quotedEscape
  split
  · exact trivial
  · split
    · exact trivial
    · dsimp only
      split
      · exact trivial
      · split
        · exact trivial
        · exact (faults_escapedCode _).map _
    · split
      · exact (faults_quotedBreaks _ _).map _
      · exact trivial

theorem faults_quotedCodes (double : Bool) (steps : Nat) (cursor : Cursor) :
    FaultsOfText (quotedCodes double steps cursor) := by
  induction steps generalizing cursor with
  | zero => exact trivial
  | succ steps inductionHypothesis =>
      have goesOn : ∀ (codes : List Nat) (next : Cursor), FaultsOfText
          (quotedCodes double steps next >>= fun found => pure (codes ++ found.1, found.2)) :=
        fun codes next => .bind (inductionHypothesis next) fun _ _ => trivial
      unfold quotedCodes
      dsimp only
      split
      · exact trivial
      · split
        · split
          · exact goesOn _ _
          · exact trivial
        · split
          · exact trivial
          · split
            · exact .bind (faults_quotedEscape _) fun _ _ => goesOn _ _
            · split
              · split
                · exact trivial
                · split
                  · exact .bind (faults_quotedBreaks _ _) fun _ _ => goesOn _ _
                  · exact goesOn _ _
              · exact goesOn _ _

theorem faults_quotedScalar [Runtime] (double : Bool) (cursor : Cursor) :
    FaultsOfText (quotedScalar double cursor) :=
  (faults_quotedCodes double _ _).map _

/-! ## Words -/

theorem faults_readNumber (cursor : Cursor) : FaultsOfText (readNumber cursor) := by
  unfold readNumber
  exact .ite trivial (.ite rfl trivial)

theorem faults_readTagEscapes (steps : Nat) (cursor : Cursor) :
    FaultsOfText (readTagEscapes steps cursor) := by
  induction steps generalizing cursor with
  | zero => exact trivial
  | succ steps inductionHypothesis =>
      unfold readTagEscapes
      split
      · split
        · exact trivial
        · exact .bind (inductionHypothesis _) fun _ _ => trivial
      · exact trivial
      · exact trivial

theorem faults_readTagText (steps : Nat) (cursor : Cursor) :
    FaultsOfText (readTagText steps cursor) := by
  induction steps generalizing cursor with
  | zero => exact trivial
  | succ steps inductionHypothesis =>
      unfold readTagText
      split
      · refine .bind (faults_readTagEscapes _ _) fun escaped _ => ?_
        dsimp only
        split
        · exact trivial
        · exact .bind (inductionHypothesis _) fun _ _ => trivial
      · exact .ite (.bind (inductionHypothesis _) fun _ _ => trivial) trivial
      · exact trivial

theorem faults_readTagSuffix (cursor : Cursor) : FaultsOfText (readTagSuffix cursor) := by
  refine .bind (faults_readTagText _ _) fun (text, after) _ => ?_
  exact .ite trivial trivial

theorem faults_readHandle (cursor : Cursor) : FaultsOfText (readHandle cursor) := by
  unfold readHandle
  exact .ite trivial (.ite trivial (.ite trivial trivial))

theorem faults_readVersion (cursor : Cursor) : FaultsOfText (readVersion cursor) := by
  refine .bind (faults_readNumber _) fun (major, afterMajor) _ => ?_
  refine .ite trivial ?_
  refine .bind (faults_readNumber _) fun (minor, after) _ => ?_
  exact .ite trivial trivial

theorem faults_readTagHandle (cursor : Cursor) : FaultsOfText (readTagHandle cursor) := by
  refine .bind (faults_readHandle _) fun (handle, afterHandle) _ => ?_
  refine .ite trivial ?_
  refine .bind (faults_readTagSuffix _) fun (expansion, after) _ => ?_
  exact .ite trivial trivial

theorem faults_readDirective (cursor : Cursor) : FaultsOfText (readDirective cursor) := by
  have ends : ∀ found : Directive × Cursor, FaultsOfText (do
      let next ← ignoredLine .malformedDirective found.2
      return (found.1, next)) :=
    fun found => .bind (faults_ignoredLine _ _) fun _ _ => trivial
  unfold readDirective
  dsimp only
  split
  · exact trivial
  · split
    · exact .bind (faults_readVersion _) fun found _ => ends found
    · split
      · exact .bind (faults_readTagHandle _) fun found _ => ends found
      · exact ends _

theorem faults_readAnchorName (cursor : Cursor) : FaultsOfText (readAnchorName cursor) := by
  unfold readAnchorName
  exact .ite trivial trivial

/-! ## Tokens -/

/-- Whether a token that stands for a fault stands for one of the text. -/
def Token.IsOfText : Token → Prop
  | .broken fault => fault.IsOfText
  | _ => True

/-- A tag is no fault. -/
theorem outcome_readTag (cursor : Cursor) :
    Outcome Fault.IsOfText (fun found => found.1.IsOfText) (readTag cursor) := by
  have ends : ∀ found : Token × Cursor, found.1.IsOfText →
      Outcome Fault.IsOfText (fun found => found.1.IsOfText) (do
        if !endsWord found.2.peek then throw (.malformed .malformedTag)
        return found) :=
    fun found holds => .ite trivial holds
  unfold readTag
  dsimp only
  split
  · refine .bind (faults_readTagSuffix _) fun (suffix, after) _ => ?_
    dsimp only
    split
    · exact trivial
    · exact ends _ trivial
  · split
    · exact ends _ trivial
    · split
      · refine .bind (faults_readHandle _) fun (handle, afterHandle) _ => ?_
        exact .bind (faults_readTagSuffix _) fun (suffix, after) _ => ends _ trivial
      · exact .bind (faults_readTagSuffix _) fun (suffix, after) _ => ends _ trivial

namespace Lexer

/-- Whether the tokens so far stand for faults of the text alone, if for any. -/
def IsOfText (lexer : Lexer) : Prop := ∀ token ∈ lexer.emitted, token.IsOfText

/-- The cutting of a token goes wrong by a fault of the text alone, and so do its tokens. -/
abbrev Cuts (result : Except Fault Lexer) : Prop := Outcome Fault.IsOfText IsOfText result

variable {lexer : Lexer}

theorem IsOfText.emit (holds : lexer.IsOfText) {token : Token} (whole : token.IsOfText) :
    (lexer.emit token).IsOfText := by
  intro other present
  rcases List.mem_cons.mp present with rfl | earlier
  · exact whole
  · exact holds other earlier

theorem IsOfText.emitAt (holds : lexer.IsOfText) (position : Nat) {token : Token}
    (whole : token.IsOfText) : (lexer.emitAt position token).IsOfText := by
  intro other present
  rcases List.mem_append.mp present with later | here
  · exact holds other (List.mem_of_mem_take later)
  · rcases List.mem_cons.mp here with rfl | earlier
    · exact whole
    · exact holds other (List.mem_of_mem_drop earlier)

theorem IsOfText.unwindFrom (holds : lexer.IsOfText) (column : Int) (outer : List Int) :
    (unwindFrom column outer lexer).IsOfText := by
  induction outer generalizing lexer with
  | nil => exact holds
  | cons indent rest inductionHypothesis =>
      unfold Lexer.unwindFrom
      split
      · exact inductionHypothesis (holds.emit trivial)
      · exact holds

theorem IsOfText.unwind (holds : lexer.IsOfText) (column : Int) :
    (lexer.unwind column).IsOfText := by
  unfold Lexer.unwind
  split
  · exact holds
  · exact holds.unwindFrom column _

theorem IsOfText.openBlock (holds : lexer.IsOfText) (column : Int) (token : Token)
    (whole : token.IsOfText) (position : Nat) :
    (lexer.openBlock column token position).IsOfText := by
  unfold Lexer.openBlock
  split
  · exact holds.emitAt position whole
  · exact holds

theorem cuts_forgetCandidate (holds : lexer.IsOfText) : Cuts lexer.forgetCandidate := by
  unfold forgetCandidate
  split
  · exact .ite trivial holds
  · exact holds

theorem cuts_rememberCandidate (holds : lexer.IsOfText) : Cuts lexer.rememberCandidate := by
  unfold rememberCandidate
  split
  · exact holds
  · exact .bind (cuts_forgetCandidate holds) fun cleared clear => clear

theorem cuts_forgetStale (holds : lexer.IsOfText) : Cuts lexer.forgetStale := by
  unfold forgetStale
  exact .ite trivial holds

/-! ### Cutting one token -/

theorem cuts_cutEnd (holds : lexer.IsOfText) : Cuts lexer.cutEnd :=
  .bind (cuts_forgetCandidate (holds.unwind _)) fun _ clear => clear.emit trivial

theorem cuts_cutDirective (holds : lexer.IsOfText) : Cuts lexer.cutDirective := by
  refine .bind (cuts_forgetCandidate (holds.unwind _)) fun closed clear => ?_
  exact .bind (faults_readDirective _) fun _ _ => clear.emit trivial

theorem cuts_cutMarker (holds : lexer.IsOfText) {token : Token} (whole : token.IsOfText) :
    Cuts (lexer.cutMarker token) :=
  .bind (cuts_forgetCandidate (holds.unwind _)) fun _ clear => clear.emit whole

theorem cuts_cutFlowStart (holds : lexer.IsOfText) {token : Token} (whole : token.IsOfText) :
    Cuts (lexer.cutFlowStart token) :=
  .bind (cuts_rememberCandidate holds) fun _ clear => clear.emit whole

theorem cuts_cutFlowEnd (holds : lexer.IsOfText) {token : Token} (whole : token.IsOfText) :
    Cuts (lexer.cutFlowEnd token) :=
  .bind (cuts_forgetCandidate holds) fun _ clear => clear.emit whole

theorem cuts_cutFlowEntry (holds : lexer.IsOfText) : Cuts lexer.cutFlowEntry :=
  .bind (cuts_forgetCandidate holds) fun _ clear => clear.emit trivial

/-- Opening a block where one may stand. -/
theorem IsOfText.opened (holds : lexer.IsOfText) (column : Int) (token : Token)
    (whole : token.IsOfText) (position : Nat) :
    (if lexer.inFlow then lexer else lexer.openBlock column token position).IsOfText := by
  split
  · exact holds
  · exact holds.openBlock column token whole position

theorem cuts_cutBlockEntry (holds : lexer.IsOfText) : Cuts lexer.cutBlockEntry := by
  refine .ite trivial ?_
  exact .bind (cuts_forgetCandidate (holds.opened _ .blockSequenceStart trivial _)) fun _ clear =>
    clear.emit trivial

theorem cuts_cutKey (holds : lexer.IsOfText) : Cuts lexer.cutKey := by
  refine .ite trivial ?_
  exact .bind (cuts_forgetCandidate (holds.opened _ .blockMappingStart trivial _)) fun _ clear =>
    clear.emit trivial

theorem cuts_cutValue (holds : lexer.IsOfText) : Cuts lexer.cutValue := by
  unfold cutValue
  split
  · rename_i candidate found
    have keyed : (lexer.dropCandidate.emitAt candidate.position .key).IsOfText :=
      @IsOfText.emitAt lexer.dropCandidate holds candidate.position .key trivial
    refine IsOfText.emit ?_ trivial
    split
    · exact keyed
    · exact keyed.openBlock _ .blockMappingStart trivial _
  · refine .ite trivial ?_
    exact (holds.opened _ .blockMappingStart trivial _).emit trivial

theorem cuts_cutNode (holds : lexer.IsOfText) {read : Cursor → Except Fault (Token × Cursor)}
    (reads : ∀ place, Outcome Fault.IsOfText (fun found => found.1.IsOfText) (read place)) :
    Cuts (lexer.cutNode read) := by
  refine .bind (cuts_rememberCandidate holds) fun remembered clear => ?_
  exact .bind (reads _) fun _ whole => clear.emit whole

theorem cuts_cutBlockScalar (holds : lexer.IsOfText) (folded : Bool) :
    Cuts (lexer.cutBlockScalar folded) := by
  refine .bind (cuts_forgetCandidate holds) fun cleared clear => ?_
  exact .bind (faults_blockScalar _ _ _) fun _ _ => clear.emit trivial

theorem cuts_cutQuoted [Runtime] (holds : lexer.IsOfText) (double : Bool) :
    Cuts (lexer.cutQuoted double) :=
  cuts_cutNode holds fun _ => .bind (faults_quotedScalar _ _) fun _ _ => trivial

theorem cuts_cutPlain (holds : lexer.IsOfText) : Cuts lexer.cutPlain :=
  .bind (cuts_rememberCandidate holds) fun _ clear => clear.emit trivial

theorem cuts_cutHere [Runtime] (holds : lexer.IsOfText) (first : Char) :
    Cuts (lexer.cutHere first) := by
  have anchor : ∀ {token : String → Token}, (∀ name, (token name).IsOfText) →
      Cuts (lexer.cutNode fun place =>
        (readAnchorName place).map fun found => (token found.1, found.2)) :=
    fun whole => cuts_cutNode holds fun place =>
      .map (faults_readAnchorName place) fun _ _ => whole _
  unfold cutHere
  refine .ite (cuts_cutDirective holds) (.ite (cuts_cutMarker holds trivial)
    (.ite (cuts_cutMarker holds trivial) ?_))
  refine .ite (cuts_cutFlowStart holds trivial) (.ite (cuts_cutFlowStart holds trivial)
    (.ite (cuts_cutFlowEnd holds trivial) (.ite (cuts_cutFlowEnd holds trivial) ?_)))
  refine .ite (cuts_cutFlowEntry holds) (.ite (cuts_cutBlockEntry holds)
    (.ite (cuts_cutKey holds) (.ite (cuts_cutValue holds) ?_)))
  refine .ite (anchor fun _ => trivial) (.ite (anchor fun _ => trivial)
    (.ite (cuts_cutNode holds outcome_readTag) ?_))
  refine .ite (cuts_cutBlockScalar holds _) (.ite (cuts_cutBlockScalar holds _) ?_)
  refine .ite (cuts_cutQuoted holds _) (.ite (cuts_cutQuoted holds _) ?_)
  exact .ite (cuts_cutPlain holds) trivial

theorem cuts_step [Runtime] (holds : lexer.IsOfText) : Cuts lexer.step := by
  unfold step
  dsimp only
  refine .bind (@cuts_forgetStale _ holds) fun ready clear => ?_
  split
  · exact cuts_cutEnd (clear.unwind _)
  · exact cuts_cutHere (clear.unwind _) _

theorem isOfText_settled (holds : lexer.IsOfText) : ∀ token ∈ lexer.settled, token.IsOfText := by
  have emitted : ∀ token ∈ lexer.emitted.reverse, token.IsOfText :=
    fun token present => holds token (List.mem_reverse.mp present)
  unfold settled
  dsimp only
  split
  · exact fun token present => emitted token (List.mem_of_mem_take present)
  · exact emitted

theorem isOfText_run [Runtime] (steps : Nat) (holds : lexer.IsOfText) :
    ∀ token ∈ run steps lexer, token.IsOfText := by
  have emitted : ∀ {lexer : Lexer}, lexer.IsOfText → ∀ token ∈ lexer.emitted.reverse,
      token.IsOfText := fun holds token present => holds token (List.mem_reverse.mp present)
  induction steps generalizing lexer with
  | zero => exact emitted holds
  | succ steps inductionHypothesis =>
      have cuts := cuts_step holds
      unfold run
      split
      · rename_i fault broken
        intro token present
        rcases List.mem_append.mp present with settled | last
        · exact isOfText_settled holds token settled
        · rw [List.mem_singleton.mp last]
          exact cuts.error broken
      · rename_i next cut
        split
        · exact emitted (cuts.ok cut)
        · exact inductionHypothesis (cuts.ok cut)

end Lexer

/-- **The tokens of a text stand for faults of the text alone, if for any.** -/
theorem Token.isOfText_ofText [Runtime] (text : List Char) :
    ∀ token ∈ Token.ofText text, token.IsOfText := by
  unfold Token.ofText
  split
  · intro token present
    rw [List.mem_singleton.mp present]
    trivial
  · refine Lexer.isOfText_run _ ?_
    split <;> exact nofun

end Routebook.Yaml
