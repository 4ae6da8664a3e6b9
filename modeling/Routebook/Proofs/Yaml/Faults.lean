import Routebook.Proofs.Yaml.Tokens
import Routebook.Yaml.Document

/-!
# What can be wrong with a YAML text

Reading a YAML text ends with a value, with a complaint about the text, or with the failure of a
value in it that does not exist (`Yaml.faults_parse`).  The tokens of a text stand for no other
fault; the nodes are read from them by reading what is left of them, and objects are made of the
nodes, so the same holds of both.
-/

namespace Routebook.Yaml

set_option autoImplicit false

/-! ## Nodes -/

namespace Graph

/-- Whether the tokens to be read stand for faults of the text alone, if for any. -/
def Reading.IsOfText (reading : Reading) : Prop := ∀ token ∈ reading.tokens, token.IsOfText

/-- A reading of nodes goes wrong by a fault of the text alone, and so do the tokens after it. -/
abbrev Reads {α : Type} (result : Except Fault (α × Reading)) : Prop :=
  Outcome Fault.IsOfText (fun found => found.2.IsOfText) result

section Parts

variable {reading : Reading}

theorem Reading.IsOfText.of_tokens (holds : reading.IsOfText) {rest : List Token}
    (later : rest <:+ reading.tokens) : ∀ token ∈ rest, token.IsOfText :=
  fun token present => holds token (later.subset present)

theorem Reading.IsOfText.next (holds : reading.IsOfText) : reading.next.IsOfText :=
  holds.of_tokens (List.tail_suffix _)

theorem outcome_refuse {α : Type} {property : α → Prop} (holds : reading.IsOfText)
    (complaint : Complaint) : Outcome Fault.IsOfText property (reading.refuse complaint) := by
  unfold Reading.refuse
  split
  · rename_i fault rest tokens
    exact holds (.broken fault) (by rw [tokens]; exact List.mem_cons_self)
  · exact trivial

theorem faults_expandTag (holds : reading.IsOfText) (handle : Option String) (suffix : String) :
    FaultsOfText (reading.expandTag handle suffix) := by
  unfold Reading.expandTag
  split
  · exact trivial
  · split
    · exact trivial
    · exact outcome_refuse holds _

theorem reads_properties (holds : reading.IsOfText) : Reads reading.properties := by
  unfold Reading.properties
  split
  · rename_i rest tokens
    refine .bind (faults_expandTag holds _ _) fun _ _ => holds.of_tokens ?_
    exact ⟨[_, _], tokens.symm⟩
  · rename_i rest tokens
    refine .bind (faults_expandTag holds _ _) fun _ _ => holds.of_tokens ?_
    exact ⟨[_, _], tokens.symm⟩
  · rename_i rest _ tokens
    exact holds.of_tokens ⟨[_], tokens.symm⟩
  · exact .bind (faults_expandTag holds.next _ _) fun _ _ => holds.next
  · exact holds

theorem faults_requireNew (holds : reading.IsOfText) (anchor : Option String) :
    FaultsOfText (reading.requireNew anchor) := by
  unfold Reading.requireNew
  split
  · rename_i fault rest tokens
    exact holds (.broken fault) (by rw [tokens]; exact List.mem_cons_self)
  · exact trivial
  · exact .ite trivial trivial

theorem reads_collection [Runtime] (holds : reading.IsOfText) (properties : Properties)
    (tag : String)
    {readContent : Reading → Except Fault (Node.Content × Reading)}
    (reads : ∀ begun : Reading, begun.IsOfText → Reads (readContent begun)) :
    Reads (reading.collection properties tag readContent) := by
  refine .ite rfl ?_
  refine .bind (reads _ ?_) fun content after => after
  exact holds

end Parts

/-- All readings of nodes within a bound go wrong by faults of the text alone. -/
structure ReadsWithin [Runtime] (steps : Nat) : Prop where
  read : ∀ (block indentless : Bool) {reading : Reading}, reading.IsOfText →
    Reads (read block indentless steps reading)
  optional : ∀ (block indentless : Bool) (ends : List Token) {reading : Reading}, reading.IsOfText →
    Reads (readUnless block indentless ends steps reading)
  blockSequence : ∀ {reading : Reading}, reading.IsOfText → Reads (readBlockSequence steps reading)
  indentless : ∀ {reading : Reading}, reading.IsOfText → Reads (readIndentless steps reading)
  value : ∀ (block : Bool) (ends : List Token) {reading : Reading}, reading.IsOfText →
    Reads (readValue block ends steps reading)
  blockMapping : ∀ {reading : Reading}, reading.IsOfText → Reads (readBlockMapping steps reading)
  flowSequence : ∀ (first : Bool) {reading : Reading}, reading.IsOfText →
    Reads (readFlowSequence first steps reading)
  flowMapping : ∀ (first : Bool) {reading : Reading}, reading.IsOfText →
    Reads (readFlowMapping first steps reading)

section Steps

variable {steps : Nat} {reading : Reading}

theorem reads_read_succ [Runtime] (within : ReadsWithin steps) (holds : reading.IsOfText)
    (block indentless : Bool) : Reads (read block indentless (steps + 1) reading) := by
  unfold Graph.read
  split
  · rename_i name rest tokens
    split
    · exact holds.of_tokens ⟨[_], tokens.symm⟩
    · exact trivial
  · refine .bind (reads_properties holds) fun (properties, here) given => ?_
    refine .bind (faults_requireNew given _) fun _ _ => ?_
    have empty : Reads (if properties.isGiven = true then .ok (here.leaf properties "" true)
        else here.refuse .nodeExpected) := .ite given (outcome_refuse given _)
    have items : ∀ {read : Reading → Except Fault (List Nat × Reading)} {begun : Reading},
        Reads (read begun) →
          Reads (read begun >>= fun found => pure (Node.Content.sequence found.1, found.2)) :=
      fun reads => .bind reads fun _ after => after
    have entries : ∀ {read : Reading → Except Fault (List (Nat × Nat) × Reading)}
        {begun : Reading}, Reads (read begun) →
          Reads (read begun >>= fun found => pure (Node.Content.mapping found.1, found.2)) :=
      fun reads => .bind reads fun _ after => after
    dsimp only
    split
    · exact given.next
    · split
      · exact reads_collection given _ _ fun begun start => items (within.indentless start)
      · exact empty
    · exact reads_collection given.next _ _ fun begun start => items (within.flowSequence _ start)
    · exact reads_collection given.next _ _ fun begun start => entries (within.flowMapping _ start)
    · split
      · exact reads_collection given.next _ _ fun begun start => items (within.blockSequence start)
      · exact empty
    · split
      · exact reads_collection given.next _ _ fun begun start => entries (within.blockMapping start)
      · exact empty
    · exact empty

theorem reads_readUnless_succ [Runtime] (within : ReadsWithin steps) (holds : reading.IsOfText)
    (block indentless : Bool) (ends : List Token) :
    Reads (readUnless block indentless ends (steps + 1) reading) := by
  unfold readUnless
  exact .ite holds (within.read _ _ holds)

theorem reads_readBlockSequence_succ [Runtime] (within : ReadsWithin steps)
    (holds : reading.IsOfText) :
    Reads (readBlockSequence (steps + 1) reading) := by
  unfold readBlockSequence
  refine .ite ?_ (.ite holds.next (outcome_refuse holds _))
  refine .bind (within.optional _ _ _ holds.next) fun (item, after) there => ?_
  exact .bind (within.blockSequence there) fun _ final => final

theorem reads_readIndentless_succ [Runtime] (within : ReadsWithin steps) (holds : reading.IsOfText)
    :
    Reads (readIndentless (steps + 1) reading) := by
  unfold readIndentless
  refine .ite ?_ holds
  refine .bind (within.optional _ _ _ holds.next) fun (item, after) there => ?_
  exact .bind (within.indentless there) fun _ final => final

theorem reads_readValue_succ [Runtime] (within : ReadsWithin steps) (holds : reading.IsOfText)
    (block : Bool)
    (ends : List Token) : Reads (readValue block ends (steps + 1) reading) := by
  unfold readValue
  exact .ite (within.optional _ _ _ holds.next) holds

theorem reads_readBlockMapping_succ [Runtime] (within : ReadsWithin steps)
    (holds : reading.IsOfText) :
    Reads (readBlockMapping (steps + 1) reading) := by
  unfold readBlockMapping
  refine .ite ?_ (.ite holds.next (outcome_refuse holds _))
  refine .bind (within.optional _ _ _ holds.next) fun (key, afterKey) there => ?_
  refine .bind (within.value _ _ there) fun (value, after) beyond => ?_
  exact .bind (within.blockMapping beyond) fun _ final => final

/-- The place after the separator of a flow collection, if one stands here. -/
theorem Reading.IsOfText.separated (holds : reading.IsOfText) (first : Bool) :
    (if first = true then reading else reading.next).IsOfText := by
  split
  · exact holds
  · exact holds.next

theorem reads_readFlowSequence_succ [Runtime] (within : ReadsWithin steps)
    (holds : reading.IsOfText)
    (first : Bool) : Reads (readFlowSequence first (steps + 1) reading) := by
  have start := holds.separated first
  unfold readFlowSequence
  refine .ite holds.next (.ite (outcome_refuse holds _) ?_)
  dsimp only
  generalize (if first = true then reading else reading.next) = here at start ⊢
  have rest : ∀ found : Nat × Reading, found.2.IsOfText →
      Reads (readFlowSequence false steps found.2 >>= fun more =>
        pure (found.1 :: more.1, more.2)) :=
    fun found there => .bind (within.flowSequence _ there) fun _ final => final
  refine .ite start.next (.ite ?_ ?_)
  · refine .bind (reads_collection start.next _ _ fun begun inside => ?_) rest
    refine .bind (within.optional _ _ _ inside) fun (key, afterKey) there => ?_
    exact .bind (within.value _ _ there) fun _ beyond => beyond
  · exact .bind (within.read _ _ start) rest

theorem reads_readFlowMapping_succ [Runtime] (within : ReadsWithin steps) (holds : reading.IsOfText)
    (first : Bool) : Reads (readFlowMapping first (steps + 1) reading) := by
  have start := holds.separated first
  unfold readFlowMapping
  refine .ite holds.next (.ite (outcome_refuse holds _) ?_)
  dsimp only
  generalize (if first = true then reading else reading.next) = here at start ⊢
  have rest : ∀ (entry : Nat × Nat) (after : Reading), after.IsOfText →
      Reads (readFlowMapping false steps after >>= fun more => pure (entry :: more.1, more.2)) :=
    fun entry after there => .bind (within.flowMapping _ there) fun _ final => final
  refine .ite start.next (.ite ?_ ?_)
  · refine .bind (within.optional _ _ _ start.next) fun (key, afterKey) there => ?_
    exact .bind (within.value _ _ there) fun (value, after) beyond => rest (key, value) after beyond
  · exact .bind (within.read _ _ start) fun (key, afterKey) there =>
      rest (key, afterKey.absent.1) afterKey.absent.2 there

/-- **Within every bound the readings of nodes go wrong by faults of the text alone.** -/
theorem readsWithin [Runtime] (steps : Nat) : ReadsWithin steps := by
  induction steps with
  | zero =>
      constructor <;> intros <;> exact outcome_refuse (by assumption) _
  | succ steps within =>
      exact
        { read := fun block indentless _ holds => reads_read_succ within holds block indentless
          optional := fun block indentless ends _ holds =>
            reads_readUnless_succ within holds block indentless ends
          blockSequence := reads_readBlockSequence_succ within
          indentless := reads_readIndentless_succ within
          value := fun block ends _ holds => reads_readValue_succ within holds block ends
          blockMapping := reads_readBlockMapping_succ within
          flowSequence := fun first _ holds => reads_readFlowSequence_succ within holds first
          flowMapping := fun first _ holds => reads_readFlowMapping_succ within holds first }

end Steps

/-! ## Documents -/

variable {tokens : List Token}

/-- What follows the directives of a document is the end of its tokens. -/
theorem outcome_readDirectives (hasVersion : Bool) (handles : List (String × String))
    (tokens : List Token) :
    Outcome Fault.IsOfText (fun found => found.2 <:+ tokens)
      (readDirectives hasVersion handles tokens) := by
  have later : ∀ {token : Token} {rest : List Token}
      {result : Except Fault (List (String × String) × List Token)},
      Outcome Fault.IsOfText (fun found => found.2 <:+ rest) result →
        Outcome Fault.IsOfText (fun found => found.2 <:+ token :: rest) result :=
    fun outcome => outcome.mono fun _ suffix => suffix.trans (List.suffix_cons _ _)
  induction tokens generalizing hasVersion handles with
  | nil => exact List.suffix_refl []
  | cons token rest inductionHypothesis =>
      unfold readDirectives
      split
      · rename_i equation
        cases equation
        exact .ite trivial (.ite trivial (later (inductionHypothesis _ _)))
      · rename_i equation
        cases equation
        exact .ite trivial (later (inductionHypothesis _ _))
      · rename_i equation
        cases equation
        exact later (inductionHypothesis _ _)
      · exact List.suffix_refl _

theorem outcome_readContent [Runtime] (holds : ∀ token ∈ tokens, token.IsOfText)
    (handles : List (String × String)) :
    Outcome Fault.IsOfText (fun found => ∀ token ∈ found.2, token.IsOfText)
      (readContent handles tokens) :=
  .bind ((readsWithin _).read _ _ holds) fun _ after => after

theorem skipDocumentEnds_suffix (tokens : List Token) : skipDocumentEnds tokens <:+ tokens := by
  induction tokens with
  | nil => exact List.suffix_refl []
  | cons token rest inductionHypothesis =>
      unfold skipDocumentEnds
      split
      · rename_i equation
        cases equation
        exact inductionHypothesis.trans (List.suffix_cons _ _)
      · exact List.suffix_refl _

theorem faults_requireEnd (holds : ∀ token ∈ tokens, token.IsOfText) :
    FaultsOfText (requireEnd tokens) := by
  unfold requireEnd
  split
  · exact trivial
  · exact trivial
  · refine .bind (outcome_readDirectives _ _ _) fun (handles, after) later => ?_
    dsimp only
    split
    · rename_i fault rest
      exact holds (.broken fault)
        ((later.trans (skipDocumentEnds_suffix tokens)).subset List.mem_cons_self)
    · exact trivial

/-- **Reading the nodes of a text goes wrong by a fault of the text alone.** -/
theorem faults_content [Runtime] (holds : ∀ token ∈ tokens, token.IsOfText)
    (handles : List (String × String)) : FaultsOfText (do
      let (graph, after) ← readContent handles tokens
      requireEnd after
      return some graph) := by
  refine .bind (outcome_readContent holds handles) ?_
  rintro ⟨graph, after⟩ inside
  exact .bind (faults_requireEnd inside) fun _ _ => trivial

/-- After its directives a document starts. -/
theorem faults_started [Runtime] (holds : ∀ token ∈ tokens, token.IsOfText) : FaultsOfText (do
    let (handles, afterDirectives) ← readDirectives false [] tokens
    match afterDirectives with
    | .documentStart :: content =>
        if endsDocument content then do
          requireEnd content
          return some blank
        else do
          let (graph, after) ← readContent handles content
          requireEnd after
          return some graph
    | .broken fault :: _ => throw fault
    | _ => throw (.malformed .documentStartExpected)) := by
  refine .bind (outcome_readDirectives _ _ _) ?_
  rintro ⟨handles, after⟩ later
  have inside : ∀ token ∈ after, token.IsOfText := fun token present =>
    holds token (later.subset present)
  dsimp only
  split
  · rename_i rest
    have within : ∀ token ∈ rest, token.IsOfText :=
      fun token present => inside token (List.mem_cons_of_mem _ present)
    exact .ite (.bind (faults_requireEnd within) fun _ _ => trivial) (faults_content within _)
  · rename_i fault rest
    exact inside (.broken fault) List.mem_cons_self
  · exact trivial

theorem faults_ofTokens [Runtime] (holds : ∀ token ∈ tokens, token.IsOfText) :
    FaultsOfText (ofTokens tokens) := by
  unfold ofTokens
  split
  · exact trivial
  · exact trivial
  · exact faults_started holds
  · exact faults_started holds
  · exact faults_content holds _

end Graph

/-! ## Values of scalars -/

theorem faults_intOfText (base : Nat) (text : List Char) : FaultsOfText (intOfText base text) := by
  unfold intOfText
  refine .ite rfl (.ite rfl ?_)
  dsimp only
  split
  · exact rfl
  · exact trivial

theorem faults_splitSign (text : List Char) : FaultsOfText (splitSign text) := by
  unfold splitSign
  dsimp only
  split
  · exact rfl
  · exact trivial

theorem faults_intScalar (text : String) : FaultsOfText (intScalar text) := by
  refine .bind (faults_splitSign _) fun (negative, unsigned) _ => ?_
  dsimp only
  split
  · exact trivial
  · exact .bind (faults_intOfText _ _) fun _ _ => trivial
  · exact .bind (faults_intOfText _ _) fun _ _ => trivial
  · exact .bind (faults_intOfText _ _) fun _ _ => trivial
  · exact rfl
  · split
    · exact .bind (Outcome.mapM fun place => faults_intOfText _ place) fun _ _ => trivial
    · exact .bind (faults_intOfText _ _) fun _ _ => trivial

theorem faults_floatOfText (text : List Char) : FaultsOfText (floatOfText text) := by
  unfold floatOfText
  refine .ite trivial (.ite trivial ?_)
  dsimp only
  split <;> exact .ite rfl trivial

theorem faults_addSixtieths (total : Number.Binary64) (weight : Int)
    (places : List Number.Binary64) : FaultsOfText (addSixtieths total weight places) := by
  induction places generalizing total weight with
  | nil => exact trivial
  | cons place rest inductionHypothesis =>
      unfold addSixtieths
      exact .ite rfl (inductionHypothesis _ _)

theorem faults_floatScalar (text : String) : FaultsOfText (floatScalar text) := by
  refine .bind (faults_splitSign _) fun (negative, unsigned) _ => ?_
  dsimp only
  split
  · exact trivial
  · split
    · exact trivial
    · split
      · refine .bind (Outcome.mapM fun place => faults_floatOfText place) fun places _ => ?_
        exact .bind (faults_addSixtieths _ _ _) fun _ _ => trivial
      · exact .bind (faults_floatOfText _) fun _ _ => trivial

theorem faults_timestampScalar (text : String) : FaultsOfText (timestampScalar text) := by
  unfold timestampScalar
  split
  · exact rfl
  · dsimp only
    split
    · split
      · exact trivial
      · exact rfl
    · split
      · exact trivial
      · exact rfl

theorem faults_binaryScalar (text : String) : FaultsOfText (binaryScalar text) := by
  unfold binaryScalar
  split
  · split <;> exact trivial
  · exact trivial

theorem faults_truthScalar (text : String) : FaultsOfText (truthScalar text) := by
  unfold truthScalar
  split
  · exact trivial
  · exact rfl

/-- Every reader of scalars goes wrong by a fault of the text alone. -/
theorem faults_scalarReader {tag : String} {reader : String → Except Fault Value}
    (found : scalarReader? tag = some reader) (text : String) : FaultsOfText (reader text) := by
  obtain ⟨entry, hit, rfl⟩ := Option.map_eq_some_iff.mp found
  have known := List.mem_of_find?_eq_some hit
  simp only [scalarReaders, List.mem_cons, List.not_mem_nil, or_false] at known
  rcases known with rfl | rfl | rfl | rfl | rfl | rfl | rfl
  · exact trivial
  · exact trivial
  · exact faults_truthScalar text
  · exact (faults_intScalar text).map _
  · exact (faults_floatScalar text).map _
  · exact faults_binaryScalar text
  · exact faults_timestampScalar text

/-! ## Objects -/

theorem faults_ownScalar (nodes : Array Node) (steps index : Nat) :
    FaultsOfText (ownScalar nodes steps index) := by
  induction steps generalizing index with
  | zero => exact rfl
  | succ steps inductionHypothesis =>
      unfold ownScalar
      split
      · exact trivial
      · split
        · exact inductionHypothesis _
        · exact trivial
      · exact trivial

theorem faults_mergeFrom (steps : Nat) (nodes : Array Node) (index position : Nat)
    (merged : List (Nat × Nat)) : FaultsOfText (mergeFrom steps nodes index position merged) := by
  induction steps generalizing nodes index position merged with
  | zero =>
      unfold mergeFrom
      dsimp only
      split
      · exact trivial
      · exact trivial
      · rename_i more _ _ _ impossible _
        cases impossible
  | succ steps inductionHypothesis =>
      unfold mergeFrom
      dsimp only
      split
      · exact trivial
      · exact trivial
      · rename_i more _ _ _ same _
        cases same
        split
        · exact .bind (inductionHypothesis _ _ _ _) fun _ _ => inductionHypothesis _ _ _ _
        · refine .bind (@Outcome.foldlM _ _ _ _ (fun _ => True) _ _ _ trivial ?_) fun _ _ =>
            inductionHypothesis _ _ _ _
          rintro ⟨changed, found⟩ item -
          dsimp only
          split
          · exact .bind (inductionHypothesis _ _ _ _) fun _ _ => trivial
          · exact trivial
        · exact trivial

namespace Assembly

theorem faults_readScalar (assembly : Assembly) (index : Nat) (node : Node) :
    FaultsOfText (assembly.readScalar index node) := by
  unfold readScalar
  split
  · exact trivial
  · rename_i reader found
    refine .bind (faults_ownScalar _ _ _) fun text _ => ?_
    have rest : FaultsOfText (do
        let value ← reader text
        let shared := node.tag == standardTag "float" && isUndefinedScalar text
        return Object.scalar value (if shared then assembly.nodes.size else index)) :=
      .bind (faults_scalarReader found text) fun _ _ => trivial
    dsimp only
    split
    · exact rest
    · exact .ite rfl rest

theorem faults_meet (assembly : Assembly) (index : Nat) : FaultsOfText (assembly.meet index) := by
  unfold meet
  split
  · split
    · exact trivial
    · exact .bind (faults_readScalar _ _ _) fun _ _ => trivial
  · exact trivial

theorem faults_meetEntries (assembly : Assembly) (entries : List (Nat × Nat)) :
    FaultsOfText (assembly.meetEntries entries) := by
  refine Outcome.foldlM trivial fun (met, settled) (key, value) _ => ?_
  refine .bind (faults_meet _ _) fun withKey _ => ?_
  dsimp only
  split
  · exact .bind (faults_meet _ _) fun _ _ => trivial
  · exact trivial

theorem faults_meetPairs (assembly : Assembly) (items : List Nat) :
    FaultsOfText (assembly.meetPairs items) := by
  refine Outcome.foldlM trivial fun (met, pairs) item _ => ?_
  dsimp only
  split
  · refine .bind (faults_meet _ _) fun withKey _ => ?_
    exact .bind (faults_meet _ _) fun _ _ => trivial
  · exact trivial

theorem faults_mergedEntries (assembly : Assembly) (index : Nat) :
    FaultsOfText (assembly.mergedEntries index) :=
  .bind (faults_mergeFrom _ _ _ _ _) fun _ _ => faults_meetEntries _ _

theorem faults_fill (assembly : Assembly) (index : Nat) : FaultsOfText (assembly.fill index) := by
  unfold fill
  split
  · split
    · exact .bind (faults_meetPairs _ _) fun _ _ => trivial
    · exact .bind (Outcome.foldlM trivial fun _ _ _ => faults_meet _ _) fun _ _ => trivial
  · exact .bind (faults_mergedEntries _ _) fun _ _ => trivial
  · exact .bind (faults_mergedEntries _ _) fun _ _ => trivial
  · exact trivial

theorem faults_fillAll (steps : Nat) (assembly : Assembly) :
    FaultsOfText (fillAll steps assembly) := by
  induction steps generalizing assembly with
  | zero => exact trivial
  | succ steps inductionHypothesis =>
      unfold fillAll
      split
      · exact trivial
      · exact .bind (Outcome.foldlM trivial fun _ _ _ => faults_fill _ _) fun _ _ =>
          inductionHypothesis _

theorem faults_ofGraph (graph : Graph) : FaultsOfText (ofGraph graph) :=
  .bind (faults_meet _ _) fun _ _ => faults_fillAll _ _

end Assembly

/-- **Reading a YAML text goes wrong by a complaint about the text, or by the failure of a value in
it that does not exist.** -/
theorem faults_parse [Runtime] (text : String) : FaultsOfText (parse text) := by
  refine .bind (Graph.faults_ofTokens (Token.isOfText_ofText text.toList)) fun graph _ => ?_
  split
  · exact trivial
  · exact .bind (Assembly.faults_ofGraph _) fun _ _ => trivial

end Routebook.Yaml
