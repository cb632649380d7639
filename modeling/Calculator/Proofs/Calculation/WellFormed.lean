import Calculator.Proofs.Grammar.Nodes
import Calculator.Proofs.Grammar.Trailing
import Calculator.Proofs.Parser.Relocation
import Calculator.Proofs.Token.MaximalMunch

/-!
# Trees that are read from a text

What a tree says of its own shape and of its text is true. The heights that it keeps are its real
ones and within the limit, each sign stands in the text where the tree says it does, the tokens of
the nodes follow one another as they are read, and each node covers exactly what is written between
its first and its last token.

The tree is that of a phrase, so its nodes stand for tokens that were scanned
(`Phrase.Fits.standFor`); the order of the spans comes from the scanner alone.
-/

namespace Calculator

/-- Whether a text stands at a span of a longer one. -/
def Span.Reads (span : Span) (text source : String) : Prop :=
  span.stop ≤ source.length ∧ span.slice source = text

/-- Whether the sign of a node is in the text: a minus sign before an operand, and the symbol of
any operator between two. -/
def Expr.Written (source : String) : Expr → Prop
  | literal _ _ => True
  | unaryNode sign _ _ _ => sign.operator = .sub ∧ sign.span.Reads "-" source
  | binaryNode sign _ _ _ _ => sign.span.Reads sign.operator.symbol source

/-- What is true of every tree that is read from a text. -/
structure Expr.WellFormed (limit : Nat) (source : String) (tree : Expr) : Prop where
  height_eq : ∀ node ∈ tree.nodes, node.height = node.longestPath
  height_le : ∀ node ∈ tree.nodes, node.height ≤ limit
  written : ∀ node ∈ tree.nodes, node.Written source
  ordered : tree.Ordered
  nodup_blamed : (tree.nodes.map Expr.blamed).Nodup
  ends : ∀ node ∈ tree.nodes, node.Ends
  nests : ∀ node ∈ tree.nodes, node.Nests

variable {settings : Settings} {source : String}

/-! ## Signs in a text -/

theorem Span.reads_of_getElem? {span : Span} {c : Char} (found : source.toList[span.start]? = some c)
    (single : span.stop = span.start + 1) : span.Reads (String.singleton c) source := by
  obtain ⟨below, here⟩ := List.getElem?_eq_some_iff.mp found
  constructor
  · rwa [single, ← String.length_toList]
  · rw [slice, single, Nat.add_sub_cancel_left, List.drop_eq_getElem_cons below, here,
      String.singleton_eq_ofList]
    rfl

theorem Operator.exists_symbol (operator : Operator) : ∃ c,
    operator.symbol = String.singleton c ∧ Token.Kind.ofSymbol? c = some operator.kind := by
  cases operator with
  | add => exact ⟨'+', rfl, rfl⟩
  | sub => exact ⟨'-', rfl, rfl⟩
  | mul => exact ⟨'*', rfl, rfl⟩
  | div => exact ⟨'/', rfl, rfl⟩
  | pow => exact ⟨'^', rfl, rfl⟩

namespace Token

variable {token : Token}

/-- A sign or a parenthesis is a single character. -/
theorem stop_eq_of_symbol (member : token ∈ scan settings source) {symbol : Char}
    (known : Kind.ofSymbol? symbol = some token.kind) : token.span.stop = token.span.start + 1 := by
  obtain ⟨notNumber, -, notEnd⟩ := Kind.ne_of_ofSymbol? known
  obtain ⟨-, -, -, single⟩ := exists_char_of_mem_scan member notEnd notNumber
  exact single

theorem reads_of_operator (member : token ∈ scan settings source) {operator : Operator}
    (written : token.kind = operator.kind) : token.span.Reads operator.symbol source := by
  obtain ⟨c, symbol, known⟩ := operator.exists_symbol
  rw [← written] at known
  rw [symbol]
  exact Span.reads_of_getElem? (getElem?_of_symbol member known) (stop_eq_of_symbol member known)

/-- No token starts before the one in front of it has ended. -/
theorem pairwise_before_scan (settings : Settings) (source : String) :
    (scan settings source).Pairwise fun first second => first.span.Before second.span := by
  rw [scan_eq, List.pairwise_append]
  refine ⟨pairwise_ofMarks (settings.pairwise_marks source.toList), List.pairwise_singleton _ _, ?_⟩
  intro word member mark last
  obtain rfl := List.mem_singleton.mp last
  have within := stop_le_of_mem_ofMarks member
  rwa [String.length_toList] at within

theorem start_lt_stop_of_mem_scan (member : token ∈ scan settings source)
    (plain : token.kind ≠ .endOfInput) : token.span.start < token.span.stop := by
  rcases mem_scan_iff.mp member with word | rfl
  · exact span_lt_of_mem_ofMarks (settings.pairwise_marks source.toList) word
  · exact absurd rfl plain

end Token

/-- A node that stands for a token of a text has its sign there. -/
theorem Expr.StandsFor.written {node : Expr} {token : Token} (stands : node.StandsFor token)
    (member : token ∈ Token.scan settings source) : node.Written source := by
  cases node with
  | literal value span => trivial
  | unaryNode sign operand span height =>
    obtain ⟨kind, rfl⟩ := stands
    have written : token.kind = Operator.sub.kind := kind
    exact ⟨rfl, Token.reads_of_operator member written⟩
  | binaryNode sign left right span height =>
    obtain ⟨kind, place⟩ := stands
    rw [Expr.Written, place]
    exact Token.reads_of_operator member kind

/-- The tree of a phrase at the start of a text is well formed. -/
theorem Phrase.Fits.wellFormed {phrase : Phrase} {level limit : Nat} {rest : List Token}
    (fits : phrase.Fits .standard level) (within : phrase.tree.height ≤ limit)
    (split : Token.scan settings source = phrase.tokens ++ rest) :
    phrase.tree.WellFormed limit source := by
  have stand := fits.standFor
  have built := phrase.built_tree
  have scanned {token : Token} (member : token ∈ phrase.tokens) :
      token ∈ Token.scan settings source := by
    rw [split]
    exact List.mem_append_left rest member
  have order := Token.pairwise_before_scan settings source
  rw [split, List.pairwise_append] at order
  have ordered : phrase.tree.Ordered := by
    refine Expr.ordered_of_standFor stand (order.1.filter _) fun token member => ?_
    have inside := List.mem_of_mem_filter member
    exact Token.start_lt_stop_of_mem_scan (scanned inside) (fits.kind_ne rfl token inside)
  refine
    { height_eq := fun node member => (built.of_mem_nodes member).height_eq
      height_le := ?low
      written := ?written
      ordered
      nodup_blamed := ordered.nodup_blamed
      ends := fun node member => (built.of_mem_nodes member).ends
      nests := fun node member => (built.of_mem_nodes member).nests (ordered.of_mem_nodes member) }
  case low =>
    intro node member
    calc node.height
        = node.longestPath := (built.of_mem_nodes member).height_eq
      _ ≤ phrase.tree.longestPath := Expr.longestPath_le_of_mem member
      _ = phrase.tree.height := built.height_eq.symm
      _ ≤ limit := within
  case written =>
    intro node member
    obtain ⟨token, inside, stands⟩ := Expr.exists_token_of_standFor stand member
    exact stands.written (scanned (List.mem_of_mem_filter inside))

open Calculator.Parser in
/-- A tree that is read from a text is well formed. Its nodes stand, in the order of the text, for
the tokens that reading an expression from the start of the text uses up, except for the
parentheses. -/
theorem wellFormed_of_parse {tree : Expr} (parsed : (parse settings source).outcome = .ok tree) :
    tree.WellFormed settings.maxDepth source ∧
    ∃ read rest, Token.scan settings source = read ++ rest ∧
      (∀ log, ∃ later, (expression .standard settings.maxDepth 0 BindingPower.lowest.precedence).run
        ⟨Token.scan settings source, log⟩ = .ok tree ⟨rest, later⟩) ∧
      tree.nodes.map Expr.place = (Token.unenclosed read).map Token.span := by
  rw [(yields_parse settings source).outcome] at parsed
  obtain ⟨rest, leads⟩ := Expr.exists_leads_of_outcome parsed
  rw [Token.terminated_scan] at leads
  have runs (log : Array Event) := (Expr.leads_iff log).mp leads
  obtain ⟨phrase, derived, rfl, levels, split, -⟩ := leads
  have fits := derives_expr_iff.mp derived
  have low : phrase.tree.height ≤ settings.maxDepth := Nat.le_trans (Nat.le_max_right _ _) levels
  refine ⟨fits.wellFormed low split, phrase.tokens, rest, split, fun log => ?_, ?_⟩
  · obtain ⟨later, run⟩ := runs log
    exact ⟨later, run_perform run⟩
  · exact Expr.map_place_of_standFor fits.standFor

/-- The tree of `-(1+2)*3` has a node for every token that is no parenthesis. -/
theorem wellFormed_of_parse_product :
    let sum : Expr := .binary ⟨.add, ⟨3, 4⟩⟩ (.literal 1 ⟨2, 3⟩) (.literal 2 ⟨4, 5⟩)
    let tree : Expr := .binary ⟨.mul, ⟨6, 7⟩⟩ (.unary ⟨.sub, ⟨0, 1⟩⟩ sum) (.literal 3 ⟨7, 8⟩)
    (parse {} "-(1+2)*3").outcome = .ok tree ∧ tree.WellFormed 1024 "-(1+2)*3" ∧
      tree.nodes.map Expr.place = [⟨0, 1⟩, ⟨2, 3⟩, ⟨3, 4⟩, ⟨4, 5⟩, ⟨6, 7⟩, ⟨7, 8⟩] := by
  intro sum tree
  have parsed : (parse {} "-(1+2)*3").outcome = .ok tree := by decide +kernel
  obtain ⟨formed, -⟩ := wellFormed_of_parse parsed
  exact ⟨parsed, formed, rfl⟩

end Calculator
