import Calculator.Proofs.Grammar.Phrase
import Mathlib.Data.List.Forall2

/-!
# The nodes of a tree in the order of the text

Every node of a tree stands for one token: a number, or a sign. `Expr.nodes` lists the nodes in the
order in which their tokens are written, with a sign between its two operands or before its only
one. For the tree of a phrase these are the tokens of the phrase without its parentheses
(`Phrase.Fits.standFor`).

Heights and spans are worked out from the children when a node is built, and kept. So what is kept
is right at every node of a tree that is built in this way alone (`Expr.Built`); and if the tokens
stand one behind the other, then so do the spans of two operands and the sign between them
(`Expr.Built.nests`).
-/

namespace Calculator

namespace Span

/-- Whether a stretch of text ends before another one starts. -/
def Before (first second : Span) : Prop := first.stop ≤ second.start

/-- Whether a stretch of text lies inside another one. -/
def Inside (inner outer : Span) : Prop := outer.start ≤ inner.start ∧ inner.stop ≤ outer.stop

end Span

namespace Expr

variable {tree node : Expr} {sign : Sign} {left right operand : Expr}

/-- The nodes from left to right. A sign stands between its two operands or before its only one. -/
def nodes : Expr → List Expr
  | literal value span => [literal value span]
  | unaryNode sign operand span height => unaryNode sign operand span height :: operand.nodes
  | binaryNode sign left right span height =>
    left.nodes ++ binaryNode sign left right span height :: right.nodes

/-- Where a node's own token stands: its number, or its sign. -/
def place : Expr → Span
  | literal _ span => span
  | unaryNode sign _ _ _ => sign.span
  | binaryNode sign _ _ _ _ => sign.span

/-- The number of nodes on the longest way down to a literal, counted along the tree. -/
def longestPath : Expr → Nat
  | literal _ _ => 1
  | unaryNode _ operand _ _ => operand.longestPath + 1
  | binaryNode _ left right _ _ => max left.longestPath right.longestPath + 1

/-- Whether a tree covers the text from the first of its tokens to the last. -/
def Ends (tree : Expr) : Prop :=
  ∃ first last, tree.nodes.head? = some first ∧ tree.nodes.getLast? = some last ∧
    tree.span = first.place.join last.place

/-- Whether operands stand inside the tree's own span, and behind the sign or on both sides of it. -/
def Nests : Expr → Prop
  | literal _ _ => True
  | unaryNode sign operand span _ => operand.span.Inside span ∧ sign.span.Before operand.span
  | binaryNode sign left right span _ => left.span.Inside span ∧ right.span.Inside span ∧
      left.span.Before sign.span ∧ sign.span.Before right.span

/-- Whether the tokens of a tree stand one behind the other, and each of them somewhere. -/
structure Ordered (tree : Expr) : Prop where
  apart : tree.nodes.Pairwise fun first second => first.place.Before second.place
  visible : ∀ node ∈ tree.nodes, node.place.start < node.place.stop

@[simp] theorem nodes_literal (value : Float) (span : Span) :
    (literal value span).nodes = [literal value span] := rfl

@[simp] theorem nodes_unary (sign : Sign) (operand : Expr) :
    (unary sign operand).nodes = unary sign operand :: operand.nodes := rfl

@[simp] theorem nodes_binary (sign : Sign) (left right : Expr) :
    (binary sign left right).nodes = left.nodes ++ binary sign left right :: right.nodes := rfl

/-- A node is blamed for what goes wrong at its token. -/
theorem blamed_eq_start_place (node : Expr) : node.blamed = node.place.start := by
  cases node <;> rfl

theorem mem_nodes_self (tree : Expr) : tree ∈ tree.nodes := by
  cases tree <;> simp [nodes]

/-- The nodes below a node stand together among the nodes of the whole tree. -/
theorem nodes_infix_of_mem (member : node ∈ tree.nodes) : node.nodes <:+: tree.nodes := by
  induction tree with
  | literal value span =>
    obtain rfl := List.mem_singleton.mp member
    exact List.infix_rfl
  | unaryNode sign operand span height ih =>
    rcases List.mem_cons.mp member with rfl | below
    · exact List.infix_rfl
    · exact (ih below).trans (List.suffix_cons _ _).isInfix
  | binaryNode sign left right span height first second =>
    rw [nodes, List.mem_append, List.mem_cons] at member
    rcases member with below | rfl | below
    · exact (first below).trans (List.prefix_append _ _).isInfix
    · exact List.infix_rfl
    · have behind := (List.suffix_cons (binaryNode sign left right span height) right.nodes).trans
        (List.suffix_append left.nodes _)
      exact (second below).trans behind.isInfix

/-- No way down from a node is longer than the longest one from the root. -/
theorem longestPath_le_of_mem (member : node ∈ tree.nodes) :
    node.longestPath ≤ tree.longestPath := by
  induction tree with
  | literal value span =>
    obtain rfl := List.mem_singleton.mp member
    exact Nat.le_refl _
  | unaryNode sign operand span height ih =>
    rcases List.mem_cons.mp member with rfl | below
    · exact Nat.le_refl _
    · exact Nat.le_succ_of_le (ih below)
  | binaryNode sign left right span height first second =>
    rw [nodes, List.mem_append, List.mem_cons] at member
    rcases member with below | rfl | below
    · exact Nat.le_succ_of_le (Nat.le_trans (first below) (Nat.le_max_left _ _))
    · exact Nat.le_refl _
    · exact Nat.le_succ_of_le (Nat.le_trans (second below) (Nat.le_max_right _ _))

/-! ## Order -/

theorem Ordered.of_mem_nodes (ordered : tree.Ordered) (member : node ∈ tree.nodes) :
    node.Ordered where
  apart := ordered.apart.sublist (nodes_infix_of_mem member).sublist
  visible other inside := ordered.visible other ((nodes_infix_of_mem member).subset inside)

/-- No two nodes can be blamed at one position. -/
theorem Ordered.nodup_blamed (ordered : tree.Ordered) : (tree.nodes.map blamed).Nodup := by
  rw [List.Nodup, List.pairwise_map]
  refine ordered.apart.imp_of_mem fun {first second} member _ before => ?_
  rw [blamed_eq_start_place, blamed_eq_start_place]
  exact Nat.ne_of_lt (Nat.lt_of_lt_of_le (ordered.visible first member) before)

/-- A tree covers some text. -/
theorem Ends.start_lt_stop (ends : tree.Ends) (ordered : tree.Ordered) :
    tree.span.start < tree.span.stop := by
  obtain ⟨first, last, head, ended, span⟩ := ends
  obtain ⟨others, split⟩ := List.head?_eq_some_iff.mp head
  have lastMember : last ∈ tree.nodes := List.mem_of_getLast? ended
  have firstVisible := ordered.visible first (List.mem_of_head? head)
  have lastVisible := ordered.visible last lastMember
  rw [span, Span.join_start, Span.join_stop]
  rw [split] at lastMember
  rcases List.mem_cons.mp lastMember with rfl | behind
  · exact lastVisible
  · have apart := ordered.apart
    rw [split] at apart
    have before : first.place.stop ≤ last.place.start := List.rel_of_pairwise_cons apart behind
    omega

/-! ## Trees that are built from their children -/

/-- Whether the height and the span of every node are worked out from its children. -/
inductive Built : Expr → Prop where
  | literal {value : Float} {span : Span} : Built (literal value span)
  | unary {sign : Sign} {operand : Expr} (inside : Built operand) : Built (unary sign operand)
  | binary {sign : Sign} {left right : Expr} (first : Built left) (second : Built right) :
      Built (binary sign left right)

namespace Built

theorem of_mem_nodes (built : tree.Built) (member : node ∈ tree.nodes) : node.Built := by
  induction built with
  | literal =>
    rw [List.mem_singleton.mp member]
    exact .literal
  | unary inside ih =>
    rcases List.mem_cons.mp member with rfl | below
    · exact .unary inside
    · exact ih below
  | binary one other first second =>
    rw [nodes_binary, List.mem_append, List.mem_cons] at member
    rcases member with below | rfl | below
    · exact first below
    · exact .binary one other
    · exact second below

theorem height_eq (built : tree.Built) : tree.height = tree.longestPath := by
  induction built with
  | literal => rfl
  | unary _ ih =>
    rw [height_unary, ih]
    rfl
  | binary _ _ first second =>
    rw [height_binary, first, second]
    rfl

theorem ends (built : tree.Built) : tree.Ends := by
  induction built with
  | @literal value span => exact ⟨.literal value span, .literal value span, rfl, rfl, rfl⟩
  | @unary sign operand _ ih =>
    obtain ⟨first, last, -, ended, span⟩ := ih
    refine ⟨.unary sign operand, last, rfl, ?_, ?_⟩
    · rw [nodes_unary, List.getLast?_cons, ended]
      rfl
    · rw [span_unary, span]
      rfl
  | @binary sign left right _ _ one other =>
    obtain ⟨first, _, head, -, start⟩ := one
    obtain ⟨_, last, -, ended, stop⟩ := other
    refine ⟨first, last, ?_, ?_, ?_⟩
    · rw [nodes_binary, List.head?_append, head]
      rfl
    · rw [nodes_binary, List.getLast?_append, List.getLast?_cons, ended]
      rfl
    · rw [span_binary, start, stop]
      rfl

/-- Where tokens stand one behind the other, so do the operands and the sign of a node. -/
theorem nests (built : tree.Built) (ordered : tree.Ordered) : tree.Nests := by
  cases built with
  | literal => trivial
  | @unary sign operand inside =>
    obtain ⟨first, last, head, -, span⟩ := inside.ends
    have visible : sign.span.start < sign.span.stop :=
      ordered.visible _ (mem_nodes_self (Expr.unary sign operand))
    have before : sign.span.stop ≤ operand.span.start := by
      rw [span]
      exact List.rel_of_pairwise_cons ordered.apart (List.mem_of_head? head)
    refine ⟨⟨?_, Nat.le_refl _⟩, before⟩
    exact Nat.le_trans (Nat.le_of_lt visible) before
  | @binary sign left right one other =>
    obtain ⟨-, following, across⟩ := List.pairwise_append.mp ordered.apart
    have visible : sign.span.start < sign.span.stop :=
      ordered.visible _ (mem_nodes_self (Expr.binary sign left right))
    have leftVisible := one.ends.start_lt_stop (ordered.of_mem_nodes (by simp [mem_nodes_self]))
    have rightVisible := other.ends.start_lt_stop (ordered.of_mem_nodes (by simp [mem_nodes_self]))
    have before : left.span.stop ≤ sign.span.start := by
      obtain ⟨_, last, -, ended, span⟩ := one.ends
      rw [span]
      exact across last (List.mem_of_getLast? ended) _ List.mem_cons_self
    have after : sign.span.stop ≤ right.span.start := by
      obtain ⟨first, _, head, -, span⟩ := other.ends
      rw [span]
      exact List.rel_of_pairwise_cons following (List.mem_of_head? head)
    refine ⟨⟨Nat.le_refl _, ?_⟩, ⟨?_, Nat.le_refl _⟩, before, after⟩
    · show left.span.stop ≤ right.span.stop
      omega
    · show left.span.start ≤ right.span.start
      omega

end Built

/-! ## The tokens of a phrase -/

/-- Whether a node is made of a token. -/
def StandsFor (node : Expr) (token : Token) : Prop :=
  match node with
  | literal value span =>
    token.kind = .number ∧ Decimal.read? token.text = some value ∧ span = token.span
  | unaryNode sign _ _ _ => token.kind = .dash ∧ sign = ⟨.sub, token.span⟩
  | binaryNode sign _ _ _ _ => token.kind = sign.operator.kind ∧ sign.span = token.span

theorem StandsFor.place_eq {token : Token} (stands : node.StandsFor token) :
    node.place = token.span := by
  cases node with
  | literal value span => exact stands.2.2
  | unaryNode sign operand span height => exact congrArg Sign.span stands.2
  | binaryNode sign left right span height => exact stands.2

section Tokens

variable {nodes : List Expr} {tokens : List Token}

theorem map_place_of_standFor (stand : List.Forall₂ StandsFor nodes tokens) :
    nodes.map place = tokens.map Token.span := by
  rw [← List.forall₂_eq_eq_eq, List.forall₂_map_left_iff, List.forall₂_map_right_iff]
  exact stand.imp fun _ _ stands => stands.place_eq

theorem exists_token_of_standFor (stand : List.Forall₂ StandsFor nodes tokens)
    (member : node ∈ nodes) : ∃ token ∈ tokens, node.StandsFor token := by
  induction stand with
  | nil => cases member
  | @cons first token _ tokens stands _ ih =>
    rcases List.mem_cons.mp member with rfl | behind
    · exact ⟨token, List.mem_cons_self, stands⟩
    · obtain ⟨other, inside, standsOther⟩ := ih behind
      exact ⟨other, List.mem_cons_of_mem token inside, standsOther⟩

/-- A tree is in order if its tokens are. -/
theorem ordered_of_standFor (stand : List.Forall₂ StandsFor tree.nodes tokens)
    (apart : tokens.Pairwise fun first second => first.span.Before second.span)
    (visible : ∀ token ∈ tokens, token.span.start < token.span.stop) : tree.Ordered := by
  constructor
  · have places : (tree.nodes.map place).Pairwise Span.Before := by
      rw [map_place_of_standFor stand, List.pairwise_map]
      exact apart
    rwa [List.pairwise_map] at places
  · intro node member
    obtain ⟨token, inside, stands⟩ := exists_token_of_standFor stand member
    rw [stands.place_eq]
    exact visible token inside

end Tokens

end Expr

/-- Whether tokens of a kind only show how an expression is grouped. -/
def Token.Kind.isParenthesis : Kind → Bool
  | openParen | closeParen => true
  | _ => false

theorem Operator.not_isParenthesis (operator : Operator) :
    operator.kind.isParenthesis = false := by
  cases operator <;> rfl

/-- The tokens that are no parentheses. -/
def Token.unenclosed (tokens : List Token) : List Token :=
  tokens.filter fun token => !token.kind.isParenthesis

namespace Phrase

variable {phrase : Phrase} {level : Nat}

theorem built_tree (phrase : Phrase) : phrase.tree.Built := by
  induction phrase with
  | number token value => exact .literal
  | negation sign inner ih => exact .unary ih
  | group opening inner closing ih => exact ih
  | operation left operator sign right first second => exact .binary first second

/-- The nodes of a phrase's tree stand for its tokens, one for each that is no parenthesis. -/
theorem Fits.standFor (fits : phrase.Fits .standard level) :
    List.Forall₂ Expr.StandsFor phrase.tree.nodes (Token.unenclosed phrase.tokens) := by
  induction fits with
  | @number _ token value found read =>
    have kind : token.kind = .number := Rules.operand_standard_eq_some_iff.mp found
    have kept : Token.unenclosed [token] = [token] := by
      simp [Token.unenclosed, kind, Token.Kind.isParenthesis]
    rw [tokens, kept]
    exact .cons ⟨kind, read, rfl⟩ .nil
  | @negation _ sign inner found _ _ ih =>
    have kind : sign.kind = .dash := Rules.operand_standard_eq_some_iff.mp found
    have kept : Token.unenclosed (sign :: inner.tokens) =
        sign :: Token.unenclosed inner.tokens := by
      simp [Token.unenclosed, kind, Token.Kind.isParenthesis]
    rw [tokens, kept]
    exact .cons ⟨kind, rfl⟩ ih
  | @group _ opening closing inner found _ closed ih =>
    have opened : opening.kind = .openParen := Rules.operand_standard_eq_some_iff.mp found
    have dropped : Token.unenclosed (opening :: inner.tokens ++ [closing]) =
        Token.unenclosed inner.tokens := by
      simp [Token.unenclosed, opened, closed, Token.Kind.isParenthesis]
    rw [tokens, dropped]
    exact ih
  | @operation _ left right operator sign _ written _ _ _ _ first second =>
    have kept : Token.unenclosed (left.tokens ++ sign :: right.tokens) =
        Token.unenclosed left.tokens ++ sign :: Token.unenclosed right.tokens := by
      simp [Token.unenclosed, written, operator.not_isParenthesis]
    rw [tokens, kept]
    exact List.rel_append first (.cons ⟨written, rfl⟩ second)

end Phrase

end Calculator
