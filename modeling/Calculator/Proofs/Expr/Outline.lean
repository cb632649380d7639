import Calculator.Expr.Display
import Calculator.Proofs.Decimal.Layout
import Calculator.Proofs.Text.Line

/-!
# The prefix form of a tree can be read in one way

The outline of a tree is its shape with the operators and with the texts of the literals. Its
spelling puts nothing between the parts but spaces and parentheses, and still no spelling is the
beginning of another one that could stand in its place (`spelling_append_inj`). So trees with the
same prefix form have the same outline (`display_eq_iff_outline_eq`). The texts of literals have to
be such that they can be told from spaces and parentheses, and nothing else is asked of them.
-/

namespace Calculator

/-- A tree without places and heights, and with texts for literals. -/
inductive Outline where
  | literal (text : String)
  | unary (operator : Operator) (operand : Outline)
  | binary (operator : Operator) (left right : Outline)
deriving DecidableEq

namespace Outline

/-- The characters of an outline, with every operator before its operands. -/
def spelling : Outline → List Char
  | literal text => text.toList
  | unary operator operand => '(' :: operator.symbol.toList ++ ' ' :: operand.spelling ++ [')']
  | binary operator left right =>
    '(' :: operator.symbol.toList ++ ' ' :: left.spelling ++ ' ' :: right.spelling ++ [')']

/-- Whether a character is neither a space nor a parenthesis. -/
def isInner (c : Char) : Bool := c != ' ' && c != '(' && c != ')'

/-- Whether a text can be told from what stands around it. -/
def IsAtom (text : String) : Prop := text ≠ "" ∧ ∀ c ∈ text.toList, isInner c = true

/-- Whether all literals of an outline can be told from what stands around them. -/
def Legible : Outline → Prop
  | literal text => IsAtom text
  | unary _ operand => operand.Legible
  | binary _ left right => left.Legible ∧ right.Legible

/-- Whether a text can follow an operand. -/
def Closes (rest : List Char) : Prop := ∀ c ∈ rest.head?, isInner c = false

variable {first second : Outline} {rest others : List Char} {operator : Operator}

theorem closes_nil : Closes [] := by simp [Closes]

theorem closes_space (rest : List Char) : Closes (' ' :: rest) := by simp [Closes, isInner]

theorem closes_parenthesis (rest : List Char) : Closes (')' :: rest) := by simp [Closes, isInner]

theorem spelling_unary_append (operator : Operator) (operand : Outline) (rest : List Char) :
    (unary operator operand).spelling ++ rest =
      '(' :: (operator.symbol.toList ++ ' ' :: (operand.spelling ++ ')' :: rest)) := by
  simp [spelling]

theorem spelling_binary_append (operator : Operator) (left right : Outline) (rest : List Char) :
    (binary operator left right).spelling ++ rest =
      '(' :: (operator.symbol.toList ++
        ' ' :: (left.spelling ++ ' ' :: (right.spelling ++ ')' :: rest))) := by
  simp [spelling]

/-- A literal is not spelled with a parenthesis at its start. -/
theorem IsAtom.toList_append_ne {text : String} (atom : IsAtom text) (rest others : List Char) :
    text.toList ++ rest ≠ '(' :: others := by
  obtain ⟨nonempty, inner⟩ := atom
  cases marks : text.toList with
  | nil => exact absurd (String.toList_eq_nil_iff.mp marks) nonempty
  | cons c marks =>
    intro same
    have opened := inner c (by rw [marks]; exact List.mem_cons_self)
    rw [(List.cons.inj same).1] at opened
    cases opened

/-- A parenthesis, an operator and a space can be told from the operands after them. -/
theorem opening_inj {other : Operator}
    (same : '(' :: (operator.symbol.toList ++ ' ' :: rest) =
      '(' :: (other.symbol.toList ++ ' ' :: others)) : operator = other ∧ rest = others := by
  have single (operator : Operator) : operator.symbol.toList.length = 1 := by
    cases operator <;> rfl
  obtain ⟨symbols, operands⟩ :=
    List.append_inj (List.cons.inj same).2 ((single operator).trans (single other).symm)
  exact ⟨Operator.symbol_injective (String.toList_inj.mp symbols), (List.cons.inj operands).2⟩

/-- A text that starts with the spelling of an outline, and goes on as it can after an operand, does
so in one way. -/
theorem spelling_append_inj (same : first.spelling ++ rest = second.spelling ++ others)
    (legible : first.Legible) (legibleSecond : second.Legible) (closes : Closes rest)
    (closesOthers : Closes others) : first = second ∧ rest = others := by
  induction first generalizing second rest others with
  | literal text =>
    cases second with
    | literal other =>
      obtain ⟨texts, equal⟩ :=
        Text.append_inj_of_stop same legible.2 legibleSecond.2 closes closesOthers
      exact ⟨congrArg literal (String.toList_inj.mp texts), equal⟩
    | unary | binary => exact absurd same (legible.toList_append_ne _ _)
  | unary operator operand ih =>
    rw [spelling_unary_append] at same
    cases second with
    | literal other => exact absurd same.symm (legibleSecond.toList_append_ne _ _)
    | unary other inner =>
      rw [spelling_unary_append] at same
      obtain ⟨rfl, operands⟩ := opening_inj same
      obtain ⟨rfl, closing⟩ := ih operands legible legibleSecond (closes_parenthesis _)
        (closes_parenthesis _)
      exact ⟨rfl, (List.cons.inj closing).2⟩
    | binary other left right =>
      -- after the first operand stands a parenthesis here and a space there
      rw [spelling_binary_append] at same
      obtain ⟨rfl, operands⟩ := opening_inj same
      obtain ⟨-, closing⟩ := ih operands legible legibleSecond.1 (closes_parenthesis _)
        (closes_space _)
      cases closing
  | binary operator left right ihLeft ihRight =>
    rw [spelling_binary_append] at same
    cases second with
    | literal other => exact absurd same.symm (legibleSecond.toList_append_ne _ _)
    | unary other inner =>
      rw [spelling_unary_append] at same
      obtain ⟨rfl, operands⟩ := opening_inj same
      obtain ⟨-, closing⟩ := ihLeft operands legible.1 legibleSecond (closes_space _)
        (closes_parenthesis _)
      cases closing
    | binary other leftOther rightOther =>
      rw [spelling_binary_append] at same
      obtain ⟨rfl, operands⟩ := opening_inj same
      obtain ⟨rfl, further⟩ := ihLeft operands legible.1 legibleSecond.1 (closes_space _)
        (closes_space _)
      obtain ⟨rfl, closing⟩ := ihRight (List.cons.inj further).2 legible.2 legibleSecond.2
        (closes_parenthesis _) (closes_parenthesis _)
      exact ⟨rfl, (List.cons.inj closing).2⟩

/-- An outline can be read off its spelling. -/
theorem spelling_inj (legible : first.Legible) (legibleSecond : second.Legible) :
    first.spelling = second.spelling ↔ first = second := by
  refine ⟨fun same => ?_, congrArg spelling⟩
  have whole : first.spelling ++ [] = second.spelling ++ [] := by rw [same]
  exact (spelling_append_inj whole legible legibleSecond closes_nil closes_nil).1

end Outline

/-- The plain text of a float can stand as a literal. -/
theorem Decimal.isAtom_plain (value : Float) : Outline.IsAtom (plain value) := by
  refine ⟨text_ne_empty .plain value, fun c member => ?_⟩
  have mark : isFloatMark c = true := isFloatMark_of_mem_text member
  have other (separator : Char) (no : isFloatMark separator = false) : c ≠ separator := by
    rintro rfl
    rw [no] at mark
    cases mark
  simp [Outline.isInner, other ' ' rfl, other '(' rfl, other ')' rfl]

/-! ## Trees -/

namespace Expr

/-- The outline of a tree, where a function tells how its literals are shown. -/
def outline (shown : Float → String) : Expr → Outline
  | literal value _ => .literal (shown value)
  | unaryNode sign operand _ _ => .unary sign.operator (operand.outline shown)
  | binaryNode sign left right _ _ =>
    .binary sign.operator (left.outline shown) (right.outline shown)

theorem legible_outline {shown : Float → String}
    (atoms : ∀ value, Outline.IsAtom (shown value)) (tree : Expr) :
    (tree.outline shown).Legible := by
  induction tree with
  | literal value span => exact atoms value
  | unaryNode sign operand span height ih => exact ih
  | binaryNode sign left right span height ihLeft ihRight => exact ⟨ihLeft, ihRight⟩

/-- The prefix form of a tree spells its outline, with the plain texts of its literals. -/
theorem toList_display (tree : Expr) :
    tree.display.toList = (tree.outline Decimal.plain).spelling := by
  induction tree with
  | literal value span => rfl
  | unaryNode sign operand span height ih =>
    simp [display, outline, Outline.spelling, ih]
  | binaryNode sign left right span height ihLeft ihRight =>
    simp [display, outline, Outline.spelling, ihLeft, ihRight]

/-- Trees whose prefix forms are the same text have the same outline: the same shape, the same
operator at every node, and literals with the same text at corresponding leaves. This is so however
literals are shown, as long as their texts are not empty and have no space and no parenthesis. -/
theorem display_eq_iff_outline_eq :
    (∀ shown : Float → String, (∀ value, Outline.IsAtom (shown value)) → ∀ first second : Expr,
      (first.outline shown).spelling = (second.outline shown).spelling ↔
        first.outline shown = second.outline shown) ∧
    ∀ first second : Expr, first.display = second.display ↔
      first.outline Decimal.plain = second.outline Decimal.plain := by
  have determined (shown : Float → String) (atoms : ∀ value, Outline.IsAtom (shown value))
      (first second : Expr) : (first.outline shown).spelling = (second.outline shown).spelling ↔
        first.outline shown = second.outline shown :=
    Outline.spelling_inj (legible_outline atoms first) (legible_outline atoms second)
  refine ⟨determined, fun first second => ?_⟩
  rw [← String.toList_inj, toList_display, toList_display]
  exact determined Decimal.plain Decimal.isAtom_plain first second

/-- A minus sign before a literal is told from a negative literal. -/
example : (unary ⟨.sub, default⟩ (literal 5 default)).display = "(- 5)" ∧
    (literal (-5) default).display = "-5" := by decide +kernel

end Expr

end Calculator
