import Calculator.Calculation
import Calculator.Command.Run
import Calculator.Expr.Session
import Calculator.Main
import Calculator.Proofs.Parser.Run
import Calculator.Proofs.Parser.Cutoff
import Calculator.Proofs.Grammar.Phrase
import Calculator.Proofs.Grammar.Soundness
import Calculator.Proofs.Grammar.Levels
import Calculator.Proofs.Grammar.Acceptance
import Calculator.Proofs.Parser.Expectation
import Calculator.Proofs.Token.Piece
import Calculator.Proofs.Token.Scan
import Calculator.Proofs.Token.MaximalMunch
import Calculator.Proofs.Token.Place
import Calculator.Proofs.Calculation.Outcome
import Calculator.Proofs.Parser.Relocation
import Calculator.Proofs.Calculation.Lenient
import Calculator.Proofs.Parser.Blame
import Calculator.Proofs.Parser.ViablePrefix
import Calculator.Proofs.Calculation.Blame
import Calculator.Proofs.Calculation.Unrecognised
import Calculator.Proofs.Calculation.StackMachine
import Calculator.Proofs.Grammar.RoundTrip
import Calculator.Proofs.Grammar.Trailing
import Calculator.Proofs.Grammar.Nodes
import Calculator.Proofs.Calculation.Spacing
import Calculator.Proofs.Text.Line
import Calculator.Proofs.Text.Lookup
import Calculator.Proofs.Text.Splitting
import Calculator.Proofs.Calculation.Report
import Calculator.Proofs.Calculation.Log
import Calculator.Proofs.Parser.CallStack
import Calculator.Proofs.Parser.Nesting
import Calculator.Proofs.Parser.Balance
import Calculator.Proofs.Grammar.Climbing
import Calculator.Proofs.Calculation.Positions
import Calculator.Proofs.Token.Cut
import Calculator.Proofs.Token.Listing
import Calculator.Proofs.Calculation.WellFormed
import Calculator.Proofs.Expr.Outline
import Calculator.Proofs.Command.Answer
import Calculator.Proofs.Command.Prompt
import Calculator.Proofs.Parser.Lookahead
import Calculator.Proofs.Parser.Invariant
