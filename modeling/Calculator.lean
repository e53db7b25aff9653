import Calculator.Proofs.Binary64.Code
import Calculator.Proofs.Binary64.Exact
import Calculator.Proofs.Binary64.Nearest
import Calculator.Proofs.Conversion.Acceptance
import Calculator.Proofs.Conversion.Conservation
import Calculator.Proofs.Conversion.Diagnosis
import Calculator.Proofs.Conversion.Discipline
import Calculator.Proofs.Conversion.Domain
import Calculator.Proofs.Conversion.Journal
import Calculator.Proofs.Conversion.Scan
import Calculator.Proofs.Conversion.Simulation
import Calculator.Proofs.Conversion.Substitution
import Calculator.Proofs.Conversion.Transition
import Calculator.Proofs.Conversion.Unstacking
import Calculator.Proofs.Decimal.Canonical
import Calculator.Proofs.Decimal.Fixed
import Calculator.Proofs.Decimal.Nearest
import Calculator.Proofs.Decimal.Rounding
import Calculator.Proofs.Decimal.Shortest
import Calculator.Proofs.Decimal.Text
import Calculator.Proofs.Evaluation.Counts
import Calculator.Proofs.Evaluation.Display
import Calculator.Proofs.Evaluation.Failure
import Calculator.Proofs.Evaluation.Height
import Calculator.Proofs.Evaluation.Journal
import Calculator.Proofs.Evaluation.Reading
import Calculator.Proofs.Evaluation.Stack
import Calculator.Proofs.Evaluation.Trees
import Calculator.Proofs.Grammar.Conversion
import Calculator.Proofs.Grammar.Derivation
import Calculator.Proofs.Grammar.Operands
import Calculator.Proofs.Lexeme.Cut
import Calculator.Proofs.Lexeme.Runs
import Calculator.Proofs.Numeral.Plain
import Calculator.Proofs.Shell.Coherence
import Calculator.Proofs.Shell.Deletion
import Calculator.Proofs.Shell.Focus
import Calculator.Proofs.Shell.History
import Calculator.Proofs.Shell.Keys
import Calculator.Proofs.Shell.Preparation
import Calculator.Proofs.Shell.Recovery
import Calculator.Proofs.Shell.Replay
import Calculator.Proofs.Shell.Spelling
import Calculator.Proofs.Shell.Transition
import Calculator.Proofs.Shell.Window
import Calculator.Proofs.Text.Quoted
import Calculator.Proofs.Text.SmallLetters
import Calculator.Shell.Step
import Calculator.Shell.Window
