import CurryScript.Main
import CurryScript.Proofs.Outcome
import CurryScript.Proofs.Stack
import CurryScript.Proofs.Derivation
import CurryScript.Proofs.ParseDepth
import CurryScript.Proofs.Parsing
import CurryScript.Proofs.Answers
import CurryScript.Proofs.Course
import CurryScript.Proofs.Exceptions
import CurryScript.Proofs.Scanning
import CurryScript.Proofs.Likeness
import CurryScript.Proofs.Simulation
import CurryScript.Proofs.Independence
import CurryScript.Proofs.UnusedDefinition
import CurryScript.Proofs.Numerals
import CurryScript.Proofs.ReadBack
import CurryScript.Proofs.Output
import CurryScript.Proofs.EvaluationDepth
import CurryScript.Proofs.RecursionLimit
import CurryScript.Proofs.Propagation
import CurryScript.Proofs.CommaCall
import CurryScript.Proofs.Repetition
import CurryScript.Proofs.Arithmetic
import CurryScript.Proofs.Division
import CurryScript.Proofs.IntegerRange
import CurryScript.Proofs.Equality
import CurryScript.Proofs.EmptyBrackets
import CurryScript.Proofs.NumeralForms
import CurryScript.Proofs.Totality
import CurryScript.Proofs.ErrorPlaces
import CurryScript.Proofs.TextLines
import CurryScript.Proofs.TokenPlaces
import CurryScript.Proofs.WordClasses
import CurryScript.Proofs.Progress
