import Calculator.Store.Laws
import Calculator.Main
import Calculator.Proofs.Assignments
import Calculator.Proofs.BatchRuns
import Calculator.Proofs.BracketedLines
import Calculator.Proofs.CanonicalTokens
import Calculator.Proofs.IndependentLines
import Calculator.Proofs.JournaledLines
import Calculator.Proofs.LimitedLines
import Calculator.Proofs.Malformations
import Calculator.Proofs.OperandLines
import Calculator.Proofs.ReachedStores
import Calculator.Proofs.ReadTokens
import Calculator.Proofs.SignRuns
import Calculator.Proofs.SignedNumbers
import Calculator.Proofs.TokenOrigins
import Calculator.Proofs.UnmatchedBrackets
import Calculator.Proofs.WrittenLines
import Calculator.Proofs.StreamTexts
import Calculator.Proofs.CheckedBatches
import Calculator.Proofs.WaitingOperators
import Calculator.Proofs.ProgramEndings
import Calculator.Proofs.QuotientLines
import Calculator.Proofs.CursorReading
import Calculator.Proofs.SettingsIssues
