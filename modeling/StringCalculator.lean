import StringCalculator.Main
import StringCalculator.Window
import StringCalculator.Proofs.Calculation.Findings
import StringCalculator.Proofs.Calculation.Formula
import StringCalculator.Proofs.Calculation.Negatives
import StringCalculator.Proofs.Calculation.Sum
import StringCalculator.Proofs.Terminal.Session
import StringCalculator.Proofs.Calculation.Trace
import StringCalculator.Proofs.Calculator.Policy
import StringCalculator.Proofs.Window.Outputs
import StringCalculator.Proofs.Window.Settings
import StringCalculator.Proofs.FrontEnds
import StringCalculator.Proofs.Delimiters.Cutting
import StringCalculator.Proofs.ReversePolish.Places
import StringCalculator.Proofs.Scan.Image
import StringCalculator.Proofs.Scan.Bound
import StringCalculator.Proofs.Scan.Layout
import StringCalculator.Proofs.Header.Refusal
import StringCalculator.Proofs.Delimiters.OrderedSet
import StringCalculator.Proofs.Text.Typed
import StringCalculator.Proofs.Delimiters.Display
import StringCalculator.Proofs.Window.Keypad
import StringCalculator.Proofs.Window.Entry
import StringCalculator.Proofs.Calculation.Log
