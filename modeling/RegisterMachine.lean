import RegisterMachine.Main
import RegisterMachine.Proofs.Calls
import RegisterMachine.Proofs.CommandLine.IntegerArgument
import RegisterMachine.Proofs.CommandLine.Session
import RegisterMachine.Proofs.Double.Layout
import RegisterMachine.Proofs.Double.Rounding
import RegisterMachine.Proofs.EventQueue
import RegisterMachine.Proofs.FileTree
import RegisterMachine.Proofs.Machine.Agreement
import RegisterMachine.Proofs.Machine.Atomicity
import RegisterMachine.Proofs.Machine.Comparison
import RegisterMachine.Proofs.Machine.Division
import RegisterMachine.Proofs.Machine.Effect
import RegisterMachine.Proofs.Machine.Enlargement
import RegisterMachine.Proofs.Machine.Events
import RegisterMachine.Proofs.Machine.Failure
import RegisterMachine.Proofs.Machine.Flags
import RegisterMachine.Proofs.Machine.Footprint
import RegisterMachine.Proofs.Machine.Hosts
import RegisterMachine.Proofs.Machine.Jump
import RegisterMachine.Proofs.Machine.Labels
import RegisterMachine.Proofs.Machine.Numbers
import RegisterMachine.Proofs.Machine.ReadBack
import RegisterMachine.Proofs.Machine.Registers
import RegisterMachine.Proofs.Machine.Room
import RegisterMachine.Proofs.Machine.Run
import RegisterMachine.Proofs.Machine.Stack
import RegisterMachine.Proofs.Machine.Step
import RegisterMachine.Proofs.Machine.Termination
import RegisterMachine.Proofs.Machine.Transparency
import RegisterMachine.Proofs.Machine.Words
import RegisterMachine.Proofs.Memory
import RegisterMachine.Proofs.Number.DecimalInteger
import RegisterMachine.Proofs.Number.Failure
import RegisterMachine.Proofs.Number.Grammar
import RegisterMachine.Proofs.Number.Hexadecimal
import RegisterMachine.Proofs.Number.Integral
import RegisterMachine.Proofs.Number.Kind
import RegisterMachine.Proofs.Number.LeadingZeros
import RegisterMachine.Proofs.Number.Order
import RegisterMachine.Proofs.Number.Range
import RegisterMachine.Proofs.Number.TwosComplement
import RegisterMachine.Proofs.Opcode
import RegisterMachine.Proofs.Operand.Classification
import RegisterMachine.Proofs.Operand.DigitLimit
import RegisterMachine.Proofs.Operand.Names
import RegisterMachine.Proofs.Operand.Nesting
import RegisterMachine.Proofs.Operand.Printed
import RegisterMachine.Proofs.Program
import RegisterMachine.Proofs.Program.Concatenation
import RegisterMachine.Proofs.Program.Layout
import RegisterMachine.Proofs.Program.Line
import RegisterMachine.Proofs.Program.Linking
import RegisterMachine.Proofs.Program.Listing
import RegisterMachine.Proofs.Program.Order
import RegisterMachine.Proofs.Program.Refusal
import RegisterMachine.Proofs.Program.Spacing
import RegisterMachine.Proofs.Program.Tidied
import RegisterMachine.Proofs.Register
import RegisterMachine.Proofs.Register.History
import RegisterMachine.Proofs.Store.Contents
import RegisterMachine.Proofs.Store.Enlargement
import RegisterMachine.Proofs.Store.Expansion
import RegisterMachine.Proofs.Store.Failure
import RegisterMachine.Proofs.Store.Frames
import RegisterMachine.Proofs.Store.Hops
import RegisterMachine.Proofs.Store.Location
import RegisterMachine.Proofs.Store.Sound
import RegisterMachine.Proofs.Store.TextAccess
import RegisterMachine.Proofs.Store.Trail
import RegisterMachine.Proofs.Text.Blank
import RegisterMachine.Proofs.Text.Lines
import RegisterMachine.Proofs.Text.LowerCase
import RegisterMachine.Proofs.Text.Positional
import RegisterMachine.Proofs.Text.Utf8
