import StateMachine.Command.Live
import StateMachine.Command.Tool
import StateMachine.Main
import StateMachine.Proofs.Environment.Assignment
import StateMachine.Proofs.Environment.Binding
import StateMachine.Proofs.Environment.Initial
import StateMachine.Proofs.Expr.Refusal
import StateMachine.Proofs.Expr.Typing
import StateMachine.Proofs.Session.Call
import StateMachine.Proofs.Session.Consistency
import StateMachine.Proofs.Session.Safety
import StateMachine.Proofs.Validation.Clean
import StateMachine.Proofs.Validation.Default
import StateMachine.Session.Gate
import StateMachine.Proofs.Environment.Stop
import StateMachine.Proofs.Expr.Scope
import StateMachine.Proofs.Validation.WellFormed
import StateMachine.Proofs.Cpp.Default
import StateMachine.Proofs.Cpp.Term
import StateMachine.Proofs.Cpp.Translation
import StateMachine.Proofs.Cpp.Agreement
import StateMachine.Proofs.Cpp.Handler
import StateMachine.Proofs.Cpp.Layout
import StateMachine.Proofs.Cpp.Table
import StateMachine.Proofs.Expr.Spacing
import StateMachine.Proofs.Expr.Spelling
import StateMachine.Proofs.Expr.Grammar
import StateMachine.Proofs.Expr.Display
import StateMachine.Proofs.Cpp.Parentheses
import StateMachine.Proofs.Session.Interleaving
import StateMachine.Proofs.Session.Admission
import StateMachine.Proofs.FirstPerKey
import StateMachine.Proofs.Session.Exclusion
import StateMachine.Proofs.Session.Journal
import StateMachine.Proofs.Session.Likeness
import StateMachine.Proofs.Machine.Shadowed
import StateMachine.Proofs.Document.Resolution
import StateMachine.Proofs.Validation.Naming
import StateMachine.Proofs.Validation.Reference
import StateMachine.Proofs.Machine.Reordered
import StateMachine.Proofs.Machine.RoundTrip
import StateMachine.Proofs.Session.Interruption
import StateMachine.Proofs.Session.Pacing
import StateMachine.Proofs.Session.Renewal
import StateMachine.Proofs.Session.Batch
import StateMachine.Proofs.Session.Release
import StateMachine.Proofs.Expr.Exactness
import StateMachine.Proofs.Machine.Entered
import StateMachine.Proofs.Cpp.Scope
import StateMachine.Proofs.Cpp.Mark
import StateMachine.Proofs.Cpp.Inventory
import StateMachine.Proofs.Cpp.Closure
import StateMachine.Proofs.Cpp.Literal
import StateMachine.Proofs.Validation.Order
import StateMachine.Proofs.Command.Console
import StateMachine.Proofs.Expr.Viable
import StateMachine.Proofs.Expr.DefaultScope
import StateMachine.Proofs.Document.RoundTrip
import StateMachine.Proofs.Document.BareInteger
