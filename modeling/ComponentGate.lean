import ComponentGate.Chat.Completion
import ComponentGate.Chat.Exchange
import ComponentGate.Chat.Fences
import ComponentGate.Chat.Profile
import ComponentGate.Chat.Reply
import ComponentGate.Command.Arguments
import ComponentGate.Command.Display
import ComponentGate.Command.Execution
import ComponentGate.Command.Files
import ComponentGate.Console.Markup
import ComponentGate.Console.Pictures
import ComponentGate.Console.Table
import ComponentGate.Console.Width
import ComponentGate.Console.Wrapping
import ComponentGate.Document.Basic
import ComponentGate.Document.Edit
import ComponentGate.Document.Names
import ComponentGate.Document.Survey
import ComponentGate.Erasure.Basic
import ComponentGate.Erasure.Plan
import ComponentGate.Grammar.Classes
import ComponentGate.Grammar.Expressions
import ComponentGate.Grammar.Literals
import ComponentGate.Grammar.Markup
import ComponentGate.Grammar.Patterns
import ComponentGate.Grammar.Statements
import ComponentGate.Grammar.Types
import ComponentGate.Healing.Attempt
import ComponentGate.Healing.Config
import ComponentGate.Healing.Failure
import ComponentGate.Healing.Outcome
import ComponentGate.Healing.Run
import ComponentGate.Healing.Strategy
import ComponentGate.Healing.Supply
import ComponentGate.Healing.Trace
import ComponentGate.Intake.Issue
import ComponentGate.Json.Reader
import ComponentGate.Json.Shown
import ComponentGate.Json.Value
import ComponentGate.Json.Writer
import ComponentGate.Main
import ComponentGate.Number.Binary64
import ComponentGate.Number.Reading
import ComponentGate.Number.Shortest
import ComponentGate.Policy.Basic
import ComponentGate.Policy.Intake
import ComponentGate.Preamble.Basic
import ComponentGate.Preamble.Date
import ComponentGate.Preamble.Standard
import ComponentGate.Prompt.Catalog
import ComponentGate.Prompt.Feedback
import ComponentGate.Prompt.Instruction
import ComponentGate.Prompt.System
import ComponentGate.Proofs.Chat.FenceLines
import ComponentGate.Proofs.Chat.Leftovers
import ComponentGate.Proofs.Chat.Repetition
import ComponentGate.Proofs.Chat.Replies
import ComponentGate.Proofs.Chat.Waits
import ComponentGate.Proofs.Document.Cells
import ComponentGate.Proofs.Document.Characters
import ComponentGate.Proofs.Document.Layout
import ComponentGate.Proofs.Document.Lines
import ComponentGate.Proofs.Document.Neighbours
import ComponentGate.Proofs.Document.Turns
import ComponentGate.Proofs.Erasure.Bare
import ComponentGate.Proofs.Erasure.Completeness
import ComponentGate.Proofs.Erasure.Exposure
import ComponentGate.Proofs.Erasure.Fields
import ComponentGate.Proofs.Erasure.Removing
import ComponentGate.Proofs.Erasure.Settling
import ComponentGate.Proofs.Erasure.Statements
import ComponentGate.Proofs.Erasure.Uncast
import ComponentGate.Proofs.Erasure.Unlocking
import ComponentGate.Proofs.Erasure.Visiting
import ComponentGate.Proofs.Healing.Accounts
import ComponentGate.Proofs.Healing.Guidance
import ComponentGate.Proofs.Healing.Reports
import ComponentGate.Proofs.Healing.Steps
import ComponentGate.Proofs.Healing.Trail
import ComponentGate.Proofs.Healing.Vetting
import ComponentGate.Proofs.Number.Rounding
import ComponentGate.Proofs.Policy.Extension
import ComponentGate.Proofs.Policy.Filled
import ComponentGate.Proofs.Preamble.Aside
import ComponentGate.Proofs.Preamble.Fences
import ComponentGate.Proofs.Preamble.Keeping
import ComponentGate.Proofs.Preamble.Patches
import ComponentGate.Proofs.Preamble.Splitting
import ComponentGate.Proofs.Preamble.Standard
import ComponentGate.Proofs.Prompt.Blocks
import ComponentGate.Proofs.Prompt.Plainness
import ComponentGate.Proofs.Prompt.References
import ComponentGate.Proofs.Prompt.Splices
import ComponentGate.Proofs.Repair.Admission
import ComponentGate.Proofs.Repair.Alike
import ComponentGate.Proofs.Repair.Apart
import ComponentGate.Proofs.Repair.Handlers
import ComponentGate.Proofs.Repair.Harmless
import ComponentGate.Proofs.Repair.Insertions
import ComponentGate.Proofs.Repair.Moving
import ComponentGate.Proofs.Repair.Naming
import ComponentGate.Proofs.Repair.Plans
import ComponentGate.Proofs.Repair.Positions
import ComponentGate.Proofs.Repair.Prospect
import ComponentGate.Proofs.Repair.Resemblance
import ComponentGate.Proofs.Repair.Rounds
import ComponentGate.Proofs.Repair.Scope
import ComponentGate.Proofs.Repair.Sequence
import ComponentGate.Proofs.Repair.Shifting
import ComponentGate.Proofs.Repair.Stages
import ComponentGate.Proofs.Repair.Targets
import ComponentGate.Proofs.Review.Accesses
import ComponentGate.Proofs.Review.Allowed
import ComponentGate.Proofs.Review.Caution
import ComponentGate.Proofs.Review.Chains
import ComponentGate.Proofs.Review.Concern
import ComponentGate.Proofs.Review.Controls
import ComponentGate.Proofs.Review.Draft
import ComponentGate.Proofs.Review.Focus
import ComponentGate.Proofs.Review.Frames
import ComponentGate.Proofs.Review.Graft
import ComponentGate.Proofs.Review.Imports
import ComponentGate.Proofs.Review.Independence
import ComponentGate.Proofs.Review.Loading
import ComponentGate.Proofs.Review.Naming
import ComponentGate.Proofs.Review.Order
import ComponentGate.Proofs.Review.Outline
import ComponentGate.Proofs.Review.Parentheses
import ComponentGate.Proofs.Review.Receivers
import ComponentGate.Proofs.Review.Remarks
import ComponentGate.Proofs.Review.Respelling
import ComponentGate.Proofs.Review.Scenes
import ComponentGate.Proofs.Review.Sight
import ComponentGate.Proofs.Review.Subscripts
import ComponentGate.Proofs.Review.Validity
import ComponentGate.Proofs.Syntax.Escapes
import ComponentGate.Proofs.Syntax.Preorder
import ComponentGate.Proofs.Syntax.Spans
import ComponentGate.Proofs.Syntax.Worklist
import ComponentGate.Proofs.Text.Removal
import ComponentGate.Proofs.Text.Spacing
import ComponentGate.Proofs.Text.Trimming
import ComponentGate.Repair.BaseImport
import ComponentGate.Repair.EventHandlers
import ComponentGate.Repair.Hoisting
import ComponentGate.Repair.ListKeys
import ComponentGate.Repair.Pass
import ComponentGate.Repair.Staged
import ComponentGate.Request.Basic
import ComponentGate.Request.Intake
import ComponentGate.Request.Path
import ComponentGate.Review.AccessibilityRules
import ComponentGate.Review.ExecutionRules
import ComponentGate.Review.Finding
import ComponentGate.Review.ImportRule
import ComponentGate.Review.Rule
import ComponentGate.Review.StateRules
import ComponentGate.Review.Validation
import ComponentGate.Syntax.Blank
import ComponentGate.Syntax.Cursor
import ComponentGate.Syntax.Fragment
import ComponentGate.Syntax.Kind
import ComponentGate.Syntax.Lexeme
import ComponentGate.Syntax.Parse
import ComponentGate.Syntax.Semicolon
import ComponentGate.Syntax.Tree
import ComponentGate.Syntax.Walk
import ComponentGate.Text.Blank
import ComponentGate.Text.Decoding
import ComponentGate.Text.Entries
import ComponentGate.Text.Lines
import ComponentGate.Text.Printable
import ComponentGate.Text.Quoted
import ComponentGate.Text.Removal
import ComponentGate.Text.Search
import ComponentGate.Text.Similarity
