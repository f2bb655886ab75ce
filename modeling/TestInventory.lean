import TestInventory.Main
import TestInventory.Trace
import TestInventory.Proofs.Recording.Declarations
import TestInventory.Proofs.Discovery.Replay
import TestInventory.Proofs.Evaluation.Oversight
import TestInventory.Proofs.Evaluation.Job
import TestInventory.Proofs.Evaluation.JobOrder
import TestInventory.Proofs.Evaluation.Scripted
import TestInventory.Proofs.Bracket
import TestInventory.Proofs.Evaluation.Bracketing
import TestInventory.Proofs.Evaluation.Machine
import TestInventory.Proofs.Evaluation.Visits
import TestInventory.Proofs.Evaluation.Halting
import TestInventory.Proofs.Evaluation.Arena
import TestInventory.Proofs.Evaluation.Restoration
import TestInventory.Proofs.Evaluation.Provenance
import TestInventory.Proofs.Recording.Paths
import TestInventory.Proofs.Recording.Matching
import TestInventory.Proofs.Recording.OpenSuites
import TestInventory.Proofs.Recording.Repetition
import TestInventory.Proofs.Discovery.Repetition
import TestInventory.Proofs.Recording.Nesting
import TestInventory.Proofs.Recording.Hooks
import TestInventory.Proofs.Evaluation.Limit
import TestInventory.Proofs.Evaluation.Surroundings
import TestInventory.Proofs.Evaluation.Lexical
import TestInventory.Proofs.Evaluation.Lookup
import TestInventory.Proofs.Evaluation.Order
import TestInventory.Proofs.Evaluation.Shadowing
import TestInventory.Proofs.Evaluation.Denotation
import TestInventory.Proofs.Evaluation.Naming
import TestInventory.Proofs.Json.Number
import TestInventory.Proofs.Json.Quoted
import TestInventory.Proofs.Json.Scanning
import TestInventory.Proofs.Json.Spelling
import TestInventory.Proofs.Json.Blanks
import TestInventory.Proofs.Json.Reading
import TestInventory.Proofs.Inventory.Entries
import TestInventory.Proofs.Inventory.Rendering
import TestInventory.Proofs.Inventory.Views
import TestInventory.Proofs.Discovery.Loading
import TestInventory.Proofs.Discovery.Steps
import TestInventory.Proofs.Command
import TestInventory.Proofs.Configuration
import TestInventory.Proofs.Discovery.Reporting
import TestInventory.Proofs.Recording.History
import TestInventory.Proofs.Evaluation.Arrays
import TestInventory.Proofs.Evaluation.Mapping
import TestInventory.Proofs.Evaluation.Rearrangement
import TestInventory.Proofs.Evaluation.Hoisting
import TestInventory.Proofs.Evaluation.Correspondence
import TestInventory.Proofs.Evaluation.Tandem
import TestInventory.Proofs.Evaluation.Likeness
import TestInventory.Proofs.Evaluation.Reenactment
import TestInventory.Proofs.Evaluation.Imitation
import TestInventory.Proofs.Evaluation.Unrolling
import TestInventory.Proofs.Evaluation.Raising
import TestInventory.Proofs.Evaluation.Wrapping
import TestInventory.Proofs.Site.Relative
import TestInventory.Proofs.Source.Position
import TestInventory.Proofs.Source.LineIndex
import TestInventory.Proofs.Site.FrameLine
import TestInventory.Proofs.Site.PrintedStack
import TestInventory.Proofs.Interface.Occurrence
import TestInventory.Proofs.Evaluation.Writing
import TestInventory.Proofs.Configuration.Searched
import TestInventory.Proofs.Configuration.Written
import TestInventory.Proofs.Lookup.Files
