import MaterialGraph.Json.Data
import MaterialGraph.Ron.Data
import MaterialGraph.Catalog.Standard
import MaterialGraph.Graph.Order
import MaterialGraph.Shader.Compile
import MaterialGraph.Document.Load
import MaterialGraph.Command.Run
import MaterialGraph.Main
import MaterialGraph.Proofs.Acyclic
import MaterialGraph.Proofs.Failing
import MaterialGraph.Proofs.Generation
import MaterialGraph.Proofs.FinalReferences
import MaterialGraph.Proofs.EmissionFault
import MaterialGraph.Proofs.StandardCatalog
import MaterialGraph.Proofs.Outcome
import MaterialGraph.Proofs.DeclaredUse
import MaterialGraph.Proofs.SoundLiteral
import MaterialGraph.Proofs.SoundBlock
import MaterialGraph.Proofs.Operands
import MaterialGraph.Proofs.SoundEmission
import MaterialGraph.Proofs.SingleAssignment
import MaterialGraph.Proofs.Loading
import MaterialGraph.Proofs.LoadedOutcome
import MaterialGraph.Proofs.Connecting
import MaterialGraph.Proofs.Editing
import MaterialGraph.Proofs.PortTyping
import MaterialGraph.Proofs.Shadowing
import MaterialGraph.Proofs.Renaming
import MaterialGraph.Proofs.RenamedBlock
import MaterialGraph.Proofs.Numbering
import MaterialGraph.Proofs.Sections
import MaterialGraph.Proofs.Reordering
import MaterialGraph.Proofs.RelabeledOrder
import MaterialGraph.Proofs.RelabeledShader
import MaterialGraph.Proofs.Digits
import MaterialGraph.Proofs.Numerals
import MaterialGraph.Proofs.JsonDocument
import MaterialGraph.Proofs.JsonNumber
import MaterialGraph.Proofs.Resaving
import MaterialGraph.Proofs.RonDocument
import MaterialGraph.Proofs.Running
import MaterialGraph.Proofs.Assembly
import MaterialGraph.Proofs.Layout
import MaterialGraph.Proofs.FirstFault
import MaterialGraph.Proofs.Warnings
import MaterialGraph.Proofs.TieBreaking
import MaterialGraph.Proofs.ConnectionChecks
import MaterialGraph.Proofs.Assignments
import MaterialGraph.Proofs.BoundOutputs
import MaterialGraph.Proofs.Nesting
import MaterialGraph.Proofs.BalancedShader
import MaterialGraph.Proofs.Grouping
import MaterialGraph.Proofs.CommandLine
import MaterialGraph.Proofs.SettingsFile
import MaterialGraph.Proofs.SilentSinks
import MaterialGraph.Proofs.FixedPlaces
import MaterialGraph.Proofs.OrderLoop
