import PointBuy.Amount
import PointBuy.Character.Basic
import PointBuy.Character.Error
import PointBuy.Character.Narration
import PointBuy.Character.Saved
import PointBuy.CommandLine.Help
import PointBuy.CommandLine.Request
import PointBuy.CommandLine.Run
import PointBuy.CommandLine.Sheet
import PointBuy.CommandLine.Term
import PointBuy.Cost
import PointBuy.Database.Basic
import PointBuy.Database.Dependency
import PointBuy.Database.Effects
import PointBuy.Database.Error
import PointBuy.Database.Inheritance
import PointBuy.Database.Load
import PointBuy.Database.Narration
import PointBuy.Database.Registration
import PointBuy.Database.Sorting
import PointBuy.Decimal.Power
import PointBuy.Decimal.Rounding
import PointBuy.Decimal.Shortest
import PointBuy.Declaration.Basic
import PointBuy.Declaration.Line
import PointBuy.Declaration.Outline
import PointBuy.File.Basic
import PointBuy.File.Error
import PointBuy.File.Load
import PointBuy.File.Narration
import PointBuy.File.Size
import PointBuy.Formula.Basic
import PointBuy.Formula.Error
import PointBuy.Formula.Lexer
import PointBuy.Formula.Parser
import PointBuy.Formula.Token
import PointBuy.Formula.Value
import PointBuy.Graph
import PointBuy.Journal.Code
import PointBuy.Journal.Event
import PointBuy.Journal.Narration
import PointBuy.Journal.Window
import PointBuy.Json.Basic
import PointBuy.Json.Reader
import PointBuy.Json.Token
import PointBuy.Limits
import PointBuy.Location
import PointBuy.Main
import PointBuy.Settings.Basic
import PointBuy.Settings.Stored
import PointBuy.Sheet.Basic
import PointBuy.Sheet.Dependents
import PointBuy.Sheet.Row
import PointBuy.Text.Blank
import PointBuy.Text.Cased
import PointBuy.Text.Digits
import PointBuy.Text.Held
import PointBuy.Text.Lines
import PointBuy.Text.Lower
import PointBuy.Text.Quoted
import PointBuy.Text.Shown
import PointBuy.Toml.Reader
import PointBuy.Toml.Scalar
import PointBuy.Toml.Table
import PointBuy.Toml.Text
import PointBuy.Toml.Token
import PointBuy.Trait.Basic
import PointBuy.Trait.Builder
import PointBuy.Trait.Error
import PointBuy.Trait.ValueFormat
import PointBuy.Proofs.Except
import PointBuy.Proofs.Formula.Folding
import PointBuy.Proofs.Formula.Grammar
import PointBuy.Proofs.Formula.Buffer
import PointBuy.Proofs.Formula.Parsing
import PointBuy.Proofs.Graph.Search
import PointBuy.Proofs.Formula.Reading
import PointBuy.Proofs.Sheet.Reading
import PointBuy.Proofs.Database.Registration
import PointBuy.Proofs.Database.Stages
import PointBuy.Proofs.Database.Checked
import PointBuy.Proofs.Sheet.Termination
import PointBuy.Proofs.Database.Inheritance
import PointBuy.Proofs.Database.Sorting
import PointBuy.Proofs.Formula.Strict
import PointBuy.Proofs.Sheet.Strict
import PointBuy.Proofs.Sheet.Soundness
import PointBuy.Proofs.Text.Number
import PointBuy.Proofs.Trait.ValueFormat
import PointBuy.Proofs.Sheet.Record
import PointBuy.Proofs.Sheet.Dependents
import PointBuy.Proofs.Character.Propagation
import PointBuy.Proofs.Formula.Lexing
import PointBuy.Proofs.Formula.Rendering
import PointBuy.Proofs.Database.Linking
import PointBuy.Proofs.Database.Extension
import PointBuy.Proofs.Sheet.Extension
import PointBuy.Proofs.Graph.Completeness
import PointBuy.Proofs.Sheet.Noninterference
import PointBuy.Proofs.Database.WellFormed
import PointBuy.Proofs.Database.NameTable
import PointBuy.Proofs.Json.Members
import PointBuy.Proofs.Character.Saving
import PointBuy.Proofs.Text.Lines
import PointBuy.Proofs.Declaration.Reading
import PointBuy.Proofs.Declaration.Relocation
import PointBuy.Proofs.Trait.Relocation
import PointBuy.Proofs.Database.Relocation
import PointBuy.Proofs.Database.Joining
import PointBuy.Proofs.Text.Trimming
import PointBuy.Proofs.Declaration.Line
import PointBuy.Proofs.Declaration.Printing
import PointBuy.Proofs.Character.Frame
import PointBuy.Proofs.Graph.Findings
import PointBuy.Proofs.Graph.Depth
import PointBuy.Proofs.Database.Order
import PointBuy.Proofs.Database.Depth
import PointBuy.Proofs.Declaration.Location
import PointBuy.Proofs.Trait.Location
import PointBuy.Proofs.Database.Location
import PointBuy.Proofs.Amount
import PointBuy.Proofs.Cost
import PointBuy.Proofs.Database.Effects
import PointBuy.Proofs.Sheet.Reordering
import PointBuy.Proofs.Sheet.Pools
import PointBuy.Proofs.Reckoning
import PointBuy.Proofs.Formula.Exact
import PointBuy.Proofs.Sheet.Exact
import PointBuy.Proofs.Database.Lineage
import PointBuy.Proofs.Database.Specialty
import PointBuy.Proofs.Trait.Denotation
import PointBuy.Proofs.Formula.Names
import PointBuy.Proofs.Formula.Lexemes
import PointBuy.Proofs.Sheet.Orientation
import PointBuy.Proofs.Journal.Window
