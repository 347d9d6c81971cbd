import GosuForge.Console.Arguments
import GosuForge.Console.CellWidth
import GosuForge.Console.Command
import GosuForge.Console.Dialogue
import GosuForge.Console.Emoji
import GosuForge.Console.EmojiCodes
import GosuForge.Console.Literal
import GosuForge.Console.Markup
import GosuForge.Console.Preferences
import GosuForge.Console.Program
import GosuForge.Console.Selection
import GosuForge.Console.Style
import GosuForge.Console.Table
import GosuForge.Decimal.Binary64
import GosuForge.Decimal.Shortest
import GosuForge.Document.Defect
import GosuForge.Document.Draft
import GosuForge.Document.Load
import GosuForge.Document.Placement
import GosuForge.Document.Reference
import GosuForge.Fault
import GosuForge.Generation.Plan
import GosuForge.Generation.Request
import GosuForge.Generation.Run
import GosuForge.Generation.Workbench
import GosuForge.Gosu.Declaration
import GosuForge.Gosu.DeclarationPart
import GosuForge.Gosu.Documentation
import GosuForge.Gosu.Generator
import GosuForge.Gosu.Modifier
import GosuForge.Gosu.Naming
import GosuForge.Gosu.Settings
import GosuForge.Gosu.SourceFile
import GosuForge.Gosu.TypeExpression
import GosuForge.Json.File
import GosuForge.Json.Reader
import GosuForge.Json.Writer
import GosuForge.Layout.Writer
import GosuForge.Log
import GosuForge.Main
import GosuForge.Model.Basic
import GosuForge.Model.Description
import GosuForge.Model.Element
import GosuForge.Model.Field
import GosuForge.Model.Relationship
import GosuForge.Path
import GosuForge.Registry
import GosuForge.Settings.Basic
import GosuForge.Settings.Defect
import GosuForge.Settings.File
import GosuForge.Settings.Layers
import GosuForge.Storage.Basic
import GosuForge.Storage.Disk
import GosuForge.Storage.Fault
import GosuForge.Storage.Listing
import GosuForge.Storage.Memory
import GosuForge.Template.Basic
import GosuForge.Template.Engine
import GosuForge.Template.Folder
import GosuForge.Template.Language
import GosuForge.Template.Parser
import GosuForge.Text.Alphanumeric
import GosuForge.Text.Blank
import GosuForge.Text.Case
import GosuForge.Text.CaseMap
import GosuForge.Text.CharacterName
import GosuForge.Text.Decomposition
import GosuForge.Text.DecompositionTable
import GosuForge.Text.Digit
import GosuForge.Text.Identifier
import GosuForge.Text.Line
import GosuForge.Text.NameTable
import GosuForge.Text.Printable
import GosuForge.Text.Quoted
import GosuForge.Value.Basic
import GosuForge.Value.Display
import GosuForge.Value.Equality
import GosuForge.Value.Record
import GosuForge.Proofs.Inspection
import GosuForge.Proofs.Layout
import GosuForge.Proofs.Declaration
import GosuForge.Proofs.Outcome
import GosuForge.Proofs.DeclarationLayout
import GosuForge.Proofs.NestedDeclaration
import GosuForge.Proofs.Journal
import GosuForge.Proofs.Tree
import GosuForge.Proofs.Visit
import GosuForge.Proofs.Plan
import GosuForge.Proofs.Run
import GosuForge.Proofs.Association
import GosuForge.Proofs.Memory
import GosuForge.Proofs.Regeneration
import GosuForge.Proofs.Path
import GosuForge.Proofs.Lines
import GosuForge.Proofs.Disk
import GosuForge.Proofs.Containment
import GosuForge.Proofs.DryRun
import GosuForge.Proofs.GeneratedFiles
import GosuForge.Proofs.Placement
import GosuForge.Proofs.Draft
import GosuForge.Proofs.Reference
import GosuForge.Proofs.Built
import GosuForge.Proofs.Resolution
import GosuForge.Proofs.Verdict
import GosuForge.Proofs.Format
import GosuForge.Proofs.Reading
import GosuForge.Proofs.Acceptance
import GosuForge.Proofs.Ancestry
import GosuForge.Proofs.LoadedTree
import GosuForge.Proofs.PackageLine
import GosuForge.Proofs.Function
import GosuForge.Proofs.DeclarationFunctions
import GosuForge.Proofs.ClassFunctions
import GosuForge.Proofs.StubCompleteness
import GosuForge.Proofs.Repository
import GosuForge.Proofs.Incidence
import GosuForge.Proofs.Entries
import GosuForge.Proofs.Equality
import GosuForge.Proofs.Layers
import GosuForge.Proofs.Reload
import GosuForge.Proofs.Spelling
import GosuForge.Proofs.Precedence
import GosuForge.Proofs.ReadBack
import GosuForge.Proofs.Defaults
import GosuForge.Proofs.Dialogue
import GosuForge.Proofs.Cancellation
import GosuForge.Proofs.Drawing
import GosuForge.Proofs.Program
import GosuForge.Proofs.WriteAlike
import GosuForge.Proofs.Author
import GosuForge.Proofs.CommandLine
import GosuForge.Proofs.Flags
import GosuForge.Proofs.Options
import GosuForge.Proofs.TakenOver
import GosuForge.Proofs.Warnings
import GosuForge.Proofs.StandardOptions
import GosuForge.Proofs.Entrances
import GosuForge.Proofs.LanguageName
import GosuForge.Proofs.LastLine
import GosuForge.Proofs.Exhaustion
import GosuForge.Proofs.Dismissal
import GosuForge.Proofs.BraceNesting
import GosuForge.Proofs.BraceFree
import GosuForge.Proofs.BraceMirror
import GosuForge.Proofs.CommentBlocks
import GosuForge.Proofs.WithoutComments
import GosuForge.Proofs.LineEnding
import GosuForge.Proofs.CommentText
import GosuForge.Proofs.CommentEnd
import GosuForge.Proofs.Tags
import GosuForge.Proofs.WrittenComments
import GosuForge.Proofs.Bodiless
import GosuForge.Proofs.Parents
import GosuForge.Proofs.OwnershipTree
import GosuForge.Proofs.MemberEnds
import GosuForge.Proofs.DeclarationBody
import GosuForge.Proofs.AssociationMembers
import GosuForge.Proofs.GrowingPlan
import GosuForge.Proofs.FileExtension
import GosuForge.Proofs.Addition
import GosuForge.Proofs.Ownership
import GosuForge.Proofs.HeaderTemplate
import GosuForge.Proofs.AddedTemplates
import GosuForge.Proofs.LowerCase
import GosuForge.Proofs.AliasListing
import GosuForge.Proofs.Registration
import GosuForge.Proofs.Multiplicity
import GosuForge.Proofs.MemberName
import GosuForge.Proofs.LiteralList
import GosuForge.Proofs.Offered
import GosuForge.Proofs.PackagePath
import GosuForge.Proofs.NormalPath
import GosuForge.Proofs.MemoryHistory
