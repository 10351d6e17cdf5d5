import TypeCatalog.Catalog
import TypeCatalog.CommandLine.Arguments
import TypeCatalog.CommandLine.Word
import TypeCatalog.Declaration
import TypeCatalog.Diagnostic
import TypeCatalog.Document.LineWriter
import TypeCatalog.Document.Operation
import TypeCatalog.Document.Outlet
import TypeCatalog.Document.Reader
import TypeCatalog.Document.Scalar
import TypeCatalog.Dump
import TypeCatalog.Expansion
import TypeCatalog.Files.Discovery
import TypeCatalog.Files.Path
import TypeCatalog.Files.Snapshot
import TypeCatalog.Files.Source
import TypeCatalog.Files.Tree
import TypeCatalog.Files.Writing
import TypeCatalog.Identities
import TypeCatalog.Json.Printer
import TypeCatalog.Json.Reader
import TypeCatalog.Json.Value
import TypeCatalog.Layout.DataModel
import TypeCatalog.Layout.KnownTypes
import TypeCatalog.Layout.Placement
import TypeCatalog.Log
import TypeCatalog.Main
import TypeCatalog.Name
import TypeCatalog.Number.Numeral
import TypeCatalog.Number.Real
import TypeCatalog.Proofs.Accounting
import TypeCatalog.Proofs.AliasDefinitions
import TypeCatalog.Proofs.AnchorReading
import TypeCatalog.Proofs.Anchors
import TypeCatalog.Proofs.BaseReading
import TypeCatalog.Proofs.BatchDump
import TypeCatalog.Proofs.BitfieldPacking
import TypeCatalog.Proofs.BlockDrawing
import TypeCatalog.Proofs.CanonicalName
import TypeCatalog.Proofs.CleanRun
import TypeCatalog.Proofs.ConstructorKinds
import TypeCatalog.Proofs.Coverage
import TypeCatalog.Proofs.Delivery
import TypeCatalog.Proofs.DistinctKeys
import TypeCatalog.Proofs.DocumentTree
import TypeCatalog.Proofs.Documenting
import TypeCatalog.Proofs.Drawing
import TypeCatalog.Proofs.DynamicRecords
import TypeCatalog.Proofs.Entries
import TypeCatalog.Proofs.EntryShape
import TypeCatalog.Proofs.ErrorNodes
import TypeCatalog.Proofs.FaultCauses
import TypeCatalog.Proofs.FunctionLinkage
import TypeCatalog.Proofs.GatheredTags
import TypeCatalog.Proofs.GivenUpDefinitions
import TypeCatalog.Proofs.GraphComposition
import TypeCatalog.Proofs.GroupedRecords
import TypeCatalog.Proofs.Invocations
import TypeCatalog.Proofs.KeyClaims
import TypeCatalog.Proofs.KeyLines
import TypeCatalog.Proofs.KnownLayouts
import TypeCatalog.Proofs.Ledger
import TypeCatalog.Proofs.LedgerRun
import TypeCatalog.Proofs.LexemeReading
import TypeCatalog.Proofs.LineScanning
import TypeCatalog.Proofs.LiteralValues
import TypeCatalog.Proofs.Loading
import TypeCatalog.Proofs.LookingParts
import TypeCatalog.Proofs.LoopRules
import TypeCatalog.Proofs.MemberReading
import TypeCatalog.Proofs.NormalForm
import TypeCatalog.Proofs.OpenBlocks
import TypeCatalog.Proofs.Overloads
import TypeCatalog.Proofs.Parentheses
import TypeCatalog.Proofs.PassedOver
import TypeCatalog.Proofs.QualifiedScopes
import TypeCatalog.Proofs.RecordDefinitions
import TypeCatalog.Proofs.RecordLayout
import TypeCatalog.Proofs.RecordNames
import TypeCatalog.Proofs.RecordRuns
import TypeCatalog.Proofs.RecordSize
import TypeCatalog.Proofs.RefusalSchedule
import TypeCatalog.Proofs.RoundTrip
import TypeCatalog.Proofs.RunVerdict
import TypeCatalog.Proofs.ScalarLines
import TypeCatalog.Proofs.SecureReading
import TypeCatalog.Proofs.SessionAgreement
import TypeCatalog.Proofs.SettingsFiles
import TypeCatalog.Proofs.SharedDeclarations
import TypeCatalog.Proofs.SignedLiterals
import TypeCatalog.Proofs.Sites
import TypeCatalog.Proofs.SoundExtraction
import TypeCatalog.Proofs.SourceExpansion
import TypeCatalog.Proofs.SpecifierOrder
import TypeCatalog.Proofs.SteadyWalk
import TypeCatalog.Proofs.Synonyms
import TypeCatalog.Proofs.TagArguments
import TypeCatalog.Proofs.TextParts
import TypeCatalog.Proofs.TreeScanning
import TypeCatalog.Proofs.Truncation
import TypeCatalog.Proofs.ValueConstruction
import TypeCatalog.Proofs.WrittenScalar
import TypeCatalog.Proofs.YieldedRecords
import TypeCatalog.Run
import TypeCatalog.RunReport
import TypeCatalog.Settings.Build
import TypeCatalog.Settings.File
import TypeCatalog.Settings.Text
import TypeCatalog.Syntax.Attribute
import TypeCatalog.Syntax.Base
import TypeCatalog.Syntax.Declarator
import TypeCatalog.Syntax.Exchange
import TypeCatalog.Syntax.Function
import TypeCatalog.Syntax.Item
import TypeCatalog.Syntax.Literal
import TypeCatalog.Syntax.Member
import TypeCatalog.Syntax.Node
import TypeCatalog.Syntax.Record
import TypeCatalog.Syntax.Session
import TypeCatalog.Syntax.Source
import TypeCatalog.Syntax.Type
import TypeCatalog.Tag
import TypeCatalog.Text.Blank
import TypeCatalog.Text.Cased
import TypeCatalog.Text.CharacterName.Aliases
import TypeCatalog.Text.CharacterName.Alphabets
import TypeCatalog.Text.CharacterName.Ancient
import TypeCatalog.Text.CharacterName.Drawing
import TypeCatalog.Text.CharacterName.EastAsian
import TypeCatalog.Text.CharacterName.Inscriptions
import TypeCatalog.Text.CharacterName.Lookup
import TypeCatalog.Text.CharacterName.Pictographs
import TypeCatalog.Text.CharacterName.Presentation
import TypeCatalog.Text.CharacterName.Punctuation
import TypeCatalog.Text.CharacterName.Scores
import TypeCatalog.Text.CharacterName.Syllabaries
import TypeCatalog.Text.CodePoint
import TypeCatalog.Text.Digit
import TypeCatalog.Text.Integer
import TypeCatalog.Text.LowerCase
import TypeCatalog.Text.Quoted
import TypeCatalog.Text.Utf8
import TypeCatalog.Text.WordChar
import TypeCatalog.Walk.Basic
import TypeCatalog.Walk.Function
import TypeCatalog.Walk.Record
import TypeCatalog.Yaml.BlockScalar
import TypeCatalog.Yaml.Composition
import TypeCatalog.Yaml.Cursor
import TypeCatalog.Yaml.Directive
import TypeCatalog.Yaml.Fault
import TypeCatalog.Yaml.Form
import TypeCatalog.Yaml.Graph
import TypeCatalog.Yaml.Lexeme
import TypeCatalog.Yaml.Merge
import TypeCatalog.Yaml.Scalar
import TypeCatalog.Yaml.Time
import TypeCatalog.Yaml.Token
import TypeCatalog.Yaml.Value
