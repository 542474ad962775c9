import OpenApiCodegen.Api.Basic
import OpenApiCodegen.Api.Binding
import OpenApiCodegen.Api.DataType
import OpenApiCodegen.Api.Dispatch
import OpenApiCodegen.Api.GlobalGroup
import OpenApiCodegen.Api.Model
import OpenApiCodegen.Api.Operation
import OpenApiCodegen.Api.PathTemplate
import OpenApiCodegen.Api.ReturnType
import OpenApiCodegen.Command.FileSystem
import OpenApiCodegen.Command.FileTree
import OpenApiCodegen.Command.Generate
import OpenApiCodegen.Command.Options
import OpenApiCodegen.Config.Basic
import OpenApiCodegen.Config.Reader
import OpenApiCodegen.Error
import OpenApiCodegen.Generation
import OpenApiCodegen.Json.Literal
import OpenApiCodegen.Json.Reader
import OpenApiCodegen.Json.Value
import OpenApiCodegen.List.Firsts
import OpenApiCodegen.List.Total
import OpenApiCodegen.Lowering.Names
import OpenApiCodegen.Lowering.Operations
import OpenApiCodegen.Lowering.Types
import OpenApiCodegen.Main
import OpenApiCodegen.Markup.CoreScalar
import OpenApiCodegen.Markup.Decode
import OpenApiCodegen.Markup.Node
import OpenApiCodegen.MobileClient.Files
import OpenApiCodegen.MobileClient.Methods
import OpenApiCodegen.MobileClient.Models
import OpenApiCodegen.MobileClient.Shared
import OpenApiCodegen.MobileClient.Syntax
import OpenApiCodegen.Number.Binary64
import OpenApiCodegen.Number.Decimal
import OpenApiCodegen.Number.Power
import OpenApiCodegen.OpenApi.Document
import OpenApiCodegen.OpenApi.Kind
import OpenApiCodegen.OpenApi.Normalization
import OpenApiCodegen.OpenApi.Reader
import OpenApiCodegen.OpenApi.Schema
import OpenApiCodegen.OpenApi.TextFormat
import OpenApiCodegen.Output.Code
import OpenApiCodegen.Output.EnumName
import OpenApiCodegen.Output.Path
import OpenApiCodegen.Output.Unit
import OpenApiCodegen.Proofs.Api.Envelopes
import OpenApiCodegen.Proofs.Api.GetterNames
import OpenApiCodegen.Proofs.Api.GlobalGroups
import OpenApiCodegen.Proofs.Api.GlobalReach
import OpenApiCodegen.Proofs.Api.Lookup
import OpenApiCodegen.Proofs.Api.Overlaps
import OpenApiCodegen.Proofs.Api.PatternTexts
import OpenApiCodegen.Proofs.Api.Placeholders
import OpenApiCodegen.Proofs.Api.RequestPaths
import OpenApiCodegen.Proofs.Api.ReturnTypes
import OpenApiCodegen.Proofs.Api.StatusKeys
import OpenApiCodegen.Proofs.Api.Templates
import OpenApiCodegen.Proofs.Api.Units
import OpenApiCodegen.Proofs.Command.Failures
import OpenApiCodegen.Proofs.Command.FileTrees
import OpenApiCodegen.Proofs.Command.ModelPlaces
import OpenApiCodegen.Proofs.Command.Runs
import OpenApiCodegen.Proofs.Command.WrittenFiles
import OpenApiCodegen.Proofs.Generation.Declarations
import OpenApiCodegen.Proofs.Generation.Decoders
import OpenApiCodegen.Proofs.Generation.Exclusions
import OpenApiCodegen.Proofs.Generation.FilePaths
import OpenApiCodegen.Proofs.Generation.Members
import OpenApiCodegen.Proofs.Generation.OperationModels
import OpenApiCodegen.Proofs.Generation.ParameterTexts
import OpenApiCodegen.Proofs.Generation.Parameters
import OpenApiCodegen.Proofs.Generation.Placements
import OpenApiCodegen.Proofs.Generation.Units
import OpenApiCodegen.Proofs.List.Firsts
import OpenApiCodegen.Proofs.List.Placing
import OpenApiCodegen.Proofs.List.Search
import OpenApiCodegen.Proofs.Lowering.AliasMembers
import OpenApiCodegen.Proofs.Lowering.CallMeasure
import OpenApiCodegen.Proofs.Lowering.Calls
import OpenApiCodegen.Proofs.Lowering.Coverage
import OpenApiCodegen.Proofs.Lowering.DocumentRuns
import OpenApiCodegen.Proofs.Lowering.Endings
import OpenApiCodegen.Proofs.Lowering.Expansion
import OpenApiCodegen.Proofs.Lowering.FreshNames
import OpenApiCodegen.Proofs.Lowering.History
import OpenApiCodegen.Proofs.Lowering.Inheritance
import OpenApiCodegen.Proofs.Lowering.InheritedNames
import OpenApiCodegen.Proofs.Lowering.Makings
import OpenApiCodegen.Proofs.Lowering.MemberIdentifiers
import OpenApiCodegen.Proofs.Lowering.MemberNames
import OpenApiCodegen.Proofs.Lowering.MergedParameters
import OpenApiCodegen.Proofs.Lowering.ModelNames
import OpenApiCodegen.Proofs.Lowering.ModelOrigins
import OpenApiCodegen.Proofs.Lowering.Models
import OpenApiCodegen.Proofs.Lowering.OperationFaults
import OpenApiCodegen.Proofs.Lowering.Orders
import OpenApiCodegen.Proofs.Lowering.OwnModels
import OpenApiCodegen.Proofs.Lowering.ParameterKeys
import OpenApiCodegen.Proofs.Lowering.Plan
import OpenApiCodegen.Proofs.Lowering.ReferenceTypes
import OpenApiCodegen.Proofs.Lowering.References
import OpenApiCodegen.Proofs.Lowering.Requiredness
import OpenApiCodegen.Proofs.Lowering.Runs
import OpenApiCodegen.Proofs.Lowering.Spellings
import OpenApiCodegen.Proofs.Lowering.Starts
import OpenApiCodegen.Proofs.Lowering.Subschemas
import OpenApiCodegen.Proofs.Lowering.SynthesizedNames
import OpenApiCodegen.Proofs.Lowering.Termination
import OpenApiCodegen.Proofs.Lowering.TypeNames
import OpenApiCodegen.Proofs.Lowering.TypedModels
import OpenApiCodegen.Proofs.Lowering.UnionTargets
import OpenApiCodegen.Proofs.Lowering.WireKeys
import OpenApiCodegen.Proofs.Markup.Readings
import OpenApiCodegen.Proofs.MobileClient.ModelFiles
import OpenApiCodegen.Proofs.OpenApi.EnumExtraction
import OpenApiCodegen.Proofs.OpenApi.KeyedDocuments
import OpenApiCodegen.Proofs.Output.CodeText
import OpenApiCodegen.Proofs.Output.EnumMembers
import OpenApiCodegen.Proofs.Output.FieldIdentifiers
import OpenApiCodegen.Proofs.Output.FieldNames
import OpenApiCodegen.Proofs.Output.LineComments
import OpenApiCodegen.Proofs.Output.MemberLists
import OpenApiCodegen.Proofs.Output.RelativePaths
import OpenApiCodegen.Proofs.Output.TextLines
import OpenApiCodegen.Proofs.Server.DeclaredNames
import OpenApiCodegen.Proofs.Server.ErrorDispatch
import OpenApiCodegen.Proofs.Server.Identifiers
import OpenApiCodegen.Proofs.Server.NamesApart
import OpenApiCodegen.Proofs.Server.PackageFiles
import OpenApiCodegen.Proofs.Server.PackageIdentifiers
import OpenApiCodegen.Proofs.Server.PackageImports
import OpenApiCodegen.Proofs.Server.PackageNames
import OpenApiCodegen.Proofs.Server.ParameterReading
import OpenApiCodegen.Proofs.Server.Qualifiers
import OpenApiCodegen.Proofs.Server.RequestChecks
import OpenApiCodegen.Proofs.Server.RoutePatterns
import OpenApiCodegen.Proofs.Server.TypePackages
import OpenApiCodegen.Proofs.Text.Capitals
import OpenApiCodegen.Proofs.Text.Casing
import OpenApiCodegen.Proofs.Text.Cuts
import OpenApiCodegen.Proofs.Text.EscapedTexts
import OpenApiCodegen.Proofs.Text.Lines
import OpenApiCodegen.Proofs.Text.Literals
import OpenApiCodegen.Proofs.Text.NumberedNames
import OpenApiCodegen.Proofs.Text.Words
import OpenApiCodegen.Proofs.WebClient.BlockComments
import OpenApiCodegen.Proofs.WebClient.DeclarationTexts
import OpenApiCodegen.Proofs.WebClient.ModelFiles
import OpenApiCodegen.Proofs.WebClient.RequestUrls
import OpenApiCodegen.Proofs.WebClient.UrlParts
import OpenApiCodegen.Server.Files
import OpenApiCodegen.Server.Handlers
import OpenApiCodegen.Server.Models
import OpenApiCodegen.Server.Shared
import OpenApiCodegen.Server.Syntax
import OpenApiCodegen.Target
import OpenApiCodegen.Text.Basic
import OpenApiCodegen.Text.CharacterClass
import OpenApiCodegen.Text.Escape
import OpenApiCodegen.Text.Identifier
import OpenApiCodegen.Text.LetterCase
import OpenApiCodegen.Text.NameSet
import OpenApiCodegen.Text.Words
import OpenApiCodegen.Toml.Reader
import OpenApiCodegen.Toml.Scalar
import OpenApiCodegen.Toml.Table
import OpenApiCodegen.Toml.Value
import OpenApiCodegen.WebClient.Files
import OpenApiCodegen.WebClient.Models
import OpenApiCodegen.WebClient.Requests
import OpenApiCodegen.WebClient.Shared
import OpenApiCodegen.WebClient.Syntax
import OpenApiCodegen.Yaml.Cursor
import OpenApiCodegen.Yaml.NodeGraph
import OpenApiCodegen.Yaml.ScalarText
import OpenApiCodegen.Yaml.Token
import OpenApiCodegen.Yaml.TokenStream
