import ProtoSchema.Annotation
import ProtoSchema.Command.Flag
import ProtoSchema.Command.Log
import ProtoSchema.Command.Lookup
import ProtoSchema.Command.Output
import ProtoSchema.Command.Record
import ProtoSchema.Command.Run
import ProtoSchema.Command.Suggest
import ProtoSchema.Files.FileSystem
import ProtoSchema.Files.Path
import ProtoSchema.Main
import ProtoSchema.Number.Binary64
import ProtoSchema.Number.Decimal
import ProtoSchema.Proto.Comment
import ProtoSchema.Proto.Delivery
import ProtoSchema.Proto.Grammar
import ProtoSchema.Proto.Outline
import ProtoSchema.Proto.Output
import ProtoSchema.Proto.Render
import ProtoSchema.Proto.Signature
import ProtoSchema.Proto.Token
import ProtoSchema.Proto.Token.Scan
import ProtoSchema.Schema
import ProtoSchema.Schema.Filter
import ProtoSchema.Schema.Load
import ProtoSchema.Schema.LoadFile
import ProtoSchema.Schema.Request
import ProtoSchema.Schema.Source
import ProtoSchema.Text.Case
import ProtoSchema.Text.CharSet
import ProtoSchema.Text.Letter
import ProtoSchema.Text.Printable
import ProtoSchema.Text.Quoted
import ProtoSchema.Text.Utf8
import ProtoSchema.Text.Words
import ProtoSchema.Timestamp
import ProtoSchema.TypeExpr
import ProtoSchema.TypeExpr.Parser
import ProtoSchema.Value
import ProtoSchema.Yaml.Cursor
import ProtoSchema.Yaml.Decode
import ProtoSchema.Yaml.Node
import ProtoSchema.Yaml.Node.OfTokens
import ProtoSchema.Yaml.Resolve
import ProtoSchema.Yaml.Token
import ProtoSchema.Yaml.Token.Property
import ProtoSchema.Yaml.Token.Scalar
import ProtoSchema.Yaml.Token.Scan
import ProtoSchema.Proofs.Output
import ProtoSchema.Proofs.Filtering
import ProtoSchema.Proofs.Requests
import ProtoSchema.Proofs.Pruning
import ProtoSchema.Proofs.Trimming
import ProtoSchema.Proofs.TypeGrammar
import ProtoSchema.Proofs.Resolution
import ProtoSchema.Proofs.Obligations
import ProtoSchema.Proofs.Building
import ProtoSchema.Proofs.Loading
import ProtoSchema.Proofs.Casing
import ProtoSchema.Proofs.Comments
import ProtoSchema.Proofs.Descriptions
import ProtoSchema.Proofs.Spelling
import ProtoSchema.Proofs.Written
import ProtoSchema.Proofs.Lexing
import ProtoSchema.Proofs.Parsing
import ProtoSchema.Proofs.SchemaTokens
import ProtoSchema.Proofs.Validity
import ProtoSchema.Proofs.Sections
import ProtoSchema.Proofs.Repair
import ProtoSchema.Proofs.References
import ProtoSchema.Proofs.MessageNames
import ProtoSchema.Proofs.Erasure
import ProtoSchema.Proofs.Filling
import ProtoSchema.Proofs.Delivery
import ProtoSchema.Proofs.Runs
import ProtoSchema.Proofs.FileSystem
import ProtoSchema.Proofs.FilterLaws
import ProtoSchema.Proofs.Underscores
import ProtoSchema.Proofs.Conditions
import ProtoSchema.Proofs.Unbundling
import ProtoSchema.Proofs.Refilling
import ProtoSchema.Proofs.Signatures
import ProtoSchema.Proofs.Destinations
import ProtoSchema.Proofs.Recasing
import ProtoSchema.Proofs.Occurrences
import ProtoSchema.Proofs.Reporting
import ProtoSchema.Proofs.Records
