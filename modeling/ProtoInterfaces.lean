import ProtoInterfaces.Main
import ProtoInterfaces.Proofs.Identifier.Boundaries
import ProtoInterfaces.Proofs.Identifier.Characters
import ProtoInterfaces.Proofs.Schema.Line
import ProtoInterfaces.Proofs.Rendering.SingleLine
import ProtoInterfaces.Proofs.Rendering.LineByLine
import ProtoInterfaces.Proofs.Rendering.Streams
import ProtoInterfaces.Proofs.Text.Braces
import ProtoInterfaces.Proofs.Schema.Names
import ProtoInterfaces.Proofs.Declaration
import ProtoInterfaces.Proofs.Rendering.OutputText
import ProtoInterfaces.Proofs.Schema.MethodBraces
import ProtoInterfaces.Proofs.Rendering.BraceDepth
import ProtoInterfaces.Proofs.Rendering.Filtering
import ProtoInterfaces.Proofs.Text.Condensed
import ProtoInterfaces.Proofs.Text.LineEnds
import ProtoInterfaces.Proofs.Schema.Version
import ProtoInterfaces.Proofs.Rendering.Versions
import ProtoInterfaces.Proofs.Rendering.LineEnds
import ProtoInterfaces.Proofs.Rendering.LeftOutLines
import ProtoInterfaces.Proofs.Rendering.BlockComments
import ProtoInterfaces.Proofs.Rendering.OptionStatements
import ProtoInterfaces.Proofs.Text.Wording
import ProtoInterfaces.Proofs.Schema.FieldHead
import ProtoInterfaces.Proofs.Schema.FieldDeclaration
import ProtoInterfaces.Proofs.Schema.MethodDeclaration
import ProtoInterfaces.Proofs.Schema.Gaps
import ProtoInterfaces.Proofs.Rendering.FieldDeclarations
import ProtoInterfaces.Proofs.Files.Path
import ProtoInterfaces.Proofs.Files.Places
import ProtoInterfaces.Proofs.Batch.Reading
import ProtoInterfaces.Proofs.Batch.Writing
import ProtoInterfaces.Proofs.Batch.Delivery
import ProtoInterfaces.Proofs.CommandLine.Choices
import ProtoInterfaces.Proofs.Rendering.StatedVersion
import ProtoInterfaces.Proofs.Rendering.CommentLines
import ProtoInterfaces.Proofs.Rendering.Dispatch
import ProtoInterfaces.Proofs.Rendering.Layout
import ProtoInterfaces.Proofs.Text.Utf8
import ProtoInterfaces.Proofs.Source
import ProtoInterfaces.Proofs.Identifier.Casing
import ProtoInterfaces.Proofs.Identifier.Stability
import ProtoInterfaces.Proofs.Identifier.Division
import ProtoInterfaces.Proofs.Rendering.StatementFields
import ProtoInterfaces.Proofs.Rendering.TrailingComments
import ProtoInterfaces.Proofs.Text.Quoted
import ProtoInterfaces.Proofs.Rendering.Diagnostics
import ProtoInterfaces.Proofs.Rendering.SavedText
import ProtoInterfaces.Proofs.Rendering.Signatures
import ProtoInterfaces.Proofs.Schema.FirstStatement
