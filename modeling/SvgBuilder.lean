import SvgBuilder.Main
import SvgBuilder.Markup.Place
import SvgBuilder.Proofs.Builder.AttributeNames
import SvgBuilder.Proofs.Builder.Errors
import SvgBuilder.Proofs.Builder.Log
import SvgBuilder.Proofs.Builder.Namespaces
import SvgBuilder.Proofs.Builder.Values
import SvgBuilder.Proofs.Comparison.Finding
import SvgBuilder.Proofs.File.Conversion
import SvgBuilder.Proofs.Transform.RoundTrip
import SvgBuilder.Proofs.Transform.Operands
import SvgBuilder.Proofs.Transform.Strictness
import SvgBuilder.Proofs.File.Batch
import SvgBuilder.Proofs.File.Outputs
import SvgBuilder.Proofs.File.Sources
import SvgBuilder.Proofs.Comparison.Closed
import SvgBuilder.Proofs.Comparison.FreeDocument
import SvgBuilder.Proofs.Comparison.Front
import SvgBuilder.Proofs.Comparison.Member
import SvgBuilder.Proofs.Comparison.Recognition
import SvgBuilder.Proofs.File.Encodings
import SvgBuilder.Proofs.Comparison.Root
import SvgBuilder.Proofs.Comparison.Cover
import SvgBuilder.Proofs.File.Alarm
import SvgBuilder.Proofs.Transform.Concatenation
import SvgBuilder.Proofs.Transform.Printed
import SvgBuilder.Proofs.Component.Documentation
import SvgBuilder.Proofs.Component.ColorNames
import SvgBuilder.Proofs.Style
import SvgBuilder.Proofs.Component.ViewBox
import SvgBuilder.Proofs.Yaml.Value
import SvgBuilder.Proofs.Yaml.Numbering
import SvgBuilder.Proofs.Yaml.Table
import SvgBuilder.Proofs.Component.Configuration
import SvgBuilder.Proofs.Component.Refusal
import SvgBuilder.Proofs.Component.Settings
import SvgBuilder.Proofs.Builder.Literal
import SvgBuilder.Proofs.Component.ColorConstants
import SvgBuilder.Proofs.Component.DefaultSize
import SvgBuilder.Proofs.Command.ExitCode
