import Infill.Main
import Infill.Proofs.Shape
import Infill.Proofs.Placeholder.Writing
import Infill.Proofs.Placeholder.Scan
import Infill.Proofs.Action
import Infill.Proofs.Stream
import Infill.Proofs.History
import Infill.Proofs.Placeholder.Spelling
import Infill.Proofs.Line
import Infill.Proofs.Disk
import Infill.Proofs.DiagnosticLog
import Infill.Proofs.Run
import Infill.Proofs.Loading
import Infill.Proofs.Filling
import Infill.Proofs.Trace
import Infill.Proofs.Answer
import Infill.Proofs.Failure
import Infill.Proofs.Nesting
import Infill.Proofs.Inert
import Infill.Proofs.Undecodable
import Infill.Proofs.Settings.Writing
import Infill.Proofs.Token
import Infill.Proofs.Source
import Infill.Proofs.Joining
import Infill.Proofs.CharSet
import Infill.Proofs.Modifier.Writing
import Infill.Proofs.Modifier.Composition
import Infill.Proofs.Modifier.Argument
import Infill.Proofs.Modifier.Listing
import Infill.Proofs.Pattern.Matching
import Infill.Proofs.Pattern.Reading
import Infill.Proofs.Url.Percent
import Infill.Proofs.Url.Segments
import Infill.Proofs.Address
import Infill.Proofs.Address.Naming
import Infill.Proofs.Settings.Meaning
import Infill.Proofs.Settings.Addressing
import Infill.Proofs.Field
import Infill.Proofs.Pattern.Bracket
import Infill.Proofs.Pattern.Grouping
import Infill.Proofs.Pattern.Anchoring
import Infill.Proofs.Modifier.Selection
import Infill.Proofs.Modifier.Indentation
import Infill.Proofs.Base64
import Infill.Proofs.Mixed
import Infill.Bounds.Line
import Infill.Proofs.Bounds.Position
import Infill.Proofs.Bounds.Token
import Infill.Proofs.Bounds.Reading
import Infill.Proofs.Bounds.Line
import Infill.Proofs.Bounds.Limits
