import Drift.Unicode.CharSet
import Drift.Unicode.Word
import Drift.Unicode.Blank
import Drift.Unicode.Printable
import Drift.Unicode.Case
import Drift.Unicode.Line
import Drift.Unicode.Width
import Drift.Unicode.Digit
import Drift.Unicode.Name
import Drift.Unicode.Normal
import Drift.Bytes
import Drift.Keyed
import Drift.Text.Utf8
import Drift.Text.Hex
import Drift.Text.CodePage
import Drift.Text.CharacterSet
import Drift.Text.MultiByte
import Drift.Text.Iso2022
import Drift.Text.Hz
import Drift.Text.Utf7
import Drift.Text.Escape
import Drift.Text.Punycode
import Drift.Text.Nameprep
import Drift.Text.DomainName
import Drift.Text.Encoding
import Drift.Text.EncodingName
import Drift.Double
import Drift.Double.Shortest
import Drift.Literal
import Drift.Json.Text
import Drift.Json.Value
import Drift.Json.Printer
import Drift.Json.Parser
import Drift.Json.Literal
import Drift.Region
import Drift.Difference
import Drift.Report
import Drift.MessagePack.Value
import Drift.MessagePack.Writer
import Drift.MessagePack.Reader
import Drift.Snapshot
import Drift.Deflate.Bits
import Drift.Deflate.Code
import Drift.Deflate.Inflate
import Drift.Adler32
import Drift.Zlib
import Drift.SyntaxTree
import Drift.ControlComment
import Drift.Issue
import Drift.FileError
import Drift.Failure
import Drift.Point
import Drift.Event
import Drift.Logged
import Drift.Extraction
import Drift.Snapshot.Stream
import Drift.Draft
import Drift.Extensions
import Drift.Argument
import Drift.Path
import Drift.Entry
import Drift.FileSystem
import Drift.Source
import Drift.Discovery
import Drift.Language
import Drift.Registry
import Drift.Scan
import Drift.Numeral
import Drift.Settings
import Drift.Configuration
import Drift.Command.Arguments
import Drift.Command
import Drift.Terminal
import Drift.Terminal.Emoji
import Drift.Terminal.Message
import Drift.Terminal.Screen
import Drift.Terminal.Table
import Drift.Snapshot.File
import Drift.Command.Run
import Drift.Workspace
import Drift.Main
import Drift.Proofs.Bytes
import Drift.Proofs.Utf8
import Drift.Proofs.Walk
import Drift.Proofs.MessagePack.Form
import Drift.Proofs.MessagePack.Reading
import Drift.Proofs.Snapshot.Decoding
import Drift.Proofs.MessagePack.Writing
import Drift.Proofs.Snapshot.Encoding
import Drift.Proofs.Difference
import Drift.Proofs.Extraction
import Drift.Proofs.FileSystem.Entry
import Drift.Proofs.FileSystem.Replace
import Drift.Proofs.Deflate.Bits
import Drift.Proofs.Deflate.Code
import Drift.Proofs.Deflate.Form
import Drift.Proofs.Deflate.Items
import Drift.Proofs.Deflate.Head
import Drift.Proofs.Deflate.Inflate
import Drift.Proofs.Zlib
import Drift.Proofs.Snapshot.Loading
import Drift.Proofs.Snapshot.RoundTrip
import Drift.Proofs.Notes
import Drift.Proofs.Detection
import Drift.Proofs.Snapshot.Truncation
import Drift.Proofs.Changes
import Drift.Proofs.Discovery
import Drift.Proofs.Scan
import Drift.Proofs.Snapshot.Writing
import Drift.Proofs.Configuration
import Drift.Proofs.Double.Shortest
import Drift.Proofs.Json.Readable
import Drift.Proofs.Json.RoundTrip
import Drift.Proofs.Json.Lines
import Drift.Proofs.Json.Sorted
import Drift.Proofs.FileSystem.Writing
import Drift.Proofs.Storing
import Drift.Proofs.Misconfiguration
import Drift.Proofs.LastStored
import Drift.Proofs.FileSystem.Elsewhere
import Drift.Proofs.Registry
import Drift.Proofs.Recorded
import Drift.Proofs.Rediscovery
import Drift.Proofs.Recording
import Drift.Proofs.Boundaries
import Drift.Proofs.Endings
import Drift.Proofs.Snapshot.Recompression
import Drift.Proofs.Snapshot.Blame
import Drift.Proofs.MessagePack.Shortest
import Drift.Proofs.Snapshot.Shortest
import Drift.Proofs.Deflate.Stored
import Drift.Proofs.Snapshot.Checksum
import Drift.Proofs.Siblings
import Drift.Proofs.Pairing
import Drift.Proofs.Nesting
import Drift.Proofs.Encoding
import Drift.Proofs.Parts
import Drift.Proofs.Identifiers
import Drift.Proofs.Json.Grammar
import Drift.Proofs.Listing
import Drift.Proofs.Source
import Drift.Proofs.ReportLines
import Drift.Proofs.Extensions
import Drift.Proofs.NormalForm
import Drift.Proofs.Selection
import Drift.Proofs.Spelling
import Drift.Proofs.PrintedLines
