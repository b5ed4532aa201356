import NamedData.Bytes
import NamedData.Change.Count
import NamedData.Change.Place
import NamedData.Change.Tracked
import NamedData.Config.Basic
import NamedData.Config.Json
import NamedData.Dump.Run
import NamedData.Dump.Summary
import NamedData.Filter
import NamedData.Live.Data
import NamedData.Live.Interest
import NamedData.Live.KeyLocator
import NamedData.Live.Link
import NamedData.Live.Packet
import NamedData.Live.Signature
import NamedData.Main
import NamedData.Matching
import NamedData.Name.Basic
import NamedData.Name.Component
import NamedData.Name.Convention
import NamedData.Name.Escape
import NamedData.Name.Uri
import NamedData.Packet.Control
import NamedData.Packet.Data
import NamedData.Packet.Delegation
import NamedData.Packet.Exclude
import NamedData.Packet.Interest
import NamedData.Packet.KeyLocator
import NamedData.Packet.MetaInfo
import NamedData.Packet.Signature
import NamedData.Pattern.Error
import NamedData.Pattern.Expr
import NamedData.Pattern.Grammar
import NamedData.Pattern.NamePattern
import NamedData.Pattern.Token
import NamedData.Proofs.Change.InPlace
import NamedData.Proofs.Change.Observed
import NamedData.Proofs.Delegation
import NamedData.Proofs.Dump.Call
import NamedData.Proofs.Dump.FullName
import NamedData.Proofs.Dump.Kind
import NamedData.Proofs.Dump.Link
import NamedData.Proofs.Dump.Summary
import NamedData.Proofs.Exclude
import NamedData.Proofs.Filter
import NamedData.Proofs.Live.Answers
import NamedData.Proofs.Live.Cache
import NamedData.Proofs.Live.Coherence
import NamedData.Proofs.Live.Data
import NamedData.Proofs.Live.Decoding
import NamedData.Proofs.Live.Effects
import NamedData.Proofs.Live.History
import NamedData.Proofs.Live.Identity
import NamedData.Proofs.Live.Interest
import NamedData.Proofs.Live.KeyLocator
import NamedData.Proofs.Live.Ledger
import NamedData.Proofs.Live.Life
import NamedData.Proofs.Live.Link
import NamedData.Proofs.Live.Nonce
import NamedData.Proofs.Live.Noticing
import NamedData.Proofs.Live.Operands
import NamedData.Proofs.Live.Packet
import NamedData.Proofs.Live.Settling
import NamedData.Proofs.Live.Signature
import NamedData.Proofs.Matching
import NamedData.Proofs.Name.Accepted
import NamedData.Proofs.Name.Canonical
import NamedData.Proofs.Name.Convention
import NamedData.Proofs.Name.Escape
import NamedData.Proofs.Name.Order
import NamedData.Proofs.Name.Split
import NamedData.Proofs.Name.Uri
import NamedData.Proofs.Pattern.Component
import NamedData.Proofs.Pattern.Covering
import NamedData.Proofs.Pattern.Faults
import NamedData.Proofs.Pattern.Grammar
import NamedData.Proofs.Pattern.Language
import NamedData.Proofs.Pattern.Phrase
import NamedData.Proofs.Pattern.Positions
import NamedData.Proofs.Pattern.Reader
import NamedData.Proofs.Pattern.Stretches
import NamedData.Proofs.Pattern.Written
import NamedData.Proofs.Results
import NamedData.Proofs.Text.Hex
import NamedData.Proofs.Text.Numeral
import NamedData.Proofs.Text.Segments
import NamedData.Proofs.Text.Utf8
import NamedData.Proofs.TextPattern.ClassReader
import NamedData.Proofs.TextPattern.EscapeReader
import NamedData.Proofs.TextPattern.Meaning
import NamedData.Proofs.TextPattern.Parallel
import NamedData.Proofs.TextPattern.PatternReader
import NamedData.Proofs.TextPattern.Splice
import NamedData.Proofs.Time.Calendar
import NamedData.Proofs.Time.Instant
import NamedData.Proofs.Wire.Acceptance
import NamedData.Proofs.Wire.Alike
import NamedData.Proofs.Wire.Bounds
import NamedData.Proofs.Wire.Checked
import NamedData.Proofs.Wire.CheckedPackets
import NamedData.Proofs.Wire.Containers
import NamedData.Proofs.Wire.Control
import NamedData.Proofs.Wire.ControlGrammar
import NamedData.Proofs.Wire.Data
import NamedData.Proofs.Wire.DataGrammar
import NamedData.Proofs.Wire.DataRecoding
import NamedData.Proofs.Wire.Elements
import NamedData.Proofs.Wire.Exclude
import NamedData.Proofs.Wire.FieldGrammar
import NamedData.Proofs.Wire.Framing
import NamedData.Proofs.Wire.Grammar
import NamedData.Proofs.Wire.Integer
import NamedData.Proofs.Wire.Interest
import NamedData.Proofs.Wire.InterestGrammar
import NamedData.Proofs.Wire.KnownElements
import NamedData.Proofs.Wire.LateElements
import NamedData.Proofs.Wire.Name
import NamedData.Proofs.Wire.Normal
import NamedData.Proofs.Wire.Reads
import NamedData.Proofs.Wire.Recoding
import NamedData.Proofs.Wire.Serialization
import NamedData.Proofs.Wire.Shortest
import NamedData.Proofs.Wire.Signature
import NamedData.Proofs.Wire.SignatureRecoding
import NamedData.Proofs.Wire.SignedFields
import NamedData.Proofs.Wire.SignedRange
import NamedData.Proofs.Wire.WrittenPackets
import NamedData.Sha256
import NamedData.Text.Blank
import NamedData.Text.Hex
import NamedData.Text.Json
import NamedData.Text.Numeral
import NamedData.Text.Printable
import NamedData.Text.Quoted
import NamedData.Text.Segments
import NamedData.Text.Utf8
import NamedData.Text.Utf8Rows
import NamedData.TextPattern.Basic
import NamedData.TextPattern.Class
import NamedData.TextPattern.Escape
import NamedData.TextPattern.Flags
import NamedData.TextPattern.Size
import NamedData.TextPattern.Syntax
import NamedData.TextPattern.Term
import NamedData.Time.Calendar
import NamedData.Time.Duration
import NamedData.Time.Instant
import NamedData.Unicode.Break
import NamedData.Unicode.CaseVariants
import NamedData.Unicode.Category
import NamedData.Unicode.Charset
import NamedData.Unicode.Name
import NamedData.Unicode.Property
import NamedData.Unicode.Script
import NamedData.Unicode.Version
import NamedData.Wire.Control
import NamedData.Wire.Data
import NamedData.Wire.Delegation
import NamedData.Wire.Element
import NamedData.Wire.ElementType
import NamedData.Wire.Error
import NamedData.Wire.Format
import NamedData.Wire.Integer
import NamedData.Wire.Interest
import NamedData.Wire.KeyLocator
import NamedData.Wire.Name
import NamedData.Wire.Reader
import NamedData.Wire.Signature
import NamedData.Wire.SignedBlob
