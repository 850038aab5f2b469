import PacRules.Domain.Alternation
import PacRules.Domain.Decoration
import PacRules.Domain.HostPart
import PacRules.Domain.OfRule
import PacRules.Domain.Routed
import PacRules.Feed.Decode
import PacRules.Feed.Fetch
import PacRules.Files.Store
import PacRules.Host.Bidi
import PacRules.Host.Composition
import PacRules.Host.Ipv4
import PacRules.Host.Ipv6
import PacRules.Host.Joining
import PacRules.Host.Mapping
import PacRules.Host.Mark
import PacRules.Host.Name
import PacRules.Host.Punycode
import PacRules.Host.Url
import PacRules.Json.Nested
import PacRules.Json.NestedReader
import PacRules.Json.Reader
import PacRules.Main
import PacRules.Program.Run
import PacRules.Proofs.Domain.DomainLine
import PacRules.Proofs.Domain.DottedQuad
import PacRules.Proofs.Domain.Edges
import PacRules.Proofs.Domain.Groups
import PacRules.Proofs.Domain.HostLine
import PacRules.Proofs.Domain.Path
import PacRules.Proofs.Domain.Pooling
import PacRules.Proofs.Domain.RegexpLine
import PacRules.Proofs.Domain.Search
import PacRules.Proofs.Domain.Stripping
import PacRules.Proofs.Domain.Tally
import PacRules.Proofs.Domain.UnitOrder
import PacRules.Proofs.Domain.WellFormed
import PacRules.Proofs.Feed.Decoded
import PacRules.Proofs.Files.Keeping
import PacRules.Proofs.Host.WebHost
import PacRules.Proofs.Json.Compact
import PacRules.Proofs.Program.Effects
import PacRules.Proofs.Program.Failure
import PacRules.Proofs.Program.Replay
import PacRules.Proofs.Rule.GlobRegexp
import PacRules.Proofs.Rule.Line
import PacRules.Proofs.Rule.Partition
import PacRules.Proofs.Rule.Translation
import PacRules.Proofs.Rule.Wrapping
import PacRules.Proofs.Script.Decision
import PacRules.Proofs.Script.Header
import PacRules.Proofs.Script.Payload
import PacRules.Proofs.Script.Readers
import PacRules.Proofs.Script.RulesJson
import PacRules.Proofs.Script.Search
import PacRules.Proofs.Script.Slots
import PacRules.Proofs.Script.Sources
import PacRules.Proofs.Script.TableAnswer
import PacRules.Proofs.Script.TableParts
import PacRules.Proofs.Script.TableRoute
import PacRules.Proofs.Script.Turns
import PacRules.Proofs.Settings.FeedProxy
import PacRules.Proofs.Settings.Overlay
import PacRules.Proofs.Suffix.CommonPairs
import PacRules.Proofs.Suffix.Exceptions
import PacRules.Proofs.Suffix.Listing
import PacRules.Proofs.Suffix.LongestMatch
import PacRules.Proofs.Suffix.Lookup
import PacRules.Proofs.Suffix.Stability
import PacRules.Proofs.Suffix.WellFormed
import PacRules.Proofs.Text.CodePoints
import PacRules.Proofs.Text.Division
import PacRules.Proofs.Text.LowerCase
import PacRules.Proofs.Text.Utf8
import PacRules.Proofs.Text.Words
import PacRules.Rule.Glob
import PacRules.Rule.Line
import PacRules.Rule.Pattern
import PacRules.Rule.Regexp
import PacRules.Rule.Table
import PacRules.Script.Answer
import PacRules.Script.Envelope
import PacRules.Script.Evaluation
import PacRules.Script.Render
import PacRules.Script.Syntax
import PacRules.Script.TablePrograms
import PacRules.Settings.Arguments
import PacRules.Settings.Basic
import PacRules.Settings.ConfigFile
import PacRules.Settings.FeedProxy
import PacRules.Settings.Home
import PacRules.Suffix.HostCheck
import PacRules.Suffix.Prevailing
import PacRules.Suffix.Rules
import PacRules.Text.Alphanumeric
import PacRules.Text.Basic
import PacRules.Text.Blank
import PacRules.Text.DecimalDigit
import PacRules.Text.Digits
import PacRules.Text.Lines
import PacRules.Text.LowerCase
import PacRules.Text.Percent
import PacRules.Text.Quoted
import PacRules.Text.Span
