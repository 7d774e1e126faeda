import SearchRetrieve.Text.Accent
import SearchRetrieve.Text.Alphanumeric
import SearchRetrieve.Text.Blank
import SearchRetrieve.Text.LetterCase
import SearchRetrieve.Text.Unprintable
import SearchRetrieve.Query.Parser
import SearchRetrieve.Query.Printer
import SearchRetrieve.Json.Printer
import SearchRetrieve.Json.Reader
import SearchRetrieve.Fault
import SearchRetrieve.Native.Escape
import SearchRetrieve.Native.Compile
import SearchRetrieve.Schema.Reader
import SearchRetrieve.Sort.Field
import SearchRetrieve.Text.WordBreak
import SearchRetrieve.Stem.English
import SearchRetrieve.Stem.French
import SearchRetrieve.Stem.German
import SearchRetrieve.Stem.Spanish
import SearchRetrieve.Stem.Italian
import SearchRetrieve.Stem.Portuguese
import SearchRetrieve.Stem.Dutch
import SearchRetrieve.Stem.Swedish
import SearchRetrieve.Stem.Russian
import SearchRetrieve.StopWords
import SearchRetrieve.Analysis.Analyzer
import SearchRetrieve.Metrics.Exposition
import SearchRetrieve.Record.Expansion
import SearchRetrieve.Xml.Reader
import SearchRetrieve.Record.Document
import SearchRetrieve.Retrieval.Request
import SearchRetrieve.Retrieval.Page
import SearchRetrieve.Retrieval.Session
import SearchRetrieve.Retrieval.Http
import SearchRetrieve.CommandLine.Help
import SearchRetrieve.Main
import SearchRetrieve.Proofs.Query.Grammar
import SearchRetrieve.Proofs.Query.Lexing
import SearchRetrieve.Proofs.Query.Parsing
import SearchRetrieve.Proofs.Query.RoundTrip
import SearchRetrieve.Proofs.Native.Reader
import SearchRetrieve.Proofs.Native.Reading
import SearchRetrieve.Proofs.Native.Meaning
import SearchRetrieve.Proofs.Retrieval.Delivery
import SearchRetrieve.Proofs.Retrieval.Standing
import SearchRetrieve.Proofs.Record.ExactMatch
import SearchRetrieve.Proofs.Native.Grouping
import SearchRetrieve.Proofs.Schema.Renaming
import SearchRetrieve.Proofs.Record.Discovery
import SearchRetrieve.Proofs.Retrieval.Parameters
import SearchRetrieve.Proofs.Retrieval.Balance
import SearchRetrieve.Proofs.Retrieval.Retry
import SearchRetrieve.Proofs.Record.Presence
import SearchRetrieve.Proofs.Sort.Order
import SearchRetrieve.Proofs.Sort.Codec
import SearchRetrieve.Proofs.Sort.Rendering
import SearchRetrieve.Proofs.Sort.Unflagged
import SearchRetrieve.Proofs.Retrieval.Continuation
import SearchRetrieve.Proofs.Retrieval.ResultSet
import SearchRetrieve.Proofs.Query.Embedding
import SearchRetrieve.Proofs.Schema.Resolution
import SearchRetrieve.Proofs.Native.Silence
import SearchRetrieve.Proofs.Native.FieldNames
import SearchRetrieve.Proofs.Retrieval.Stream
import SearchRetrieve.Proofs.Analysis.Highlighting
import SearchRetrieve.Proofs.Analysis.Dates
import SearchRetrieve.Proofs.Schema.Aliases
import SearchRetrieve.Proofs.Schema.Agreement
import SearchRetrieve.Proofs.Schema.Assignments
import SearchRetrieve.Proofs.Schema.Writing
import SearchRetrieve.Proofs.Xml.Markup
import SearchRetrieve.Proofs.Retrieval.Response
import SearchRetrieve.Proofs.Query.Layout
import SearchRetrieve.Proofs.Native.Escaping
import SearchRetrieve.Proofs.Record.SortText
