import SearchRetrieve.Analysis.Date
import SearchRetrieve.Analysis.Tokenizer
import SearchRetrieve.Record.IndexField
import SearchRetrieve.Schema.Basic

/-!
# Postings

How a value gives terms follows from the name of its field: variants are one term, except for the
stemmed one, and a field without a suffix is a date or a text.
-/
namespace SearchRetrieve

inductive Analysis where
  /-- The whole value is one term. -/
  | keyword
  /-- Stop words go, words are stemmed. -/
  | stemmed
  /-- The first line is a date. -/
  | date
  /-- The words of a text. -/
  | standard
  deriving DecidableEq, Repr

/-- A term in a field, with its place where places are kept. -/
structure Posting where
  field : String
  term : String
  position : Option Nat
  offsets : Option (Nat × Nat)
  deriving DecidableEq, Repr

structure Analyzer where
  schema : Schema
  /-- The settings for fields that are texts. -/
  tokenizer : TokenizerSettings
  dateFields : List String
  /-- Are terms that are whole values in lower case and without accents? -/
  caseInsensitive : Bool
  deriving DecidableEq, Repr

namespace Analyzer

def ofSchema (schema : Schema) : Analyzer := ⟨schema, .standard, [], false⟩

def analysis (a : Analyzer) (field : String) : Analysis :=
  match a.schema.variant? field with
  | some .stemmed => .stemmed
  | some _ => .keyword
  | none => if a.dateFields.contains field then .date else .standard

/-- A term that stands for all of a value. -/
def whole (value term : String) : Occurrence := ⟨term, 0, 0, Text.utf8Length value.toList⟩

def keyword (a : Analyzer) (value : String) : List Occurrence :=
  [whole value (if a.caseInsensitive then Text.foldAccents (Text.lower value) else value)]

def posting (f : IndexField) (o : Occurrence) : Posting :=
  if f.termVector.hasPositions then ⟨f.name, o.term, some o.position, some (o.start, o.stop)⟩
  else ⟨f.name, o.term, none, none⟩

end Analyzer

namespace Linguistics

def analyze (l : Linguistics) (a : Analyzer) (field value : String) : List Occurrence :=
  match a.analysis field with
  | .keyword => a.keyword value
  | .stemmed => l.occurrences .stemming value
  | .standard => l.occurrences a.tokenizer value
  | .date => ((Date.normalize? value).map (Analyzer.whole value)).toList

def fieldPostings (l : Linguistics) (a : Analyzer) (f : IndexField) : List Posting :=
  (if f.tokenized then l.analyze a f.name f.value else a.keyword f.value).map (Analyzer.posting f)

def postings (l : Linguistics) (a : Analyzer) (e : Entry) : List Posting :=
  (e.filter (·.indexed)).flatMap (l.fieldPostings a)

end Linguistics

namespace Analyzer

def occurrences (a : Analyzer) (field value : String) : List Occurrence :=
  Linguistics.standard.analyze a field value

def postings (a : Analyzer) (e : Entry) : List Posting := Linguistics.standard.postings a e

end Analyzer

end SearchRetrieve
