import SearchRetrieve.CommandLine.Arguments

/-!
# Help texts

What a command is for, how it is called, and a table each of its arguments and its options. Where
a table would leave too little room beside its first column, every help text goes below.
-/
namespace SearchRetrieve.CommandLine

/-- A row of a table: what is written, and the help text for it. -/
structure HelpRow where
  /-- What stands in front of the name. -/
  lead : String
  name : String
  help : String

/-- Texts with a blank between them, empty ones left out. -/
def joined (texts : List String) : String :=
  String.intercalate " " (texts.filter fun text => text != "")

def OptionSpec.usage (o : OptionSpec) : String :=
  "--" ++ o.name ++
    match o.valueName with
    | some valueName => " <" ++ valueName ++ ">"
    | none => ""

def ArgumentSpec.usage (a : ArgumentSpec) : String :=
  if a.required then "<" ++ a.name ++ ">" else "[" ++ a.name ++ "]"

def OptionSpec.row (o : OptionSpec) : HelpRow := ⟨"    ", o.usage, joined [o.help, o.remarks]⟩

def ArgumentSpec.row (a : ArgumentSpec) : HelpRow := ⟨"", a.usage, joined [a.help, a.remarks]⟩

def helpRow : HelpRow := ⟨"-h, ", "--help", "Print help"⟩

def pageWidth : Nat := 100

def nameWidth (rows : List HelpRow) : Nat := (rows.map (·.name.length)).foldl max 2

/-- Do the help texts go below the names? They do if some text does not fit beside a first column
that takes more than two fifths of the page. -/
def helpBelow (rows : List HelpRow) : Bool :=
  let taken := nameWidth rows + 12
  2 * pageWidth < 5 * taken && rows.any fun r => pageWidth < r.help.length + taken

def blanks (n : Nat) : String := String.ofList (List.replicate n ' ')

def rowText (below : Bool) (width : Nat) (r : HelpRow) : String :=
  "  " ++ r.lead ++ r.name ++
    (if below then "\n" ++ blanks 10 else blanks (width + 2 - r.name.length)) ++ r.help ++ "\n"

def table (title : String) (rows : List HelpRow) : String :=
  title ++ ":\n" ++
    String.join (rows.map (rowText (helpBelow rows) (nameWidth rows)))

def CommandSpec.usage (program : String) (spec : CommandSpec) : String :=
  joined ([program, spec.name, "[OPTIONS]"] ++
    (spec.options.filter (·.required)).map OptionSpec.usage ++
    spec.arguments.map ArgumentSpec.usage)

def CommandSpec.helpText (program : String) (spec : CommandSpec) : String :=
  spec.about ++ "\n\nUsage: " ++ spec.usage program ++ "\n\n" ++
    (if spec.arguments.isEmpty then ""
      else table "Arguments" (spec.arguments.map ArgumentSpec.row) ++ "\n") ++
    table "Options" (spec.options.map OptionSpec.row ++ [helpRow])

def programHelp (program about : String) (options : List OptionSpec) (commands : List CommandSpec) :
    String :=
  let rows := commands.map fun c => HelpRow.mk "" c.name c.about
  let help := HelpRow.mk "" "help" "Print this message or the help of the given subcommand(s)"
  about ++ "\n\nUsage: " ++ program ++ " [OPTIONS] <COMMAND>\n\n" ++
    table "Commands" (rows ++ [help]) ++ "\n" ++
    table "Options" (options.map OptionSpec.row ++ [helpRow])

end SearchRetrieve.CommandLine
