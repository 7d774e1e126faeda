import SearchRetrieve.Text.Blank

/-!
# Arguments

The words of a command line, read by the description of a command: options, which begin with two
dashes and may come anywhere, and arguments in a fixed order. After a lone double dash every word
is an argument.
-/
namespace SearchRetrieve.CommandLine

structure OptionSpec where
  /-- The name after the two dashes. -/
  name : String
  /-- What the value is called; a switch has none. -/
  valueName : Option String
  help : String
  /-- Where the value comes from if the option is left out, and which values there are. -/
  remarks : String
  required : Bool
  repeatable : Bool
  accepts : String → Bool

structure ArgumentSpec where
  name : String
  help : String
  remarks : String
  required : Bool

structure CommandSpec where
  name : String
  about : String
  options : List OptionSpec
  arguments : List ArgumentSpec

/-- Why the words are not carried out. -/
inductive Stop where
  /-- Help is asked for. -/
  | help
  | misuse
  deriving DecidableEq, Repr

/-- What has been read of the words of a command. -/
structure Found where
  /-- Options with their values in order; the value of a switch is empty. -/
  options : List (String × String)
  arguments : List String
  /-- An option whose value is the next word. -/
  waiting : Option OptionSpec
  /-- Are all words from here on arguments? -/
  literal : Bool

namespace Found

def empty : Found := ⟨[], [], none, false⟩

def values (name : String) (f : Found) : List String :=
  (f.options.filter (·.1 == name)).map (·.2)

def value? (name : String) (f : Found) : Option String := (f.values name).head?

def has (name : String) (f : Found) : Bool := !(f.values name).isEmpty

/-- With one more option, which may have to be the only one and has to have a proper value. -/
def withOption (o : OptionSpec) (value : String) (f : Found) : Except Stop Found :=
  if (f.has o.name && !o.repeatable) || !o.accepts value then .error .misuse
  else .ok { f with options := f.options ++ [(o.name, value)], waiting := none }

def withArgument (spec : CommandSpec) (word : String) (f : Found) : Except Stop Found :=
  if f.arguments.length < spec.arguments.length then
    .ok { f with arguments := f.arguments ++ [word] }
  else .error .misuse

end Found

/-- A word in two parts: the name of an option, and the value that an equals sign attaches. -/
def longOption? (word : String) : Option (String × Option String) :=
  match word.toList with
  | '-' :: '-' :: rest =>
    let (name, value) := Text.cut (· == '=') rest
    some (String.ofList name, value.map String.ofList)
  | _ => none

def isShortOption (word : String) : Bool :=
  match word.toList with
  | '-' :: _ :: _ => true
  | _ => false

namespace CommandSpec

def readOption (spec : CommandSpec) (name : String) (value : Option String) (f : Found) :
    Except Stop Found :=
  if f.waiting.isSome then .error .misuse
  else if name = "help" then .error (if value.isNone then .help else .misuse)
  else
    match spec.options.find? (·.name == name) with
    | none => .error .misuse
    | some o =>
      match o.valueName, value with
      | some _, some value => f.withOption o value
      | some _, none => .ok { f with waiting := some o }
      | none, some _ => .error .misuse
      | none, none => f.withOption o ""

def readWord (spec : CommandSpec) (f : Found) (word : String) : Except Stop Found :=
  if f.literal then f.withArgument spec word
  else if word = "--" then
    if f.waiting.isSome then .error .misuse else .ok { f with literal := true }
  else
    match longOption? word with
    | some (name, value) => spec.readOption name value f
    | none =>
      if isShortOption word then
        .error (if f.waiting.isNone && "-h".toList.isPrefixOf word.toList then .help else .misuse)
      else
        match f.waiting with
        | some o => f.withOption o word
        | none => f.withArgument spec word

def isComplete (spec : CommandSpec) (f : Found) : Bool :=
  f.waiting.isNone && spec.options.all (fun o => !o.required || f.has o.name) &&
    (spec.arguments.drop f.arguments.length).all fun a => !a.required

def readWords (spec : CommandSpec) (words : List String) : Except Stop Found := do
  let found ← words.foldlM spec.readWord .empty
  if spec.isComplete found then return found else throw .misuse

end CommandSpec

end SearchRetrieve.CommandLine
