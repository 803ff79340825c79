/-
# The command line

What the words of a command line ask for. Words come as octets, and every value has to be
a text. A long option begins with two dashes and may carry its value after an equals
sign; without one, an option that takes a value takes the next word, which then must not
look like an option. Two dashes alone end the options. No option may be given twice at
one level, and `--json` may stand before or after the name of the command.
-/

import Redirect.Path

namespace Redirect

/-- What is to be done. -/
inductive Command where
  /-- Redirect bare calls below a directory. -/
  | redirect (path : Option String) (write : Bool) (config : Option String)
  /-- Replace texts below a directory. -/
  | substitute (path : Option String) (pair : Option (String × String)) (write : Bool)
  /-- Search for texts below a directory. -/
  | search (path : Option String) (terms : List String)
  deriving DecidableEq, Repr

/-- A command and the form of its output. -/
structure Invocation where
  json : Bool
  command : Command
  deriving DecidableEq, Repr

/-- What a command line asks for. -/
inductive Request where
  /-- Nothing that can be done. -/
  | usageError
  /-- A description of the command line. -/
  | help
  /-- The version. -/
  | version
  /-- A command. -/
  | invoke (invocation : Invocation)
  deriving DecidableEq, Repr

namespace Request

/-- The octet of a dash. -/
def dash : UInt8 := 0x2D

/-- The octet of an equals sign. -/
def equalsSign : UInt8 := 0x3D

/-- The form of a word. -/
inductive Word where
  /-- Two dashes alone. -/
  | terminator
  /-- Two dashes, a name, and perhaps a value. -/
  | long (name : Bytes) (value : Option Bytes)
  /-- One dash and letters, of which the first one counts. -/
  | short (letter : UInt8)
  /-- Anything else, a single dash included. -/
  | plain (bytes : Bytes)
  deriving DecidableEq, Repr

/-- The form of a word. -/
def Word.ofBytes (bytes : Bytes) : Word :=
  match bytes with
  | first :: second :: rest =>
    if first != dash then .plain bytes
    else if second != dash then .short second
    else if rest.isEmpty then .terminator
    else
      let name := rest.takeWhile (· != equalsSign)
      let value := if name.length < rest.length then some (rest.drop (name.length + 1)) else none
      .long name value
  | _ => .plain bytes

/-- The options that a command knows. -/
structure Grammar where
  flags : List String
  options : List String
  takesTerms : Bool

/-- The options and terms read. -/
structure Parsed where
  flags : List String := []
  values : List (String × String) := []
  terms : List String := []

/-- Why the words of a command are not read to their end. -/
inductive Stop where
  | usageError
  | help
  deriving DecidableEq, Repr

namespace Parsed

/-- Add a flag, which must not have been given before. -/
def addFlag (parsed : Parsed) (name : String) : Except Stop Parsed :=
  if parsed.flags.contains name then .error .usageError
  else .ok { parsed with flags := parsed.flags ++ [name] }

/-- Add a value, which must be a text, of an option that has not been given before. -/
def addValue (parsed : Parsed) (name : String) (value : Bytes) : Except Stop Parsed :=
  match Utf8.decode? value with
  | none => .error .usageError
  | some text =>
    if (parsed.values.lookup name).isSome then .error .usageError
    else .ok { parsed with values := parsed.values ++ [(name, text)] }

/-- Add terms, which must be texts, where terms are taken. -/
def addTerms (parsed : Parsed) (grammar : Grammar) (words : List Bytes) :
    Except Stop Parsed :=
  match words.mapM Utf8.decode? with
  | none => .error .usageError
  | some texts =>
    if grammar.takesTerms || texts.isEmpty then .ok { parsed with terms := parsed.terms ++ texts }
    else .error .usageError

end Parsed

/-- Read a long option. The second result is the name of an option whose value is the
next word. -/
def readLong (grammar : Grammar) (parsed : Parsed) (name : Bytes) (value : Option Bytes) :
    Except Stop (Parsed × Option String) :=
  match Utf8.decode? name with
  | none => .error .usageError
  | some name =>
    match value with
    | some value =>
      if grammar.options.contains name then do
        .ok (← parsed.addValue name value, none)
      else .error .usageError
    | none =>
      if name = "help" then .error .help
      else if grammar.flags.contains name then do
        .ok (← parsed.addFlag name, none)
      else if grammar.options.contains name then .ok (parsed, some name)
      else .error .usageError

/-- Read the words of a command. `waiting` names an option whose value comes next. -/
def readWords (grammar : Grammar) (parsed : Parsed) (waiting : Option String) :
    List Bytes → Except Stop Parsed
  | [] => if waiting.isSome then .error .usageError else .ok parsed
  | bytes :: rest =>
    match waiting, Word.ofBytes bytes with
    | some name, .plain value => do
      let parsed ← parsed.addValue name value
      readWords grammar parsed none rest
    | some _, _ => .error .usageError
    | none, .terminator => parsed.addTerms grammar rest
    | none, .long name value => do
      let (parsed, waiting) ← readLong grammar parsed name value
      readWords grammar parsed waiting rest
    | none, .short letter => .error (if letter = 0x68 then .help else .usageError)
    | none, .plain bytes => do
      let parsed ← parsed.addTerms grammar [bytes]
      readWords grammar parsed none rest

/-- The options of the command that redirects calls. -/
def redirectGrammar : Grammar :=
  ⟨["json", "write"], ["path", "config"], false⟩

/-- The options of the command that replaces texts. -/
def substituteGrammar : Grammar :=
  ⟨["json", "write"], ["path", "from", "to"], false⟩

/-- The options of the command that searches for texts. -/
def searchGrammar : Grammar :=
  ⟨["json"], ["path"], true⟩

/-- The command that redirects calls, from its options. -/
def redirectCommand (parsed : Parsed) : Option Command :=
  some (.redirect (parsed.values.lookup "path") (parsed.flags.contains "write")
    (parsed.values.lookup "config"))

/-- The command that replaces texts, from its options. The text and its replacement come
together or not at all. -/
def substituteCommand (parsed : Parsed) : Option Command :=
  let path := parsed.values.lookup "path"
  let write := parsed.flags.contains "write"
  match parsed.values.lookup "from", parsed.values.lookup "to" with
  | some old, some new => some (.substitute path (some (old, new)) write)
  | none, none => some (.substitute path none write)
  | _, _ => none

/-- The command that searches for texts, from its options. -/
def searchCommand (parsed : Parsed) : Option Command :=
  some (.search (parsed.values.lookup "path") parsed.terms)

/-- The request for a command, from the words after its name. -/
def ofWords (json : Bool) (grammar : Grammar) (command : Parsed → Option Command)
    (words : List Bytes) : Request :=
  match readWords grammar {} none words with
  | .error .usageError => .usageError
  | .error .help => .help
  | .ok parsed =>
    match command parsed with
    | some command => .invoke ⟨json || parsed.flags.contains "json", command⟩
    | none => .usageError

/-- The names of the commands. -/
def commandNames : List String := ["rewrite", "replace", "search", "help"]

/-- The request for help on a command, from the words after it: at most one name. -/
def ofHelpWords : List Bytes → Request
  | [] => .help
  | [word] =>
    if (Utf8.decode? word).any commandNames.contains then .help else .usageError
  | _ => .usageError

/-- The request for the command of a name, from the words after it. -/
def ofCommandName (json : Bool) (name : String) (words : List Bytes) : Request :=
  if name = "rewrite" then ofWords json redirectGrammar redirectCommand words
  else if name = "replace" then ofWords json substituteGrammar substituteCommand words
  else if name = "search" then ofWords json searchGrammar searchCommand words
  else if name = "help" then ofHelpWords words
  else .usageError

/-- What a command line asks for; `json` tells that the option was given before. -/
def ofArgumentsAfter (json : Bool) : List Bytes → Request
  | [] => .usageError
  | bytes :: rest =>
    match Word.ofBytes bytes with
    | .terminator => .usageError
    | .short letter =>
      if letter = 0x68 then .help else if letter = 0x56 then .version else .usageError
    | .long _ (some _) => .usageError
    | .long name none =>
      match Utf8.decode? name with
      | some "json" => if json then .usageError else ofArgumentsAfter true rest
      | some "help" => .help
      | some "version" => .version
      | _ => .usageError
    | .plain name =>
      match Utf8.decode? name with
      | some name => ofCommandName json name rest
      | none => .usageError

/-- What a command line asks for. -/
def ofArguments (words : List Bytes) : Request :=
  ofArgumentsAfter false words

end Request

end Redirect
