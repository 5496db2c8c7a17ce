import Joinery.Config.Load
import Joinery.Configurator

/-!
# Command lines

The words after the name of the program: a command with its arguments, flags
such as `--json` and options with a value such as `--tier oak` or `--tier=oak`.
Two dashes on their own make all later words arguments. A flag is given once,
and so is an option, unless it adds to a list. What does not fit is refused as a
whole.
-/

namespace Joinery

/-- What the program is asked to do. -/
inductive Command where
  | presets
  | catalog
  | check (code : String)
  | quote (code : String) (request : QuoteRequest)
  | generate (codes : List String) (closed : Bool)
  | finalize (name code : String) (request : QuoteRequest) (closed : Bool)
  | delete (id : String)
  | initConfig (force : Bool)
deriving DecidableEq

/-- A command, how its result is shown and where the configuration is. -/
structure Invocation where
  command : Command
  /-- Whether results are JSON. -/
  json : Bool
  /-- The configuration file, if one is named. -/
  configPath : Option String
deriving DecidableEq

/-- What a command line asks for. -/
inductive CommandLine where
  | invoke (invocation : Invocation)
  | version
  | refused
deriving DecidableEq

namespace CommandLine

/-- A word of a command line by its part in it. -/
inductive Word where
  | flag (name : String)
  | option (name value : String)
  | argument (text : String)
deriving DecidableEq

/-- The flags and options that a command knows. -/
structure Vocabulary where
  flags : List String
  options : List String

/-- Whether a word cannot be an argument or value: it starts with a dash and goes
on. -/
def isDashed (word : String) : Bool :=
  match word.toList with
  | '-' :: _ :: _ => true
  | _ => false

/-- The name behind two dashes, and the value behind an equals sign. -/
def longName? (word : String) : Option (String × Option String) :=
  match word.toList with
  | '-' :: '-' :: cs =>
    let name := cs.takeWhile fun c => c ≠ '='
    let value := (cs.dropWhile fun c => c ≠ '=').tail?
    some (String.ofList name, value.map String.ofList)
  | _ => none

/-- Reads the words after a command. -/
def scan (vocabulary : Vocabulary) : List String → Option (List Word)
  | [] => some []
  | word :: rest =>
    if word = "--" then some (rest.map .argument)
    else
      match longName? word with
      | none =>
        if isDashed word then none
        else (scan vocabulary rest).map fun words => .argument word :: words
      | some (name, attached) =>
        if vocabulary.flags.contains name then
          if attached.isSome then none
          else (scan vocabulary rest).map fun words => .flag name :: words
        else if vocabulary.options.contains name then
          match attached with
          | some value => (scan vocabulary rest).map fun words => .option name value :: words
          | none =>
            match rest with
            | [] => none
            | value :: rest =>
              if isDashed value then none
              else (scan vocabulary rest).map fun words => .option name value :: words
        else none

/-- The arguments among words. -/
def arguments (words : List Word) : List String :=
  words.filterMap fun word =>
    match word with
    | .argument text => some text
    | _ => none

/-- The values of an option among words. -/
def values (name : String) (words : List Word) : List String :=
  words.filterMap fun word =>
    match word with
    | .option other value => if other = name then some value else none
    | _ => none

/-- Whether a flag is given, which it may be once. -/
def flag? (name : String) (words : List Word) : Option Bool :=
  match (words.filter fun word => word = .flag name).length with
  | 0 => some false
  | 1 => some true
  | _ => none

/-- The value of an option, which may be given once. -/
def single? (name : String) (words : List Word) : Option (Option String) :=
  match values name words with
  | [] => some none
  | [value] => some (some value)
  | _ => none

/-- Reads a pick: an id and a quantity such as `drawer=2`. An id alone means one
piece. -/
def pick? (text : String) : Option (String × UInt32) :=
  let id := String.ofList (text.toList.takeWhile fun c => c ≠ '=')
  if id = "" then none
  else
    match (text.toList.dropWhile fun c => c ≠ '=').tail? with
    | none => some (id, 1)
    | some quantity =>
      (readCount? UInt32.size (String.ofList quantity)).map fun n => (id, UInt32.ofNat n)

/-- Reads the choice of a height policy, if there is one. -/
def policy? : Option String → Option (Option HeightPolicy)
  | none => some none
  | some word =>
    match HeightPolicy.ofRequest word with
    | .ok policy => some (some policy)
    | .error _ => none

/-- Reads what a customer chooses. -/
def request? (words : List Word) : Option QuoteRequest := do
  let tier ← single? "tier" words
  let picks ← (values "supplement" words).mapM pick?
  let policy ← (single? "policy" words).bind policy?
  return ⟨tier, picks, policy⟩

/-- The options of what a customer chooses. -/
def requestOptions : List String := ["tier", "supplement", "policy"]

/-- The flags and options of a command, `--json` and `--config` apart. -/
def vocabulary? (command : String) : Option Vocabulary :=
  match command with
  | "presets" => some ⟨[], []⟩
  | "catalog" => some ⟨[], []⟩
  | "check" => some ⟨[], []⟩
  | "quote" => some ⟨[], requestOptions⟩
  | "generate" => some ⟨["closed"], []⟩
  | "finalize" => some ⟨["closed"], requestOptions⟩
  | "delete" => some ⟨[], []⟩
  | "init-config" => some ⟨["force"], []⟩
  | _ => none

/-- Reads a command from its words. -/
def command? (command : String) (words : List Word) : Option Command :=
  match command, arguments words with
  | "presets", [] => some .presets
  | "catalog", [] => some .catalog
  | "check", [code] => some (.check code)
  | "quote", [code] => (request? words).map fun request => .quote code request
  | "generate", code :: more =>
    (flag? "closed" words).map fun closed => .generate (code :: more) closed
  | "finalize", [name, code] => do
    return .finalize name code (← request? words) (← flag? "closed" words)
  | "delete", [id] => some (.delete id)
  | "init-config", [] => (flag? "force" words).map .initConfig
  | _, _ => none

/-- Reads a command and what follows it. Flags and options that stand before the
command hold too; an option after it comes first. -/
def invocation? (json : Bool) (configPath : Option String) (command : String)
    (rest : List String) : Option Invocation := do
  let known ← vocabulary? command
  let words ← scan ⟨"json" :: known.flags, "config" :: known.options⟩ rest
  let jsonHere ← flag? "json" words
  let pathHere ← single? "config" words
  if pathHere = some "" then none
  else return ⟨← command? command words, json || jsonHere, pathHere.or configPath⟩

/-- Reads a command line from the first word on, after the flags and options
before its command. -/
def readFrom (json : Bool) (configPath : Option String) : List String → CommandLine
  | [] => .refused
  | word :: rest =>
    let takePath (value : String) (rest : CommandLine) : CommandLine :=
      if configPath.isSome ∨ value = "" then .refused else rest
    if word = "--version" ∨ word.startsWith "-V" then .version
    else
      match longName? word with
      | some ("json", none) => if json then .refused else readFrom true configPath rest
      | some ("config", some value) => takePath value (readFrom json (some value) rest)
      | some ("config", none) =>
        match rest with
        | [] => .refused
        | value :: rest =>
          if isDashed value then .refused
          else takePath value (readFrom json (some value) rest)
      | some _ => .refused
      | none =>
        match invocation? json configPath word rest with
        | some invocation => .invoke invocation
        | none => .refused

/-- Reads a command line. -/
def read (words : List String) : CommandLine := readFrom false none words

end CommandLine

end Joinery
