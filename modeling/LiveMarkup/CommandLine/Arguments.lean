import LiveMarkup.Text.Case

/-!
# Command line arguments

The words of a command line name a command, its operand and its options. Words are taken one at a
time: `--` makes the rest operands, an option that takes a value has it attached or as the next
word, and short options may stand together. The first word that cannot be taken ends the reading, and
so does a request for help or for the version.
-/

set_option autoImplicit false

namespace LiveMarkup.CommandLine

/-- What the program is asked to do. -/
inductive Command where
  | compile (spec : String) (minify page : Bool) (out : Option String)
  | detect (spec : String)
  | minify (file : String) (out : Option String)
  | runtime (minify : Bool) (out : Option String)
  | serve (folder : String) (endpoint : Nat)
deriving DecidableEq

/-- A command, and how much is told about its work. -/
structure Invocation where
  verbosity : Nat
  command : Command
deriving DecidableEq

/-- Why no command is read. -/
inductive Stop where
  | help
  | version
  | invalid
deriving DecidableEq

/-- The commands by name. -/
inductive Verb where
  | compile
  | detect
  | minify
  | runtime
  | serve
deriving DecidableEq

/-- An option without a value. -/
inductive Switch where
  | minify
  | page
deriving DecidableEq

/-- An option with a value. -/
inductive Setting where
  | out
  | endpoint
deriving DecidableEq

namespace Verb

/-- The command of a name. -/
def ofName? : String → Option Verb
  | "compile" => some compile
  | "detect" => some detect
  | "minify" => some minify
  | "runtime" => some runtime
  | "serve" => some serve
  | _ => none

/-- Whether a command has an operand, which it then needs. -/
def hasOperand : Verb → Bool
  | runtime => false
  | _ => true

/-- The switch of a long name. -/
def switch? : Verb → String → Option Switch
  | compile, "minify" => some .minify
  | runtime, "minify" => some .minify
  | compile, "page" => some .page
  | _, _ => none

/-- The setting of a long name. -/
def setting? : Verb → String → Option Setting
  | compile, "out" => some .out
  | minify, "out" => some .out
  | runtime, "out" => some .out
  | serve, "port" => some .endpoint
  | _, _ => none

/-- The setting of a short name. -/
def shortSetting? (verb : Verb) (c : Char) : Option Setting :=
  if c == 'o' then verb.setting? "out" else none

end Verb

/-- How a word reads before anything is known about it. -/
inductive Word where
  /-- The word that makes the rest operands. -/
  | separator
  /-- A long option, with what stands behind its equals sign. -/
  | long (name : String) (value : Option String)
  /-- Short options. -/
  | short (letters : List Char)
  | plain (text : String)
deriving DecidableEq

/-- How a word reads. -/
def Word.ofText (text : String) : Word :=
  match text.toList with
  | ['-', '-'] => .separator
  | '-' :: '-' :: rest =>
    match rest.span (· != '=') with
    | (name, '=' :: value) => .long (String.ofList name) (some (String.ofList value))
    | (name, _) => .long (String.ofList name) none
  | '-' :: c :: rest => .short (c :: rest)
  | _ => .plain text

/-- The greatest verbosity. -/
def maxVerbosity : Nat := 255

/-- What is known of a command's words so far. -/
structure Reading where
  verbosity : Nat
  operand : Option String
  switches : List Switch
  out : Option String
  endpoint : Option Nat
  /-- The setting whose value is the next word. -/
  awaiting : Option Setting
  /-- Whether only operands are to come. -/
  literal : Bool
deriving DecidableEq

namespace Reading

/-- Before the first word of a command. -/
def start : Reading := ⟨0, none, [], none, none, none, false⟩

/-- One more request to tell more. -/
def louder (reading : Reading) : Reading :=
  { reading with verbosity := min maxVerbosity (reading.verbosity + 1) }

/-- The TCP endpoint that a text writes: a number of 16 bits in decimal digits, with an optional
sign. -/
def endpoint? (text : String) : Option Nat :=
  let (negative, digits) := match text.toList with
    | '-' :: rest => (true, rest)
    | '+' :: rest => (false, rest)
    | rest => (false, rest)
  let n := digits.foldl (fun n c => 10 * n + (c.toNat - '0'.toNat)) 0
  if digits.isEmpty || !digits.all Char.isDigit then none
  else if n < 65536 && (!negative || n == 0) then some n
  else none

/-- Takes the operand, of which there is at most one, and which is not empty. -/
def takeOperand (verb : Verb) (reading : Reading) (text : String) : Except Stop Reading :=
  if verb.hasOperand && reading.operand.isNone && text != "" then
    .ok { reading with operand := some text }
  else .error .invalid

/-- Takes a switch, which may be given once. -/
def takeSwitch (reading : Reading) (switch : Switch) : Except Stop Reading :=
  if reading.switches.contains switch then .error .invalid
  else .ok { reading with switches := switch :: reading.switches }

/-- Takes a setting's value, which may be given once. -/
def takeValue (reading : Reading) (setting : Setting) (text : String) : Except Stop Reading :=
  let reading := { reading with awaiting := none }
  match setting with
  | .out =>
    if reading.out.isNone && text != "" then .ok { reading with out := some text }
    else .error .invalid
  | .endpoint =>
    match reading.endpoint, endpoint? text with
    | none, some n => .ok { reading with endpoint := some n }
    | _, _ => .error .invalid

/-- Takes a long option. -/
def takeLong (verb : Verb) (reading : Reading) (name : String) (value : Option String) :
    Except Stop Reading :=
  match verb.setting? name, value with
  | some setting, some text => reading.takeValue setting text
  | some setting, none => .ok { reading with awaiting := some setting }
  | none, some _ => .error .invalid
  | none, none =>
    if name == "help" then .error .help
    else if name == "verbose" then .ok reading.louder
    else match verb.switch? name with
      | some switch => reading.takeSwitch switch
      | none => .error .invalid

/-- Takes short options; the letters behind one with a value are the value. -/
def takeShort (verb : Verb) (reading : Reading) : List Char → Except Stop Reading
  | [] => .ok reading
  | c :: rest =>
    match verb.shortSetting? c with
    | some setting =>
      match rest with
      | [] => .ok { reading with awaiting := some setting }
      | '=' :: value => reading.takeValue setting (String.ofList value)
      | value => reading.takeValue setting (String.ofList value)
    | none =>
      if c == 'h' then .error .help
      else if c == 'v' then takeShort verb reading.louder rest
      else .error .invalid

/-- Takes one word. -/
def take (verb : Verb) (reading : Reading) (text : String) : Except Stop Reading :=
  if reading.literal then reading.takeOperand verb text
  else match reading.awaiting, Word.ofText text with
    | some setting, .plain value => reading.takeValue setting value
    | some _, _ => .error .invalid
    | none, .separator => .ok { reading with literal := true }
    | none, .long name value => reading.takeLong verb name value
    | none, .short letters => reading.takeShort verb letters
    | none, .plain operand => reading.takeOperand verb operand

/-- The TCP endpoint of a folder that is served without naming one. -/
def defaultEndpoint : Nat := 3000

/-- The command, once all words are taken. -/
def command (verb : Verb) (reading : Reading) : Except Stop Command :=
  if reading.awaiting.isSome then .error .invalid
  else
    let minify := reading.switches.contains .minify
    match verb, reading.operand with
    | .compile, some spec =>
      .ok (.compile spec minify (reading.switches.contains .page) reading.out)
    | .detect, some spec => .ok (.detect spec)
    | .minify, some file => .ok (.minify file reading.out)
    | .runtime, _ => .ok (.runtime minify reading.out)
    | .serve, some folder => .ok (.serve folder (reading.endpoint.getD defaultEndpoint))
    | _, none => .error .invalid

end Reading

/-- Reads the words behind a command's name. -/
def readCommand (verb : Verb) (words : List String) : Except Stop (Command × Nat) := do
  let reading ← words.foldlM (Reading.take verb) .start
  return (← reading.command verb, reading.verbosity)

/-- How the words behind `help` are answered: they may name one command. -/
def helpStop : List String → Stop
  | [] => .help
  | [name] => if name == "help" || (Verb.ofName? name).isSome then .help else .invalid
  | _ => .invalid

/-- Reads short options in front of the command, adding to the verbosity. -/
def readShort (verbosity : Nat) : List Char → Except Stop Nat
  | [] => .ok verbosity
  | c :: rest =>
    if c == 'h' then .error .help
    else if c == 'V' then .error .version
    else if c == 'v' then readShort (min maxVerbosity (verbosity + 1)) rest
    else .error .invalid

/-- Reads words from before the command's name on, `verbosity` being asked for so far. The verbosity
that is asked for behind the name counts before that. -/
def readFrom (verbosity : Nat) : List String → Except Stop Invocation
  | [] => .error (if verbosity = 0 then .help else .invalid)
  | word :: rest =>
    if word == "help" then .error (helpStop rest)
    else match Verb.ofName? word, Word.ofText word with
      | some verb, _ => do
        let (command, inner) ← readCommand verb rest
        return ⟨if inner = 0 then verbosity else inner, command⟩
      | none, .long "help" none => .error .help
      | none, .long "version" none => .error .version
      | none, .long "verbose" none => readFrom (min maxVerbosity (verbosity + 1)) rest
      | none, .short letters => do readFrom (← readShort verbosity letters) rest
      | none, .separator =>
        .error (if rest.isEmpty && verbosity = 0 then .help else .invalid)
      | none, _ => .error .invalid

/-- The command that the words of a command line ask for. -/
def read (words : List String) : Except Stop Invocation := readFrom 0 words

end LiveMarkup.CommandLine
