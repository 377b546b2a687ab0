import ClauseSharing.Number.Ranged

/-! # Arguments

The words of a command line: options of the program, which may stand before or after the name of the
command, that name, and then options and records of the command. Words are taken from left to right,
and the first one that fits nowhere refuses the whole line.

A value follows its option as the next word, or stands in the same word behind an equals sign or,
for an option of one letter, directly behind the letter. A value of its own that starts with a
hyphen is taken only by options that say so. Everything behind the first record is a record. -/

namespace ClauseSharing.CommandLine

/-- The options. -/
inductive OptionName where
  | host
  | port
  | database
  | stem
  | inbox
  | batchWidth
  | maxLength
  | coreCut
  | secondCut
  | copyCut
  | minCopies
  | unit
  | clause
  | firstId
  | fact
  | noAdaptive
  | help
  | version
deriving DecidableEq

/-- What an option takes as its value. -/
inductive ValueKind where
  /-- Any text. -/
  | text
  /-- An integer from `low` to `high`. -/
  | integer (low high : Int)
deriving DecidableEq

/-- Which words that start with a hyphen an option takes as its value. -/
inductive HyphenRule where
  | none
  /-- Those that write a negative number. -/
  | numbers
  | all
deriving DecidableEq

/-- An option as it is declared. -/
structure OptionSpec where
  name : OptionName
  /-- Its name behind two hyphens. -/
  long : String
  /-- Its letter behind one hyphen. -/
  letter : Option Char := .none
  /-- What it takes, unless it only is there or is not. -/
  takes : Option ValueKind := .none
  hyphens : HyphenRule := .none
  /-- Whether it may be given more than once. -/
  repeats : Bool := false

/-- The commands. -/
inductive CommandName where
  | flush
  | pending
  | push
  | publish
  | importInbox
deriving DecidableEq

/-- Where words stand: before the name of a command or behind it. -/
structure Level where
  options : List OptionSpec
  /-- Whether the name of a command is awaited. -/
  namesCommand : Bool := false
  /-- Whether records are taken. -/
  takesRecords : Bool := false

/-- The value of an option. -/
inductive Value where
  | text (text : String)
  | integer (int : Int)
  | present
deriving DecidableEq

/-- Why a command line leads to no command. -/
inductive Stop where
  /-- A word does not fit, or one is missing. -/
  | refused
  /-- Help is asked for. -/
  | help
  /-- The version is asked for. -/
  | version
deriving DecidableEq

namespace CommandName

/-- The command of a name. -/
def ofText? : String → Option CommandName
  | "flush" => some flush
  | "pending" => some pending
  | "push" => some push
  | "publish" => some publish
  | "import" => some importInbox
  | _ => .none

end CommandName

/-- The option that asks for help. -/
def helpOption : OptionSpec := { name := .help, long := "help", letter := some 'h' }

/-- The option that asks for the version. -/
def versionOption : OptionSpec := { name := .version, long := "version", letter := some 'V' }

/-- The options that may stand before or after the name of the command. -/
def programOptions : List OptionSpec :=
  [{ name := .host, long := "host", takes := some .text },
    { name := .port, long := "port", takes := some (.integer 0 65535) },
    { name := .database, long := "db",
      takes := some (.integer (-9223372036854775808) 9223372036854775807) },
    { name := .stem, long := "prefix", takes := some .text },
    { name := .inbox, long := "inbox", takes := some .text },
    { name := .batchWidth, long := "batch-width", takes := some .text },
    { name := .maxLength, long := "max-clause-length", takes := some .text },
    { name := .coreCut, long := "core-lbd-cut", takes := some .text },
    { name := .secondCut, long := "tier2-lbd-cut", takes := some .text },
    { name := .copyCut, long := "max-lbd-dup", takes := some .text },
    { name := .minCopies, long := "min-learnt-copies", takes := some .text }]

/-- An option that takes wire integers, as often as it is given. -/
def literalOption (name : OptionName) (long : String) (letter : Char) : OptionSpec where
  name := name
  long := long
  letter := some letter
  takes := some (.integer (-9223372036854775808) 9223372036854775807)
  hyphens := .numbers
  repeats := true

/-- The options of a command. -/
def CommandName.options : CommandName → List OptionSpec
  | flush | pending | push => []
  | publish =>
    [literalOption .unit "unit" 'u',
      { name := .clause, long := "clause", letter := some 'c', takes := some .text,
        hyphens := .all, repeats := true },
      { name := .firstId, long := "first-id", takes := some (.integer 0 4294967295) }]
  | importInbox =>
    [{ name := .noAdaptive, long := "no-adaptive" }, literalOption .fact "fact" 'f']

/-- The words before the name of a command. -/
def programLevel : Level where
  options := programOptions ++ [helpOption, versionOption]
  namesCommand := true

/-- The words behind the name of a command. -/
def CommandName.level (name : CommandName) : Level where
  options := programOptions ++ name.options ++ [helpOption]
  takesRecords := name = push

/-- What the words so far have given. -/
structure Scan where
  /-- The options given, in order. -/
  given : List (OptionName × Value) := []
  records : List String := []

/-- What the next word may belong to. -/
inductive Awaiting where
  | anything
  /-- The value of an option. -/
  | value (option : OptionSpec)
  /-- Another record. -/
  | record

/-- What a word is. -/
inductive WordKind where
  /-- The name of a command. -/
  | command (name : CommandName)
  /-- The name of the command that shows help. -/
  | helpCommand
  /-- Two hyphens: nothing behind them is an option. -/
  | separator
  /-- A value or a record. -/
  | plain
  /-- An option by its long name, with what stands behind an equals sign. -/
  | option (option : OptionSpec) (attached : Option String)
  /-- Letters of options. -/
  | letters (letters : List Char)
  | unknown

namespace OptionSpec

/-- The value that a text is for an option. -/
def value? (option : OptionSpec) (text : String) : Option Value :=
  match option.takes with
  | .none => .none
  | some .text => some (.text text)
  | some (.integer low high) => do
    let number : Long ← Ranged.ofText? text
    if low ≤ number.val ∧ number.val ≤ high then some (.integer number.val) else .none

end OptionSpec

namespace Level

/-- The option with a long name. -/
def findLong? (level : Level) (long : String) : Option OptionSpec :=
  level.options.find? fun option => option.long = long

/-- The option with a letter. -/
def findLetter? (level : Level) (letter : Char) : Option OptionSpec :=
  level.options.find? fun option => option.letter = some letter

end Level

namespace Scan

/-- Notes an option with its value. Most options may be given only once. -/
def add (scan : Scan) (option : OptionSpec) (value : Value) : Except Stop Scan :=
  if !option.repeats && scan.given.any fun (name, _) => name = option.name then .error .refused
  else .ok { scan with given := scan.given ++ [(option.name, value)] }

/-- Notes an option with the text of its value. -/
def addText (scan : Scan) (option : OptionSpec) (text : String) : Except Stop Scan :=
  match option.value? text with
  | some value => scan.add option value
  | none => .error .refused

/-- Notes an option that takes no value. Help and the version are shown at once. -/
def addFlag (scan : Scan) (option : OptionSpec) : Except Stop Scan :=
  match option.name with
  | .help => .error .help
  | .version => .error .version
  | _ => scan.add option .present

/-- The values given for an option, in order. -/
def values (scan : Scan) (name : OptionName) : List Value :=
  scan.given.filterMap fun (other, value) => if other = name then some value else none

/-- The value given for an option that may be given once. -/
def value? (scan : Scan) (name : OptionName) : Option Value := (scan.values name).head?

end Scan

namespace Awaiting

/-- Whether any word is taken for a value or a record. -/
def takesAny : Awaiting → Bool
  | .anything => false
  | .value option => option.hyphens = .all
  | .record => true

/-- Whether negative numbers are taken for a value. -/
def takesNumbers : Awaiting → Bool
  | .value option => option.hyphens = .numbers
  | .anything | .record => false

/-- Whether an option still lacks its value. -/
def lacksValue : Awaiting → Bool
  | .value _ => true
  | .anything | .record => false

end Awaiting

/-- A word with two hyphens and more in front, cut at its first equals sign. -/
def longWord (level : Level) (body : List Char) : WordKind :=
  let name := String.ofList (body.takeWhile (· ≠ '='))
  let attached := match body.dropWhile (· ≠ '=') with
    | [] => none
    | _ :: value => some (String.ofList value)
  match level.findLong? name with
  | some option => .option option attached
  | none => if level.takesRecords then .plain else .unknown

/-- A word with one hyphen in front. Digits behind it write a negative number. Where records are
taken, a letter of no option makes it a record. -/
def shortWord (level : Level) (awaiting : Awaiting) (body : List Char) : WordKind :=
  if body.isEmpty ∨ (awaiting.takesNumbers ∧ body.all Char.isDigit) then .plain
  else if level.takesRecords ∧ body.any fun letter => (level.findLetter? letter).isNone then .plain
  else .letters body

/-- What a word is, by where it stands and what is awaited. -/
def wordKind (level : Level) (awaiting : Awaiting) (word : String) : WordKind :=
  let named := if level.namesCommand && !awaiting.lacksValue then CommandName.ofText? word else none
  match named with
  | some name => .command name
  | none =>
    if level.namesCommand && !awaiting.lacksValue && word = "help" then .helpCommand
    else if awaiting.takesAny then .plain
    else
      match word.toList with
      | ['-', '-'] => .separator
      | '-' :: '-' :: body => longWord level body
      | '-' :: body => shortWord level awaiting body
      | _ => .plain

/-- Takes the letters of a word, the last of which may lack its value. -/
def scanLetters (level : Level) (scan : Scan) : List Char → Except Stop (Scan × Awaiting)
  | [] => .ok (scan, .anything)
  | letter :: rest =>
    match level.findLetter? letter with
    | none => .error .refused
    | some option =>
      match option.takes, rest with
      | none, _ =>
        match scan.addFlag option with
        | .error stop => .error stop
        | .ok scan => scanLetters level scan rest
      | some _, [] => .ok (scan, .value option)
      | some _, '=' :: value =>
        (scan.addText option (String.ofList value)).map (·, .anything)
      | some _, value => (scan.addText option (String.ofList value)).map (·, .anything)

/-- Takes an option by its long name. -/
def scanOption (scan : Scan) (option : OptionSpec) (attached : Option String) :
    Except Stop (Scan × Awaiting) :=
  match option.takes, attached with
  | none, none => (scan.addFlag option).map (·, .anything)
  | none, some _ => .error .refused
  | some _, none => .ok (scan, .value option)
  | some _, some text => (scan.addText option text).map (·, .anything)

/-- Takes a value or a record. -/
def scanPlain (level : Level) (scan : Scan) (awaiting : Awaiting) (word : String) :
    Except Stop (Scan × Awaiting) :=
  match awaiting with
  | .value option => (scan.addText option word).map (·, .anything)
  | .anything | .record =>
    if level.takesRecords then .ok ({ scan with records := scan.records ++ [word] }, .record)
    else .error .refused

/-- Takes the words of one level. The name of a command ends the level, and is returned with the
words behind it. -/
def scanWords (level : Level) (scan : Scan) (awaiting : Awaiting) :
    List String → Except Stop (Scan × Option (CommandName × List String))
  | [] => if awaiting.lacksValue then .error .refused else .ok (scan, none)
  | word :: words =>
    let continued (next : Except Stop (Scan × Awaiting)) :=
      match next with
      | .error stop => .error stop
      | .ok (scan, awaiting) => scanWords level scan awaiting words
    match wordKind level awaiting word with
    | .command name => .ok (scan, some (name, words))
    | .helpCommand =>
      match words with
      | [] => .error .help
      | [name] =>
        if (CommandName.ofText? name).isSome ∨ name = "help" then .error .help
        else .error .refused
      | _ :: _ :: _ => .error .refused
    | .separator =>
      if awaiting.lacksValue then .error .refused
      else if level.takesRecords then .ok ({ scan with records := scan.records ++ words }, none)
      else if words.isEmpty then .ok (scan, none)
      else .error .refused
    | .plain => continued (scanPlain level scan awaiting word)
    | .option option attached =>
      if awaiting.lacksValue then .error .refused else continued (scanOption scan option attached)
    | .letters letters =>
      if awaiting.lacksValue then .error .refused else continued (scanLetters level scan letters)
    | .unknown => .error .refused

/-- A command line that leads to a command. -/
structure Invocation where
  /-- What stands before the name of the command. -/
  outer : Scan
  name : CommandName
  /-- What stands behind it. -/
  inner : Scan

namespace Invocation

/-- The value of an option of the program. The one behind the name of the command wins. -/
def value? (invocation : Invocation) (name : OptionName) : Option Value :=
  match invocation.inner.value? name with
  | some value => some value
  | none => invocation.outer.value? name

/-- The text given for an option of the program. -/
def text? (invocation : Invocation) (name : OptionName) : Option String :=
  match invocation.value? name with
  | some (.text text) => some text
  | _ => none

/-- The integer given for an option of the program. -/
def integer? (invocation : Invocation) (name : OptionName) : Option Int :=
  match invocation.value? name with
  | some (.integer int) => some int
  | _ => none

/-- The integers given for an option of the command, in order. -/
def integers (invocation : Invocation) (name : OptionName) : List Int :=
  (invocation.inner.values name).filterMap fun
    | .integer int => some int
    | _ => none

/-- The texts given for an option of the command, in order. -/
def texts (invocation : Invocation) (name : OptionName) : List String :=
  (invocation.inner.values name).filterMap fun
    | .text text => some text
    | _ => none

end Invocation

/-- The command line that the words make up. -/
def parse (words : List String) : Except Stop Invocation :=
  match scanWords programLevel {} .anything words with
  | .error stop => .error stop
  | .ok (_, none) => .error .refused
  | .ok (outer, some (name, words)) =>
    match scanWords name.level {} .anything words with
    | .error stop => .error stop
    | .ok (inner, _) =>
      if name.level.takesRecords ∧ inner.records.isEmpty then .error .refused
      else .ok { outer, name, inner }

end ClauseSharing.CommandLine
