import ReplicaQuorum.Command
import ReplicaQuorum.Text.Pieces

/-!
# Command lines

How the words of a command line become a command. A subcommand is followed by options with one value
each, in any order: the value is the next word, or follows an equals sign. An option is settled, and
its value checked, only when the next one is met or the line ends; a word that nobody knows is
reported before that.
-/

namespace ReplicaQuorum

/-- Why a command line is no command. -/
inductive Usage where
  | helpForMissing
  | help
  | version
  | unknownSubcommand
  | unknownArgument
  | missingArgument
  | missingValue
  | unneededValue
  | badValue
  | repeatedOption
deriving DecidableEq, Repr

/-- The name of a usage error. -/
def Usage.name : Usage → String
  | helpForMissing => "DisplayHelpOnMissingArgumentOrSubcommand"
  | help => "DisplayHelp"
  | version => "DisplayVersion"
  | unknownSubcommand => "InvalidSubcommand"
  | unknownArgument => "UnknownArgument"
  | missingArgument => "MissingRequiredArgument"
  | missingValue => "InvalidValue"
  | unneededValue => "TooManyValues"
  | badValue => "ValueValidation"
  | repeatedOption => "ArgumentConflict"

namespace Command

/-- The kinds of option values. -/
inductive ValueKind where
  | text
  /-- A text that is not empty. -/
  | path
  /-- A 32-bit word, with any sign that leaves it in range. -/
  | count
  /-- A 64-bit word. -/
  | word
deriving DecidableEq, Repr

/-- The value of an option. -/
inductive Value where
  | text (s : String)
  | count (n : UInt32)
  | word (n : UInt64)
deriving DecidableEq, Repr

/-- Reads a 32-bit word. A minus sign may stand before a zero. -/
def readCount (s : List Char) : Except Text.NumeralError UInt32 :=
  match s with
  | '-' :: '+' :: _ => .error .invalidDigit
  | '-' :: digits => (Text.readNumeral 1 digits).map UInt32.ofNat
  | s => (Text.readNumeral UInt32.size s).map UInt32.ofNat

/-- Reads the value of an option. -/
def ValueKind.read (kind : ValueKind) (s : String) : Except Usage Value :=
  match kind with
  | text => .ok (.text s)
  | path => if s.isEmpty then .error .missingValue else .ok (.text s)
  | count =>
    match readCount s.toList with
    | .ok n => .ok (.count n)
    | .error _ => .error .badValue
  | word =>
    match Text.readUInt64 s.toList with
    | .ok n => .ok (.word n)
    | .error _ => .error .badValue

/-- The subcommands. -/
inductive Subcommand where
  | decode
  | form
  | checkWrite
  | history
deriving DecidableEq, Repr

namespace Subcommand

/-- All subcommands. -/
def all : List Subcommand := [decode, form, checkWrite, history]

/-- The word for a subcommand. -/
def name : Subcommand → String
  | decode => "decode"
  | form => "form"
  | checkWrite => "check-write"
  | history => "history"

/-- The options of a subcommand. -/
def options : Subcommand → List (String × ValueKind)
  | decode => [("content", .text)]
  | form => [("content", .text), ("volume-type", .text)]
  | checkWrite =>
    [("content", .text), ("write-quorum", .count), ("good-secondaries", .count),
     ("good-joining", .count), ("good-arbiters", .count)]
  | history => [("config", .path), ("segment", .word)]

end Subcommand

/-- What one word of a command line looks like. -/
inductive Word where
  /-- Two hyphens, after which every word is a plain one. -/
  | separator
  /-- Two hyphens and a name, perhaps with a value after an equals sign. -/
  | long (name : String) (value : Option String)
  /-- A hyphen and letters. -/
  | short (letter : Char)
  | plain
deriving DecidableEq, Repr

/-- What a word looks like. -/
def Word.ofChars : List Char → Word
  | ['-', '-'] => separator
  | '-' :: '-' :: rest =>
    match Text.split '=' rest with
    | name :: piece :: pieces =>
      long (String.ofList name) (some (String.ofList (Text.join ['='] (piece :: pieces))))
    | _ => long (String.ofList rest) none
  | '-' :: letter :: _ => short letter
  | _ => plain

/-- The options met so far, and the last one, which is not settled yet. -/
structure Options where
  settled : List (String × Value) := []
  pending : Option (String × ValueKind × Option String) := none
deriving DecidableEq, Repr

namespace Options

/-- The value of an option. -/
def get? (o : Options) (name : String) : Option Value :=
  (o.settled.find? fun given => given.1 = name).map Prod.snd

/-- Adds the value of an option, which must not have one yet. -/
def add (o : Options) (name : String) (kind : ValueKind) (value : String) :
    Except Usage Options :=
  if (o.get? name).isSome then .error .repeatedOption
  else (kind.read value).map fun value => { o with settled := o.settled ++ [(name, value)] }

/-- Settles the last option. -/
def settle (o : Options) : Except Usage Options :=
  match o.pending with
  | none => .ok o
  | some (_, _, none) => .error .missingValue
  | some (name, kind, some value) => { o with pending := none }.add name kind value

/-- Reads the words after a subcommand. -/
def read (known : List (String × ValueKind)) : Options → List String → Except Usage Options
  | o, [] => o.settle
  | o, word :: rest =>
    match Word.ofChars word.toList with
    | .separator => if rest.isEmpty then o.settle else .error .unknownArgument
    | .long name value =>
      if name = "help" then
        match value with
        | some _ => .error .unneededValue
        | none => o.settle.bind fun _ => .error .help
      else
        match known.find? fun option => option.1 = name with
        | none => .error .unknownArgument
        | some (name, kind) =>
          match o.settle with
          | .error e => .error e
          | .ok o =>
            match value with
            | none => read known { o with pending := some (name, kind, none) } rest
            | some value =>
              match o.add name kind value with
              | .error e => .error e
              | .ok o => read known o rest
    | .short letter =>
      if letter = 'h' then o.settle.bind fun _ => .error .help else .error .unknownArgument
    | .plain =>
      match o.pending with
      | some (name, kind, none) =>
        read known { o with pending := some (name, kind, some word) } rest
      | _ => .error .unknownArgument

/-- The text of an option that has to be given. -/
def text (o : Options) (name : String) : Except Usage String :=
  match o.get? name with
  | some (.text s) => .ok s
  | _ => .error .missingArgument

/-- The count of an option that has to be given. -/
def count (o : Options) (name : String) : Except Usage UInt32 :=
  match o.get? name with
  | some (.count n) => .ok n
  | _ => .error .missingArgument

/-- The word of an option that has to be given. -/
def word (o : Options) (name : String) : Except Usage UInt64 :=
  match o.get? name with
  | some (.word n) => .ok n
  | _ => .error .missingArgument

/-- The value of an option, or a default where it is not given. -/
def orElse {α : Type} (value : Except Usage α) (default : α) : α :=
  match value with
  | .ok a => a
  | .error _ => default

end Options

/-- The settings file that is read where none is named. -/
def defaultConfig : String := "./segquorum.json"

/-- The command of a subcommand with its options. -/
def ofOptions (o : Options) : Subcommand → Except Usage Command
  | .decode => do .ok (.decode (← o.text "content"))
  | .form => do
    .ok (.form (← o.text "content") (Options.orElse (o.text "volume-type") "REGULAR"))
  | .checkWrite => do
    let good : RoleCounts :=
      ⟨Options.orElse (o.count "good-secondaries") 0, Options.orElse (o.count "good-joining") 0,
       Options.orElse (o.count "good-arbiters") 0⟩
    .ok (.checkWrite (← o.text "content") (← o.count "write-quorum") good)
  | .history => do
    .ok (.history (Options.orElse (o.text "config") defaultConfig) (← o.word "segment"))

/-- The subcommand that a word names. -/
def subcommand? (word : String) : Option Subcommand :=
  Subcommand.all.find? fun s => s.name = word

/-- A word that names a subcommand, or the request for help. -/
def isSubcommand (word : String) : Bool :=
  word = "help" || (subcommand? word).isSome

/-- What the words after a request for help ask for. -/
def helpUsage : List String → Usage
  | [] => .help
  | [word] => if isSubcommand word then .help else .unknownSubcommand
  | _ => .unknownSubcommand

/-- What is wrong with a line whose first word is no subcommand. -/
def usageOf (word : String) (rest : List String) : Usage :=
  match Word.ofChars word.toList with
  | .separator =>
    match rest with
    | [] => .helpForMissing
    | word :: _ => if isSubcommand word then .unknownArgument else .unknownSubcommand
  | .long name value =>
    if name = "help" || name = "version" then
      if value.isSome then .unneededValue else if name = "help" then .help else .version
    else .unknownArgument
  | .short letter =>
    if letter = 'h' then .help else if letter = 'V' then .version else .unknownArgument
  | .plain => .unknownSubcommand

/-- The command that the words of a command line ask for. -/
def ofWords : List String → Except Usage Command
  | [] => .error .helpForMissing
  | word :: rest =>
    if word = "help" then .error (helpUsage rest)
    else
      match subcommand? word with
      | none => .error (usageOf word rest)
      | some s =>
        match Options.read s.options {} rest with
        | .error e => .error e
        | .ok o => ofOptions o s

end Command

end ReplicaQuorum
