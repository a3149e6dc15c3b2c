import SchemaIntake.CommandLine.OutputFormat

/-!
# Arguments

What the arguments of a command line ask for.  Arguments are taken one after the other, so the
first of them that is wrong or asks for help decides.

## Main definitions

* `Verb` — the commands by name; `Switch` — the options.
* `Given` — what the arguments of a command have given so far.
* `Given.read verb arguments` — the same after some more arguments.
* `Command`, `Request` — a command with its options, and whether to be quiet.
* `Request.ofArguments arguments` — what a whole command line asks for.
-/

namespace SchemaIntake

open Text

/-! ### Vocabulary -/

/-- The commands by name. -/
inductive Verb
  | check | tables | convert | parse
deriving DecidableEq, Repr

namespace Verb

def all : List Verb := [check, tables, convert, parse]

def name : Verb → Text
  | check => "check".toList
  | tables => "tables".toList
  | convert => "convert".toList
  | parse => "parse".toList

def ofName? (t : Text) : Option Verb := all.find? (·.name = t)

/-- Whether a command is about exactly one file. -/
def takesOneFile : Verb → Bool
  | check => false
  | tables => false
  | convert => true
  | parse => true

end Verb

inductive Switch
  | verbose | quiet | help | version
  | optimization | format | config | disable | failOnWarnings
deriving DecidableEq, Repr

namespace Switch

/-- The long name of an option. -/
def long : Switch → Text
  | verbose => "verbose".toList
  | quiet => "quiet".toList
  | help => "help".toList
  | version => "version".toList
  | optimization => "optimization".toList
  | format => "format".toList
  | config => "config".toList
  | disable => "disable".toList
  | failOnWarnings => "fail-on-warnings".toList

/-- The letter of an option, if it has one. -/
def letter? : Switch → Option Char
  | verbose => some 'v'
  | quiet => some 'q'
  | help => some 'h'
  | version => some 'V'
  | optimization => some 'o'
  | format => some 'f'
  | config => some 'c'
  | disable => none
  | failOnWarnings => none

def takesValue : Switch → Bool
  | optimization => true
  | format => true
  | config => true
  | disable => true
  | _ => false

/-- The options that may stand anywhere. -/
def everywhere : List Switch := [verbose, quiet, help, version]

def ofVerb : Verb → List Switch
  | .check => everywhere ++ [optimization, format, config, disable, failOnWarnings]
  | .convert => everywhere ++ [optimization]
  | _ => everywhere

end Switch

/-- Why a command line is not carried out. -/
inductive Stop
  /-- It is wrong. -/
  | misuse
  | help
  | version
deriving DecidableEq, Repr

/-! ### Taking arguments -/

/-- What arguments have given so far. -/
structure Given where
  quiet : Bool
  /-- The files, as paths and patterns. -/
  files : List Text
  optimization : Option Text
  format : Option OutputFormat
  config : Option Text
  /-- The codes of the warnings that are not reported. -/
  disable : List Text
  failOnWarnings : Bool
deriving DecidableEq, Repr

namespace Given

def nothing : Given := ⟨false, [], none, none, none, [], false⟩

/-- With a file.  Some commands take one only, and its path must not be empty. -/
def addFile (verb : Verb) (g : Given) (path : Text) : Except Stop Given :=
  if path.isEmpty || (verb.takesOneFile && !g.files.isEmpty) then .error .misuse
  else .ok { g with files := g.files ++ [path] }

/-- With an option without value.  Only `verbose` may be repeated. -/
def flag (g : Given) : Switch → Except Stop Given
  | .verbose => .ok g
  | .quiet => if g.quiet then .error .misuse else .ok { g with quiet := true }
  | .help => .error .help
  | .version => .error .version
  | .failOnWarnings =>
    if g.failOnWarnings then .error .misuse else .ok { g with failOnWarnings := true }
  | _ => .error .misuse

/-- With an option and its value.  Only `disable` may be repeated. -/
def value (g : Given) (t : Text) : Switch → Except Stop Given
  | .optimization =>
    if g.optimization.isSome then .error .misuse else .ok { g with optimization := some t }
  | .format =>
    match OutputFormat.ofName? t with
    | some format =>
      if g.format.isSome then .error .misuse else .ok { g with format := some format }
    | none => .error .misuse
  | .config =>
    if g.config.isSome || t.isEmpty then .error .misuse else .ok { g with config := some t }
  | .disable => .ok { g with disable := g.disable ++ [t] }
  | _ => .error .misuse

/-- A long option as it is written: its name, and the value behind an equals sign. -/
def long? : Text → Option (Text × Option Text)
  | '-' :: '-' :: t => some (t.takeWhile (· ≠ '='), afterFirst? '=' t)
  | _ => none

/-- Some letters behind one dash as they are written. -/
def letters? : Text → Option Text
  | '-' :: c :: t => some (c :: t)
  | _ => none

/-- With the options of some letters.  The first one that takes a value takes the rest for it,
behind an equals sign or not; if there is no rest, it waits for the next argument. -/
def readLetters (known : List Switch) (g : Given) : Text → Except Stop (Given × Option Switch)
  | [] => .ok (g, none)
  | c :: rest =>
    match known.find? (·.letter? = some c) with
    | none => .error .misuse
    | some s =>
      if !s.takesValue then (g.flag s).bind fun g => readLetters known g rest
      else
        match rest with
        | [] => .ok (g, some s)
        | '=' :: t => (g.value t s).map fun g => (g, none)
        | t => (g.value t s).map fun g => (g, none)

/-- Whether an argument can be the value of the option before it: all can that do not look like
options themselves. -/
def isValue (t : Text) : Bool := (letters? t).isNone

/-- With the option that an argument writes, if it is one, and the option that waits for the
next argument. -/
def readOption? (known : List Switch) (g : Given) (t : Text) :
    Option (Except Stop (Given × Option Switch)) :=
  match long? t with
  | some (name, value) =>
    some <|
      match known.find? (·.long = name), value with
      | none, _ => .error .misuse
      | some s, none => if s.takesValue then .ok (g, some s) else (g.flag s).map fun g => (g, none)
      | some s, some t =>
        if s.takesValue then (g.value t s).map fun g => (g, none) else .error .misuse
  | none => (letters? t).map (readLetters known g)

/-- With all arguments of a command.  After two dashes every argument is a file. -/
def read (verb : Verb) (g : Given) : List Text → Except Stop Given
  | [] => .ok g
  | t :: rest =>
    if t = "--".toList then rest.foldlM (addFile verb) g
    else
      match readOption? (Switch.ofVerb verb) g t with
      | none => (g.addFile verb t).bind fun g => read verb g rest
      | some (.error stop) => .error stop
      | some (.ok (g, none)) => read verb g rest
      | some (.ok (g, some s)) =>
        match rest with
        | [] => .error .misuse
        | t :: rest =>
          if isValue t then (g.value t s).bind fun g => read verb g rest else .error .misuse

end Given

/-! ### Command lines -/

structure CheckOptions where
  /-- The files, as paths and patterns. -/
  files : List Text
  optimization : Option Text
  format : Option OutputFormat
  config : Option Text
  /-- The codes of the warnings that are not reported. -/
  disable : List Text
  failOnWarnings : Bool
deriving DecidableEq, Repr

inductive Command
  /-- Checks schema files. -/
  | check (options : CheckOptions)
  /-- Lists the tables in schema files. -/
  | tables (files : List Text)
  /-- Converts a schema file and prints the record. -/
  | convert (file : Text) (optimization : Option Text)
  /-- Prints what is found in each statement of a schema file. -/
  | parse (file : Text)
deriving DecidableEq, Repr

/-- The command that has been given; it must have the files it needs. -/
def Given.command (verb : Verb) (g : Given) : Except Stop Command :=
  match verb, g.files with
  | .check, files =>
    .ok (.check ⟨files, g.optimization, g.format, g.config, g.disable, g.failOnWarnings⟩)
  | .tables, file :: files => .ok (.tables (file :: files))
  | .convert, [file] => .ok (.convert file g.optimization)
  | .parse, [file] => .ok (.parse file)
  | _, _ => .error .misuse

/-- What a command line asks for. -/
structure Request where
  /-- Whether to print errors and warnings only. -/
  quiet : Bool
  /-- What to do. -/
  command : Command
deriving DecidableEq, Repr

namespace Request

/-- What the arguments after the word `help` ask for: help on at most one command. -/
def helpOn : List Text → Stop
  | [] => .help
  | [t] => if (Verb.ofName? t).isSome || t = "help".toList then .help else .misuse
  | _ => .misuse

/-- What a command line asks for when its first arguments have given something.  The first
argument that is not an option names the command. -/
def read (g : Given) : List Text → Except Stop Request
  | [] => .error .misuse
  | t :: rest =>
    if t = "--".toList then .error .misuse
    else
      match Given.readOption? Switch.everywhere g t with
      | some (.ok (g, none)) => read g rest
      | some (.ok (_, some _)) => .error .misuse
      | some (.error stop) => .error stop
      | none =>
        match Verb.ofName? t with
        | some verb => do
          let given ← Given.nothing.read verb rest
          let command ← given.command verb
          .ok ⟨g.quiet || given.quiet, command⟩
        | none => .error (if t = "help".toList then helpOn rest else .misuse)

/-- What a whole command line asks for. -/
def ofArguments (arguments : List Text) : Except Stop Request := read .nothing arguments

end Request

end SchemaIntake
