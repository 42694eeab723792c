/-
  ClusterBoot.CommandLine
  ────────────────────────────────
  **THE COMMAND LINE.**

  `kubernetes build` and `kubernetes show` are the commands.  An option has
  its value behind an equals sign, behind its letter, or in the next word.
  A value in the next word is only looked at when the word after it is, so
  an option that is not known is reported before a value that is wrong.
-/
import ClusterBoot.Text.Pieces

namespace ClusterBoot

/-! ## §1. Commands. -/

/-- A command. -/
inductive Command where
  /-- Build the cluster part of an image. -/
  | build (definition configDir output : String) (skipArtefacts : Bool)
  /-- Show what a build would make. -/
  | inspect (definition configDir : String)
  deriving Repr, DecidableEq

/-- Why the words of a command line are not carried out. -/
inductive Usage where
  /-- Help is asked for. -/
  | help
  /-- The version is asked for. -/
  | version
  /-- A command is missing. -/
  | noCommand
  /-- A word stands for no command. -/
  | unknownCommand
  /-- A word or option is not expected. -/
  | unknownArgument
  /-- An option that is needed is missing. -/
  | missingArgument
  /-- An option has no value. -/
  | invalidValue
  /-- An option is given twice. -/
  | conflict
  /-- A value is given to what takes none. -/
  | tooManyValues
  deriving Repr, DecidableEq

namespace CommandLine

/-! ## §2. Words. -/

/-- What a word of the command line looks like. -/
inductive Word where
  /-- Two hyphens: no options follow. -/
  | escape
  /-- An option by its name, with a value behind an equals sign. -/
  | long (name : String) (value : Option String)
  /-- An option by its letter, with what follows the letter. -/
  | short (letter : Char) (rest : List Char)
  /-- Anything else. -/
  | plain (text : String)
  deriving Repr, DecidableEq

/-- Look at a word. -/
def Word.ofText (s : String) : Word :=
  match s.toList with
  | ['-', '-'] => escape
  | '-' :: '-' :: r =>
      let name := String.ofList (r.takeWhile (· ≠ '='))
      match r.dropWhile (· ≠ '=') with
      | _ :: v => long name (some (String.ofList v))
      | [] => long name none
  | '-' :: c :: r => short c r
  | _ => plain s

/-! ## §3. Options. -/

/-- An option with a value. -/
inductive Opt where
  | definition
  | configDir
  | output
  deriving Repr, DecidableEq

/-- The commands that have options. -/
inductive Verb where
  | build
  | inspect
  deriving Repr, DecidableEq

namespace Verb

/-- The option of a command with a name. -/
def long? : Verb → String → Option Opt
  | _, "definition" => some .definition
  | _, "config-dir" => some .configDir
  | build, "output" => some .output
  | _, _ => none

/-- The option of a command with a letter. -/
def short? : Verb → Char → Option Opt
  | _, 'd' => some .definition
  | _, 'c' => some .configDir
  | build, 'o' => some .output
  | _, _ => none

/-- Whether a command has the flag that skips downloads. -/
def hasSkip : Verb → Bool
  | build => true
  | inspect => false

end Verb

/-- Options that were read. -/
structure Given where
  /-- The values of options. -/
  values : List (Opt × String)
  /-- Whether downloads are skipped. -/
  skip : Bool
  /-- An option whose value is not looked at yet, and its value if it has
  come. -/
  pending : Option (Opt × Option String)

namespace Given

/-- Nothing read yet. -/
def empty : Given := ⟨[], false, none⟩

/-- Give a value to an option. -/
def set (o : Opt) (value : String) (g : Given) : Except Usage Given :=
  if (g.values.lookup o).isSome then .error .conflict
  else if value = "" then .error .invalidValue
  else .ok { g with values := (o, value) :: g.values }

/-- Look at the value of the pending option. -/
def settle (g : Given) : Except Usage Given :=
  match g.pending with
  | none => .ok g
  | some (_, none) => .error .invalidValue
  | some (o, some value) => { g with pending := none }.set o value

/-- Read an option, whose value may be there already. -/
def take (o : Opt) (value : Option String) (g : Given) : Except Usage Given := do
  let g ← g.settle
  match value with
  | some v => g.set o v
  | none => return { g with pending := some (o, none) }

/-- Read the flag that skips downloads. -/
def takeSkip (g : Given) : Except Usage Given := do
  let g ← g.settle
  if g.skip then .error .conflict else return { g with skip := true }

/-- Read the request for help. -/
def takeHelp (g : Given) : Except Usage Given := do
  let _ ← g.settle
  .error .help

/-- Read an option by its name. -/
def takeLong (verb : Verb) (name : String) (value : Option String) (g : Given) :
    Except Usage Given :=
  match verb.long? name with
  | some o => g.take o value
  | none =>
      if name = "help" then
        if value.isSome then .error .tooManyValues else g.takeHelp
      else if verb.hasSkip && name = "skip-artefacts" then
        if value.isSome then .error .tooManyValues else g.takeSkip
      else .error .unknownArgument

/-- The value that follows a letter, after an equals sign if there is one. -/
def attached? : List Char → Option String
  | [] => none
  | '=' :: r => some (String.ofList r)
  | r => some (String.ofList r)

/-- Read an option by its letter. -/
def takeShort (verb : Verb) (letter : Char) (rest : List Char) (g : Given) : Except Usage Given :=
  match verb.short? letter with
  | some o => g.take o (attached? rest)
  | none => if letter = 'h' then g.takeHelp else .error .unknownArgument

/-- Read a word that is no option: the value of the pending one. -/
def takePlain (text : String) (g : Given) : Except Usage Given :=
  match g.pending with
  | some (o, none) => .ok { g with pending := some (o, some text) }
  | _ => .error .unknownArgument

/-- Read the words of a command. -/
def takeAll (verb : Verb) : List String → Given → Except Usage Given
  | [], g => g.settle
  | w :: ws, g =>
      match Word.ofText w with
      | .escape => if ws.isEmpty then g.settle else .error .unknownArgument
      | .long name value => do takeAll verb ws (← g.takeLong verb name value)
      | .short letter rest => do takeAll verb ws (← g.takeShort verb letter rest)
      | .plain text => do takeAll verb ws (← g.takePlain text)

/-- The value of an option that is needed. -/
def required (o : Opt) (g : Given) : Except Usage String :=
  match g.values.lookup o with
  | some v => .ok v
  | none => .error .missingArgument

/-- The command that options make. -/
def toCommand (verb : Verb) (g : Given) : Except Usage Command := do
  let definition ← g.required .definition
  let configDir ← g.required .configDir
  match verb with
  | .build => return .build definition configDir (← g.required .output) g.skip
  | .inspect => return .inspect definition configDir

end Given

/-! ## §4. The levels of commands. -/

/-- The commands below another, with the levels below them. -/
inductive Level where
  /-- The whole program. -/
  | top
  /-- Below `kubernetes`. -/
  | kubernetes
  /-- Below a command that has options. -/
  | verb (v : Verb)
  /-- Below the request for help. -/
  | help
  deriving Repr, DecidableEq

/-- The level below a level that a word names. -/
def Level.below? : Level → String → Option Level
  | top, "kubernetes" => some kubernetes
  | kubernetes, "build" => some (verb .build)
  | kubernetes, "show" => some (verb .inspect)
  | top, "help" => some help
  | kubernetes, "help" => some help
  | _, _ => none

/-- What is said to a request for help on the command that words name. -/
def helpOn : Level → List String → Usage
  | _, [] => .help
  | level, w :: ws =>
      match level.below? w with
      | some next => helpOn next ws
      | none => .unknownCommand

/-- What an option at a level above the commands asks for. -/
def requestAt (level : Level) : Word → Usage
  | .long "help" value => if value.isSome then .tooManyValues else .help
  | .short 'h' _ => .help
  | .long "version" value =>
      if level ≠ .top then .unknownArgument
      else if value.isSome then .tooManyValues
      else .version
  | .short 'V' _ => if level = .top then .version else .unknownArgument
  | _ => .unknownArgument

/-- What is said to the words after two hyphens at a level above the
commands. -/
def afterEscape (level : Level) : List String → Usage
  | [] => .noCommand
  | w :: _ => if (level.below? w).isSome then .unknownArgument else .unknownCommand

/-- Read the words at a level. -/
def readAt : Level → List String → Except Usage Command
  | .verb v, ws => do (← Given.empty.takeAll v ws).toCommand v
  | .help, _ => .error .help
  | _, [] => .error .noCommand
  | level, w :: ws =>
      match Word.ofText w with
      | .escape => .error (afterEscape level ws)
      | .plain text =>
          match level.below? text with
          | some .help => .error (helpOn level ws)
          | some next => readAt next ws
          | none => .error .unknownCommand
      | option => .error (requestAt level option)

/-- The command that the words of a command line make. -/
def read (words : List String) : Except Usage Command :=
  readAt .top words

end CommandLine

end ClusterBoot
