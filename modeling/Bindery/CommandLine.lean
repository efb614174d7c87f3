import Bindery.Link

/-!
# The command line

Options of the program, a command, and options of the command. An option is written `--name value`,
`--name=value`, `-n value`, `-nvalue` or `-n=value`; several options of one letter may share a dash.
A value is looked at when the next option is met or the arguments end, so of two mistakes an unknown
option is reported before the value that stands in front of it.
-/

namespace Bindery
namespace CommandLine

/-- Why arguments give no command to run: a mistake, or a request for help or the version. -/
inductive Refusal where
  | help
  | version
  | nothingGiven
  | missingCommand
  | unknownCommand
  | unknownOption
  | givenTwice
  | badValue
  | unwantedValue
deriving DecidableEq, Repr

/-- The exit status of the program. -/
def Refusal.status : Refusal → Nat
  | .help | .version => 0
  | _ => 2

/-- What an option does. -/
inductive Effect where
  | refuse (reason : Refusal)
  | mark
  | value (whenMissing : Option String) (accepts : String → Bool)

/-- An option. -/
structure Switch where
  name : String
  letter : Option Char
  effect : Effect

/-- What has been read of the options of one command: the values given so far, and an option whose
value is still open or not looked at yet. -/
structure Reading where
  given : List (String × String) := []
  pending : Option (Switch × Option String) := none

namespace Reading

/-- The value given for an option. -/
def value? (r : Reading) (name : String) : Option String :=
  (r.given.find? (·.1 = name)).map (·.2)

/-- Take in an option with its value. -/
def give (r : Reading) (name value : String) (accepts : String → Bool) :
    Except Refusal Reading :=
  if (r.value? name).isSome then .error .givenTwice
  else if accepts value then .ok { r with given := r.given ++ [(name, value)] }
  else .error .badValue

/-- Look at the option that is pending. -/
def settle (r : Reading) : Except Refusal Reading :=
  match r.pending with
  | none => .ok r
  | some (switch, written) =>
    let r := { r with pending := none }
    match switch.effect with
    | .value whenMissing accepts =>
      match written.or whenMissing with
      | some value => r.give switch.name value accepts
      | none => .error .badValue
    | _ => .ok r

/-- Whether the next argument may be the value of an option. -/
def awaitsValue (r : Reading) : Bool :=
  match r.pending with
  | some (_, none) => true
  | _ => false

/-- Meet an option, with a value that is attached to it. -/
def meet (r : Reading) (switch : Switch) (attached : Option String) : Except Refusal Reading :=
  match switch.effect, attached with
  | .value _ accepts, some value => do (← r.settle).give switch.name value accepts
  | .value _ _, none => do return { (← r.settle) with pending := some (switch, none) }
  | _, some _ => .error .unwantedValue
  | .refuse reason, none => do
    let _ ← r.settle
    throw reason
  | .mark, none => do (← r.settle).give switch.name "true" fun _ => true

end Reading

/-- The options and the commands that may stand at one place. -/
structure Level where
  switches : List Switch
  commands : List String := []

namespace Level

/-- Read an option written with its name. -/
def readLong (level : Level) (r : Reading) (written : List Char) : Except Refusal Reading :=
  let name := String.ofList (written.takeWhile (· ≠ '='))
  let attached := match written.dropWhile (· ≠ '=') with
    | [] => none
    | _ :: value => some (String.ofList value)
  match level.switches.find? (·.name = name) with
  | some switch => r.meet switch attached
  | none => .error .unknownOption

/-- Read options written with letters behind one dash. -/
def readLetters (level : Level) (r : Reading) : List Char → Except Refusal Reading
  | [] => .ok r
  | c :: rest =>
    match level.switches.find? (·.letter = some c) with
    | none => .error .unknownOption
    | some switch =>
      match switch.effect, rest with
      | .value _ _, [] => r.meet switch none
      | .value _ _, '=' :: value => r.meet switch (some (String.ofList value))
      | .value _ _, value => r.meet switch (some (String.ofList value))
      | _, _ => do readLetters level (← r.meet switch none) rest

/-- The mistake of an argument that belongs to nothing. -/
def stray (level : Level) : Refusal :=
  if level.commands.isEmpty then .unknownOption else .unknownCommand

/-- The mistake of an argument after `--`, behind which there are no options and no commands. -/
def strayBehindDashes (level : Level) (arg : String) : Refusal :=
  if level.commands.contains arg then .unknownOption else level.stray

/-- Read arguments up to a command, if there is one. -/
def read (level : Level) (r : Reading) :
    List String → Except Refusal (Reading × Option (String × List String))
  | [] => .ok (r, none)
  | arg :: rest =>
    if !r.awaitsValue && level.commands.contains arg then .ok (r, some (arg, rest))
    else
      match arg.toList with
      | ['-', '-'] =>
        match rest with
        | [] => .ok (r, none)
        | next :: _ => .error (level.strayBehindDashes next)
      | '-' :: '-' :: written => do read level (← level.readLong r written) rest
      | '-' :: c :: letters => do read level (← level.readLetters r (c :: letters)) rest
      | _ =>
        match r.pending with
        | some (switch, none) => read level { r with pending := some (switch, some arg) } rest
        | _ => .error level.stray

end Level

/-! ## The options of the program -/

/-- An option that takes the path of a file or folder. -/
def pathSwitch (name : String) (letter : Char) : Switch :=
  ⟨name, some letter, .value none (!·.isEmpty)⟩

/-- The option that asks for help. -/
def helpSwitch : Switch := ⟨"help", some 'h', .refuse .help⟩

/-- What may stand in front of the command. -/
def Level.program : Level where
  switches := [pathSwitch "root" 'r', pathSwitch "output" 'o', pathSwitch "content" 'c',
    pathSwitch "config" 'C', helpSwitch, ⟨"version", some 'V', .refuse .version⟩]
  commands := ["build", "watch", "help"]

/-- What may stand behind the command. -/
def Level.command : Level where
  switches := [⟨"clean", none, .mark⟩,
    ⟨"minify", some 'm', .value (some "true") fun v => v = "true" || v = "false"⟩, helpSwitch]

/-- The answer to the command that asks for help about another one. -/
def helpAbout : List String → Refusal
  | [] => .help
  | [name] => if Level.program.commands.contains name then .help else .unknownCommand
  | _ => .unknownCommand

end CommandLine

/-- What the program does. -/
inductive Command where
  | build
  | watch
deriving DecidableEq, Repr, Inhabited

/-- What the arguments of the program say. -/
structure CommandLine where
  root : Option String := none
  output : Option String := none
  content : Option String := none
  config : String := "quire.toml"
  command : Command := .build
  clean : Bool := false
  minify : Option Bool := none
deriving DecidableEq, Repr, Inhabited

namespace CommandLine

/-- Read the arguments of the program. -/
def parse (args : List String) : Except Refusal CommandLine := do
  let (outer, found) ← Level.program.read {} args
  match found with
  | some ("help", rest) => throw (helpAbout rest)
  | some (name, rest) =>
    let (inner, _) ← Level.command.read {} rest
    let inner ← inner.settle
    let outer ← outer.settle
    return {
      root := outer.value? "root"
      output := outer.value? "output"
      content := outer.value? "content"
      config := (outer.value? "config").getD "quire.toml"
      command := if name = "watch" then .watch else .build
      clean := (inner.value? "clean").isSome
      minify := (inner.value? "minify").map (· = "true") }
  | none =>
    let outer ← outer.settle
    throw (if outer.given.isEmpty then .nothingGiven else .missingCommand)

end CommandLine
end Bindery
