import XorOverlay.Console.Command
import XorOverlay.Console.Options
import XorOverlay.Node.Operation
import XorOverlay.Text.Utf8

/-!
The console program: a node that reads commands line by line until it is told to quit, its input
ends, or a line is not text.
-/

set_option autoImplicit false

namespace XorOverlay.Console

/-- What is printed in front of every line that is read. -/
def promptText : String := "> "

/-- The text shown for a command that is not known. -/
def helpText : String := "commands: get <key>, set <key>=<value>, delete <key>, quit\n"

/-- The text shown for a write that cannot be read. -/
def usageText : String := "usage: set <key>=<value>\n"

variable {ε : Type}

/-- The text shown for a write. -/
def writtenText (success : Bool) : String :=
  if success then "ok\n" else "failed\n"

/-- The text shown for a read. -/
def readText : Option Octets → String
  | some value => String.ofList (Text.Utf8.decodeLossy value) ++ "\n"
  | none => "(not found)\n"

/-- Carries a command out and answers with what is shown. There is no answer if the command breaks
off, for it asks for more contacts than there is room for. -/
def execute (carrier : Carrier ε) (command : Command) (scene : Scene ε) :
    Option String × Scene ε :=
  match command with
  | .get key =>
    let (value, scene) := scene.get? carrier (String.ofList key)
    (value.map readText, scene)
  | .set key value =>
    let (success, scene) :=
      scene.set? carrier (String.ofList key) (String.ofList value).toUTF8.data.toList
    (success.map writtenText, scene)
  | .delete key =>
    let (success, scene) := scene.delete? carrier (String.ofList key)
    (success.map writtenText, scene)
  | .malformedSet => (some usageText, scene)
  | .quit => (some "", scene)
  | .nothing => (some "", scene)
  | .unknown => (some helpText, scene)

/-- The exit code of a program that was told to stop. -/
def quitCode : UInt32 := 0

/-- The exit code of a failure at run time. -/
def failureCode : UInt32 := 1

/-- The exit code of a command line that cannot be understood. -/
def misuseCode : UInt32 := 2

/-- The exit code of a program that runs out of room. -/
def exhaustionCode : UInt32 := 101

/-- What the machine offers that a program runs on. -/
structure Machine where
  listens : UInt32 → Bool
  /-- How many contacts there is room to gather at once, if that is limited. -/
  room : Option Nat

/-- How a program begins. -/
inductive Beginning where
  | leave (code : UInt32)
  | listen (host : UInt32) (options : Options)

def begin (machine : Machine) (arguments : List String) : Beginning :=
  match Options.read arguments with
  | .misuse => .leave misuseCode
  | .inform => .leave quitCode
  | .start options =>
    match options.interface.getD (.v4 Settings.default.interface) with
    | .v6 => .leave failureCode
    | .v4 host => if machine.listens host then .listen host options else .leave failureCode

/-- What a line leads to. -/
inductive Reaction where
  | leave (code : UInt32)
  | carryOut (command : Command)
  deriving DecidableEq

/-- Takes a line in; one that is not text ends the program. -/
def react (line : Octets) : Reaction :=
  match Text.Utf8.decode? line with
  | none => .leave failureCode
  | some text =>
    match Command.ofLine text with
    | .quit => .leave quitCode
    | command => .carryOut command

/-- The node of a program, named `id`. -/
def node (machine : Machine) (options : Options) (id : Ident) (endpoint : Endpoint)
    (now : Nanoseconds) : Node :=
  Node.start { options.settings with room := machine.room } id endpoint options.store now

def banner (node : Node) : String :=
  "Listening as " ++ node.contact.text

/-- Joins through the seeds and says how many contacts were found. -/
def join (carrier : Carrier ε) (seeds : List Endpoint) (scene : Scene ε) : String × Scene ε :=
  let (found, scene) := scene.bootstrap carrier seeds
  ("Bootstrapped with " ++ toString found.length ++ " nodes\n", scene)

/-- What a program leaves behind: the line it introduces itself with, what else it prints, and its
exit code. -/
structure Transcript where
  banner : Option String
  output : String
  code : UInt32
  deriving DecidableEq

/-- Reads lines until the end. A carriage return at the end of a line is a blank like any other. -/
def readLines (carrier : Carrier ε) : List Octets → Scene ε → String × UInt32
  | [], _ => (promptText, quitCode)
  | line :: rest, scene =>
    match react line with
    | .leave code => (promptText, code)
    | .carryOut command =>
      match execute carrier command scene with
      | (none, _) => (promptText, exhaustionCode)
      | (some shown, scene) =>
        let (output, code) := readLines carrier rest (scene.settle carrier)
        (promptText ++ shown ++ output, code)

/-- The lines of an input. A last line without its end counts if it has any bytes. -/
def inputLines : Octets → List Octets
  | [] => []
  | byte :: rest =>
    if byte = 10 then [] :: inputLines rest
    else match inputLines rest with
      | [] => [[byte]]
      | line :: lines => (byte :: line) :: lines

/-- Runs the program on a whole input, among surroundings reached by `carrier`. -/
def run (machine : Machine) (carrier : Carrier ε) (id : Ident) (now : Nanoseconds)
    (outside : ε) (arguments : List String) (input : Octets) : Transcript :=
  match begin machine arguments with
  | .leave code => ⟨none, "", code⟩
  | .listen host options =>
    let node := node machine options id (.v4 host options.settings.port) now
    let alone : Scene ε := ⟨node, now, outside⟩
    let (greeting, scene) :=
      if options.seeds.isEmpty then ("", alone)
      else
        let (greeting, scene) := join carrier options.seedEndpoints alone
        (greeting, scene.settle carrier)
    let (output, code) := readLines carrier (inputLines input) scene
    ⟨some (banner node), greeting ++ output, code⟩

end XorOverlay.Console
