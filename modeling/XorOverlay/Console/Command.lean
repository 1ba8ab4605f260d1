import XorOverlay.Text.Blank

/-!
The commands of the console. A line is a command word and, behind the first space, its argument;
blanks around the line and around the argument do not count. The argument of a write is cut once
more, at its first equals sign.
-/

set_option autoImplicit false

namespace XorOverlay.Console

/-- What a line asks for. -/
inductive Command where
  | get (key : List Char)
  | set (key value : List Char)
  | delete (key : List Char)
  /-- A write without a key or without an equals sign. -/
  | malformedSet
  | quit
  | nothing
  | unknown
  deriving DecidableEq

namespace Command

/-- The command word of a trimmed line, and its argument. -/
def words (line : List Char) : List Char × List Char :=
  match Text.splitOnce ' ' line with
  | some (word, argument) => (word, Text.trim argument)
  | none => (line, [])

def ofAssignment (argument : List Char) : Command :=
  match Text.splitOnce '=' argument with
  | some (key, value) => if key.isEmpty then .malformedSet else .set key value
  | none => .malformedSet

def ofLine (line : List Char) : Command :=
  let (word, argument) := words (Text.trim line)
  match String.ofList word with
  | "get" => if argument.isEmpty then .unknown else .get argument
  | "set" => ofAssignment argument
  | "delete" => if argument.isEmpty then .unknown else .delete argument
  | "quit" => .quit
  | "exit" => .quit
  | "" => .nothing
  | _ => .unknown

end Command
end XorOverlay.Console
