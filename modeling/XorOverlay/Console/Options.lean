import XorOverlay.Settings

/-!
The options of the command line. Each option has one value, given behind it or behind an equals
sign; only the seeds may be given more than once.
-/

set_option autoImplicit false

namespace XorOverlay.Console

/-- The host to listen on, as far as it matters: only IPv4 hosts can be listened on. -/
inductive Interface where
  | v4 (host : UInt32)
  | v6
  deriving DecidableEq

/-- The options that were given. -/
structure Options where
  port : Option Nat
  interface : Option Interface
  seeds : List String
  width : Option Nat
  parallelism : Option Nat
  cacheCapacity : Option Nat
  logLevel : Option String
  deriving DecidableEq

namespace Options

def none : Options :=
  ⟨.none, .none, [], .none, .none, .none, .none⟩

/-- Reads a decimal number below a bound; a plus sign may precede it. -/
def numberBelow? (bound : Nat) (text : String) : Option Nat :=
  let digits := match text.toList with
    | '+' :: rest => rest
    | digits => digits
  (Endpoint.decimal? digits).filter (· < bound)

/-- Counts are below this, the size of a word of 64 bits. -/
def countLimit : Nat := 18446744073709551616

/-- The groups of part of an IPv6 host; the last may be an IPv4 host, which counts twice. -/
def groupCount? (hostAllowed : Bool) (text : List Char) : Option Nat :=
  if text.isEmpty then some 0
  else
    let groups := Endpoint.pieces ':' text
    let isGroup := fun (group : List Char) =>
      !group.isEmpty && decide (group.length ≤ 4) &&
        group.all fun c => (Octets.nibble? c).isSome
    let isHost := fun (group : List Char) => hostAllowed && (Endpoint.host? group).isSome
    if groups.dropLast.all isGroup then
      match groups.getLast? with
      | some last =>
        if isGroup last then some groups.length
        else if isHost last then some (groups.length + 1)
        else .none
      | .none => .none
    else .none

def splitAtGap : List Char → Option (List Char × List Char)
  | ':' :: ':' :: rest => some ([], rest)
  | c :: rest => (splitAtGap rest).map fun parts => (c :: parts.1, parts.2)
  | [] => .none

/-- Whether a text is an IPv6 host: eight groups, or fewer around one double colon. -/
def isHost6 (text : List Char) : Bool :=
  match splitAtGap text with
  | some (head, tail) =>
    match groupCount? false head, groupCount? true tail with
    | some left, some right => decide (left + right ≤ 7)
    | _, _ => false
  | .none => groupCount? true text == some 8

def interface? (text : String) : Option Interface :=
  match Endpoint.host? text.toList with
  | some host => some (.v4 host)
  | .none => if isHost6 text.toList then some .v6 else .none

/-- The names of the log levels, in any case. -/
def isLogLevel (text : String) : Bool :=
  ["off", "error", "warn", "info", "debug", "trace"].contains
    (String.ofList (text.toList.map Char.toLower))

def fill {α : Type} (old : Option α) (new : Option α) : Option (Option α) :=
  match old, new with
  | .none, some value => some (some value)
  | _, _ => .none

/-- Takes one option in. Unknown options, unreadable values and repetitions are refused. -/
def accept (name value : String) (options : Options) : Option Options :=
  match name with
  | "--port" => (fill options.port (numberBelow? 65536 value)).map
      fun port => { options with port := port }
  | "--interface" => (fill options.interface (interface? value)).map
      fun interface => { options with interface := interface }
  | "--bootstrap" => some { options with
      seeds := options.seeds ++ (Endpoint.pieces ',' value.toList).map String.ofList }
  | "--ksize" => (fill options.width (numberBelow? countLimit value)).map
      fun width => { options with width := width }
  | "--alpha" => (fill options.parallelism (numberBelow? countLimit value)).map
      fun parallelism => { options with parallelism := parallelism }
  | "--arc-capacity" => (fill options.cacheCapacity (numberBelow? countLimit value)).map
      fun capacity => { options with cacheCapacity := capacity }
  | "--log-level" =>
      (fill options.logLevel (if isLogLevel value then some value else .none)).map
        fun level => { options with logLevel := level }
  | _ => .none

/-- Whether a word can only be an option: it begins with a dash and goes on. -/
def isOption (word : String) : Bool :=
  match word.toList with
  | '-' :: _ :: _ => true
  | _ => false

def assignment? (word : String) : Option (String × String) :=
  let text := word.toList
  if text.contains '=' then
    some (String.ofList (text.takeWhile fun c => c != '='),
      String.ofList ((text.dropWhile fun c => c != '=').drop 1))
  else .none

/-- What a command line asks for. -/
inductive Invocation where
  | start (options : Options)
  | inform
  | misuse

def readWords : List String → Options → Invocation
  | [], options => .start options
  | ["--"], options => .start options
  | "--help" :: _, _ => .inform
  | "-h" :: _, _ => .inform
  | "--version" :: _, _ => .inform
  | "-V" :: _, _ => .inform
  | word :: rest, options =>
    match assignment? word with
    | some (name, value) =>
      match options.accept name value with
      | some options => readWords rest options
      | .none => .misuse
    | .none =>
      match rest with
      | [] => .misuse
      | value :: rest =>
        if isOption value then .misuse
        else
          match options.accept word value with
          | some options => readWords rest options
          | .none => .misuse

def read (words : List String) : Invocation :=
  readWords words Options.none

/-- The settings of the node; what was not given has its usual value. -/
def settings (options : Options) : Settings :=
  { Settings.default with
    port := UInt16.ofNat (options.port.getD Settings.default.port.toNat)
    width := options.width.getD Settings.default.width
    parallelism := options.parallelism.getD Settings.default.parallelism }

/-- The store of the node: a cache if a capacity was given. -/
def store (options : Options) : Store :=
  match options.cacheCapacity with
  | some capacity => .adaptive (Adaptive.empty capacity)
  | .none => .expiring (Expiring.empty Settings.default.lifetime)

/-- The host name and the port of a seed whose host has to be looked up: the text in front of the
last colon, and the number behind it. -/
def namedSeed? (seed : String) : Option (String × UInt16) :=
  match (Endpoint.pieces ':' seed.toList).reverse with
  | port :: name :: more => do
    let number ← numberBelow? 65536 (String.ofList port)
    return (String.ofList (List.intercalate [':'] (name :: more).reverse), UInt16.ofNat number)
  | _ => .none

/-- The seeds that are IPv4 endpoints, the only ones that can be asked. -/
def seedEndpoints (options : Options) : List Endpoint :=
  options.seeds.filterMap Endpoint.v4?

end Options
end XorOverlay.Console
