import Std.Async.DNS
import Std.Async.UDP
import XorOverlay.Console.Program
import XorOverlay.Exchange.Live

/-!
The command line program: a node on a UDP socket that reads commands from standard input. While no
command is carried out it answers the requests of its peers, and refreshes itself once an interval.
-/

set_option autoImplicit false

namespace XorOverlay

open Std.Async Std.Net

def hostOfAddress (address : IPv4Addr) : UInt32 :=
  UInt32.ofNat (Octets.value address.octets.toList)

def addressOfHost (host : UInt32) : IPv4Addr :=
  IPv4Addr.ofParts (host >>> 24).toUInt8 (host >>> 16).toUInt8 (host >>> 8).toUInt8 host.toUInt8

def endpointOfAddress? : SocketAddress → Option Endpoint
  | .v4 address => some (.v4 (hostOfAddress address.addr) address.port)
  | .v6 _ => none

def addressOfEndpoint? : Endpoint → Option SocketAddress
  | .v4 host port => some (.v4 ⟨addressOfHost host, port⟩)
  | .other _ => none

/-- The machine the program runs on: whether a host can be listened on shows when its socket is
bound, and there is all the room the program may need. -/
def hostMachine : Console.Machine :=
  ⟨fun _ => true, none⟩

/-- A node on its socket. -/
structure Station where
  socket : UDP.Socket
  awaited : IO.Ref (AsyncTask (ByteArray × Option SocketAddress))
  node : IO.Ref Node
  /-- When the node was last refreshed. -/
  refreshed : IO.Ref Nanoseconds

namespace Station

def await (socket : UDP.Socket) : IO (AsyncTask (ByteArray × Option SocketAddress)) :=
  (socket.recv (UInt64.ofNat Datagram.maxLength)).toIO

def randomOctets (count : Nat) : IO Octets := do
  return (← IO.getRandomBytes (USize.ofNat count)).data.toList

/-- Binds a socket and starts a node on it, under a random name. -/
def start (host : UInt32) (options : Console.Options) : IO Station := do
  let socket ← UDP.Socket.mk
  socket.bind (.v4 ⟨addressOfHost host, options.settings.port⟩)
  let bound ← socket.getSockName
  let endpoint := (endpointOfAddress? bound).getD (.v4 host options.settings.port)
  let id := Ident.ofNat (Octets.value (← randomOctets Ident.byteCount))
  let tag := UInt32.ofNat (Octets.value (← randomOctets 4))
  let now ← IO.monoNanosNow
  let node := { Console.node hostMachine options id endpoint now with lastTag := tag }
  return ⟨socket, ← IO.mkRef (← await socket), ← IO.mkRef node, ← IO.mkRef now⟩

/-- The next datagram, if one is there. -/
def poll (station : Station) : IO (Option (Endpoint × Octets)) := do
  let awaited ← station.awaited.get
  if ← IO.hasFinished awaited then
    station.awaited.set (← await station.socket)
    match awaited.get with
    | .ok (data, some address) =>
      return (endpointOfAddress? address).map fun source => (source, data.data.toList)
    | _ => return none
  else return none

/-- Sends a datagram, and says why if it could not be sent. -/
def send (dest : Endpoint) (packet : Octets) (station : Station) : IO (Option String) := do
  match addressOfEndpoint? dest with
  | none => return some (dest.text ++ " is no IPv4 endpoint")
  | some address =>
    try
      (station.socket.send ⟨packet.toArray⟩ (some address)).block
      return none
    catch problem => return some (toString problem)

/-- Waits until the response to a request is there or the time is up, and answers the requests that
arrive meanwhile. -/
partial def listen (want : Live.Want) (started : Nanoseconds) (arrivals : List Live.Arrival)
    (station : Station) : IO Live.Passage := do
  let after := (← IO.monoNanosNow) - started
  match ← station.poll with
  | some (source, packet) =>
    let arrival : Live.Arrival := ⟨after, source, packet⟩
    let arrivals := arrivals ++ [arrival]
    if (Live.responseTo? want.request.tag packet).isSome then return .waited arrivals after
    let (reply, want) := want.answer arrival
    if let some reply := reply then discard (station.send source reply)
    station.listen want started arrivals
  | none =>
    if Settings.default.timeout ≤ after then return .waited arrivals after
    IO.sleep 1
    station.listen want started arrivals

/-- Sends what an operation wants and takes down what becomes of it. -/
def exchange (want : Live.Want) (station : Station) : IO Live.Passage := do
  match ← station.send want.dest want.packet with
  | some reason => return .refused reason
  | none => station.listen want (← IO.monoNanosNow) []

partial def perform {α : Type}
    (operation : Carrier Live.Course → Scene Live.Course → α × Scene Live.Course)
    (station : Station) : IO α := do
  let node ← station.node.get
  let now ← IO.monoNanosNow
  let rec proceed (passages : List Live.Passage) : IO α := do
    match Live.attempt operation passages node now with
    | .ok (answer, changed) =>
      station.node.set changed
      return answer
    | .error want => proceed (passages ++ [← station.exchange want])
  proceed []

def settle (station : Station) : IO Unit :=
  station.perform fun carrier scene => ((), scene.settle carrier)

def refresh (station : Station) : IO Unit := do
  let seed ← randomOctets Ident.byteCount
  station.perform fun carrier scene => ((), scene.refresh carrier (Live.draw seed))
  station.settle
  station.refreshed.set (← IO.monoNanosNow)

/-- Answers one datagram, or else refreshes the node if that is due, or else rests a little. -/
def attend (station : Station) : IO Unit := do
  let now ← IO.monoNanosNow
  match ← station.poll with
  | some (source, packet) =>
    let (reply, scene) := Datagram.answer source packet
      ({ node := ← station.node.get, clock := now, outside := () } : Scene Unit)
    station.node.set scene.node
    if let some reply := reply then discard (station.send source reply)
    station.settle
  | none =>
    if Settings.default.refreshInterval ≤ now - (← station.refreshed.get) then station.refresh
    else IO.sleep 1

partial def attendUntil {α : Type} (task : Task (Except IO.Error α)) (station : Station) :
    IO α := do
  if ← IO.hasFinished task then IO.ofExcept task.get
  else
    station.attend
    station.attendUntil task

end Station

/-- The endpoints of a seed, whose host may be a name. -/
def resolveSeed (seed : String) : IO (List Endpoint) := do
  match Endpoint.v4? seed, Console.Options.namedSeed? seed with
  | some endpoint, _ => return [endpoint]
  | none, none => return []
  | none, some (name, port) =>
    try
      let addresses ← (DNS.getAddrInfo name (toString port.toNat) (some .ipv4)).block
      return (addresses.toList.filterMap fun address =>
        match address with
        | .v4 address => some (Endpoint.v4 (hostOfAddress address) port)
        | .v6 _ => none).eraseDups
    catch _ => return []

/-- Reads the rest of a line, byte by byte; at the end of the input there is none. -/
partial def readLine (input : IO.FS.Stream) (begun : Octets) : IO (Option Octets) := do
  match (← input.read 1).data.toList with
  | [] => return if begun.isEmpty then none else some begun.reverse
  | byte :: _ =>
    if byte = 10 then return some begun.reverse
    else readLine input (byte :: begun)

/-- Reads commands and carries them out until told to stop. -/
partial def converse (input output : IO.FS.Stream) (station : Station) : IO UInt32 := do
  output.putStr Console.promptText
  output.flush
  let reading ← IO.asTask (readLine input []) Task.Priority.dedicated
  match ← station.attendUntil reading with
  | none => return Console.quitCode
  | some line =>
    match Console.react line with
    | .leave code => return code
    | .carryOut command =>
      match ← station.perform fun carrier scene => Console.execute carrier command scene with
      | none => return Console.exhaustionCode
      | some shown =>
        output.putStr shown
        output.flush
        station.settle
        converse input output station

/-- Starts a node, joins through the seeds, and reads commands. -/
def runProgram (host : UInt32) (options : Console.Options) : IO UInt32 := do
  let station ← Station.start host options
  let output ← IO.getStdout
  output.putStrLn (Console.banner (← station.node.get))
  output.flush
  if !options.seeds.isEmpty then
    let seeds := (← options.seeds.mapM resolveSeed).flatten
    output.putStr (← station.perform fun carrier scene => Console.join carrier seeds scene)
    station.settle
  converse (← IO.getStdin) output station

end XorOverlay

/-- Runs the program. A failure at run time is reported on standard error. -/
def main (arguments : List String) : IO UInt32 := do
  match XorOverlay.Console.begin XorOverlay.hostMachine arguments with
  | .leave code => return code
  | .listen host options =>
    try XorOverlay.runProgram host options
    catch problem =>
      IO.eprintln (toString problem)
      return XorOverlay.Console.failureCode
