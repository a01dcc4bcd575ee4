import AtomicKv.Address
import AtomicKv.CommandLine
import AtomicKv.Fault.System
import Std.Async.DNS
import Std.Async.TCP
import Std.Async.Timer

/-!
# The program

Runs the command line over TCP. Sockets, name lookup, clocks and the standard streams are
here and nowhere else.
-/
namespace AtomicKv.Main

open Std.Async

/-- An error number as a magnitude: a socket operation reports it negated. -/
def magnitude (code : UInt32) : Nat :=
  code.toInt32.toInt.natAbs

def code? : IO.Error → Option Nat
  | .alreadyExists _ code _ | .otherError code _ | .resourceBusy code _
  | .resourceVanished code _ | .unsupportedOperation code _ | .hardwareFault code _
  | .unsatisfiedConstraints code _ | .illegalOperation code _ | .protocolError code _
  | .timeExpired code _ | .interrupted _ code _ | .noFileOrDirectory _ code _
  | .invalidArgument _ code _ | .permissionDenied _ code _ | .resourceExhausted _ code _
  | .inappropriateType _ code _ | .noSuchThing _ code _ => some (magnitude code)
  | .unexpectedEof | .userError _ => none

def faultOf (e : IO.Error) : Fault :=
  match code? e with
  | some code => .ofSystem code
  | none => ⟨.other, toString e⟩

def within {α : Type} (wait : Option UInt64) (action : Async α) : Async (Option α) :=
  match wait with
  | none => return some (← action)
  | some ms =>
    Async.race (some <$> action) (do
      sleep (.ofNat ms.toNat)
      return none)

/-- A connected socket with the bounds on its waits. -/
structure Link where
  socket : TCP.Socket.Client
  readTimeout : Option UInt64
  writeTimeout : Option UInt64

/-- The addresses a host stands for; one written in numbers is not looked up. -/
def resolve (host : String) : Async (Array Std.Net.IPAddr) :=
  match Address.numeric? host with
  | some n =>
    let byte (place : Nat) : UInt8 := UInt8.ofNat (n >>> (8 * place))
    return #[.v4 (.ofParts (byte 3) (byte 2) (byte 1) (byte 0))]
  | none => DNS.getAddrInfo host ""

def withPort (port : UInt16) : Std.Net.IPAddr → Std.Net.SocketAddress
  | .v4 addr => .v4 ⟨addr, port⟩
  | .v6 addr => .v6 ⟨addr, port⟩

/-- Connects to the first address that accepts; fails with the fault of the last one. -/
def connectAny (p : Policy) (last : Fault) : List Std.Net.SocketAddress → IO (Except Fault Link)
  | [] => return .error last
  | address :: rest => do
    let outcome : Except Fault Link ← try
        let socket ← TCP.Socket.Client.mk
        match ← (within (bound? p.connectTimeoutMs) (socket.connect address)).block with
        | none => pure (.error ⟨.timedOut, "connection timed out"⟩)
        | some _ =>
          socket.noDelay
          pure (.ok ⟨socket, bound? p.readTimeoutMs, bound? p.writeTimeoutMs⟩)
      catch e => pure (.error (faultOf e))
    match outcome with
    | .ok link => return .ok link
    | .error f => connectAny p f rest

def attempt (p : Policy) (node : String) : IO (Except Fault Link) :=
  match Address.parse node with
  | .error f => return .error f
  | .ok address => do
    let found ← try (resolve address.host).block catch _ => pure #[]
    if found.isEmpty then return .error Address.unknownHost
    connectAny p ⟨.addrNotAvailable, node ++ " did not resolve to any address"⟩
      (found.toList.map (withPort (UInt16.ofNat address.port)))

/-- How many bytes the reply that begins with the given ones needs: a header, and then what
it announces unless that is past the limit. -/
def wanted (found : ByteArray) : Nat :=
  if found.size < Frame.headerSize then Frame.headerSize
  else
    let length := Frame.announced (found.extract 0 Frame.headerSize).toList
    if Frame.maxPayload < length then Frame.headerSize else Frame.headerSize + length

/-- Receives until the reply is complete or nothing more comes. -/
partial def receive (link : Link) (found : ByteArray) : IO Delivery := do
  let stop (ending : Ending) : Delivery := { arrived := found.toList, ending }
  if wanted found ≤ found.size then return stop .finished
  try
    match ← (within link.readTimeout (link.socket.recv? 65536)).block with
    | none => return stop (.fault .silence)
    | some none => return stop .finished
    | some (some data) => receive link (found ++ data)
  catch e => return stop (.fault (faultOf e))

def send (link : Link) (request : Bytes) : IO Delivery := do
  try
    match ← (within link.writeTimeout (link.socket.send ⟨request.toArray⟩)).block with
    | none => return { unsent := some .silence, ending := .finished }
    | some _ => receive link .empty
  catch e => return { unsent := some (faultOf e), ending := .finished }

/-- TCP as the network of the command line. -/
def network : CommandLine.Network IO Link where
  attempt := attempt
  pause ms := IO.sleep (UInt32.ofNat ms.toNat)
  send := send

def usage : String :=
  "usage: singleop-cli [-n ADDR]... [-m N] (read KEY | write KEY VALUE | "
    ++ "test-and-set KEY EXPECTED VALUE)\n"

end AtomicKv.Main

open AtomicKv in
def main (args : List String) : IO UInt32 := do
  let setting (name : String) : IO (Option Bytes) :=
    return (← IO.getEnv name).map Utf8.encode
  let env : Environment := { nodes := ← setting Environment.nodesName,
                             maxRetries := ← setting Environment.maxRetriesName }
  let exit ← CommandLine.run Main.network env args
  IO.print exit.stdout
  IO.eprint (exit.stderr.getD Main.usage)
  return UInt32.ofNat exit.code
