import AtomicKv.Fault
import AtomicKv.Value.Wire

/-!
# Client errors

Every failure a caller sees is of one of six kinds. Two are failures of the channel; the
other four are answers.
-/
namespace AtomicKv

inductive ClientError where
  /-- The channel was never opened, is closed, or broke. -/
  | connection (text : String)
  /-- No answer within the bound; whether the call took effect is not known. -/
  | timeout (text : String)
  /-- Nothing is stored under the key. -/
  | notFound
  /-- The node refused the call. -/
  | abort (reason : String)
  /-- Another value is stored under the key. -/
  | keyChanged (current : Value)
  /-- Whatever is none of the above. -/
  | unknown (text : String)
  deriving DecidableEq, Repr

inductive ErrorKind where
  | connection | timeout | notFound | abort | keyChanged | unknown
  deriving DecidableEq, Repr

namespace ClientError

def kind : ClientError → ErrorKind
  | .connection _ => .connection
  | .timeout _ => .timeout
  | .notFound => .notFound
  | .abort _ => .abort
  | .keyChanged _ => .keyChanged
  | .unknown _ => .unknown

def message : ClientError → String
  | .connection text => "Connection error: " ++ text
  | .timeout text => "Timeout: " ++ text
  | .notFound => "Key not found"
  | .abort reason => "Operation aborted: " ++ reason
  | .keyChanged current => "Key changed: current value is " ++ current.display
  | .unknown text => "Unknown error: " ++ text

/-- Whether a caller may sensibly issue the call again. -/
def isRetryable (e : ClientError) : Bool :=
  match e.kind with
  | .abort | .keyChanged => true
  | _ => false

/-- Whether the channel failed, rather than the node answered. -/
def isConnectivity (e : ClientError) : Bool :=
  match e.kind with
  | .connection | .timeout => true
  | _ => false

/-- A value that could not be read from its wire form. -/
def ofWireFault (fault : Value.WireFault) : ClientError :=
  .unknown ("Value decoding failed: " ++ fault.message)

def closed : ClientError :=
  .connection "connection is closed"

def cannotBind (address : String) (f : Fault) : ClientError :=
  .connection ("cannot bind " ++ address ++ ": " ++ f.message)

/-- A transport fault on the channel to a node. A wait that ran out is a timeout, however the
system reports it; data that cannot be a frame is of unknown outcome. -/
def ofFault (node : String) (f : Fault) : ClientError :=
  match f.kind with
  | .timedOut | .wouldBlock =>
    .timeout ("no response from " ++ node ++ " within the configured bound")
  | .invalidData => .unknown ("unreadable frame from " ++ node ++ ": " ++ f.message)
  | .unexpectedEof => .connection (node ++ " closed the connection")
  | _ => .connection (node ++ ": " ++ f.message)

end ClientError
end AtomicKv
