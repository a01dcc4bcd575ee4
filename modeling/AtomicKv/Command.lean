import AtomicKv.Frame

/-!
# Commands

What a client asks of a node, on the level of bytes. The payload of a command is its fields,
each behind its length in four bytes, with nothing in front, between or behind.
-/
namespace AtomicKv

inductive CommandKind where
  | read | write | testAndSet
  deriving DecidableEq, Repr

namespace CommandKind

def tag : CommandKind → UInt8
  | .read => 1
  | .write => 2
  | .testAndSet => 3

def ofTag? : UInt8 → Option CommandKind
  | 1 => some .read
  | 2 => some .write
  | 3 => some .testAndSet
  | _ => none

def name : CommandKind → String
  | .read => "Read"
  | .write => "Write"
  | .testAndSet => "TestAndSet"

end CommandKind

inductive Command where
  | read (key : Bytes)
  | write (key value : Bytes)
  | testAndSet (key expected value : Bytes)
  deriving DecidableEq, Repr

namespace Command

def kind : Command → CommandKind
  | .read _ => .read
  | .write _ _ => .write
  | .testAndSet _ _ _ => .testAndSet

def key : Command → Bytes
  | .read key | .write key _ | .testAndSet key _ _ => key

def fields : Command → List Bytes
  | .read key => [key]
  | .write key value => [key, value]
  | .testAndSet key expected value => [key, expected, value]

def encodeField (data : Bytes) : Bytes :=
  Bytes.bigEndian 4 data.length ++ data

def encode (c : Command) : Bytes :=
  Frame.encode c.kind.tag (c.fields.flatMap encodeField)

def payloadSize (c : Command) : Nat :=
  c.fields.foldr (fun data size => 4 + data.length + size) 0

theorem payloadSize_read (key : Bytes) : (read key).payloadSize = 4 + key.length :=
  rfl

theorem payloadSize_write (key value : Bytes) :
    (write key value).payloadSize = 4 + key.length + (4 + value.length) :=
  rfl

theorem payloadSize_testAndSet (key expected value : Bytes) :
    (testAndSet key expected value).payloadSize =
      4 + key.length + (4 + expected.length + (4 + value.length)) :=
  rfl

inductive Field where
  | key | value | expectedValue | newValue
  deriving DecidableEq, Repr

def Field.name : Field → String
  | .key => "key"
  | .value => "value"
  | .expectedValue => "expected value"
  | .newValue => "new value"

/-- Why a payload does not hold the fields of its command. -/
inductive PayloadFlaw where
  | missingLength (field : Field)
  | incomplete (field : Field) (expected found : Nat)
  | trailing (count : Nat)
  deriving DecidableEq, Repr

def PayloadFlaw.message : PayloadFlaw → String
  | .missingLength field => "missing " ++ field.name ++ " length"
  | .incomplete field expected found =>
    "incomplete " ++ field.name ++ " (expected " ++ toString expected ++ ", got "
      ++ toString found ++ ")"
  | .trailing count => toString count ++ " trailing bytes"

/-- The field at the front of a payload and what follows it. -/
def decodeField (field : Field) (payload : Bytes) : Except PayloadFlaw (Bytes × Bytes) :=
  match Bytes.cut? 4 payload with
  | none => .error (.missingLength field)
  | some (digits, rest) =>
    let length := Bytes.ofBigEndian digits
    match Bytes.cut? length rest with
    | none => .error (.incomplete field length rest.length)
    | some (data, rest) => .ok (data, rest)

def decodeFields (kind : CommandKind) (payload : Bytes) :
    Except PayloadFlaw (Command × Bytes) :=
  match kind with
  | .read => do
    let (key, rest) ← decodeField .key payload
    return (.read key, rest)
  | .write => do
    let (key, rest) ← decodeField .key payload
    let (value, rest) ← decodeField .value rest
    return (.write key value, rest)
  | .testAndSet => do
    let (key, rest) ← decodeField .key payload
    let (expected, rest) ← decodeField .expectedValue rest
    let (value, rest) ← decodeField .newValue rest
    return (.testAndSet key expected value, rest)

/-- The command a payload holds, with nothing behind it. -/
def ofPayload (kind : CommandKind) (payload : Bytes) : Except PayloadFlaw Command :=
  match decodeFields kind payload with
  | .error flaw => .error flaw
  | .ok (command, rest) =>
    if rest = [] then .ok command else .error (.trailing rest.length)

/-- Why a byte string is no command. -/
inductive Flaw where
  | frame (flaw : Frame.Flaw)
  | unknownTag (tag : UInt8)
  | payload (kind : CommandKind) (flaw : PayloadFlaw)
  deriving DecidableEq, Repr

def Flaw.message : Flaw → String
  | .frame flaw => flaw.message
  | .unknownTag tag => "Unknown command type: " ++ Frame.hex 2 tag.toNat
  | .payload kind flaw => kind.name ++ " command: " ++ flaw.message

def decode (frame : Bytes) : Except Flaw Command :=
  match Frame.decode frame with
  | .error flaw => .error (.frame flaw)
  | .ok (tag, payload) =>
    match CommandKind.ofTag? tag with
    | none => .error (.unknownTag tag)
    | some kind =>
      match ofPayload kind payload with
      | .error flaw => .error (.payload kind flaw)
      | .ok command => .ok command

end Command
end AtomicKv
