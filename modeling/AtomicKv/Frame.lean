import AtomicKv.Crc32

/-!
# Frames

Requests and replies travel in frames: a tag, the length of the payload and its checksum,
four bytes each and big-endian, and the payload. The header alone tells where a frame ends;
the checksum is looked at only when a whole frame is taken apart.
-/
namespace AtomicKv.Frame

def headerSize : Nat := 9

/-- The longest payload that is accepted: 16 MiB. -/
def maxPayload : Nat := 16 * 1024 * 1024

/-- A number in lower-case hexadecimal, with zeros in front up to the given width. -/
def hex (width n : Nat) : String :=
  "0x" ++ String.ofList ((Nat.toDigits 16 n).leftpad width '0')

structure Header where
  tag : UInt8
  length : Nat
  checksum : Nat
  deriving DecidableEq, Repr

/-- The header at the front of a byte string and what follows it. -/
def header? : Bytes → Option (Header × Bytes)
  | tag :: l₀ :: l₁ :: l₂ :: l₃ :: c₀ :: c₁ :: c₂ :: c₃ :: rest =>
    some (⟨tag, Bytes.ofBigEndian [l₀, l₁, l₂, l₃], Bytes.ofBigEndian [c₀, c₁, c₂, c₃]⟩, rest)
  | _ => none

/-- The payload length that nine header bytes announce. -/
def announced (header : Bytes) : Nat :=
  Bytes.ofBigEndian ((header.drop 1).take 4)

def encode (tag : UInt8) (payload : Bytes) : Bytes :=
  tag :: Bytes.bigEndian 4 payload.length ++ Bytes.bigEndian 4 (crc32 payload).toNat ++ payload

/-- Why a byte string is no frame. -/
inductive Flaw where
  | shortHeader (found : Nat)
  | tooLarge (announced : Nat)
  | wrongLength (expected found : Nat)
  | wrongChecksum (expected found : Nat)
  deriving DecidableEq, Repr

def tooLargeMessage (announced : Nat) : String :=
  "Payload too large: " ++ toString announced ++ " bytes (max " ++ toString maxPayload ++ ")"

def Flaw.message : Flaw → String
  | .shortHeader found =>
    "Incomplete header: expected " ++ toString headerSize ++ " bytes, got " ++ toString found
  | .tooLarge announced => tooLargeMessage announced
  | .wrongLength expected found =>
    "Frame length mismatch: expected " ++ toString expected ++ " bytes, got " ++ toString found
  | .wrongChecksum expected found =>
    "Checksum mismatch: expected " ++ hex 8 expected ++ ", got " ++ hex 8 found

/-- The tag and payload of a byte string that is one whole frame; otherwise the first flaw,
the limit before the length and the length before the checksum. -/
def decode (frame : Bytes) : Except Flaw (UInt8 × Bytes) :=
  match header? frame with
  | none => .error (.shortHeader frame.length)
  | some (header, payload) =>
    if maxPayload < header.length then .error (.tooLarge header.length)
    else if payload.length ≠ header.length then
      .error (.wrongLength (headerSize + header.length) (headerSize + payload.length))
    else if (crc32 payload).toNat ≠ header.checksum then
      .error (.wrongChecksum header.checksum (crc32 payload).toNat)
    else .ok (header.tag, payload)

end AtomicKv.Frame
