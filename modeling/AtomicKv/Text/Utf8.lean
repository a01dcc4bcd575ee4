import AtomicKv.Bytes

/-!
# UTF-8

A byte string is cut into pieces from the left: characters in their shortest form, and
the longest runs of bytes that begin a character without completing one. Strict reading
accepts a byte string whose pieces are all characters and otherwise names the first fault;
lossy reading shows one replacement character for each other piece.
-/
namespace AtomicKv.Utf8

inductive Piece where
  /-- A whole character. -/
  | char (c : Char)
  /-- That many bytes which no further byte can complete to a character. -/
  | broken (width : Nat)
  /-- That many bytes which begin a character, at the end of the input. -/
  | unfinished (width : Nat)
  deriving DecidableEq, Repr

/-- What a first byte announces: its share of the code point, the range of the second byte
(narrowed so that no overlong form, surrogate or number past U+10FFFF gets through) and how
many bytes follow the second. -/
structure Lead where
  bits : Nat
  low : UInt8
  high : UInt8
  more : Nat
  deriving DecidableEq, Repr

/-- The announcement of a first byte past ASCII, if it can begin a character at all. -/
def lead? (b : UInt8) : Option Lead :=
  if b < 0xC2 then none
  else if b < 0xE0 then some ⟨b.toNat - 0xC0, 0x80, 0xBF, 0⟩
  else if b = 0xE0 then some ⟨0, 0xA0, 0xBF, 1⟩
  else if b = 0xED then some ⟨0xD, 0x80, 0x9F, 1⟩
  else if b < 0xF0 then some ⟨b.toNat - 0xE0, 0x80, 0xBF, 1⟩
  else if b = 0xF0 then some ⟨0, 0x90, 0xBF, 2⟩
  else if b < 0xF4 then some ⟨b.toNat - 0xF0, 0x80, 0xBF, 2⟩
  else if b = 0xF4 then some ⟨4, 0x80, 0x8F, 2⟩
  else none

/-- Reads `more` continuation bytes, each adding six bits; `width` bytes precede them. -/
def continuation (bits width : Nat) : (more : Nat) → Bytes → Piece
  | 0, _ => .char (Char.ofNat bits)
  | _ + 1, [] => .unfinished width
  | more + 1, b :: rest =>
    if b < 0x80 ∨ 0xBF < b then .broken width
    else continuation (bits * 64 + (b.toNat - 0x80)) (width + 1) more rest

def piece (b : UInt8) (rest : Bytes) : Piece :=
  if b < 0x80 then .char (Char.ofNat b.toNat)
  else match lead? b with
    | none => .broken 1
    | some l =>
      match rest with
      | [] => .unfinished 1
      | second :: rest =>
        if second < l.low ∨ l.high < second then .broken 1
        else continuation (l.bits * 64 + (second.toNat - 0x80)) 2 l.more rest

def Piece.width : Piece → Nat
  | .char c => c.utf8Size
  | .broken width => width
  | .unfinished width => width

/-- The pieces of a byte string, in front of those found already (latest first). -/
def piecesFrom (found : List Piece) : Bytes → List Piece
  | [] => found.reverse
  | b :: rest =>
    let next := piece b rest
    piecesFrom (next :: found) (rest.drop (next.width - 1))
  termination_by bs => bs.length
  decreasing_by simp only [List.length_drop, List.length_cons]; omega

def pieces (bs : Bytes) : List Piece :=
  piecesFrom [] bs

/-- The character shown for a piece: itself, or the replacement character. -/
def Piece.shown : Piece → Char
  | .char c => c
  | .broken _ | .unfinished _ => '\uFFFD'

/-- The text of a byte string with each piece that is no character replaced. -/
def lossy (bs : Bytes) : String :=
  String.ofList ((pieces bs).map Piece.shown)

/-- Why a byte string is not UTF-8; `index` bytes before the fault are. -/
inductive Fault where
  | invalid (width index : Nat)
  | incomplete (index : Nat)
  deriving DecidableEq, Repr

def Fault.message : Fault → String
  | .invalid width index =>
    "invalid utf-8 sequence of " ++ toString width ++ " bytes from index " ++ toString index
  | .incomplete index => "incomplete utf-8 byte sequence from index " ++ toString index

def firstFault (index : Nat) : List Piece → Option Fault
  | [] => none
  | .char c :: rest => firstFault (index + c.utf8Size) rest
  | .broken width :: _ => some (.invalid width index)
  | .unfinished _ :: _ => some (.incomplete index)

/-- The text that a byte string encodes, or the first fault in it. -/
def decode (bs : Bytes) : Except Fault String :=
  let found := pieces bs
  match firstFault 0 found with
  | some fault => .error fault
  | none => .ok (String.ofList (found.map Piece.shown))

def encode (text : String) : Bytes :=
  text.toUTF8.data.toList

end AtomicKv.Utf8
