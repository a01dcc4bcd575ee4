import AtomicKv.Value

/-!
# The wire form of values

A value is written as the number of its kind in four bytes and then its content: byte
strings, texts and sequences behind their length in eight bytes, integers in eight bytes of
two's complement, flags in one byte; all little-endian. Reading consumes one value from the
front of a byte string and leaves the rest, so what follows a value is never looked at.
-/
namespace AtomicKv.Value

def variant : Value → Nat
  | .bytes _ => 0
  | .str _ => 1
  | .int _ => 2
  | .bool _ => 3
  | .atom _ => 4
  | .list _ => 5
  | .tuple _ => 6

def wireBlock (data : Bytes) : Bytes :=
  Bytes.littleEndian 8 data.length ++ data

/-- What the wire form of a value begins with: all of it for a scalar, all in front of the
items for a sequence. -/
def wireHead (v : Value) : Bytes :=
  Bytes.littleEndian 4 v.variant ++
    match v with
    | .bytes data => wireBlock data
    | .str text => wireBlock (Utf8.encode text)
    | .int number => Bytes.littleEndian 8 number.toUInt64.toNat
    | .bool flag => [if flag then 1 else 0]
    | .atom name => wireBlock (Utf8.encode name)
    | .list items | .tuple items => Bytes.littleEndian 8 items.length

/-- The items of a sequence; none of a scalar. -/
def items : Value → List Value
  | .list items | .tuple items => items
  | .bytes _ | .str _ | .int _ | .bool _ | .atom _ => []

mutual

/-- Writes a value behind bytes written already (latest first). Each byte is written once, so
the time is linear in the wire form, however deep the value is. -/
def wireAfter (written : Bytes) : Value → Bytes
  | .list items => wireItemsAfter ((wireHead (.list items)).reverseAux written) items
  | .tuple items => wireItemsAfter ((wireHead (.tuple items)).reverseAux written) items
  | .bytes data => (wireHead (.bytes data)).reverseAux written
  | .str text => (wireHead (.str text)).reverseAux written
  | .int number => (wireHead (.int number)).reverseAux written
  | .bool flag => (wireHead (.bool flag)).reverseAux written
  | .atom name => (wireHead (.atom name)).reverseAux written

def wireItemsAfter (written : Bytes) : List Value → Bytes
  | [] => written
  | v :: rest => wireItemsAfter (v.wireAfter written) rest

end

def wire (v : Value) : Bytes :=
  (v.wireAfter []).reverse

mutual

theorem wireAfter_eq (written : Bytes) : (v : Value) →
    v.wireAfter written = v.wire.reverse ++ written
  | .bytes _ | .str _ | .int _ | .bool _ | .atom _ => by
    simp [wire, wireAfter, List.reverseAux_eq]
  | .list items => by
    simp [wire, wireAfter, wireItemsAfter_eq _ items, List.reverseAux_eq]
  | .tuple items => by
    simp [wire, wireAfter, wireItemsAfter_eq _ items, List.reverseAux_eq]

theorem wireItemsAfter_eq (written : Bytes) : (items : List Value) →
    wireItemsAfter written items = (items.flatMap wire).reverse ++ written
  | [] => rfl
  | v :: rest => by
    simp [wireItemsAfter, wireItemsAfter_eq _ rest, wireAfter_eq written v]

end

/-- The wire form of a value is its head and then the wire forms of its items. -/
theorem wire_eq (v : Value) : v.wire = v.wireHead ++ v.items.flatMap wire := by
  cases v <;> simp [wire, wireAfter, items, wireItemsAfter_eq, List.reverseAux_eq]

/-- Equality as a node decides it: on wire forms. -/
def wireEq (a b : Value) : Bool :=
  a.wire = b.wire

/-- Why no value can be read from a byte string. -/
inductive WireFault where
  /-- A number, a flag or the data of a byte string is cut off. -/
  | endOfInput
  /-- A text announces more bytes than there are. -/
  | shortText
  | notText (fault : Utf8.Fault)
  | badFlag (found : UInt8)
  | badVariant (found : Nat)
  deriving DecidableEq, Repr

def WireFault.message : WireFault → String
  | .endOfInput => "io error: unexpected end of file"
  | .shortText => "io error: "
  | .notText fault => "string is not valid utf8: " ++ fault.message
  | .badFlag found =>
    "invalid u8 while decoding bool, expected 0 or 1, found " ++ toString found.toNat
  | .badVariant found =>
    "invalid value: integer `" ++ toString found ++ "`, expected variant index 0 <= i < 7"

/-- What reading one item yields: the item and the rest, which is shorter than the input by
at least `used` bytes. -/
abbrev Reading (α : Type) (used : Nat) (input : Bytes) : Type :=
  Except WireFault (α × { rest : Bytes // rest.length + used ≤ input.length })

/-- Turns what was read behind the kind number into a value. -/
def Reading.content {α : Type} {used : Nat} {body input : Bytes}
    (bound : body.length + 4 ≤ input.length) (make : α → Value) :
    Reading α used body → Reading Value 4 input
  | .error fault => .error fault
  | .ok (a, ⟨rest, shorter⟩) => .ok (make a, ⟨rest, by omega⟩)

def readNumber (width : Nat) (input : Bytes) : Reading Nat width input :=
  match h : Bytes.cut? width input with
  | none => .error .endOfInput
  | some (digits, rest) =>
    .ok (Bytes.ofLittleEndian digits, ⟨rest, by
      obtain ⟨rfl, rfl⟩ := Bytes.cut?_eq_some.mp h
      simp; omega⟩)

/-- Reads a byte string behind its length, with the fault to report when it is cut off. -/
def readBlock (short : WireFault) (input : Bytes) : Reading Bytes 8 input :=
  match readNumber 8 input with
  | .error fault => .error fault
  | .ok (length, ⟨rest, bound⟩) =>
    match h : Bytes.cut? length rest with
    | none => .error short
    | some (data, rest') =>
      .ok (data, ⟨rest', by
        obtain ⟨rfl, -⟩ := Bytes.cut?_eq_some.mp h
        simp only [List.length_append] at bound
        omega⟩)

def readText (input : Bytes) : Reading String 8 input :=
  match readBlock .shortText input with
  | .error fault => .error fault
  | .ok (data, rest) =>
    match Utf8.decode data with
    | .error fault => .error (.notText fault)
    | .ok text => .ok (text, rest)

def readFlag (input : Bytes) : Reading Bool 1 input :=
  match input with
  | [] => .error .endOfInput
  | b :: rest =>
    if b = 0 then .ok (false, ⟨rest, by simp⟩)
    else if b = 1 then .ok (true, ⟨rest, by simp⟩)
    else .error (.badFlag b)

mutual

def readValue (input : Bytes) : Reading Value 4 input :=
  match readNumber 4 input with
  | .error fault => .error fault
  | .ok (variant, ⟨body, bound⟩) =>
    match variant with
    | 0 => Reading.content bound .bytes (readBlock .endOfInput body)
    | 1 => Reading.content bound .str (readText body)
    | 2 => Reading.content bound (fun n => .int (UInt64.ofNat n).toInt64) (readNumber 8 body)
    | 3 => Reading.content bound .bool (readFlag body)
    | 4 => Reading.content bound .atom (readText body)
    | 5 => Reading.content bound .list (readSequence body)
    | 6 => Reading.content bound .tuple (readSequence body)
    | other => .error (.badVariant other)
  termination_by (input.length, 0)

def readSequence (input : Bytes) : Reading (List Value) 0 input :=
  match readNumber 8 input with
  | .error fault => .error fault
  | .ok (count, ⟨rest, bound⟩) =>
    readItems input count [] rest (by omega)
  termination_by (input.length, 2)

/-- Reads `count` values and puts them behind those read already (latest first); `input` is
what is left of `whole`. -/
def readItems (whole : Bytes) (count : Nat) (found : List Value) (input : Bytes)
    (within : input.length ≤ whole.length) : Reading (List Value) 0 whole :=
  match count with
  | 0 => .ok (found.reverse, ⟨input, by omega⟩)
  | count + 1 =>
    match readValue input with
    | .error fault => .error fault
    | .ok (v, ⟨rest, bound⟩) => readItems whole count (v :: found) rest (by omega)
  termination_by (input.length, 1)

end

/-- The value a byte string begins with. Bytes behind it are ignored. -/
def ofWire (bs : Bytes) : Except WireFault Value :=
  match readValue bs with
  | .error fault => .error fault
  | .ok (v, _) => .ok v

end AtomicKv.Value
