import AtomicKv.Text.Unprintable

/-!
# Quoted text

Error messages and the debugging form of a connection show text between double quotes.
Quote, backslash and the common controls have short escapes, every other character that
would not show is written by its code point in hexadecimal, and all else stands as it is.
-/
namespace AtomicKv.Quoted

/-- The code point of a character in lower-case hexadecimal between braces. -/
def escapeCode (c : Char) : List Char :=
  ['\\', 'u', '\x7b'] ++ Nat.toDigits 16 c.toNat ++ ['\x7d']

def escape (c : Char) : List Char :=
  if c = '\x00' then ['\\', '0']
  else if c = '\t' then ['\\', 't']
  else if c = '\r' then ['\\', 'r']
  else if c = '\n' then ['\\', 'n']
  else if c = '"' then ['\\', '"']
  else if c = '\\' then ['\\', '\\']
  else if isUnprintable c then escapeCode c
  else [c]

def encode (text : String) : String :=
  String.ofList (['"'] ++ text.toList.flatMap escape ++ ['"'])

end AtomicKv.Quoted
