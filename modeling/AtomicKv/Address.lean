import AtomicKv.Fault
import AtomicKv.Text.Count

/-!
# Addresses

A node is addressed by a host and a port with a colon between them. Only the last colon
counts, so a host may hold others. A host is a name that has to be looked up or an address
written in numbers: one to four of them between dots, each but the last for one byte and the
last for all bytes that remain.
-/
namespace AtomicKv

structure Address where
  host : String
  port : Nat
  deriving DecidableEq, Repr

namespace Address

def splitLastColon? (cs : List Char) : Option (List Char × List Char) :=
  match cs.reverse.span (· ≠ ':') with
  | (port, _ :: host) => some (host.reverse, port.reverse)
  | (_, []) => none

/-- The address a text spells. The host is looked up elsewhere. -/
def parse (text : String) : Except Fault Address :=
  match splitLastColon? text.toList with
  | none => .error ⟨.invalidInput, "invalid socket address"⟩
  | some (host, port) =>
    match Count.unsigned? 65535 port with
    | none => .error ⟨.invalidInput, "invalid port value"⟩
    | some port => .ok ⟨String.ofList host, port⟩

def digit? (base : Nat) (c : Char) : Option Nat :=
  let n :=
    if c.isDigit then c.toNat - '0'.toNat
    else if 'a' ≤ c ∧ c ≤ 'f' then c.toNat - 'a'.toNat + 10
    else if 'A' ≤ c ∧ c ≤ 'F' then c.toNat - 'A'.toNat + 10
    else base
  if n < base then some n else none

def number? (base : Nat) (cs : List Char) : Option Nat :=
  if cs = [] then none
  else cs.foldlM (fun n c => (digit? base c).map (base * n + ·)) 0

/-- One of the numbers of a host: hexadecimal behind `0x`, octal behind another zero, and
decimal otherwise. -/
def part? : List Char → Option Nat
  | '0' :: 'x' :: cs | '0' :: 'X' :: cs => number? 16 cs
  | '0' :: cs => number? 8 ('0' :: cs)
  | cs => number? 10 cs

/-- The text between dots; one more piece than there are dots. -/
def splitAtDots : List Char → List (List Char)
  | [] => [[]]
  | c :: rest =>
    if c = '.' then [] :: splitAtDots rest
    else match splitAtDots rest with
      | [] => [[c]]
      | piece :: pieces => (c :: piece) :: pieces

/-- The 32-bit address that numbers spell when `room` bytes of it are still free. -/
def ofParts? (room : Nat) : List Nat → Option Nat
  | [] => none
  | [last] => if 0 < room ∧ last < 256 ^ room then some last else none
  | n :: rest =>
    if n < 256 then (ofParts? (room - 1) rest).map (n * 256 ^ (room - 1) + ·) else none

/-- The 32-bit address a host written in numbers stands for. -/
def numeric? (host : String) : Option Nat := do
  ofParts? 4 (← (splitAtDots host.toList).mapM part?)

def unknownHost : Fault :=
  ⟨.other, "failed to lookup address information: Name or service not known"⟩

end Address

end AtomicKv
