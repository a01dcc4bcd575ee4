import AtomicKv.Text.Utf8

/-!
# Values

A value is a scalar or a finite tree of lists and tuples. Equality is structural: a string
and a symbol with the same text differ, as do a list and a tuple with the same items.
-/
namespace AtomicKv

inductive Value where
  | bytes (data : Bytes)
  | str (text : String)
  | int (number : Int64)
  | bool (flag : Bool)
  /-- A symbolic constant. -/
  | atom (name : String)
  /-- A sequence of any length. -/
  | list (items : List Value)
  /-- A composite of fixed shape. -/
  | tuple (items : List Value)
  deriving Repr, Inhabited

namespace Value

mutual

def decEq : (a b : Value) → Decidable (a = b)
  | .bytes a, .bytes b => decidable_of_iff (a = b) (by simp)
  | .str a, .str b => decidable_of_iff (a = b) (by simp)
  | .int a, .int b => decidable_of_iff (a = b) (by simp)
  | .bool a, .bool b => decidable_of_iff (a = b) (by simp)
  | .atom a, .atom b => decidable_of_iff (a = b) (by simp)
  | .list a, .list b => @decidable_of_iff _ (a = b) (by simp) (decEqItems a b)
  | .tuple a, .tuple b => @decidable_of_iff _ (a = b) (by simp) (decEqItems a b)
  | .bytes _, .str _ | .bytes _, .int _ | .bytes _, .bool _ | .bytes _, .atom _
  | .bytes _, .list _ | .bytes _, .tuple _ => isFalse nofun
  | .str _, .bytes _ | .str _, .int _ | .str _, .bool _ | .str _, .atom _
  | .str _, .list _ | .str _, .tuple _ => isFalse nofun
  | .int _, .bytes _ | .int _, .str _ | .int _, .bool _ | .int _, .atom _
  | .int _, .list _ | .int _, .tuple _ => isFalse nofun
  | .bool _, .bytes _ | .bool _, .str _ | .bool _, .int _ | .bool _, .atom _
  | .bool _, .list _ | .bool _, .tuple _ => isFalse nofun
  | .atom _, .bytes _ | .atom _, .str _ | .atom _, .int _ | .atom _, .bool _
  | .atom _, .list _ | .atom _, .tuple _ => isFalse nofun
  | .list _, .bytes _ | .list _, .str _ | .list _, .int _ | .list _, .bool _
  | .list _, .atom _ | .list _, .tuple _ => isFalse nofun
  | .tuple _, .bytes _ | .tuple _, .str _ | .tuple _, .int _ | .tuple _, .bool _
  | .tuple _, .atom _ | .tuple _, .list _ => isFalse nofun

def decEqItems : (a b : List Value) → Decidable (a = b)
  | [], [] => isTrue rfl
  | [], _ :: _ | _ :: _, [] => isFalse nofun
  | a :: as, b :: bs =>
    match decEq a b, decEqItems as bs with
    | isTrue head, isTrue tail => isTrue (by rw [head, tail])
    | isFalse head, _ => isFalse (by simp [head])
    | _, isFalse tail => isFalse (by simp [tail])

end

instance : DecidableEq Value := decEq

def text? : Value → Option String
  | .str text => some text
  | _ => none

def data? : Value → Option Bytes
  | .bytes data => some data
  | _ => none

def number? : Value → Option Int64
  | .int number => some number
  | _ => none

mutual

/-- A text with a value shown behind it. Nothing that is shown already is copied, so a value
is shown in time linear in its text, however deep it is. -/
def displayAfter (shown : String) : Value → String
  | .bytes data => shown ++ Utf8.lossy data
  | .str text => shown ++ text
  | .int number => shown ++ toString number.toInt
  | .bool flag => shown ++ if flag then "true" else "false"
  | .atom name => shown ++ name
  | .list items => displayItemsAfter (shown ++ "[") items ++ "]"
  | .tuple items => displayItemsAfter (shown ++ "\x7b") items ++ "\x7d"

/-- A text with values shown behind it, separated by a comma and a space. -/
def displayItemsAfter (shown : String) : List Value → String
  | [] => shown
  | [v] => v.displayAfter shown
  | v :: next :: rest => displayItemsAfter (v.displayAfter shown ++ ", ") (next :: rest)

end

/-- How a value is shown: scalars bare, lists between brackets and tuples between braces,
items separated by a comma and a space. Byte strings are shown as lossy text. -/
def display (v : Value) : String :=
  v.displayAfter ""

mutual

theorem displayAfter_eq (shown : String) : (v : Value) →
    v.displayAfter shown = shown ++ v.display
  | .bytes _ | .str _ | .int _ | .bool _ | .atom _ => by simp [display, displayAfter]
  | .list items => by
    simp only [display, displayAfter, displayItemsAfter_eq _ items, String.append_assoc,
      String.empty_append]
  | .tuple items => by
    simp only [display, displayAfter, displayItemsAfter_eq _ items, String.append_assoc,
      String.empty_append]

theorem displayItemsAfter_eq (shown : String) : (items : List Value) →
    displayItemsAfter shown items = shown ++ String.intercalate ", " (items.map display)
  | [] => by simp [displayItemsAfter]
  | [v] => by simp [displayItemsAfter, displayAfter_eq shown v]
  | v :: next :: rest => by
    rw [displayItemsAfter, displayItemsAfter_eq _ (next :: rest), displayAfter_eq shown v]
    simp [String.append_assoc]

end

theorem display_list (items : List Value) :
    (list items).display = "[" ++ String.intercalate ", " (items.map display) ++ "]" := by
  simp [display, displayAfter, displayItemsAfter_eq]

theorem display_tuple (items : List Value) :
    (tuple items).display = "\x7b" ++ String.intercalate ", " (items.map display) ++ "\x7d" := by
  simp [display, displayAfter, displayItemsAfter_eq]

/-- The number of list and tuple levels: none for a scalar, one more than the deepest item
for a list or tuple. -/
def depth : Value → Nat
  | .bytes _ | .str _ | .int _ | .bool _ | .atom _ => 0
  | .list items => 1 + (items.map depth).foldl max 0
  | .tuple items => 1 + (items.map depth).foldl max 0

end Value
end AtomicKv
