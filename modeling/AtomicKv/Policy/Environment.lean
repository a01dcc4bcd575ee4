import AtomicKv.Policy
import AtomicKv.Text.Blank
import AtomicKv.Text.Count
import AtomicKv.Text.Quoted

/-!
# Policy from the environment

Two variables overlay the default policy: a comma-separated list of nodes and a retry count.
A variable that is no text counts as unset; one that is set has to make sense.
-/
namespace AtomicKv

structure Environment where
  nodes : Option Bytes := none
  maxRetries : Option Bytes := none
  deriving DecidableEq, Repr

namespace Environment

def nodesName : String := "SINGLEOP_NODES"

def maxRetriesName : String := "SINGLEOP_MAX_RETRIES"

/-- The text of a variable, if it is set and a text. -/
def text? (value : Option Bytes) : Option String :=
  value.bind fun bytes => (Utf8.decode bytes).toOption

/-- Why a variable makes no sense. -/
inductive Flaw where
  | noNodes
  | badRetries (text : String)
  deriving DecidableEq, Repr

def Flaw.error : Flaw → ClientError
  | .noNodes => .unknown (nodesName ++ " is set but lists no nodes")
  | .badRetries text =>
    .unknown (maxRetriesName ++ " is not a valid retry count: " ++ Quoted.encode text)

/-- The nodes of a list: its pieces between commas, trimmed, without the blank ones. -/
def parseNodes (text : String) : List String :=
  ((splitAtCommas text.toList).map trim).filterMap fun piece =>
    if piece = [] then none else some (String.ofList piece)

def parseRetries? (text : String) : Option UInt32 :=
  (Count.unsigned? 0xFFFFFFFF (trim text.toList)).map UInt32.ofNat

def overlayNodes (p : Policy) : Option String → Except Flaw Policy
  | none => .ok p
  | some text =>
    if parseNodes text = [] then .error .noNodes
    else .ok { p with nodes := parseNodes text }

def overlayRetries (p : Policy) : Option String → Except Flaw Policy
  | none => .ok p
  | some text =>
    match parseRetries? text with
    | none => .error (.badRetries text)
    | some maxRetries => .ok { p with maxRetries }

/-- The default policy under the variables; nodes are looked at first. -/
def policy (env : Environment) : Except Flaw Policy :=
  match overlayNodes {} (text? env.nodes) with
  | .error flaw => .error flaw
  | .ok p => overlayRetries p (text? env.maxRetries)

end Environment
end AtomicKv
