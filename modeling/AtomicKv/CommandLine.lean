import AtomicKv.Dial
import AtomicKv.Policy.Environment

/-!
# The command line

One call per invocation. Options come before the subcommand, repeated node options add up,
and the first fault from the left decides what happens. Options win over the environment,
but the environment has to make sense even where they do.
-/
namespace AtomicKv.CommandLine

structure Invocation where
  /-- The nodes given by options. -/
  nodes : List String
  /-- The retry count given by an option. -/
  maxRetries : Option UInt32
  call : Call
  deriving DecidableEq, Repr

/-- Why there is nothing to run. -/
inductive Stop where
  /-- The arguments do not fit the grammar. -/
  | usage
  /-- The version was asked for. -/
  | version
  deriving DecidableEq, Repr

inductive Flag where
  | node | maxRetries | version
  deriving DecidableEq, Repr

/-- What an argument in front of the subcommand is. -/
inductive Word where
  /-- An option, with the value attached to it. -/
  | flag (flag : Flag) (attached : Option String)
  | plain (text : String)
  /-- An argument that begins like an option and is none. -/
  | unknown
  deriving DecidableEq, Repr

/-- Whether an argument begins like an option; a lone dash does not. -/
def isDashed (arg : String) : Bool :=
  match arg.toList with
  | '-' :: _ :: _ => true
  | _ => false

def longFlag? : String → Option Flag
  | "node" => some .node
  | "max-retries" => some .maxRetries
  | "version" => some .version
  | _ => none

def shortFlag? : Char → Option Flag
  | 'n' => some .node
  | 'm' => some .maxRetries
  | 'V' => some .version
  | _ => none

/-- The value attached to a short option, with or without an equals sign. -/
def attachedShort : List Char → Option String
  | [] => none
  | '=' :: value => some (String.ofList value)
  | value => some (String.ofList value)

def attachedLong : List Char → Option String
  | '=' :: value => some (String.ofList value)
  | _ => none

/-- Sorts an argument in front of the subcommand. -/
def word (arg : String) : Word :=
  match arg.toList with
  | '-' :: '-' :: name =>
    let (name, value) := name.span (· ≠ '=')
    match longFlag? (String.ofList name) with
    | some .version => if value = [] then .flag .version none else .unknown
    | some flag => .flag flag (attachedLong value)
    | none => .unknown
  | '-' :: letter :: value =>
    match shortFlag? letter with
    | some .version => .flag .version none
    | some flag => .flag flag (attachedShort value)
    | none => .unknown
  | _ => .plain arg

/-- The operands of a subcommand. A double dash ends the options, of which there are none,
so that later operands may begin with a dash. -/
def operands (escaped : Bool) : List String → Except Stop (List String)
  | [] => .ok []
  | arg :: rest =>
    if escaped then (operands true rest).map (arg :: ·)
    else if arg = "--" then operands true rest
    else if isDashed arg then .error .usage
    else (operands false rest).map (arg :: ·)

/-- The call of a subcommand with its operands; keys and values are spelled as text. -/
def callOf : String → List String → Except Stop Call
  | "read", [key] => .ok (.read (.ofText key))
  | "write", [key, value] => .ok (.write (.ofText key) (.str value))
  | "test-and-set", [key, expected, value] =>
    .ok (.testAndSet (.ofText key) (.str expected) (.str value))
  | _, _ => .error .usage

structure Settings where
  nodes : List String := []
  maxRetries : Option UInt32 := none
  deriving DecidableEq, Repr

/-- Takes an option with its value. A retry count may be given once. -/
def Settings.add (s : Settings) (flag : Flag) (value : String) : Except Stop Settings :=
  match flag with
  | .node => .ok { s with nodes := s.nodes ++ [value] }
  | .maxRetries =>
    match s.maxRetries, Count.signed? 0xFFFFFFFF value.toList with
    | none, some n => .ok { s with maxRetries := some (UInt32.ofNat n) }
    | _, _ => .error .usage
  | .version => .error .version

/-- Reads the arguments behind the settings seen so far. -/
def parseFrom (s : Settings) : List String → Except Stop Invocation
  | [] => .error .usage
  | arg :: rest =>
    match word arg with
    | .unknown => .error .usage
    | .plain name => do
      let call ← callOf name (← operands false rest)
      return { nodes := s.nodes, maxRetries := s.maxRetries, call }
    | .flag .version _ => .error .version
    | .flag flag (some value) =>
      match s.add flag value with
      | .error stop => .error stop
      | .ok s => parseFrom s rest
    | .flag flag none =>
      match rest with
      | [] => .error .usage
      | value :: rest =>
        if isDashed value then .error .usage
        else match s.add flag value with
          | .error stop => .error stop
          | .ok s => parseFrom s rest

def parse (args : List String) : Except Stop Invocation :=
  parseFrom {} args

/-- The policy of an invocation: that of the environment with the options over it. -/
def policy (env : Environment) (i : Invocation) : Except ClientError Policy :=
  match env.policy with
  | .error flaw => .error flaw.error
  | .ok p =>
    .ok { p with
      nodes := if i.nodes = [] then p.nodes else i.nodes
      maxRetries := i.maxRetries.getD p.maxRetries }

/-- The network as an invocation uses it: attempts that yield a link, and requests sent over
one. -/
structure Network (m : Type → Type) (α : Type) where
  /-- One attempt to reach a node under a policy. -/
  attempt : Policy → String → m (Except Fault α)
  /-- Waits some milliseconds. -/
  pause : UInt64 → m Unit
  send : α → Bytes → m Delivery

variable {m : Type → Type} [Monad m] {α : Type}

def perform (net : Network m α) (p : Policy) (call : Call) :
    m (Except ClientError (Option Value)) := do
  match (← p.dial ⟨fun _ => net.attempt p, net.pause⟩ 0).1 with
  | .error e => return .error e
  | .ok (node, link) =>
    let c : Connection := { node, name := p.clientName }
    return (← c.call (net.send link) call).1

/-- What an invocation leaves: exit code and output. The wording of a usage message is left
to the program. -/
structure Exit where
  code : Nat
  stdout : String := ""
  stderr : Option String := some ""
  deriving DecidableEq, Repr

def versionText : String := "singleop-cli 0.1.0"

def Stop.exit : Stop → Exit
  | .usage => { code := 2, stderr := none }
  | .version => { code := 0, stdout := versionText ++ "\n" }

/-- The exit after a call: a value is shown, other success acknowledged. -/
def exitOf : Except ClientError (Option Value) → Exit
  | .ok (some v) => { code := 0, stdout := v.display ++ "\n" }
  | .ok none => { code := 0, stdout := "ok\n" }
  | .error e => { code := 1, stderr := some ("Error: " ++ e.message ++ "\n") }

def run (net : Network m α) (env : Environment) (args : List String) : m Exit :=
  match parse args with
  | .error stop => return stop.exit
  | .ok i =>
    match policy env i with
    | .error e => return exitOf (.error e)
    | .ok p => do return exitOf (← perform net p i.call)

end AtomicKv.CommandLine
