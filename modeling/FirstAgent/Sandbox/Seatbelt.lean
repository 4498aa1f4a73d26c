import FirstAgent.Framework.Layers
import FirstAgent.Framework.Regex
import FirstAgent.Python.PurePath

/-! # Seatbelt Profiles

    The profile language as the sandbox reads it: a text is cut into tokens,
    the tokens are nested by their parentheses, and every top-level list is a
    clause.  A string ends at the next quote and has no escapes.  The last
    rule that applies to an access decides it. -/

open Layers

namespace Seatbelt

/-! ### Tokens -/

inductive Token where
  | left
  | right
  | atom (cs : List Char)
  | string (cs : List Char)
  /-- `#"…"`. -/
  | pattern (cs : List Char)
  deriving DecidableEq, Repr

/-- What the lexer is in the middle of. -/
inductive Mode where
  | between
  | atom (cs : List Char)
  | string (cs : List Char)
  | hash
  | pattern (cs : List Char)
  deriving DecidableEq, Repr

/-- A character between two tokens. -/
def begin_token (c : Char) : Mode × List Token :=
  if c = ' ' ∨ c = '\n' then (.between, [])
  else if c = '(' then (.between, [.left])
  else if c = ')' then (.between, [.right])
  else if c = '"' then (.string [], [])
  else if c = '#' then (.hash, [])
  else (.atom [c], [])

/-- One character of the text. -/
def lex_char (mode : Mode) (c : Char) : Except Unit (Mode × List Token) :=
  match mode with
  | .between    => .ok (begin_token c)
  | .atom cs    =>
    if c = '"' ∨ c = '#' then .error ()
    else if c = ' ' ∨ c = '\n' ∨ c = '(' ∨ c = ')' then
      .ok ((begin_token c).1, .atom cs :: (begin_token c).2)
    else .ok (.atom (cs ++ [c]), [])
  | .string cs  => .ok (if c = '"' then (.between, [.string cs]) else (.string (cs ++ [c]), []))
  | .hash       => if c = '"' then .ok (.pattern [], []) else .error ()
  | .pattern cs => .ok (if c = '"' then (.between, [.pattern cs]) else (.pattern (cs ++ [c]), []))

def lex : Layer Unit Mode Char Token := feed lex_char

/-! ### Lists -/

inductive Node where
  | leaf (t : Token)
  | list (nodes : List Node)

/-- One token: the open lists, the innermost first, each with its nodes. -/
def nest_token (stack : List (List Node)) (t : Token) :
    Except Unit (List (List Node) × List Node) :=
  match t, stack with
  | .left, stack                      => .ok ([] :: stack, [])
  | .right, [nodes]                   => .ok ([], [.list nodes])
  | .right, nodes :: parent :: stack  => .ok ((parent ++ [.list nodes]) :: stack, [])
  | .right, []                        => .error ()
  | t, nodes :: stack                 => .ok ((nodes ++ [.leaf t]) :: stack, [])
  | t, []                             => .ok ([], [.leaf t])

/-- The completed top-level nodes of the tokens. -/
def nest : Layer Unit (List (List Node)) Token Node := feed nest_token

/-! ### Clauses -/

inductive Operation where
  | file_read
  | file_write
  | network
  deriving DecidableEq, Repr

inductive Filter where
  | any
  | literal (path : List Char)
  | subpath (root : List Char)
  | regex (r : Regex)
  deriving DecidableEq, Repr

inductive Clause where
  | version (n : List Char)
  | default (allow : Bool)
  | rule (allow : Bool) (operation : Operation) (filter : Filter)
  deriving DecidableEq, Repr

def read_effect (cs : List Char) : Option Bool :=
  if cs = "allow".toList then some true
  else if cs = "deny".toList then some false
  else none

def read_operation (cs : List Char) : Option Operation :=
  if cs = "file-read*".toList then some .file_read
  else if cs = "file-write*".toList then some .file_write
  else if cs = "network*".toList then some .network
  else none

def read_filter : Node → Option Filter
  | .list [.leaf (.atom head), .leaf (.string path)] =>
    if head = "literal".toList then some (.literal path)
    else if head = "subpath".toList then some (.subpath path)
    else none
  | .list [.leaf (.atom head), .leaf (.pattern text)] =>
    if head = "regex".toList then (Regex.read text).map .regex else none
  | _ => none

def read_clause : Node → Option Clause
  | .list [.leaf (.atom head), .leaf (.atom tail)] =>
    if head = "version".toList then some (.version tail)
    else do
      let allow ← read_effect head
      if tail = "default".toList then some (.default allow)
      else (read_operation tail).map fun operation => .rule allow operation .any
  | .list [.leaf (.atom head), .leaf (.atom operation), node] => do
    let allow ← read_effect head
    let operation ← read_operation operation
    let filter ← read_filter node
    some (.rule allow operation filter)
  | _ => none

/-- The clauses of a profile. -/
def read_profile (text : List Char) : Option (List Clause) :=
  match pipe lex nest (.between, []) text with
  | .ok ((.between, []), nodes) => nodes.mapM read_clause
  | _                           => none

/-! ### Decisions -/

/-- An access: what is done, and to which path. -/
structure Access where
  operation : Operation
  path : List Char

def Filter.accepts : Filter → List Char → Prop
  | .any, _             => True
  | .literal lit, path  => path = lit
  | .subpath root, path => AbsPath.below root path
  | .regex r, path      => r.finds path

/-- The clause is a rule about the access. -/
def Clause.applies : Clause → Access → Prop
  | .version _, _                    => False
  | .default _, _                    => True
  | .rule _ operation filter, access => operation = access.operation ∧ filter.accepts access.path

/-- What the clause says when it applies. -/
def Clause.effect : Clause → Bool
  | .version _       => false
  | .default allow   => allow
  | .rule allow _ _  => allow

/-- The last clause that applies decides; none denies. -/
def allows : List Clause → Access → Prop
  | [], _           => False
  | c :: cs, access =>
    allows cs access ∨ (c.effect = true ∧ c.applies access ∧ ∀ d ∈ cs, ¬ d.applies access)

end Seatbelt
