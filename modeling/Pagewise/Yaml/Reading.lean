import Pagewise.Table
import Pagewise.Yaml.Node
import Pagewise.Yaml.Value

/-!
Reading values of an expected type from a document. An alias is followed where a value is read, and
only there; how often this may happen is limited by the size of the document, so that documents which
unfold without end, or nearly so, are refused.
-/
namespace Pagewise.Yaml

/-- Reading among numbered nodes; the state is how many more aliases may be followed. -/
abbrev Reading (α : Type) := ReaderT (List (Nat × Node)) (StateT Nat Option) α

namespace Node

def aliasLimit : Nat := 100

def readAll? {α : Type} (read : Node → Reading α) (n : Node) : Option α :=
  ((read n).run n.numbered.reverse |>.run (aliasLimit * n.size)).map Prod.fst

def follow : Node → Reading Node
  | .alias number => do
    match ← get with
    | 0 => failure
    | left + 1 =>
      set left
      liftM ((← read).lookup number)
  | n => pure n

/-! ### Values of an expected type -/

def text (n : Node) : Reading String := do
  match ← n.follow with
  | .scalar _ _ text => return text
  | _ => failure

def mayBeInt (p : Properties) (style : Style) : Bool :=
  style == .plain || (style == .literal && p.tag == some .int)

def natBelow (bound : Nat) (n : Node) : Reading Nat := do
  match ← n.follow with
  | .scalar p style text =>
    if mayBeInt p style then liftM ((natural? text).filter (· < bound)) else failure
  | _ => failure

/-- Whether null is written instead of a value. A plain scalar with the tag of null has to be null. -/
def isAbsent? : Node → Option Bool
  | .scalar p .plain text =>
    match p.tag with
    | none => some (text.isEmpty || isNull text)
    | some .null => if isNull text then some true else none
    | some _ => some false
  | _ => some false

def optional {α : Type} (read : Node → Reading α) (n : Node) : Reading (Option α) := do
  let n ← n.follow
  if ← liftM n.isAbsent? then return none else return some (← read n)

def entries (n : Node) : Reading (List (Node × Node)) := do
  match ← n.follow with
  | .mapping _ entries => return entries
  | .scalar _ .plain "" => return []
  | _ => failure

def named (n : Node) : Reading (List (String × Node)) := do
  (← n.entries).mapM fun e => return (← e.1.text, e.2)

def fields (names : List String) (n : Node) : Reading (List (String × Node)) := do
  let known := (← n.named).filter fun e => names.contains e.1
  if (known.map Prod.fst).Nodup then return known else failure

def table {α : Type} (read : Node → Reading α) (n : Node) : Reading (Table α) := do
  return .ofList (← (← n.named).mapM fun e => return (e.1, ← read e.2))

def defaulted {α : Type} (default : α) (read : Node → Reading α) : Option Node → Reading α
  | none => pure default
  | some n => read n

/-! ### Values of any type -/

def refuseNamed (p : Properties) : Reading Unit :=
  match p.tag with
  | some (.named _) => failure
  | _ => pure ()

def valueOr (collection : Node → Reading Unit) (n : Node) : Reading (Option Typed) := do
  match ← n.follow with
  | .scalar p style text => return some (← liftM (typedScalar? p.tag style text))
  | n =>
    collection n
    return none

/-- The value of a scalar. Collections are nested at most so deep, and all in them has to have a
value. -/
def value : (depth : Nat) → Node → Reading (Option Typed)
  | 0 => valueOr fun _ => failure
  | depth + 1 => valueOr fun n => do
    match n with
    | .sequence p items =>
      refuseNamed p
      items.forM fun i => discard (value depth i)
    | .mapping p entries =>
      refuseNamed p
      entries.forM fun e => do
        discard (value depth e.1)
        discard (value depth e.2)
    | _ => failure

end Node

end Pagewise.Yaml
