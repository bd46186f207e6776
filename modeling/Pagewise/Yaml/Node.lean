import Pagewise.Yaml.Token

/-!
The document that the tokens of a text make up. A name before a node gives it a number, and an alias
stands for the node of that number. A node may get the number of another one if names are given
twice; the number then belongs to the node that begins last.
-/
namespace Pagewise.Yaml

structure Properties where
  number : Option Nat
  tag : Option Tag
  deriving DecidableEq, Repr

inductive Node where
  | scalar (properties : Properties) (style : Style) (text : String)
  | sequence (properties : Properties) (items : List Node)
  | mapping (properties : Properties) (entries : List (Node × Node))
  | alias (number : Nat)

namespace Node

def bare : Properties := ⟨none, none⟩

def empty (p : Properties) : Node := .scalar p .plain ""

instance : Inhabited Node := ⟨.empty bare⟩

/-! ### Properties -/

abbrev Handles := List (String × List UInt8)

def standardHandles : Handles := [("!", Tag.mark), ("!!", Text.Utf8.encode Tag.coreLead)]

abbrev Names := List (String × Nat)

/-- Give a name to the next node: its number counts the names that there are. -/
def nameNode (names : Names) (name : String) : Nat × Names :=
  (names.length, (name, names.length) :: names.filter fun e => e.1 != name)

def resolveTag (handles : Handles) (handle : String) (suffix : List UInt8) : Option Tag :=
  if handle.isEmpty then some (.ofBytes suffix)
  else (handles.lookup handle).map fun lead => .ofBytes (lead ++ suffix)

abbrev Read (α : Type) := Option (α × Names × List Token)

def properties (handles : Handles) (names : Names) (tokens : List Token) : Read Properties :=
  let anchored := fun (name : String) (tag : Option Tag) (rest : List Token) =>
    let named := nameNode names name
    ((⟨some named.1, tag⟩ : Properties), named.2, rest)
  match tokens with
  | .anchor a :: .tag h s :: rest => (resolveTag handles h s).map fun t => anchored a (some t) rest
  | .tag h s :: .anchor a :: rest => (resolveTag handles h s).map fun t => anchored a (some t) rest
  | .anchor a :: rest => some (anchored a none rest)
  | .tag h s :: rest => (resolveTag handles h s).map fun t => (⟨none, some t⟩, names, rest)
  | rest => some (bare, names, rest)

/-! ### Nodes -/

inductive Place where
  | flow
  | block
  | inMapping
  deriving DecidableEq

mutual

def node (handles : Handles) : Nat → Place → Names → List Token → Read Node
  | 0, _, _, _ => none
  | fuel + 1, place, names, tokens =>
    match tokens with
    | .alias a :: rest => (names.lookup a).map fun n => (.alias n, names, rest)
    | _ =>
      match properties handles names tokens with
      | none => none
      | some (p, names, tokens) =>
        let isEmpty := if p == bare then none else some (empty p, names, tokens)
        let sequence := fun (r : Read (List Node)) => r.map fun r => (Node.sequence p r.1, r.2)
        let mapping := fun (r : Read (List (Node × Node))) =>
          r.map fun r => (Node.mapping p r.1, r.2)
        match place, tokens with
        | .inMapping, .dash :: _ => sequence (dashes handles fuel true names tokens)
        | _, .scalar style text :: rest => some (.scalar p style text, names, rest)
        | _, .flowSequenceStart :: rest => sequence (flowItems handles fuel true names rest)
        | _, .flowMappingStart :: rest => mapping (flowEntries handles fuel true names rest)
        | .flow, _ => isEmpty
        | _, .blockSequenceStart :: rest => sequence (dashes handles fuel false names rest)
        | _, .blockMappingStart :: rest => mapping (blockEntries handles fuel names rest)
        | _, _ => isEmpty

def nodeUnless (handles : Handles) : Nat → (stop : Token → Bool) → Place → Names → List Token →
    Read Node
  | 0, _, _, _, _ => none
  | fuel + 1, stop, place, names, tokens =>
    if tokens.head?.any stop then some (empty bare, names, tokens)
    else node handles fuel place names tokens

/-- Items behind dashes. `inline` items stand in a mapping without a block of their own. -/
def dashes (handles : Handles) : Nat → (inline : Bool) → Names → List Token → Read (List Node)
  | 0, _, _, _ => none
  | fuel + 1, inline, names, tokens =>
    match tokens with
    | .dash :: rest =>
      let stop := fun t =>
        t == .dash || t == .blockEnd || (inline && (t == .key || t == .value))
      match nodeUnless handles fuel stop .block names rest with
      | none => none
      | some (n, names, rest) =>
        (dashes handles fuel inline names rest).map fun r => (n :: r.1, r.2)
    | rest =>
      if inline then some ([], names, rest)
      else match rest with
        | .blockEnd :: rest => some ([], names, rest)
        | _ => none

def blockEntries (handles : Handles) : Nat → Names → List Token → Read (List (Node × Node))
  | 0, _, _ => none
  | fuel + 1, names, tokens =>
    let stop := fun t => t == .key || t == .value || t == .blockEnd
    match tokens with
    | .blockEnd :: rest => some ([], names, rest)
    | .key :: rest =>
      match nodeUnless handles fuel stop .inMapping names rest with
      | none => none
      | some (k, names, rest) =>
        let value : Read Node := match rest with
          | .value :: rest => nodeUnless handles fuel stop .inMapping names rest
          | rest => some (empty bare, names, rest)
        match value with
        | none => none
        | some (v, names, rest) =>
          (blockEntries handles fuel names rest).map fun r => ((k, v) :: r.1, r.2)
    | _ => none

/-- Items between brackets; an item with a key is a mapping by itself. A key that is marked and left
out takes the token behind its mark away. -/
def flowItems (handles : Handles) : Nat → (first : Bool) → Names → List Token → Read (List Node)
  | 0, _, _, _ => none
  | fuel + 1, first, names, tokens =>
    match first, tokens with
    | _, .flowSequenceEnd :: rest => some ([], names, rest)
    | false, .comma :: .flowSequenceEnd :: rest => some ([], names, rest)
    | first, tokens =>
      let isEnd := fun t => t == Token.flowSequenceEnd
      let left : Option (List Token) := match first, tokens with
        | true, tokens => some tokens
        | false, .comma :: rest => some rest
        | false, _ => none
      let pair := fun (key : Node) (r : Read Node) =>
        r.map fun r => (.mapping bare [(key, r.1)], r.2)
      let item : Read Node := match left with
        | none => none
        | some (.key :: rest) =>
          match rest with
          | .value :: rest | .comma :: rest | .flowSequenceEnd :: rest =>
            pair (empty bare) (flowValue handles fuel isEnd names rest)
          | rest =>
            match node handles fuel .flow names rest with
            | none => none
            | some (key, names, rest) => pair key (flowValue handles fuel isEnd names rest)
        | some tokens => node handles fuel .flow names tokens
      match item with
      | none => none
      | some (n, names, rest) =>
        (flowItems handles fuel false names rest).map fun r => (n :: r.1, r.2)

def flowValue (handles : Handles) : Nat → (isEnd : Token → Bool) → Names → List Token → Read Node
  | 0, _, _, _ => none
  | fuel + 1, isEnd, names, tokens =>
    match tokens with
    | .value :: rest => nodeUnless handles fuel (fun t => t == .comma || isEnd t) .flow names rest
    | rest => some (empty bare, names, rest)

/-- Entries between braces; a node without a key token is a key with an empty value. -/
def flowEntries (handles : Handles) : Nat → (first : Bool) → Names → List Token →
    Read (List (Node × Node))
  | 0, _, _, _ => none
  | fuel + 1, first, names, tokens =>
    match first, tokens with
    | _, .flowMappingEnd :: rest => some ([], names, rest)
    | false, .comma :: .flowMappingEnd :: rest => some ([], names, rest)
    | first, tokens =>
      let isEnd := fun t => t == Token.flowMappingEnd
      let left : Option (List Token) := match first, tokens with
        | true, tokens => some tokens
        | false, .comma :: rest => some rest
        | false, _ => none
      let entry : Read (Node × Node) := match left with
        | none => none
        | some (.key :: rest) =>
          let stop := fun t => t == .value || t == .comma || isEnd t
          match nodeUnless handles fuel stop .flow names rest with
          | none => none
          | some (key, names, rest) =>
            (flowValue handles fuel isEnd names rest).map fun r => ((key, r.1), r.2)
        | some tokens =>
          (node handles fuel .flow names tokens).map fun r => ((r.1, empty bare), r.2)
      match entry with
      | none => none
      | some (e, names, rest) =>
        (flowEntries handles fuel false names rest).map fun r => (e :: r.1, r.2)

end

/-! ### Documents -/

def directives : (version : Bool) → Handles → List Token → Option (Handles × List Token)
  | version, own, .versionDirective major minor :: rest =>
    if version || major != 1 || (minor != 1 && minor != 2) then none else directives true own rest
  | version, own, .tagDirective handle lead :: rest =>
    if (own.lookup handle).isSome then none else directives version ((handle, lead) :: own) rest
  | _, own, rest => some (own ++ standardHandles, rest)

def endsDocument (t : Token) : Bool :=
  match t with
  | .versionDirective _ _ | .tagDirective _ _ | .documentStart | .documentEnd | .streamEnd => true
  | _ => false

def isFinished (tokens : List Token) : Bool :=
  tokens.dropWhile (· == .documentEnd) == [.streamEnd]

/-- The only document of the tokens. Each level of reading uses up a token or goes down one of four
steps, so the fuel never runs out. -/
def ofTokens? (tokens : List Token) : Option Node := do
  let fuel := 4 * tokens.length + 4
  let body := fun handles tokens => node handles fuel .block [] tokens
  let (n, _, rest) ← match tokens with
    | [.streamEnd] => none
    | .versionDirective _ _ :: _ | .tagDirective _ _ :: _ | .documentStart :: _ => do
      let (handles, rest) ← directives false [] tokens
      match rest with
      | .documentStart :: rest =>
        if rest.head?.any endsDocument then some (empty bare, [], rest) else body handles rest
      | _ => none
    | tokens => body standardHandles tokens
  if isFinished rest then return n else none

def ofText? (text : String) : Option Node := (tokens? text).bind ofTokens?

/-! ### Parts -/

mutual

def size : Node → Nat
  | .scalar _ _ _ | .alias _ => 1
  | .sequence _ items => sizeOfItems items + 2
  | .mapping _ entries => sizeOfEntries entries + 2

def sizeOfItems : List Node → Nat
  | [] => 0
  | n :: rest => n.size + sizeOfItems rest

def sizeOfEntries : List (Node × Node) → Nat
  | [] => 0
  | (k, v) :: rest => k.size + v.size + sizeOfEntries rest

end

def own (n : Node) (p : Properties) : List (Nat × Node) := (p.number.map (·, n)).toList

mutual

def numbered : Node → List (Nat × Node)
  | .scalar p style text => own (.scalar p style text) p
  | .sequence p items => own (.sequence p items) p ++ numberedItems items
  | .mapping p entries => own (.mapping p entries) p ++ numberedEntries entries
  | .alias _ => []

def numberedItems : List Node → List (Nat × Node)
  | [] => []
  | n :: rest => n.numbered ++ numberedItems rest

def numberedEntries : List (Node × Node) → List (Nat × Node)
  | [] => []
  | (k, v) :: rest => k.numbered ++ v.numbered ++ numberedEntries rest

end

end Node

end Pagewise.Yaml
