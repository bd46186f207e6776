import Pagewise.Document.Number
import Pagewise.Yaml.Scalar
import Pagewise.Yaml.Tag

/-!
The tokens of a YAML text. Indentation becomes tokens that open and close blocks. A key shows only by
the colon behind it, so every place where one could begin is remembered, and the colon puts the key
token there: that place has to be on the line of the colon and at most 1024 bytes before it.
-/
namespace Pagewise.Yaml

inductive Token where
  | versionDirective (major minor : Nat)
  | tagDirective (handle : String) (lead : List UInt8)
  | documentStart
  | documentEnd
  | streamEnd
  | blockSequenceStart
  | blockMappingStart
  | blockEnd
  | flowSequenceStart
  | flowSequenceEnd
  | flowMappingStart
  | flowMappingEnd
  | dash
  | comma
  | key
  | value
  | alias (name : String)
  | anchor (name : String)
  | tag (handle : String) (suffix : List UInt8)
  | scalar (style : Style) (text : String)
  deriving DecidableEq, Repr

/-- A place where a key may begin. -/
structure KeyPlace where
  /-- No other token than a key may begin here. -/
  required : Bool
  number : Nat
  line : Nat
  column : Nat
  index : Nat

structure Scanner where
  source : Source
  /-- The latest first. -/
  tokens : List Token
  /-- The column of the innermost block, -1 outside of all. -/
  indent : Int
  outer : List Int
  /-- A key may begin at the next token. -/
  keyAllowed : Bool
  key : Option KeyPlace
  outerKeys : List (Option KeyPlace)

namespace Scanner

def start (s : Source) : Scanner := ⟨s, [], -1, [], true, none, []⟩

def inFlow (t : Scanner) : Bool := !t.outerKeys.isEmpty

def emit (t : Scanner) (token : Token) : Scanner := { t with tokens := token :: t.tokens }

def pass (t : Scanner) (n : Nat) : Scanner := { t with source := t.source.skip n }

def insert (t : Scanner) (number : Nat) (new : List Token) : Scanner :=
  let later := t.tokens.length - number
  { t with tokens := t.tokens.take later ++ new.reverse ++ t.tokens.drop later }

/-! ### Keys -/

def dropKey (t : Scanner) : Option Scanner :=
  if t.key.any KeyPlace.required then none else some { t with key := none }

def saveKey (t : Scanner) : Option Scanner :=
  if t.keyAllowed then
    t.dropKey.map fun t =>
      let s := t.source
      { t with key := some ⟨!t.inFlow && t.indent == s.column, t.tokens.length, s.line, s.column,
        s.index⟩ }
  else some t

def isStale (s : Source) (k : KeyPlace) : Bool := k.line < s.line || k.index + 1024 < s.index

def dropStale (t : Scanner) : Option Scanner :=
  let stale := fun (k : Option KeyPlace) => k.any (isStale t.source)
  if (t.key :: t.outerKeys).any fun k => stale k && k.any KeyPlace.required then none
  else
    let keep := fun k => if stale k then none else k
    some { t with key := keep t.key, outerKeys := t.outerKeys.map keep }

/-! ### Blocks -/

def closeBlocks (column : Int) : List Int → Scanner → Scanner
  | [], t => t
  | i :: outer, t =>
    if column < t.indent then closeBlocks column outer { t.emit .blockEnd with indent := i, outer }
    else t

def unroll (t : Scanner) (column : Int) : Scanner :=
  if t.inFlow then t else closeBlocks column t.outer t

/-- Open a block at a column if there is none. -/
def roll (t : Scanner) (column : Nat) (number : Nat) (token : Token) : Scanner :=
  if !t.inFlow && t.indent < column then
    { t.insert number [token] with indent := column, outer := t.indent :: t.outer }
  else t

/-! ### Tokens -/

def toToken : Nat → Scanner → Scanner
  | 0, t => t
  | fuel + 1, t =>
    let s := t.source
    let s := if s.column == 0 && s.ahead 0 == some (Char.ofNat 0xFEFF) then s.step else s
    let tabs := t.inFlow || !t.keyAllowed
    let s := s.upTo (s.rest.dropWhile fun c => c == ' ' || (tabs && c == '\t'))
    let s := if s.ahead 0 == some '#' then s.upTo (s.rest.dropWhile fun c => !isBreak c) else s
    if (s.ahead 0).any isBreak then
      toToken fuel { t with source := s.step, keyAllowed := t.keyAllowed || !t.inFlow }
    else { t with source := s }

def atEnd (t : Scanner) : Option Scanner := do
  let s := t.source
  let s := if s.column = 0 then s else { s with column := 0, line := s.line + 1 }
  let t ← ({ t with source := s }.unroll (-1)).dropKey
  return { t with keyAllowed := false }.emit .streamEnd

def versionNumber (cs : List Char) : Option (Nat × List Char) :=
  let digits := cs.takeWhile Char.isDigit
  if digits.isEmpty || 9 < digits.length then none
  else some (Number.digitsValue digits, cs.dropWhile Char.isDigit)

def isTagChar (c : Char) : Bool := isWordChar c || ";/?:@&=+$.!~*'()%".contains c

def isVerbatimChar (c : Char) : Bool := isTagChar c || ",[]".contains c

def handle (cs : List Char) : Option (List Char × List Char) :=
  match cs with
  | '!' :: rest =>
    let word := rest.takeWhile isWordChar
    match rest.dropWhile isWordChar with
    | '!' :: after => some ('!' :: (word ++ ['!']), after)
    | after => some ('!' :: word, after)
  | _ => none

def directive (cs : List Char) : Option (Token × List Char) :=
  let name := cs.takeWhile isWordChar
  let rest := cs.dropWhile isWordChar
  if !endsWord rest.head? then none
  else
    let rest := rest.dropWhile isBlank
    if name == "YAML".toList then do
      let (major, rest) ← versionNumber rest
      if rest.head? != some '.' then none
      else
        let (minor, rest) ← versionNumber (rest.drop 1)
        return (.versionDirective major minor, rest)
    else if name == "TAG".toList then do
      let (handle, rest) ← handle rest
      if handle != ['!'] && handle.getLast? != some '!' then none
      else if !rest.head?.any isBlank then none
      else
        let rest := rest.dropWhile isBlank
        let lead := rest.takeWhile isVerbatimChar
        let rest := rest.dropWhile isVerbatimChar
        if lead.isEmpty || !endsWord rest.head? then none
        else return (.tagDirective (String.ofList handle) (← Tag.unescape? lead), rest)
    else none

def tag (flow : Bool) (cs : List Char) : Option (Token × List Char) := do
  let (token, rest) ← match cs with
    | '!' :: '<' :: rest =>
      let text := rest.takeWhile isVerbatimChar
      match rest.dropWhile isVerbatimChar with
      | '>' :: after =>
        if text.isEmpty then none else some (Token.tag "" (← Tag.unescape? text), after)
      | _ => none
    | cs => do
      let (handle, rest) ← handle cs
      let text := rest.takeWhile isTagChar
      let after := rest.dropWhile isTagChar
      if handle.length != 1 && handle.getLast? == some '!' then
        if text.isEmpty then none
        else some (Token.tag (String.ofList handle) (← Tag.unescape? text), after)
      else
        let suffix ← Tag.unescape? (handle.drop 1 ++ text)
        some (if suffix.isEmpty then Token.tag "" Tag.mark else Token.tag "!" suffix, after)
  if (flow && rest.head? == some ',') || endsWord rest.head? then some (token, rest) else none

def anchorName (cs : List Char) : Option (String × List Char) :=
  let name := cs.takeWhile isWordChar
  let rest := cs.dropWhile isWordChar
  if !name.isEmpty && (endsWord rest.head? || rest.head?.any ("?:,]\x7d%@`".contains ·)) then
    some (String.ofList name, rest)
  else none

def keyPart (t : Scanner) (read : List Char → Option (Token × List Char)) : Option Scanner := do
  let t ← t.saveKey
  let (token, rest) ← read t.source.rest
  return { t with keyAllowed := false, source := t.source.upTo rest }.emit token

def openFlow (t : Scanner) (token : Token) : Option Scanner :=
  t.saveKey.map fun t =>
    ({ t with outerKeys := t.key :: t.outerKeys, key := none, keyAllowed := true }.pass 1).emit token

def closeFlow (t : Scanner) (token : Token) : Option Scanner :=
  t.dropKey.map fun t =>
    let t := match t.outerKeys with
      | [] => t
      | k :: ks => { t with key := k, outerKeys := ks }
    ({ t with keyAllowed := false }.pass 1).emit token

def markDocument (t : Scanner) (token : Token) : Option Scanner :=
  (t.unroll (-1)).dropKey.map fun t => ({ t with keyAllowed := false }.pass 3).emit token

def blockIndicator (t : Scanner) (opening token : Token) (keyAllowed : Bool) : Option Scanner :=
  if !t.inFlow && !t.keyAllowed then none
  else (t.roll t.source.column t.tokens.length opening).dropKey.map fun t =>
    ({ t with keyAllowed }.pass 1).emit token

/-- A colon: it makes a key of what began at the remembered place, or stands after a marked key. -/
def colon (t : Scanner) : Option Scanner :=
  match t.key with
  | some k =>
    let t := (t.insert k.number [.key]).roll k.column k.number .blockMappingStart
    some (({ t with key := none, keyAllowed := false }.pass 1).emit .value)
  | none =>
    if !t.inFlow && !t.keyAllowed then none
    else
      let t := t.roll t.source.column t.tokens.length .blockMappingStart
      some (({ t with keyAllowed := !t.inFlow }.pass 1).emit .value)

def block (t : Scanner) (folded : Bool) : Option Scanner := do
  let t ← t.dropKey
  let (text, rest) ← blockText folded t.indent (t.source.rest.drop 1)
  return { t with keyAllowed := true, source := t.source.upTo rest }.emit
    (.scalar (if folded then .folded else .literal) (String.ofList text))

def quoted (t : Scanner) (double : Bool) : Option Scanner := do
  let t ← t.saveKey
  let (text, s) ← quotedText double (t.source.rest.length + 1) t.source.step []
  return { t with keyAllowed := false, source := s }.emit (.scalar .quoted (String.ofList text))

def plain (t : Scanner) : Option Scanner := do
  let t ← t.saveKey
  let r ← plainWords t.inFlow (t.indent + 1) (t.source.rest.length + 1) t.source [] [] false
  return { t with keyAllowed := r.broken, source := r.after }.emit
    (.scalar .plain (String.ofList r.text))

/-- Plain text may begin with any character but blanks and indicators, and with some of these if no
blank follows. -/
def startsPlain (flow : Bool) (c : Char) (next : Option Char) : Bool :=
  !(isBlank c || isBreak c || "-?:,[]\x7b\x7d#&*!|>'\"%@`".contains c) ||
    (c == '-' && !next.any isBlank) || (!flow && (c == '?' || c == ':') && !endsWord next)

def token (t : Scanner) : Option Scanner :=
  let s := t.source
  let flow := t.inFlow
  match s.rest with
  | [] => t.atEnd
  | c :: rest =>
    let apart := flow || endsWord rest.head?
    if s.column == 0 && c == '%' then do
      let t ← (t.unroll (-1)).dropKey
      let (token, rest) ← directive rest
      return { t with keyAllowed := false, source := t.source.upTo (← lineEnd rest) }.emit token
    else if s.atMark '-' then t.markDocument .documentStart
    else if s.atMark '.' then t.markDocument .documentEnd
    else if c == '[' then t.openFlow .flowSequenceStart
    else if c == '\x7b' then t.openFlow .flowMappingStart
    else if c == ']' then t.closeFlow .flowSequenceEnd
    else if c == '\x7d' then t.closeFlow .flowMappingEnd
    else if c == ',' then
      t.dropKey.map fun t => ({ t with keyAllowed := true }.pass 1).emit .comma
    else if c == '-' && endsWord rest.head? then
      t.blockIndicator .blockSequenceStart .dash true
    else if c == '?' && apart then t.blockIndicator .blockMappingStart .key (!flow)
    else if c == ':' && apart then t.colon
    else if c == '*' then
      t.keyPart fun cs => (anchorName (cs.drop 1)).map fun r => (.alias r.1, r.2)
    else if c == '&' then
      t.keyPart fun cs => (anchorName (cs.drop 1)).map fun r => (.anchor r.1, r.2)
    else if c == '!' then t.keyPart (tag flow)
    else if c == '|' && !flow then t.block false
    else if c == '>' && !flow then t.block true
    else if c == '\'' then t.quoted false
    else if c == '"' then t.quoted true
    else if startsPlain flow c rest.head? then t.plain
    else none

def run : Nat → Scanner → Option (List Token)
  | 0, _ => none
  | fuel + 1, t =>
    match (toToken (t.source.rest.length + 1) t).dropStale with
    | none => none
    | some t =>
      match (t.unroll t.source.column).token with
      | none => none
      | some t => if t.tokens.head? == some .streamEnd then some t.tokens.reverse else run fuel t

end Scanner

/-- The tokens of a text. Each one uses up a character, and the end of the text is one more. -/
def tokens? (text : String) : Option (List Token) :=
  (Source.ofText text).bind fun s => Scanner.run (s.rest.length + 2) (.start s)

end Pagewise.Yaml
