import Pagewise.Url.Address
import Pagewise.Url.Path

/-!
Absolute URLs in their normalized form. The URLs of special schemes have a host, those of files may
have one, and their paths begin with a slash; those of other schemes may have neither host nor slash,
and then the path is kept as it is.
-/
namespace Pagewise

inductive Host where
  | domain (name : String)
  | ipv4 (address : Nat)
  | ipv6 (pieces : List Nat)
  deriving DecidableEq, Repr

def Host.write : Host → String
  | .domain name => name
  | .ipv4 a => Address.writeIpv4 a
  | .ipv6 ps => "[" ++ Address.writeIpv6 ps ++ "]"

structure Authority where
  user : String
  password : String
  host : Host
  port : Option Nat
  deriving DecidableEq, Repr

def Authority.write (a : Authority) : String :=
  let password := if a.password.isEmpty then "" else ":" ++ a.password
  let credentials := a.user ++ password
  (if credentials.isEmpty then "" else credentials ++ "@") ++ a.host.write ++
    (match a.port with
      | some port => ":" ++ toString port
      | none => "")

structure Url where
  scheme : String
  authority : Option Authority
  path : String
  query : Option String
  fragment : Option String
  deriving DecidableEq, Repr

namespace Url

/-! ### Schemes -/

def defaultPort? (scheme : String) : Option Nat :=
  [("http", 80), ("ws", 80), ("https", 443), ("wss", 443), ("ftp", 21)].lookup scheme

def isFile (scheme : String) : Bool := scheme == "file"

def isSpecial (scheme : String) : Bool := isFile scheme || (defaultPort? scheme).isSome

def isSchemeChar (c : Char) : Bool := c.isAlphanum || c == '+' || c == '-' || c == '.'

def scheme? (cs : List Char) : Option (String × List Char) :=
  match cs, cs.dropWhile isSchemeChar with
  | c :: _, ':' :: rest =>
    if c.isAlpha then
      some (String.ofList ((cs.takeWhile isSchemeChar).map Char.toLower), rest)
    else none
  | _, _ => none

/-! ### Authority -/

def isSlash (special : Bool) (c : Char) : Bool := c == '/' || (special && c == '\\')

def endsAuthority (special : Bool) (c : Char) : Bool := isSlash special c || c == '?' || c == '#'

def splitCredentials (cs : List Char) : Option (List Char) × List Char :=
  if cs.contains '@' then
    let host := (cs.reverse.takeWhile (· != '@')).reverse
    (some (cs.take (cs.length - host.length - 1)), host)
  else (none, cs)

def splitPort (inside : Bool) : List Char → List Char × List Char
  | [] => ([], [])
  | c :: rest =>
    if c == ':' && !inside then ([], c :: rest)
    else
      let r := splitPort (if c == '[' then true else if c == ']' then false else inside) rest
      (c :: r.1, r.2)

def bracketed? (cs : List Char) : Option (Except UrlError Host) :=
  match cs with
  | '[' :: rest =>
    some <| match rest.reverse with
      | ']' :: inner =>
        match Address.ipv6? inner.reverse with
        | some ps => .ok (.ipv6 ps)
        | none => .error .invalidIpv6
      | _ => .error .invalidIpv6
  | _ => none

def domainHost (cs : List Char) : Except UrlError Host :=
  (bracketed? cs).getD do
    let name ← Domain.parse cs
    if name.isEmpty then .error .emptyHost
    else
      let labels := Domain.labels name
      if Address.endsInNumber labels then
        match Address.ipv4? labels with
        | some a => .ok (.ipv4 a)
        | none => .error .invalidIpv4
      else .ok (.domain (String.ofList name))

def plainHost (cs : List Char) : Except UrlError Host :=
  (bracketed? cs).getD <|
    if cs.any fun c => c == ' ' || c.toNat == 0 || "#/:<>?@[\\]^|".contains c then
      .error .invalidDomainCharacter
    else .ok (.domain (String.ofList (Percent.encode Percent.isControl cs)))

/-- The port behind a host, and what is left. A colon before the port may stand alone; a backslash
ends the port whether it counts as a slash or not. -/
def port? : List Char → Except UrlError (Option Nat × List Char)
  | ':' :: rest =>
    let digits := rest.takeWhile Char.isDigit
    let after := rest.dropWhile Char.isDigit
    if !after.head?.all (· == '\\') then .error .invalidPort
    else if digits.isEmpty then .ok (none, after)
    else match (Address.numeral? 10 digits).filter (· < UInt16.size) with
      | some n => .ok (some n, after)
      | none => .error .invalidPort
  | rest => .ok (none, rest)

/-- The authority and what follows it. A host may be missing unless something belongs to it, and not
behind a lone `@` that more follows. -/
def readAuthority (scheme : String) (cs : List Char) : Except UrlError (Authority × List Char) := do
  let special := isSpecial scheme
  let after := cs.dropWhile fun c => !endsAuthority special c
  let (credentials, rest) := splitCredentials (cs.takeWhile fun c => !endsAuthority special c)
  let (host, port) := splitPort false rest
  let user := (credentials.getD []).takeWhile (· != ':')
  let password := (credentials.getD []).drop (user.length + 1)
  let isLone := credentials == some [] && rest.isEmpty && !after.isEmpty
  if host.isEmpty &&
      (special || !port.isEmpty || !user.isEmpty || !password.isEmpty || isLone) then
    .error .emptyHost
  else
    let host ← if special then domainHost host else plainHost host
    let (port, left) ← port? port
    let write := fun cs => String.ofList (Percent.encode Percent.inCredentials cs)
    return (⟨write user, write password, host,
      port.filter fun n => some n != defaultPort? scheme⟩, left ++ after)

/-! ### Path -/

def segments (special : Bool) : List Char → List (List Char)
  | [] => [[]]
  | c :: rest =>
    match segments special rest with
    | [] => [[c]]
    | l :: ls => if isSlash special c then [] :: l :: ls else (c :: l) :: ls

def pathFrom (scheme : String) (lead cs : List Char) : PathText :=
  (PathText.ofList lead).addAll (isFile scheme) (segments (isSpecial scheme) cs)

/-- The path behind an authority. It begins with a slash, written or not, unless nothing is written
and the scheme is not special. -/
def pathOf (scheme : String) (cs : List Char) : PathText :=
  if isSpecial scheme then
    pathFrom scheme ['/'] (if cs.head?.any (isSlash true) then cs.drop 1 else cs)
  else if cs.head?.all (· == '/') then pathFrom scheme [] cs
  else pathFrom scheme ['/'] cs

/-! ### The whole -/

def query? (scheme : String) : List Char → Option String
  | '?' :: rest =>
    let set := if isSpecial scheme then Percent.inSpecialQuery else Percent.inQuery
    some (String.ofList (Percent.encode set (rest.takeWhile (· != '#'))))
  | _ => none

def fragment? (cs : List Char) : Option String :=
  match cs.dropWhile (· != '#') with
  | '#' :: rest => some (String.ofList (Percent.encode Percent.inFragment rest))
  | _ => none

def endsPath (c : Char) : Bool := c == '?' || c == '#'

def splitTail (cs : List Char) : List Char × List Char :=
  (cs.takeWhile fun c => !endsPath c, cs.dropWhile fun c => !endsPath c)

def withAuthority (scheme : String) (cs : List Char) : Except UrlError Url := do
  let (a, rest) ← readAuthority scheme cs
  let (path, tail) := splitTail rest
  return ⟨scheme, some a, String.ofList (pathOf scheme path).toList, query? scheme tail,
    fragment? tail⟩

def withoutAuthority (scheme : String) (cs : List Char) : Url :=
  let (path, tail) := splitTail cs
  let path := if path.head? == some '/' then (pathFrom scheme [] path).toList
    else Percent.encode Percent.isControl path
  ⟨scheme, none, String.ofList path, query? scheme tail, fragment? tail⟩

/-! ### Files -/

def localAuthority : Authority := ⟨"", "", .domain "", none⟩

/-- The URL of a file, from its path and what follows that. A drive letter stands for a host. -/
def ofFilePath (host : Option Host) (p : PathText) (tail : List Char) : Url :=
  let host := if p.hasDrive then none else host
  ⟨"file", some { localAuthority with host := host.getD (.domain "") },
    String.ofList (PathText.withOneSlash p.toList), query? "file" tail, fragment? tail⟩

/-- The host behind two slashes, if there is one, and what follows it. The host may be left out,
written as `localhost`, or a drive letter, which belongs to the path. -/
def fileHost (cs : List Char) : Except UrlError (Option Host × List Char) := do
  let host := cs.takeWhile fun c => !endsAuthority true c
  let after := cs.dropWhile fun c => !endsAuthority true c
  if PathText.isDrive host then return (none, cs)
  else if host.isEmpty then return (none, after)
  else
    let h ← domainHost host
    return (if h == .domain "localhost" then none else some h, after)

def file (cs : List Char) : Except UrlError Url := do
  match cs with
  | a :: b :: rest =>
    if isSlash true a && isSlash true b then
      let (host, rest) ← fileHost rest
      let (path, tail) := splitTail rest
      let p := if host.isSome then pathOf "file" path else pathFrom "file" ['/'] path
      return ofFilePath host p tail
  | _ => pure ()
  let (path, tail) := splitTail cs
  let lead := if cs.head?.any (isSlash true) then [] else ['/']
  return ofFilePath none (pathFrom "file" lead path) tail

/-! ### Reading -/

/-- Blanks and controls at the ends do not count, nor do tabs and line ends anywhere. -/
def clean (cs : List Char) : List Char :=
  let cs := cs.dropWhile (· ≤ ' ')
  let cs := (cs.reverse.dropWhile (· ≤ ' ')).reverse
  cs.filter fun c => !(c == '\t' || c == '\n' || c == '\r')

def parse (text : String) : Except UrlError Url :=
  match scheme? (clean text.toList) with
  | none => .error .noScheme
  | some (scheme, rest) =>
    if isFile scheme then file rest
    else if isSpecial scheme then withAuthority scheme (rest.dropWhile (isSlash true))
    else match rest with
      | '/' :: '/' :: rest => withAuthority scheme rest
      | rest => .ok (withoutAuthority scheme rest)

/-! ### Written form -/

def target (u : Url) : String :=
  u.path ++ (match u.query with
    | some query => "?" ++ query
    | none => "")

/-- A path that begins with two slashes is marked off where no authority precedes it. -/
def write (u : Url) : String :=
  let lead := match u.authority with
    | some a => "//" ++ a.write
    | none => if u.path.startsWith "//" then "/." else ""
  u.scheme ++ ":" ++ lead ++ u.target ++ (match u.fragment with
    | some fragment => "#" ++ fragment
    | none => "")

def isWeb (u : Url) : Bool := (u.scheme == "http" || u.scheme == "https") && u.authority.isSome

end Url

end Pagewise
