import FormCheck.Decimal.Literal
import FormCheck.Text.Split
import FormCheck.Web.Host

/-!
Web addresses: a scheme, and where two slashes follow it, the host that it leads to. What stands
behind the host never makes an address wrong.
-/
namespace FormCheck.Web

/-- The scheme of an address, in small letters, and its host, if it names one. -/
structure Address where
  scheme : String
  host : Option Host

/-- How the text behind a scheme is read. -/
inductive Kind where
  | web
  | file
  | other
  deriving DecidableEq

def kind (scheme : String) : Kind :=
  if ["http", "https", "ws", "wss", "ftp"].contains scheme then .web
  else if scheme = "file" then .file
  else .other

def isSchemeChar (c : Char) : Bool :=
  c.isAlphanum || c == '+' || c == '-' || c == '.'

def scheme? (s : List Char) : Option (String × List Char) := do
  let (name, rest) ← Text.splitFirst? ':' s
  guard (name.head?.any Char.isAlpha && name.all isSchemeChar)
  return (String.ofList (name.map Char.toLower), rest)

def endsAuthority (web : Bool) (c : Char) : Bool :=
  c == '/' || c == '?' || c == '#' || (web && c == '\\')

/-- The text of a host and what stands behind it. A colon ends a host outside brackets. -/
def splitHost (web : Bool) (inside : Bool) : List Char → List Char × List Char
  | [] => ([], [])
  | c :: s =>
    if endsAuthority web c || (c == ':' && !inside) then ([], c :: s)
    else
      let (host, rest) := splitHost web ((inside || c == '[') && c != ']') s
      (c :: host, rest)

def isPort (s : List Char) : Bool :=
  let digits := s.takeWhile Char.isDigit
  Decimal.natOfDigits digits ≤ 65535 &&
    !(s.dropWhile Char.isDigit).head?.any fun c => !endsAuthority true c

/-- What stands between the two slashes and the path: a name and a password before the last at
sign, a host, and a port. Outside the web the host may be empty, if nothing stands beside it. -/
def authority? (web : Bool) (s : List Char) : Option (Option Host) := do
  let authority := s.takeWhile fun c => !endsAuthority web c
  let (user, behind) := match Text.splitLast? '@' authority with
    | some (user, _) => (some user, s.drop (user.length + 1))
    | none => (none, s)
  let (text, rest) := splitHost web false behind
  let ported := rest.head? == some ':'
  guard (!ported || isPort (rest.drop 1))
  if text.isEmpty then
    let named := user.any fun u => !u.isEmpty && u != [':']
    let bare := user == some [] && !rest.isEmpty
    guard (!web && !ported && !named && !bare)
    return none
  else return some (← if web then webHost? text else opaqueHost? text)

/-- A letter and a colon or bar, which name a drive and not a host. -/
def isDrive : List Char → Bool
  | [c, mark] => c.isAlpha && (mark == ':' || mark == '|')
  | _ => false

/-- The host of a file, behind two slashes; this computer is none. -/
def fileHost? (s : List Char) : Option (Option Host) := do
  let text := s.takeWhile fun c => !endsAuthority true c
  if text.isEmpty ∨ isDrive text then return none
  else
    let host ← webHost? text
    return if host = .name ["localhost".toList] then none else some host

def isSlash (c : Char) : Bool := c == '/' || c == '\\'

def hostBehind? (kind : Kind) (s : List Char) : Option (Option Host) :=
  match kind with
  | .web => authority? true (s.dropWhile isSlash)
  | .file =>
    match s with
    | a :: b :: rest => if isSlash a ∧ isSlash b then fileHost? rest else some none
    | _ => some none
  | .other =>
    match s with
    | '/' :: '/' :: rest => authority? false rest
    | _ => some none

/-- Reads an address; controls and blanks around it, tabs and line ends within it do not count. -/
def Address.read? (s : List Char) : Option Address := do
  let s := (Text.strip (fun c => c.toNat ≤ 0x20) s).filter fun c => !"\t\n\r".toList.contains c
  let (scheme, rest) ← scheme? s
  let host ← hostBehind? (kind scheme) rest
  return { scheme, host }

def hostless : List String := ["mailto", "news", "file"]

def isAddress (s : List Char) : Bool :=
  (Address.read? s).any fun a => a.host.isSome || hostless.contains a.scheme

end FormCheck.Web
