import SolverInput.Address.Host
import SolverInput.Address.Path

/-!
# Addresses

An address stands on its own, so it starts with a scheme. The schemes of the web and that of files
have rules of their own for hosts and paths. Two addresses that lead to the same place in different
spellings have the same normal form.
-/

namespace SolverInput

/-- An address in normal form. -/
structure Address where
  scheme : Text
  /-- The user, the host and the number of the service, if there is a place for them. -/
  authority : Option Text
  path : Text
  query : Option Text
  fragment : Option Text
  deriving DecidableEq

namespace Address

/-- The text of an address. A path that would be taken for a host is marked by a dot before it. -/
def text (a : Address) : String :=
  let authority := match a.authority with
    | some authority => ['/', '/'] ++ authority
    | none => if ['/', '/'].isPrefixOf a.path then ['/', '.'] else []
  let query := (a.query.map ('?' :: ·)).getD []
  let fragment := (a.fragment.map ('#' :: ·)).getD []
  String.ofList (a.scheme ++ [':'] ++ authority ++ a.path ++ query ++ fragment)

/-! ## Schemes -/

/-- Spaces and control characters, which do not count at both ends. -/
def isBlank (c : Char) : Bool :=
  c.toNat ≤ 0x20

/-- Tabs and line breaks, which do not count anywhere. -/
def isBreak (c : Char) : Bool :=
  c == '\t' || c == '\n' || c == '\r'

/-- The characters of a text that count. -/
def significant (text : Text) : Text :=
  (Text.dropEndWhile isBlank (text.dropWhile isBlank)).filter (!isBreak ·)

/-- The characters of schemes. -/
def isSchemeChar (c : Char) : Bool :=
  c.isAlphanum || c == '+' || c == '-' || c == '.'

/-- Splits an address into its scheme, in lower case, and what follows the colon. -/
def splitScheme? (text : Text) : Option (Text × Text) :=
  let scheme := text.takeWhile isSchemeChar
  match text.dropWhile isSchemeChar with
  | ':' :: rest =>
    if scheme.head?.any Char.isAlpha then some (scheme.map Char.toLower, rest) else none
  | _ => none

/-- The schemes of the web with the number of the service that needs not be written. -/
def webSchemes : List (Text × Nat) :=
  [("http".toList, 80), ("https".toList, 443), ("ws".toList, 80), ("wss".toList, 443),
   ("ftp".toList, 21)]

/-- How the rest of an address is read. -/
inductive Kind where
  | file
  /-- An address of the web, with the number of its usual service. -/
  | web (service : Nat)
  | other
  deriving DecidableEq

/-- The kind of addresses of a scheme. -/
def Kind.ofScheme (scheme : Text) : Kind :=
  if scheme = "file".toList then .file
  else match webSchemes.lookup scheme with
    | some service => .web service
    | none => .other

/-- Tells whether a character divides a path. In files and on the web a backslash does. -/
def Kind.isSlash (kind : Kind) (c : Char) : Bool :=
  c == '/' || (kind != .other && c == '\\')

/-- The segments of a path. -/
def Kind.segments (kind : Kind) (path : Text) : List Text :=
  path.splitOnP kind.isSlash

/-! ## Authority -/

/-- The normal form of a user with a password. -/
def userText (user : Text) : Text :=
  let name := escape userEscapes (user.takeWhile (· != ':'))
  let password := escape userEscapes ((user.dropWhile (· != ':')).drop 1)
  let secret := if password.isEmpty then [] else ':' :: password
  if name.isEmpty && secret.isEmpty then [] else name ++ secret ++ ['@']

/-- Splits a host from what follows the first colon outside of brackets. -/
def splitHost (bracketed : Bool) : Text → Text × Option Text
  | [] => ([], none)
  | c :: rest =>
    if c == ':' && !bracketed then ([], some rest)
    else
      let (host, service) := splitHost (c == '[' || (bracketed && c != ']')) rest
      (c :: host, service)

/-- Reads the number of a service; no digits stand for the usual one. -/
def service (kind : Kind) (digits : Text) : Except Fault Text :=
  let number := Text.digitsValue 10 digits
  if !digits.all Char.isDigit || 65535 < number then .error .badService
  else if digits.isEmpty || kind = .web number then .ok []
  else .ok (':' :: Nat.toDigits 10 number)

/-- Reads the host of an address. It can be empty only in addresses of other kinds, and only if it
is left out altogether. -/
def host (kind : Kind) (leftOut : Bool) (text : Text) : Except Fault Host :=
  if text.isEmpty && !(kind == .other && leftOut) then .error .emptyHost
  else if kind = .other then Host.foreign text
  else Host.known text

/-- Reads the authority of an address, and gives what is left for the path: a backslash ends the
number of a service. An address in which more follows cannot leave out a host after `@`. -/
def readAuthority (kind : Kind) (more : Bool) (text : Text) : Except Fault (Text × Text) := do
  let (user, place) := (Text.splitAtLast? ['@'] text).getD ([], text)
  let (hostText, digits) := splitHost false place
  let marked := more && text.head? = some '@'
  let host ← host kind (digits.isNone && (userText user).isEmpty && !marked) hostText
  let digits := digits.getD []
  let service ← service kind (digits.takeWhile (· != '\\'))
  return (userText user ++ host.text ++ service, digits.dropWhile (· != '\\'))

/-! ## Bodies -/

/-- The authority and the path of an address. -/
abbrev Body := Option Text × Text

/-- Reads what follows the slashes of an address with an authority. `more` tells whether a query or
a fragment follows. -/
def readPlaced (kind : Kind) (more : Bool) (text : Text) : Except Fault Body := do
  let rest := text.dropWhile (!kind.isSlash ·)
  let (authority, left) ←
    readAuthority kind (more || !rest.isEmpty) (text.takeWhile (!kind.isSlash ·))
  let path := match left ++ rest with
    | [] => if kind = .other then [] else ['/']
    | c :: after => Path.normal (kind.segments (if kind.isSlash c then after else c :: after))
  return (some authority, path)

/-- Reads the host of a file, which is left out if it is this computer. -/
def readFileHost (text : Text) : Except Fault Text := do
  if text.isEmpty then return []
  let host ← Host.known text
  return if host.text = "localhost".toList then [] else host.text

/-- Reads the rest of a file's address. A path that starts with a drive has no host. -/
def readFile (text : Text) : Except Fault Body := do
  let isSlash := Kind.file.isSlash
  let slashes := text.takeWhile isSlash
  let rest := text.drop 2
  let named := 2 ≤ slashes.length && !Path.isDrive (rest.takeWhile (!isSlash ·))
  let host ← if named then readFileHost (rest.takeWhile (!isSlash ·)) else .ok []
  let path := if named then rest.dropWhile (!isSlash ·) else text
  let segments := Path.fileSegments (Kind.file.segments path)
  return (some (if segments.head?.any Path.isDrive then [] else host), Path.written segments)

/-- Reads the rest of an address of another scheme. -/
def readOther (more : Bool) (text : Text) : Except Fault Body :=
  match text with
  | '/' :: '/' :: rest => readPlaced .other more rest
  | '/' :: rest => .ok (none, Path.normal (Kind.other.segments rest))
  | _ => .ok (none, escape [] text)

/-! ## Reading -/

/-- Splits a text at the first mark; what follows it is there only if the mark is. -/
def splitMark (mark : Char) (text : Text) : Text × Option Text :=
  match text.dropWhile (· != mark) with
  | [] => (text, none)
  | _ :: after => (text.takeWhile (· != mark), some after)

/-- Reads an address. -/
def parse (text : String) : Except Fault Address :=
  match splitScheme? (significant text.toList) with
  | none => .error .relative
  | some (scheme, rest) => do
    let (rest, fragment) := splitMark '#' rest
    let (body, query) := splitMark '?' rest
    let kind := Kind.ofScheme scheme
    let more := query.isSome || fragment.isSome
    let (authority, path) ← match kind with
      | .file => readFile body
      | .web _ => readPlaced kind more (body.dropWhile kind.isSlash)
      | .other => readOther more body
    let quotes := if kind = .other then queryEscapes else '\'' :: queryEscapes
    return { scheme, authority, path
             query := query.map (escape quotes)
             fragment := fragment.map (escape fragmentEscapes) }

end Address

end SolverInput
