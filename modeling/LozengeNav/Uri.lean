import LozengeNav.Fault
import LozengeNav.Path
import LozengeNav.Text.Utf8
import LozengeNav.Uri.Address

/-!
# File URIs

Local paths as `file:` URIs and back.  A path is written with every character escaped that is not a
letter, a digit or one of `_ . - ~ /`; reading splits a URI into its parts first and unescapes each
part afterwards.  A path that begins with two slashes names a share: what stands up to the third
slash becomes the authority of the URI.  A path that begins with a slash, a letter and a colon
names a drive, whose letter is written in lower case and whose colon is not escaped.
-/

namespace LozengeNav

namespace Uri

def isSafe (c : Char) : Bool :=
  c.isAlphanum || c == '_' || c == '.' || c == '-' || c == '~' || c == '/'

def hexDigit (n : Nat) : Char :=
  if n < 10 then Char.ofNat (0x30 + n) else Char.ofNat (0x37 + n)

def hexValue? (c : Char) : Option Nat :=
  if c.isDigit then some (c.toNat - 0x30)
  else if 'A' ≤ c && c ≤ 'F' then some (c.toNat - 0x37)
  else if 'a' ≤ c && c ≤ 'f' then some (c.toNat - 0x57)
  else none

def escape (b : UInt8) : List Char :=
  ['%', hexDigit (b.toNat / 16), hexDigit (b.toNat % 16)]

def quoteChar (c : Char) : List Char :=
  if isSafe c then [c] else (Text.Utf8.encodeChar c).flatMap escape

def quote (s : List Char) : List Char :=
  s.flatMap quoteChar

/-- The bytes that an escaped text stands for.  A percent sign without two hexadecimal digits
stands for itself. -/
def unquoteBytes : List Char → List UInt8
  | [] => []
  | [c] => Text.Utf8.encodeChar c
  | [c, d] => Text.Utf8.encodeChar c ++ unquoteBytes [d]
  | c :: a :: b :: rest =>
    match c == '%', hexValue? a, hexValue? b with
    | true, some x, some y => UInt8.ofNat (16 * x + y) :: unquoteBytes rest
    | _, _, _ => Text.Utf8.encodeChar c ++ unquoteBytes (a :: b :: rest)

def unquote (s : List Char) : List Char :=
  Text.Utf8.decodeLossy (unquoteBytes s)

def hasDrive : List Char → Bool
  | '/' :: c :: ':' :: _ => c.isAlpha
  | _ => false

/-- The authority and the path of a share, of a path behind its first two slashes. -/
def splitShare? (s : List Char) : Option (List Char × List Char) :=
  if s.contains '/' then some (s.takeWhile (· ≠ '/'), s.dropWhile (· ≠ '/')) else none

def rooted : List Char → List Char
  | '/' :: rest => '/' :: rest
  | s => '/' :: s

def writePath (s : List Char) : List Char :=
  match s with
  | '/' :: c :: ':' :: rest =>
    if c.isAlpha then '/' :: c.toLower :: ':' :: quote rest else quote s
  | _ => quote s

def opening : List Char :=
  ['f', 'i', 'l', 'e', ':', '/', '/']

def ofPath (s : List Char) : Except Fault (List Char) :=
  match s with
  | '/' :: '/' :: rest =>
    match splitShare? rest with
    | some (authority, path) => .ok (opening ++ quote authority ++ writePath path)
    | none => .error .noShareEnd
  | _ => .ok (opening ++ writePath (rooted s))

/-- The parts of a URI that a local path is read from, still escaped. -/
structure Parts where
  scheme : List Char
  authority : List Char
  path : List Char
  deriving DecidableEq, Repr

def isSchemeChar (c : Char) : Bool :=
  c.isAlphanum || c == '+' || c == '-' || c == '.'

/-- The scheme in lower case and what follows its colon; no scheme if there is none. -/
def splitScheme (s : List Char) : List Char × List Char :=
  let scheme := s.takeWhile (· ≠ ':')
  match s.dropWhile (· ≠ ':') with
  | ':' :: rest =>
    if scheme.head?.any Char.isAlpha && scheme.all isSchemeChar then
      (scheme.map Char.toLower, rest)
    else ([], s)
  | _ => ([], s)

def endsAuthority (c : Char) : Bool :=
  c == '/' || c == '?' || c == '#'

def splitAuthority (s : List Char) : List Char × List Char :=
  match s with
  | '/' :: '/' :: rest =>
    (rest.takeWhile fun c => !endsAuthority c, rest.dropWhile fun c => !endsAuthority c)
  | _ => ([], s)

/-- Characters whose compatibility form holds one of the delimiters `/ ? # @ :`. -/
def disguised : List Nat :=
  [0x2047, 0x2048, 0x2049, 0x2100, 0x2101, 0x2105, 0x2106, 0x2A74, 0xFE13, 0xFE16, 0xFE55, 0xFE56,
   0xFE5F, 0xFE6B, 0xFF03, 0xFF0F, 0xFF1A, 0xFF1F, 0xFF20]

/-- Refuse an authority that is none: with one bracket of two, with brackets around something that
is no address, or with a delimiter in disguise. -/
def checkAuthority (s : List Char) : Except Fault Unit := do
  let opened := s.contains '['
  let closed := s.contains ']'
  if opened != closed then throw .unpairedBracket
  if opened && closed then
    let host := ((s.dropWhile (· ≠ '[')).drop 1).takeWhile (· ≠ ']')
    if host.head? == some 'v' then
      if !Address.isFuture host then throw (.badAddress "IPvFuture address is invalid")
    else if Address.isVersion4 host then
      throw (.badAddress "An IPv4 address cannot be in brackets")
    else if !Address.isVersion6 host then
      throw (.badAddress
        (Text.quoted (String.ofList host) ++ " does not appear to be an IPv4 or IPv6 address"))
  if s.any fun c => disguised.contains c.toNat then
    throw (.unsafeAuthority ("netloc '" ++ String.ofList s ++
      "' contains invalid characters under NFKC normalization"))

def isDropped (c : Char) : Bool :=
  c == '\t' || c == '\r' || c == '\n'

/-- Split a URI.  Leading controls and spaces do not belong to it; a query and a fragment are left
out. -/
def split (s : List Char) : Except Fault Parts := do
  let text := (s.dropWhile fun c => c.toNat ≤ 0x20).filter fun c => !isDropped c
  let (scheme, rest) := splitScheme text
  let (authority, rest) := splitAuthority rest
  checkAuthority authority
  return ⟨scheme, authority, (rest.takeWhile (· ≠ '#')).takeWhile (· ≠ '?')⟩

def joinParts (authority path : List Char) : List Char :=
  if !authority.isEmpty && !path.isEmpty then '/' :: '/' :: authority ++ path
  else
    match path with
    | '/' :: c :: ':' :: rest => if c.isAlpha then c.toLower :: ':' :: rest else path
    | _ => path

def fileScheme : List Char :=
  ['f', 'i', 'l', 'e']

def toPath (s : List Char) : Except Fault (List Char) := do
  let parts ← split s
  if parts.scheme = fileScheme then
    return joinParts (unquote parts.authority) (unquote parts.path)
  else throw (.notFileUri (String.ofList s))

/-- The schemes whose paths may have parameters behind a semicolon. -/
def schemesWithParameters : List String :=
  ["", "ftp", "hdl", "prospero", "http", "https", "shttp", "rtsp", "rtspu", "sip", "sips", "mms",
   "sftp", "tel"]

/-- The path without the parameters of its last part. -/
def dropParameters (path : List Char) : List Char :=
  let last := (path.reverse.takeWhile (· ≠ '/')).reverse
  path.take (path.length - last.length) ++ last.takeWhile (· ≠ ';')

/-- The path that a URI of any scheme has, taken for a local one. -/
def anyPath (s : List Char) : Except Fault (List Char) := do
  let parts ← split s
  if parts.scheme = fileScheme then
    return joinParts (unquote parts.authority) (unquote parts.path)
  else if schemesWithParameters.contains (String.ofList parts.scheme) then
    return joinParts [] (unquote (dropParameters parts.path))
  else return joinParts [] (unquote parts.path)

end Uri

namespace Path

def toUri (p : Path) : Except Fault String :=
  (Uri.ofPath p.toString.toList).map String.ofList

def ofUri (uri : String) : Except Fault Path :=
  (Uri.toPath uri.toList).map fun s => ofString (String.ofList s)

end Path

end LozengeNav
