/-
Addresses of the service.

An address has a scheme before `://`, an authority up to the first slash,
question mark or hash, a path, a query after a question mark, and a fragment
after a hash, which is dropped. Reading goes from left to right and the
first part that is wrong decides. An authority may name a user before an at
sign and hold an address in brackets; outside both it has at most one colon.
The path may hold characters outside ASCII, the other parts may not. Only
the scheme `ws` can be spoken.
-/
import PairingHarness.Decimal
import PairingHarness.Text.Utf8

namespace PairingHarness.Network

-- ================================================================ faults

/-- Why an address cannot be dialled. -/
inductive UrlFault where
  | empty
  | invalidFormat
  | invalidCharacter
  | invalidAuthority
  | tooLong
  | schemeTooLong
  | noHost
  | unsupportedScheme
  | tlsUnavailable
  deriving DecidableEq, Repr

def UrlFault.message : UrlFault → String
  | empty => "HTTP format error: empty string"
  | invalidFormat => "HTTP format error: invalid format"
  | invalidCharacter => "HTTP format error: invalid uri character"
  | invalidAuthority => "HTTP format error: invalid authority"
  | tooLong => "HTTP format error: uri too long"
  | schemeTooLong => "HTTP format error: scheme too long"
  | noHost => "URL error: No host name in the URL"
  | unsupportedScheme => "URL error: URL scheme not supported"
  | tlsUnavailable => "URL error: TLS support not compiled in"

/-- An address, taken apart. -/
structure Url where
  scheme : Option String
  /-- User, host and port; empty when the address is a path only. -/
  authority : String
  path : String
  query : Option String
  deriving DecidableEq, Repr

namespace Url

-- ================================================================ scheme

/-- An ASCII letter or digit. -/
def isWordChar (c : Char) : Bool :=
  c.isAlphanum

def isSchemeChar (c : Char) : Bool :=
  isWordChar c || c = '+' || c = '-' || c = '.' || c = '~'

def maxScheme : Nat := 64

/-- Splits the scheme off, if there is one and anything could follow it. -/
def splitScheme (s : List Char) : Except UrlFault (Option String × List Char) :=
  let scheme := s.takeWhile isSchemeChar
  match s.dropWhile isSchemeChar with
  | ':' :: '/' :: '/' :: rest =>
    if s.length ≤ 3 then .ok (none, s)
    else if maxScheme < scheme.length then .error .schemeTooLong
    else .ok (some (String.ofList scheme), rest)
  | _ => .ok (none, s)

-- ============================================================= authority

/-- The characters of an authority that have no part in its structure. -/
def isAuthorityChar (c : Char) : Bool :=
  isWordChar c
    || ['!', '$', '&', '\x27', '(', ')', '*', '+', ',', '-', '.', ';', '=',
      '_', '~'].contains c

/-- Whether an authority ends before this character. -/
def endsAuthority (c : Char) : Bool :=
  c = '/' || c = '?' || c = '#'

/-- What was seen of an authority. -/
structure AuthorityScan where
  /-- Colons since the start, the last at sign or the closing bracket. -/
  colons : Nat
  opened : Bool
  closed : Bool
  /-- A percent sign since the start, the last at sign or the closing
  bracket. -/
  percent : Bool
  atSign : Bool
  deriving DecidableEq, Repr

/-- How many colons an authority may have before they are too many at once. -/
def maxColons : Nat := 8

/-- Takes one more character of an authority. -/
def AuthorityScan.step (a : AuthorityScan) (c : Char) :
    Except UrlFault AuthorityScan :=
  if c = ':' then
    if maxColons ≤ a.colons then .error .invalidAuthority
    else .ok { a with colons := a.colons + 1, atSign := false }
  else if c = '[' then
    if a.percent || a.opened then .error .invalidAuthority
    else .ok { a with opened := true, atSign := false }
  else if c = ']' then
    if !a.opened || a.closed then .error .invalidAuthority
    else .ok { a with
      closed := true, colons := 0, percent := false, atSign := false }
  else if c = '@' then
    .ok { a with colons := 0, percent := false, atSign := true }
  else if c = '%' then .ok { a with percent := true, atSign := false }
  else if isAuthorityChar c then .ok { a with atSign := false }
  else .error .invalidCharacter

/-- Whether what was seen makes an authority. -/
def AuthorityScan.isComplete (a : AuthorityScan) : Bool :=
  a.opened == a.closed && a.colons ≤ 1 && !a.atSign && !a.percent

/-- Splits the authority off. -/
def splitAuthority (s : List Char) :
    Except UrlFault (List Char × List Char) := do
  if s.isEmpty then throw .empty
  let authority := s.takeWhile (!endsAuthority ·)
  let seen ← authority.foldlM AuthorityScan.step ⟨0, false, false, false, false⟩
  if !seen.isComplete then throw .invalidAuthority
  return (authority, s.dropWhile (!endsAuthority ·))

-- ======================================================== path and query

def isPathChar (c : Char) : Bool :=
  let n := c.toNat
  (0x21 ≤ n && n ≤ 0x7e && n != 0x23 && n != 0x3c && n != 0x3e && n != 0x3f
      && n != 0x60)
    || 0x80 ≤ n

def isQueryChar (c : Char) : Bool :=
  let n := c.toNat
  0x21 ≤ n && n ≤ 0x7e && n != 0x22 && n != 0x23 && n != 0x3c && n != 0x3e

/-- Reads path and query; a fragment is dropped. -/
def splitPath (s : List Char) : Except UrlFault (String × Option String) :=
  let path := s.takeWhile isPathChar
  match s.dropWhile isPathChar with
  | [] => .ok (String.ofList path, none)
  | '#' :: _ => .ok (String.ofList path, none)
  | '?' :: rest =>
    let query := rest.takeWhile isQueryChar
    match rest.dropWhile isQueryChar with
    | [] => .ok (String.ofList path, some (String.ofList query))
    | '#' :: _ => .ok (String.ofList path, some (String.ofList query))
    | _ => .error .invalidCharacter
  | _ => .error .invalidCharacter

-- =============================================================== reading

def maxLength : Nat := 65534

/-- Takes an address apart. -/
def split (text : String) : Except UrlFault Url := do
  let s := text.toList
  if maxLength < text.utf8ByteSize then throw .tooLong
  match s with
  | [] => throw .empty
  | ['*'] => return ⟨none, "", "*", none⟩
  | ['?'] | ['#'] => throw .invalidCharacter
  | '/' :: _ =>
    let (path, query) ← splitPath s
    return ⟨none, "", path, query⟩
  | _ =>
    let (scheme, s) ← splitScheme s
    let (authority, rest) ← splitAuthority s
    if scheme.isNone then
      if !rest.isEmpty then throw .invalidFormat
      return ⟨none, String.ofList authority, "", none⟩
    if authority.isEmpty then throw .invalidFormat
    let (path, query) ← splitPath rest
    return ⟨scheme, String.ofList authority, path, query⟩

/-- The address of a service that can be dialled. -/
def parse (text : String) : Except UrlFault Url := do
  let u ← split text
  if u.authority = "" then throw .noHost
  if u.scheme = some "ws" then return u
  if u.scheme = some "wss" then throw .tlsUnavailable
  throw .unsupportedScheme

-- ================================================================== text

def querySuffix (u : Url) : String :=
  match u.query with
  | some q => "?" ++ q
  | none => ""

/-- What the service is asked for: path and query, a slash when both are
missing. -/
def target (u : Url) : String :=
  if u.path = "" ∧ u.query = none then "/" else u.path ++ u.querySuffix

/-- The address as it is shown: a missing path is a slash. -/
def shown (u : Url) : String :=
  u.scheme.getD "" ++ "://" ++ u.authority
    ++ (if u.path = "" then "/" else u.path)
    ++ u.querySuffix

end Url

end PairingHarness.Network
