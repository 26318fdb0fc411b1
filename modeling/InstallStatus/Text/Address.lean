/-!
Addresses of servers and of the things they serve: a scheme and `://`, an authority, a path and a
query. An address that begins with a slash has a path and a query alone, and one without a scheme an
authority alone. What follows a number sign behind the path is cut off unseen.
-/

namespace InstallStatus.Text

inductive AddressFault
  | empty
  | tooLong
  | longScheme
  | character
  | authority
  | format
  deriving DecidableEq, Repr

def AddressFault.message : AddressFault → String
  | .empty => "empty string"
  | .tooLong => "uri too long"
  | .longScheme => "scheme too long"
  | .character => "invalid uri character"
  | .authority => "invalid authority"
  | .format => "invalid format"

structure Address where
  scheme : List Char
  authority : List Char
  path : List Char
  query : List Char
  deriving DecidableEq, Repr

namespace Address

/-- The greatest length of an address, in octets. -/
def longest : Nat := 65534

/-- The greatest length of a scheme, in octets. -/
def longestScheme : Nat := 64

def isSchemeChar (c : Char) : Bool :=
  c.isAlphanum || c == '+' || c == '-' || c == '.' || c == '~'

/-- Characters that an authority may hold besides the percent sign. -/
def isAuthorityChar (c : Char) : Bool :=
  let n := c.toNat
  n == 0x21 || n == 0x24 || (0x26 ≤ n && n ≤ 0x2E) || (0x30 ≤ n && n ≤ 0x3B) || n == 0x3D ||
    (0x40 ≤ n && n ≤ 0x5B) || n == 0x5D || n == 0x5F || (0x61 ≤ n && n ≤ 0x7A) || n == 0x7E

def isPathChar (c : Char) : Bool :=
  let n := c.toNat
  n == 0x21 || n == 0x22 || (0x24 ≤ n && n ≤ 0x3B) || n == 0x3D || (0x40 ≤ n && n ≤ 0x5F) ||
    (0x61 ≤ n && n ≤ 0x7E) || 0x80 ≤ n

def isQueryChar (c : Char) : Bool :=
  let n := c.toNat
  n == 0x21 || (0x24 ≤ n && n ≤ 0x3B) || n == 0x3D || (0x3F ≤ n && n ≤ 0x7E) || 0x80 ≤ n

/-- The two sides of the first such character; nothing on the right when there is none. -/
def cut (divider : Char) (cs : List Char) : List Char × List Char :=
  (cs.takeWhile (· != divider), (cs.dropWhile (· != divider)).drop 1)

/-- What has been seen of an authority. An `@` ends the name of a user and a closing bracket a
numeric host, so colons and percent signs before them no longer count. -/
structure Scan where
  colons : Nat
  opened : Bool
  closed : Bool
  percent : Bool
  /-- Whether the last character was an `@`. -/
  atSign : Bool

namespace Scan

def start : Scan := ⟨0, false, false, false, false⟩

/-- The most colons in a row of parts: those of a numeric host. -/
def mostColons : Nat := 8

def step (scan : Scan) (c : Char) : Except AddressFault Scan :=
  let scan := { scan with atSign := false }
  if c = ':' then
    if scan.colons < mostColons then .ok { scan with colons := scan.colons + 1 }
    else .error .authority
  else if c = '[' then
    if scan.percent || scan.opened then .error .authority else .ok { scan with opened := true }
  else if c = ']' then
    if scan.opened && !scan.closed then
      .ok { scan with closed := true, colons := 0, percent := false }
    else .error .authority
  else if c = '@' then .ok { scan with atSign := true, colons := 0, percent := false }
  else if c = '%' then .ok { scan with percent := true }
  else if isAuthorityChar c then .ok scan
  else .error .character

/-- Whether an authority may end here: with its brackets closed, with one colon at most that still
counts, and with a host after the user. -/
def isComplete (scan : Scan) : Bool :=
  scan.opened == scan.closed && scan.colons ≤ 1 && !scan.atSign && !scan.percent

end Scan

/-- Whether a text can be an authority, which the empty text can. -/
def checkAuthority (cs : List Char) : Except AddressFault Unit := do
  let scan ← cs.foldlM Scan.step Scan.start
  if scan.isComplete then .ok () else .error .authority

def cutAuthority (cs : List Char) : List Char × List Char :=
  cs.span fun c => c != '/' && c != '?' && c != '#'

def readPath (scheme authority cs : List Char) : Except AddressFault Address :=
  let (path, query) := cut '?' (cut '#' cs).1
  if path.all isPathChar && query.all isQueryChar then .ok ⟨scheme, authority, path, query⟩
  else .error .character

/-- Reads an address with a scheme from behind the scheme. It has an authority. -/
def readFull (scheme cs : List Char) : Except AddressFault Address := do
  let (authority, rest) := cutAuthority cs
  checkAuthority authority
  if authority.isEmpty then .error .format else readPath scheme authority rest

/-- Reads an address that is an authority and nothing more. -/
def readAuthority (cs : List Char) : Except AddressFault Address := do
  let (authority, rest) := cutAuthority cs
  checkAuthority authority
  if rest.isEmpty then .ok ⟨[], authority, [], []⟩ else .error .format

def cutScheme? (cs : List Char) : Option (List Char × List Char) :=
  match cs.span isSchemeChar with
  | (scheme, ':' :: '/' :: '/' :: rest) => some (scheme, rest)
  | _ => none

def read (text : String) : Except AddressFault Address :=
  let cs := text.toList
  if longest < text.utf8ByteSize then .error .tooLong
  else
    match cs with
    | [] => .error .empty
    | '/' :: _ => readPath [] [] cs
    | ['*'] => .ok ⟨[], [], cs, []⟩
    | _ =>
      match cutScheme? cs with
      | some (scheme, rest) =>
        if longestScheme < scheme.length then .error .longScheme else readFull scheme rest
      | none => readAuthority cs

end Address

end InstallStatus.Text
