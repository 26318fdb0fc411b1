import InstallStatus.Event
import InstallStatus.Text.Blank
import InstallStatus.Text.Pattern
import InstallStatus.Text.Word

/-!
Which lines of a log are written. A filter is a list of directives. A directive may be for the targets
that begin with a text, for the lines that have some fields, for the time inside a span of a name, and
for fields of some values; of the ones that apply to a line the one that asks for most decides.
-/

namespace InstallStatus

/-- A field that is asked for, with the value it must have, if that matters. -/
structure FieldTest where
  name : String
  value : Option String
  deriving DecidableEq, Repr

/-- The lines of some sort up to a level; none are written where there is no level. -/
structure Directive where
  span : Option String
  target : Option String
  fields : List FieldTest
  level : Option Level
  deriving DecidableEq, Repr

namespace FieldTest

/-- Whether digits with or without a point, and with or without an exponent, make up the text. -/
def isDecimal (cs : List Char) : Bool :=
  let (whole, rest) := cs.span Text.isDigit
  let (fraction, rest) := match rest with
    | '.' :: rest => rest.span Text.isDigit
    | rest => ([], rest)
  let exponent := match rest with
    | [] => true
    | e :: rest =>
      let digits := match rest with
        | '+' :: digits => digits
        | '-' :: digits => digits
        | digits => digits
      (e == 'e' || e == 'E') && !digits.isEmpty && digits.all Text.isDigit
  !(whole ++ fraction).isEmpty && exponent

/-- A number behind a plus sign, which a pattern could not begin with. -/
def isPlusNumber : List Char → Bool
  | '+' :: rest =>
    isDecimal rest || ["inf", "infinity", "nan"].contains (String.ofList (rest.map Char.toLower))
  | _ => false

def isValue (text : List Char) : Bool :=
  isPlusNumber text || Text.Pattern.isPattern text

/-- A name, or a name and a value with an equals sign between them; what follows another such sign is
left unread. -/
def ofChars? (cs : List Char) : Option FieldTest :=
  let (name, rest) := cs.span (· != '=')
  match rest with
  | [] => if name.isEmpty then none else some ⟨String.ofList name, none⟩
  | _ :: rest =>
    let value := rest.takeWhile (· != '=')
    if isValue value then some ⟨String.ofList name, some (String.ofList value)⟩ else none

end FieldTest

namespace Directive

def lower (s : String) : String := String.ofList (s.toList.map Char.toLower)

/-- A level by its name in any case or by its number; zero and `off` are no level. -/
def level? (text : String) : Option (Option Level) :=
  match Text.readWord text.toList with
  | .ok 0 => some none
  | .ok 1 => some (some .error)
  | .ok 2 => some (some .warn)
  | .ok 3 => some (some .info)
  | .ok 4 => some (some .debug)
  | .ok 5 => some (some .trace)
  | _ =>
    if lower text = "off" then some none
    else
      ([Level.error, .warn, .info, .debug, .trace].find? fun level =>
        lower level.text == lower text).map some

/-- Whether a level or a target may begin with this character. -/
def mayBegin (c : Char) : Bool := Text.isAlphanumeric c || c == '-' || c == ':' || c == '_'

/-- The part of a directive that is being read, with the place where it began. -/
inductive Place
  | start
  | levelOrTarget
  | span (start : Nat)
  | field (start : Nat)
  | fields
  | bracketed
  | level (start : Nat)
  deriving DecidableEq, Repr

/-- A directive being read, from a text that is kept as a whole. -/
structure Reading where
  text : List Char
  place : Place
  found : Directive

namespace Reading

/-- Divides a text behind so many octets. -/
def divide : Nat → List Char → List Char × List Char
  | _, [] => ([], [])
  | 0, cs => ([], cs)
  | n + 1, c :: rest =>
    let (front, back) := divide (n + 1 - c.utf8Size) rest
    (c :: front, back)

/-- The text from one place up to another. Places are counted in octets. -/
def slice (r : Reading) (start stop : Nat) : List Char :=
  (divide (stop - start) (divide start r.text).2).1

def rest (r : Reading) (start : Nat) : List Char := (divide start r.text).2

def begin (text : List Char) : Reading := ⟨text, .start, ⟨none, none, [], some .trace⟩⟩

def step (r : Reading) (i : Nat) (c : Char) : Option Reading :=
  match r.place with
  | .start =>
    if c = '[' then some { r with place := .span (i + 1) }
    else if mayBegin c then some { r with place := .levelOrTarget }
    else none
  | .levelOrTarget =>
    let target := some (String.ofList (r.slice 0 i))
    if c = '=' then some { r with place := .level (i + 1), found := { r.found with target } }
    else if c = '[' then some { r with place := .span (i + 1), found := { r.found with target } }
    else some r
  | .span start =>
    let name := r.slice start i
    if c = ']' then
      some { r with place := .bracketed, found := { r.found with span := some (String.ofList name) } }
    else if c = '\x7b' then
      let span := if name.isEmpty then none else some (String.ofList name)
      some { r with place := .field (i + 1), found := { r.found with span } }
    else some r
  | .field start =>
    if c = '\x7d' then
      (FieldTest.ofChars? (r.slice start i)).map fun test =>
        { r with place := .fields, found := { r.found with fields := r.found.fields ++ [test] } }
    else some r
  | .fields => if c = ']' then some { r with place := .bracketed } else none
  | .bracketed => if c = '=' then some { r with place := .level (i + 1) } else none
  | .level _ => some r

def run (r : Reading) (i : Nat) : List Char → Option Reading
  | [] => some r
  | c :: rest => (r.step i c).bind fun r => r.run (i + c.utf8Size) rest

/-- The directive that has been read when the text ends. One that names no level is for every level. -/
def finish? (r : Reading) : Option Directive :=
  match r.place with
  | .levelOrTarget =>
    let text := String.ofList r.text
    match level? text with
    | some level => some { r.found with level }
    | none => some { r.found with target := some text }
  | .level start =>
    let text := r.rest start
    if text.isEmpty then some r.found
    else (level? (String.ofList text)).map fun level => { r.found with level }
  | .bracketed => some r.found
  | _ => none

end Reading

/-- A level alone, or a target, a span and fields in brackets, and behind an equals sign a level. White
space at the ends is passed over, but places are counted without it, so white space in front moves
every part of the directive. -/
def ofText? (text : String) : Option Directive :=
  ((Reading.begin text.toList).run 0 (Text.trim text.toList)).bind Reading.finish?

/-- Whether single lines can tell if the directive applies: it asks for no span and for no value. -/
def isForLines (d : Directive) : Bool :=
  d.span.isNone && d.fields.all fun test => test.value.isNone

def appliesTo (d : Directive) (line : LogLine) : Bool :=
  (match d.target with
  | some front => front.toList.isPrefixOf line.target.toList
  | none => true) &&
    d.fields.all fun test =>
      test.name == "message" || line.fields.any fun field => field.1 == test.name

/-- How much of a target the directive names; one for all targets names nothing. -/
def reach (d : Directive) : Nat :=
  match d.target with
  | some front => front.utf8ByteSize + 1
  | none => 0

/-- Whether names of equal number are in order, compared from the first on. -/
def inOrder : List FieldTest → List FieldTest → Bool
  | a :: as, b :: bs => if a.name = b.name then inOrder as bs else a.name < b.name
  | _, _ => true

/-- Whether `d` decides where both apply and `best` comes before it in the filter: it names more of the
target, or as much and more fields, or as many with later names. -/
def decidesOver (d best : Directive) : Bool :=
  if d.reach ≠ best.reach then best.reach < d.reach
  else if d.fields.length ≠ best.fields.length then best.fields.length < d.fields.length
  else inOrder best.fields d.fields

end Directive

abbrev LogFilter := List Directive

namespace LogFilter

/-- The directive that decides about a line; of two that ask for the same the later one. -/
def deciding? (filter : LogFilter) (line : LogLine) : Option Directive :=
  filter.foldl (fun best d =>
    if d.isForLines && d.appliesTo line then
      match best with
      | some b => if d.decidesOver b then some d else some b
      | none => some d
    else best) none

def allows (filter : LogFilter) (line : LogLine) : Bool :=
  match (filter.deciding? line).bind Directive.level with
  | some greatest => line.level.rank ≤ greatest.rank
  | none => false

def upTo (level : Level) : Directive := ⟨none, none, [], some level⟩

def within (target : String) (level : Level) : Directive := ⟨none, some target, [], some level⟩

/-- Directives with commas between them. Without any, only errors are written. -/
def ofText? (text : String) : Option LogFilter :=
  let parts := (text.splitOn ",").filter (· ≠ "")
  if parts.isEmpty then some [upTo .error] else parts.mapM Directive.ofText?

/-- The filter in use unless another is asked for. -/
def standard : LogFilter := [
  upTo .info,
  within "siteconfig" .debug,
  within "kube" .info,
  within "tower" .warn,
  within "hyper" .warn]

/-- The filter that a text asks for, or the standard one if there is none or it cannot be read. -/
def choose (text : Option String) : LogFilter := (text.bind ofText?).getD standard

end LogFilter

end InstallStatus
