import InstallStatus.Text.Alphanumeric
import InstallStatus.Text.Digits

/-!
Search patterns, as far as to tell whether a text is one. A pattern is built from characters, escapes,
classes in brackets, groups, alternatives and repetitions. Opening braces, references to groups, tests
of what lies around and word boundaries are no part of it.
-/

namespace InstallStatus.Text.Pattern

/-- What an escape, or an item of a class, stands for. -/
inductive Item
  | literal (c : Char)
  | category
  | anchor
  deriving DecidableEq, Repr

def hexDigitValue? (c : Char) : Option Nat :=
  if isDigit c then some (digitValue c)
  else if 'a' ≤ c && c ≤ 'f' then some (c.toNat - 87)
  else if 'A' ≤ c && c ≤ 'F' then some (c.toNat - 55)
  else none

/-- A character by so many hexadecimal digits. -/
def readHex? (count : Nat) (cs : List Char) : Option (Item × List Char) := do
  let digits ← (cs.take count).mapM hexDigitValue?
  let n := digits.foldl (fun n digit => 16 * n + digit) 0
  if digits.length = count ∧ n.isValidChar then some (.literal (Char.ofNat n), cs.drop count)
  else none

/-- The letters that stand for control characters behind a backslash. -/
def controls : List (Char × Nat) :=
  [('a', 7), ('t', 9), ('n', 10), ('v', 11), ('f', 12), ('r', 13)]

/-- Reads what stands behind a backslash. Signs may be escaped at will, letters only where they mean
something. -/
def readEscape? : List Char → Option (Item × List Char)
  | [] => none
  | c :: rest =>
    if c = 'x' then readHex? 2 rest
    else if c = 'u' then readHex? 4 rest
    else if c = 'U' then readHex? 8 rest
    else if c = 'p' ∨ c = 'P' then
      match rest with
      | name :: rest =>
        if "CLMNPSZ".toList.contains name.toUpper then some (.category, rest) else none
      | [] => none
    else if "dswDSW".toList.contains c then some (.category, rest)
    else if c = 'A' ∨ c = 'z' then some (.anchor, rest)
    else
      match controls.lookup c with
      | some n => some (.literal (Char.ofNat n), rest)
      | none =>
        if c.isAlphanum || c == '<' || c == '>' || 0x7F < c.toNat then none
        else some (.literal c, rest)

/-- Reads an item of a class, which is no anchor. -/
def readItem? : List Char → Option (Item × List Char)
  | [] => none
  | '\\' :: rest => (readEscape? rest).filter fun found => found.1 != .anchor
  | c :: rest => some (.literal c, rest)

/-- The names that a class may hold between colons. -/
def classNames : List String :=
  ["alnum", "alpha", "ascii", "blank", "cntrl", "digit", "graph", "lower", "print", "punct", "space",
    "upper", "word", "xdigit"]

def readNamed? : List Char → Option (List Char)
  | ':' :: rest =>
    let rest := match rest with
      | '^' :: rest => rest
      | rest => rest
    match rest.span (· != ':') with
    | (name, ':' :: ']' :: rest) =>
      if classNames.contains (String.ofList name) then some rest else none
    | _ => none
  | _ => none

/-- Drops what stands for itself at the start of a class: hyphens, or else one closing bracket. -/
def skipStart (cs : List Char) : List Char :=
  let cs := match cs with
    | '^' :: rest => rest
    | cs => cs
  match cs with
  | '-' :: _ => cs.dropWhile (· == '-')
  | ']' :: rest => rest
  | cs => cs

/-- Reads a class to its end, which lies behind the ends of the `depth` classes around the place. Each
step takes at least one of the characters, so their number is fuel enough. -/
def readClass? : Nat → Nat → List Char → Option (List Char)
  | 0, _, _ => none
  | _, _, [] => none
  | fuel + 1, depth, '[' :: rest =>
    match readNamed? rest with
    | some rest => readClass? fuel depth rest
    | none => readClass? fuel (depth + 1) (skipStart rest)
  | _ + 1, 0, ']' :: rest => some rest
  | fuel + 1, depth + 1, ']' :: rest => readClass? fuel depth rest
  | fuel + 1, depth, '&' :: '&' :: rest => readClass? fuel depth rest
  | fuel + 1, depth, '-' :: '-' :: rest => readClass? fuel depth rest
  | fuel + 1, depth, '~' :: '~' :: rest => readClass? fuel depth rest
  | fuel + 1, depth, cs =>
    match readItem? cs with
    | none => none
    | some (first, rest) =>
      match rest with
      | '-' :: ']' :: _ => readClass? fuel depth rest
      | '-' :: '-' :: _ => readClass? fuel depth rest
      | '-' :: rest =>
        match first, readItem? rest with
        | .literal a, some (.literal b, rest) => if a ≤ b then readClass? fuel depth rest else none
        | _, _ => none
      | rest => readClass? fuel depth rest

inductive Opening
  | group (name : Option (List Char))
  /-- Options for the rest of the group around it. -/
  | options
  deriving DecidableEq, Repr

def isGroupName : List Char → Bool
  | [] => false
  | c :: rest =>
    (c == '_' || (isAlphanumeric c && !isDigit c)) &&
      rest.all fun c => c == '_' || c == '.' || c == '[' || c == ']' || isAlphanumeric c

/-- Reads the name of a group and the sign that ends it. -/
def readName? (cs : List Char) : Option (Opening × List Char) :=
  match cs.span (· != '>') with
  | (name, '>' :: rest) => if isGroupName name then some (.group (some name), rest) else none
  | _ => none

/-- Options are single letters, each at most once; those behind a hyphen are switched off. -/
def readOptions? (cs : List Char) : Option (Opening × List Char) :=
  let (letters, rest) := cs.span fun c => c != ':' && c != ')'
  if !letters.all "imsUuRx-".toList.contains || !decide letters.Nodup || letters.getLast? == some '-'
  then none
  else
    match rest with
    | ':' :: rest => some (.group none, rest)
    | ')' :: rest => if letters.isEmpty then none else some (.options, rest)
    | _ => none

def readOpening? : List Char → Option (Opening × List Char)
  | '?' :: 'P' :: '<' :: rest => readName? rest
  | '?' :: '<' :: rest => readName? rest
  | '?' :: rest => readOptions? rest
  | rest => some (.group none, rest)

/-- Reads a pattern from a place inside `depth` groups, behind groups of these names. The text before
the place is `repeatable` if it ends in something that a repetition sign may follow. -/
def check : Nat → Nat → Bool → List (List Char) → List Char → Bool
  | 0, _, _, _, _ => false
  | _ + 1, depth, _, _, [] => depth == 0
  | fuel + 1, depth, repeatable, names, c :: rest =>
    if c = '\\' then
      match readEscape? rest with
      | some (_, rest) => check fuel depth true names rest
      | none => false
    else if c = '[' then
      match readClass? (rest.length + 1) 0 (skipStart rest) with
      | some rest => check fuel depth true names rest
      | none => false
    else if c = '(' then
      match readOpening? rest with
      | some (.group (some name), rest) =>
        !names.contains name && check fuel (depth + 1) false (name :: names) rest
      | some (.group none, rest) => check fuel (depth + 1) false names rest
      | some (.options, rest) => check fuel depth false names rest
      | none => false
    else if c = ')' then 0 < depth && check fuel (depth - 1) true names rest
    else if c = '|' then check fuel depth false names rest
    else if c = '*' ∨ c = '+' ∨ c = '?' then repeatable && check fuel depth true names rest
    else if c = '\x7b' then false
    else check fuel depth true names rest

def isPattern (cs : List Char) : Bool :=
  check (cs.length + 1) 0 false [] cs

end InstallStatus.Text.Pattern
