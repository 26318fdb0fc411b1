/-!
Text without the control sequences of a terminal, for output that goes to none. A sequence begins with
an escape character and ends as its kind requires; control characters outside of sequences are left out
as well, all but white space.
-/

namespace InstallStatus.Text.Terminal

/-- The part of a control sequence that a character stands in. -/
inductive State
  | ground
  | escape
  /-- Behind an escape character and a sign in between. -/
  | escapeSign
  | control
  | deviceStart
  | deviceNumber
  | deviceSign
  /-- The text of a device control, which only its terminator ends. -/
  | body
  | command
  deriving DecidableEq, Repr

/-- The control characters that are white space. -/
def isBlankControl (n : Nat) : Bool := n == 9 || n == 10 || n == 12 || n == 13

/-- Whether control characters act inside this part of a sequence. -/
def State.acts : State → Bool
  | .ground | .escape | .escapeSign | .control => true
  | _ => false

/-- The part that follows an escape character, by the character behind it. -/
def afterEscape (n : Nat) : State :=
  if n < 0x20 || n == 0x7F then .escape
  else if n < 0x30 then .escapeSign
  else if n == 0x50 then .deviceStart
  else if n == 0x58 || n == 0x5E || n == 0x5F then .body
  else if n == 0x5B then .control
  else if n == 0x5D then .command
  else .ground

/-- The part that follows the introduction of a device control. -/
def afterDevice (state : State) (n : Nat) : State :=
  if n < 0x20 || n == 0x7F then state
  else if n < 0x30 then .deviceSign
  else if n < 0x40 then
    if state = .deviceSign || (state = .deviceNumber && 0x3C ≤ n) then .body else .deviceNumber
  else .body

/-- Whether an octet of the character is the terminator of device controls, `0x9C`. -/
def holdsTerminator (c : Char) : Bool :=
  (String.singleton c).toUTF8.toList.contains 0x9C

/-- The state behind a character that is not shown. -/
def State.next (state : State) (c : Char) : State :=
  let n := c.toNat
  if n == 0x18 || n == 0x1A then .ground
  else if n == 0x1B then .escape
  else if 0x7F < n then if state = .body && holdsTerminator c then .ground else state
  else
    match state with
    | .ground => .ground
    | .escape => afterEscape n
    | .escapeSign => if 0x30 ≤ n && n < 0x7F then .ground else .escapeSign
    | .control => if 0x40 ≤ n && n < 0x7F then .ground else .control
    | .deviceStart | .deviceNumber | .deviceSign => afterDevice state n
    | .body => .body
    | .command => if n == 7 then .ground else .command

/-- Whether a character is shown: outside of sequences, or as white space that acts inside one. -/
def State.shows (state : State) (c : Char) : Bool :=
  let n := c.toNat
  if isBlankControl n then state.acts else state = .ground && 0x20 ≤ n && n != 0x7F

/-- The characters that are shown. One that is shown ends the sequence it stands in. -/
def plainFrom : State → List Char → List Char
  | _, [] => []
  | state, c :: rest =>
    if state.shows c then c :: plainFrom .ground rest else plainFrom (state.next c) rest

def plain (text : String) : String := String.ofList (plainFrom .ground text.toList)

end InstallStatus.Text.Terminal
