import WorkloadNames.Text.Basic

/-!
Texts that are safe to show on a terminal: without control characters, except those that move to
another line or column, and without the sequences that an escape character introduces. A terminal
takes its controls byte by byte, so inside a sequence a character of several bytes counts as these.
-/

set_option autoImplicit false
set_option relaxedAutoImplicit false

namespace WorkloadNames.Text

/-- The tab, the line end, the page end and the carriage return. -/
def isLayout (c : Char) : Bool := c == '\t' || c == '\n' || c == '\x0c' || c == '\r'

/-- A control character of ASCII. -/
def isControl (c : Char) : Bool := c.toNat < 0x20 || c.toNat == 0x7f

/-- The sequence that the bytes at hand belong to. -/
inductive Control where
  /-- Plain text. -/
  | none
  /-- Right behind an escape character. -/
  | escape
  /-- An escape sequence that has a sign between its ends. -/
  | escapeSign
  /-- A command, before its first number. -/
  | command
  /-- A command that has numbers. -/
  | commandNumbers
  /-- A command that has a sign behind its numbers. -/
  | commandSign
  /-- A command that is not well formed. -/
  | commandIgnored
  /-- A device string, before its first number. -/
  | device
  /-- A device string that has numbers. -/
  | deviceNumbers
  /-- A device string that has a sign behind its numbers. -/
  | deviceSign
  /-- A device string that is not well formed. -/
  | deviceIgnored
  /-- The content of a device string. -/
  | deviceContent
  /-- A text meant for the terminal itself, such as its title. -/
  | title
  /-- A text meant for some program behind the terminal. -/
  | remark
  deriving DecidableEq, Repr

namespace Control

/-- Whether a layout character inside the sequence has its effect all the same. -/
def keepsLayout : Control → Bool
  | .none | .escape | .escapeSign | .command | .commandNumbers | .commandSign
  | .commandIgnored => true
  | .device | .deviceNumbers | .deviceSign | .deviceIgnored | .deviceContent | .title
  | .remark => false

/-- What an escape sequence becomes by the byte behind the escape character, if that byte does not
end it. -/
def introduced (byte : Nat) : Control :=
  if byte = 0x5b then .command
  else if byte = 0x5d then .title
  else if byte = 0x50 then .device
  else if byte = 0x58 ∨ byte = 0x5e ∨ byte = 0x5f then .remark
  else .none

/-- What a sequence becomes by a further byte. The escape character begins a sequence anew, and two
controls call off any sequence. -/
def after (control : Control) (byte : Nat) : Control :=
  if byte = 0x1b then .escape
  else if byte = 0x18 ∨ byte = 0x1a then .none
  else if byte = 0x9c then
    match control with
    | .deviceIgnored | .deviceContent | .remark => .none
    | _ => control
  else if byte < 0x20 ∨ 0x7e < byte then
    if control = .title ∧ byte = 0x07 then .none else control
  else
    let isSign : Bool := byte < 0x30
    let isNumber : Bool := 0x30 ≤ byte && byte ≤ 0x3b
    let isMark : Bool := 0x3c ≤ byte && byte ≤ 0x3f
    match control with
    | .none => .none
    | .escape => if isSign then .escapeSign else introduced byte
    | .escapeSign => if isSign then .escapeSign else .none
    | .command =>
      if isSign then .commandSign else if isNumber || isMark then .commandNumbers else .none
    | .commandNumbers =>
      if isSign then .commandSign
      else if isNumber then .commandNumbers
      else if isMark then .commandIgnored
      else .none
    | .commandSign =>
      if isSign then .commandSign else if isNumber || isMark then .commandIgnored else .none
    | .commandIgnored => if isSign || isNumber || isMark then .commandIgnored else .none
    | .device =>
      if isSign then .deviceSign
      else if isNumber || isMark then .deviceNumbers
      else .deviceContent
    | .deviceNumbers =>
      if isSign then .deviceSign
      else if isNumber then .deviceNumbers
      else if isMark then .deviceIgnored
      else .deviceContent
    | .deviceSign =>
      if isSign then .deviceSign
      else if isNumber || isMark then .deviceIgnored
      else .deviceContent
    | .deviceIgnored => .deviceIgnored
    | .deviceContent => .deviceContent
    | .title => .title
    | .remark => .remark

/-- What a sequence becomes by the bytes of a character. -/
def afterChar (control : Control) (c : Char) : Control :=
  (String.utf8EncodeChar c).foldl (fun control byte ↦ control.after byte.toNat) control

end Control

/-- The text that is left when the controls are taken out. What has been shown behind a layout
character inside a sequence goes on being shown; the sequence is taken up again at the next control
character, unless a character of several bytes has ended it. -/
def shownFrom (control : Control) (showing : Bool) : Text → Text
  | [] => []
  | c :: rest =>
    if isLayout c ∧ (showing ∨ control.keepsLayout) then c :: shownFrom control true rest
    else if ¬ isControl c ∧ (showing ∨ control = .none) then
      c :: shownFrom (if c.toNat < 0x80 then control else .none) true rest
    else shownFrom (control.afterChar c) false rest

/-- A text as a terminal may show it. -/
def shown (text : Text) : Text := shownFrom .none false text

end WorkloadNames.Text
