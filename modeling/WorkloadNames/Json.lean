import WorkloadNames.Text.Basic

/-!
JSON values and their written form, on one line or spread over several. Members keep their order.
In a string the quote, the backslash and the control characters below the space are escaped, the
common ones by a letter and the others by four hexadecimal digits; every other character stands for
itself.
-/

set_option autoImplicit false
set_option relaxedAutoImplicit false

namespace WorkloadNames

/-- A JSON value; its numbers are natural. -/
inductive Json where
  | text (content : Text)
  | number (value : Nat)
  | truth (value : Bool)
  | array (items : List Json)
  | object (members : List (Text × Json))
  deriving Repr

namespace Json

/-- A character as it stands in a string. -/
def escaped (c : Char) : Text :=
  match c with
  | '"' => ['\\', '"']
  | '\\' => ['\\', '\\']
  | '\n' => ['\\', 'n']
  | '\r' => ['\\', 'r']
  | '\t' => ['\\', 't']
  | '\x08' => ['\\', 'b']
  | '\x0c' => ['\\', 'f']
  | c =>
    if c.toNat < 0x20 then
      ['\\', 'u', '0', '0', Nat.digitChar (c.toNat / 16), Nat.digitChar (c.toNat % 16)]
    else [c]

/-- A text as a string. -/
def quoted (content : Text) : Text := '"' :: content.flatMap escaped ++ ['"']

/-- How a value is spread over lines. -/
inductive Layout where
  /-- The whole value on one line, without blanks. -/
  | compact
  /-- Every item and member on a line of its own, two blanks further in than what holds it. -/
  | indented
  deriving DecidableEq, Repr

/-- What stands before an item at the given depth. -/
def Layout.lineBreak : Layout → Nat → Text
  | .compact, _ => []
  | .indented, depth => '\n' :: List.replicate (2 * depth) ' '

/-- What stands between the name of a member and its value. -/
def Layout.colon : Layout → Text
  | .compact => [':']
  | .indented => [':', ' ']

mutual

/-- The written form of a value that is held at the given depth. -/
def written (layout : Layout) (depth : Nat) : Json → Text
  | .text content => quoted content
  | .number value => Text.decimal value
  | .truth value => (if value then "true" else "false").toList
  | .array [] => ['[', ']']
  | .array (item :: rest) =>
    ['['] ++ layout.lineBreak (depth + 1) ++ written layout (depth + 1) item
      ++ writtenItems layout (depth + 1) rest ++ layout.lineBreak depth ++ [']']
  | .object [] => ['{', '}']
  | .object (member :: rest) =>
    ['{'] ++ layout.lineBreak (depth + 1) ++ writtenMember layout (depth + 1) member
      ++ writtenMembers layout (depth + 1) rest ++ layout.lineBreak depth ++ ['}']

/-- The items after the first, each behind its comma. -/
def writtenItems (layout : Layout) (depth : Nat) : List Json → Text
  | [] => []
  | item :: rest =>
    [','] ++ layout.lineBreak depth ++ written layout depth item ++ writtenItems layout depth rest

/-- A member: its name, a colon and its value. -/
def writtenMember (layout : Layout) (depth : Nat) : Text × Json → Text
  | (name, value) => quoted name ++ layout.colon ++ written layout depth value

/-- The members after the first, each behind its comma. -/
def writtenMembers (layout : Layout) (depth : Nat) : List (Text × Json) → Text
  | [] => []
  | member :: rest =>
    [','] ++ layout.lineBreak depth ++ writtenMember layout depth member
      ++ writtenMembers layout depth rest

end

/-- A value on one line. -/
def compact (value : Json) : Text := value.written .compact 0

/-- A value spread over lines. -/
def indented (value : Json) : Text := value.written .indented 0

end Json

end WorkloadNames
