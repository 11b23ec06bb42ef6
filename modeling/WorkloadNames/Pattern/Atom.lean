import WorkloadNames.Pattern.Mode
import WorkloadNames.Text.Hexadecimal

/-!
The smallest parts of a pattern: characters, which may be escaped, families of characters such as
the digits, and conditions on the place where a match stands.
-/

set_option autoImplicit false
set_option relaxedAutoImplicit false

namespace WorkloadNames.Pattern

/-- A part of a pattern that has no parts. -/
inductive Atom where
  /-- A character, which may have been written as a byte. -/
  | char (value : Char) (isByte : Bool)
  /-- Any character. -/
  | any
  /-- An end of the text or of a line. -/
  | edge
  /-- An end of a word, or no end of a word. -/
  | wordEdge
  /-- The digits, the blanks or the word characters, or all others. -/
  | family (isNegated : Bool)
  deriving DecidableEq, Repr

/-- A character of ASCII. -/
def isAscii (c : Char) : Bool := c.toNat < 0x80

namespace Atom

/-- Whether a part can be matched. -/
def isUsable (mode : Mode) : Atom → Bool
  | .char c isByte => if mode.bytes then !isByte || isAscii c else !mode.caseless
  | .any => !mode.bytes
  | .edge => true
  | .wordEdge => mode.bytes
  | .family isNegated => mode.bytes && !isNegated

/-- Whether a part can be matched as a member of a class of characters. -/
def isMember (mode : Mode) : Atom → Bool
  | .char c _ => if mode.bytes then isAscii c else !mode.caseless
  | .family isNegated => mode.bytes && !isNegated
  | .any | .edge | .wordEdge => false

end Atom

/-! ### Reading -/

/-- The values of so many hexadecimal digits, with blanks and remarks behind each. -/
def hexDigits? (mode : Mode) : Nat → Text → Option (List Nat × Text)
  | 0, text => some ([], text)
  | _ + 1, [] => none
  | most + 1, c :: rest => do
    let value ← Text.hexValue? c
    let (values, rest) ← hexDigits? mode most (mode.skip rest)
    return (value :: values, rest)

/-- A character written by so many hexadecimal digits. -/
def codePoint? (mode : Mode) (digits : Nat) (text : Text) : Option (Char × Text) := do
  let (values, rest) ← hexDigits? mode digits (mode.skip text)
  return (← Text.charOfHex? values, rest)

/-- The character that a letter behind a backslash stands for. -/
def namedChar? : Char → Option Char
  | 'a' => some '\x07'
  | 'f' => some '\x0c'
  | 't' => some '\t'
  | 'n' => some '\n'
  | 'r' => some '\r'
  | 'v' => some '\x0b'
  | _ => none

/-- What an escape stands for, read from behind its backslash. Signs of ASCII stand for themselves;
no group is referred to, and no property of characters is known. -/
def escape? (mode : Mode) : Text → Option (Atom × Text)
  | [] => none
  | 'x' :: rest => (codePoint? mode 2 rest).map fun (c, rest) ↦ (.char c true, rest)
  | 'u' :: rest => (codePoint? mode 4 rest).map fun (c, rest) ↦ (.char c false, rest)
  | 'U' :: rest => (codePoint? mode 8 rest).map fun (c, rest) ↦ (.char c false, rest)
  | c :: rest =>
    if c ∈ ['d', 's', 'w'] then some (.family false, rest)
    else if c ∈ ['D', 'S', 'W'] then some (.family true, rest)
    else if c ∈ ['A', 'z'] then some (.edge, rest)
    else if c ∈ ['b', 'B', '<', '>'] then some (.wordEdge, rest)
    else if isAscii c ∧ ¬ c.isAlphanum then some (.char c false, rest)
    else (namedChar? c).map fun value ↦ (.char value false, rest)

/-- A part in a class of characters, where only the backslash is special. -/
def member? (mode : Mode) : Text → Option (Atom × Text)
  | [] => none
  | '\\' :: rest => escape? mode rest
  | c :: rest => some (.char c false, rest)

/-- A part outside of classes. -/
def atom? (mode : Mode) : Text → Option (Atom × Text)
  | '.' :: rest => some (.any, rest)
  | '^' :: rest => some (.edge, rest)
  | '$' :: rest => some (.edge, rest)
  | text => member? mode text

end WorkloadNames.Pattern
