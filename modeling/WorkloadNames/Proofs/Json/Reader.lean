import WorkloadNames.Json
import WorkloadNames.Text.Hexadecimal

/-!
A reader of JSON documents. It takes them in any layout, with every way of escaping a character, and
knows nothing of how they are written here. Every part of the reader takes the text that is left and
gives what it has read beside the rest, or nothing if the text does not begin with such a part. The
values are those that `Json` has: strings, natural numbers, truth values, arrays and objects, whose
members keep their order.
-/

set_option autoImplicit false
set_option relaxedAutoImplicit false

namespace WorkloadNames.Json

/-- A blank between the parts of a document. -/
def isBlank (c : Char) : Bool := c == ' ' || c == '\n' || c == '\r' || c == '\t'

/-- The text after its leading blanks. -/
def skipBlanks (ahead : Text) : Text := ahead.dropWhile isBlank

/-! ### Strings -/

/-- The code unit that four hexadecimal digits write. -/
def codeUnit? (ahead : Text) : Option (Nat × Text) := do
  let values ← (ahead.take 4).mapM Text.hexValue?
  guard (values.length = 4)
  return (values.foldl (fun code value ↦ 16 * code + value) 0, ahead.drop 4)

/-- The character of one code unit, or of a pair of units that are no characters by themselves. -/
def codePoint? (ahead : Text) : Option (Char × Text) := do
  let (upper, rest) ← codeUnit? ahead
  if 0xd800 ≤ upper ∧ upper < 0xdc00 then
    match rest with
    | '\\' :: 'u' :: rest =>
      let (lower, rest) ← codeUnit? rest
      guard (0xdc00 ≤ lower ∧ lower < 0xe000)
      return (Char.ofNat (0x10000 + 0x400 * (upper - 0xd800) + (lower - 0xdc00)), rest)
    | _ => none
  else
    guard upper.isValidChar
    return (Char.ofNat upper, rest)

/-- What an escape stands for, read from behind its backslash. -/
def escape? : Text → Option (Char × Text)
  | '"' :: rest => some ('"', rest)
  | '\\' :: rest => some ('\\', rest)
  | '/' :: rest => some ('/', rest)
  | 'b' :: rest => some ('\x08', rest)
  | 'f' :: rest => some ('\x0c', rest)
  | 'n' :: rest => some ('\n', rest)
  | 'r' :: rest => some ('\r', rest)
  | 't' :: rest => some ('\t', rest)
  | 'u' :: rest => codePoint? rest
  | _ => none

/-- The content of a string, read from behind its opening quote, with at most so many characters
and its closing quote. -/
def content? : Nat → Text → Option (Text × Text)
  | 0, _ => none
  | _ + 1, [] => none
  | _ + 1, '"' :: rest => some ([], rest)
  | most + 1, '\\' :: rest => do
    let (c, rest) ← escape? rest
    let (content, rest) ← content? most rest
    return (c :: content, rest)
  | most + 1, c :: rest =>
    if c.toNat < 0x20 then none
    else do
      let (content, rest) ← content? most rest
      return (c :: content, rest)

/-- A string. -/
def string? (ahead : Text) : Option (Text × Text) :=
  match skipBlanks ahead with
  | '"' :: rest => content? (rest.length + 1) rest
  | _ => none

/-! ### Numbers -/

/-- A natural number. Only zero itself begins with a zero. -/
def number? (ahead : Text) : Option (Nat × Text) :=
  match ahead.takeWhile Char.isDigit with
  | [] => none
  | '0' :: _ :: _ => none
  | digits => some (Nat.ofDigitChars 10 digits 0, ahead.drop digits.length)

/-! ### Arrays and objects -/

section Entries

variable {α : Type} (closing : Char) (part? : Text → Option (α × Text))

/-- The entries of a bracket after its first, each behind a comma, with at most so many commas and
the sign that closes the bracket. -/
def further? : Nat → Text → Option (List α × Text)
  | 0, _ => none
  | most + 1, ahead =>
    match skipBlanks ahead with
    | [] => none
    | c :: rest =>
      if c = closing then some ([], rest)
      else if c = ',' then do
        let (entry, rest) ← part? rest
        let (more, rest) ← further? most rest
        return (entry :: more, rest)
      else none

/-- The entries of a bracket, read from behind the sign that opens it. -/
def entries? (ahead : Text) : Option (List α × Text) :=
  match skipBlanks ahead with
  | [] => none
  | c :: rest =>
    if c = closing then some ([], rest)
    else do
      let (entry, rest) ← part? ahead
      let (more, rest) ← further? closing part? (rest.length + 1) rest
      return (entry :: more, rest)

end Entries

/-- A member of an object: its name, a colon and its value. -/
def member? (value? : Text → Option (Json × Text)) (ahead : Text) :
    Option ((Text × Json) × Text) := do
  let (name, rest) ← string? ahead
  match skipBlanks rest with
  | ':' :: rest =>
    let (value, rest) ← value? rest
    return ((name, value), rest)
  | _ => none

/-- A value with brackets at most so deep. -/
def value? : Nat → Text → Option (Json × Text)
  | 0, _ => none
  | most + 1, ahead =>
    match skipBlanks ahead with
    | '"' :: _ => do
      let (content, rest) ← string? ahead
      return (.text content, rest)
    | '[' :: rest => do
      let (items, rest) ← entries? ']' (value? most) rest
      return (.array items, rest)
    | '{' :: rest => do
      let (members, rest) ← entries? '}' (member? (value? most)) rest
      return (.object members, rest)
    | 't' :: 'r' :: 'u' :: 'e' :: rest => some (.truth true, rest)
    | 'f' :: 'a' :: 'l' :: 's' :: 'e' :: rest => some (.truth false, rest)
    | rest => do
      let (value, rest) ← number? rest
      return (.number value, rest)

/-- The value of a document, which holds nothing else. -/
def read? (document : Text) : Option Json := do
  let (value, rest) ← value? (document.length + 1) document
  guard (skipBlanks rest = [])
  return value

end WorkloadNames.Json
