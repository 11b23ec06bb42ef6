import WorkloadNames.Text.Hexadecimal

/-!
The small parts of a TOML document: line ends and comments, strings of the four kinds, and keys.
Every reader takes the text that is left and gives what it has read beside the rest, or nothing if
the text does not begin with such a part.
-/

set_option autoImplicit false
set_option relaxedAutoImplicit false

namespace WorkloadNames.Toml

/-- A blank within a line. -/
def isSpace (c : Char) : Bool := c == ' ' || c == '\t'

/-- The text after its leading blanks. -/
def skipSpaces (text : Text) : Text := text.dropWhile isSpace

/-- A character that may stand for itself in strings and comments: the tab, and all but the
controls. -/
def isPlain (c : Char) : Bool := c == '\t' || (0x20 ≤ c.toNat && c.toNat != 0x7f)

/-! ### Line ends and comments -/

/-- The text after the line it begins in, which must hold nothing but blanks and a comment. -/
def lineEnd? (inComment : Bool) : Text → Option Text
  | [] => some []
  | '\n' :: rest => some rest
  | '\r' :: '\n' :: rest => some rest
  | c :: rest =>
    if inComment then if isPlain c then lineEnd? true rest else none
    else if c = '#' then lineEnd? true rest
    else if isSpace c then lineEnd? false rest
    else none

/-- The text after any number of blanks, line ends and comments. -/
def skipLines? (inComment : Bool) : Text → Option Text
  | [] => some []
  | '\n' :: rest => skipLines? false rest
  | '\r' :: '\n' :: rest => skipLines? false rest
  | c :: rest =>
    if inComment then if isPlain c then skipLines? true rest else none
    else if c = '#' then skipLines? true rest
    else if isSpace c then skipLines? false rest
    else some (c :: rest)

/-! ### Strings -/

/-- The character with a code point of so many hexadecimal digits. -/
def codePoint? (digits : Nat) (text : Text) : Option (Char × Text) := do
  let values ← (text.take digits).mapM Text.hexValue?
  guard (values.length = digits)
  return (← Text.charOfHex? values, text.drop digits)

/-- What an escape stands for, read from behind its backslash. -/
def escape? : Text → Option (Char × Text)
  | 'b' :: rest => some ('\x08', rest)
  | 't' :: rest => some ('\t', rest)
  | 'n' :: rest => some ('\n', rest)
  | 'f' :: rest => some ('\x0c', rest)
  | 'r' :: rest => some ('\r', rest)
  | 'e' :: rest => some ('\x1b', rest)
  | '"' :: rest => some ('"', rest)
  | '\\' :: rest => some ('\\', rest)
  | 'x' :: rest => codePoint? 2 rest
  | 'u' :: rest => codePoint? 4 rest
  | 'U' :: rest => codePoint? 8 rest
  | _ => none

/-- The rest of a basic string, with at most so many characters. -/
def basic? : Nat → Text → Option (Text × Text)
  | 0, _ => none
  | _ + 1, '"' :: rest => some ([], rest)
  | most + 1, '\\' :: rest => do
    let (c, rest) ← escape? rest
    let (content, rest) ← basic? most rest
    return (c :: content, rest)
  | most + 1, c :: rest => do
    guard (isPlain c)
    let (content, rest) ← basic? most rest
    return (c :: content, rest)
  | _ + 1, [] => none

/-- The rest of a literal string. -/
def literal? : Text → Option (Text × Text)
  | [] => none
  | '\'' :: rest => some ([], rest)
  | c :: rest => do
    guard (isPlain c)
    let (content, rest) ← literal? rest
    return (c :: content, rest)

/-- A string of several lines does not begin with a line end. -/
def skipFirstLineEnd : Text → Text
  | '\n' :: rest => rest
  | '\r' :: '\n' :: rest => rest
  | rest => rest

/-- Up to two quotes may stand right before the three that close a string. -/
def closing (quote : Char) : Text → Text × Text
  | first :: second :: rest =>
    if first = quote then
      if second = quote then ([quote, quote], rest) else ([quote], second :: rest)
    else ([], first :: second :: rest)
  | [first] => if first = quote then ([quote], []) else ([], [first])
  | [] => ([], [])

/-- The text after blanks and line ends. -/
def skipBlankLines : Text → Text
  | '\r' :: '\n' :: rest => skipBlankLines rest
  | c :: rest => if isSpace c || c == '\n' then skipBlankLines rest else c :: rest
  | [] => []

/-- The text after a line end that a backslash takes back, with the blanks around it. -/
def continuation? (text : Text) : Option Text :=
  match skipSpaces text with
  | '\n' :: rest => some (skipBlankLines rest)
  | '\r' :: '\n' :: rest => some (skipBlankLines rest)
  | _ => none

/-- The rest of a basic string of several lines, with at most so many characters. -/
def longBasic? : Nat → Text → Option (Text × Text)
  | 0, _ => none
  | _ + 1, '"' :: '"' :: '"' :: rest => some (closing '"' rest)
  | most + 1, '\\' :: rest =>
    match continuation? rest with
    | some rest => longBasic? most rest
    | none => do
      let (c, rest) ← escape? rest
      let (content, rest) ← longBasic? most rest
      return (c :: content, rest)
  | most + 1, '\r' :: '\n' :: rest => do
    let (content, rest) ← longBasic? most rest
    return ('\n' :: content, rest)
  | most + 1, c :: rest => do
    guard (isPlain c || c == '\n')
    let (content, rest) ← longBasic? most rest
    return (c :: content, rest)
  | _ + 1, [] => none

/-- The rest of a literal string of several lines. -/
def longLiteral? : Text → Option (Text × Text)
  | [] => none
  | '\'' :: '\'' :: '\'' :: rest => some (closing '\'' rest)
  | '\r' :: '\n' :: rest => do
    let (content, rest) ← longLiteral? rest
    return ('\n' :: content, rest)
  | c :: rest => do
    guard (isPlain c || c == '\n')
    let (content, rest) ← longLiteral? rest
    return (c :: content, rest)

/-- A string on one line. -/
def lineString? : Text → Option (Text × Text)
  | '"' :: rest => basic? (rest.length + 1) rest
  | '\'' :: rest => literal? rest
  | _ => none

/-- A string of any kind. -/
def string? : Text → Option (Text × Text)
  | '"' :: '"' :: '"' :: rest => longBasic? (rest.length + 1) (skipFirstLineEnd rest)
  | '\'' :: '\'' :: '\'' :: rest => longLiteral? (skipFirstLineEnd rest)
  | text => lineString? text

/-! ### Keys -/

/-- A character of an unquoted key. -/
def isBareKeyChar (c : Char) : Bool := c.isAlphanum || c == '_' || c == '-'

/-- A key, quoted or not. -/
def key? (text : Text) : Option (Text × Text) :=
  match text.takeWhile isBareKeyChar with
  | [] => lineString? text
  | word => some (word, text.drop word.length)

/-- Keys joined by dots, at most so many. -/
def keyPathWithin? : Nat → Text → Option (List Text × Text)
  | 0, _ => none
  | most + 1, text => do
    let (key, rest) ← key? text
    match skipSpaces rest with
    | '.' :: rest =>
      let (path, rest) ← keyPathWithin? most (skipSpaces rest)
      return (key :: path, rest)
    | rest => return ([key], rest)

/-- Keys joined by dots, with the blanks after them. -/
def keyPath? (text : Text) : Option (List Text × Text) := keyPathWithin? (text.length + 1) text

end WorkloadNames.Toml
