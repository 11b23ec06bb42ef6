import WorkloadNames.Text.Blank

/-!
How the characters of a pattern are to be taken. A pattern is a regular expression; groups in it may
change how what stands behind them is read. Nothing is known here of letters beyond ASCII: families
of characters, edges of words and a disregard of case are to be had only where a pattern is about
bytes, and a pattern about bytes matches nothing but ASCII.
-/

set_option autoImplicit false
set_option relaxedAutoImplicit false

namespace WorkloadNames.Pattern

/-- The way in which a stretch of a pattern is read. -/
structure Mode where
  /-- Whether the pattern is about bytes in place of characters. -/
  bytes : Bool
  /-- Whether capital and small letters are the same. -/
  caseless : Bool
  /-- Whether blanks and remarks may stand between the parts. -/
  spaced : Bool
  deriving DecidableEq, Repr

namespace Mode

/-- The way in which a pattern begins. -/
def standard : Mode := ⟨false, false, false⟩

/-- The letters that change the way of reading, or what is matched by the parts. -/
def letters : List Char := ['i', 'm', 's', 'U', 'u', 'R', 'x']

/-- The way of reading when a letter has been turned on or off. -/
def turned (mode : Mode) (letter : Char) (on : Bool) : Mode :=
  match letter with
  | 'u' => { mode with bytes := !on }
  | 'i' => { mode with caseless := on }
  | 'x' => { mode with spaced := on }
  | _ => mode

end Mode

/-! ### Blanks and remarks -/

/-- The text after blanks and after remarks, which go from a number sign to the end of the line. -/
def skipRemarks (inRemark : Bool) : Text → Text
  | [] => []
  | c :: rest =>
    if inRemark then skipRemarks (c != '\n') rest
    else if Text.isBlank c then skipRemarks false rest
    else if c = '#' then skipRemarks true rest
    else c :: rest

/-- The text after what may stand between two parts of a pattern. -/
def Mode.skip (mode : Mode) (text : Text) : Text :=
  if mode.spaced then skipRemarks false text else text

/-- The character that decides what a hyphen before the text means. Blanks before it are passed over
where they may stand, and a number sign among them, but no remark. -/
def Mode.ahead? (mode : Mode) (text : Text) : Option Char :=
  if mode.spaced then
    match text.dropWhile Text.isBlank with
    | '#' :: rest => (rest.dropWhile Text.isBlank).head?.or text.head?
    | rest => rest.head?.or text.head?
  else text.head?

end WorkloadNames.Pattern
