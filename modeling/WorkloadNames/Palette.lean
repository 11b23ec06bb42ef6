import WorkloadNames.Text.Terminal

/-!
How errors, hints and log lines look on a terminal. With colours, what matters in them is set off by
sequences that the terminal takes for itself. What is found wrong with a command line holds no such
sequence without them, not even in what has been taken over from the command line.
-/

set_option autoImplicit false
set_option relaxedAutoImplicit false

namespace WorkloadNames

/-- Whether what matters is set off by colours. -/
inductive Palette where
  | plain
  | coloured
  deriving DecidableEq, Repr

namespace Palette

/-- What ends every setting off. -/
def reset : Text := "\x1b[0m".toList

/-- The word that announces an error. -/
def errorWord : Palette → Text
  | .plain => "Error:".toList
  | .coloured => "\x1b[1;31mError:".toList ++ reset

/-- A text behind a sequence that sets it off, if there are colours. -/
def setOff (palette : Palette) (opening content : Text) : Text :=
  match palette with
  | .plain => content
  | .coloured => opening ++ content ++ reset

/-- A line that holds a hint. -/
def hintLine (palette : Palette) (hint : Text) : Text :=
  match palette with
  | .plain => "Hint: ".toList ++ hint
  | .coloured => "\x1b[33mHint: ".toList ++ hint ++ reset

end Palette

/-! ### Passages -/

/-- What a passage of an explanation is set off as. -/
inductive Emphasis where
  /-- As the word that announces a fault. -/
  | alarm
  /-- As something to be written as it stands. -/
  | verbatim
  /-- As something that would be right. -/
  | right
  /-- As something that is wrong. -/
  | wrong
  deriving DecidableEq, Repr

/-- The sequence that begins a setting off. -/
def Emphasis.opening : Emphasis → Text
  | .alarm => "\x1b[1m\x1b[31m".toList
  | .verbatim => "\x1b[1m".toList
  | .right => "\x1b[32m".toList
  | .wrong => "\x1b[33m".toList

/-- A passage of an explanation, set off or not. -/
structure Passage where
  emphasis? : Option Emphasis
  content : Text
  deriving DecidableEq, Repr

/-- A passage as it looks. -/
def Passage.drawn (passage : Passage) : Palette → Text
  | .plain => Text.shown passage.content
  | .coloured =>
    passage.emphasis?.elim passage.content fun emphasis ↦
      emphasis.opening ++ passage.content ++ Palette.reset

end WorkloadNames
