import WorkloadNames.CommandLine.Vocabulary
import WorkloadNames.Palette

/-!
What can be wrong with a command line, and how each fault is told to a reader.
-/

set_option autoImplicit false
set_option relaxedAutoImplicit false

namespace WorkloadNames.CommandLine

/-- A fault of the command line. -/
inductive Misuse where
  /-- Nothing has been given at all. -/
  | nothing
  /-- There is no command. -/
  | noCommand
  /-- The command is unknown. -/
  | unknownCommand (word : Text)
  /-- An argument has no place here. -/
  | unexpected (argument : Text)
  /-- A flag has been given a value. -/
  | unexpectedValue (value : Text) (flag : Flag)
  /-- A parameter has been given no value. -/
  | valueMissing (parameter : Parameter)
  /-- A parameter has been given a value that it does not take. -/
  | badValue (value : Text) (parameter : Parameter)
  /-- A parameter or flag has been given twice in one place. -/
  | repeated (shown : Text)
  /-- Arguments that have to be given have not been. -/
  | missing (shown : List Text)
  deriving DecidableEq, Repr

namespace Misuse

/-- A passage that is not set off. -/
def told (content : Text) : Passage := ⟨none, content⟩

/-- A passage between quotes. -/
def cited (emphasis : Emphasis) (content : Text) : List Passage :=
  [told ['\''], ⟨some emphasis, content⟩, told ['\'']]

/-- A line that lists what there is to choose from, after its line break. -/
def choicesLine (heading : String) (choices : List Text) : List Passage :=
  if choices.isEmpty then []
  else
    told ("\n  [".toList ++ heading.toList ++ ": ".toList)
      :: ([told [',', ' ']].intercalate (choices.map fun choice ↦ [⟨some .right, choice⟩])
        ++ [told [']']])

/-- The line that lists the values of a parameter, after its line break. -/
def valuesLine (parameter : Parameter) : List Passage :=
  choicesLine "possible values" parameter.choices

/-- The words of all commands, with the one that asks for help. -/
def commandWords : List Text := Verb.all.map Verb.word ++ [helpWord]

/-- Whether a word is that of a command. -/
def isCommandWord (word : Text) : Bool := commandWords.any fun known ↦ known = word

/-- What the program is, for a reader who has not said what it is to do. -/
def about : Text := "fname - Build friendly workload names and check DNS name syntax".toList

/-- A fault that is announced as such. -/
def announced (passages : List Passage) : List Passage :=
  ⟨some .alarm, "error:".toList⟩ :: told [' '] :: passages

/-- The wording of a fault. -/
def passages : Misuse → List Passage
  | .nothing => [told about]
  | .noCommand =>
    announced (cited .wrong "fname".toList
      ++ told " requires a subcommand but one was not provided".toList
      :: choicesLine "subcommands" commandWords)
  | .unknownCommand word =>
    announced (told "unrecognized subcommand ".toList :: cited .wrong word)
  | .unexpected argument =>
    announced (told "unexpected argument ".toList :: cited .wrong argument
      ++ [told " found".toList])
  | .unexpectedValue value flag =>
    announced (told "unexpected value ".toList :: cited .wrong value
      ++ told " for ".toList :: cited .verbatim flag.shown
      ++ [told " found; no more were expected".toList])
  | .valueMissing parameter =>
    announced (told "a value is required for ".toList :: cited .wrong parameter.shown
      ++ told " but none was supplied".toList :: valuesLine parameter)
  | .badValue value parameter =>
    announced (told "invalid value ".toList :: cited .wrong value
      ++ told " for ".toList :: cited .verbatim parameter.shown ++ valuesLine parameter)
  | .repeated shown =>
    announced (told "the argument ".toList :: cited .wrong shown
      ++ [told " cannot be used multiple times".toList])
  | .missing shown =>
    announced (told "the following required arguments were not provided:".toList
      :: shown.flatMap fun argument ↦ [told "\n  ".toList, ⟨some .right, argument⟩])

/-- A fault as it is explained to a reader. -/
def explanation (palette : Palette) (misuse : Misuse) : Text :=
  misuse.passages.flatMap (Passage.drawn · palette) ++ ['\n']

end Misuse

end WorkloadNames.CommandLine
