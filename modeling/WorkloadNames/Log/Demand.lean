import WorkloadNames.Pattern.Reading

/-!
What a directive may demand of a value: that it is true or false, that it is a number, or that it
matches a pattern. A text that is a number is never taken for a pattern.
-/

set_option autoImplicit false
set_option relaxedAutoImplicit false

namespace WorkloadNames.Log

/-- The power of ten behind a number, if there is one. -/
def isExponent : Text → Bool
  | [] => true
  | c :: rest =>
    (c == 'e' || c == 'E') && !(Text.unsigned rest).isEmpty && (Text.unsigned rest).all Char.isDigit

/-- A number with or without a fraction and a power of ten. -/
def isDecimal (text : Text) : Bool :=
  let whole := text.takeWhile Char.isDigit
  match text.drop whole.length with
  | '.' :: rest =>
    let fraction := rest.takeWhile Char.isDigit
    !(whole.isEmpty && fraction.isEmpty) && isExponent (rest.drop fraction.length)
  | rest => !whole.isEmpty && isExponent rest

/-- The words that stand for numbers without digits, or for none among the numbers. -/
def numberWords : List Text := ["inf".toList, "infinity".toList, "nan".toList]

/-- A number in digits or in a word, with or without a sign. -/
def isNumber (text : Text) : Bool :=
  numberWords.any (fun word ↦ word = (Text.unsigned text).map Char.toLower)
    || isDecimal (Text.unsigned text)

/-- Whether a text demands something of a value. The two truths are patterns of themselves. -/
def isDemand (text : Text) : Bool := isNumber text || Pattern.isPattern text

end WorkloadNames.Log
