import WorkloadNames.Text.Split

/-!
The written forms of TOML's numbers, truth values, dates and times.
-/

set_option autoImplicit false
set_option relaxedAutoImplicit false

namespace WorkloadNames.Toml

/-! ### Numbers -/

/-- Digits in groups that single underscores part. -/
def isGrouped (isDigit : Char → Bool) (text : Text) : Bool :=
  (Text.pieces '_' text).all fun group ↦ !group.isEmpty && group.all isDigit

/-- A decimal number without leading zeros. -/
def isDecimal (text : Text) : Bool :=
  isGrouped Char.isDigit text && (text == ['0'] || text.head? != some '0')

/-- A hexadecimal digit. -/
def isHexDigit (c : Char) : Bool :=
  c.isDigit || ('a' ≤ c && c ≤ 'f') || ('A' ≤ c && c ≤ 'F')

/-- A whole number, decimal with a sign or in one of three bases. -/
def isInteger : Text → Bool
  | '0' :: 'x' :: digits => isGrouped isHexDigit digits
  | '0' :: 'o' :: digits => isGrouped (fun c ↦ '0' ≤ c && c ≤ '7') digits
  | '0' :: 'b' :: digits => isGrouped (fun c ↦ c == '0' || c == '1') digits
  | text => isDecimal (Text.unsigned text)

/-- A number with a fraction, if one is given. -/
def isMantissa (fractionNeeded : Bool) (text : Text) : Bool :=
  match Text.pieces '.' text with
  | [whole] => !fractionNeeded && isDecimal whole
  | [whole, fraction] => isDecimal whole && isGrouped Char.isDigit fraction
  | _ => false

/-- A number with a fraction, an exponent or both, an infinity or a number that is none. -/
def isFloat (text : Text) : Bool :=
  let magnitude := Text.unsigned text
  let lowered := magnitude.map fun c ↦ if c = 'E' then 'e' else c
  magnitude == "inf".toList || magnitude == "nan".toList ||
    match Text.pieces 'e' lowered with
    | [mantissa] => isMantissa true mantissa
    | [mantissa, exponent] =>
      isMantissa false mantissa && isGrouped Char.isDigit (Text.unsigned exponent)
    | _ => false

/-! ### Dates and times -/

/-- The number that exactly so many digits write, if it lies between two bounds. -/
def field? (digits least most : Nat) (text : Text) : Option Nat :=
  if text.length = digits ∧ text.all Char.isDigit then
    let value := text.foldl (fun value c ↦ 10 * value + (c.toNat - '0'.toNat)) 0
    if least ≤ value ∧ value ≤ most then some value else none
  else none

/-- The number of days of a month. -/
def daysIn (year month : Nat) : Nat :=
  if month = 2 then
    if year % 4 = 0 ∧ (year % 100 ≠ 0 ∨ year % 400 = 0) then 29 else 28
  else if month = 4 ∨ month = 6 ∨ month = 9 ∨ month = 11 then 30
  else 31

/-- A day of the calendar. -/
def isDate (text : Text) : Bool :=
  match Text.pieces '-' text with
  | [year, month, day] =>
    match field? 4 0 9999 year, field? 2 1 12 month with
    | some year, some month => (field? 2 1 (daysIn year month) day).isSome
    | _, _ => false
  | _ => false

/-- A time of day, with or without seconds and a fraction of them. -/
def isTime (text : Text) : Bool :=
  match Text.pieces ':' text with
  | [hour, minute] => (field? 2 0 23 hour).isSome && (field? 2 0 59 minute).isSome
  | [hour, minute, second] =>
    (field? 2 0 23 hour).isSome && (field? 2 0 59 minute).isSome &&
      match Text.pieces '.' second with
      | [whole] => (field? 2 0 60 whole).isSome
      | [whole, fraction] =>
        (field? 2 0 60 whole).isSome && !fraction.isEmpty && fraction.all Char.isDigit
      | _ => false
  | _ => false

/-- The distance of a zone from universal time. -/
def isOffset (text : Text) : Bool :=
  match Text.pieces ':' text with
  | [hour, minute] => (field? 2 0 23 hour).isSome && (field? 2 0 59 minute).isSome
  | _ => false

/-- A time of day, in a zone or in none. -/
def isZonedTime (text : Text) : Bool :=
  isTime text || (text.getLast?.any (fun c ↦ c == 'Z' || c == 'z') && isTime text.dropLast) ||
    match Text.pieces '+' text, Text.pieces '-' text with
    | [time, offset], _ => isTime time && isOffset offset
    | _, [time, offset] => isTime time && isOffset offset
    | _, _ => false

/-- A date, a time or both. -/
def isMoment (text : Text) : Bool :=
  isDate text || isTime text ||
    (isDate (text.take 10) && (text[10]?.any fun c ↦ c == 'T' || c == 't' || c == ' ')
      && isZonedTime (text.drop 11))

/-! ### All of them -/

/-- A number, a truth value, a date or a time. -/
def isScalar (text : Text) : Bool :=
  text == "true".toList || text == "false".toList || isInteger text || isFloat text || isMoment text

/-- A character of a scalar. -/
def isScalarChar (c : Char) : Bool :=
  c.isAlphanum || c == '+' || c == '-' || c == '_' || c == '.' || c == ':'

/-- The number of characters of the scalar that a text begins with. A blank belongs to it when it
parts a date from a time. -/
def scalarLength (text : Text) : Nat :=
  let word := text.takeWhile isScalarChar
  match text.drop word.length with
  | ' ' :: rest =>
    if isDate word && rest.head?.any Char.isDigit then
      word.length + 1 + (rest.takeWhile isScalarChar).length
    else word.length
  | _ => word.length

/-- A scalar as it is written. -/
def scalar? (text : Text) : Option (Text × Text) :=
  let written := text.take (scalarLength text)
  if isScalar written then some (written, text.drop (scalarLength text)) else none

end WorkloadNames.Toml
