import WorkloadNames.Text.CharWidth
import WorkloadNames.Text.Emoji

/-!
How many columns a line of text fills on a terminal. Mostly these are the columns of its characters
taken together, but some sequences are drawn as one: a line break of two characters, an emoji behind
which stands what gives it colour or a skin tone, emoji joined into one picture, and the ligatures
of some scripts. A line is therefore measured from its end, each character in view of what stands
behind it.
-/

set_option autoImplicit false
set_option relaxedAutoImplicit false

namespace WorkloadNames.Text

/-! ### The characters that take part in sequences -/

/-- The zero-width joiner. -/
def joiner : Char := '\u200d'

/-- The sign that asks for an emoji in colour. -/
def colourSign : Char := '\ufe0f'

/-- The sign that asks for an emoji as plain text. -/
def plainSign : Char := '\ufe0e'

/-- The sign that asks for a quotation mark of two columns. -/
def broadSign : Char := '\ufe01'

/-- The quotation marks that can be of two columns. -/
def isQuotationMark (c : Char) : Bool := inRanges [(0x2018, 0x2019), (0x201c, 0x201d)] c

/-- The code points of the extending characters that part the letters around them. -/
def partingRanges : List (Nat × Nat) :=
  [(0x9be, 0x9be), (0x9d7, 0x9d7), (0xb3e, 0xb3e), (0xb57, 0xb57), (0xbbe, 0xbbe), (0xbd7, 0xbd7),
    (0xcc0, 0xcc0), (0xcc2, 0xcc2), (0xcc7, 0xcc8), (0xcca, 0xccb), (0xcd5, 0xcd6), (0xd3e, 0xd3e),
    (0xd57, 0xd57), (0xdcf, 0xdcf), (0xddf, 0xddf), (0x1715, 0x1715), (0x1734, 0x1734),
    (0x1b35, 0x1b35), (0x1b3b, 0x1b3b), (0x1b3d, 0x1b3d), (0x1b43, 0x1b44), (0x1baa, 0x1baa),
    (0x1bf2, 0x1bf3), (0x200c, 0x200c), (0x2d7f, 0x2d7f), (0x302e, 0x302f), (0xa953, 0xa953),
    (0xa9c0, 0xa9c0), (0xff9e, 0xff9f), (0x111c0, 0x111c0), (0x11235, 0x11235), (0x1133e, 0x1133e),
    (0x1134d, 0x1134d), (0x11357, 0x11357), (0x113b8, 0x113b8), (0x113c2, 0x113c2),
    (0x113c5, 0x113c5), (0x113c7, 0x113c9), (0x113cf, 0x113cf), (0x114b0, 0x114b0),
    (0x114bd, 0x114bd), (0x115af, 0x115af), (0x116b6, 0x116b6), (0x11930, 0x11930),
    (0x1193d, 0x1193d), (0x11f41, 0x11f41), (0x16ff0, 0x16ff1), (0x1d165, 0x1d166),
    (0x1d16d, 0x1d172)]

/-- The code points of the characters that are not extending and let letters join across them. -/
def crossedRanges : List (Nat × Nat) :=
  [(0xad, 0xad), (0x61c, 0x61c), (0x70f, 0x70f), (0x200b, 0x200b), (0x200e, 0x200f),
    (0x202a, 0x202e), (0x2060, 0x2064), (0x206a, 0x206f), (0xfeff, 0xfeff), (0x1bca0, 0x1bca3),
    (0x1d173, 0x1d17a), (0xe0001, 0xe0001)]

/-- A character across which Arabic letters join. -/
def isCrossed (c : Char) : Bool :=
  (isExtending c && !inRanges partingRanges c) || inRanges crossedRanges c

/-- A character that parts no ligature, Arabic ones aside. -/
def isPassedOver (c : Char) : Bool :=
  inRanges
    [(0x34f, 0x34f), (0x17b4, 0x17b5), (0x180b, 0x180d), (0x180f, 0x180f), (0x200d, 0x200d),
      (0xfe00, 0xfe0f), (0xe0100, 0xe01ef)] c

/-- The Arabic letters of the form of lam. -/
def isLam (c : Char) : Bool :=
  inRanges [(0x644, 0x644), (0x6b5, 0x6b8), (0x76a, 0x76a), (0x8a6, 0x8a6), (0x8c7, 0x8c7)] c

/-- The Arabic letters of the form of alef. -/
def isAlef (c : Char) : Bool :=
  inRanges
    [(0x622, 0x623), (0x625, 0x625), (0x627, 0x627), (0x671, 0x673), (0x675, 0x675),
      (0x773, 0x774), (0x870, 0x882)] c

/-- The Khmer letters that are written below the one before them. -/
def isSubscriptLetter (c : Char) : Bool :=
  inRanges
    [(0x1780, 0x1782), (0x1784, 0x1787), (0x1789, 0x178c), (0x178e, 0x1793), (0x1795, 0x1798),
      (0x179b, 0x179d), (0x17a0, 0x17a0), (0x17a2, 0x17a2), (0x17a7, 0x17a7), (0x17ab, 0x17ac),
      (0x17af, 0x17af)] c

/-- The consonants of Tifinagh. -/
def isTifinagh (c : Char) : Bool := inRanges [(0x2d31, 0x2d65), (0x2d6f, 0x2d6f)] c

/-- A letter that spells the name of a region within a flag. -/
def isTagLetter (c : Char) : Bool := inRanges [(0xe0061, 0xe007a)] c

/-- A digit that spells the name of a region within a flag. -/
def isTagDigit (c : Char) : Bool := inRanges [(0xe0030, 0xe0039)] c

/-! ### What stands behind a character -/

/-- The last letter of a ligature. -/
inductive LastLetter where
  | lamed
  | ya
  /-- A Buginese ya behind the vowel i. -/
  | yaBehindVowel
  | tifinagh
  /-- A consonant of Tifinagh behind the consonant joiner. -/
  | tifinaghBehindJoiner
  | lisuTone
  | orkhonI
  | subscript
  | kiratE
  | kiratAi
  deriving DecidableEq, Repr

/-- What stands behind a character, as far as it matters. -/
inductive Behind where
  | nothing
  | lineEnd
  | skinTone
  | flagLetter
  | flagLetters
  /-- An emoji in colour. -/
  | emoji
  /-- A joiner and an emoji in colour. -/
  | joined
  /-- The frame of a keycap in front of a joiner. -/
  | joinedFrame
  /-- One letter of a flag in front of a joiner. -/
  | joinedLetter
  /-- An even number of such letters. -/
  | joinedEven
  /-- An odd number of such letters, more than one. -/
  | joinedOdd
  /-- The last part of a spelled flag in front of a joiner: so many letters, and then the end. -/
  | tagLetters (count : Nat)
  /-- So many digits, and then the letters. -/
  | tagDigits (count : Nat)
  | alef
  /-- The last letter of a ligature, with or without a joiner before it. -/
  | letter (last : LastLetter) (hasJoiner : Bool)
  deriving DecidableEq, Repr

/-- A style that is asked for behind a character. -/
inductive Wish where
  | none
  | colour
  | plain
  | broad
  deriving DecidableEq, Repr

/-- All that is kept of the text behind a character. -/
structure View where
  behind : Behind
  wish : Wish
  deriving DecidableEq, Repr

namespace Behind

/-- Whether a ligature of some script may be completed. -/
def isScript : Behind → Bool
  | .alef | .letter _ _ => true
  | _ => false

/-- Whether an emoji would be drawn together with what stands behind it. -/
def isJoined (behind : Behind) : Bool := behind = .joined || behind = .joinedFrame

/-- What is seen from in front of the sign for a style. -/
def wishing (behind : Behind) (wish : Wish) : View :=
  if behind.isScript || (wish = .colour && behind.isJoined) then ⟨behind, wish⟩
  else ⟨.nothing, wish⟩

/-- What is seen by a character that the style asked for does not concern. -/
def unconcerned (behind : Behind) : Behind := if behind.isScript then behind else .nothing

/-- What a character becomes together with the last letter of a ligature: the columns that it adds,
and what is seen from in front of it. -/
def ligature? (last : LastLetter) (hasJoiner : Bool) (c : Char) : Option (Int × Behind) :=
  if c = joiner then some (0, .letter last true)
  else if isPassedOver c then some (0, .letter last hasJoiner)
  else
    match last with
    | .lamed => if hasJoiner ∧ c = '\u05d0' then some (0, .nothing) else none
    | .ya => if hasJoiner ∧ c = '\u1a17' then some (0, .letter .yaBehindVowel true) else none
    | .yaBehindVowel => if c = '\u1a15' then some (0, .nothing) else none
    | .tifinagh =>
      if c = '\u2d7f' then some (1, .letter .tifinaghBehindJoiner true)
      else if hasJoiner ∧ isTifinagh c then some (0, .nothing)
      else none
    | .tifinaghBehindJoiner => if isTifinagh c then some (-1, .nothing) else none
    | .lisuTone => if inRanges [(0xa4f8, 0xa4fb)] c then some (0, .nothing) else none
    | .orkhonI => if hasJoiner ∧ c.toNat = 0x10c32 then some (0, .nothing) else none
    | .subscript => if c = '\u17d2' then some (-1, .nothing) else none
    | .kiratE =>
      if c.toNat = 0x16d63 ∨ c.toNat = 0x16d69 then some (0, .nothing)
      else if c.toNat = 0x16d67 then some (0, .letter .kiratAi true)
      else if c.toNat = 0x16d68 then some (1, .letter .kiratE true)
      else none
    | .kiratAi => if c.toNat = 0x16d63 then some (0, .nothing) else none

/-- What a character becomes together with what stands behind it, if the two belong together: the
columns that it adds, and what is seen from in front of it. -/
def together? (behind : Behind) (c : Char) : Option (Int × Behind) :=
  match behind with
  | .nothing | .lineEnd => none
  | .alef =>
    if isLam c then some (0, .nothing) else if isCrossed c then some (0, .alef) else none
  | .letter last hasJoiner => ligature? last hasJoiner c
  | .skinTone =>
    if takesSkinTone c then some (0, .emoji)
    else if c = joiner then some (0, .joined)
    else none
  | .flagLetter => if isFlagLetter c then some (1, .flagLetters) else none
  | .flagLetters =>
    if isFlagLetter c then some (1, .flagLetters)
    else if c = joiner then some (0, .joined)
    else none
  | .emoji => if c = joiner then some (0, .joined) else none
  | .joined =>
    if c = '\u20e3' then some (0, .joinedFrame)
    else if isFlagLetter c then some (1, .joinedLetter)
    else if isSkinTone c then some (0, .skinTone)
    else if c.toNat = 0xe007f then some (0, .tagLetters 0)
    else if startsEmoji c then some (0, .emoji)
    else none
  | .joinedFrame => none
  | .joinedLetter => if isFlagLetter c then some (-1, .joinedEven) else none
  | .joinedOdd =>
    if isFlagLetter c then some (-1, .joinedEven)
    else if c = joiner then some (0, .joined)
    else none
  | .joinedEven =>
    if isFlagLetter c then some (3, .joinedOdd)
    else if c = joiner then some (0, .joined)
    else none
  | .tagLetters count =>
    if isTagLetter c ∧ count < 6 then some (0, .tagLetters (count + 1))
    else if isTagDigit c ∧ count < 5 then some (0, .tagDigits 1)
    else if c.toNat = 0x1f3f4 ∧ 3 ≤ count then some (0, .emoji)
    else none
  | .tagDigits count =>
    if isTagDigit c ∧ count < 3 then some (0, .tagDigits (count + 1))
    else if c.toNat = 0x1f3f4 ∧ count = 3 then some (0, .emoji)
    else none

/-- What is seen from in front of a character that belongs to nothing behind it. -/
def ofChar (c : Char) : Behind :=
  if c = '\n' then .lineEnd
  else if c = '\u05dc' then .letter .lamed false
  else if isAlef c then .alef
  else if isSubscriptLetter c then .letter .subscript true
  else if c = '\u1a10' then .letter .ya false
  else if isTifinagh c then .letter .tifinagh false
  else if c = '\ua4fc' ∨ c = '\ua4fd' then .letter .lisuTone true
  else if c.toNat = 0x10c03 then .letter .orkhonI false
  else if c.toNat = 0x16d67 then .letter .kiratE true
  else if c.toNat = 0x16d68 then .letter .kiratAi true
  else if isFlagLetter c then .flagLetter
  else if isSkinTone c then .skinTone
  else if startsEmoji c then .emoji
  else .nothing

end Behind

/-! ### Measuring -/

/-- The style that a character asks for. -/
def wishOf (c : Char) : Wish :=
  if c = colourSign then .colour
  else if c = plainSign then .plain
  else if c = broadSign then .broad
  else .none

/-- The columns that a character adds in view of what stands behind it, the style asked for aside,
and what is seen from in front of it. -/
def measuredPlainly (c : Char) (behind : Behind) : Int × View :=
  if wishOf c ≠ .none then (0, behind.wishing (wishOf c))
  else if c = '\r' ∧ behind = .lineEnd then (0, ⟨.nothing, .none⟩)
  else
    match behind.together? c with
    | some (columns, view) => (columns, ⟨view, .none⟩)
    | none => (charWidth c, ⟨Behind.ofChar c, .none⟩)

/-- The columns that a character adds in view of what stands behind it, and what is seen from in
front of it. -/
def measured (c : Char) (view : View) : Int × View :=
  match view.wish with
  | .none => measuredPlainly c view.behind
  | .colour =>
    if canBeColoured c then (if view.behind.isJoined then 0 else 2, ⟨.emoji, .none⟩)
    else measuredPlainly c view.behind.unconcerned
  | .plain =>
    if canBePlain c then (1, ⟨.nothing, .none⟩) else measuredPlainly c view.behind.unconcerned
  | .broad =>
    if isQuotationMark c then (2, ⟨.nothing, .none⟩)
    else measuredPlainly c view.behind.unconcerned

/-- The columns of a line, and what is seen from in front of it. -/
def widthAndView (line : Text) : Int × View :=
  line.foldr
    (fun c (columns, view) ↦
      let (added, view) := measured c view
      (columns + added, view))
    (0, ⟨.nothing, .none⟩)

/-- The columns that a line of text fills. -/
def displayWidth (line : Text) : Nat := (widthAndView line).1.toNat

end WorkloadNames.Text
