import WorkloadNames.Log.Demand
import WorkloadNames.Log.Event
import WorkloadNames.Text.Alphanumeric
import WorkloadNames.Text.Blank
import WorkloadNames.Text.Offset
import WorkloadNames.Text.Split

/-!
The directives of a log filter. A directive sets the threshold of the events whose target begins
with a given text, or of all events; it may ask for a named value. It is written as a level, as a
target, or as a target and a level with an equals sign between them. Between brackets after the
target it may name a span and a value, `target[span{value=text}]=level`; a directive that names a
span or the text of a value is about the inside of spans only, and so about none of the events here.
A text that is no directive is refused, but a cut inside a character breaks the reading off.
-/

set_option autoImplicit false
set_option relaxedAutoImplicit false

namespace WorkloadNames.Log

/-- The threshold of some events. -/
structure Directive where
  /-- What the target of the events begins with. -/
  target? : Option Text
  /-- The name of a value that the events have. -/
  field? : Option Text
  threshold : Threshold
  deriving DecidableEq, Repr

/-- Whether a text stands before another, or is it, in the order of code points. -/
def precedes : Text → Text → Bool
  | [], _ => true
  | _ :: _, [] => false
  | c :: rest, d :: others => c.toNat < d.toNat || (c == d && precedes rest others)

namespace Directive

/-- Whether a directive is about an event. -/
def concerns (directive : Directive) (record : Record) : Bool :=
  directive.target?.all (·.isPrefixOf record.target) &&
    directive.field?.all fun name ↦
      name = "message".toList || record.fields.any fun field ↦ field.1 = name

/-- Whether a directive is at least as narrow as another: by the length of its target, then by its
asking for a value, then by the order of the names of the values. -/
def isNarrower (directive other : Directive) : Bool :=
  let reach (d : Directive) : Nat := d.target?.elim 0 (·.length + 1)
  if reach directive ≠ reach other then reach other < reach directive
  else
    match directive.field?, other.field? with
    | _, none => true
    | none, some _ => false
    | some name, some otherName => precedes otherName name

end Directive

/-! ### Reading -/

/-- Why a text is not read. -/
inductive Unread where
  /-- The text is not one of those that can be read. -/
  | refused
  /-- Reading has broken off with a complaint, and nothing can be done after it. -/
  | aborted (complaint : Text)
  deriving DecidableEq, Repr

/-- Which part of a directive is being read, with the offset at which it began. -/
inductive Part where
  | start
  | levelOrTarget
  | span (start : Nat)
  | field (start : Nat)
  | fieldEnd
  | spanEnd
  | level (start : Nat)
  deriving DecidableEq, Repr

/-- A directive read so far. -/
structure Reading where
  part : Part
  target? : Option Text
  /-- Whether only the inside of spans is meant. -/
  spansOnly : Bool
  field? : Option Text
  deriving DecidableEq, Repr

namespace Reading

/-- A directive of which nothing has been read. -/
def fresh : Reading := ⟨.start, none, false, none⟩

/-- Whether a directive may begin with a character. -/
def mayBegin (c : Char) : Bool := c == '-' || c == ':' || c == '_' || Text.isAlphanumeric c

/-- A part that has been cut out of a piece, if the cut does not lie inside a character. -/
def cut : Option Text → Except Unread Text
  | some part => .ok part
  | none => .error (.aborted "a directive was cut inside a character\n".toList)

/-- One more character, at the given offset. Parts are cut out of the whole piece. -/
def step (piece : Text) (reading : Reading) (entry : Nat × Char) : Except Unread Reading :=
  let (offset, c) := entry
  match reading.part with
  | .start =>
    if c = '[' then .ok { reading with part := .span (offset + 1) }
    else if mayBegin c then .ok { reading with part := .levelOrTarget }
    else .error .refused
  | .levelOrTarget =>
    if c = '=' then do
      return { reading with
        part := .level (offset + 1), target? := some (← cut (Text.before? piece offset)) }
    else if c = '[' then do
      return { reading with
        part := .span (offset + 1), target? := some (← cut (Text.before? piece offset)) }
    else .ok reading
  | .span start =>
    if c = ']' then do
      let _ ← cut (Text.between? piece start offset)
      return { reading with part := .spanEnd, spansOnly := true }
    else if c = '{' then do
      let name ← cut (Text.between? piece start offset)
      return { reading with part := .field (offset + 1), spansOnly := !name.isEmpty }
    else .ok reading
  | .field start =>
    if c = '}' then do
      let content ← cut (Text.between? piece start offset)
      match Text.pieces '=' content with
      | [[]] => .error .refused
      | [name] => return { reading with part := .fieldEnd, field? := some name }
      | _ :: demand :: _ =>
        if isDemand demand then return { reading with part := .fieldEnd, spansOnly := true }
        else .error .refused
      | [] => .error .refused
    else .ok reading
  | .fieldEnd => if c = ']' then .ok { reading with part := .spanEnd } else .error .refused
  | .spanEnd =>
    if c = '=' then .ok { reading with part := .level (offset + 1) } else .error .refused
  | .level _ => .ok reading

/-- The threshold that a text writes. -/
def threshold (content : Text) : Except Unread Threshold :=
  match Threshold.ofText? content with
  | some threshold => .ok threshold
  | none => .error .refused

/-- The directive that has been read when its piece is over. -/
def finish (piece : Text) (reading : Reading) : Except Unread (Directive × Bool) :=
  match reading.part with
  | .levelOrTarget =>
    match Threshold.ofText? piece with
    | some threshold => .ok (⟨none, none, threshold⟩, false)
    | none => .ok (⟨some piece, none, some .trace⟩, false)
  | .level start => do
    let content ← cut (Text.after? piece start)
    let threshold ← if content.isEmpty then .ok (some .trace) else threshold content
    return (⟨reading.target?, reading.field?, threshold⟩, reading.spansOnly)
  | .spanEnd => .ok (⟨reading.target?, reading.field?, some .trace⟩, reading.spansOnly)
  | .start | .span _ | .field _ | .fieldEnd => .error .refused

/-- The directive in a piece of a filter, and whether it is about the inside of spans only. The
blanks around the piece are passed over, but offsets are counted from behind them and looked up in
front of them. -/
def ofPiece (piece : Text) : Except Unread (Directive × Bool) := do
  let reading ← (Text.offsets (Text.stripBlanks piece)).foldlM (step piece) fresh
  reading.finish piece

end Reading

end WorkloadNames.Log
