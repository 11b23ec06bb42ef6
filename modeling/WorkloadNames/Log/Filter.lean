import WorkloadNames.Log.Directive

/-!
Log filters: directives between commas. The narrowest directive that concerns an event decides
whether it is told, the later of two equally narrow ones; an event that no directive concerns is not
told. A filter without directives tells errors only.
-/

set_option autoImplicit false
set_option relaxedAutoImplicit false

namespace WorkloadNames.Log

/-- The directives of a filter in the order in which they were given. -/
structure Filter where
  directives : List Directive
  deriving DecidableEq, Repr

namespace Filter

/-- The filter of a single threshold. -/
def ofThreshold (threshold : Threshold) : Filter := ⟨[⟨none, none, threshold⟩]⟩

/-- The filter that a text writes. -/
def ofText (text : Text) : Except Unread Filter := do
  let written := (Text.pieces ',' text).filter fun piece ↦ !piece.isEmpty
  let readings ← written.mapM Reading.ofPiece
  if readings.isEmpty then return ofThreshold (some .error)
  else return ⟨(readings.filter fun reading ↦ !reading.2).map Prod.fst⟩

/-- The directive that decides on an event. -/
def deciding? (filter : Filter) (record : Record) : Option Directive :=
  (filter.directives.filter (·.concerns record)).foldl
    (fun best? directive ↦
      match best? with
      | none => some directive
      | some best => if directive.isNarrower best then some directive else some best)
    none

/-- Whether an event is told. -/
def enables (filter : Filter) (record : Record) : Bool :=
  (filter.deciding? record).any fun directive ↦ directive.threshold.admits record.level

/-- The filter of the first of some texts that is not refused, or else that of warnings and errors.
Where the reader breaks off there is none, but the complaint of the reader. -/
def firstOf (read : Text → Except Unread Filter) : List Text → Except Text Filter
  | [] => .ok (ofThreshold (some .warn))
  | text :: rest =>
    match read text with
    | .ok filter => .ok filter
    | .error .refused => firstOf read rest
    | .error (.aborted complaint) => .error complaint

/-- The filter in force: that of the environment if it is set and can be read, else that of the
settings if it can be read, else warnings and errors. -/
def inForce (read : Text → Except Unread Filter) (environment? : Option Text) (logLevel : Text) :
    Except Text Filter :=
  firstOf read (environment?.toList ++ [logLevel])

end Filter

end WorkloadNames.Log
