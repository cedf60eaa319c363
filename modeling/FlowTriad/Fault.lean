/-
`Fault.lean` -- everything that ends a run.

All faults are final: the inputs are files at rest, and reading them again would not
change them. A fault says what is wrong and where; its wording is in one function,
`Fault.describe`. Three details come from other software's rules rather than from
the capture formats, namely why a text is not JSON, why a text is not a
configuration, and why a chart could not be drawn. They are named in a fault, and
the wording of each is a parameter.

A variable that one source lacks is not a fault; see `Variable/Resolution.lean`.
-/
import FlowTriad.Decimal.Layout
import FlowTriad.Source

set_option autoImplicit false

namespace FlowTriad

/-! ## 1. Where -/

/-- A place in an input. -/
inductive Place where
  /-- A line, counted from 1. -/
  | line (number : Nat)
  /-- A report as a whole. -/
  | document
  /-- An interval of a report, counted from 0. -/
  | interval (index : Nat)
  /-- The start time of a report. -/
  | startTime
  deriving DecidableEq, Repr

/-- The place in words. -/
def Place.message : Place → String
  | .line n => "line " ++ toString n
  | .document => "document"
  | .interval i => "intervals[" ++ toString i ++ "]"
  | .startTime => "start.timestamp.time"

/-! ## 2. What -/

/-- What is wrong with a record or a report. -/
inductive Defect where
  /-- The text is not a JSON document. -/
  | notJson
  /-- A member is absent or null. -/
  | missing (path : String)
  /-- Something, named as it reads in the message, is no JSON object. -/
  | notObject (what : String)
  /-- A member is no string. -/
  | notString (path : String)
  /-- A member is no array. -/
  | notArray (path : String)
  /-- A member is no number. -/
  | notNumber (path : String)
  /-- An interval's duration is negative or not finite. -/
  | badDuration (seconds : Float)
  deriving DecidableEq

/-- The reasons for which a timestamp is refused. -/
inductive StampFault where
  /-- The text does not have the shape of a date and a time. -/
  | notDateTime
  /-- It has no fraction of a second. -/
  | noFraction
  /-- It does not say how far its clock is from universal time. -/
  | noOffset
  /-- A field has a value that it cannot have, or the date does not exist. -/
  | outOfRange
  /-- The text ends where more is expected. -/
  | tooShort
  /-- A character stands where another is expected. -/
  | mismatch
  /-- The weekday is not that of the date. -/
  | impossible
  /-- The text goes on after its end. -/
  | tooLong
  deriving DecidableEq, Repr

/-- The reason in words. -/
def StampFault.message : StampFault → String
  | .notDateTime => "not an ISO 8601 date-time"
  | .noFraction => "no fractional-seconds component"
  | .noOffset => "no UTC offset"
  | .outOfRange => "input is out of range"
  | .tooShort => "premature end of input"
  | .mismatch => "input contains invalid characters"
  | .impossible => "no possible date and time matching input"
  | .tooLong => "trailing input"

/-- What is wrong with a configuration. -/
inductive SettingsDefect where
  /-- The text is not a configuration document. -/
  | unreadable
  /-- A key setting is empty. -/
  | emptyKey (setting : String)
  /-- No variable is configured. -/
  | noVariables
  /-- A variable has no name. -/
  | emptyName
  /-- Two variables have one name. -/
  | repeated (name : String)
  /-- A divisor is not a positive number. -/
  | badScale (name : String) (scale : Float)
  /-- Lines were asked of a source that does not report in lines. -/
  | notLineDelimited (source : Source)
  /-- A series stands in the place of another. -/
  | misplaced (expected actual : Source)
  deriving DecidableEq

/-- What the operating system answers when an access to a file fails. -/
inductive FileFault where
  | notFound
  | exists
  | notDirectory
  | isDirectory
  /-- A path, or a name in it, has too many bytes. -/
  | tooLong
  /-- The path has a character that ends every path. -/
  | unexpectedEnd
  /-- The content is not text. -/
  | notText
  deriving DecidableEq, Repr

/-- The answer in words. -/
def FileFault.message : FileFault → String
  | .notFound => "No such file or directory (os error 2)"
  | .exists => "File exists (os error 17)"
  | .notDirectory => "Not a directory (os error 20)"
  | .isDirectory => "Is a directory (os error 21)"
  | .tooLong => "File name too long (os error 36)"
  | .unexpectedEnd => "file name contained an unexpected NUL byte"
  | .notText => "stream did not contain valid UTF-8"

/-- Why an output could not be written. -/
inductive OutputFault where
  /-- The file could not be written. -/
  | file (cause : FileFault)
  /-- The chart could not be drawn. -/
  | drawing
  /-- The numbers of the chart cannot be laid out along its axes. The run breaks off. -/
  | noScale
  deriving DecidableEq, Repr

/-! ## 3. Faults -/

/-- A reason to stop. -/
inductive Fault where
  /-- A record or a report is not what its format demands. -/
  | input (origin : String) (place : Place) (defect : Defect)
  /-- A timestamp does not denote an instant. -/
  | stamp (origin : String) (place : Place) (text : String) (cause : StampFault)
  /-- A source has no samples, so there is no epoch. -/
  | emptySeries (source : Source)
  /-- A file could not be read. -/
  | unreadable (path : String) (cause : FileFault)
  /-- The configuration does not hold together. -/
  | settings (defect : SettingsDefect)
  /-- An output could not be written. -/
  | output (path : String) (cause : OutputFault)
  /-- An instant lies outside the calendar. The run breaks off. -/
  | beyondCalendar
  deriving DecidableEq

/-- Whether a run breaks off with a fault: it does not get to report it. -/
def Fault.breaksOff : Fault → Bool
  | .beyondCalendar | .output _ .noScale => true
  | _ => false

/-- A detail of a fault that this library does not word. -/
inductive Detail where
  | json
  | settings
  | drawing
  deriving DecidableEq, Repr

/-- The words for a detail where nothing else is asked for. -/
def Detail.message : Detail → String
  | .json => "not a JSON document"
  | .settings => "not a configuration document"
  | .drawing => "the chart cannot be drawn"

/-- The defect in words, for a record that has what it needs but in a wrong form. -/
def Defect.describe (wording : Detail → String) : Defect → String
  | .notJson => wording .json
  | .missing path => "missing required field '" ++ path ++ "'"
  | .notObject what => what ++ " is not a JSON object"
  | .notString path => "'" ++ path ++ "' is not a string"
  | .notArray path => "'" ++ path ++ "' is not an array"
  | .notNumber path => "'" ++ path ++ "' is not a number"
  | .badDuration s => "invalid interval duration " ++ Decimal.plain s

/-- The defect of a configuration in words. -/
def SettingsDefect.describe (wording : Detail → String) : SettingsDefect → String
  | .unreadable => wording .settings
  | .emptyKey setting => setting ++ " must not be empty"
  | .noVariables => "at least one variable must be configured"
  | .emptyName => "variable names must not be empty"
  | .repeated v => "variable '" ++ v ++ "' is configured twice"
  | .badScale v s => "scale of '" ++ v ++ "' must be a positive number, got " ++ Decimal.plain s
  | .notLineDelimited s => s.name ++ " is not a line-delimited source"
  | .misplaced expected actual =>
      "expected the " ++ expected.name ++ " series, got " ++ actual.name

/-- The fault in words. -/
def Fault.describe (wording : Detail → String) : Fault → String
  | .input origin place (.missing path) =>
      origin ++ " (" ++ place.message ++ "): " ++ Defect.describe wording (.missing path)
  | .input origin place defect =>
      origin ++ " (" ++ place.message ++ "): malformed record: " ++ defect.describe wording
  | .stamp origin place text cause =>
      origin ++ " (" ++ place.message ++ "): cannot normalize timestamp '" ++ text ++ "': " ++
        cause.message
  | .emptySeries s => "cannot establish an epoch: the " ++ s.name ++ " series is empty"
  | .unreadable path cause => "failed to read " ++ path ++ ": " ++ cause.message
  | .settings defect => "invalid configuration: " ++ defect.describe wording
  | .output path (.file cause) => "failed to render " ++ path ++ ": " ++ cause.message
  | .output path .drawing => "failed to render " ++ path ++ ": " ++ wording .drawing
  | .output path .noScale => "the axes of " ++ path ++ " have no scale"
  | .beyondCalendar => "an instant lies outside the calendar"

/-- A result whose defect, if it has one, is located: in an input, at a place. -/
def located {α : Type} (origin : String) (place : Place) (r : Except Defect α) : Except Fault α :=
  r.mapError (.input origin place)

end FlowTriad
