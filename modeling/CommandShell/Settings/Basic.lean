import CommandShell.Number.Decimal
import CommandShell.Path
import CommandShell.Text.UpperCase

/-!
# Settings

What a user can set, and how a given value becomes a setting. A value comes as a text, from the environment or
a file, or as a value of its own kind; each kind of setting says which values it takes.
-/

namespace CommandShell

/-- The settings of a shell. -/
structure Settings where
  historyFile : Path
  maxHistorySize : Int
  promptName : String
  showTimestamp : Bool
  terminateOnInterrupt : Bool
  killGraceSeconds : Binary64
  logLevel : String
deriving DecidableEq, Repr

namespace Settings

/-- The settings by name, in their order. -/
inductive Field where
  | historyFile
  | maxHistorySize
  | promptName
  | showTimestamp
  | terminateOnInterrupt
  | killGraceSeconds
  | logLevel
deriving DecidableEq, Repr

/-- Every setting, in order. -/
def Field.all : List Field :=
  [.historyFile, .maxHistorySize, .promptName, .showTimestamp, .terminateOnInterrupt, .killGraceSeconds, .logLevel]

/-- The name of a setting. -/
def Field.name : Field → String
  | .historyFile => "history_file"
  | .maxHistorySize => "max_history_size"
  | .promptName => "prompt_name"
  | .showTimestamp => "show_timestamp"
  | .terminateOnInterrupt => "terminate_on_interrupt"
  | .killGraceSeconds => "kill_grace_seconds"
  | .logLevel => "log_level"

/-- A value given for a setting. -/
inductive Value where
  | absent
  | flag (b : Bool)
  | integer (n : Int)
  | fraction (x : Binary64)
  | text (s : String)
  /-- A list or a record, which no setting takes. -/
  | composite
deriving DecidableEq, Repr

/-- Why a value does not suit a setting. -/
inductive ValueFault where
  | notAnInteger
  | integerTooLong
  | integerKind
  | integerFromFraction
  | notFinite
  | tooSmall
  | notAFlag
  | flagKind
  | notAFraction
  | fractionKind
  | textKind
  | pathKind
deriving DecidableEq, Repr

/-- The word for a fault. -/
def ValueFault.word : ValueFault → String
  | .notAnInteger => "int_parsing"
  | .integerTooLong => "int_parsing_size"
  | .integerKind => "int_type"
  | .integerFromFraction => "int_from_float"
  | .notFinite => "finite_number"
  | .tooSmall => "greater_than_equal"
  | .notAFlag => "bool_parsing"
  | .flagKind => "bool_type"
  | .notAFraction => "float_parsing"
  | .fractionKind => "float_type"
  | .textKind => "string_type"
  | .pathKind => "path_type"

/-- Characters that may stand around a written number. -/
def isPadding (c : Char) : Bool := Text.isBlank c && !(0x1C ≤ c.toNat && c.toNat ≤ 0x1F)

/-- A text without its underscores, if there are some, none of them at an end or next to another. -/
def withoutUnderscores? (cs : List Char) : Option (List Char) :=
  if cs.head? = some '_' || cs.getLast? = some '_' || !cs.contains '_' || Text.occursIn ['_', '_'] cs then none
  else some (cs.filter (· ≠ '_'))

/-- A point with nothing but zeros after it adds nothing to an integer. -/
def withoutZeroPlaces (cs : List Char) : List Char :=
  let whole := cs.takeWhile (· ≠ '.')
  if (cs.drop (whole.length + 1)).all (· = '0') then whole else cs

/-- Drops zeros in front, and underscores between them; the last zero stays if no other digit follows. -/
def withoutLeadingZeros : List Char → List Char
  | '0' :: rest =>
    match rest.dropWhile (fun c => c = '0' || c = '_') with
    | [] => [(rest.getLast?).getD '0']
    | c :: after => if '1' ≤ c && c ≤ '9' then c :: after else '0' :: c :: after
  | cs => cs

/-- The integer that a text gives as a setting. -/
def readInteger (s : String) : Except ValueFault Int :=
  let trimmed := Text.trimBy isPadding s.toList
  let unsigned := match trimmed with
    | '+' :: rest => rest
    | cs => cs
  let plain := withoutLeadingZeros (withoutZeroPlaces unsigned)
  let digits := (withoutUnderscores? plain).getD plain
  let (negative, rest) := if trimmed.head? = some '+' then (false, digits) else Number.splitSign digits
  if digits.length > Number.digitLimit then .error .integerTooLong
  else
    match Number.takeDigits rest with
    | (ds@(_ :: _), []) => .ok (if negative then -(Number.ofDigits ds) else Number.ofDigits ds)
    | _ => .error .notAnInteger

/-- The number that a text gives as a setting. -/
def readFraction (s : String) : Except ValueFault Binary64 :=
  match Number.readDecimal? (Text.trimBy isPadding s.toList) with
  | some x => .ok x
  | none =>
    match (withoutUnderscores? s.toList).bind Number.readDecimal? with
    | some x => .ok x
    | none => .error .notAFraction

/-- The flag that a text gives as a setting. -/
def readFlag (s : String) : Except ValueFault Bool :=
  let word := String.ofList (s.toList.map Char.toLower)
  if ["1", "t", "true", "y", "yes", "on"].contains word then .ok true
  else if ["0", "f", "false", "n", "no", "off"].contains word then .ok false
  else .error .notAFlag

/-- The whole number that a fraction is. -/
def wholeNumber? (x : Binary64) : Option Int := x.toRat?.bind fun q => if q.den = 1 then some q.num else none

/-- The value of an integer setting. -/
def asInteger : Value → Except ValueFault Int
  | .flag b => .ok (if b then 1 else 0)
  | .integer n => .ok n
  | .fraction x =>
    match x.toRat? with
    | none => .error .notFinite
    | some q =>
      if q.den ≠ 1 then .error .integerFromFraction
      else if q.num.natAbs < Nat.pow 2 63 then .ok q.num else .error .integerTooLong
  | .text s => readInteger s
  | .absent | .composite => .error .integerKind

/-- The value of a flag. -/
def asFlag : Value → Except ValueFault Bool
  | .flag b => .ok b
  | .integer n => ofInteger n
  | .fraction x =>
    match wholeNumber? x with
    | some n => ofInteger n
    | none => .error .flagKind
  | .text s => readFlag s
  | .absent | .composite => .error .flagKind
where
  ofInteger (n : Int) : Except ValueFault Bool :=
    if n = 0 then .ok false else if n = 1 then .ok true else .error .notAFlag

/-- The value of a setting that is a number. -/
def asFraction : Value → Except ValueFault Binary64
  | .flag b => .ok (.ofRat (if b then 1 else 0))
  | .integer n =>
    match Binary64.ofInt? n with
    | some x => .ok x
    | none => .error .fractionKind
  | .fraction x => .ok x
  | .text s => readFraction s
  | .absent | .composite => .error .fractionKind

/-- The value of a text setting. -/
def asText : Value → Except ValueFault String
  | .text s => .ok s
  | _ => .error .textKind

/-- The value of a path setting. -/
def asPath : Value → Except ValueFault Path
  | .text s => .ok (.ofText s)
  | _ => .error .pathKind

/-- Gives one setting a value. -/
def assign (settings : Settings) (field : Field) (value : Value) : Except ValueFault Settings :=
  match field with
  | .historyFile => return { settings with historyFile := ← asPath value }
  | .maxHistorySize => do
    let n ← asInteger value
    if n < 1 then .error .tooSmall else return { settings with maxHistorySize := n }
  | .promptName => return { settings with promptName := ← asText value }
  | .showTimestamp => return { settings with showTimestamp := ← asFlag value }
  | .terminateOnInterrupt => return { settings with terminateOnInterrupt := ← asFlag value }
  | .killGraceSeconds => do
    let x ← asFraction value
    if x.isNegative then .error .tooSmall else return { settings with killGraceSeconds := x }
  | .logLevel => return { settings with logLevel := ← asText value }

/-- The settings of a shell that nobody has configured. -/
def default (historyFile : Path) : Settings where
  historyFile
  maxHistorySize := 1000
  promptName := "myshell"
  showTimestamp := true
  terminateOnInterrupt := true
  killGraceSeconds := .finite false 2
  logLevel := "WARNING"

end Settings

end CommandShell
