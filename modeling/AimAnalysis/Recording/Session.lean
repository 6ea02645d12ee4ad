import AimAnalysis.Diagnostics.Log
import AimAnalysis.Window.Tick

/-!
# Recordings

A recording collects the ticks of one player under a status, for use as training data. Its table has a
header and one row per tick: a first cell that is `1` for a cheater, and the fields of the tick with six
places. Nothing is written for a recording without ticks.

A table may be written to a place that runs full, or saved as a file into a directory. The file is named for
the status, the player and the time at which the recording started.
-/

namespace AimAnalysis

/-- What a status says about the player. -/
inductive RecordingLabel where
  /-- The player cheats. -/
  | cheat
  /-- The player plays fair. -/
  | legit
  /-- Nothing. -/
  | unlabeled
deriving DecidableEq, Repr

namespace RecordingLabel

/-- The label of a status, by how it starts. -/
def ofStatus (status : String) : RecordingLabel :=
  if "CHEAT".toList.isPrefixOf status.toList then .cheat
  else if "LEGIT".toList.isPrefixOf status.toList then .legit
  else .unlabeled

/-- The first cell of a row. -/
def isCheating : RecordingLabel → Nat
  | .cheat => 1
  | .legit | .unlabeled => 0

end RecordingLabel

/-- A date and a time of day. -/
structure Timestamp where
  /-- Year. -/
  year : Int
  /-- Month of the year. -/
  month : Nat
  /-- Day of the month. -/
  day : Nat
  /-- Hour of the day. -/
  hour : Nat
  /-- Minute of the hour. -/
  minute : Nat
  /-- Second of the minute. -/
  second : Nat
deriving DecidableEq, Repr

namespace Timestamp

/-- A number with at least `width` digits. -/
def padded (width n : Nat) : List Char :=
  let digits := (toString n).toList
  List.replicate (width - digits.length) '0' ++ digits

/-- A year with at least four digits, and with a sign if four digits without one do not do. -/
def yearText (year : Int) : List Char :=
  if 0 ≤ year ∧ year < 10000 then padded 4 year.toNat
  else (if year < 0 then '-' else '+') :: padded 4 year.natAbs

/-- The date and the time, each without separators. -/
def text (t : Timestamp) : List Char :=
  yearText t.year ++ padded 2 t.month ++ padded 2 t.day ++ ['-'] ++ padded 2 t.hour ++ padded 2 t.minute
    ++ padded 2 t.second

end Timestamp

/-- A recording. -/
structure Recording where
  /-- The name of the player. -/
  player : String
  /-- What is known about the player. -/
  status : String
  /-- When it started. -/
  started : Timestamp
  /-- The ticks, in order. -/
  ticks : List Tick := []
deriving DecidableEq, Repr

namespace Recording

/-- Movement is recorded while fewer reports than this came since the last attack on a player. -/
def combatReports : Nat := 40

/-- Adds a tick. -/
def record (r : Recording) (t : Tick) : Recording := { r with ticks := r.ticks ++ [t] }

/-- The label of the status. -/
def label (r : Recording) : RecordingLabel := .ofStatus r.status

/-! ## The table -/

/-- The first line. -/
def header : String :=
  "is_cheating,delta_yaw,delta_pitch,accel_yaw,accel_pitch,jerk_yaw,jerk_pitch,gcd_error_yaw,"
    ++ "gcd_error_pitch"

/-- The greatest number of millionths in a cell: 64 bits. -/
def greatestUnits : Nat := 18446744073709551615

/-- The magnitude `mantissa * 2 ^ exponent` in millionths, rounded to nearest with halves upwards, and at
most the greatest number. -/
def millionths (mantissa : Nat) (exponent : Int) : Nat :=
  let scaled := mantissa * 1000000
  let rounded :=
    if 0 ≤ exponent then scaled * Nat.pow 2 exponent.toNat
    else
      let unit := Nat.pow 2 (-exponent).toNat
      (2 * scaled + unit) / (2 * unit)
  min rounded greatestUnits

/-- A cell with six places; what is not finite is written as zero. -/
def cell (x : Binary32) : List Char :=
  match x.reading with
  | .finite negative mantissa exponent =>
    let units := millionths mantissa exponent
    (if negative ∧ mantissa ≠ 0 then ['-'] else [])
      ++ (toString (units / 1000000)).toList ++ ['.'] ++ Timestamp.padded 6 (units % 1000000)
  | _ => "0.000000".toList

/-- The row of a tick. -/
def row (isCheating : Nat) (t : Tick) : String :=
  String.ofList ((toString isCheating).toList ++ t.fields.flatMap fun x => ',' :: cell x)

/-- The lines of the table. -/
def lines (r : Recording) : List String :=
  if r.ticks.isEmpty then [] else header :: r.ticks.map (row r.label.isCheating)

/-- The table. -/
def csv (r : Recording) : String := r.lines.foldl (fun text line => text ++ line ++ "\n") ""

/-! ## Writing -/

/-- Why a table cannot be written. -/
inductive WriteFault where
  /-- There is no more room. -/
  | full
  /-- The directory lies below something that is no directory. -/
  | notDirectory
  /-- The name leads into a directory that does not exist. -/
  | missingDirectory
  /-- The name, or a part of it, is too long. -/
  | nameTooLong
  /-- The name holds a character that no name may hold. -/
  | invalidName
deriving DecidableEq, Repr

/-- The text of a fault. -/
def WriteFault.message : WriteFault → String
  | .full => "disk full"
  | .notDirectory => "Not a directory (os error 20)"
  | .missingDirectory => "No such file or directory (os error 2)"
  | .nameTooLong => "File name too long (os error 36)"
  | .invalidName => "file name contained an unexpected NUL byte"

/-- The table, written to a place with room for a number of bytes. -/
def writeWithin (r : Recording) (room : Nat) : Except WriteFault String :=
  if r.csv.utf8ByteSize ≤ room then .ok r.csv else .error .full

/-- A character of the status as it stands in a file name. -/
def nameChar (c : Char) : Char :=
  if c = ' ' then '#' else if "/\\?%*:|\"<>'".toList.contains c then '-' else c

/-- The part of a text before the first occurrence of a word; the whole text if there is none. -/
def beforeWord (word : List Char) : List Char → List Char
  | [] => []
  | c :: rest => if word.isPrefixOf (c :: rest) then [] else c :: beforeWord word rest

/-- The name of the file: status, player and start. -/
def fileName (r : Recording) : String :=
  let status := beforeWord "_GLOBAL_".toList (r.status.toList.map nameChar)
  String.ofList (status ++ ['_'] ++ r.player.toList ++ ['_'] ++ r.started.text ++ ".csv".toList)

/-- Where a file is to be saved. -/
inductive Directory where
  /-- A directory that can be created, and is empty. -/
  | creatable
  /-- A directory below something that is none. -/
  | blocked
deriving DecidableEq, Repr

/-- The greatest number of bytes in one part of a name. -/
def greatestNameLength : Nat := 255

/-- The greatest number of bytes in a whole name, slashes included: a path holds 4095 bytes, and the first of
them lead to the directory. -/
def greatestPathLength : Nat := 4050

/-- The part of a name before the first slash. -/
def firstPart (name : String) : String := String.ofList (name.toList.takeWhile (· ≠ '/'))

/-- Whether a name, or its first part, is too long. -/
def isTooLong (name : String) : Bool :=
  greatestPathLength < name.utf8ByteSize || greatestNameLength < (firstPart name).utf8ByteSize

/-- Saves the table into a directory: the name of the file and its text, or nothing if there are no
ticks. -/
def save (r : Recording) (directory : Directory) : Except WriteFault (Option (String × String)) :=
  if r.ticks.isEmpty then .ok none
  else
    match directory with
    | .blocked => .error .notDirectory
    | .creatable =>
      if r.fileName.toList.contains (Char.ofNat 0) then .error .invalidName
      else if isTooLong r.fileName then .error .nameTooLong
      else if r.fileName.toList.contains '/' then .error .missingDirectory
      else .ok (some (r.fileName, r.csv))

/-- What is logged when a table was saved. -/
def savedEntry (r : Recording) : LogEntry :=
  { level := .info, target := .recording, message := "saved recording"
    fields := [("ticks", .natural r.ticks.length)] }

end Recording

end AimAnalysis
