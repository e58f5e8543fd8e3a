import DeviceFeed.Session

/-!
# Replay scripts

A replay script is a text with one item a line: a frame in hexadecimal, or a
change of tracking. Blank lines and lines that begin with `#` are passed over.
A line that is none of these is reported and has no effect. Reading ends at the
first line that is not text.
-/

namespace DeviceFeed

/-- What is wrong with a line of a script. -/
inductive Defect where
  | badDeviceId (word : String)
  | missingDeviceId
  | missingSwitch
  | oddDigits (count : Nat)
  | notAscii
  | badByte (digits : String)
  deriving DecidableEq, Repr

def Defect.message : Defect → String
  | badDeviceId word => "bad device id: " ++ word
  | missingDeviceId => "track needs a device id or 'off'"
  | missingSwitch => "track-only needs 'on' or 'off'"
  | oddDigits count => "odd number of hex digits (" ++ Text.decimal count ++ ")"
  | notAscii => "non-ASCII input"
  | badByte digits => "invalid hex byte '" ++ digits ++ "'"

/-- A line of a script that is not passed over. -/
inductive Entry where
  | frame (raw : Bytes)
  | track (id : Option Int64)
  | trackOnly (only : Bool)
  | invalid (defect : Defect)
  deriving DecidableEq, Repr

/-- The place where a script cannot be read as text. -/
structure ScriptFault where
  line : Nat
  fault : Utf8.Fault
  deriving DecidableEq, Repr

namespace Script

/-! ## Frames -/

/-- Whether a byte may stand anywhere between digits. -/
def isSpacing (b : UInt8) : Bool :=
  b == 0x20 || b == 0x09 || b == 0x0A || b == 0x0C || b == 0x0D

/-- The value of hexadecimal digits, at least one. -/
def hexDigits? (cs : List Char) : Option Nat :=
  if cs = [] then none
  else cs.foldl (fun n? c => n?.bind fun n => (Text.hexValue? c).map (16 * n + ·)) (some 0)

/-- The value of a number in hexadecimal, with an optional plus sign. -/
def hexNumber? : List Char → Option Nat
  | '+' :: more => hexDigits? more
  | cs => hexDigits? cs

/-- The byte that two bytes of a line spell. -/
def hexByte (pair : UInt8 × UInt8) : Except Defect UInt8 :=
  match Utf8.decode [pair.1, pair.2] with
  | .error _ => .error .notAscii
  | .ok digits =>
    match hexNumber? digits.toList with
    | some n => .ok (UInt8.ofNat n)
    | none => .error (.badByte digits)

def pairs : Bytes → List (UInt8 × UInt8)
  | high :: low :: more => (high, low) :: pairs more
  | _ => []

/-- The bytes that a line spells in hexadecimal. -/
def hexBytes (line : String) : Except Defect Bytes :=
  let digits := (Utf8.encode line).filter fun b => !isSpacing b
  if digits.length % 2 = 0 then
    (pairs digits).mapM hexByte
  else
    .error (.oddDigits digits.length)

/-! ## Lines -/

/-- What a line without surrounding blanks says. -/
def entry (line : String) : Entry :=
  match (Text.words line.toList).map String.ofList with
  | "track" :: "off" :: _ => .track none
  | "track" :: word :: _ =>
    match (Numeral.integer? word.toList).bind int64? with
    | some id => .track (some id)
    | none => .invalid (.badDeviceId word)
  | ["track"] => .invalid .missingDeviceId
  | "track-only" :: "on" :: _ => .trackOnly true
  | "track-only" :: "off" :: _ => .trackOnly false
  | "track-only" :: _ => .invalid .missingSwitch
  | _ =>
    match hexBytes line with
    | .ok raw => .frame raw
    | .error defect => .invalid defect

/-- What a line says, unless it is passed over. -/
def entry? (line : String) : Option Entry :=
  match Text.trim line.toList with
  | [] => none
  | '#' :: _ => none
  | cs => some (entry (String.ofList cs))

/-- A line without the carriage return in front of its end. -/
def dropReturn (line : Bytes) : Bytes :=
  if line.getLast? = some 0x0D then line.dropLast else line

/-- The lines, given what stands between line feeds. After the last line feed
there may be an unfinished line. -/
def linesOf : List Bytes → List Bytes
  | [] => []
  | [unfinished] => if unfinished = [] then [] else [unfinished]
  | line :: more => dropReturn line :: linesOf more

def lines (script : Bytes) : List Bytes :=
  linesOf (Text.pieces (· == 0x0A) script)

/-- The entries of lines with their numbers, and the place where reading
ends early, if it does. -/
def readFrom (number : Nat) : List Bytes → List (Nat × Entry) × Option ScriptFault
  | [] => ([], none)
  | line :: more =>
    match Utf8.decode line with
    | .error fault => ([], some ⟨number, fault⟩)
    | .ok text =>
      let (entries, fault) := readFrom (number + 1) more
      match entry? text with
      | none => (entries, fault)
      | some e => ((number, e) :: entries, fault)

/-- The entries of a script with the numbers of their lines, and the place where
reading ends early, if it does. -/
def read (script : Bytes) : List (Nat × Entry) × Option ScriptFault :=
  readFrom 1 (lines script)

end Script

/-- What an entry gives to a session, if anything. -/
def Entry.input? : Entry → Option Input
  | frame raw => some (.ingest raw)
  | track id => some (.retarget (.follow id))
  | trackOnly only => some (.retarget (.setOnly only))
  | invalid _ => none

/-- What the entries of a script give to a session. -/
def Script.inputs (script : Bytes) : List Input :=
  (Script.read script).1.filterMap fun item => item.2.input?

def Session.replay {P : Type} [Publisher P] (s : Session P) (script : Bytes) : Session P :=
  s.feed (Script.inputs script)

end DeviceFeed
