import DeviceFeed.Message
import DeviceFeed.Number.Numeral

/-!
# Command lines

This file reads the arguments of the replay tool. An option has a long name
and may have a short one. Its value follows an equals sign, or is the next
argument unless that looks like an option. A short name may also be followed by
the value at once. No option may be given twice. Arguments that are no options
are refused.
-/

namespace DeviceFeed

/-- What the replay tool can be told. -/
structure Options where
  /-- The file with the script. Without it, the script is the standard input. -/
  input : Option String := none
  config : Option String := none
  trackDevice : Option Int64 := none
  trackOnly : Bool := false
  debug : Bool := false
  logLevel : String := "warn"
  capacity : Nat := 1024
  deriving DecidableEq, Repr

namespace Options

/-- The level that a text names, by a word or by its place. -/
def level? (text : String) : Option Level :=
  let levels : List Level := [.error, .warn, .info, .debug, .trace]
  match Numeral.natural? text.toList with
  | some place => levels.find? (·.rank == place)
  | none => levels.find? (·.name.toList == text.toList.map Char.toUpper)

/-- The level of the log. Debug records are worth a more talkative log, unless
another level is asked for. -/
def level (o : Options) : Level :=
  if o.debug ∧ o.logLevel = "warn" then .debug else (level? o.logLevel).getD .warn

/-- How the choice of tracking starts. -/
def tracking (o : Options) : Tracking :=
  ⟨o.trackDevice, o.trackOnly⟩

end Options

/-- What the arguments of the replay tool ask for. -/
inductive Request where
  | replay (options : Options)
  | help
  | version
  deriving DecidableEq, Repr

namespace CommandLine

inductive OptionName where
  | input
  | config
  | trackDevice
  | trackOnly
  | debug
  | logLevel
  | channelCapacity
  | help
  | version
  deriving DecidableEq, Repr

namespace OptionName

def ofLong? (name : String) : Option OptionName :=
  [("input", input), ("config", config), ("track-device", trackDevice),
    ("track-only", trackOnly), ("debug", debug), ("log-level", logLevel),
    ("channel-capacity", channelCapacity), ("help", help), ("version", version)].lookup name

def ofShort? (name : Char) : Option OptionName :=
  [('i', input), ('c', config), ('l', logLevel), ('h', help), ('V', version)].lookup name

def takesValue : OptionName → Bool
  | input | config | trackDevice | logLevel | channelCapacity => true
  | _ => false

end OptionName

/-- The options that were read so far, and which of them were given. -/
structure Draft where
  options : Options := {}
  given : List OptionName := []

namespace Draft

/-- A name of a file, which must not be empty. -/
def fileName? (text : String) : Option String :=
  if text = "" then none else some text

/-- Sets an option to a value, unless the value does not fit. -/
def assign (o : Options) (name : OptionName) (value : String) : Option Options :=
  match name with
  | .input => (fileName? value).map fun file => { o with input := some file }
  | .config => (fileName? value).map fun file => { o with config := some file }
  | .trackDevice =>
    ((Numeral.integer? value.toList).bind int64?).map fun id => { o with trackDevice := some id }
  | .logLevel => some { o with logLevel := value }
  | .channelCapacity =>
    (Numeral.natural? value.toList).map fun count => { o with capacity := count }
  | _ => none

def withValue (d : Draft) (name : OptionName) (value : String) : Option Draft :=
  if name ∈ d.given then none
  else (assign d.options name value).map fun options => ⟨options, name :: d.given⟩

/-- Switches on what an option without a value stands for. -/
def switchOn (o : Options) : OptionName → Options
  | .trackOnly => { o with trackOnly := true }
  | .debug => { o with debug := true }
  | _ => o

def withSwitch (d : Draft) (name : OptionName) : Option Draft :=
  if name ∈ d.given then none
  else some ⟨switchOn d.options name, name :: d.given⟩

end Draft

/-- Whether an argument may be the value of the option before it. -/
def isValue (argument : String) : Bool :=
  match argument.toList with
  | ['-'] => true
  | '-' :: _ => false
  | _ => true

/-- The name of a long option, and the value after an equals sign. -/
def splitLong (cs : List Char) : String × Option String :=
  let (name, rest) := cs.span (· != '=')
  match rest with
  | [] => (String.ofList name, none)
  | _ :: value => (String.ofList name, some (String.ofList value))

/-- The option that an argument names, and the value that comes with it. -/
def option? : List Char → Option (OptionName × Option String)
  | '-' :: '-' :: cs =>
    let (name, value) := splitLong cs
    (OptionName.ofLong? name).map (·, value)
  | '-' :: c :: cs =>
    (OptionName.ofShort? c).map fun name =>
      if name.takesValue then
        match cs with
        | [] => (name, none)
        | '=' :: value => (name, some (String.ofList value))
        | value => (name, some (String.ofList value))
      else
        (name, none)
  | _ => none

/-- Reads the arguments that follow those of a draft. -/
def requestFrom (d : Draft) : List String → Option Request
  | [] => some (.replay d.options)
  | argument :: more =>
    if argument = "--" then
      if more = [] then some (.replay d.options) else none
    else
      match option? argument.toList with
      | none => none
      | some (name, some value) =>
        if name.takesValue then
          (d.withValue name value).bind fun next => requestFrom next more
        else
          none
      | some (name, none) =>
        if name.takesValue then
          match more with
          | [] => none
          | value :: rest =>
            if isValue value then
              (d.withValue name value).bind fun next => requestFrom next rest
            else
              none
        else
          match name with
          | .help => some .help
          | .version => some .version
          | _ => (d.withSwitch name).bind fun next => requestFrom next more

/-- What some arguments ask for, unless they are refused. -/
def request? (arguments : List String) : Option Request :=
  requestFrom {} arguments

end CommandLine

end DeviceFeed
