import DeviceFeed.CommandLine
import DeviceFeed.Script
import DeviceFeed.Setup
import DeviceFeed.Text.Terminal

/-!
# The replay tool

The replay tool sends the frames of a script through a decoder and prints the
resulting events, one a line. Between the decoder and the printer there is a
bounded channel. The printer works on its own, so what it has taken before each
event is a parameter of a run; whatever it takes, it prints in order, and it
prints what is left at the end.
-/

namespace DeviceFeed

/-- What the replay tool writes to its log. -/
inductive Notice where
  | decoder (message : Message)
  | configured (config : Config)
  | framed (line events : Nat)
  | tracking (line : Nat) (id : Option Int64)
  | trackOnly (line : Nat) (only : Bool)
  | skipped (line : Nat) (defect : Defect)
  | finished (printed : Nat)
  | lost (count : Nat)
  deriving DecidableEq, Repr

namespace Notice

def level : Notice → Level
  | decoder message => message.level
  | configured _ => .debug
  | framed .. => .debug
  | tracking .. => .info
  | trackOnly .. => .info
  | skipped .. => .warn
  | finished _ => .info
  | lost _ => .warn

def target : Notice → String
  | decoder message => message.target
  | _ => "devwire_replay"

/-- The beginning of a notice about a line of the script. -/
def lineText (line : Nat) : String :=
  "Line " ++ Text.decimal line ++ ": "

def text : Notice → String
  | decoder message => message.text
  | configured config => "Decoder config: " ++ config.text
  | framed line events => lineText line ++ Text.decimal events ++ " events"
  | tracking line id => lineText line ++ "tracking device " ++ followedText id
  | trackOnly line only => lineText line ++ "track-only " ++ Json.bool only
  | skipped line defect => lineText line ++ "skipped (" ++ defect.message ++ ")"
  | finished printed => "Replay finished: " ++ Text.decimal printed ++ " events printed"
  | lost count => Text.decimal count ++ " events lost to a full event channel"

def line (notice : Notice) : String :=
  notice.level.line notice.target (Text.forTerminal notice.text)

end Notice

inductive ReplayError where
  | config (name : String) (error : ConfigError)
  | clash (clash : CodeClash)
  /-- The input with this name cannot be opened or read. -/
  | input (name : String) (error : SourceError)
  | notText (fault : ScriptFault)
  deriving DecidableEq, Repr

namespace ReplayError

/-- What went wrong, and beneath it the causes, the nearest first. -/
def report : ReplayError → String × List String
  | config name error =>
    ("Failed to load config " ++ name, error.message :: error.cause?.toList)
  | clash c => ("Invalid decoder config", [c.message])
  | input _ .directory => ("Failed to read line 1", [SourceError.message .directory])
  | input name error => ("Failed to open " ++ name, [error.message])
  | notText fault =>
    ("Failed to read line " ++ Text.decimal fault.line, [fault.fault.message])

/-- A text whose further lines are moved to the right. -/
def hanging (margin text : String) : String :=
  String.intercalate ("\n" ++ margin)
    ((Text.pieces (· == '\n') text.toList).map String.ofList)

def numbered (number : Nat) : List String → String
  | [] => ""
  | cause :: more =>
    "\n    " ++ Text.decimal number ++ ": " ++ hanging "       " cause ++
      numbered (number + 1) more

def message (error : ReplayError) : String :=
  let (what, causes) := error.report
  "Error: " ++ what ++ "\n\nCaused by:" ++
    match causes with
    | [cause] => "\n    " ++ hanging "    " cause
    | causes => numbered 0 causes

end ReplayError

/-- What comes of calling the replay tool. -/
inductive Outcome where
  | misused
  /-- A text was asked for. -/
  | shown (text : String)
  /-- The channel cannot have that many slots. -/
  | overCapacity
  | failed (notices : List Notice) (error : ReplayError)
  /-- The events were printed, and so many others were lost. -/
  | replayed (notices : List Notice) (events : List Event) (lost : Nat) (stats : Stats)
  deriving DecidableEq, Repr

namespace Outcome

/-- The exit code of the tool in a development build, where a panic unwinds. A
release build aborts instead when a channel cannot be made, so it is ended by a
signal and has no exit code then. -/
def exitCode : Outcome → UInt32
  | misused => 2
  | shown _ => 0
  | overCapacity => 101
  | failed .. => 1
  | replayed .. => 0

/-- The lines of the standard output, as far as they are certain. -/
def output : Outcome → List String
  | shown text => [text]
  | replayed _ events .. => events.map Event.json
  | _ => []

def stdout (o : Outcome) : String :=
  Text.unlines o.output

def notices : Outcome → List Notice
  | failed notices _ => notices
  | replayed notices .. => notices
  | _ => []

def logLines (o : Outcome) (log : Level) : List String :=
  (o.notices.filter fun n => log.shows n.level).map Notice.line

/-- What follows the log on the standard error. -/
def closing : Outcome → String
  | misused => "error: unexpected arguments"
  | shown _ => ""
  | overCapacity => CapacityError.message .tooManySlots
  | failed _ error => error.message
  | replayed _ _ _ stats => stats.json

end Outcome

namespace Replay

def versionText : String :=
  "devwire-replay 0.1.0"

def helpText : String :=
  "Replay recorded device frames and print normalized events\n\n" ++
    "Usage: devwire-replay [OPTIONS]\n\n" ++
    "Options:\n" ++
    "  -i, --input <INPUT>                        " ++
    "Frame file, one hex frame per line (stdin when omitted)\n" ++
    "  -c, --config <CONFIG>                      Decoder config file (JSON)\n" ++
    "      --track-device <TRACK_DEVICE>          Device to track\n" ++
    "      --track-only                           " ++
    "Only forward hardware telemetry from the tracked device\n" ++
    "      --debug                                Emit debug records (overrides the config file)\n" ++
    "  -l, --log-level <LOG_LEVEL>                " ++
    "Log level (trace, debug, info, warn, error) [default: warn]\n" ++
    "      --channel-capacity <CHANNEL_CAPACITY>  Event channel capacity [default: 1024]\n" ++
    "  -h, --help                                 Print help\n" ++
    "  -V, --version                              Print version"

/-- How many events the printer takes before each event that is published, by
the number of that event. -/
abbrev Printer := Nat → Nat

structure Progress where
  session : Session Attended
  notices : Array Notice

/-- What the log says about an entry, given the reply of the session. -/
def entryNotices (line : Nat) (entry : Entry) (reply : Reply) : List Notice :=
  match entry with
  | .frame _ =>
    let events :=
      match reply.result with
      | some (.ok count) => count
      | _ => 0
    reply.trace.messages.map Notice.decoder ++ [.framed line events]
  | .track id => [.tracking line id]
  | .trackOnly only => [.trackOnly line only]
  | .invalid defect => [.skipped line defect]

/-- One entry of a script, with the number of its line. -/
def Progress.enter (p : Progress) (item : Nat × Entry) : Progress :=
  let (session, reply) :=
    match item.2.input? with
    | some input => p.session.enter input
    | none => (p.session, {})
  ⟨session, p.notices ++ entryNotices item.1 item.2 reply⟩

/-- Makes a session for a configuration. -/
def start (options : Options) (config : Config) (printer : Printer) (channel : Channel) :
    Except CodeClash (Session Attended) :=
  let publisher : Attended :=
    { channel := channel, schedule := fun number => [.take (printer number)] }
  (Processor.ofConfig config publisher).map fun processor =>
    { processor := processor, tracking := options.tracking }

/-- The end of a replay: the printer takes what is left. -/
def finish (p : Progress) : Outcome :=
  let publisher := p.session.processor.publisher
  let events := publisher.taken.toList ++ publisher.channel.waiting
  let lost := publisher.channel.lost
  let finished := p.notices.push (.finished events.length)
  let notices := if 0 < lost then finished.push (.lost lost) else finished
  .replayed notices.toList events lost p.session.processor.stats

/-- Replays a script in a session. -/
def replayScript (session : Session Attended) (config : Config) (script : Bytes) : Outcome :=
  let (entries, fault) := Script.read script
  let progress := entries.foldl Progress.enter ⟨session, #[.configured config]⟩
  match fault with
  | some fault => .failed progress.notices.toList (.notText fault)
  | none => finish progress

/-- The settings of the decoder. -/
def settings (files : String → Source) (options : Options) : Except ReplayError Config :=
  let loaded : Except ReplayError Config :=
    match options.config with
    | none => .ok {}
    | some name =>
      match Config.load name (files name) with
      | .ok config => .ok config
      | .error error => .error (.config name error)
  loaded.map fun config => if options.debug then { config with debug := true } else config

def run (files : String → Source) (input : Source) (printer : Printer) (options : Options) :
    Outcome :=
  match settings files options with
  | .error error => .failed [] error
  | .ok config =>
    match Channel.new (max options.capacity 1) with
    | .error _ => .overCapacity
    | .ok channel =>
      match start options config printer channel with
      | .error clash => .failed [.configured config] (.clash clash)
      | .ok session =>
        match (options.input.elim input files).content with
        | .ok script => replayScript session config script
        | .error error =>
          .failed [.configured config] (.input (options.input.getD "") error)

/-- A printer that takes every event at once. -/
def promptPrinter : Printer :=
  fun _ => Channel.maxCapacity

/-- What comes of calling the tool with some arguments. -/
def call (files : String → Source) (input : Source) (printer : Printer)
    (arguments : List String) : Outcome :=
  match CommandLine.request? arguments with
  | none => .misused
  | some .help => .shown helpText
  | some .version => .shown versionText
  | some (.replay options) => run files input printer options

end Replay

end DeviceFeed
