import DeviceFeed.Command
import DeviceFeed.Frame
import DeviceFeed.Record

/-!
# Log messages

This file lists what the decoder reports about its own work, with the severity
and the source of each message. A reader of the log chooses a level and sees
the messages that are at least as severe.
-/

namespace DeviceFeed

inductive Level where
  | error
  | warn
  | info
  | debug
  | trace
  deriving DecidableEq, Repr

namespace Level

/-- The place of a level in the order that begins with the most severe one. -/
def rank : Level → Nat
  | error => 1
  | warn => 2
  | info => 3
  | debug => 4
  | trace => 5

/-- Whether a log at this level shows messages of another one. -/
def shows (log message : Level) : Bool :=
  message.rank ≤ log.rank

def name : Level → String
  | error => "ERROR"
  | warn => "WARN"
  | info => "INFO"
  | debug => "DEBUG"
  | trace => "TRACE"

/-- The line of a log for a message of this level. -/
def line (level : Level) (target text : String) : String :=
  level.name ++ " " ++ target ++ ": " ++ text

end Level

def followedText : Option Int64 → String
  | some id => "Some(" ++ Text.signedDecimal id.toInt ++ ")"
  | none => "None"

inductive Message where
  /-- A frame with an acceptable body length is about to be handled. -/
  | dispatching (command : Command) (header : Header) (size : Nat)
  /-- A live reading was held back. -/
  | suppressed (messageId : UInt16) (followed : Option Int64)
  /-- An event is about to be published. -/
  | publishing (kind : String)
  | dropping (why : Rejection)
  | channelFull (kind : String)
  | channelClosed (kind : String)
  /-- A debug record, for those who want records in the log. -/
  | recorded (record : Record)
  deriving DecidableEq, Repr

namespace Message

def level : Message → Level
  | dispatching .. => .debug
  | suppressed .. => .trace
  | publishing _ => .trace
  | dropping _ => .warn
  | channelFull _ => .warn
  | channelClosed _ => .warn
  | recorded _ => .debug

/-- The part of the decoder that reports. -/
def target : Message → String
  | dispatching .. => "devwire_core::dispatch"
  | suppressed .. => "devwire_core::processor"
  | publishing _ => "devwire_core::processor"
  | dropping _ => "devwire_core::processor"
  | channelFull _ => "devwire_core::publish"
  | channelClosed _ => "devwire_core::publish"
  | recorded _ => "devwire::debug"

def text : Message → String
  | dispatching command header size =>
    "Dispatching " ++ command.label ++ " (code " ++ Text.decimal header.command.toNat ++
      ", msg " ++ Text.decimal header.messageId.toNat ++ ", " ++ Text.decimal size ++
      " body bytes)"
  | suppressed messageId followed =>
    "Suppressed hardware frame " ++ Text.decimal messageId.toNat ++ " (tracking " ++
      followedText followed ++ ")"
  | publishing kind => "Publishing " ++ kind ++ " event"
  | dropping why => "Dropping frame: " ++ why.message
  | channelFull kind => "Event channel full, dropping " ++ kind ++ " event"
  | channelClosed kind => "Event channel closed, dropping " ++ kind ++ " event"
  | recorded record => record.label ++ " " ++ record.json

def line (message : Message) : String :=
  message.level.line message.target message.text

end Message

def logLines (log : Level) (messages : List Message) : List String :=
  (messages.filter fun m => log.shows m.level).map Message.line

end DeviceFeed
