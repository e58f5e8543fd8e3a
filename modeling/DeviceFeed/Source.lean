import DeviceFeed.Text.Utf8

/-!
# Sources of bytes

A name may stand for a file with some content, for a directory, or for nothing.
It may also be no name that the system can follow. This file says what comes of
opening and reading it.
-/

namespace DeviceFeed

/-- What a name stands for. -/
inductive Source where
  | missing
  /-- The name goes on after the name of a file as if that were a directory. -/
  | beyondFile
  | longName
  | directory
  | file (content : Bytes)
  deriving DecidableEq, Repr

inductive SourceError where
  | missing
  | beyondFile
  | longName
  | directory
  | notText
  deriving DecidableEq, Repr

def SourceError.message : SourceError → String
  | missing => "No such file or directory (os error 2)"
  | beyondFile => "Not a directory (os error 20)"
  | longName => "File name too long (os error 36)"
  | directory => "Is a directory (os error 21)"
  | notText => "stream did not contain valid UTF-8"

namespace Source

def content : Source → Except SourceError Bytes
  | missing => .error .missing
  | beyondFile => .error .beyondFile
  | longName => .error .longName
  | directory => .error .directory
  | file content => .ok content

def text (source : Source) : Except SourceError String :=
  source.content.bind fun bytes =>
    match Utf8.decode bytes with
    | .ok text => .ok text
    | .error _ => .error .notText

end Source

end DeviceFeed
