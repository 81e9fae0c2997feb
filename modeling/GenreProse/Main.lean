-- SUMMARY: The program that renders the description of a genre.
import GenreProse.CommandLine.Run
import Std.Time.DateTime.Timestamp

/-!
# The program

Reads the arguments, the environment, the clock and the files of the system, and writes the report
of the run.
-/

namespace GenreProse

namespace CommandLine

/-- What the system says about a failure. -/
def systemReason (error : IO.Error) : String :=
  let described (details : String) (code : UInt32) : String :=
    details ++ " (os error " ++ toString code ++ ")"
  match error with
  | .noFileOrDirectory _ code details => described details code
  | .permissionDenied _ code details => described details code
  | .inappropriateType _ code details => described details code
  | .invalidArgument _ code details => described details code
  | error => toString error

/-- Bytes as text. -/
def textOfBytes (bytes : ByteArray) : Except FileError String :=
  match String.fromUTF8? bytes with
  | some text => .ok text
  | none => .error (.cannotRead "stream did not contain valid UTF-8")

def readHandle (handle : IO.FS.Handle) : IO (Except FileError String) := do
  try return textOfBytes (← handle.readBinToEnd)
  catch error => return .error (.cannotRead (systemReason error))

def readFile (path : String) : IO (Except FileError String) := do
  try
    let handle ← IO.FS.Handle.mk path .read
    readHandle handle
  catch error => return .error (.cannotOpen (systemReason error))

/-- Reads the rest of a stream, up to its first empty block. -/
partial def readStream (stream : IO.FS.Stream) (bytes : ByteArray) : IO ByteArray := do
  let block ← stream.read 65536
  if block.isEmpty then return bytes
  else readStream stream (bytes ++ block)

def readSource : Source → IO (Except FileError String)
  | .file path => readFile path
  | .standardInput => do
    try return textOfBytes (← readStream (← IO.getStdin) .empty)
    catch error => return .error (.cannotRead (systemReason error))

/-- The time of the system clock, in UTC. -/
def currentMoment : IO Moment := do
  let timestamp ← Std.Time.Timestamp.now
  let start := Moment.utc ⟨1970, 1, 1, isCalendarDay_epoch⟩ .midnight
  return (start.addSeconds? timestamp.toSecondsSinceUnixEpoch.val).getD start

end CommandLine

end GenreProse

open GenreProse.CommandLine in
def main (arguments : List String) : IO UInt32 := do
  let surroundings : Surroundings :=
    { baseUrl := ← IO.getEnv "GENRE_WIKI_BASE_URL"
      genres := ← IO.getEnv "GENRE_WIKI_GENRES"
      now := ← currentMoment }
  let report ← run readSource surroundings arguments
  (← IO.getStdout).putStr report.output
  (← IO.getStderr).putStr report.errors
  return report.code.toUInt32
