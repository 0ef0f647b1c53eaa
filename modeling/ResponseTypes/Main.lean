import ResponseTypes.CommandLine.Run
import Std.Time.Format

/-!
# The program

Carries out the command line on the system that the program runs on.  Everything is decided
elsewhere; here are only the operations of the system, and what is printed where.
-/

namespace ResponseTypes
namespace Program

/-- The program with its knowledge of whether a user wants to see everything. -/
abbrev Running := ReaderT Bool IO

/-- The number by which the system tells why it refuses something. -/
def systemCode : IO.Error → UInt32
  | .alreadyExists _ code _ => code
  | .otherError code _ => code
  | .resourceBusy code _ => code
  | .resourceVanished code _ => code
  | .unsupportedOperation code _ => code
  | .hardwareFault code _ => code
  | .unsatisfiedConstraints code _ => code
  | .illegalOperation code _ => code
  | .protocolError code _ => code
  | .timeExpired code _ => code
  | .interrupted _ code _ => code
  | .noFileOrDirectory _ code _ => code
  | .invalidArgument _ code _ => code
  | .permissionDenied _ code _ => code
  | .resourceExhausted _ code _ => code
  | .inappropriateType _ code _ => code
  | .noSuchThing _ code _ => code
  | .unexpectedEof => 0
  | .userError _ => 0

/-- The number without its sign, which some operations put before it. -/
def unsigned (code : UInt32) : UInt32 :=
  if code < 0x80000000 then code else 0 - code

/-- The fault that the system reports. -/
def fault (error : IO.Error) : FileFault :=
  match unsigned (systemCode error) with
  | 2 => .absent
  | 13 => FileFault.denied
  | 17 => .occupied
  | 20 => .notDirectory
  | 21 => .isDirectory
  | 36 => .nameTooLong
  | _ => .other (toString error)

/-- The result of an operation, or the fault. -/
def attempt {α : Type} (operation : IO α) : Running (Except FileFault α) := do
  try
    return .ok (← operation)
  catch error =>
    return .error (fault error)

/-- What the system knows of a path. -/
def facts? (path : String) : Running (Option IO.FS.Metadata) := do
  match ← attempt (IO.FS.DirEntry.mk path "").root.metadata with
  | .ok facts => return some facts
  | .error _ => return none

/-- A time of the system in nanoseconds. -/
def nanoseconds (time : IO.FS.SystemTime) : Int :=
  time.sec * Freshness.second + time.nsec.toNat

/-- The time at which an event is reported. -/
def eventStamp : IO String := do
  let now ← Std.Time.Timestamp.now
  let offset := Std.Time.TimeZone.UTC.offset
  let time := Std.Time.PlainDateTime.ofWallTime (Std.Time.WallTime.ofTimestamp now offset)
  return time.format "uuuu-MM-dd'T'HH:mm:ss.SSSSSS'Z'"

/-- An event as it is printed: with the time in front, and with room for the longest level. -/
def printed (stamp : String) (event : Event) : String :=
  let room := String.ofList (List.replicate (5 - event.level.name.length) ' ')
  stamp ++ " " ++ room ++ event.line

instance : Host Running where
  isDirectory path := return (← facts? path).any fun facts => facts.type == .dir
  isFile path := return (← facts? path).any fun facts => facts.type == .file
  exists? path := return (← facts? path).isSome
  modified? path := return (← facts? path).map fun facts => nanoseconds facts.modified
  list path := attempt do
    let entries ← (IO.FS.DirEntry.mk path "").root.readDir
    return entries.toList.map (·.fileName)
  read path := attempt do
    return (← IO.FS.readBinFile path).toList
  write path content := attempt (IO.FS.writeBinFile path ⟨content.toArray⟩)
  makeDirectory path := attempt (IO.FS.createDir path)
  now := return (← Std.Time.Timestamp.now).toNanosecondsSinceUnixEpoch.val
  stamp := return (← Std.Time.PlainDateTime.now).format "uuuu-MM-dd HH:mm:ss"
  report event := do
    if event.level.isShown (← read) then IO.eprintln (printed (← eventStamp) event)
  say line := IO.eprintln line

/-- How the program is called. -/
def usage : String :=
  "Usage: api-typer [--config <CONFIG>] [-v|--verbose] <COMMAND>\n\n" ++
  "Commands:\n" ++
  "  models  generate from model manifests and a schema description\n" ++
  "          [-o|--output <DIR>] [--dialect ts|js] [--model <NAME>] [--schema <FILE>]\n" ++
  "          [--models <DIR>]\n" ++
  "  values  infer from JSON response payloads\n" ++
  "          -i|--input <PATH OR PATTERN>... [-o|--output <DIR>] [--dialect ts|js]\n" ++
  "          [--name <NAME>] [--jq-expr <FILTER>] [--force]\n" ++
  "  help    print this message"

/-- Ends a command line that is not carried out. -/
def refuse (refusal : CommandLine.Refusal) : IO UInt32 := do
  match refusal with
  | .version => IO.println CommandLine.versionLine
  | .help => IO.println usage
  | _ => IO.eprintln usage
  return refusal.exitCode.toUInt32

/-- The number of a program that the system breaks off because it has gone too deep. -/
def outOfDepth : Nat := 134

/-- Carries out a command line. -/
def perform (invocation : CommandLine.Invocation) : Running UInt32 := do
  let result ← CommandLine.run invocation
  match result with
  | .ok (.ok ()) => pure ()
  | .ok (.error failure) => IO.eprintln (CommandLine.failureLine failure)
  | .error reason => IO.eprint reason.lastWords
  return ((CommandLine.exitCode? result).getD outOfDepth).toUInt32

end Program
end ResponseTypes

/-- The program. -/
def main (arguments : List String) : IO UInt32 := do
  match ResponseTypes.CommandLine.parse arguments with
  | .error refusal => ResponseTypes.Program.refuse refusal
  | .ok invocation => (ResponseTypes.Program.perform invocation).run invocation.verbose
