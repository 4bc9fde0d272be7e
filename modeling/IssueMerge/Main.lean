import IssueMerge.CommandLine.Run
import IssueMerge.Yaml.Reader

/-!
The program `bd` on the disk of the system, with a reader for its settings. Everything but the
operations of the disk is decided elsewhere.
-/

namespace IssueMerge

namespace SystemDisk

/-- The name of a file for the system. -/
def fileName (p : Path) : String :=
  String.ofList (p.toText.map fun c => Char.ofNat c.val)

/-- The refusal with the given number, which may come with its sign turned. -/
def refusal (code : UInt32) (text : String) : Refusal :=
  match code.toInt32.toInt.natAbs with
  | 2 => .noEntry
  | 16 => .busy
  | 20 => .notDirectory
  | 21 => .isDirectory
  | 36 => .nameTooLong
  | code => .other code text

/-- Why the system refuses an operation. -/
def refusalOf : IO.Error → Refusal
  | .alreadyExists _ code text => refusal code text
  | .otherError code text => refusal code text
  | .resourceBusy code text => refusal code text
  | .resourceVanished code text => refusal code text
  | .unsupportedOperation code text => refusal code text
  | .hardwareFault code text => refusal code text
  | .unsatisfiedConstraints code text => refusal code text
  | .illegalOperation code text => refusal code text
  | .protocolError code text => refusal code text
  | .timeExpired code text => refusal code text
  | .interrupted _ code text => refusal code text
  | .noFileOrDirectory _ code text => refusal code text
  | .invalidArgument _ code text => refusal code text
  | .permissionDenied _ code text => refusal code text
  | .resourceExhausted _ code text => refusal code text
  | .inappropriateType _ code text => refusal code text
  | .noSuchThing _ code text => refusal code text
  | .unexpectedEof => .other 5 "Input/output error"
  | .userError text => .other 5 text

def attempt {α : Type} (p : Path) (operation : String → IO α) : IO (Except FileError α) := do
  if p.hasNull then
    return .error .nullByte
  match ← (operation (fileName p)).toBaseIO with
  | .ok a => return .ok a
  | .error e => return .error (.os (.on (refusalOf e) p))

/-- What is found at a path. Only a directory can be followed by another name. -/
def kind? (p : Path) : IO (Except FileError (Option NodeKind)) := do
  match ← attempt p fun name => IO.FS.realPath name with
  | .error (.os (.on .noEntry _)) => return .ok none
  | .error (.os (.on .notDirectory _)) => return .ok none
  | .error e => return .error e
  | .ok _ =>
    match ← attempt p fun name => IO.FS.realPath (name ++ "/.") with
    | .ok _ => return .ok (some .directory)
    | .error _ => return .ok (some .file)

def rename (source target : Path) : IO (Except FileError Unit) := do
  match ← attempt source fun name => IO.FS.rename name (fileName target) with
  | .error (.os (.on r _)) => return .error (.os (.between r source target))
  | result => return result

instance : Disk IO where
  workingDirectory := do
    return (Path.ofText (Text.ofString (← IO.currentDir).toString)).parts
  kind? := kind?
  read p := attempt p fun name => do return (← IO.FS.readBinFile name).toList
  create p := attempt p fun name => IO.FS.writeBinFile name ByteArray.empty
  fill p content := attempt p fun name => IO.FS.writeBinFile name ⟨content.toArray⟩
  rename := rename
  remove p := attempt p fun name => IO.FS.removeFile name

end SystemDisk

def usage : Text :=
  Text.unlines
    ["Usage: bd resolve-conflicts [OPTIONS]",
      "",
      "Detects and resolves git merge conflicts in the file of issues.",
      "",
      "  --auto         resolve conflicts",
      "  --dry-run      show what would be resolved and change nothing",
      "  --json         print JSON",
      "  -f, --file     the file to work on, in place of that of the project",
      "  --prefix       what fresh ids start with",
      "  --help         show this text",
      ""]

/-- Writes a text to a stream, as far as it can be encoded. -/
def put (stream : IO.FS.Stream) (t : Text) : IO Unit := do
  match Utf8.encode t with
  | .ok bytes => stream.write ⟨bytes.toArray⟩
  | .error _ => pure ()
  stream.flush

/-- Runs the program on its arguments; the result is the exit code. -/
def runProgram (arguments : List Text) : IO UInt32 := do
  match Request.ofArguments arguments with
  | .help => do
    put (← IO.getStdout) usage
    return 0
  | .misuse e => do
    put (← IO.getStderr) (e.message ++ "\n" ++ usage)
    return 2
  | .resolve options => do
    let run : Run ← runResolve Yaml.read options
    put (← IO.getStdout) run.output
    if run.ending.message ≠ [] then
      put (← IO.getStderr) (run.ending.message ++ "\n")
    return UInt32.ofNat run.ending.code

end IssueMerge

def main (arguments : List String) : IO UInt32 :=
  IssueMerge.runProgram (arguments.map IssueMerge.Text.ofString)
