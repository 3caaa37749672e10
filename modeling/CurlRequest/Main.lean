import CurlRequest.CommandLine.Run

/-!
# The program

The files that a run looks at are read into a tree, the run is computed, and what it has changed in
the tree is written back.
-/

namespace CurlRequest.Main

open CommandLine

/-- The octets of a byte array. -/
def octets (bytes : ByteArray) : Bytes := bytes.toList

/-- The byte array of some octets. -/
def byteArray (bytes : Bytes) : ByteArray := ⟨bytes.toArray⟩

/-- A path as the system takes it. -/
def systemPath (p : Path) : String := (p.toText.toString?).getD ""

/-- The text that octets encode, or nothing. -/
def decoded (bytes : Bytes) : Text :=
  match Utf8.decode bytes with
  | .ok t => t
  | .error _ => []

/-- The variables in a block in which each is followed by a zero. -/
def parseEnvironment (block : Bytes) : Settings.Environment :=
  (Text.splitBy (fun c => decide (c.toNat = 0)) (decoded block)).filterMap (Text.cutAt? '=')

/-- The environment of this process. -/
def readEnvironment : IO Settings.Environment := do
  try
    let block ← IO.FS.readBinFile "/proc/self/environ"
    pure (parseEnvironment (octets block))
  catch _ =>
    let names : List String := ["HOME", "XDG_CONFIG_HOME", "APPDATA"]
    let values ← names.mapM fun name => do
      pure ((← IO.getEnv name).map fun value => (Text.ofString name, Text.ofString value))
    pure (values.filterMap id)

/-- What stands where a path leads to. -/
def readEntry (p : Path) : IO (Option Entry) := do
  try
    let content ← IO.FS.readBinFile (systemPath p)
    pure (some (.file ⟨0o644, octets content⟩))
  catch
    | .inappropriateType .. => pure (some .directory)
    | _ => pure none

/-- The place of a path in the tree, double dots being taken as they are written. -/
def place (workingDirectory : Location) (p : Path) : Location :=
  let start := if p.root = .here then workingDirectory else []
  p.names.foldl (fun l name => if name = Text.ofString ".." then l.dropLast else l ++ [name]) start

/-- The tree with what stands at a path and at the directories above it. -/
def readPath (t : FileTree) (p : Path) : IO FileTree :=
  p.ancestors.foldlM (fun t q => do
    match ← readEntry q with
    | some e => pure (t.set (place t.workingDirectory q) e)
    | none => pure t) t

/-- The tree of what stands at some paths. -/
def readTree (paths : List Path) : IO FileTree := do
  let here := (Path.ofText (Text.ofString (← IO.currentDir).toString)).names
  let above := (List.range here.length).map fun i => (here.take (i + 1), Entry.directory)
  paths.foldlM readPath ⟨above, here, 0o022⟩

/-- Three permission bits. -/
def accessRight (bits : Nat) : IO.AccessRight :=
  ⟨bits &&& 4 != 0, bits &&& 2 != 0, bits &&& 1 != 0⟩

/-- The rights of a file with given permission bits. -/
def fileRight (mode : Nat) : IO.FileRight :=
  ⟨accessRight (mode / 64), accessRight (mode / 8), accessRight mode⟩

/-- Writes what has become of a location.  Rights are set before there is any content. -/
def writeEntry (before : FileTree) (l : Location) (e : Entry) : IO Unit := do
  let path := systemPath ⟨.slash, l⟩
  match e with
  | .directory => if (before.found? l).isNone then IO.FS.createDir path
  | .file f =>
      if before.found? l ≠ some e then
        IO.FS.writeBinFile path ByteArray.empty
        if f.mode ≠ 0o644 then IO.setAccessRights path (fileRight f.mode)
        IO.FS.writeBinFile path (byteArray f.content)

/-- Writes what has become of a tree. -/
def writeTree (before after : FileTree) : IO Unit :=
  after.entries.forM fun (l, e) => writeEntry before l e

/-- Everything that a stream has left to read, after some octets that were read. -/
partial def readRest (stream : IO.FS.Stream) (read : ByteArray) : IO ByteArray := do
  let more ← stream.read 4096
  if more.isEmpty then pure read else readRest stream (read ++ more)

/-- Prints a text. -/
def put (stream : IO.FS.Stream) (t : Text) : IO Unit := do
  stream.write (byteArray (Utf8.encodeAll t))
  stream.flush

/-- The line of a log record. -/
def logLine (r : LogRecord) : Text :=
  r.level.name ++ " " ++ r.message ++ "\n"

/-- The columns of the terminal; there are eighty unless a variable says how many. -/
def columns (environment : Settings.Environment) : Nat :=
  match environment.get? "COLUMNS" with
  | some digits =>
      if !digits.isEmpty && digits.all CodePoint.isDigit then
        digits.foldl (fun n d => 10 * n + (d.toNat - 0x30)) 0
      else 80
  | none => 80

/-- The context of a run on this machine. -/
def contextOf (environment : Settings.Environment) (input : Bytes) : Context where
  environment := environment
  standardInput := input
  platform := .other
  userFile :=
    (Settings.userFile .other environment).expand fun _ => Settings.homeDirectory environment
  console := .ofColumns (columns environment)
  handler := .plain

/-- Runs what arguments ask for on the files of this machine. -/
def run (arguments : List Text) : IO UInt32 := do
  let environment ← readEnvironment
  let input ←
    if usesStandardInput arguments then readRest (← IO.getStdin) ByteArray.empty
    else pure ByteArray.empty
  let context := contextOf environment (octets input)
  let before ← readTree (usedPaths context arguments)
  let outcome := CommandLine.run context before arguments
  writeTree before outcome.session.files
  put (← IO.getStderr) (outcome.session.log.flatMap logLine ++ outcome.session.standardError)
  put (← IO.getStdout) outcome.session.standardOutput
  pure (UInt32.ofNat outcome.stop.exitCode)

end CurlRequest.Main

/-- Runs the command line. -/
def main (arguments : List String) : IO UInt32 :=
  CurlRequest.Main.run (arguments.map CurlRequest.Text.ofString)
