import CurlRequest.File.Path
import CurlRequest.Text.Quoted

/-!
# A tree of files

Programs here do not touch a disk.  They run on a `FileTree`, a value that holds directories and
regular files with their modes and contents.  What they do to it are calls of the system, made one
after the other, and the tree that they leave behind is what their calls make of it.  An action that
fails has made the calls before.

There are no links in a tree and no other kinds of files, permission bits keep nobody from anything,
and the device neither fails nor is ever full.

**Contents.**
* `RegularFile`, `FileStep`: a file, and the three things that can happen to it.
* `FileTree.locate`: the place that a path leads to.
* `FileCall`, `FileTree.after`: the calls that change a tree, and what they make of it.
* `FileAction`, `FileAction.calls`, `FileAction.run`: actions on a tree that may fail, the calls that
  they make, and the tree that they leave.
* `makeDirectories`, `readText`, `runSteps`, `writeText`: the actions.
-/

namespace CurlRequest

/-- A regular file: permission bits and octets. -/
structure RegularFile where
  mode : Nat
  content : Bytes
  deriving DecidableEq, Repr

/-- What happens to a file while it is written: it is opened, which creates it with a mode or
empties it, its mode is set, or octets are appended. -/
inductive FileStep
  | openEmpty (mode : Nat)
  | setMode (mode : Nat)
  | append (octets : Bytes)
  deriving DecidableEq, Repr

/-- The effect of a step, given the permission bits that creation leaves out. -/
def FileStep.apply (umask : Nat) : FileStep → Option RegularFile → Option RegularFile
  | .openEmpty mode, none => some ⟨mode &&& (0o777 ^^^ (umask &&& 0o777)), []⟩
  | .openEmpty _, some file => some { file with content := [] }
  | .setMode mode, file => file.map fun file => { file with mode := mode }
  | .append octets, file => file.map fun file => { file with content := file.content ++ octets }

/-- The names on the way from the root of the tree. -/
abbrev Location := List Text

/-- What stands at a location. -/
inductive Entry
  | file (f : RegularFile)
  | directory
  deriving DecidableEq, Repr

/-- Directories and files by location.  The root is always a directory. -/
structure FileTree where
  entries : List (Location × Entry)
  workingDirectory : Location
  umask : Nat

/-- Why a path does not lead where it should. -/
inductive PathProblem
  | missing
  | exists
  | notDirectory
  | isDirectory
  | nameTooLong
  deriving DecidableEq, Repr

/-- Why an action on files fails. -/
inductive FileFault
  | path (problem : PathProblem) (path : Path)
  | nulInPath
  | undecodable (fault : Utf8.DecodeFault)
  | unencodable (fault : Utf8.EncodeFault)
  deriving DecidableEq, Repr

/-- The system's number for a problem. -/
def PathProblem.number : PathProblem → Nat
  | .missing => 2
  | .exists => 17
  | .notDirectory => 20
  | .isDirectory => 21
  | .nameTooLong => 36

/-- The system's wording for a problem. -/
def PathProblem.words : PathProblem → Text
  | .missing => "No such file or directory"
  | .exists => "File exists"
  | .notDirectory => "Not a directory"
  | .isDirectory => "Is a directory"
  | .nameTooLong => "File name too long"

/-- The wording of a fault. -/
def FileFault.message : FileFault → Text
  | .path problem p =>
      "[Errno " ++ Text.ofNat problem.number ++ "] " ++ problem.words ++ ": " ++ p.toText.quoted
  | .nulInPath => "embedded null byte"
  | .undecodable fault => fault.message
  | .unencodable fault => fault.message

namespace FileTree

/-- The longest name, in octets. -/
def nameLimit : Nat := 255

/-- The longest path, in octets. -/
def pathLimit : Nat := 4095

/-- What stands at a location. -/
def found? (t : FileTree) (l : Location) : Option Entry :=
  if l = [] then some .directory else t.entries.lookup l

/-- The entries with one of them set. -/
def setEntry (l : Location) (e : Entry) : List (Location × Entry) → List (Location × Entry)
  | [] => [(l, e)]
  | (k, old) :: rest => if k = l then (k, e) :: rest else (k, old) :: setEntry l e rest

/-- The tree with an entry set. -/
def set (t : FileTree) (l : Location) (e : Entry) : FileTree :=
  { t with entries := setEntry l e t.entries }

/-- Follows names from a location.  What each of them is looked up in must be a directory. -/
def walk (t : FileTree) (here : Location) : List Text → Except PathProblem Location
  | [] => .ok here
  | name :: rest =>
      match t.found? here with
      | none => .error .missing
      | some (.file _) => .error .notDirectory
      | some .directory =>
          if name = Text.ofString ".." then walk t here.dropLast rest
          else if nameLimit < Path.octetCount name then .error .nameTooLong
          else walk t (here ++ [name]) rest

/-- The location that a path leads to, whether or not anything stands there. -/
def locate (t : FileTree) (p : Path) : Except FileFault Location :=
  if p.holdsNul then .error .nulInPath
  else if pathLimit < Path.octetCount p.toText then .error (.path .nameTooLong p)
  else
    (t.walk (if p.root = .here then t.workingDirectory else []) p.names).mapError (.path · p)

/-- The file at a location; a directory is none. -/
def file? (t : FileTree) (l : Location) : Option RegularFile :=
  match t.found? l with
  | some (.file f) => some f
  | _ => none

/-- The tree with a file at a location, if there is one. -/
def withFile (t : FileTree) (l : Location) : Option RegularFile → FileTree
  | some f => t.set l (.file f)
  | none => t

end FileTree

/-! ## Calls -/

/-- A call that changes a tree: a directory is made, or something happens to a file. -/
inductive FileCall
  | makeDirectory (l : Location)
  | step (l : Location) (s : FileStep)
  deriving DecidableEq, Repr

/-- The tree after a call.  No directory is made where something stands already, and to a directory
nothing happens that happens to files. -/
def FileCall.apply (call : FileCall) (t : FileTree) : FileTree :=
  match call with
  | .makeDirectory l => if (t.found? l).isNone then t.set l .directory else t
  | .step l s =>
      if t.found? l = some .directory then t
      else t.withFile l (s.apply t.umask (t.file? l))

/-- The tree after calls, one after the other. -/
def FileTree.after (t : FileTree) (calls : List FileCall) : FileTree :=
  calls.foldl (fun t call => call.apply t) t

/-! ## Actions -/

/-- An action on a tree of files: on each tree, what it gives or why it fails, and the calls that it
makes. -/
structure FileAction (α : Type) where
  on : FileTree → Except FileFault α × List FileCall

namespace FileAction

variable {α β : Type}

/-- The calls that an action makes on a tree. -/
def calls (action : FileAction α) (t : FileTree) : List FileCall :=
  (action.on t).2

/-- What an action gives on a tree, and the tree that its calls leave behind. -/
def run (action : FileAction α) (t : FileTree) : Except FileFault α × FileTree :=
  ((action.on t).1, t.after (action.calls t))

instance : Monad FileAction where
  pure a := ⟨fun _ => (.ok a, [])⟩
  bind action next := ⟨fun t =>
    match action.on t with
    | (.ok a, made) =>
        let (result, more) := (next a).on (t.after made)
        (result, made ++ more)
    | (.error fault, made) => (.error fault, made)⟩

instance : MonadExceptOf FileFault FileAction where
  throw fault := ⟨fun _ => (.error fault, [])⟩
  tryCatch action answer := ⟨fun t =>
    match action.on t with
    | (.ok a, made) => (.ok a, made)
    | (.error fault, made) =>
        let (result, more) := (answer fault).on (t.after made)
        (result, made ++ more)⟩

/-- The tree as it is. -/
instance : MonadReaderOf FileTree FileAction where
  read := ⟨fun t => (.ok t, [])⟩

/-- Makes calls. -/
def perform (made : List FileCall) : FileAction Unit :=
  ⟨fun _ => (.ok (), made)⟩

@[simp] theorem run_pure (a : α) (t : FileTree) :
    (pure a : FileAction α).run t = (.ok a, t) := rfl

@[simp] theorem run_throw (fault : FileFault) (t : FileTree) :
    (throw fault : FileAction α).run t = (.error fault, t) := rfl

@[simp] theorem run_read (t : FileTree) :
    (read : FileAction FileTree).run t = (.ok t, t) := rfl

@[simp] theorem run_perform (made : List FileCall) (t : FileTree) :
    (perform made).run t = (.ok (), t.after made) := rfl

@[simp] theorem calls_pure (a : α) (t : FileTree) :
    (pure a : FileAction α).calls t = [] := rfl

@[simp] theorem calls_throw (fault : FileFault) (t : FileTree) :
    (throw fault : FileAction α).calls t = [] := rfl

@[simp] theorem calls_read (t : FileTree) :
    (read : FileAction FileTree).calls t = [] := rfl

@[simp] theorem calls_perform (made : List FileCall) (t : FileTree) :
    (perform made).calls t = made := rfl

/-- The second action goes on with the tree that the first one leaves, unless that failed. -/
theorem run_bind (action : FileAction α) (next : α → FileAction β) (t : FileTree) :
    (action >>= next).run t =
      match action.run t with
      | (.ok a, t) => (next a).run t
      | (.error fault, t) => (.error fault, t) := by
  simp only [run, calls, bind]
  cases action.on t with
  | mk result made =>
      cases result with
      | ok a => simp only [FileTree.after, List.foldl_append]
      | error fault => rfl

/-- The calls of the second action come after those of the first one, unless that failed. -/
theorem calls_bind (action : FileAction α) (next : α → FileAction β) (t : FileTree) :
    (action >>= next).calls t =
      action.calls t ++
        match action.run t with
        | (.ok a, t) => (next a).calls t
        | (.error _, _) => [] := by
  simp only [run, calls, bind]
  cases action.on t with
  | mk result made =>
      cases result with
      | ok a => rfl
      | error fault => exact (List.append_nil made).symm

/-- The location that a path leads to. -/
def locate (p : Path) : FileAction Location := do
  let t ← read
  match t.locate p with
  | .ok l => pure l
  | .error fault => throw fault

/-- What stands where a path leads to; nothing if the way there is broken. -/
def found? (p : Path) : FileAction (Option Entry) := do
  let t ← read
  match t.locate p with
  | .ok l => pure (t.found? l)
  | .error (.path .nameTooLong p) => throw (.path .nameTooLong p)
  | .error _ => pure none

/-- Creates one directory. -/
def makeDirectory (p : Path) : FileAction Unit := do
  let l ← locate p
  let t ← read
  match t.found? l with
  | some _ => throw (.path .exists p)
  | none => perform [.makeDirectory l]

/-- Creates one directory, if it is not there yet. -/
def ensureDirectory (p : Path) : FileAction Unit := do
  try makeDirectory p
  catch
    | .path .missing q => throw (.path .missing q)
    | fault =>
        match ← found? p with
        | some .directory => pure ()
        | _ => throw fault

/-- Creates the first of some directories, given that each lies in the next: those that it lies in
are created first where they are missing. -/
def makeChain : List Path → FileAction Unit
  | [] => pure ()
  | p :: above => do
      try ensureDirectory p
      catch
        | .path .missing q =>
            if above.isEmpty then throw (.path .missing q)
            else do
              makeChain above
              ensureDirectory p
        | fault => throw fault

/-- Creates a directory together with those that it lies in. -/
def makeDirectories (p : Path) : FileAction Unit :=
  makeChain p.ancestors

/-- The octets of a file. -/
def readBytes (p : Path) : FileAction Bytes := do
  let l ← locate p
  match (← read).found? l with
  | some (.file f) => pure f.content
  | some .directory => throw (.path .isDirectory p)
  | none => throw (.path .missing p)

/-- The text that octets encode, each line end being one line feed. -/
def decodeText (bytes : Bytes) : FileAction Text :=
  match Utf8.decode bytes with
  | .ok t => pure (Text.unifyNewlines t)
  | .error fault => throw (.undecodable fault)

/-- The text of a file. -/
def readText (p : Path) : FileAction Text := do
  decodeText (← readBytes p)

/-- Lets steps happen to the file that a path leads to. -/
def runSteps (p : Path) (steps : List FileStep) : FileAction Unit := do
  let l ← locate p
  let t ← read
  if t.found? l = some .directory then throw (.path .isDirectory p)
  else perform (steps.map (.step l))

/-- Writes a text to a file after some preparing steps.  A text that cannot be encoded is noticed
only after these. -/
def writeAfter (p : Path) (prepare : List FileStep) (t : Text) : FileAction Unit :=
  match Utf8.encode t with
  | .ok octets => runSteps p (prepare ++ [.append octets])
  | .error fault => do
      runSteps p prepare
      throw (.unencodable fault)

/-- Replaces the text of a file; a new file can be read by all. -/
def writeText (p : Path) (t : Text) : FileAction Unit :=
  writeAfter p [.openEmpty 0o666] t

end FileAction

end CurlRequest
