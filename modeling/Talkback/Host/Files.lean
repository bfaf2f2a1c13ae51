import Talkback.Error

/-!
A file system held in memory: directories, regular files and named pipes, reached by paths.

A path is read as a list of components: it is split on `/`, and empty and `.` parts are
dropped. An absolute path hangs below the root `/`; a path starting with the temporary
directory's placeholder `{TMP}` hangs below that directory; any other path hangs below the
working directory. The three roots always exist as directories. The empty path names nothing.

Every operation walks the path's proper prefixes first: the first one missing fails with
`NotFound`, the first one that is not a directory fails with `NotADirectory`, as the host's
system calls do. Creating a directory where anything exists fails with `AlreadyExists`;
reading or writing a directory fails with `IsADirectory`. A path written with a trailing `/`
or `.` must name a directory.
-/

namespace Talkback.Host

/-- What a path can name. -/
inductive Entry where
  | file (data : List UInt8)
  | dir
  | fifo
  deriving DecidableEq, Repr, Inhabited

/-- The root of the temporary directory. -/
def tmpRoot : String := "{TMP}"

/-- The root of relative paths. -/
def cwdRoot : String := "."

/-- The components of a path, below its root; none for the empty path. -/
def key (p : String) : Option (List String) :=
  if p.isEmpty then none
  else
    let parts := (p.splitOn "/").filter fun c => !c.isEmpty && c != "."
    if p.startsWith "/" then some ("/" :: parts)
    else
      match parts with
      | c :: rest => if c == tmpRoot then some (c :: rest) else some (cwdRoot :: c :: rest)
      | [] => some [cwdRoot]

/-- Whether a path can only name a directory: it ends with `/` or a `.` component. -/
def dirOnly (p : String) : Bool := p.length > 1 && (p.endsWith "/" || p == "." || p.endsWith "/.")

/-- A file system: every path that exists, with what it names. -/
structure Files where
  entries : List (List String × Entry) := []
  deriving DecidableEq, Repr, Inhabited

namespace Files

/-- What a path's components name; the roots are directories. -/
def find (fs : Files) (k : List String) : Option Entry :=
  match k with
  | [_] => some .dir
  | _ => (fs.entries.find? (·.1 == k)).map (·.2)

/-- Walk the proper prefixes of `k`: each must be a directory. -/
def walk (fs : Files) (k : List String) : Except IoError Unit :=
  let prefixes := (List.range k.length).map fun n => k.take n
  match prefixes.tail.find? fun p => fs.find p != some .dir with
  | none => .ok ()
  | some p => if fs.find p == none then .error IoError.missing else .error IoError.notDirectory

/-- Set what `k` names. -/
def put (fs : Files) (k : List String) (e : Entry) : Files :=
  { entries := (fs.entries.filter (·.1 != k)) ++ [(k, e)] }

/-- Create one directory. -/
def mkdir (fs : Files) (k : List String) : Except IoError Files := do
  fs.walk k
  if (fs.find k).isSome then throw IoError.occupied
  return fs.put k .dir

/-- Create a directory and its missing parents, `fuel` levels deep: a directory that exists,
or that appears meanwhile, is fine; only a missing parent is created. -/
def mkdirsBy (fs : Files) : Nat → List String → Except IoError Files
  | 0, _ => .ok fs
  | fuel + 1, k =>
    match fs.mkdir k with
    | .ok fs => .ok fs
    | .error e =>
      if e.kind == .notFound && k.length > 1 then do
        let fs ← fs.mkdirsBy fuel k.dropLast
        match fs.mkdir k with
        | .ok fs => .ok fs
        | .error e => if fs.find k == some .dir then .ok fs else .error e
      else if fs.find k == some .dir then .ok fs
      else .error e

/-- Create the missing directories above a path; a path with no parent needs nothing. -/
def createParents (fs : Files) (p : String) : Except IoError Files :=
  match key p with
  | some k => if k.length ≤ 1 then .ok fs else fs.mkdirsBy k.length k.dropLast
  | none => .ok fs

/-- Write a regular file. -/
def write (fs : Files) (p : String) (data : List UInt8) : Except IoError Files := do
  let some k := key p | throw IoError.missing
  fs.walk k
  match fs.find k with
  | some .dir => throw IoError.directory
  | some _ => if dirOnly p then throw IoError.notDirectory else return fs.put k (.file data)
  | none => if dirOnly p then throw IoError.directory else return fs.put k (.file data)

/-- What a path names, after walking to it. -/
def open_ (fs : Files) (p : String) : Except IoError Entry := do
  let some k := key p | throw IoError.missing
  fs.walk k
  match fs.find k with
  | none => throw IoError.missing
  | some e => if dirOnly p && e != .dir then throw IoError.notDirectory else return e

/-- Read a regular file. -/
def read (fs : Files) (p : String) : Except IoError (List UInt8) := do
  match ← fs.open_ p with
  | .file d => return d
  | .dir => throw IoError.directory
  | .fifo => return []

/-- Whether a path names anything. -/
def exists_ (fs : Files) (p : String) : Bool := (fs.open_ p).toOption.isSome

/-- Append to a regular file, creating it; failures are ignored. -/
def append (fs : Files) (p : String) (data : List UInt8) : Files :=
  let old := match fs.read p with
    | .ok d => d
    | .error _ => []
  match fs.write p (old ++ data) with
  | .ok fs => fs
  | .error _ => fs

end Files

end Talkback.Host
