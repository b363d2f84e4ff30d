import RevenueOffice.PathText
import RevenueOffice.Text.Quoted

/-!
# Files a run can see

The files of a run by path in normal form, with their bytes, and the directories known to exist.
A path is followed part by part from the working directory or the root: every part but the last
must name a directory, and `..` steps back out of one. Directories are made with those above them
as a program makes them, trying the directory itself first. A path with a null character cannot be
opened or made at all, which is an error of the path and not of the file system.
-/

set_option autoImplicit false

namespace RevenueOffice

inductive FileError where
  | missing (path : String)
  | directory (path : String)
  | notDirectory (path : String)
  | occupied (path : String)
  | nullByte (path : String)

def FileError.message : FileError → String
  | .missing p => "[Errno 2] No such file or directory: " ++ Text.literal p
  | .directory p => "[Errno 21] Is a directory: " ++ Text.literal p
  | .notDirectory p => "[Errno 20] Not a directory: " ++ Text.literal p
  | .occupied p => "[Errno 17] File exists: " ++ Text.literal p
  | .nullByte _ => "embedded null byte"

def hasNull (path : String) : Bool := path.toList.contains (Char.ofNat 0)

/-- The files a run can see, and the directories known to exist. -/
structure Files where
  entries : List (String × List Nat)
  directories : List String := []

namespace Files

def joinParts (root : String) (ps : List String) : String :=
  if ps.isEmpty then (if root.isEmpty then "." else root) else root ++ "/".intercalate ps

def holders (path : String) : List String :=
  let ps := PathText.parts path
  (List.range ps.length).map fun i => joinParts (PathText.rootOf path) (ps.take i)

def hasFile (fs : Files) (path : String) : Bool := (fs.entries.lookup path).isSome

def isOutside (path : String) : Bool :=
  let ps := PathText.parts path
  if (PathText.rootOf path).isEmpty then !ps.isEmpty && ps.all (· == "..") else ps.isEmpty

def isDirectory (fs : Files) (path : String) : Bool :=
  path == "." || isOutside path ||
    fs.directories.any (fun d => d == path || (holders d).contains path) ||
    fs.entries.any fun (p, _) => (holders p).contains path

def place (root : String) (up : Nat) (here : List String) : String :=
  joinParts root (List.replicate up ".." ++ here)

/-- Follow the parts of `path` from the directory `here`, `up` levels above the working directory,
under the root `root`: the path, with `..` only for the levels above the working directory, that
the last part names. Every part before the last must name a directory. -/
def walk (fs : Files) (path root : String) :
    Nat → List String → List String → Except FileError String
  | up, here, [] => .ok (place root up here)
  | up, here, ".." :: rest =>
    match here with
    | [] => fs.walk path root (if root.isEmpty then up + 1 else up) [] rest
    | _ => fs.walk path root up here.dropLast rest
  | up, here, [last] => .ok (place root up (here ++ [last]))
  | up, here, part :: rest =>
    let next := place root up (here ++ [part])
    if fs.hasFile next then .error (.notDirectory path)
    else if fs.isDirectory next then fs.walk path root up (here ++ [part]) rest
    else .error (.missing path)

/-- The path, with `..` only for the levels above the working directory, that a path names, if
every directory on the way exists. -/
def resolve (fs : Files) (path : String) : Except FileError String :=
  fs.walk path (PathText.rootOf path) 0 [] (PathText.parts path)

def read (fs : Files) (path : String) : Except FileError (List Nat) :=
  if hasNull path then .error (.nullByte path) else
  match fs.resolve path with
  | .error e => .error e
  | .ok p =>
    match fs.entries.lookup p with
    | some bs => .ok bs
    | none => if fs.isDirectory p then .error (.directory path) else .error (.missing path)

def exists? (fs : Files) (path : String) : Bool :=
  !hasNull path &&
  match fs.resolve path with
  | .ok p => fs.hasFile p || fs.isDirectory p
  | .error _ => false

def isFile (fs : Files) (path : String) : Bool :=
  match fs.resolve path with
  | .ok p => fs.hasFile p
  | .error _ => false

/-- Where a file written at a path goes: the path that `resolve` gives, if its directory exists
and it is not a directory itself. -/
def target (fs : Files) (path : String) : Except FileError String :=
  if hasNull path then .error (.nullByte path) else
  match fs.resolve path with
  | .error e => .error e
  | .ok p => if fs.isDirectory p then .error (.directory path) else .ok p

def withDirectories (fs : Files) (dirs : List String) : Files :=
  { fs with directories := fs.directories ++ dirs }

inductive Making where
  | made (dir : String)
  | present
  | missing
  | notDirectory

def isDir (fs : Files) (path : String) : Bool :=
  match fs.resolve path with
  | .ok p => fs.isDirectory p
  | .error _ => false

/-- Try to make one directory, the directories above it being left as they are. -/
def makeOne (fs : Files) (path : String) : Making :=
  let root := PathText.rootOf path
  let ps := PathText.parts path
  match ps.getLast? with
  | none => .present
  | some last =>
    let holder := joinParts root ps.dropLast
    match fs.resolve holder with
    | .error (.notDirectory _) => .notDirectory
    | .error _ => .missing
    | .ok h =>
      if fs.hasFile h then .notDirectory
      else if !fs.isDirectory h then .missing
      else if last == ".." then .present
      else
        let p := PathText.join h last
        if fs.hasFile p || fs.isDirectory p then .present else .made p

def takenError (fs : Files) (path : String) (fileAbove : Bool) : Except FileError (List String) :=
  if fs.isDir path then .ok []
  else .error (if fileAbove then .notDirectory path else .occupied path)

def makeDirs (fs : Files) : Nat → String → Except FileError (List String)
  | 0, path => .error (.missing path)
  | fuel + 1, path =>
    match fs.makeOne path with
    | .made d => .ok [d]
    | .present => fs.takenError path false
    | .notDirectory => fs.takenError path true
    | .missing =>
      let parent := PathText.parentOf path
      if parent == path then .error (.missing path) else do
        let above ← fs.makeDirs fuel parent
        let fs' := fs.withDirectories above
        match fs'.makeOne path with
        | .made d => .ok (above ++ [d])
        | .missing => .error (.missing path)
        | .present => (fs'.takenError path false).map (above ++ ·)
        | .notDirectory => (fs'.takenError path true).map (above ++ ·)

/-- Make a directory with the directories above it: the directories made, from the top down. The
path is named in normal form. -/
def makeDirectories (fs : Files) (path : String) : Except FileError (List String) :=
  let p := PathText.normal path
  if hasNull p then .error (.nullByte p) else fs.makeDirs ((PathText.parts p).length + 1) p

def withFile (fs : Files) (file : String × List Nat) : Files :=
  { fs with entries := fs.entries ++ [file] }

end Files

end RevenueOffice
