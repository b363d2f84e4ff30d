/-!
# Paths as text

A path is written in normal form: separators collapsed, `.` parts dropped and no separator at the
end. A path that starts with exactly two separators keeps them, one with more starts with one;
the empty path is `.`. Joining a path that starts with a separator replaces what came before.

The normal form keeps `..`, as a step back out of a directory can only be taken by following the
path. Collapsing a path also takes those steps by the text alone, each `..` cancelling the part
before it; at the root it is dropped, and at the front of a relative path it stays.
-/

set_option autoImplicit false

namespace RevenueOffice.PathText

def parts (s : String) : List String :=
  (s.splitOn "/").filter fun p => p != "" && p != "."

def rootOf (s : String) : String :=
  let n := (s.toList.takeWhile (· == '/')).length
  if n = 0 then "" else if n = 2 then "//" else "/"

/-- The normal form of a path. -/
def normal (s : String) : String :=
  let body := "/".intercalate (parts s)
  let r := rootOf s ++ body
  if r.isEmpty then "." else r

def parentOf (s : String) : String :=
  let ps := parts s
  let r := rootOf s ++ "/".intercalate ps.dropLast
  if ps.isEmpty then normal s else if r.isEmpty then "." else r

/-- The parts of a path with each `..` cancelling the part before it: at the root it is dropped,
and at the front of a relative path it stays. -/
def collapseParts (isRooted : Bool) (ps : List String) : List String :=
  ps.foldl (fun acc p =>
    if p == ".." then
      match acc.getLast? with
      | some q => if q == ".." then acc ++ [p] else acc.dropLast
      | none => if isRooted then [] else [p]
    else acc ++ [p]) []

def collapse (s : String) : String :=
  let root := rootOf s
  let r := root ++ "/".intercalate (collapseParts (!root.isEmpty) (parts s))
  if r.isEmpty then "." else r

/-- A path joined to another: the second alone if it starts with a separator, else both with
one separator between them, the empty path standing for `.`. -/
def join (a b : String) : String :=
  if b.startsWith "/" then normal b
  else
    let base := normal a
    normal (if base.endsWith "/" then base ++ b else base ++ "/" ++ b)

end RevenueOffice.PathText
