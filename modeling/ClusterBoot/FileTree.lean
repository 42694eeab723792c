/-
  ClusterBoot.FileTree
  ────────────────────────────────
  **FILES AND DIRECTORIES.**

  A file tree says what is at each location.  A location is reached by
  following the components of a path one after the other: a point stays, two
  points go up, and a name must be that of a directory unless it is the last.
  The working directory is the empty location; the directories above it and
  the root of absolute paths always exist.

  Reading tells a missing file from one that cannot be read.  Writing keeps
  the mode that a file had; a new file is a plain one.

  There are no permissions, and no disk is ever full.  So a file cannot be
  written only where its path leads nowhere or to a directory, it is never
  written in part, and a file that is there can always be removed again.
-/
import ClusterBoot.Path

namespace ClusterBoot

/-! ## §1. Trees. -/

/-- A place in a file tree: names from the working directory downwards.  A
location above it begins with pairs of points, one that belongs to an
absolute path with a slash. -/
abbrev Location := List String

/-- What can be at a location. -/
inductive FileEntry where
  /-- A directory. -/
  | directory
  /-- A file: its content, and whether its owner may run it. -/
  | file (content : ByteArray) (executable : Bool)

/-- Whether two entries are the same: two directories, or two files of the
same bytes and mode. -/
def FileEntry.same : FileEntry → FileEntry → Bool
  | directory, directory => true
  | file a x, file b y => a.data == b.data && x == y
  | _, _ => false

/-- Two entries are the same exactly when they are equal. -/
theorem FileEntry.same_iff (a b : FileEntry) : a.same b = true ↔ a = b := by
  cases a with
  | directory => cases b <;> simp [FileEntry.same]
  | file c x =>
      cases b with
      | directory => simp [FileEntry.same]
      | file d y =>
          obtain ⟨c⟩ := c
          obtain ⟨d⟩ := d
          simp [FileEntry.same]

instance : DecidableEq FileEntry := fun a b =>
  decidable_of_iff (a.same b = true) (FileEntry.same_iff a b)

/-- The files and directories below the working directory. -/
structure FileTree where
  /-- What is at each location; a location occurs once. -/
  entries : List (Location × FileEntry)
  deriving DecidableEq

namespace FileTree

/-- The tree without files. -/
def empty : FileTree := ⟨[]⟩

/-- The working directory, those above it, and the root always exist. -/
def isGiven (l : Location) : Bool :=
  l.all (· = "..") || l = ["/"]

/-- What is at a location. -/
def get? (t : FileTree) (l : Location) : Option FileEntry :=
  if isGiven l then some .directory else t.entries.lookup l

/-- The tree with something at a location. -/
def put (t : FileTree) (l : Location) (e : FileEntry) : FileTree :=
  ⟨(l, e) :: t.entries.filter fun d => d.1 ≠ l⟩

/-- The tree without a location and all that is below it. -/
def erase (t : FileTree) (l : Location) : FileTree :=
  ⟨t.entries.filter fun d => !l.isPrefixOf d.1⟩

/-! ## §2. Following paths. -/

/-- Why a path leads nowhere. -/
inductive Obstacle where
  /-- There is nothing. -/
  | missing
  /-- What is there is not what is needed. -/
  | refused
  deriving Repr, DecidableEq

/-- How many bytes a name may have. -/
def maxNameSize : Nat := 255

/-- How many bytes a path must stay below. -/
def maxPathSize : Nat := 4096

/-- Whether a text cannot be a path at all. -/
def isUnusable (path : String) : Bool :=
  path.toList.contains '\x00' || maxPathSize ≤ path.utf8ByteSize

/-- The location above another. -/
def up (l : Location) : Location :=
  if l = ["/"] then l
  else if l.all (· = "..") then l ++ [".."]
  else l.dropLast

/-- The location and the pieces that a path starts from. -/
def startOf (path : String) : Location × List String :=
  (if Path.isAbsolute path then ["/"] else [], Text.pieces '/' path)

/-- Follow the pieces of a path from a location.  The last piece may be the
name of a file, or of nothing yet. -/
def follow (t : FileTree) (l : Location) : List String → Except Obstacle Location
  | [] => .ok l
  | p :: ps =>
      if p = "" ∨ p = "." then t.follow l ps
      else if p = ".." then t.follow (up l) ps
      else if maxNameSize < p.utf8ByteSize then .error .refused
      else
        match t.get? (l ++ [p]) with
        | some .directory => t.follow (l ++ [p]) ps
        | some (.file _ _) => if ps = [] then .ok (l ++ [p]) else .error .refused
        | none => if ps = [] then .ok (l ++ [p]) else .error .missing

/-- The location that a path leads to. -/
def locate (t : FileTree) (path : String) : Except Obstacle Location :=
  if isUnusable path then .error .refused
  else if path = "" then .error .missing
  else t.follow (startOf path).1 (startOf path).2

/-! ## §3. Reading and writing. -/

/-- The content of a file. -/
def read (t : FileTree) (path : String) : Except Obstacle ByteArray :=
  match t.locate path with
  | .ok l =>
      match t.get? l with
      | some (.file content _) => .ok content
      | some .directory => .error .refused
      | none => .error .missing
  | .error e => .error e

/-- The tree after a file was written, if it can be. -/
def write? (t : FileTree) (path : String) (content : ByteArray) : Option FileTree :=
  match t.locate path with
  | .ok l =>
      match t.get? l with
      | some .directory => none
      | some (.file _ executable) => some (t.put l (.file content executable))
      | none => some (t.put l (.file content false))
  | .error _ => none

/-- The tree after a file was made executable, if there is one. -/
def makeExecutable? (t : FileTree) (path : String) : Option FileTree :=
  match t.locate path with
  | .ok l =>
      match t.get? l with
      | some (.file content _) => some (t.put l (.file content true))
      | _ => none
  | .error _ => none

/-- The tree after a file was removed, if there is one. -/
def removeFile? (t : FileTree) (path : String) : Option FileTree :=
  match t.locate path with
  | .ok l =>
      match t.get? l with
      | some (.file _ _) => some (t.erase l)
      | _ => none
  | .error _ => none

/-- The tree after the file at `source` took the place of what is at
`target`, which must not be a directory. -/
def rename? (t : FileTree) (source target : String) : Option FileTree :=
  match t.locate source, t.locate target with
  | .ok s, .ok l =>
      match t.get? s, t.get? l with
      | some (.file _ _), some .directory => none
      | some (.file content executable), _ =>
          if s = l then some t else some ((t.erase s).put l (.file content executable))
      | _, _ => none
  | _, _ => none

/-! ## §4. Directories. -/

/-- Make the directories that the pieces of a path name from a location.
Whether this succeeded, and the tree after it: what was made before an
obstacle stays. -/
def makeDirsFrom (t : FileTree) (l : Location) : List String → Bool × FileTree
  | [] => (true, t)
  | p :: ps =>
      if p = "" ∨ p = "." then t.makeDirsFrom l ps
      else if p = ".." then t.makeDirsFrom (up l) ps
      else if maxNameSize < p.utf8ByteSize then (false, t)
      else
        match t.get? (l ++ [p]) with
        | some .directory => t.makeDirsFrom (l ++ [p]) ps
        | some (.file _ _) => (false, t)
        | none => (t.put (l ++ [p]) .directory).makeDirsFrom (l ++ [p]) ps

/-- Make a directory and those above it that are missing. -/
def makeDirs (t : FileTree) (path : String) : Bool × FileTree :=
  if isUnusable path then (false, t)
  else t.makeDirsFrom (startOf path).1 (startOf path).2

end FileTree

end ClusterBoot
