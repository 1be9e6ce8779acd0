import LspWire.Fixture.Source

/-! Fixtures in a directory.
The tree under the directory is a value, and so are the directories above it. A listing passes over
entries whose name starts with a dot, looks into subdirectories only when asked to, and names each
file by its path from the directory, with backslashes turned into slashes. A fixture is read at that
name, which may lead out of the directory. -/

namespace LspWire

open Text (Octets)

inductive FileTree where
  | file (content : Octets)
  | directory (entries : List (String × FileTree))

namespace FileTree

def empty : FileTree := .directory []

def hidden (name : String) : Bool := name.toList.head? == some '.'

mutual

/-- The paths of the files that an entry stands for; a directory has any only in a deep listing. -/
def paths (deep : Bool) : FileTree → List (List String)
  | .file _ => [[]]
  | .directory entries => if deep then pathsIn deep entries else []

/-- The paths of the files among entries, each from the directory that holds them. -/
def pathsIn (deep : Bool) : List (String × FileTree) → List (List String)
  | [] => []
  | (name, entry) :: rest =>
    (if hidden name then [] else (entry.paths deep).map (name :: ·)) ++ pathsIn deep rest

end

def child? (name : String) : List (String × FileTree) → Option FileTree
  | [] => none
  | (other, entry) :: rest => if other = name then some entry else child? name rest

def enter (name : String) (entry : FileTree) : List (String × FileTree) → List (String × FileTree)
  | [] => [(name, entry)]
  | (other, held) :: rest =>
    if other = name then (name, entry) :: rest else (other, held) :: enter name entry rest

def put (entry : FileTree) : List String → FileTree → FileTree
  | [], _ => entry
  | part :: parts, .directory entries =>
    .directory (enter part (put entry parts ((child? part entries).getD empty)) entries)
  | part :: parts, .file _ => .directory [(part, put entry parts empty)]

def parts (path : String) : List String := (path.toList.splitOn '/').map String.ofList

def content : FileTree → Except ReadFault Octets
  | .file content => .ok content
  | .directory _ => .error .isDirectory

end FileTree

def isAbsolute (path : String) : Bool := path.toList.head? == some '/'

/-- An entry where it stands: with the directories above it, the nearest first. -/
structure Place where
  entry : FileTree
  above : List FileTree

namespace Place

def top (tree : FileTree) : Place := ⟨tree, []⟩

def topmost (place : Place) : Place := top (place.above.getLastD place.entry)

def up (place : Place) : Place :=
  match place.above with
  | [] => place
  | parent :: above => ⟨parent, above⟩

def maxName : Nat := 255

/-- Follows one part of a path. An empty part or a single dot stays, and two dots go up. -/
def step (place : Place) (part : String) : Except ReadFault Place :=
  match place.entry with
  | .file _ => .error .notDirectory
  | .directory entries =>
    if part = "" ∨ part = "." then .ok place
    else if part = ".." then .ok place.up
    else if maxName < part.utf8ByteSize then .error .nameTooLong
    else match FileTree.child? part entries with
      | some entry => .ok ⟨entry, place.entry :: place.above⟩
      | none => .error .notFound

def follow (place : Place) (path : String) : Except ReadFault Place :=
  (FileTree.parts path).foldlM step (if isAbsolute path then place.topmost else place)

end Place

/-- A path taken from another; one that starts with a slash stands for itself. -/
def joinPath (root path : String) : String :=
  if isAbsolute path then path
  else if root = "" ∨ root.toList.getLast? = some '/' then root ++ path
  else root ++ "/" ++ path

def pathLimit : Nat := 4096

/-- Why a path cannot lead anywhere, whatever stands there. -/
def pathFault? (path : String) : Option ReadFault :=
  if path.toList.contains '\x00' then some .unexpectedNul
  else if pathLimit ≤ path.utf8ByteSize then some .nameTooLong
  else none

/-- A directory to take fixtures from: its path, what stands there, and which files count. -/
structure FixtureDirectory where
  root : String
  place : Option Place
  recursive : Bool
  patterns : List String

namespace FixtureDirectory

def id (path : List String) : String :=
  String.ofList (("/".intercalate path).toList.map fun c => if c = '\\' then '/' else c)

def compiled (directory : FixtureDirectory) : Except FixtureError (List (List Glob.Token)) :=
  directory.patterns.mapM fun pattern =>
    (Glob.parse pattern).mapError (.invalidPattern pattern)

def add (patterns : List (List Glob.Token)) (listing : Listing) (path : List String) : Listing :=
  let fileName := path.getLastD ""
  if patterns.any fun pattern => Glob.fits pattern fileName.toList then
    listing.add (id path) fileName
  else { listing with skipped := listing.skipped ++ [id path] }

def list (directory : FixtureDirectory) : Except FixtureError Listing := do
  let patterns ← directory.compiled
  match pathFault? directory.root, directory.place.map Place.entry with
  | none, some (.directory entries) =>
    return ((FileTree.pathsIn directory.recursive entries).foldl (add patterns) .empty).sorted
  | _, _ => throw (.missingDirectory directory.root)

def read (directory : FixtureDirectory) (fixture : Fixture) : Except FixtureError Octets :=
  let path := joinPath directory.root fixture.id
  let found : Except ReadFault Octets := match pathFault? path, directory.place with
    | some fault, _ => .error fault
    | none, some place => do (← place.follow fixture.id).entry.content
    | none, none => .error .notFound
  found.mapError (.unreadable path)

def source (directory : FixtureDirectory) : FixtureSource where
  describe := directory.root
  list := directory.list
  read fixture := .finished (directory.read fixture)

end FixtureDirectory

end LspWire
