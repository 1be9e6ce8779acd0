import LspWire.Fixture.Glob
import LspWire.Fixture.Name
import LspWire.Registry.Types
import LspWire.Text.Quoted
import LspWire.Text.Utf8

/-! Where fixtures come from.
A source lists the fixtures it has, with what it passed over, and reads one. Both lists of a
listing are in ascending order. -/

namespace LspWire

open Text (Octets)

structure Fixture where
  id : String
  name : FixtureName
deriving DecidableEq

inductive ReadFault where
  | notFound
  | notDirectory
  | isDirectory
  | nameTooLong
  | unexpectedNul
deriving DecidableEq

def ReadFault.text : ReadFault → String
  | .notFound => "No such file or directory (os error 2)"
  | .notDirectory => "Not a directory (os error 20)"
  | .isDirectory => "Is a directory (os error 21)"
  | .nameTooLong => "File name too long (os error 36)"
  | .unexpectedNul => "file name contained an unexpected NUL byte"

inductive FixtureError where
  | missingDirectory (path : String)
  | unreadable (path : String) (fault : ReadFault)
  | invalidPattern (pattern : String) (fault : Glob.Fault)
  | walkFailed (message : String)
  | notFound (id : String)
deriving DecidableEq

namespace FixtureError

def kind : FixtureError → String
  | missingDirectory _ => "MissingDirectory"
  | unreadable .. => "Io"
  | invalidPattern .. => "InvalidPattern"
  | walkFailed _ => "Walk"
  | notFound _ => "NotFound"

/-- What lies behind the error, if that has a message of its own. -/
def cause? : FixtureError → Option String
  | unreadable _ fault => some fault.text
  | invalidPattern _ fault => some fault.message
  | _ => none

def message : FixtureError → String
  | missingDirectory path => "Fixture directory not found: " ++ Text.quoted path
  | unreadable path fault =>
    "Failed to read fixture " ++ Text.quoted path ++ ": " ++ fault.text
  | invalidPattern pattern fault =>
    "Invalid fixture pattern " ++ Text.quoted pattern ++ ": " ++ fault.message
  | walkFailed message => "Fixture walk failed: " ++ message
  | notFound id => "Unknown fixture: " ++ id

end FixtureError

structure Listing where
  fixtures : List Fixture
  skipped : List String

namespace Listing

def empty : Listing := ⟨[], []⟩

/-- Adds a file by its name: a fixture if the name is one's. -/
def add (listing : Listing) (id fileName : String) : Listing :=
  match FixtureName.parse? fileName with
  | some name => { listing with fixtures := listing.fixtures ++ [⟨id, name⟩] }
  | none => { listing with skipped := listing.skipped ++ [id] }

/-- Both lists in order; fixtures of one id keep theirs. -/
def sorted (listing : Listing) : Listing :=
  ⟨listing.fixtures.mergeSort fun a b => decide (a.id ≤ b.id),
    listing.skipped.mergeSort fun a b => decide (a ≤ b)⟩

end Listing

structure FixtureSource where
  describe : String
  list : Except FixtureError Listing
  read : Fixture → Attempt (Except FixtureError Octets)

abbrev MemoryFiles := NameTable Octets

namespace MemoryFiles

def list (files : MemoryFiles) : Listing :=
  (files.names.foldl (fun (listing : Listing) name => listing.add name name) .empty).sorted

def read (files : MemoryFiles) (fixture : Fixture) : Except FixtureError Octets :=
  match files.get? fixture.id with
  | some content => .ok content
  | none => .error (.notFound fixture.id)

def source (files : MemoryFiles) : FixtureSource where
  describe := "<memory: " ++ toString files.size ++ " files>"
  list := .ok (list files)
  read fixture := .finished (read files fixture)

end MemoryFiles

end LspWire
