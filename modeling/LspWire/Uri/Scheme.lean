/-! What the scheme of an address decides.
A scheme known by name takes backslashes for slashes and may imply an endpoint; `file` is known as
well, but does not need a host. Tabs and line ends are passed over wherever they stand. -/

namespace LspWire.Uri

inductive SchemeKind where
  | file
  | known
  | other
deriving DecidableEq

def schemeKind (scheme : String) : SchemeKind :=
  if scheme = "file" then .file
  else if scheme ∈ ["http", "https", "ws", "wss", "ftp"] then .known
  else .other

namespace SchemeKind

def isSpecial (kind : SchemeKind) : Bool := kind != .other

def isSlash (kind : SchemeKind) (c : Char) : Bool := c == '/' || (kind.isSpecial && c == '\\')

end SchemeKind

def defaultEndpoint (scheme : String) : Option Nat :=
  if scheme = "http" ∨ scheme = "ws" then some 80
  else if scheme = "https" ∨ scheme = "wss" then some 443
  else if scheme = "ftp" then some 21
  else none

def isIgnored (c : Char) : Bool := c == '\t' || c == '\n' || c == '\r'

def visible (s : List Char) : List Char := s.filter fun c => !isIgnored c

def behindSlash? (kind : SchemeKind) (s : List Char) : Option (List Char) :=
  match s.dropWhile isIgnored with
  | c :: rest => if kind.isSlash c then some rest else none
  | [] => none

def dropSlash (kind : SchemeKind) (s : List Char) : List Char := (behindSlash? kind s).getD s

end LspWire.Uri
