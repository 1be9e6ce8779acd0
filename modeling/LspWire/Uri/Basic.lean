import LspWire.Uri.Host

/-! Addresses in their parts, and their text.
Every part holds its text as it is written. A path is a list of segments, or, where no slash
follows the scheme, a plain text. -/

namespace LspWire

namespace Uri

structure Authority where
  /-- What stands before the `@` sign. -/
  credentials : Option String
  host : Option Host
  /-- The number behind the host and a colon. -/
  endpoint : Option Nat
deriving DecidableEq

inductive Path where
  | plain (text : String)
  | segments (list : List String)
deriving DecidableEq

def Authority.text (a : Authority) : String :=
  (match a.credentials with
    | some s => s ++ "@"
    | none => "") ++
  (match a.host with
    | some host => host.text
    | none => "") ++
  (match a.endpoint with
    | some n => ":" ++ toString n
    | none => "")

def Path.text : Path → String
  | plain text => text
  | segments list => String.join (list.map ("/" ++ ·))

def Path.looksLikeAuthority : Path → Bool
  | segments ("" :: _ :: _) => true
  | _ => false

end Uri

structure Uri where
  scheme : String
  authority : Option Uri.Authority
  path : Uri.Path
  query : Option String
  fragment : Option String
deriving DecidableEq

namespace Uri

/-- A path that looks like an authority is set off by a dot. -/
def text (u : Uri) : String :=
  u.scheme ++ ":" ++
  (match u.authority with
    | some a => "//" ++ a.text
    | none => if u.path.looksLikeAuthority then "/." else "") ++
  u.path.text ++
  (match u.query with
    | some s => "?" ++ s
    | none => "") ++
  (match u.fragment with
    | some s => "#" ++ s
    | none => "")

end Uri

end LspWire
