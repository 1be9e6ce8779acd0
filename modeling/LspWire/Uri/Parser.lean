import LspWire.Uri.Basic
import LspWire.Uri.Trail

/-! Addresses read from text, and brought to one form on the way.
Schemes and host names become small letters, an endpoint that the scheme implies goes, segments of
one or two dots are resolved, and characters that a part does not admit are written by number. A
scheme known by name takes backslashes for slashes and always has a host, but `file` may be without
one. -/

namespace LspWire.Uri

/-- What stands before the first `c`, and behind it if there is one. -/
def splitAt (c : Char) (s : List Char) : List Char × Option (List Char) :=
  match s.dropWhile (· != c) with
  | [] => (s, none)
  | _ :: behind => (s.takeWhile (· != c), some behind)

def splitCredentials (s : List Char) : Option (List Char × List Char) :=
  match s.reverse.dropWhile (· != '@') with
  | [] => none
  | _ :: before => some (before.reverse, (s.reverse.takeWhile (· != '@')).reverse)

/-- A name and a secret; an empty secret goes with its colon, and nothing at all is none. -/
def readCredentials (s : List Char) : Option String :=
  let (name, secret) := splitAt ':' s
  let secret := secret.getD []
  if name.isEmpty ∧ secret.isEmpty then none
  else some (Percent.encode Percent.inCredentials name ++
    (if secret.isEmpty then "" else ":" ++ Percent.encode Percent.inCredentials secret))

/-- The host and what follows it from a colon on; colons in brackets belong to the host. -/
def splitHost (inBrackets : Bool) : List Char → List Char × List Char
  | [] => ([], [])
  | c :: rest =>
    if c = ':' ∧ ¬ inBrackets then ([], c :: rest)
    else
      let (host, behind) := splitHost (c == '[' || (inBrackets && c != ']')) rest
      (c :: host, behind)

def readEndpoint (scheme : String) (digits : List Char) : Except Fault (Option Nat) :=
  if digits.isEmpty then .ok none
  else if !digits.all Char.isDigit ∨ 65535 < Text.number 10 digits then .error .invalidEndpoint
  else
    let n := Text.number 10 digits
    .ok (if defaultEndpoint scheme = some n then none else some n)

/-- Reads an authority that is not a file's; what stands behind a backslash in the endpoint is left
for the path. -/
def readAuthority (scheme : String) (kind : SchemeKind) (s : List Char) (isAll : Bool) :
    Except Fault (Authority × List Char) := do
  let (credentials, s) ← match splitCredentials s with
    | none => pure (none, s)
    | some ([], []) => if isAll then pure (none, []) else throw .emptyHost
    | some (before, behind) => pure (readCredentials before, behind)
  let (name, behind) := splitHost false s
  if name.isEmpty && (kind.isSpecial || !behind.isEmpty || credentials.isSome) then
    throw .emptyHost
  let host ← if name.isEmpty then pure none
    else if kind.isSpecial then some <$> Host.read name
    else some <$> Host.readPlain name
  let (digits, rest) := splitAt '\\' (behind.drop 1)
  let endpoint ← readEndpoint scheme digits
  return (⟨credentials, host, endpoint⟩, match rest with
    | some rest => '\\' :: rest
    | none => [])

def readHierarchy (scheme : String) (kind : SchemeKind) (s : List Char) (isAll : Bool) :
    Except Fault (Authority × Path) := do
  let inAuthority := fun c => !kind.isSlash c
  let path := s.dropWhile inAuthority
  let (authority, left) ← readAuthority scheme kind (s.takeWhile inAuthority)
    (isAll && path.isEmpty)
  let path := left ++ path
  if path.isEmpty ∧ ¬ kind.isSpecial then return (authority, .segments [])
  else return (authority, .segments (Trail.read kind (dropSlash kind path)).segments)

/-- The parts of a file's address. A drive letter takes the place of a host. -/
def fileParts (host : Option Host) (trail : Trail) : Option Authority × Path :=
  (some ⟨none, if trail.onDrive then none else host, none⟩,
    .segments (fileSegments trail.segments))

def readFileHost (s : List Char) : Except Fault (Option Authority × Path) := do
  let inHost := fun c => !SchemeKind.file.isSlash c
  let name := visible (s.takeWhile inHost)
  let path := s.dropWhile inHost
  if name.isEmpty ∨ isDriveLetter name then return fileParts none (.read .file s)
  let host ← Host.read name
  if host = .name "localhost" then return fileParts none (.read .file path)
  return fileParts (some host) (.read .file (dropSlash .file path))

def readFile (s : List Char) : Except Fault (Option Authority × Path) :=
  match (behindSlash? .file s).bind (behindSlash? .file) with
  | some rest => readFileHost rest
  | none => .ok (fileParts none (.read .file (dropSlash .file s)))

def readOther (scheme : String) (kind : SchemeKind) (s : List Char) (isAll : Bool) :
    Except Fault (Option Authority × Path) :=
  match kind.isSpecial, s with
  | true, s => do
    let (authority, path) ← readHierarchy scheme kind (s.dropWhile kind.isSlash) isAll
    return (some authority, path)
  | false, '/' :: '/' :: rest => do
    let (authority, path) ← readHierarchy scheme kind rest isAll
    return (some authority, path)
  | false, '/' :: rest => .ok (none, .segments (Trail.read kind rest).segments)
  | false, s => .ok (none, .plain (Percent.encode (fun _ => false) s))

/-- Reads what stands between the scheme and the query; `isAll` tells that nothing follows. -/
def readBody (scheme : String) (s : List Char) (isAll : Bool) :
    Except Fault (Option Authority × Path) :=
  match schemeKind scheme with
  | .file => readFile s
  | kind => readOther scheme kind (visible s) isAll

def isSchemeChar (c : Char) : Bool := c.isAlphanum || c == '+' || c == '-' || c == '.'

def readScheme (s : List Char) : Except Fault (String × List Char) :=
  let (before, behind) := splitAt ':' s
  match visible before, behind with
  | first :: letters, some rest =>
    if first.isAlpha && letters.all isSchemeChar then
      .ok (String.ofList ((first :: letters).map Char.toLower), rest)
    else .error .relative
  | _, _ => .error .relative

def trimmed (s : String) : List Char :=
  let outer := fun (c : Char) => decide (c ≤ ' ')
  ((s.toList.dropWhile outer).reverse.dropWhile outer).reverse

def parse (s : String) : Except Fault Uri := do
  let (scheme, rest) ← readScheme (trimmed s)
  let (rest, fragment) := splitAt '#' rest
  let (body, query) := splitAt '?' rest
  let (authority, path) ← readBody scheme body (query.isNone && fragment.isNone)
  let inQuery := if (schemeKind scheme).isSpecial then Percent.inSpecialQuery else Percent.inQuery
  return { scheme, authority, path
           query := query.map fun s => Percent.encode inQuery (visible s)
           fragment := fragment.map fun s => Percent.encode Percent.inFragment (visible s) }

end LspWire.Uri
