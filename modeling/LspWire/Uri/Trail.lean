import LspWire.Uri.Percent
import LspWire.Uri.Scheme

/-! Paths read part by part.
A part of one dot goes, one of two dots takes the part before it along, but never a drive letter. A
drive letter at the front of a file's path is written with a colon. -/

namespace LspWire.Uri

def isDriveLetter : List Char → Bool
  | [letter, sign] => letter.isAlpha && (sign == ':' || sign == '|')
  | _ => false

/-- Whether a segment is one that two dots do not leave: a drive letter, also with a backslash and
anything else behind it. -/
def staysOnDrive (segment : List Char) : Bool :=
  isDriveLetter (segment.take 2) && (segment.drop 2).head?.all (· == '\\')

def dots (segment : String) : Option Nat :=
  let s := segment.toLower
  if s = "." ∨ s = "%2e" then some 1
  else if s = ".." ∨ s = ".%2e" ∨ s = "%2e." ∨ s = "%2e%2e" then some 2
  else none

structure Trail where
  /-- The segments, the last of them in front. -/
  latest : List String
  /-- Whether the first segment has been read as a drive letter. -/
  onDrive : Bool

namespace Trail

def start : Trail := ⟨[], false⟩

def segments (trail : Trail) : List String := trail.latest.reverse

def push (trail : Trail) (segment : String) : Trail :=
  { trail with latest := segment :: trail.latest }

@[simp] theorem segments_push (trail : Trail) (segment : String) :
    (trail.push segment).segments = trail.segments ++ [segment] := by
  simp [push, segments]

def shorten (trail : Trail) : Trail :=
  match trail.latest with
  | last :: before => if staysOnDrive last.toList then trail else { trail with latest := before }
  | [] => trail

/-- The letter and the rest of a part of a path where an ignored character stands between a drive
letter and the rest. -/
def splitDrive? (part : List Char) : Option (Char × List Char) :=
  match part.dropWhile isIgnored with
  | [] => none
  | letter :: rest =>
    match rest.dropWhile isIgnored with
    | ':' :: c :: rest =>
      if letter.isAlpha && isIgnored c && !(visible rest).isEmpty then some (letter, visible rest)
      else none
    | _ => none

def addPlain (trail : Trail) (part : List Char) (isLast : Bool) : Trail :=
  let segment := Percent.encode Percent.inPath part
  let ended (trail : Trail) : Trail := if isLast then trail.push "" else trail
  match dots segment with
  | some 1 => ended trail
  | some _ => ended trail.shorten
  | none => trail.push segment

/-- Adds a part of a path. At the front of a file's path a drive letter is written with a colon,
and what an ignored character sets off from it is a segment of its own. -/
def add (kind : SchemeKind) (trail : Trail) (part : List Char) (isLast : Bool) : Trail :=
  let letters := visible part
  if kind = .file ∧ trail.latest = [] then
    match splitDrive? part with
    | some (letter, rest) =>
      (trail.push (String.ofList [letter, ':'])).push (Percent.encode Percent.inPath rest)
    | none =>
      if isDriveLetter letters then ⟨[String.ofList (letters.take 1 ++ [':'])], true⟩
      else trail.addPlain letters isLast
  else trail.addPlain letters isLast

def addAll (kind : SchemeKind) (trail : Trail) : List (List Char) → Trail
  | [] => trail
  | [part] => trail.add kind part true
  | part :: rest => addAll kind (trail.add kind part false) rest

def read (kind : SchemeKind) (s : List Char) : Trail :=
  addAll kind start (s.splitOnP kind.isSlash)

end Trail

def fileSegments (segments : List String) : List String :=
  match segments.dropWhile (· == "") with
  | [] => [""]
  | rest => rest

end LspWire.Uri
