import WalletDashboard.Url.Percent

/-!
# Paths of URLs

A path is a list of segments, each behind a slash (`UrlPath.rooted`), or a text of which nothing is
known (`UrlPath.loose`). In a path with segments one dot stays at its place, and two dots go back by
a segment (`Trail.push`), but not over the letter of a drive. At the beginning of the path of a file
such a letter is written with a colon.
-/

namespace WalletDashboard

/-- The path of a URL. -/
inductive UrlPath
  /-- Any text. -/
  | loose (text : String)
  /-- Segments, as they are written, each behind a slash. -/
  | rooted (segments : List String)
  deriving DecidableEq, Repr, Inhabited

/-- How a path is written. -/
def UrlPath.text : UrlPath → String
  | loose text => text
  | rooted segments => String.join (segments.map ("/" ++ ·))

namespace UrlPath

/-- What a segment of a path does. -/
inductive Segment
  | stay
  | back
  | enter (name : List Char)
  deriving DecidableEq, Repr, Inhabited

namespace Segment

/-- A segment with its dots written as dots. -/
def plainDots : List Char → List Char
  | '%' :: '2' :: 'e' :: rest => '.' :: plainDots rest
  | '%' :: '2' :: 'E' :: rest => '.' :: plainDots rest
  | c :: rest => c :: plainDots rest
  | [] => []

/-- What the segment does that is written so. -/
def read (text : List Char) : Segment :=
  match plainDots text with
  | ['.'] => stay
  | ['.', '.'] => back
  | _ => enter text

/-- The letter of a drive. -/
def isDrive : List Char → Bool
  | [letter, sign] => letter.isAlpha && (sign == ':' || sign == '|')
  | _ => false

/-- A segment that begins with the letter of a drive. -/
def beginsWithDrive (name : List Char) : Bool :=
  isDrive (name.take 2) && (name.length == 2 || name[2]? == some '\\')

end Segment

/-- The segments of a path on the way through it. -/
structure Trail where
  /-- The segments so far, last first. -/
  names : List (List Char) := []
  /-- Whether the path of a file has come to a drive. -/
  hasDrive : Bool := false
  deriving DecidableEq, Repr, Inhabited

namespace Trail

/-- Goes back by a segment, but not over a drive. -/
def back (t : Trail) : Trail :=
  match t.names with
  | [] => t
  | name :: rest => if Segment.beginsWithDrive name then t else { t with names := rest }

/-- Goes on by a segment. -/
def enter (isFile : Bool) (name : List Char) (t : Trail) : Trail :=
  if isFile && t.names.isEmpty && Segment.isDrive name then
    { names := [name.take 1 ++ [':']], hasDrive := true }
  else { t with names := name :: t.names }

/-- Follows a segment. Dots at the end of the path leave an empty segment there. -/
def push (isFile : Bool) (text : List Char) (isLast : Bool) (t : Trail) : Trail :=
  match Segment.read text with
  | .stay => if isLast then t.enter isFile [] else t
  | .back => if isLast then t.back.enter isFile [] else t.back
  | .enter name => t.enter isFile name

/-- Follows all segments. -/
def pushAll (isFile : Bool) : List (List Char) → Trail → Trail
  | [], t => t
  | text :: rest, t => pushAll isFile rest (t.push isFile text rest.isEmpty)

/-- The path to which a trail has come. -/
def path (t : Trail) : UrlPath := .rooted (t.names.reverse.map (Percent.encode .path))

/-- The path of a file to which a trail has come, without empty segments at the beginning. -/
def filePath (t : Trail) : UrlPath :=
  match t.names.reverse.dropWhile List.isEmpty with
  | [] => .rooted [""]
  | names => .rooted (names.map (Percent.encode .path))

end Trail

end UrlPath

end WalletDashboard
