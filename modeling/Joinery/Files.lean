import Joinery.Failure
import Joinery.Text.Surrogate

/-!
# Files

The texts of files by their places, as a program finds them when it starts. A path has one form
without empty parts and without parts that lead nowhere, and leads from folder to folder to a place;
what stands in its way is found on the way. Every line of a text ends in one kind of line break.
-/
namespace Joinery

namespace Files

/-- Where a path starts: in the folder so many steps above the working folder, or at the root. -/
inductive PathStart where
  | above (steps : Nat)
  | root
  deriving DecidableEq

/-- Where something is: the folders that lead down to it, and its name last. -/
structure Place where
  start : PathStart
  parts : List String
  deriving DecidableEq

namespace Place

/-- The folder that something is in; the root is in itself. -/
def parent (p : Place) : Place :=
  match p.parts, p.start with
  | [], .above steps => ⟨.above (steps + 1), []⟩
  | [], .root => p
  | _ :: _, _ => { p with parts := p.parts.dropLast }

/-- The place that a part of a path leads to. -/
def child (p : Place) (part : String) : Place :=
  if part = ".." then p.parent else { p with parts := p.parts ++ [part] }

end Place

end Files

/-- What is found at a place. -/
inductive Found where
  | nothing
  | folder
  | text (content : String)

structure Files where
  at? : Files.Place → Found

namespace Files

/-! ### Paths -/

/-- The parts of a text between slashes. -/
def splitAtSlashes : List Char → List (List Char)
  | [] => [[]]
  | c :: rest =>
    if c = '/' then [] :: splitAtSlashes rest
    else
      match splitAtSlashes rest with
      | part :: parts => (c :: part) :: parts
      | [] => [[c]]

/-- The parts of a path. -/
def partsOf (path : String) : List String :=
  ((splitAtSlashes path.toList).map String.ofList).filter fun part => part ≠ "" && part ≠ "."

/-- How a path starts: two slashes alone are kept, others count as one. -/
def rootOf (path : String) : String :=
  match path.toList with
  | '/' :: '/' :: '/' :: _ => "/"
  | '/' :: '/' :: _ => "//"
  | '/' :: _ => "/"
  | _ => ""

/-- The one form of a path. -/
def pathForm (path : String) : String :=
  let parts := partsOf path
  if parts.isEmpty && rootOf path = "" then "." else rootOf path ++ "/".intercalate parts

/-- Where a path starts. -/
def startOf (path : String) : Place := ⟨if rootOf path = "" then .above 0 else .root, []⟩

/-- Where a path leads, whatever is there. -/
def placeOf (path : String) : Place := (partsOf path).foldl Place.child (startOf path)

/-- How many bytes the name of a file has at most. -/
def nameLimit : Nat := 255

/-- How many bytes a path has less than. -/
def pathLimit : Nat := 4096

/-- Follows the parts of a path from a place on. -/
def follow (files : Files) : Place → List String → Except Obstacle Place
  | place, [] => .ok place
  | place, part :: rest =>
    match files.at? place with
    | .nothing => .error .missing
    | .text _ => .error .notFolder
    | .folder =>
      if nameLimit < part.utf8ByteSize then .error .nameTooLong
      else follow files (place.child part) rest

/-- The place that a path leads to. -/
def locate (files : Files) (path : String) : Except Obstacle Place :=
  if pathLimit ≤ path.utf8ByteSize then .error .nameTooLong
  else files.follow (startOf path) (partsOf path)

/-- Why a path behind some characters leads nowhere: halves of pairs that stand for no bytes. -/
def unpaired? : Nat → List Char → Option Misuse
  | _, [] => none
  | before, c :: rest =>
    if Text.isHalf c && !Text.isByteOfPath c then
      some (.unpairedInPath (Text.codeOf c) before (1 + (rest.takeWhile Text.isHalf).length))
    else unpaired? (before + 1) rest

/-- Why a text is no path, if it is none. -/
def flawOf? (path : String) : Option Misuse :=
  match unpaired? 0 path.toList with
  | some cause => some cause
  | none => if '\x00' ∈ path.toList then some .nullInPath else none

/-- Checks that a text is a path. -/
def checkPath (path : String) : Except Failure Unit :=
  match flawOf? path with
  | some cause => .error (.misuse cause)
  | none => .ok ()

/-! ### Contents -/

/-- A text whose lines all end in a line feed. -/
def withLineFeeds : List Char → List Char
  | '\r' :: '\n' :: rest => '\n' :: withLineFeeds rest
  | '\r' :: rest => '\n' :: withLineFeeds rest
  | c :: rest => c :: withLineFeeds rest
  | [] => []

/-- The files of a list of paths with texts, and the folders that hold them. -/
def ofList (entries : List (String × String)) : Files where
  at? place :=
    let placed := entries.map fun entry => (placeOf entry.1, entry.2)
    match placed.lookup place with
    | some content => .text content
    | none =>
      let isAbove (other : Place) := other.start = place.start && place.parts.isPrefixOf other.parts
      if place.parts.isEmpty || placed.any fun entry => isAbove entry.1 then .folder else .nothing

/-- The files in a world with some more folders. -/
def withFolders (files : Files) (folders : List Place) : Files where
  at? place := if folders.contains place then .folder else files.at? place

/-- Whether something is at a path that settings are looked for at. A path that leads through
something else than folders leads to nothing. -/
def isThere (files : Files) (path : String) : Except Failure Bool :=
  if (flawOf? path).isSome then .ok false
  else
    match files.locate path with
    | .error .nameTooLong => .error (.file ⟨.nameTooLong, Text.quoted (pathForm path)⟩)
    | .error _ => .ok false
    | .ok place =>
      match files.at? place with
      | .nothing => .ok false
      | _ => .ok true

/-- The text of the file at a path. -/
def read (files : Files) (path : String) : Except Failure String := do
  checkPath (pathForm path)
  let found : Except Obstacle String := do
    match files.at? (← files.locate path) with
    | .text content => return content
    | .folder => throw .folder
    | .nothing => throw .missing
  match found with
  | .ok content => return String.ofList (withLineFeeds content.toList)
  | .error obstacle => throw (.file ⟨obstacle, Text.quoted (pathForm path)⟩)

/-- The files with an empty file where a path leads, whose folder has to be there. -/
def clear (files : Files) (path : String) : Except Failure Files := do
  checkPath path
  let place := placeOf path
  let found : Except Obstacle Place := do
    let found ← files.follow ⟨place.start, []⟩ place.parts
    match files.at? found with
    | .folder => throw .folder
    | _ => return found
  match found with
  | .ok place => return ⟨fun other => if other = place then .text "" else files.at? other⟩
  | .error obstacle => throw (.file ⟨obstacle, Text.quoted path⟩)

end Files

end Joinery
