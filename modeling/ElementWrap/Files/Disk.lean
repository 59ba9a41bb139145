import ElementWrap.Fault
import ElementWrap.Files.Path

/-! # A disk of files and directories

A disk maps locations, which are lists of names from the root on, to files and directories. A path
is followed step by step from the root or the working directory: every step but the last has to lead
to a directory. Each operation fails with the reason that the operating system would give, and a
failed one changes nothing, except that the directories made on the way to a deeper one stay and
that a text without an encoding leaves its file empty. Directories are made from the deepest one on
upwards until one is found that is there, and too many missing ones are a failure.

A disk has room for everything, whoever asks may read and write all of it, and nothing on it is a
link. A name is the text that it is given as: surrogates that stand for bytes make a name of their
own even where the bytes are those of other characters.
-/

namespace ElementWrap.Files

/-- A place on a disk: the names from the root on. -/
abbrev Location := List String

/-- What is at a place. -/
inductive Node
  | directory
  | file (content : List UInt8)
  deriving DecidableEq

/-- The places in use, the root aside, and the working directory. -/
structure Disk where
  nodes : List (Location × Node)
  home : Location

namespace Disk

/-- What is at a place. The root is a directory. -/
def node? (disk : Disk) (location : Location) : Option Node :=
  if location = [] then some .directory else Ordered.get? location disk.nodes

/-- The content of the file at a place. -/
def file? (disk : Disk) (location : Location) : Option (List UInt8) :=
  match disk.node? location with
  | some (.file content) => some content
  | _ => none

/-- The disk after something was put at a place. -/
def put (disk : Disk) (location : Location) (node : Node) : Disk :=
  { disk with nodes := Ordered.put location node disk.nodes }

/-- The disk after a place was vacated. -/
def erase (disk : Disk) (location : Location) : Disk :=
  { disk with nodes := Ordered.erase location disk.nodes }

/-- The most bytes of a name, and of a path together with its end mark. -/
def nameLimit : Nat := 255

@[inherit_doc nameLimit]
def pathLimit : Nat := 4096

/-- Follows steps from a place; the place they lead to need not be in use. -/
def walk (disk : Disk) (start : Location) : List String → Except Refusal Location
  | [] => .ok start
  | step :: rest =>
    match disk.node? start with
    | none => .error .missing
    | some (.file _) => .error .notDirectory
    | some .directory =>
      if step = ".." then walk disk start.dropLast rest
      else if nameLimit < Text.Utf8.nameSize step then .error .nameTooLong
      else walk disk (start ++ [step]) rest

/-- The place that a path leads to. -/
def resolve (disk : Disk) (path : Path) : Except Refusal Location :=
  if pathLimit ≤ Text.Utf8.nameSize path.toString then .error .nameTooLong
  else disk.walk (if path.anchor = .relative then disk.home else []) path.steps

/-- The path from the root on, without double dots: each takes back the step before it. -/
def absolute (disk : Disk) (path : Path) : Path :=
  let joined := (Path.mk .root disk.home).join path
  let walked := joined.steps.foldl
    (fun steps step => if step = ".." then steps.dropLast else steps ++ [step]) []
  { joined with steps := walked }

/-- A surrogate that stands for no byte of a name. -/
def isStray (c : Char) : Bool := Text.isLone c && !Text.isRawByte c

/-- A path can not be handed to the operating system. -/
def isUnspeakable (path : Path) : Bool :=
  path.steps.any fun step => step.toList.any fun c => c == Char.ofNat 0 || isStray c

/-- Why a path can not be handed over: it has no encoding, or else it holds the character zero. -/
def unspeakable (path : Path) : Fault :=
  match Text.Utf8.refused? isStray path.toString with
  | some stretch => .unencodable stretch
  | none => .nullByte

/-- What the path leads to, if anything: a path that breaks off leads to nothing. -/
def look (disk : Disk) (path : Path) : Except Fault (Option Node) :=
  if isUnspeakable path then .ok none
  else
    match disk.resolve path with
    | .ok location => .ok (disk.node? location)
    | .error .missing => .ok none
    | .error .notDirectory => .ok none
    | .error refusal => .error (.refused refusal path.toString)

/-- The path leads to something. -/
def contains (disk : Disk) (path : Path) : Except Fault Bool := do
  return (← disk.look path).isSome

/-- The path leads to a directory. -/
def isDirectory (disk : Disk) (path : Path) : Except Fault Bool := do
  return (← disk.look path) = some .directory

/-- Follows a path for an operation that fails where the path breaks off. -/
def follow (disk : Disk) (path : Path) : Except Fault Location :=
  if isUnspeakable path then .error (unspeakable path)
  else
    match disk.resolve path with
    | .ok location => .ok location
    | .error refusal => .error (.refused refusal path.toString)

/-- The content of the file that a path leads to. -/
def readFile (disk : Disk) (path : Path) : Except Fault (List UInt8) := do
  match disk.node? (← disk.follow path) with
  | some (.file content) => return content
  | some .directory => throw (.refused .isDirectory path.toString)
  | none => throw (.refused .missing path.toString)

/-- Writes a file, in place of what it held. -/
def writeFile (disk : Disk) (path : Path) (content : List UInt8) : Except Fault Disk := do
  let location ← disk.follow path
  match disk.node? location with
  | some .directory => throw (.refused .isDirectory path.toString)
  | _ => return disk.put location (.file content)

/-- Opens a file for a text, in place of what it held, and writes the text. A text without an
encoding leaves the file empty. -/
def writeText (disk : Disk) (path : Path) (text : String) : Except Fault Unit × Disk :=
  match disk.writeFile path (Text.Utf8.encodeOrEmpty text) with
  | .error fault => (.error fault, disk)
  | .ok disk => (((Text.Utf8.encode? text).mapError Fault.unencodable).map fun _ => (), disk)

/-- Writes behind what a file holds; a missing file is created. -/
def appendFile (disk : Disk) (path : Path) (content : List UInt8) : Except Fault Disk := do
  let location ← disk.follow path
  match disk.node? location with
  | some .directory => throw (.refused .isDirectory path.toString)
  | some (.file before) => return disk.put location (.file (before ++ content))
  | none => return disk.put location (.file content)

/-- Removes a file, if it is there. -/
def removeFile (disk : Disk) (path : Path) : Except Fault Disk := do
  if isUnspeakable path then throw (unspeakable path)
  match disk.resolve path with
  | .error .missing => return disk
  | .error refusal => throw (.refused refusal path.toString)
  | .ok location =>
    match disk.node? location with
    | none => return disk
    | some .directory => throw (.refused .isDirectory path.toString)
    | some (.file _) => return disk.erase location

/-- Makes a directory at the end of a path. -/
def makeDirectory (disk : Disk) (path : Path) : Except Fault Disk := do
  let location ← disk.follow path
  match disk.node? location with
  | some _ => throw (.refused .alreadyThere path.toString)
  | none => return disk.put location .directory

/-- Accepts that a directory was not made because it is there. -/
def acceptDirectory (disk : Disk) (path : Path) (fault : Fault) : Except Fault Unit := do
  if !(← disk.isDirectory path) then throw fault

/-- Makes a directory unless it is there. -/
def ensureDirectory (disk : Disk) (path : Path) : Except Fault Unit × Disk :=
  match disk.makeDirectory path with
  | .ok disk => (.ok (), disk)
  | .error (.refused .missing name) => (.error (.refused .missing name), disk)
  | .error (.refused refusal name) => (disk.acceptDirectory path (.refused refusal name), disk)
  | .error fault => (.error fault, disk)

/-- Makes the directory at the end of a path in the place of the one before it, unless it is there,
and answers its place. -/
def ensureInside (disk : Disk) (place : Location) (path : Path) : Except Fault Location × Disk :=
  match disk.walk place [path.name] with
  | .error refusal => (.error (.refused refusal path.toString), disk)
  | .ok location =>
    match disk.node? location with
    | none => (.ok location, disk.put location .directory)
    | some .directory => (.ok location, disk)
    | some (.file _) => (.error (.refused .alreadyThere path.toString), disk)

/-- Makes a directory unless it is there, and the directories above it where they are missing, and
answers its place. At most `room` of them can be missing. -/
def ensureFrom : (room : Nat) → Disk → Path → Except Fault Location × Disk
  | 0, disk, _ => (.error .deepDirectories, disk)
  | room + 1, disk, path =>
    match disk.ensureDirectory path with
    | (.error (.refused .missing name), disk) =>
      if path.steps.isEmpty then (.error (.refused .missing name), disk)
      else
        match ensureFrom room disk path.parent with
        | (.error fault, disk) => (.error fault, disk)
        | (.ok place, disk) => disk.ensureInside place path
    | (.error fault, disk) => (.error fault, disk)
    | (.ok (), disk) => (disk.follow path, disk)

/-- Makes a directory and all that lead to it, unless they are there. Above the directory itself at
most `depth` can be missing. -/
def ensureDirectories (disk : Disk) (depth : Nat) (path : Path) : Except Fault Unit × Disk :=
  let (answer, disk) := ensureFrom (depth + 1) disk path
  (answer.map fun _ => (), disk)

/-- What has to be done to the first disk to make it the second: places to fill, in the order in
which they came into use, and places to vacate. -/
def edits (before after : Disk) : List (Location × Option Node) :=
  let filled := after.nodes.filter fun entry => decide (before.node? entry.1 ≠ some entry.2)
  let vacated := before.nodes.filter fun entry => decide (after.node? entry.1 = none)
  filled.map (fun entry => (entry.1, some entry.2)) ++ vacated.map fun entry => (entry.1, none)

end Disk

end ElementWrap.Files
