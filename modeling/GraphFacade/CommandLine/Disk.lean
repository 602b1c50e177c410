import GraphFacade.CommandLine.PathText
import GraphFacade.Document.Loading

/-!
# Disks

What is found at the paths of a host, and the folders that were made since.
Paths are followed segment by segment: a folder must be there before a segment
below it or a double dot behind it means anything.
-/

namespace GraphFacade

/-- What is found at a path of a host. -/
inductive FileEntry
  | file (content : FileContent)
  /-- Something that takes text and is no file. -/
  | device
  | folder
  deriving Inhabited

/-- The paths of a host. -/
structure Disk where
  /-- What was found at an absolute path without dots. -/
  look : String -> Option FileEntry
  /-- Folders that were made since, in order. -/
  made : List String := []

/-- Where following a path ends. -/
inductive Site
  | found (path : String) (entry : FileEntry)
  /-- Nothing is there, but the folder above is. -/
  | free (path : String)
  /-- A folder on the way is missing. -/
  | lost
  /-- Something on the way is no folder. -/
  | blocked
  /-- A name on the way is too long. -/
  | overlong

namespace Disk

def nameLimit : Nat := 255

def pathLimit : Nat := 4095

/-- The most folders that are made for one path. -/
def foldersLimit : Nat := 980

def checkLength (path : String) : Except Fault Unit :=
  if pathLimit < path.utf8ByteSize then .error (.blocked .longName) else .ok ()

def entry (disk : Disk) (path : String) : Option FileEntry :=
  if disk.made.contains path then some .folder else disk.look path

/-- Follow segments below a folder, which is given by its own segments, the nearest first. -/
def follow (disk : Disk) : List String -> List String -> Site
  | above, [] => .found (PathText.absolute above.reverse) .folder
  | above, segment :: rest =>
      if segment == ".." then
        disk.follow (above.drop 1) rest
      else if nameLimit < segment.utf8ByteSize then
        .overlong
      else
        let here := segment :: above
        let path := PathText.absolute here.reverse
        match disk.entry path with
        | some .folder => disk.follow here rest
        | some entry => if rest.isEmpty then .found path entry else .blocked
        | none => if rest.isEmpty then .free path else .lost

/--
Make the missing folders on a way that goes on from a folder, which is given by its
own segments, the nearest first.  Once a folder was missing each further one is
asked for by itself, so that a file in its place is no longer one on the way.
-/
def makeFrom (asked : Bool) : List String -> Disk -> List String -> Except Fault Disk
  | _, disk, [] => .ok disk
  | above, disk, segment :: rest =>
      if segment == ".." then
        makeFrom asked (above.drop 1) disk rest
      else if nameLimit < segment.utf8ByteSize then
        .error (.blocked .longName)
      else
        let here := segment :: above
        let path := PathText.absolute here.reverse
        match disk.entry path with
        | some .folder => makeFrom asked here disk rest
        | some _ =>
            .error (.blocked (if asked || rest.isEmpty then .fileAsFolder else .fileAboveFolder))
        | none => makeFrom true here { disk with made := disk.made ++ [path] } rest

def makeFolders (disk : Disk) (segments : List String) : Except Fault Disk := do
  let disk <- makeFrom false [] disk segments
  if foldersLimit < disk.made.length then .error .tooManyFolders else .ok disk

/-- The path of the file that writing to some segments makes or replaces. -/
def target (disk : Disk) (segments : List String) : Except Fault String :=
  match disk.follow [] segments with
  | .found _ .folder => .error (.blocked .folderAsFile)
  | .found path _ | .free path => .ok path
  | .lost | .blocked => .error (.blocked .fileAboveFolder)
  | .overlong => .error (.blocked .longName)

end Disk

end GraphFacade
