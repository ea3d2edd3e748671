import Frontmark.Text.Utf8

/-! A folder of files, as values.

A path is a list of steps from the folder on, with steps up in front if it leaves the folder. What lies outside
of the folder is not known, and taken to be empty. -/

set_option autoImplicit false

namespace Frontmark

/-- Why a file cannot be used. -/
inductive FileError where
  | notFound
  | notFolder
  | isFolder
  | nameTooLong
  | notText
  | other (reason : String)
  deriving DecidableEq, Repr

def FileError.message : FileError → String
  | notFound => "No such file or directory (os error 2)"
  | notFolder => "Not a directory (os error 20)"
  | isFolder => "Is a directory (os error 21)"
  | nameTooLong => "File name too long (os error 36)"
  | notText => "stream did not contain valid UTF-8"
  | other reason => reason

/-- What reading files gives, by their paths. -/
abbrev FileReader := String → Except FileError (List UInt8)

/-- The files of a folder by their paths. Every folder on the way to a file is there. -/
structure Folder where
  files : List (List String × List UInt8) := []
  deriving DecidableEq, Repr

namespace Folder

/-- The steps of a path. A step to an empty name leads nowhere else. -/
def steps (path : String) : List String :=
  (path.toList.splitOn '/').map String.ofList

/-- Where a path leads to. -/
inductive Place where
  | file (path : List String)
  | folder
  /-- Nothing is there, but a file can be put there. -/
  | free (path : List String)
  /-- The path ends in a slash as one of a folder does, and no folder is there. -/
  | noFolder (cause : FileError)
  | nowhere (cause : FileError)
  deriving DecidableEq, Repr

def content? (f : Folder) (path : List String) : Option (List UInt8) :=
  f.files.lookup path

/-- Whether a path is one of this folder or of one that it is in. -/
def isAbove (path : List String) : Bool :=
  path.all (· = "..")

def hasFolder (f : Folder) (path : List String) : Bool :=
  isAbove path || f.files.any fun (name, _) => path.length < name.length && path.isPrefixOf name

/-- Where a path leads whose next step cannot be made, if more steps follow. -/
def blocked (cause : FileError) (steps : List String) : Place :=
  if steps.all (· = "") then .noFolder cause else .nowhere cause

/-- Where a step to something that is no folder leads. -/
def endAt (f : Folder) (path steps : List String) : Place :=
  let isFile := (f.content? path).isSome
  if steps.isEmpty then if isFile then .file path else .free path
  else blocked (if isFile then .notFolder else .notFound) steps

/-- How many bytes a name can have. -/
def longestName : Nat := 255

/-- How many bytes a path can have. -/
def longestPath : Nat := 4095

def isLongerThan (most : Nat) (name : String) : Bool :=
  most < Text.Utf8.size name.toList

/-- Follow steps from a folder. -/
def follow (f : Folder) : (folder steps : List String) → Place
  | _, [] => .folder
  | folder, step :: steps =>
    if step = "" || step = "." then follow f folder steps
    else if step = ".." then follow f (if isAbove folder then folder ++ [step] else folder.dropLast) steps
    else if isLongerThan longestName step then
      if steps.isEmpty then .nowhere .nameTooLong else blocked .nameTooLong steps
    else
      let path := folder ++ [step]
      if f.hasFolder path then follow f path steps else f.endAt path steps

def place (f : Folder) (path : String) : Place :=
  if isLongerThan longestPath path then .nowhere .nameTooLong
  else match steps path with
  | [""] => .nowhere .notFound
  | "" :: steps => if steps.all (· = "") then .folder else .nowhere .notFound
  | steps => f.follow [] steps

def read (f : Folder) : FileReader := fun path =>
  match f.place path with
  | .file path => .ok ((f.content? path).getD [])
  | .folder => .error .isFolder
  | .free _ => .error .notFound
  | .noFolder cause | .nowhere cause => .error cause

def put (f : Folder) (path : List String) (content : List UInt8) : Folder :=
  ⟨(path, content) :: f.files.filter (·.1 ≠ path)⟩

def write (f : Folder) (path : String) (content : List UInt8) : Except FileError Folder :=
  match f.place path with
  | .file path | .free path => .ok (f.put path content)
  | .folder | .noFolder _ => .error .isFolder
  | .nowhere cause => .error cause

/-- A folder of files that have to be there. -/
def ofFiles (files : List (String × List UInt8)) : Folder :=
  files.foldl (fun f (path, content) => f.put ((steps path).filter (· ≠ "")) content) {}

end Folder

end Frontmark
