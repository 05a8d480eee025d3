import LSystemExplorer.Catalog.Load

/-!
# A directory of files

What a program finds on a disk, as a value: the files of one directory without
directories inside.  Paths are walked step by step from there.  A path can lead out
of the directory, but nothing is known of what is there, except that the directories
above can be walked through and that files can be made in them.
-/

set_option autoImplicit false

namespace LSystemExplorer

/-- The files of a directory, by their names. -/
structure Directory where
  files : List (String × ByteArray)

/-- Where a path leads. -/
inductive Place
  /-- To a directory: this one or one above it. -/
  | directory
  /-- To a name in the directory; there need not be a file. -/
  | inside (name : String)
  | outside (name : String)
  deriving Repr, DecidableEq

namespace Directory

/-- There is a file of that name. -/
def has (directory : Directory) (name : String) : Bool :=
  (directory.files.lookup name).isSome

/-- The longest name, in octets. -/
def longestName : Nat := 255

/-- The longest path, in octets. -/
def longestPath : Nat := 4095

/-- The path asks for a directory by its form. -/
def asksForDirectory (path : String) : Bool :=
  path.endsWith "/"

/-- The place to which the steps of a path lead; `above` tells whether they have led
out of the directory. -/
def walk (directory : Directory) (above : Bool) : List String → Except FileFault Place
  | [] => .ok .directory
  | "." :: steps => directory.walk above steps
  | ".." :: steps => directory.walk true steps
  | [name] => .ok (if above then .outside name else .inside name)
  | name :: _ =>
    if longestName < name.utf8ByteSize then .error .nameTooLong
    else if !above && directory.has name then .error .notDirectory
    else .error .notFound

/-- The place to which a path leads. -/
def resolve (directory : Directory) (path : String) : Except FileFault Place :=
  if path.toList.contains '\x00' then .error .zeroInName
  else if path.isEmpty then .error .notFound
  else if longestPath < path.utf8ByteSize then .error .nameTooLong
  else directory.walk (path.startsWith "/") ((path.splitOn "/").filter (· ≠ ""))

/-- The contents of the file that a path leads to, or why it cannot be read. -/
def read (directory : Directory) (path : String) : Except FileFault ByteArray :=
  match directory.resolve path with
  | .error fault => .error fault
  | .ok .directory => .error .isDirectory
  | .ok (.outside name) =>
    .error (if longestName < name.utf8ByteSize then .nameTooLong else .notFound)
  | .ok (.inside name) =>
    if longestName < name.utf8ByteSize then .error .nameTooLong
    else
      match directory.files.lookup name with
      | some content => if asksForDirectory path then .error .notDirectory else .ok content
      | none => .error .notFound

/-- Write a file, which takes the place of one of the same name.  Files outside of the
directory are not remembered. -/
def write (directory : Directory) (path : String) (content : ByteArray) :
    Except FileFault Directory :=
  match directory.resolve path with
  | .error fault => .error fault
  | .ok .directory => .error .isDirectory
  | .ok (.outside name) =>
    if asksForDirectory path then .error .isDirectory
    else if longestName < name.utf8ByteSize then .error .nameTooLong
    else .ok directory
  | .ok (.inside name) =>
    if asksForDirectory path then .error .isDirectory
    else if longestName < name.utf8ByteSize then .error .nameTooLong
    else .ok ⟨(name, content) :: directory.files.filter fun file => file.1 ≠ name⟩

end Directory

end LSystemExplorer
