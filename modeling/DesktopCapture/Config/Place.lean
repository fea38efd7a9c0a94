/-!
# Where a file is kept

A place is what stands at the path of a file: the file itself or room for it, or
something that stands in the way.  Opening and writing say what went wrong in the
words of the operating system.
-/

namespace DesktopCapture

/-- Why the operating system refuses a path. -/
inductive SystemError
  | noSuchFile
  | notADirectory
  | isADirectory
  | nameTooLong
  | nulInName
deriving DecidableEq

/-- The words of the operating system. -/
def SystemError.message : SystemError → String
  | .noSuchFile => "No such file or directory (os error 2)"
  | .notADirectory => "Not a directory (os error 20)"
  | .isADirectory => "Is a directory (os error 21)"
  | .nameTooLong => "File name too long (os error 36)"
  | .nulInName => "file name contained an unexpected NUL byte"

/-- What stands at a path. -/
inductive Place
  /-- A file with its content. -/
  | file (content : List UInt8)
  /-- Nothing, in a directory that takes new files. -/
  | vacant
  /-- A directory. -/
  | directory
  /-- Nothing, and the directory it would be in is missing too. -/
  | parentMissing
  /-- Nothing, and a file stands where its directory would be. -/
  | parentIsFile
  /-- Nothing: the name holds a NUL character. -/
  | nulInName
  /-- Nothing: the name is too long. -/
  | nameTooLong
deriving DecidableEq

/-- What opening a path for reading gives. -/
inductive Opened
  | file (content : List UInt8)
  | directory
deriving DecidableEq

/-- The content of what was opened. -/
def Opened.read : Opened → Except SystemError (List UInt8)
  | .file content => .ok content
  | .directory => .error .isADirectory

namespace Place

/-- Why nothing can be kept at a path, if so. -/
def obstacle? : Place → Option SystemError
  | .file _ | .vacant => none
  | .directory => some .isADirectory
  | .parentMissing => some .noSuchFile
  | .parentIsFile => some .notADirectory
  | .nulInName => some .nulInName
  | .nameTooLong => some .nameTooLong

/-- Open a path for reading.  Directories can be opened. -/
def opened : Place → Except SystemError Opened
  | .file content => .ok (.file content)
  | .directory => .ok .directory
  | .vacant => .error .noSuchFile
  | .parentMissing => .error .noSuchFile
  | .parentIsFile => .error .notADirectory
  | .nulInName => .error .nulInName
  | .nameTooLong => .error .nameTooLong

/-- Put a content at a path in place of any there was. -/
def write (place : Place) (content : List UInt8) : Except SystemError Place :=
  match place.obstacle? with
  | none => .ok (.file content)
  | some error => .error error

/-- The content of the file at a path. -/
def content? : Place → Option (List UInt8)
  | .file content => some content
  | _ => none

end Place
end DesktopCapture
