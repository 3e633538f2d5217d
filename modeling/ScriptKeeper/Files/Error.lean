/-!
# Failures of file operations

The reasons for which an operation on files can fail, with the wording and the number that
the operating system gives them.
-/

namespace ScriptKeeper

/-- Why an operation on files failed. -/
inductive FileError
  | notFound
  | notFolder
  | isFolder
  | alreadyExists
  | busy
  | nameTooLong
  | tooManyLinks
  /-- The content is no text in UTF-8. -/
  | notText
  /-- A path holds the character that ends texts in the operating system. -/
  | nulInPath
  /-- A reason that does not lie in the files, such as a full disk, in the words of the system. -/
  | system (message : String)
  deriving DecidableEq, Repr

/-- The failure in words. -/
def FileError.message : FileError → String
  | notFound => "No such file or directory (os error 2)"
  | notFolder => "Not a directory (os error 20)"
  | isFolder => "Is a directory (os error 21)"
  | alreadyExists => "File exists (os error 17)"
  | busy => "Device or resource busy (os error 16)"
  | nameTooLong => "File name too long (os error 36)"
  | tooManyLinks => "Too many levels of symbolic links (os error 40)"
  | notText => "stream did not contain valid UTF-8"
  | nulInPath => "file name contained an unexpected NUL byte"
  | system message => message

end ScriptKeeper
