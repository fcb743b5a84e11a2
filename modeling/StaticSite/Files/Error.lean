/-
  INPUT ERRORS: why a file cannot be found, opened or read.

  The first group are refusals of the file system, with its number for them; the second are the
  ways in which streaming a file can fail.
-/

namespace StaticSite

/-- Why an operation on a file failed. -/
inductive IoError
  | notFound
  | noDevice
  | permissionDenied
  | notADirectory
  | isADirectory
  | nameTooLong
  | linkLoop
  | nulInName
  /-- The file is shorter than the range that is being sent. -/
  | unexpectedEnd
  /-- Bytes were asked of a producer that was not started. -/
  | notStarted
  /-- A multipart body without a part. -/
  | emptyPlan
  /-- A failure with a text of its own. -/
  | device (message : String)
deriving DecidableEq, Repr

/-- The wording of an error. -/
def IoError.message : IoError → String
  | .notFound => "No such file or directory (os error 2)"
  | .noDevice => "No such device or address (os error 6)"
  | .permissionDenied => "Permission denied (os error 13)"
  | .notADirectory => "Not a directory (os error 20)"
  | .isADirectory => "Is a directory (os error 21)"
  | .nameTooLong => "File name too long (os error 36)"
  | .linkLoop => "Too many levels of symbolic links (os error 40)"
  | .nulInName => "file name contained an unexpected NUL byte"
  | .unexpectedEnd => "file ended before the expected range was written"
  | .notStarted => "producer polled before start"
  | .emptyPlan => "multipart plan has no parts"
  | .device message => message

end StaticSite
