import TestDouble.TestError

/-!
# Why a configuration cannot be loaded

Most of what can go wrong is an error that the caller can handle. A file may also have a form that
nobody has provided for; loading it ends in a crash.
-/

namespace TestDouble

/-- Why a configuration cannot be loaded. -/
inductive LoadError where
  | refused (e : ConfigError)
  /-- Loading ended in a crash with a message. -/
  | crashed (message : String)
  deriving DecidableEq

namespace LoadError

/-- A file that cannot be read as what it should be. -/
def fileParse : LoadError := .refused .fileParse

/-- A case that nobody has provided for. -/
def unforeseen : LoadError := .crashed "internal error: entered unreachable code"

/-- A file of a kind that is not read here. -/
def unread : LoadError := .crashed "files of this kind are not read"

/-- The value that has been read from a file, or else the file is malformed. -/
def orFileParse {α : Type} : Option α → Except LoadError α
  | some x => .ok x
  | none => .error fileParse

end LoadError
end TestDouble
