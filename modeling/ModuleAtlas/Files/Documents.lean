import ModuleAtlas.Failure
import ModuleAtlas.Files.Basic

/-!
# Documents in files

Reading and writing whole files, with the path that failed.  Writing makes the
directory of the file first.
-/

namespace ModuleAtlas.Documents

variable {m : Type → Type} [Monad m] [MonadFiles m]

/-- Read the text of a file. -/
def read (path : String) : ExceptT Failure m String := do
  match ← MonadFiles.readText path with
  | some text => return text
  | none => throw (.fileSystem path)

/-- Make the directory that is to hold a file. -/
def ensureParent (path : String) : ExceptT Failure m Unit := do
  let directory := Path.parent path
  if directory ≠ "" then
    if !(← MonadFiles.makeDirectories directory) then
      throw (.fileSystem directory)

/-- Write a text to a file. -/
def write (path text : String) : ExceptT Failure m Unit := do
  ensureParent path
  if !(← MonadFiles.writeText path text) then throw (.fileSystem path)

end ModuleAtlas.Documents
