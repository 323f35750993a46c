import AgentProbe.Files.Disk
import AgentProbe.Files.Digest
import AgentProbe.Syntax.Tree

set_option autoImplicit false

/-!
Source files: a path, the text that was read, its digest and its syntax tree.
-/

namespace AgentProbe

open Syntax (SyntaxTree)

structure SourceFile where
  path : Path
  text : Text
  digest : String
  tree : SyntaxTree
deriving Inhabited

inductive SourceError where
  /-- The bytes are not text. -/
  | notUtf8 (path : Path) (fault : Utf8.Fault)
  /-- The file cannot be read. -/
  | unreadable (fault : FileFault)
deriving DecidableEq, Repr, Inhabited

def SourceError.message : SourceError → String
  | .notUtf8 path fault => "Source is not valid UTF-8: " ++ path.text ++ ": " ++ fault.message
  | .unreadable fault => "IO error: " ++ fault.message

namespace SourceFile

def ofText (path : Path) (text : Text) : SourceFile :=
  { path, text, digest := Digest.ofBytes (Utf8.encode text), tree := SyntaxTree.parse text }

def ofBytes (path : Path) (bytes : Bytes) : Except SourceError SourceFile :=
  match Utf8.decode bytes with
  | .ok text => .ok (ofText path text)
  | .error fault => .error (.notUtf8 path fault)

def load (disk : Disk) (path : Path) : Except SourceError SourceFile :=
  match disk.read path with
  | .ok bytes => ofBytes path bytes
  | .error fault => .error (.unreadable fault)

def rebuild (file : SourceFile) (text : Text) : SourceFile :=
  ofText file.path text

end SourceFile

end AgentProbe
