import GoldenSuite.Files.Error
import GoldenSuite.Files.Glob
import GoldenSuite.Path

set_option autoImplicit false

namespace GoldenSuite

class FileSystem (φ : Type) where
  read : φ → Path → Except FileError String
  write : φ → Path → ByteArray → Except FileError Unit × φ
  remove : φ → Path → Except FileError Unit × φ
  holds : φ → Path → Bool
  list : φ → Path → Glob → Except FileError (List Path)

def Path.nameMatches (path : Path) (glob : Glob) : Bool :=
  path.fileName?.any glob.isMatch

end GoldenSuite
