import GoldenSuite.Proofs.Files.Store

set_option autoImplicit false

namespace GoldenSuite

/-- A file system in which every path has its own contents. -/
class Contents (φ : Type) [FileSystem φ] where
  bytes? : φ → Path → Option ByteArray
  read_eq_ok_iff {files : φ} {path : Path} {text : String} :
    FileSystem.read files path = .ok text ↔ bytes? files path = some text.toUTF8
  bytes?_written {before after : φ} {path : Path} {data : ByteArray}
      (written : FileSystem.write before path data = (.ok (), after)) (other : Path) :
    bytes? after other =
      if other.components = path.components then some data else bytes? before other
  bytes?_refused {before after : φ} {path : Path} {data : ByteArray} {error : FileError}
      (refused : FileSystem.write before path data = (.error error, after)) (other : Path) :
    bytes? after other = bytes? before other
  bytes?_remove (files : φ) {path other : Path} (apart : other.components ≠ path.components) :
    bytes? (FileSystem.remove files path).2 other = bytes? files other

namespace Contents

variable {φ : Type} [FileSystem φ] [Contents φ]

theorem bytes?_write (files : φ) {path other : Path} (data : ByteArray)
    (apart : other.components ≠ path.components) :
    bytes? (FileSystem.write files path data).2 other = bytes? files other := by
  rcases attempted : FileSystem.write files path data with ⟨error | _, after⟩
  next => exact bytes?_refused attempted other
  next =>
    have written := bytes?_written attempted other
    rwa [if_neg apart] at written

end Contents

instance : Contents Store where
  bytes? := Store.find?
  read_eq_ok_iff := Store.read_eq_ok_iff
  bytes?_written written other := by
    obtain ⟨-, rfl⟩ := Store.write_eq_ok_iff.1 written
    exact Store.find?_insert _ _ _ _
  bytes?_refused refused other := by rw [Store.eq_of_refused refused]
  bytes?_remove files path other apart := by
    have change := Store.ChangesOnly.remove (List.mem_singleton_self path) files
    exact change.find?_eq other (by simpa using apart)

end GoldenSuite
