import P2pService.Model.Peerstore

/-!
# The peerstore file

A file system is a map from paths to contents. How far a save gets is chosen from outside, since a
write can fail half way and a rename can fail as well.
-/

namespace P2pService
open Library

/-- The name of a file is bytes, and need not be text. -/
abbrev OsString := List UInt8

def osString (text : String) : OsString := text.toUTF8.data.toList

/-- A path, by its parent and the name of its file. A path such as `..` has no file name. -/
structure Path where
  parent : List OsString
  fileName : Option OsString
  deriving DecidableEq, Repr

namespace Path

def dot : UInt8 := '.'.toUInt8

/-- What comes before the last dot of a file name, unless nothing does. -/
def fileStem (fileName : OsString) : OsString :=
  match fileName.reverse.dropWhile (· ≠ dot) with
  | [] | [_] => fileName
  | _ :: before => before.reverse

/-- The path up to the last dot of its file name is taken first, and then given the extension. Of
`..x` that is `..`, which has no file name, so it stays as it is. -/
def withExtension (path : Path) (extension : OsString) : Path :=
  { path with fileName := path.fileName.bind fun name =>
      if fileStem name = [dot] then none else some (fileStem name ++ dot :: extension) }

end Path

abbrev FileSystem := HashMap Path ByteArray

/-- `serde_json` for the peerstore. -/
class JsonCodec where
  toJson : PeerStore → Option String
  fromJson : String → Option PeerStore

inductive SaveFate where
  | notCreated
  | partlyWritten (length : Nat)
  | notRenamed
  | renamed
  deriving DecidableEq, Repr

namespace PeerStore

variable [JsonCodec]

def load (files : FileSystem) (path : Path) : PeerStore :=
  match (files.get path).bind String.fromUTF8? with
  | some contents => (JsonCodec.fromJson contents).getD default
  | none => default

def save (store : PeerStore) (files : FileSystem) (path : Path) (fate : SaveFate) :
    Bool × FileSystem :=
  let tmpPath := path.withExtension (osString "json.tmp")
  match JsonCodec.toJson store with
  | none => (false, files)
  | some contents =>
      match tmpPath.fileName, fate with
      -- a directory cannot be written to
      | none, _ | some _, .notCreated => (false, files)
      | some _, .partlyWritten length =>
          (false, files.insert tmpPath (contents.toUTF8.extract 0 length))
      | some _, .notRenamed => (false, files.insert tmpPath contents.toUTF8)
      | some _, .renamed => (true, (files.remove tmpPath).insert path contents.toUTF8)

/-- A save changes nothing, or puts something into the temporary file, or renames it. -/
theorem save_cases (store : PeerStore) (files : FileSystem) (path : Path) (fate : SaveFate) :
    store.save files path fate = (false, files) ∨
    (∃ part, store.save files path fate =
      (false, files.insert (path.withExtension (osString "json.tmp")) part)) ∨
    ∃ text, JsonCodec.toJson store = some text ∧ store.save files path fate =
      (true, (files.remove (path.withExtension (osString "json.tmp"))).insert path text.toUTF8) := by
  unfold save
  cases written : JsonCodec.toJson store with
  | none => exact .inl rfl
  | some text =>
      dsimp only
      split
      · exact .inl rfl
      · exact .inl rfl
      · exact .inr (.inl ⟨_, rfl⟩)
      · exact .inr (.inl ⟨_, rfl⟩)
      · exact .inr (.inr ⟨text, rfl, rfl⟩)

omit [JsonCodec] in
theorem fromUTF8?_toUTF8 (text : String) : String.fromUTF8? text.toUTF8 = some text :=
  dif_pos text.isValidUTF8

theorem load_of_text {files : FileSystem} {path : Path} {text : String} {store : PeerStore}
    (written : files.get path = some text.toUTF8) (readBack : JsonCodec.fromJson text = some store) :
    load files path = store := by
  rw [load, written, Option.bind_some, fromUTF8?_toUTF8]
  exact congrArg (Option.getD · default) readBack

theorem load_save {store : PeerStore} {files : FileSystem} {path : Path} {fate : SaveFate}
    (readBack : ∀ text, JsonCodec.toJson store = some text → JsonCodec.fromJson text = some store)
    (done : (store.save files path fate).1) : load (store.save files path fate).2 path = store := by
  rcases store.save_cases files path fate with same | ⟨part, same⟩ | ⟨text, written, same⟩
  · simp [same] at done
  · simp [same] at done
  · rw [same]
    exact load_of_text (HashMap.get_insert_self _ _ _) (readBack text written)

end PeerStore
end P2pService
