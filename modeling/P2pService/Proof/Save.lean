import P2pService.World.Peerstore
import Mathlib.Data.List.TakeWhile

/-!
# Saving the peerstore

The new contents are written beside the old and renamed over them, so a save that stops half way
leaves the old ones. It rests on the two names being different.
-/

namespace P2pService
open Library

namespace Path

theorem fileStem_eq_or (fileName : OsString) : fileStem fileName = fileName ∨
    ∃ separator last, fileName = fileStem fileName ++ separator :: last ∧ dot ∉ last := by
  have parts := congrArg List.reverse
    (List.takeWhile_append_dropWhile (p := (· ≠ dot)) (l := fileName.reverse))
  rw [List.reverse_append, List.reverse_reverse] at parts
  unfold fileStem
  split
  · exact .inl rfl
  · exact .inl rfl
  · rename_i separator before _ split
    rw [split, List.reverse_cons, List.append_assoc, List.singleton_append] at parts
    refine .inr ⟨separator, _, parts.symm, fun dotted => ?_⟩
    have clear := List.mem_takeWhile_imp (List.mem_reverse.mp dotted)
    exact of_decide_eq_true clear rfl

theorem withExtension_ne {path : Path} (named : path.fileName.isSome) {extension : OsString}
    (dotted : dot ∈ extension) : path.withExtension extension ≠ path := by
  obtain ⟨fileName, there⟩ := Option.isSome_iff_exists.mp named
  intro same
  have mapped := congrArg Path.fileName same
  rw [withExtension, there, Option.bind_some] at mapped
  split_ifs at mapped
  have names : fileStem fileName ++ dot :: extension = fileName := Option.some.inj mapped
  rcases fileStem_eq_or fileName with whole | ⟨separator, last, parts, clear⟩
  · rw [whole] at names
    exact List.cons_ne_nil dot extension (List.append_right_eq_self.mp names)
  · have rest := List.append_cancel_left (names.trans parts)
    exact clear ((List.cons.inj rest).2 ▸ dotted)

end Path

namespace PeerStore

variable [JsonCodec]

theorem load_congr {files other : FileSystem} {path : Path}
    (same : files.get path = other.get path) : load files path = load other path := by
  rw [load, load, same]

/-- A save reaches no path but its two, and reaches the target by the rename alone. -/
theorem get_save (store : PeerStore) (files : FileSystem) (path : Path) (fate : SaveFate)
    {other : Path} (away : other ≠ path.withExtension (osString "json.tmp")) :
    (store.save files path fate).2.get other = files.get other ∨
      other = path ∧ ∃ text, JsonCodec.toJson store = some text ∧
        (store.save files path fate).2.get other = some text.toUTF8 := by
  rcases store.save_cases files path fate with same | ⟨part, same⟩ | ⟨text, written, same⟩
  · exact .inl (by rw [same])
  · rw [same]
    exact .inl ((HashMap.get_insert _ _ _ _).trans (if_neg away))
  · rw [same]
    by_cases target : other = path
    · subst target
      exact .inr ⟨rfl, text, written, HashMap.get_insert_self _ _ _⟩
    · refine .inl ?_
      simp only [HashMap.get_insert, if_neg target, HashMap.get_remove, if_neg away]

/-- What a save that returns or stops with `saved` has done to the files. -/
structure AtomicSave (store : PeerStore) (files : FileSystem) (path : Path)
    (saved : Bool × FileSystem) : Prop where
  apart : path.withExtension (osString "json.tmp") ≠ path
  oldOrNew : load saved.2 path = load files path ∨ load saved.2 path = store
  returned : saved.1 = true → load saved.2 path = store
  elsewhere : ∀ other, other ≠ path → other ≠ path.withExtension (osString "json.tmp") →
    saved.2.get other = files.get other

theorem save_atomic {path : Path} (named : path.fileName.isSome) {store : PeerStore}
    (readBack : ∀ text, JsonCodec.toJson store = some text → JsonCodec.fromJson text = some store)
    (files : FileSystem) (fate : SaveFate) :
    AtomicSave store files path (store.save files path fate) := by
  have apart : path.withExtension (osString "json.tmp") ≠ path :=
    Path.withExtension_ne named (by decide)
  refine ⟨apart, ?_, fun done => ?_, fun other target away => ?_⟩
  · rcases store.get_save files path fate apart.symm with kept | ⟨_, text, written, saved⟩
    · exact .inl (load_congr kept)
    · exact .inr (load_of_text saved (readBack text written))
  · exact load_save readBack done
  · rcases store.get_save files path fate away with kept | ⟨same, _⟩
    · exact kept
    · exact absurd same target

end PeerStore

namespace Sample

def staleFiles : FileSystem :=
  ((∅ : FileSystem).insert (peerstoreFile.withExtension (osString "json.tmp"))
    (knownAliceText.toUTF8.extract 0 7)).insert peerstoreFile ⟨#[0xff]⟩

end Sample

section

open Sample

theorem save_atomic_over_stale : PeerStore.load
    (knownAlice.save staleFiles peerstoreFile .renamed).2 peerstoreFile = knownAlice := by
  have written : JsonCodec.toJson knownAlice = some knownAliceText := if_pos rfl
  have readBack (text : String) (same : JsonCodec.toJson knownAlice = some text) :
      JsonCodec.fromJson text = some knownAlice :=
    if_pos (Option.some.inj (same.symm.trans written))
  exact (PeerStore.save_atomic (by decide) readBack staleFiles .renamed).returned
    (knownAlice_saved staleFiles)

end

end P2pService
