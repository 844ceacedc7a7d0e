import ClassEnhancement.Proofs.Settings.Loading

/-!
# Files after a save that fails

However a save fails, it fails before anything is written to a file.  Settings that cannot be read
leave all as it is; after that only directories can have been added on the way to the file.
-/

namespace ClassEnhancement
namespace SettingsStore

variable {store : SettingsStore} {tree after : FileTree} {state : EnhancementState}
  {error : SettingsError}

/-- What a save that fails leaves, beside its error. -/
structure Spares (store : SettingsStore) (tree after : FileTree) (error : SettingsError) :
    Prop where
  /-- Every file has the contents that it had, and there is no other file. -/
  files : ∀ location content, after.lookup? location = some (.file content) ↔
    tree.lookup? location = some (.file content)
  /-- Links are kept as well, and whatever is new is a directory. -/
  entries : tree.AddsDirectories after
  /-- The settings file reads as it did. -/
  settings : ∀ content, after.read store.path = .ok content ↔ tree.read store.path = .ok content
  /-- Unless the file could not be written, reading the document fails in the same way, and nothing
  at all is changed. -/
  misread : (∀ cause, error ≠ .unwritable store.path cause) →
    store.readDocument tree = .error error ∧ after = tree

theorem Fails.readDocument_eq (fails : store.Fails tree after error)
    (unwritten : ∀ cause, error ≠ .unwritable store.path cause) :
    store.readDocument tree = .error error := by
  cases fails with
  | misread misreads => exact readDocument_eq_error_iff.mpr misreads
  | unprepared | unopened => exact absurd rfl (unwritten _)

theorem load_of_readDocument (unread : store.readDocument tree = .error error) :
    store.load tree = .error error := by
  rw [load, unread]

/-- A save fails if the document cannot be read, the directories above the file cannot be created, or
the file can be neither opened nor created.  In the first case it fails as reading and loading do and
leaves the tree alone; in every case it spares all files. -/
theorem spares_of_save (store : SettingsStore) (tree : FileTree) (state : EnhancementState) :
    (∀ after error, store.save tree state = (after, .error error) ↔
      store.Fails tree after error) ∧
    (∀ error, store.readDocument tree = .error error →
      store.load tree = .error error ∧ store.save tree state = (tree, .error error)) ∧
    ∀ after error, store.save tree state = (after, .error error) →
      store.Spares tree after error := by
  refine ⟨fun _ _ => save_eq_error_iff, fun error unread => ⟨load_of_readDocument unread, ?_⟩,
    fun after error failed => ?_⟩
  · exact save_eq_error_iff.mpr (.misread (readDocument_eq_error_iff.mp unread))
  · have fails := save_eq_error_iff.mp failed
    exact
      { files := fun _ _ => fails.addsDirectories.lookup_iff nofun
        entries := fails.addsDirectories
        settings := read_of_failed failed
        misread := fun unwritten =>
          ⟨fails.readDocument_eq unwritten, eq_of_failed failed unwritten⟩ }

/-- Settings that are no document. -/
def proseFiles : FileTree :=
  (FileTree.empty ["work"]).put ["work", "s.json"] (.file (Utf8.encode "not json"))

/-- A store that has to create a directory on the way to its file. -/
def detouringStore : SettingsStore := ⟨⟨"/work/new/../s.json"⟩⟩

/-- Files with a directory in the place of the settings. -/
def occupiedFiles : FileTree :=
  ((FileTree.empty ["work"]).put ["work", "s.json"] .directory).put ["work", "notes"] (.file [7])

/-- Settings that are no document stay as they are; and where a directory stands in the place of the
settings, another one is left behind, but the file beside it is kept. -/
theorem spares_of_save_occupied :
    sharedStore.save proseFiles ⟨true⟩ = (proseFiles, .error (.invalid ⟨"/work/s.json"⟩)) ∧
      ∃ after error, detouringStore.save occupiedFiles ⟨true⟩ = (after, .error error) ∧
        after.lookup? ["work", "new"] = some .directory ∧
        after.lookup? ["work", "notes"] = some (.file [7]) := by
  have unread : sharedStore.readDocument proseFiles = .error (.invalid ⟨"/work/s.json"⟩) := rfl
  have failed : detouringStore.save occupiedFiles ⟨true⟩ =
      (occupiedFiles.put ["work", "new"] .directory,
        .error (.unwritable ⟨"/work/new/../s.json"⟩ (.system .isDirectory))) := rfl
  have spares := (spares_of_save detouringStore occupiedFiles ⟨true⟩).2.2 _ _ failed
  refine ⟨((spares_of_save sharedStore proseFiles ⟨true⟩).2.1 _ unread).2, _, _, failed, rfl, ?_⟩
  exact (spares.files _ _).mpr rfl

end SettingsStore
end ClassEnhancement
