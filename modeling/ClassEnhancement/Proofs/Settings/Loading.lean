import ClassEnhancement.Proofs.FileTree.Canonical
import ClassEnhancement.Proofs.FileTree.Overwrite
import ClassEnhancement.Proofs.Settings.Saving

/-!
# Loading after saving

A state that was saved is loaded, whatever numbers the rest of the document holds.  A save that
fails may leave directories behind, but the file reads as before: what it says of the switch is the
same, although it may no longer be possible to read it.
-/

namespace ClassEnhancement
namespace SettingsStore

open JsonValue

variable {store : SettingsStore} {tree after : FileTree} {state : EnhancementState}
  {members : List (String × JsonValue)} {document : Option (List (String × JsonValue))}

/-! ## A save that succeeds -/

theorem writable_of_parseMembers? {text : String} (read : parseMembers? text = some members) :
    Writable nestingLimit (object members) := by
  rw [parseMembers?] at read
  split at read
  · next parsed =>
      cases read
      exact writable_of_parse? parsed
  · cases read

/-- A document that was read can be written, and so can the empty one where there is none. -/
theorem writable_of_readDocument (readable : store.readDocument tree = .ok document) :
    Writable nestingLimit (object (document.getD [])) := by
  rw [readDocument] at readable
  split at readable
  · cases readable
    exact ⟨.nil, by simp⟩
  · cases readable
  · split at readable
    · next parsed =>
        cases readable
        exact writable_of_parseMembers? parsed
    · cases readable

theorem writable_withState (writable : Writable nestingLimit (object members))
    (state : EnhancementState) : Writable nestingLimit (object (withState state members)) := by
  obtain ⟨increasing, members_writable⟩ := writable
  refine ⟨increasing_putMember increasing, fun member listed => ?_⟩
  rcases mem_putMember listed with rfl | old
  · exact ⟨List.pairwise_singleton _ _, fun member listed => by
      obtain rfl := List.mem_singleton.mp listed
      trivial⟩
  · exact members_writable member old

/-- A state that was saved is loaded, also beside doubles. -/
theorem loads_saved (saved : store.save tree state = (after, .ok ())) :
    store.load after = .ok (some state) := by
  cases readable : store.readDocument tree with
  | error error => simp [save, readable] at saved
  | ok document =>
      have writable := writable_withState (writable_of_readDocument readable) state
      exact load_withState (readDocument_of_written writable (read_of_save readable saved))

/-! ## A save that fails -/

/-- A path below directories that could not be created leads nowhere. -/
theorem locate_ne_ok_of_prepare {cause : FileError} {location : Location}
    (failed : store.prepare tree = (after, .error cause)) :
    after.locate store.path ≠ .ok location := by
  intro located
  rw [prepare] at failed
  split at failed
  · next parent above =>
      have some_text : parent.text ≠ "" := by
        intro empty
        rw [FileTree.createDirectories, FileTree.createDirectoriesWithin, if_pos empty] at failed
        cases failed
      have there := FileTree.directory_of_parent? above some_text
        (FileTree.locate_eq_ok_iff.mp located)
      have missing := FileTree.isDirectory_of_createDirectories failed
      exact Bool.eq_false_iff.mp missing (FileTree.isDirectory_iff.mpr there)
  · cases failed

theorem denotesFile_of_read {path : FilePath} {content : Bytes}
    (held : tree.read path = .ok content) : ∃ location, tree.DenotesFile path location := by
  obtain ⟨location, located, found⟩ := FileTree.read_eq_ok_iff.mp held
  exact ⟨location, located, content, found⟩

/-- How the settings file can be there and hold no document. -/
inductive Misreads (store : SettingsStore) (tree : FileTree) : SettingsError → Prop
  /-- It is no text, or cannot be read at all. -/
  | unreadable {cause : FileError} (unread : tree.readText store.path = .error cause)
      (present : cause ≠ .system .notFound) : Misreads store tree (.unreadable store.path cause)
  /-- The text is no object. -/
  | invalid {text : String} (held : tree.readText store.path = .ok text)
      (foreign : ∀ members, parse? text ≠ some (object members)) :
      Misreads store tree (.invalid store.path)

theorem readDocument_eq_error_iff {error : SettingsError} :
    store.readDocument tree = .error error ↔ store.Misreads tree error := by
  constructor
  · intro unread
    rw [readDocument] at unread
    split at unread
    · cases unread
    · next cause present held =>
        cases unread
        exact .unreadable held fun absent => present (by rw [absent])
    · next text held =>
        split at unread
        · cases unread
        · next unparsed =>
            cases unread
            refine .invalid held fun members parsed => ?_
            rw [parseMembers?, parsed] at unparsed
            cases unparsed
  · rintro (⟨unread, present⟩ | ⟨held, foreign⟩)
    · simp [readDocument, unread]
    · rw [readDocument, held]
      dsimp only
      split
      · next members parsed =>
          rw [parseMembers?] at parsed
          split at parsed
          · next whole => exact absurd whole (foreign _)
          · cases parsed
      · rfl

/-- How a save fails, with what it leaves and what it reports. -/
inductive Fails (store : SettingsStore) (tree : FileTree) : FileTree → SettingsError → Prop
  /-- The document cannot be read. -/
  | misread {error : SettingsError} (misreads : store.Misreads tree error) :
      Fails store tree tree error
  /-- The directories above the file cannot all be created. -/
  | unprepared {document : Option (List (String × JsonValue))} {after : FileTree}
      {cause : FileError} (readable : store.readDocument tree = .ok document)
      (failed : store.prepare tree = (after, .error cause)) :
      Fails store tree after (.unwritable store.path cause)
  /-- The file can be neither opened nor created. -/
  | unopened {document : Option (List (String × JsonValue))} {after : FileTree}
      {cause : FileError} (readable : store.readDocument tree = .ok document)
      (prepared : store.prepare tree = (after, .ok ()))
      (refused : after.target store.path = .error cause) :
      Fails store tree after (.unwritable store.path cause)

theorem save_eq_error_iff {error : SettingsError} :
    store.save tree state = (after, .error error) ↔ store.Fails tree after error := by
  constructor
  · intro failed
    rw [save] at failed
    split at failed
    · next unread =>
        cases failed
        exact .misread (readDocument_eq_error_iff.mp unread)
    next document readable =>
    split at failed
    · next unprepared =>
        cases failed
        exact .unprepared readable unprepared
    next prepared success =>
    rw [FileTree.write] at failed
    cases refused : prepared.target store.path with
    | ok location =>
        rw [refused] at failed
        cases failed
    | error cause =>
        rw [refused] at failed
        cases failed
        exact .unopened readable success refused
  · rintro (misreads | ⟨readable, failed⟩ | ⟨readable, prepared, refused⟩)
    · rw [save, readDocument_eq_error_iff.mpr misreads]
    · rw [save, readable]
      dsimp only
      rw [failed]
    · rw [save, readable]
      dsimp only
      rw [prepared]
      dsimp only
      rw [FileTree.write, refused]

theorem Fails.addsDirectories {error : SettingsError} (fails : store.Fails tree after error) :
    tree.AddsDirectories after := by
  have grown := addsDirectories_prepare store tree
  cases fails with
  | misread => exact .refl tree
  | unprepared _ failed =>
      rw [failed] at grown
      exact grown
  | unopened _ prepared _ =>
      rw [prepared] at grown
      exact grown

/-- A save that fails makes no settings readable that were not. -/
theorem Fails.read {error : SettingsError} {content : Bytes}
    (fails : store.Fails tree after error) (held : after.read store.path = .ok content) :
    tree.read store.path = .ok content := by
  cases fails with
  | misread => exact held
  | unprepared _ failed =>
      obtain ⟨location, located, -⟩ := FileTree.read_eq_ok_iff.mp held
      exact absurd located (locate_ne_ok_of_prepare failed)
  | unopened _ _ refused =>
      -- A file that can be read is written where it is.
      obtain ⟨location, denotes⟩ := denotesFile_of_read held
      cases refused.symm.trans denotes.target_eq

/-- A save that fails changes no file, and makes none readable that was not. -/
theorem extends_of_failed {error : SettingsError}
    (failed : store.save tree state = (after, .error error)) :
    tree.Extends after ∧
      ∀ content, after.read store.path = .ok content → tree.read store.path = .ok content :=
  have fails := save_eq_error_iff.mp failed
  ⟨fails.addsDirectories.toExtends, fun _ => fails.read⟩

/-- A save that fails leaves what is read from the settings file as it was. -/
theorem read_of_failed {error : SettingsError}
    (failed : store.save tree state = (after, .error error)) (content : Bytes) :
    after.read store.path = .ok content ↔ tree.read store.path = .ok content := by
  obtain ⟨grown, reflected⟩ := extends_of_failed failed
  exact ⟨reflected content, grown.read⟩

/-- Only a save that came to writing can have changed anything. -/
theorem eq_of_failed {error : SettingsError}
    (failed : store.save tree state = (after, .error error))
    (unwritten : ∀ cause, error ≠ .unwritable store.path cause) : after = tree := by
  cases save_eq_error_iff.mp failed with
  | misread => rfl
  | unprepared | unopened => exact absurd rfl (unwritten _)

/-! ## What the settings say -/

/-- Whether the settings, as far as they can be read, say that enhancement is on. -/
def isOn (store : SettingsStore) (tree : FileTree) : Bool :=
  match store.load tree with
  | .ok state => (state.getD ⟨false⟩).enabled
  | .error _ => false

theorem isOn_of_load {stored : Option EnhancementState} (loaded : store.load tree = .ok stored) :
    store.isOn tree = (stored.getD ⟨false⟩).enabled := by
  rw [isOn, loaded]

theorem load_eq_of_read (same : after.read store.path = tree.read store.path) :
    store.load after = store.load tree := by
  rw [load, load, readDocument, readDocument, FileTree.readText, FileTree.readText, same]

theorem isOn_eq_of_read (same : after.read store.path = tree.read store.path) :
    store.isOn after = store.isOn tree := by
  rw [isOn, isOn, load_eq_of_read same]

/-- Settings that cannot be read say that enhancement is off. -/
theorem isOn_of_unread {cause : FileError} (unread : tree.read store.path = .error cause) :
    store.isOn tree = false := by
  have unread_text : tree.readText store.path = .error cause := by
    rw [FileTree.readText, unread]
  have loaded : store.load tree = .ok none ∨
      store.load tree = .error (.unreadable store.path cause) := by
    rw [load, readDocument, unread_text]
    by_cases absent : cause = .system .notFound
    · subst absent
      exact .inl rfl
    · exact .inr (by simp)
  rcases loaded with nothing | failed
  · exact isOn_of_load nothing
  · rw [isOn, failed]

theorem isOn_of_saved (saved : store.save tree state = (after, .ok ())) :
    store.isOn after = state.enabled :=
  isOn_of_load (loads_saved saved)

/-- A save that fails changes nothing of what the settings say. -/
theorem isOn_of_failed {error : SettingsError}
    (failed : store.save tree state = (after, .error error)) :
    store.isOn after = store.isOn tree := by
  obtain ⟨grown, reflected⟩ := extends_of_failed failed
  cases held : after.read store.path with
  | ok content => exact isOn_eq_of_read (held.trans (reflected content held).symm)
  | error cause =>
      cases before : tree.read store.path with
      | ok content => cases held.symm.trans (grown.read before)
      | error cause_before => rw [isOn_of_unread held, isOn_of_unread before]

/-- A save leaves the working directory where it is. -/
theorem isGrounded_save (store : SettingsStore) (grounded : tree.IsGrounded)
    (state : EnhancementState) : (store.save tree state).1.IsGrounded := by
  have grown := (extends_prepare store tree).isGrounded grounded
  rw [save]
  split
  · exact grounded
  split
  · next failed =>
      rw [failed] at grown
      exact grown
  · next prepared success =>
      rw [success] at grown
      split
      · exact grown
      · next written => exact FileTree.isGrounded_of_write written grown

end SettingsStore
end ClassEnhancement
