import ClassEnhancement.Proofs.FileTree.Writing
import ClassEnhancement.Proofs.Json.Exact
import ClassEnhancement.Proofs.Text.Decoding
import ClassEnhancement.Settings.Store

/-!
# Saving into a shared document

However many stores of one file save however often, the document is what it was before, except for
the one member that holds the state that was saved last.
-/

namespace ClassEnhancement
namespace SettingsStore

open JsonValue

/-- Saves that succeed, one after another, through any stores of one file. -/
inductive Saves (path : FilePath) : FileTree → List EnhancementState → FileTree → Prop
  | nothing (tree : FileTree) : Saves path tree [] tree
  | save {before between after : FileTree} {states : List EnhancementState}
      {state : EnhancementState} (earlier : Saves path before states between)
      (store : SettingsStore) (same : store.path = path)
      (saved : store.save between state = (after, .ok ())) :
      Saves path before (states ++ [state]) after

variable {store : SettingsStore} {tree after : FileTree} {state : EnhancementState}
  {members : List (String × JsonValue)} {document : Option (List (String × JsonValue))}

/-! ## One save -/

theorem readText_eq_of_read {path : FilePath} {text : String}
    (held : tree.read path = .ok (Utf8.encode text)) : tree.readText path = .ok text := by
  simp [FileTree.readText, held, Utf8.decode_encode]

/-- A document whose text can be read back. -/
def IsRegular (members : List (String × JsonValue)) : Prop := Regular nestingLimit (.object members)

theorem IsRegular.withState (regular : IsRegular members) (state : EnhancementState) :
    IsRegular (withState state members) := by
  obtain ⟨increasing, regular⟩ := regular
  refine ⟨increasing_putMember increasing, fun member listed => ?_⟩
  rcases mem_putMember listed with rfl | old
  · exact ⟨List.pairwise_singleton _ _, fun member listed => by
      obtain rfl := List.mem_singleton.mp listed
      trivial⟩
  · exact regular member old

theorem addsDirectories_prepare (store : SettingsStore) (tree : FileTree) :
    tree.AddsDirectories (store.prepare tree).1 := by
  rw [prepare]
  split
  · exact .createDirectories _
  · exact .refl tree

theorem extends_prepare (store : SettingsStore) (tree : FileTree) :
    tree.Extends (store.prepare tree).1 :=
  (addsDirectories_prepare store tree).toExtends

/-- A save that succeeds leaves the text of the new document in the file. -/
theorem read_of_save (readable : store.readDocument tree = .ok document)
    (saved : store.save tree state = (after, .ok ())) :
    after.read store.path = .ok (Utf8.encode (documentText state (document.getD []))) := by
  rw [save, readable] at saved
  dsimp only at saved
  split at saved
  · cases saved
  split at saved
  · cases saved
  · next written =>
      cases saved
      exact FileTree.read_of_write written

theorem readDocument_of_written (writable : Writable nestingLimit (object members))
    (held : tree.read store.path = .ok (Utf8.encode (object members).render)) :
    store.readDocument tree = .ok (some members) := by
  rw [readDocument, readText_eq_of_read held]
  simp [parseMembers?, parse?_render writable]

theorem readDocument_of_read (regular : IsRegular members)
    (held : tree.read store.path = .ok (Utf8.encode (object members).render)) :
    store.readDocument tree = .ok (some members) :=
  readDocument_of_written (Regular.writable regular) held

/-- Whether or not a save succeeds, the file holds what it held, or the text of the new document. -/
theorem read_save (readable : store.readDocument tree = .ok document) {content : Bytes}
    (held : tree.read store.path = .ok content) (state : EnhancementState) :
    (store.save tree state).1.read store.path = .ok content ∨
      (store.save tree state).1.read store.path =
        .ok (Utf8.encode (documentText state (document.getD []))) := by
  have grown := extends_prepare store tree
  rw [save, readable]
  dsimp only
  split
  · next prepared _ failed =>
      rw [failed] at grown
      exact .inl (grown.read held)
  · next prepared success =>
      rw [success] at grown
      split
      · exact .inl (grown.read held)
      · next written => exact .inr (FileTree.read_of_write written)

/-! ## Many saves -/

/-- A document without doubles can be read back, and so can the empty one where there is none. -/
theorem isRegular_of_readDocument (readable : store.readDocument tree = .ok document)
    (exact : membersAreExact (document.getD []) = true) : IsRegular (document.getD []) := by
  rw [readDocument] at readable
  split at readable
  · cases readable
    exact ⟨.nil, nofun⟩
  · cases readable
  · split at readable
    · next members parsed =>
        cases readable
        rw [parseMembers?] at parsed
        split at parsed
        · next value_parsed =>
            cases parsed
            exact regular_of_parse? value_parsed exact
        · cases parsed
    · cases readable

theorem load_withState (readable : store.readDocument tree = .ok (some (withState state members))) :
    store.load tree = .ok (some state) := by
  simp [load, readable, withState, lookup_putMember_self]

/-- Before each save the document differs from the first one in the stored state only. -/
theorem Saves.readable {path : FilePath} {before : FileTree} {states : List EnhancementState}
    (saves : Saves path before states after)
    (readable : (SettingsStore.mk path).readDocument before = .ok document)
    (regular : IsRegular (document.getD [])) :
    ∃ found, (SettingsStore.mk path).readDocument after = .ok found ∧ IsRegular (found.getD []) ∧
      ∀ state, withState state (found.getD []) = withState state (document.getD []) := by
  induction saves with
  | nothing => exact ⟨document, readable, regular, fun _ => rfl⟩
  | @save _ _ _ stored _ store same saved hypothesis =>
      obtain ⟨found, found_readable, found_regular, same_members⟩ := hypothesis
      subst same
      have regular_now := found_regular.withState stored
      have held := read_of_save found_readable saved
      refine ⟨_, readDocument_of_read regular_now held, regular_now, fun state => ?_⟩
      rw [Option.getD_some, ← same_members state]
      exact putMember_putMember _ _ _ _

theorem Saves.read_last {path : FilePath} {before : FileTree} {states : List EnhancementState}
    (saves : Saves path before (states ++ [state]) after)
    (readable : (SettingsStore.mk path).readDocument before = .ok document)
    (regular : IsRegular (document.getD [])) :
    after.read path = .ok (Utf8.encode (documentText state (document.getD []))) := by
  generalize stored : states ++ [state] = all at saves
  cases saves with
  | nothing => simp at stored
  | save earlier store same saved =>
      obtain ⟨rfl, last⟩ := List.append_inj' stored rfl
      obtain rfl := List.singleton_inj.mp last
      subst same
      obtain ⟨found, found_readable, -, same_members⟩ := earlier.readable readable regular
      rw [read_of_save found_readable saved, documentText, documentText, same_members]

/-- What is left by saves to a file with a document. -/
structure Saved (path : FilePath) (original members : List (String × JsonValue))
    (state : EnhancementState) (tree : FileTree) : Prop where
  /-- The file holds the text of the members, which is read back. -/
  held : tree.read path = .ok (Utf8.encode (object members).render)
  reads : ∀ store : SettingsStore, store.path = path →
    store.readDocument tree = .ok (some members)
  /-- No key is there twice, and none was added or lost. -/
  distinct : (members.map Prod.fst).Nodup
  keys : ∀ key, key ∈ members.map Prod.fst ↔ key = stateKey ∨ key ∈ original.map Prod.fst
  /-- Other components keep what they had. -/
  others : ∀ key, key ≠ stateKey → members.lookup key = original.lookup key
  /-- The state is stored, and every store loads it. -/
  stored : members.lookup stateKey = some state.toJson
  loads : ∀ store : SettingsStore, store.path = path → store.load tree = .ok (some state)
  /-- Saving the state again leaves the same octets in the file. -/
  again : ∀ store : SettingsStore, store.path = path →
    (store.save tree state).1.read path = tree.read path

/-- Any saves to a file whose document can be read, or that is not there, leave the document with
the last state. -/
theorem saved_of_saves {path : FilePath} {before after : FileTree}
    {document : Option (List (String × JsonValue))} {states : List EnhancementState}
    {last : EnhancementState}
    (readable : (SettingsStore.mk path).readDocument before = .ok document)
    (exact : membersAreExact (document.getD []) = true)
    (saves : Saves path before (states ++ [last]) after) :
    ∃ members, Saved path (document.getD []) members last after := by
  have regular := isRegular_of_readDocument readable exact
  have held := saves.read_last readable regular
  have regular_now := regular.withState last
  have stored := lookup_putMember_self stateKey last.toJson (document.getD [])
  have reads : ∀ store : SettingsStore, store.path = path →
      store.readDocument after = .ok (some (withState last (document.getD []))) := by
    rintro store rfl
    exact readDocument_of_read regular_now held
  refine ⟨withState last (document.getD []), held, reads, ?_, ?_, ?_, stored, ?_, ?_⟩
  · exact regular_now.1.imp fun before => fun same => String.lt_irrefl _ (same ▸ before)
  · exact fun key => mem_keys_putMember _ _ _
  · exact fun key different => lookup_putMember_of_ne different _ _
  · exact fun store same => load_withState (reads store same)
  · rintro store rfl
    rcases read_save (reads store rfl) held last with same | same
    · rw [same, held]
    · rw [same, held, Option.getD_some, documentText, documentText, withState, withState,
        putMember_putMember]

/-- A store of a file that other components share. -/
def sharedStore : SettingsStore := ⟨⟨"/work/s.json"⟩⟩

/-- Files with a document in it. -/
def sharedFiles (members : List (String × JsonValue)) : FileTree :=
  (FileTree.empty ["work"]).put ["work", "s.json"] (.file (Utf8.encode (object members).render))

theorem readDocument_sharedFiles (regular : IsRegular members) :
    sharedStore.readDocument (sharedFiles members) = .ok (some members) :=
  readDocument_of_read regular rfl

theorem save_sharedFiles (regular : IsRegular members) (state : EnhancementState) :
    sharedStore.save (sharedFiles members) state =
      (sharedFiles (withState state members), .ok ()) := by
  rw [save, readDocument_sharedFiles regular]
  rfl

/-- Members with a state of the wrong kind, and one of another component. -/
def mixedMembers : List (String × JsonValue) :=
  [(stateKey, .integer 7), ("other", .object [("list", .array [.integer (-1), .null])])]

theorem saved_of_two_saves :
    Saves sharedStore.path (sharedFiles mixedMembers) [⟨true⟩, ⟨false⟩]
        (sharedFiles (withState ⟨false⟩ (withState ⟨true⟩ mixedMembers))) ∧
      ∃ members, Saved sharedStore.path mixedMembers members ⟨false⟩
        (sharedFiles (withState ⟨false⟩ (withState ⟨true⟩ mixedMembers))) := by
  have regular : IsRegular mixedMembers := by
    have before : stateKey < "other" := by decide
    simpa [IsRegular, mixedMembers, Regular, nestingLimit] using before
  have saves : Saves sharedStore.path (sharedFiles mixedMembers) ([⟨true⟩] ++ [⟨false⟩])
      (sharedFiles (withState ⟨false⟩ (withState ⟨true⟩ mixedMembers))) :=
    .save (.save (.nothing _) sharedStore rfl (save_sharedFiles regular ⟨true⟩))
      sharedStore rfl (save_sharedFiles (regular.withState ⟨true⟩) ⟨false⟩)
  exact ⟨saves, saved_of_saves (readDocument_sharedFiles regular) rfl saves⟩

end SettingsStore
end ClassEnhancement
