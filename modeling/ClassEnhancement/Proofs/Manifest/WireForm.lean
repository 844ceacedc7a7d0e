import ClassEnhancement.Enhance.Command
import ClassEnhancement.Proofs.Text.Pieces
import Mathlib.Data.Finset.Max
import Mathlib.Data.List.DropRight
import Mathlib.Data.List.Sort

/-!
# Package sets on the wire

The packages of a set are handed to a program as one raw list.  A stored package is free of
separators and of dots at its end, so the program finds the entries that were written.  It reads the
same set exactly when no package keeps a colon or a `.*` at its end: these were hidden behind dots
or behind another `.*` when the package was stored, and they count when it is read again.
-/

namespace ClassEnhancement

/-! ## Entries of raw lists -/

theorem isListSeparator_comma : isListSeparator ',' = true := by decide

theorem isListSeparator_of_isBlank {c : Char} (blank : Text.isBlank c = true) :
    isListSeparator c = true := by
  simp [isListSeparator, blank]

/-- A text in which nothing separates entries. -/
def IsUnseparated (entry : String) : Prop := ∀ c ∈ entry.toList, isListSeparator c = false

theorem isUnseparated_of_mem_rawEntries {raw entry : String} (listed : entry ∈ rawEntries raw) :
    IsUnseparated entry := by
  obtain ⟨piece, member, rfl⟩ := List.mem_map.mp listed
  simpa [IsUnseparated] using Text.free_of_mem_splitOnP _ _ piece member

/-- Pieces free of separators are found again between separators. -/
theorem splitOnP_intercalate {test : Char → Bool} {separator : Char}
    (separates : test separator = true) {pieces : List (List Char)} (some_piece : pieces ≠ [])
    (free : ∀ piece ∈ pieces, ∀ c ∈ piece, test c = false) :
    ([separator].intercalate pieces).splitOnP test = pieces := by
  induction pieces with
  | nil => exact absurd rfl some_piece
  | cons piece rest hypothesis =>
      have here := free piece List.mem_cons_self
      cases rest with
      | nil => simpa using List.splitOnP_eq_singleton here
      | cons next rest =>
          have later := hypothesis (by simp) fun other member =>
            free other (List.mem_cons_of_mem _ member)
          rw [List.intercalate_cons_cons, List.append_assoc, List.singleton_append,
            List.splitOnP_append_cons_of_forall_mem here separator separates, later]

/-- The entries of texts joined by commas, if there are any texts. -/
theorem rawEntries_intercalate {entries : List String} (some_entry : entries ≠ [])
    (free : ∀ entry ∈ entries, IsUnseparated entry) :
    rawEntries (",".intercalate entries) = entries := by
  have pieces : ∀ piece ∈ entries.map String.toList, ∀ c ∈ piece, isListSeparator c = false := by
    intro piece member
    obtain ⟨entry, listed, rfl⟩ := List.mem_map.mp member
    exact free entry listed
  have found := splitOnP_intercalate isListSeparator_comma (by simpa using some_entry) pieces
  rw [rawEntries, String.toList_intercalate]
  simpa using congrArg (List.map String.ofList) found

/-! ## Packages of entries -/

theorem Text.trim_eq_self {text : List Char} (free : ∀ c ∈ text, Text.isBlank c = false) :
    Text.trim text = text := by
  have start : Text.dropStart Text.isBlank text = text := by
    cases text with
    | nil => rfl
    | cons c rest => simp [Text.dropStart, free c]
  have none_at_end : Text.dropEnd Text.isBlank text = text :=
    List.rdropWhile_eq_self_iff.mpr fun filled => by
      simp [free _ (List.getLast_mem filled)]
  rw [Text.trim, start, none_at_end]

theorem withoutWildcard_isPrefix (entry : List Char) : withoutWildcard entry <+: entry := by
  rw [withoutWildcard]
  split
  · next rest found => exact ⟨_, (Text.eq_append_of_dropEnding? found).symm⟩
  · exact List.prefix_rfl

theorem withoutWildcard_eq_self_iff {entry : List Char} :
    withoutWildcard entry = entry ↔ ¬ ['.', '*'] <:+ entry := by
  by_cases wildcard : ['.', '*'] <:+ entry
  · obtain ⟨front, rfl⟩ := wildcard
    rw [withoutWildcard, Text.dropEnding?_append]
    simp
  · have kept : ¬ ['.', '*'].isSuffixOf entry = true := by
      simpa using wildcard
    simp [withoutWildcard, Text.dropEnding?, kept, wildcard]

/-- The package of an entry without separators, step by step. -/
theorem packageOfEntry?_eq_some_iff {entry package : String} (free : IsUnseparated entry) :
    packageOfEntry? entry = some package ↔
      entry.toList.getLast? ≠ some ':' ∧ package ≠ "" ∧
        package.toList = Text.dropEnd (· == '.') (withoutWildcard entry.toList) := by
  have trimmed : Text.trim entry.toList = entry.toList := Text.trim_eq_self fun c member => by
    cases blank : Text.isBlank c with
    | false => rfl
    | true => exact absurd (isListSeparator_of_isBlank blank) (by simp [free c member])
  simp only [trimmed, packageOfEntry?]
  by_cases label : entry.toList.getLast? = some ':'
  · rw [if_pos label]
    exact ⟨nofun, fun named => absurd label named.1⟩
  · generalize Text.dropEnd (· == '.') (withoutWildcard entry.toList) = kept
    rw [if_neg label]
    constructor
    · intro named
      split at named
      · cases named
      · next filled =>
          cases named
          exact ⟨label, by simpa using filled, by simp⟩
    · rintro ⟨-, filled, rfl⟩
      rw [if_neg (by simpa using filled), String.ofList_toList]

theorem packageOfEntry?_isPrefix {entry package : String} (free : IsUnseparated entry)
    (named : packageOfEntry? entry = some package) : package.toList <+: entry.toList := by
  rw [((packageOfEntry?_eq_some_iff free).mp named).2.2]
  exact (List.rdropWhile_prefix _ _).trans (withoutWildcard_isPrefix _)

/-- What every stored package is. -/
structure IsTidy (package : String) : Prop where
  /-- It has a character. -/
  nonempty : package ≠ ""
  /-- It is one entry of a raw list. -/
  unseparated : IsUnseparated package
  /-- It does not end in a dot. -/
  undotted : package.toList.getLast? ≠ some '.'

theorem packageOfEntry?_isTidy {entry package : String} (free : IsUnseparated entry)
    (named : packageOfEntry? entry = some package) : IsTidy package where
  nonempty := ((packageOfEntry?_eq_some_iff free).mp named).2.1
  unseparated c member := free c ((packageOfEntry?_isPrefix free named).subset member)
  undotted ends := by
    obtain ⟨-, filled, kept⟩ := (packageOfEntry?_eq_some_iff free).mp named
    have left : package.toList = List.rdropWhile (· == '.') (withoutWildcard entry.toList) := kept
    have some_left : List.rdropWhile (· == '.') (withoutWildcard entry.toList) ≠ [] := by
      rw [← left]
      simpa using filled
    have last := List.rdropWhile_last_not _ _ some_left
    rw [left, List.getLast?_eq_some_getLast some_left] at ends
    simp [Option.some.inj ends] at last

/-- A package that is read back as itself: it keeps no ending that an entry loses. -/
def IsSettled (package : String) : Prop :=
  package.toList.getLast? ≠ some ':' ∧ ¬ ['.', '*'] <:+ package.toList

instance (package : String) : Decidable (IsSettled package) :=
  inferInstanceAs (Decidable (_ ∧ _))

theorem packageOfEntry?_self_iff {package : String} (tidy : IsTidy package) :
    packageOfEntry? package = some package ↔ IsSettled package := by
  have undotted : Text.dropEnd (· == '.') package.toList = package.toList :=
    List.rdropWhile_eq_self_iff.mpr fun filled dotted => by
      have last : package.toList.getLast filled = '.' := by simpa using dotted
      exact tidy.undotted (by rw [List.getLast?_eq_some_getLast filled, last])
  rw [packageOfEntry?_eq_some_iff tidy.unseparated, IsSettled, ← withoutWildcard_eq_self_iff]
  constructor
  · rintro ⟨unlabelled, -, kept⟩
    refine ⟨unlabelled, (withoutWildcard_isPrefix _).eq_of_length_le ?_⟩
    have shorter := (List.rdropWhile_prefix (· == '.') (withoutWildcard package.toList)).length_le
    rw [show List.rdropWhile (· == '.') (withoutWildcard package.toList) = package.toList from
      kept.symm] at shorter
    exact shorter
  · rintro ⟨unlabelled, kept⟩
    exact ⟨unlabelled, tidy.nonempty, by rw [kept, undotted]⟩

namespace PackageSet

/-! ## Members and size -/

/-- Sets with the same members are equal. -/
theorem eq_of_mem_iff {left right : PackageSet}
    (same : ∀ package, package ∈ left.packages ↔ package ∈ right.packages) : left = right := by
  have distinct : ∀ set : PackageSet, set.packages.Nodup := fun set =>
    set.increasing.imp fun before => String.ne_of_lt before
  have listed : left.packages.Perm right.packages :=
    (List.perm_ext_iff_of_nodup (distinct left) (distinct right)).mpr same
  have equal := listed.eq_of_pairwise
    (fun _ _ _ _ before after => absurd after (String.lt_asymm before))
    left.increasing right.increasing
  cases left
  cases right
  simpa using equal

theorem mem_insertAll {set : PackageSet} {entries : List String} {package : String} :
    package ∈ (set.insertAll entries).2.packages ↔
      package ∈ set.packages ∨ ∃ entry ∈ entries, packageOfEntry? entry = some package := by
  induction entries generalizing set with
  | nil => simp [insertAll]
  | cons entry rest hypothesis =>
      rw [insertAll, hypothesis, insert]
      cases named : packageOfEntry? entry with
      | none => simp [named]
      | some other => simp [named, eq_comm (a := package), or_assoc, or_left_comm]

theorem length_place_of_notMem {package : String} {packages : List String}
    (new : package ∉ packages) : (place package packages).length = packages.length + 1 := by
  induction packages with
  | nil => rfl
  | cons next rest hypothesis =>
      obtain ⟨different, absent⟩ := List.ne_and_not_mem_of_not_mem_cons new
      rw [place]
      split
      · rfl
      · simp [hypothesis absent]

theorem place_of_mem {package : String} {packages : List String}
    (increasing : packages.Pairwise (· < ·)) (old : package ∈ packages) :
    place package packages = packages := by
  induction packages with
  | nil => cases old
  | cons next rest hypothesis =>
      obtain ⟨above, inner⟩ := List.pairwise_cons.mp increasing
      rcases List.mem_cons.mp old with rfl | deeper
      · simp [place]
      · have before := above package deeper
        rw [place, if_neg (String.lt_asymm before), if_neg (String.ne_of_lt before).symm,
          hypothesis inner deeper]

/-- The answer to an entry tells whether the set has grown. -/
theorem size_insert (set : PackageSet) (entry : String) :
    (set.insert entry).2.size = set.size + (set.insert entry).1.toNat := by
  rw [insert]
  cases packageOfEntry? entry with
  | none => rfl
  | some package =>
      by_cases old : package ∈ set.packages
      · simp [add, size, contains, place_of_mem set.increasing old, old]
      · simp [add, size, contains, length_place_of_notMem old, old]

/-- The count of a list of entries is the growth of the set. -/
theorem size_insertAll (set : PackageSet) (entries : List String) :
    (set.insertAll entries).2.size = set.size + (set.insertAll entries).1 := by
  induction entries generalizing set with
  | nil => rfl
  | cons entry rest hypothesis =>
      simp only [insertAll]
      rw [hypothesis, size_insert]
      omega

/-! ## Raw lists one after another -/

/-- The set that raw lists name, added one after another. -/
def ofRaws (raws : List String) : PackageSet := raws.foldl (fun set raw => (set.addRaw raw).2) empty

/-- A package of raw lists is the package of one of their entries. -/
theorem mem_ofRaws {raws : List String} {package : String} :
    package ∈ (ofRaws raws).packages ↔
      ∃ raw ∈ raws, ∃ entry ∈ rawEntries raw, packageOfEntry? entry = some package := by
  have folded : ∀ set : PackageSet,
      package ∈ (raws.foldl (fun set raw => (set.addRaw raw).2) set).packages ↔
        package ∈ set.packages ∨
          ∃ raw ∈ raws, ∃ entry ∈ rawEntries raw, packageOfEntry? entry = some package := by
    induction raws with
    | nil => simp
    | cons raw rest hypothesis =>
        intro set
        rw [List.foldl_cons, hypothesis, addRaw, mem_insertAll]
        simp [or_assoc]
  simpa [ofRaws, empty] using folded empty

theorem isTidy_of_mem_ofRaws {raws : List String} {package : String}
    (stored : package ∈ (ofRaws raws).packages) : IsTidy package := by
  obtain ⟨raw, -, entry, listed, named⟩ := mem_ofRaws.mp stored
  exact packageOfEntry?_isTidy (isUnseparated_of_mem_rawEntries listed) named

/-! ## The wire form -/

/-- The wire form of tidy packages names what its packages name as entries. -/
theorem mem_ofRaw_wireForm {set : PackageSet} (tidy : ∀ package ∈ set.packages, IsTidy package)
    {package : String} :
    package ∈ (ofRaw set.wireForm).packages ↔
      ∃ entry ∈ set.packages, packageOfEntry? entry = some package := by
  rw [ofRaw, addRaw, mem_insertAll, wireForm]
  by_cases vacant : set.packages = []
  · have label : packageOfEntry? "" = none := by decide
    have entries : rawEntries "" = [""] := by decide
    simp [vacant, empty, entries, label]
  · rw [rawEntries_intercalate vacant fun entry stored => (tidy entry stored).unseparated]
    simp [empty]

/-- The wire form names the same set exactly when every package is read back as itself. -/
theorem ofRaw_wireForm_eq_iff {set : PackageSet}
    (tidy : ∀ package ∈ set.packages, IsTidy package) :
    ofRaw set.wireForm = set ↔ ∀ package ∈ set.packages, IsSettled package := by
  constructor
  · intro same package stored
    by_contra unsettled
    -- An unsettled package is still in the set, so a longer one lost its ending to become it; but
    -- among finitely many unsettled packages one is longest.
    obtain ⟨longest, chosen, maximal⟩ :=
      (set.packages.toFinset.filter fun package => ¬ IsSettled package).exists_max_image
        String.length ⟨package, by simp [stored, unsettled]⟩
    simp only [Finset.mem_filter, List.mem_toFinset] at chosen maximal
    obtain ⟨entry, listed, named⟩ :=
      (mem_ofRaw_wireForm tidy).mp (by rw [same]; exact chosen.1)
    have shorter := packageOfEntry?_isPrefix (tidy entry listed).unseparated named
    have different : entry ≠ longest := by
      rintro rfl
      exact chosen.2 ((packageOfEntry?_self_iff (tidy entry listed)).mp named)
    have unsettled_entry : ¬ IsSettled entry := by
      intro settled
      rw [(packageOfEntry?_self_iff (tidy entry listed)).mpr settled] at named
      exact different (Option.some.inj named)
    have bounded := maximal entry ⟨listed, unsettled_entry⟩
    refine different (String.toList_inj.mp (shorter.eq_of_length_le ?_).symm)
    simpa only [String.length_toList] using bounded
  · intro settled
    refine eq_of_mem_iff fun package => ?_
    rw [mem_ofRaw_wireForm tidy]
    constructor
    · rintro ⟨entry, listed, named⟩
      rw [(packageOfEntry?_self_iff (tidy entry listed)).mpr (settled entry listed)] at named
      exact Option.some.inj named ▸ listed
    · intro stored
      exact ⟨package, stored, (packageOfEntry?_self_iff (tidy package stored)).mpr
        (settled package stored)⟩

theorem addRaw_wireForm_eq_iff {set other : PackageSet} :
    empty.addRaw set.wireForm = (other.size, other) ↔ ofRaw set.wireForm = other := by
  have grown := size_insertAll empty (rawEntries set.wireForm)
  rw [ofRaw, addRaw, Prod.ext_iff]
  constructor
  · exact And.right
  · rintro rfl
    exact ⟨by simpa [size, empty] using grown.symm, rfl⟩

end PackageSet

namespace TransformCommand

/-- What a program reads from the variable that carries the packages. -/
def received (invocation : Invocation) : Nat × PackageSet :=
  PackageSet.empty.addRaw ((invocation.environment.lookup packagesVariable).getD "")

/-- Stored packages are tidy, and a program receives them all, counted once each and none changed,
exactly when no package keeps a colon or a `.*` at its end. -/
theorem received_iff (raws : List String) (program : String) (arguments : List String)
    (options : AgentOptions) (name : ClassName) (bytes : Bytes) :
    (∀ package ∈ (PackageSet.ofRaws raws).packages, IsTidy package) ∧
      (received (invocation program arguments options (.ofRaws raws) name bytes) =
          ((PackageSet.ofRaws raws).size, .ofRaws raws) ↔
        ∀ package ∈ (PackageSet.ofRaws raws).packages, IsSettled package) := by
  have tidy : ∀ package ∈ (PackageSet.ofRaws raws).packages, IsTidy package := fun _ stored =>
    PackageSet.isTidy_of_mem_ofRaws stored
  have carried : (invocation program arguments options (.ofRaws raws) name bytes).environment.lookup
      packagesVariable = some (PackageSet.ofRaws raws).wireForm := rfl
  refine ⟨tidy, ?_⟩
  rw [received, carried, Option.getD_some, PackageSet.addRaw_wireForm_eq_iff]
  exact PackageSet.ofRaw_wireForm_eq_iff tidy

/-- A `.*` before a dot is stored and lost by the program; a colon there loses the whole entry. -/
theorem received_of_hidden_endings :
    (PackageSet.ofRaws ["a.*. b:."]).packages = ["a.*", "b:"] ∧
      received (invocation "agent" [] ⟨2⟩ (.ofRaws ["a.*. b:."]) ⟨["A"], by decide, by decide⟩ []) =
        (1, .ofRaws ["a"]) := by
  decide

end TransformCommand
end ClassEnhancement
