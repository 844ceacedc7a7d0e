import ClassEnhancement.ClassFile.Name

/-!
# Package sets

The packages whose classes are enhanced, in the order of their text.  Raw lists are separated by
commas, semicolons and white space.  One entry names a package up to a final `.*` and dots at its
end; an entry that ends in a colon is a label and names none.
-/

namespace ClassEnhancement

/-! ## Entries -/

/-- Characters between the entries of a raw list. -/
def isListSeparator (c : Char) : Bool := c == ',' || c == ';' || Text.isBlank c

/-- The entries of a raw list; neighbouring separators enclose empty ones. -/
def rawEntries (raw : String) : List String :=
  (raw.toList.splitOnP isListSeparator).map String.ofList

/-- An entry without one `.*` at its end. -/
def withoutWildcard (entry : List Char) : List Char :=
  match Text.dropEnding? ['.', '*'] entry with
  | some rest => rest
  | none => entry

/-- The package that an entry names. -/
def packageOfEntry? (entry : String) : Option String :=
  let trimmed := Text.trim entry.toList
  if trimmed.getLast? = some ':' then none
  else
    let package := Text.dropEnd (· == '.') (withoutWildcard trimmed)
    if package.isEmpty then none else some (String.ofList package)

/-! ## Sets -/

/-- A set of packages. -/
structure PackageSet where
  /-- Packages in increasing order. -/
  packages : List String
  /-- The order is strict, so no package is listed twice. -/
  increasing : packages.Pairwise (· < ·)
  deriving DecidableEq

namespace PackageSet

/-- The set without packages. -/
def empty : PackageSet := ⟨[], .nil⟩

instance : Inhabited PackageSet := ⟨empty⟩

/-- An increasing list with one more member. -/
def place (package : String) : List String → List String
  | [] => [package]
  | next :: rest =>
    if package < next then package :: next :: rest
    else if package = next then next :: rest
    else next :: place package rest

theorem mem_place {package member : String} {packages : List String} :
    member ∈ place package packages ↔ member = package ∨ member ∈ packages := by
  induction packages with
  | nil => simp [place]
  | cons next rest hypothesis =>
      by_cases before : package < next
      · simp [place, before]
      · by_cases same : package = next
        · subst same
          rw [place, if_neg before, if_pos rfl]
          simp
        · simp only [place, before, same, if_false, List.mem_cons, hypothesis]
          constructor
          · rintro (h | h | h)
            · exact .inr (.inl h)
            · exact .inl h
            · exact .inr (.inr h)
          · rintro (h | h | h)
            · exact .inr (.inl h)
            · exact .inl h
            · exact .inr (.inr h)

theorem increasing_place {package : String} {packages : List String}
    (increasing : packages.Pairwise (· < ·)) : (place package packages).Pairwise (· < ·) := by
  induction packages with
  | nil => simp [place]
  | cons next rest hypothesis =>
      obtain ⟨above, inner⟩ := List.pairwise_cons.mp increasing
      by_cases before : package < next
      · rw [place, if_pos before]
        refine List.pairwise_cons.mpr ⟨fun member listed => ?_, increasing⟩
        rcases List.mem_cons.mp listed with rfl | deeper
        · exact before
        · exact String.lt_trans before (above member deeper)
      · by_cases same : package = next
        · rw [place, if_neg before, if_pos same]
          exact increasing
        · rw [place, if_neg before, if_neg same]
          refine List.pairwise_cons.mpr ⟨fun member listed => ?_, hypothesis inner⟩
          rcases mem_place.mp listed with rfl | deeper
          · have reached : next ≤ member := String.not_lt.mp before
            exact Classical.byContradiction fun above =>
              same (String.le_antisymm (String.not_lt.mp above) reached)
          · exact above member deeper

/-- The set with one more package, taken as it is. -/
def add (set : PackageSet) (package : String) : PackageSet :=
  ⟨place package set.packages, increasing_place set.increasing⟩

/-- Whether a package is in the set. -/
def contains (set : PackageSet) (package : String) : Bool := set.packages.contains package

/-- Number of packages. -/
def size (set : PackageSet) : Nat := set.packages.length

/-- Adds the package that an entry names, and says whether it was new. -/
def insert (set : PackageSet) (entry : String) : Bool × PackageSet :=
  match packageOfEntry? entry with
  | none => (false, set)
  | some package => (!set.contains package, set.add package)

/-- Adds a list of entries, and counts the new packages. -/
def insertAll (set : PackageSet) : List String → Nat × PackageSet
  | [] => (0, set)
  | entry :: rest =>
    let (new, extended) := set.insert entry
    let (count, final) := extended.insertAll rest
    (count + new.toNat, final)

/-- Adds a raw list, and counts the new packages. -/
def addRaw (set : PackageSet) (raw : String) : Nat × PackageSet := set.insertAll (rawEntries raw)

/-- The packages of two sets. -/
def merge (left right : PackageSet) : PackageSet := right.packages.foldl add left

/-- The set that a list of entries names. -/
def ofEntries (entries : List String) : PackageSet := (empty.insertAll entries).2

/-- The set that a raw list names. -/
def ofRaw (raw : String) : PackageSet := (empty.addRaw raw).2

/-- Whether a class belongs to a package of the set. -/
def covers (set : PackageSet) (name : ClassName) : Bool := set.packages.any name.isInPackage

/-- The packages between commas, as one raw list. -/
def wireForm (set : PackageSet) : String := ",".intercalate set.packages

/-- Shown form. -/
def render (set : PackageSet) : String := Text.bracketed set.packages

instance : ToString PackageSet := ⟨render⟩

@[simp]
theorem mem_add {set : PackageSet} {package member : String} :
    member ∈ (set.add package).packages ↔ member = package ∨ member ∈ set.packages :=
  mem_place

example : (ofRaw "packages: b.c.*, a. ;a").packages = ["a", "b.c"] := by decide

end PackageSet
end ClassEnhancement
