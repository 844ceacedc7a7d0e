import ClassEnhancement.Proofs.Build.Ownership
import ClassEnhancement.Proofs.FileTree.Parent
import Mathlib.Data.List.Forall2
import Mathlib.Logic.Relation

/-!
# Innermost modules

A file belongs to the module with the deepest content root around it, and to the last such module
where roots are equally deep.  Neither the spelling of the file nor that of a root matters, only
their components.
-/

namespace ClassEnhancement

/-! ## Spellings of a path -/

namespace FilePath

/-- A spelling with one separator or one inner `.` more. -/
inductive Respells : FilePath → FilePath → Prop
  | repeated (front back : String) : Respells ⟨front ++ "/" ++ back⟩ ⟨front ++ "//" ++ back⟩
  | trailing {text : String} (filled : text ≠ "") : Respells ⟨text⟩ ⟨text ++ "/"⟩
  | inner (front back : String) : Respells ⟨front ++ "/" ++ back⟩ ⟨front ++ "/./" ++ back⟩

/-- Spellings that differ in repeated separators, a separator at the end and inner `.`. -/
def Respelled : FilePath → FilePath → Prop := Relation.EqvGen Respells

variable {left right : FilePath}

/-- An idle piece counts for nothing, unless it starts the text. -/
theorem same_of_idle {front back : List String} {piece : String} (idle : isIdlePiece piece = true)
    (some_piece : front ≠ []) (filled : left.text ≠ "")
    (short : Text.pieces '/' left.text = front ++ back)
    (long : Text.pieces '/' right.text = front ++ ([piece] ++ back)) : Same left right := by
  have absolute : left.isAbsolute = right.isAbsolute := by
    rw [Bool.eq_iff_iff, isAbsolute_iff, isAbsolute_iff, short, long]
    obtain ⟨first, others, rfl⟩ := List.exists_cons_of_ne_nil some_piece
    constructor
    · rintro ⟨rest, -, split⟩
      obtain ⟨rfl, -⟩ := List.cons.inj split
      exact ⟨others ++ ([piece] ++ back), by simp, rfl⟩
    · rintro ⟨rest, -, split⟩
      obtain ⟨rfl, -⟩ := List.cons.inj split
      refine ⟨others ++ back, fun alone => filled ?_, rfl⟩
      rw [← Text.intercalate_pieces '/' left.text, short, List.cons_append, alone]
      rfl
  have nothing : [piece].filterMap componentOfPiece? = [] :=
    filterMap_idle (List.forall_mem_singleton.mpr idle)
  rw [Same, components, components, absolute, short, long, List.head?_append_of_ne_nil _ some_piece,
    List.head?_append_of_ne_nil _ some_piece, List.filterMap_append, List.filterMap_append,
    List.filterMap_append, nothing, List.nil_append]

/-- An idle piece between separators counts for nothing. -/
theorem same_of_idle_between (front piece back : String) (idle : isIdlePiece piece = true)
    (whole : Text.pieces '/' piece = [piece]) :
    Same ⟨front ++ "/" ++ back⟩ ⟨front ++ "/" ++ (piece ++ "/" ++ back)⟩ := by
  have short : Text.pieces '/' (front ++ "/" ++ back) = _ := Text.pieces_join '/' front back
  have inner : Text.pieces '/' (piece ++ "/" ++ back) = _ := Text.pieces_join '/' piece back
  have long : Text.pieces '/' (front ++ "/" ++ (piece ++ "/" ++ back)) = _ :=
    Text.pieces_join '/' front (piece ++ "/" ++ back)
  rw [inner, whole] at long
  exact same_of_idle idle (Text.pieces_ne_nil '/' front) (by simp) short long

theorem Respells.same (respells : Respells left right) : Same left right := by
  cases respells with
  | repeated front back =>
      have between := same_of_idle_between front "" back rfl rfl
      have spelled : front ++ "/" ++ ("" ++ "/" ++ back) = front ++ "//" ++ back := by
        simp [← String.toList_inj]
      rwa [spelled] at between
  | @trailing text filled =>
      have long : Text.pieces '/' (text ++ "/" ++ "") = _ := Text.pieces_join '/' text ""
      have short : Text.pieces '/' text = Text.pieces '/' text ++ [] := (List.append_nil _).symm
      rw [String.append_empty] at long
      exact same_of_idle rfl (Text.pieces_ne_nil '/' text) filled short long
  | inner front back =>
      have between := same_of_idle_between front "." back rfl rfl
      have spelled : front ++ "/" ++ ("." ++ "/" ++ back) = front ++ "/./" ++ back := by
        simp [← String.toList_inj]
      rwa [spelled] at between

/-- Spellings of one path have the same components. -/
theorem Respelled.same (respelled : Respelled left right) : Same left right := by
  induction respelled with
  | rel left right respells => exact respells.same
  | refl path => exact Same.refl path
  | symm left right _ same => exact same.symm
  | trans left middle right _ _ first second => exact first.trans second

theorem Respelled.all {lefts rights : List FilePath}
    (respelled : List.Forall₂ Respelled lefts rights) : SameAll lefts rights := by
  induction respelled with
  | nil => rfl
  | cons first _ same =>
      rw [SameAll, List.map_cons, List.map_cons]
      exact congrArg₂ List.cons first.same same

theorem SameAll.exists_same {lefts rights : List FilePath} (same : SameAll lefts rights)
    (member : left ∈ lefts) : ∃ right ∈ rights, Same left right := by
  have listed : left.components ∈ rights.map components := by
    rw [← show lefts.map components = rights.map components from same]
    exact List.mem_map_of_mem member
  obtain ⟨right, member', equal⟩ := List.mem_map.mp listed
  exact ⟨right, member', equal.symm⟩

end FilePath

/-! ## The last of the deepest modules -/

theorem mem_of_getElem?_append_cons {α : Type} {front back : List α} {here there : α} {later : Nat}
    (listed : (front ++ here :: back)[later]? = some there) (after : front.length < later) :
    there ∈ back := by
  obtain ⟨more, rfl⟩ := Nat.exists_eq_add_of_lt after
  have beyond : front.length + more + 1 - front.length = more + 1 := by omega
  rw [List.getElem?_append_right (by omega), beyond, List.getElem?_cons_succ] at listed
  exact List.mem_of_getElem? listed

namespace Project

variable {project other : Project} {file otherFile root : FilePath} {owner : ProjectModule}
  {place : Nat}

/-- The module at some place owns a file, and no content root of a later one is as deep. -/
structure IsInnermost (project : Project) (file : FilePath) (place : Nat) (owner : ProjectModule)
    (root : FilePath) : Prop extends project.Owns owner root file where
  stands : project.modules[place]? = some owner
  last : ∀ later other, place < later → project.modules[later]? = some other →
    ∀ content ∈ other.contentRoots, file.StartsWith content → content.depth < root.depth

section Unique

variable {place' : Nat} {owner' : ProjectModule} {root' : FilePath}

/-- A module that stands later would have a root less deep. -/
theorem IsInnermost.place_le (one : project.IsInnermost file place owner root)
    (two : project.IsInnermost file place' owner' root') : place' ≤ place := by
  by_contra later
  have shallow := one.last place' owner' (by omega) two.stands root' two.rooted two.contains
  have deep := two.deepest owner one.listed root one.rooted one.contains
  omega

theorem IsInnermost.unique (one : project.IsInnermost file place owner root)
    (two : project.IsInnermost file place' owner' root') : owner = owner' := by
  obtain rfl : place = place' := Nat.le_antisymm (two.place_le one) (one.place_le two)
  exact Option.some.inj (one.stands.symm.trans two.stands)

end Unique

/-- The last of the deepest owners is the innermost module. -/
theorem exists_isInnermost {depth : Nat}
    (deepest : LastDeepest (project.owners file) (depth, owner)) :
    ∃ place root, project.IsInnermost file place owner root := by
  obtain ⟨member, deep⟩ := mem_owners_iff.mp deepest.mem
  obtain ⟨⟨root, rooted, contains, rfl⟩, -⟩ := ProjectModule.owningDepth?_eq_some_iff.mp deep
  have bound : ∀ entry ∈ project.owners file, entry.1 ≤ root.depth := fun entry => deepest.le
  obtain ⟨early, late, split, -, after⟩ := deepest
  rw [owners] at split
  obtain ⟨front, back, modules_eq, -, rest⟩ := List.filterMap_eq_append_iff.mp split
  obtain ⟨skipped, found, later_modules, rfl, -, entry, rfl⟩ := List.filterMap_eq_cons_iff.mp rest
  obtain ⟨_, -, same⟩ := Option.map_eq_some_iff.mp entry
  obtain rfl : found = owner := (Prod.mk.inj same).2
  rw [← List.append_assoc] at modules_eq
  refine ⟨(front ++ skipped).length, root, ⟨member, rooted, contains, ?_⟩, ?_, ?_⟩
  · intro other listed content rooted' contains'
    obtain ⟨other_depth, other_deep, within⟩ := other.exists_depth_le rooted' contains'
    exact within.trans (bound _ (mem_owners_iff.mpr ⟨listed, other_deep⟩))
  · rw [modules_eq, List.getElem?_append_right (le_refl _), Nat.sub_self, List.getElem?_cons_zero]
  · intro later other beyond listed content rooted' contains'
    obtain ⟨other_depth, other_deep, within⟩ := other.exists_depth_le rooted' contains'
    rw [modules_eq] at listed
    have follows := mem_of_getElem?_append_cons listed beyond
    have entered : (other_depth, other) ∈ later_modules.filterMap fun owner =>
        (owner.owningDepth? file).map fun depth => (depth, owner) :=
      List.mem_filterMap.mpr ⟨other, follows, by rw [other_deep]; rfl⟩
    exact within.trans_lt (after _ entered)

theorem moduleFor?_eq_some_iff :
    project.moduleFor? file = some owner ↔
      ∃ place root, project.IsInnermost file place owner root := by
  constructor
  · intro owned
    rcases project.moduleFor?_cases file with ⟨-, nothing⟩ | ⟨depth, best, found, deepest⟩
    · rw [nothing] at owned
      cases owned
    · obtain rfl := Option.some.inj (found.symm.trans owned)
      exact exists_isInnermost deepest
  · rintro ⟨place, root, innermost⟩
    obtain ⟨best, content, owned, -⟩ :=
      exists_moduleFor? innermost.listed innermost.rooted innermost.contains
    rcases project.moduleFor?_cases file with ⟨-, nothing⟩ | ⟨depth, best, found, deepest⟩
    · rw [nothing] at owned
      cases owned
    · obtain ⟨place', root', rival⟩ := exists_isInnermost deepest
      rw [found, rival.unique innermost]

theorem exists_moduleFor?_iff :
    (∃ owner, project.moduleFor? file = some owner) ↔
      ∃ owner ∈ project.modules, ∃ root ∈ owner.contentRoots, file.StartsWith root := by
  constructor
  · rintro ⟨owner, owned⟩
    obtain ⟨place, root, innermost⟩ := moduleFor?_eq_some_iff.mp owned
    exact ⟨owner, innermost.listed, root, innermost.rooted, innermost.contains⟩
  · rintro ⟨owner, listed, root, rooted, contains⟩
    obtain ⟨best, -, owned, -⟩ := exists_moduleFor? listed rooted contains
    exact ⟨best, owned⟩

/-! ## Projects in another spelling -/

/-- The modules of two projects have the same content roots up to spelling, one by one. -/
def SameRoots (project other : Project) : Prop :=
  List.Forall₂ (fun left right : ProjectModule =>
    FilePath.SameAll left.contentRoots right.contentRoots) project.modules other.modules

theorem SameRoots.symm (same : SameRoots project other) : SameRoots other project :=
  List.Forall₂.flip (same.imp fun _ _ roots => roots.symm)

theorem SameRoots.exists_at (same : SameRoots project other)
    (stands : project.modules[place]? = some owner) :
    ∃ owner', other.modules[place]? = some owner' ∧
      FilePath.SameAll owner.contentRoots owner'.contentRoots := by
  rw [SameRoots, List.forall₂_iff_get] at same
  obtain ⟨bound, rfl⟩ := List.getElem?_eq_some_iff.mp stands
  have bound' : place < other.modules.length := same.1 ▸ bound
  exact ⟨other.modules[place], List.getElem?_eq_getElem bound', same.2 place bound bound'⟩

/-- Whatever is around a file in one spelling is around it in the other, at the same place and at
the same depth. -/
theorem SameRoots.exists_around (same : SameRoots project other) (files : file.Same otherFile)
    (stands : project.modules[place]? = some owner) (rooted : root ∈ owner.contentRoots)
    (contains : file.StartsWith root) :
    ∃ owner' root', other.modules[place]? = some owner' ∧ root' ∈ owner'.contentRoots ∧
      otherFile.StartsWith root' ∧ root'.depth = root.depth := by
  obtain ⟨owner', stands', roots⟩ := same.exists_at stands
  obtain ⟨root', rooted', equal⟩ := roots.exists_same rooted
  refine ⟨owner', root', stands', rooted', ?_, congrArg List.length equal.symm⟩
  rwa [FilePath.StartsWith, equal, files] at contains

theorem IsInnermost.respelled (same : SameRoots project other) (files : file.Same otherFile)
    (innermost : project.IsInnermost file place owner root) :
    ∃ owner' root', other.IsInnermost otherFile place owner' root' := by
  obtain ⟨owner', root', stands, rooted, contains, depth_eq⟩ :=
    same.exists_around files innermost.stands innermost.rooted innermost.contains
  refine ⟨owner', root', ⟨List.mem_of_getElem? stands, rooted, contains, ?_⟩, stands, ?_⟩
  · intro rival listed content content_rooted content_contains
    obtain ⟨somewhere, found⟩ := List.getElem?_of_mem listed
    obtain ⟨original, around, found', around_rooted, around_contains, same_depth⟩ :=
      same.symm.exists_around files.symm found content_rooted content_contains
    rw [depth_eq, ← same_depth]
    exact innermost.deepest original (List.mem_of_getElem? found') around around_rooted
      around_contains
  · intro later rival beyond found content content_rooted content_contains
    obtain ⟨original, around, found', around_rooted, around_contains, same_depth⟩ :=
      same.symm.exists_around files.symm found content_rooted content_contains
    rw [depth_eq, ← same_depth]
    exact innermost.last later original beyond found' around around_rooted around_contains

/-- The module of a file stands at the same place in either spelling. -/
theorem SameRoots.exists_place (same : SameRoots project other) (files : file.Same otherFile) :
    ∃ place : Nat, project.moduleFor? file = project.modules[place]? ∧
      other.moduleFor? otherFile = other.modules[place]? := by
  cases owned : project.moduleFor? file with
  | some owner =>
      obtain ⟨place, root, innermost⟩ := moduleFor?_eq_some_iff.mp owned
      obtain ⟨owner', root', innermost'⟩ := innermost.respelled same files
      refine ⟨place, innermost.stands.symm, ?_⟩
      rw [innermost'.stands]
      exact moduleFor?_eq_some_iff.mpr ⟨place, root', innermost'⟩
  | none =>
      have nobody : other.moduleFor? otherFile = none := by
        rw [Option.eq_none_iff_forall_ne_some]
        intro owner' owned'
        obtain ⟨place, root', innermost'⟩ := moduleFor?_eq_some_iff.mp owned'
        obtain ⟨owner, root, innermost⟩ := innermost'.respelled same.symm files.symm
        rw [moduleFor?_eq_some_iff.mpr ⟨place, root, innermost⟩] at owned
        cases owned
      have as_many : project.modules.length = other.modules.length := same.length_eq
      refine ⟨project.modules.length, ?_, ?_⟩
      · rw [List.getElem?_eq_none (le_refl _)]
      · rw [nobody, as_many, List.getElem?_eq_none (le_refl _)]

/-- A file has a module when a content root is a component-wise beginning of it; its module is the
last one with such a root as deep as any; and respelling the file and the roots leaves the place of
the module. -/
theorem moduleFor?_innermost (project : Project) (file : FilePath) :
    ((∃ owner, project.moduleFor? file = some owner) ↔
        ∃ owner ∈ project.modules, ∃ root ∈ owner.contentRoots, file.StartsWith root) ∧
      (∀ owner, project.moduleFor? file = some owner ↔
        ∃ place root, project.IsInnermost file place owner root) ∧
      ∀ (other : Project) (otherFile : FilePath), file.Respelled otherFile →
        List.Forall₂ (fun left right : ProjectModule =>
          List.Forall₂ FilePath.Respelled left.contentRoots right.contentRoots)
          project.modules other.modules →
        ∃ place : Nat, project.moduleFor? file = project.modules[place]? ∧
          other.moduleFor? otherFile = other.modules[place]? := by
  refine ⟨exists_moduleFor?_iff, fun owner => moduleFor?_eq_some_iff, ?_⟩
  intro other otherFile files roots
  have same : SameRoots project other :=
    roots.imp fun _ _ respelled => FilePath.Respelled.all respelled
  exact same.exists_place files.same

/-- A module at the root of a project, and two modules inside of it. -/
def shop (orders items : String) : Project where
  name := "shop"
  base := ⟨"/p"⟩
  modules :=
    [⟨"root", none, none, [⟨"/p"⟩]⟩, ⟨"orders", none, none, [⟨orders⟩]⟩,
      ⟨"items", none, none, [⟨items⟩]⟩]
  index := .empty

/-- Of two modules with one content root the later one owns its files, in either spelling. -/
theorem moduleFor?_innermost_shared :
    ((shop "/p/a" "/p/a").moduleFor? ⟨"/p/a/B.java"⟩).map ProjectModule.name = some "items" ∧
      ∃ place : Nat,
        (shop "/p/a" "/p/a").moduleFor? ⟨"/p/a/B.java"⟩ = (shop "/p/a" "/p/a").modules[place]? ∧
        (shop "/p//a" "/p/a/").moduleFor? ⟨"/p/./a/B.java"⟩ =
          (shop "/p//a" "/p/a/").modules[place]? := by
  have file : FilePath.Respells ⟨"/p/a/B.java"⟩ ⟨"/p/./a/B.java"⟩ := .inner "/p" "a/B.java"
  have orders : FilePath.Respells ⟨"/p/a"⟩ ⟨"/p//a"⟩ := .repeated "/p" "a"
  have items : FilePath.Respells ⟨"/p/a"⟩ ⟨"/p/a/"⟩ := .trailing (by decide)
  refine ⟨by decide, ?_⟩
  refine (moduleFor?_innermost (shop "/p/a" "/p/a") ⟨"/p/a/B.java"⟩).2.2 _ _ (.rel _ _ file) ?_
  exact .cons (.cons (.refl _) .nil) (.cons (.cons (.rel _ _ orders) .nil)
    (.cons (.cons (.rel _ _ items) .nil) .nil))

end Project
end ClassEnhancement
