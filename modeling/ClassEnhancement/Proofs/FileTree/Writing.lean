import ClassEnhancement.Proofs.FileTree.Course

/-!
# Reading what was written

What is written to a path is read from it.  A path that led to a vacant name leads to the new file
afterwards, and a path that led to a file still leads there: nothing on the way is replaced.
-/

namespace ClassEnhancement
namespace FileTree

/-- A write to a destination puts its file at a location. -/
def Destination.Hits (target : Location) : Destination → Prop
  | .present location => location = target
  | .vacant directory name => directory ++ [name] = target

/-- Steps have not come to a location, and go on from a place that is not below it. -/
def Progress.Avoids (target : Location) : Progress → Prop
  | .arrived destination => ¬ destination.Hits target
  | .detour next _ => ¬ target <+: next

variable {tree : FileTree} {links : Nat} {location target : Location} {steps : List String}
  {progress : Progress} {destination : Destination}

/-! ## Locations of links -/

theorem not_prefix_origin (apart : ¬ target <+: location) (link : FilePath) :
    ¬ target <+: origin location link := by
  rw [origin]
  split
  · intro below
    exact apart (List.prefix_nil.mp below ▸ List.nil_prefix)
  · exact apart

/-- Steps that do not start below a link neither end at it nor come below it. -/
theorem Course.avoids {link : FilePath} (course : tree.Course location steps progress)
    (found : tree.lookup? target = some (.link link)) (apart : ¬ target <+: location) :
    progress.Avoids target := by
  induction course with
  | arrive location =>
      rintro rfl
      exact apart (List.prefix_refl _)
  | stay _ _ hypothesis => exact hypothesis apart
  | leave _ _ hypothesis =>
      exact hypothesis fun below => apart (below.trans (List.dropLast_prefix _))
  | enter _ _ present unlinked _ hypothesis =>
      refine hypothesis fun below => ?_
      rcases List.prefix_concat_iff.mp below with rfl | above
      · exact unlinked link (Option.some.inj (present.symm.trans found))
      · exact apart above
  | divert => exact not_prefix_origin apart _
  | miss _ _ absent =>
      rintro rfl
      cases absent.symm.trans found

theorem Journey.not_hits {link : FilePath}
    (journey : tree.Journey links location steps destination)
    (found : tree.lookup? target = some (.link link)) (apart : ¬ target <+: location) :
    ¬ destination.Hits target := by
  induction journey with
  | arrive course => exact course.avoids found apart
  | detour course _ hypothesis => exact hypothesis (course.avoids found apart)

/-! ## Paths after a write -/

section Put

variable (free : tree.lookup? target ≠ some .directory) (content : Bytes)

include free

theorem lookup?_put_directory (directory : tree.lookup? location = some .directory) :
    (tree.put target (.file content)).lookup? location = some .directory := by
  have different : location ≠ target := by
    rintro rfl
    exact free directory
  rw [lookup?_put_of_ne tree different, directory]

theorem lookup?_put_target :
    (tree.put target (.file content)).lookup? target = some (.file content) := by
  refine lookup?_put_self tree ?_ _
  rintro rfl
  exact free rfl

/-- Steps that arrive where the file is put arrive at the file. -/
theorem Course.put_of_hits (course : tree.Course location steps (.arrived destination))
    (hits : destination.Hits target) :
    (tree.put target (.file content)).Course location steps (.arrived (.present target)) := by
  generalize reached : Progress.arrived destination = progress at course
  induction course with
  | arrive location =>
      cases reached
      cases hits
      exact .arrive _
  | stay directory _ hypothesis =>
      exact .stay (lookup?_put_directory free content directory) (hypothesis reached)
  | leave directory _ hypothesis =>
      exact .leave (lookup?_put_directory free content directory) (hypothesis reached)
  | @enter location step rest _ entry directory named present unlinked _ hypothesis =>
      have there := lookup?_put_directory free content directory
      by_cases new : location ++ [step] = target
      · subst new
        exact .enter there named (lookup?_put_target free content) nofun (hypothesis reached)
      · have kept := lookup?_put_of_ne tree new (.file content)
        exact .enter there named (kept.trans present) unlinked (hypothesis reached)
  | divert => cases reached
  | miss directory named absent =>
      cases reached
      cases hits
      exact .enter (lookup?_put_directory free content directory) named
        (lookup?_put_target free content) nofun (.arrive _)

/-- Steps that come to a link still do, unless the file replaces the link. -/
theorem Course.put_of_detour {next : Location} {rest : List String}
    (course : tree.Course location steps (.detour next rest)) :
    (tree.put target (.file content)).Course location steps (.detour next rest) ∨
      (∃ link, tree.lookup? target = some (.link link)) ∧ ¬ target <+: next := by
  generalize reached : Progress.detour next rest = progress at course
  induction course with
  | arrive => cases reached
  | stay directory _ hypothesis =>
      exact (hypothesis reached).imp_left (.stay (lookup?_put_directory free content directory))
  | leave directory _ hypothesis =>
      exact (hypothesis reached).imp_left (.leave (lookup?_put_directory free content directory))
  | @enter location step more _ entry directory named present unlinked onward hypothesis =>
      have there := lookup?_put_directory free content directory
      by_cases new : location ++ [step] = target
      · subst new
        exact (hypothesis reached).imp_left
          (.enter there named (lookup?_put_target free content) nofun)
      · have kept := lookup?_put_of_ne tree new (.file content)
        exact (hypothesis reached).imp_left (.enter there named (kept.trans present) unlinked)
  | @divert location step link directory named found more =>
      cases reached
      by_cases new : location ++ [step] = target
      · subst new
        have outside : ¬ location ++ [step] <+: location := fun below => by
          have longer := below.length_le
          rw [List.length_append, List.length_singleton] at longer
          omega
        exact .inr ⟨⟨link, found⟩, not_prefix_origin outside link⟩
      · have kept := lookup?_put_of_ne tree new (.file content)
        exact .inl (.divert (lookup?_put_directory free content directory) named
          (kept.trans found) more)
  | miss => cases reached

theorem Journey.put (journey : tree.Journey links location steps destination)
    (hits : destination.Hits target) :
    (tree.put target (.file content)).Journey links location steps (.present target) := by
  induction journey with
  | arrive course => exact .arrive (course.put_of_hits free content hits)
  | detour course onward hypothesis =>
      rcases course.put_of_detour free content with same | ⟨⟨_, found⟩, apart⟩
      · exact .detour same (hypothesis hits)
      · exact absurd hits (onward.not_hits found apart)

end Put

theorem Course.absent {directory : Location} {name : String}
    (course : tree.Course location steps (.arrived (.vacant directory name))) :
    tree.lookup? (directory ++ [name]) = none := by
  generalize reached : Progress.arrived (.vacant directory name) = progress at course
  induction course with
  | arrive => cases reached
  | stay _ _ hypothesis => exact hypothesis reached
  | leave _ _ hypothesis => exact hypothesis reached
  | enter _ _ _ _ _ hypothesis => exact hypothesis reached
  | divert => cases reached
  | miss _ _ absent =>
      cases reached
      exact absent

theorem Journey.absent {directory : Location} {name : String}
    (journey : tree.Journey links location steps (.vacant directory name)) :
    tree.lookup? (directory ++ [name]) = none := by
  generalize reached : Destination.vacant directory name = destination at journey
  induction journey with
  | arrive course =>
      subst reached
      exact course.absent
  | detour _ _ hypothesis => exact hypothesis reached

/-- A write hits the location that it changes, where there is no directory. -/
theorem hits_of_target {path : FilePath} (reached : tree.target path = .ok target) :
    tree.lookup? target ≠ some .directory ∧
      ∃ destination, tree.resolve path = .ok destination ∧ destination.Hits target := by
  rw [FileTree.target] at reached
  split at reached
  · split at reached <;> cases reached
  split at reached
  · cases reached
  · next directory name resolved =>
      cases reached
      have absent := (resolve_eq_ok_iff.mp resolved).2.absent
      exact ⟨by simp [absent], _, resolved, rfl⟩
  · next resolved =>
      split at reached
      · cases reached
      · next free =>
          cases reached
          exact ⟨free, _, resolved, rfl⟩

/-- What was written to a path is read from it. -/
theorem read_of_write {path : FilePath} {content : Bytes} {written : FileTree}
    (success : tree.write path content = .ok written) : written.read path = .ok content := by
  obtain ⟨target, reached, rfl⟩ := write_eq success
  obtain ⟨free, destination, resolved, hits⟩ := hits_of_target reached
  obtain ⟨usable, journey⟩ := resolve_eq_ok_iff.mp resolved
  have there : (tree.put target (.file content)).resolve path = .ok (.present target) :=
    resolve_eq_ok_iff.mpr ⟨usable, journey.put free content hits⟩
  exact read_eq_ok_iff.mpr ⟨target, locate_eq_ok_iff.mpr there, lookup?_put_target free content⟩

end FileTree
end ClassEnhancement
