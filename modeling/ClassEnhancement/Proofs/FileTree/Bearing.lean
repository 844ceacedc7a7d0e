import ClassEnhancement.Proofs.FileTree.Below

/-!
# Paths with their dots resolved

Resolving the components of a path one after another leads from any location to another one.  A
relative path goes up a number of levels and from there down along names, wherever it starts.  So it
stays below a directory that it is joined to just where the names on its way down begin with those
that it has left on its way up.
-/

namespace ClassEnhancement
namespace FilePath

/-! ## Resolving components -/

/-- The location after one more component. -/
def turn (location : Location) : Component → Location
  | .root => []
  | .current => location
  | .parent => location.dropLast
  | .name text => location ++ [text]

/-- The location of a path whose components are resolved one after another. -/
def resolved (start : Location) (path : FilePath) : Location := path.components.foldl turn start

/-- A path leads below a directory, as far as its components tell. -/
def IsBelow (start : Location) (directory path : FilePath) : Prop :=
  ∃ names, names ≠ [] ∧ path.resolved start = directory.resolved start ++ names

/-- A way up and from there down. -/
structure Bearing where
  /-- Number of levels on the way up. -/
  rise : Nat
  /-- Names on the way down. -/
  names : List String
  deriving DecidableEq, Repr

namespace Bearing

/-- The way with one more component. -/
def step (bearing : Bearing) : Component → Bearing
  | .root => ⟨0, []⟩
  | .current => bearing
  | .parent =>
    if bearing.names = [] then { bearing with rise := bearing.rise + 1 }
    else { bearing with names := bearing.names.dropLast }
  | .name text => { bearing with names := bearing.names ++ [text] }

/-- Where the way leads from a location. -/
def reached (bearing : Bearing) (location : Location) : Location :=
  location.take (location.length - bearing.rise) ++ bearing.names

variable {bearing : Bearing} {component : Component}

theorem turn_reached (unrooted : component ≠ .root) (location : Location) :
    turn (bearing.reached location) component = (bearing.step component).reached location := by
  obtain ⟨rise, names⟩ := bearing
  cases component with
  | root => exact absurd rfl unrooted
  | current => rfl
  | name text => simp only [turn, reached, step, List.append_assoc]
  | parent =>
      by_cases bare : names = []
      · have shorter : (location.take (location.length - rise)).dropLast =
            location.take (location.length - (rise + 1)) := by
          rw [List.dropLast_eq_take, List.take_take, List.length_take]
          congr 1
          omega
        simp only [turn, reached, step, bare, if_true, List.append_nil, shorter]
      · simp only [turn, reached, step, bare, if_false, List.dropLast_append_of_ne_nil bare]

theorem foldl_reached (bearing : Bearing) {components : List Component}
    (unrooted : .root ∉ components) (location : Location) :
    components.foldl turn (bearing.reached location) =
      (components.foldl step bearing).reached location := by
  induction components generalizing bearing with
  | nil => rfl
  | cons component components induction =>
      rw [List.mem_cons, not_or] at unrooted
      obtain ⟨first, rest⟩ := unrooted
      rw [List.foldl_cons, List.foldl_cons, turn_reached (Ne.symm first), induction _ rest]

end Bearing

/-- The way that a path goes. -/
def bearing (path : FilePath) : Bearing := path.components.foldl Bearing.step ⟨0, []⟩

theorem rise_bearing {path : FilePath} (level : .parent ∉ path.components) :
    path.bearing.rise = 0 := by
  have kept : ∀ (components : List Component) (bearing : Bearing), .parent ∉ components →
      bearing.rise = 0 → (components.foldl Bearing.step bearing).rise = 0 := by
    intro components
    induction components with
    | nil => exact fun bearing _ start => start
    | cons component components induction =>
        intro bearing level start
        rw [List.mem_cons, not_or] at level
        refine induction _ level.2 ?_
        cases component with
        | parent => exact absurd rfl level.1
        | root => rfl
        | current => exact start
        | name text => exact start
  exact kept _ _ level rfl

theorem exists_components_of_pieces (path : FilePath) {front : List String} {last : String}
    (pieces : Text.pieces '/' path.text = front ++ [last])
    (named : componentOfPiece? last = some (.name last)) :
    ∃ before, path.components = before ++ [.name last] := by
  rw [components, pieces, List.filterMap_append, List.filterMap_cons, named, List.filterMap_nil]
  exact ⟨_, (List.append_assoc _ _ _).symm⟩

theorem names_bearing_ne_nil {path : FilePath} {front : List Component} {last : String}
    (ends : path.components = front ++ [.name last]) : path.bearing.names ≠ [] := by
  rw [bearing, ends, List.foldl_append]
  exact List.append_ne_nil_of_right_ne_nil _ (List.cons_ne_nil _ _)

/-- From a location, a path goes down through the names that it leaves on its way up, and on; an
absolute one goes through all names of the location. -/
def Stays (location : Location) (path : FilePath) : Prop :=
  ∃ names, names ≠ [] ∧ path.bearing.names =
    (if path.isAbsolute then location else location.drop (location.length - path.bearing.rise)) ++
      names

variable {path : FilePath}

theorem root_notMem_pieces (pieces : List String) :
    .root ∉ pieces.filterMap componentOfPiece? := by
  intro member
  obtain ⟨piece, -, found⟩ := List.mem_filterMap.mp member
  rw [componentOfPiece?] at found
  split at found
  · cases found
  · split at found <;> cases found

theorem root_notMem_components (free : path.isAbsolute = false) : .root ∉ path.components := by
  rw [components, free]
  simp only [Bool.false_eq_true, if_false, List.mem_append, root_notMem_pieces, or_false]
  split <;> simp

theorem resolved_of_relative (free : path.isAbsolute = false) (start : Location) :
    path.resolved start = path.bearing.reached start := by
  have unmoved : (⟨0, []⟩ : Bearing).reached start = start := by
    simp [Bearing.reached]
  rw [resolved, bearing, ← Bearing.foldl_reached _ (root_notMem_components free), unmoved]

theorem resolved_of_absolute (absolute : path.isAbsolute = true) (start : Location) :
    path.resolved start = path.bearing.names := by
  have rooted : path.components =
      .root :: (Text.pieces '/' path.text).filterMap componentOfPiece? := by
    rw [components, absolute]
    rfl
  have run := Bearing.foldl_reached ⟨0, []⟩ (root_notMem_pieces (Text.pieces '/' path.text)) []
  rw [resolved, bearing, rooted]
  simpa [Bearing.reached, turn, Bearing.step] using run

/-! ## Joined paths -/

/-- The components of a relative path lead where those of its pieces do. -/
theorem foldl_pieces (free : path.isAbsolute = false) (start : Location) :
    ((Text.pieces '/' path.text).filterMap componentOfPiece?).foldl turn start =
      path.resolved start := by
  rw [resolved, components, free]
  simp only [Bool.false_eq_true, if_false, List.foldl_append]
  split <;> rfl

/-- A relative path goes on from where the path before it leads. -/
theorem resolved_join (directory : FilePath) (free : path.isAbsolute = false) (start : Location) :
    (directory.join path).resolved start = path.resolved (directory.resolved start) := by
  by_cases empty : directory.text = ""
  · obtain ⟨text⟩ := directory
    obtain rfl : text = "" := empty
    have alone : (⟨""⟩ : FilePath).join path = path := by
      simp [join, free]
    have nothing : (⟨""⟩ : FilePath).components = [] := by decide
    rw [alone, resolved, resolved, resolved, nothing]
    rfl
  · rw [resolved, components_join_of_text directory free empty, List.foldl_append,
      foldl_pieces free]
    rfl

/-- A joined path is below the directory if and only if the path stays there. -/
theorem isBelow_join_iff (start : Location) (directory path : FilePath) :
    IsBelow start directory (directory.join path) ↔ path.Stays (directory.resolved start) := by
  rw [IsBelow, Stays]
  cases absolute : path.isAbsolute with
  | true =>
      have alone : directory.join path = path := by
        rw [join, if_pos absolute]
      rw [alone, resolved_of_absolute absolute]
      rfl
  | false =>
      rw [resolved_join directory absolute, resolved_of_relative absolute, Bearing.reached]
      generalize directory.resolved start = location
      simp only [Bool.false_eq_true, if_false]
      refine exists_congr fun names => and_congr_right fun _ => ?_
      conv_lhs =>
        rhs
        rw [← List.take_append_drop (location.length - path.bearing.rise) location,
          List.append_assoc]
      exact List.append_right_inj _

/-- A relative path that does not go up stays. -/
theorem stays_of_rise_eq_zero (free : path.isAbsolute = false) (level : path.bearing.rise = 0)
    (some_name : path.bearing.names ≠ []) (location : Location) : path.Stays location := by
  refine ⟨path.bearing.names, some_name, ?_⟩
  simp [free, level]

end FilePath
end ClassEnhancement
