import ClassEnhancement.Proofs.Text.Decoding
import ClassEnhancement.Source.Index
import Mathlib.Data.List.Dedup
import Mathlib.Data.List.Induction
import Mathlib.Data.List.Perm.Basic

/-!
# Lookups in a source index

A key is answered by the longest declared name whose segments begin the segments of the key, with
the first declaration of that name.  The index compares texts with a dot at their ends, octet by
octet; this finds whole segments, also where segments are empty.  Which names are declared, and by
which declarations first, is all that an index knows of the declarations it was given.
-/

namespace ClassEnhancement
namespace SourceIndex

/-! ## Segments -/

/-- The segments of a dotted key; every dot stands between two, which may be empty. -/
def segmentsOf (key : String) : List String := Text.pieces '.' key

/-- A closed key is its segments, each with a dot after it. -/
theorem closed_eq (key : String) :
    closed key = (key.toList.splitOn '.').flatMap (· ++ ['.']) := by
  have joined : ∀ pieces : List (List Char), pieces ≠ [] →
      ['.'].intercalate pieces ++ ['.'] = pieces.flatMap (· ++ ['.']) := by
    intro pieces some_piece
    induction pieces with
    | nil => exact absurd rfl some_piece
    | cons piece rest ih =>
        cases rest with
        | nil => simp
        | cons next rest =>
            rw [List.intercalate_cons_cons, List.append_assoc, ih (by simp)]
            rfl
  rw [closed, ← joined _ (List.splitOn_ne_nil _ _), List.intercalate_splitOn]

/-- Closed keys begin with each other where their segments do. -/
theorem closed_isPrefix_iff {name key : String} :
    closed name <+: closed key ↔ segmentsOf name <+: segmentsOf key := by
  constructor
  · rintro ⟨tail, joined⟩
    have cut := congrArg (List.splitOn '.') joined
    simp only [closed, List.append_assoc, List.singleton_append, List.splitOn_append_cons_self,
      List.splitOn_nil] at cut
    have longer : (name.toList.splitOn '.').length ≤ (key.toList.splitOn '.').length := by
      have lengths := congrArg List.length cut
      have some_piece := List.length_pos_of_ne_nil (List.splitOn_ne_nil '.' tail)
      simp only [List.length_append, List.length_singleton] at lengths
      omega
    have begins : name.toList.splitOn '.' <+: key.toList.splitOn '.' :=
      List.prefix_of_prefix_length_le ⟨_, cut⟩ (List.prefix_append _ _) longer
    exact begins.map String.ofList
  · intro begins
    have pieces : name.toList.splitOn '.' <+: key.toList.splitOn '.' := by
      simpa [segmentsOf, Text.pieces, Function.comp_def] using begins.map String.toList
    obtain ⟨rest, split⟩ := pieces
    rw [closed_eq, closed_eq, ← split, List.flatMap_append]
    exact List.prefix_append _ _

theorem covers_iff {name key : String} :
    covers name key = true ↔ segmentsOf name <+: segmentsOf key := by
  rw [covers, List.isPrefixOf_iff_prefix, closed_isPrefix_iff]

theorem closed_inj {left right : String} (same : closed left = closed right) : left = right := by
  rw [closed, closed] at same
  exact String.toList_inj.mp (List.append_cancel_right same)

/-- Of the names that cover a key, there is one of each length. -/
theorem eq_of_covers {left right key : String} (covers_left : covers left key = true)
    (covers_right : covers right key = true)
    (same : left.toList.length = right.toList.length) : left = right := by
  rw [covers, List.isPrefixOf_iff_prefix] at covers_left covers_right
  refine closed_inj ((List.prefix_of_prefix_length_le covers_left covers_right ?_).eq_of_length ?_)
  · simp [closed, same]
  · simp [closed, same]

/-! ## The longest name -/

/-- The first of the declarations with a longest name. -/
structure IsFirstLongest (declarations : List Declaration) (found : Declaration) : Prop where
  /-- No declaration before it has a name of that length. -/
  first : declarations.find? (fun other =>
    other.name.toList.length == found.name.toList.length) = some found
  /-- No name is longer. -/
  longest : ∀ other ∈ declarations, other.name.toList.length ≤ found.name.toList.length

theorem isFirstLongest_foldl (current : Declaration) (rest : List Declaration) :
    ∃ found, rest.foldl longer (some current) = some found ∧
      IsFirstLongest (current :: rest) found := by
  induction rest generalizing current with
  | nil => exact ⟨current, rfl, by simp, by simp⟩
  | cons next rest ih =>
      by_cases grows : current.name.toList.length < next.name.toList.length
      · obtain ⟨found, folded, first, longest⟩ := ih next
        have beyond := longest next List.mem_cons_self
        refine ⟨found, by simpa [longer, grows] using folded, ?_, ?_⟩
        · rw [List.find?_cons_of_neg (by simp only [beq_iff_eq]; omega)]
          exact first
        · intro other member
          rcases List.mem_cons.mp member with rfl | later
          · omega
          · exact longest other later
      · obtain ⟨found, folded, first, longest⟩ := ih current
        have beyond := longest current List.mem_cons_self
        refine ⟨found, by simpa [longer, grows] using folded, ?_, ?_⟩
        · by_cases same : current.name.toList.length = found.name.toList.length
          · rw [List.find?_cons_of_pos (by simpa using same)] at first ⊢
            exact first
          · rw [List.find?_cons_of_neg (by simpa using same)] at first ⊢
            rw [List.find?_cons_of_neg (by simp only [beq_iff_eq]; omega)]
            exact first
        · intro other member
          rcases List.mem_cons.mp member with rfl | member
          · exact beyond
          rcases List.mem_cons.mp member with rfl | later
          · omega
          · exact longest other (List.mem_cons_of_mem _ later)

theorem foldl_longer_eq_some_iff {declarations : List Declaration} {found : Declaration} :
    declarations.foldl longer none = some found ↔ IsFirstLongest declarations found := by
  cases declarations with
  | nil => exact ⟨nofun, fun ⟨first, _⟩ => by cases first⟩
  | cons current rest =>
      obtain ⟨chosen, folded, chosen_first, chosen_longest⟩ := isFirstLongest_foldl current rest
      have folded : (current :: rest).foldl longer none = some chosen := folded
      rw [folded]
      constructor
      · rintro ⟨⟩
        exact ⟨chosen_first, chosen_longest⟩
      · rintro ⟨first, longest⟩
        have longer_chosen := longest chosen (List.mem_of_find?_eq_some chosen_first)
        have longer_found := chosen_longest found (List.mem_of_find?_eq_some first)
        have same := Nat.le_antisymm longer_found longer_chosen
        rw [← chosen_first, ← same, first]

/-! ## The declaration that answers for a key -/

/-- The first of the declarations of a name. -/
def firstNamed? (declarations : List Declaration) (name : String) : Option Declaration :=
  declarations.find? fun declaration => declaration.name == name

/-- A declaration that answers for a key. -/
structure Answers (declarations : List Declaration) (key : String) (found : Declaration) :
    Prop where
  /-- It is the first one of its name. -/
  first : firstNamed? declarations found.name = some found
  /-- Its name is the key or an ancestor of the key. -/
  ancestor : segmentsOf found.name <+: segmentsOf key
  /-- No other declared ancestor has more segments. -/
  nearest : ∀ other ∈ declarations, segmentsOf other.name <+: segmentsOf key →
    segmentsOf other.name <+: segmentsOf found.name

/-- Among the declarations that cover a key, those of one length have one name. -/
theorem find?_filter_covers (declarations : List Declaration) {name key : String}
    (name_covers : covers name key = true) :
    (declarations.filter fun declaration => covers declaration.name key).find?
        (fun other => other.name.toList.length == name.toList.length) =
      firstNamed? declarations name := by
  rw [List.find?_filter, firstNamed?]
  congr 1
  funext other
  rw [Bool.eq_iff_iff]
  simp only [beq_iff_eq, decide_eq_true_eq]
  constructor
  · rintro ⟨other_covers, same⟩
    exact eq_of_covers other_covers name_covers same
  · intro same
    rw [same]
    exact ⟨name_covers, rfl⟩

/-- An index finds the declaration that answers for a key. -/
theorem find?_eq_some_iff {index : SourceIndex} {key : String} {found : Declaration} :
    index.find? key = some found ↔ Answers index.declarations key found := by
  rw [find?, foldl_longer_eq_some_iff]
  constructor
  · rintro ⟨first, longest⟩
    have found_covers := (List.mem_filter.mp (List.mem_of_find?_eq_some first)).2
    rw [find?_filter_covers index.declarations found_covers] at first
    refine ⟨first, covers_iff.mp found_covers, ?_⟩
    intro other member begins
    have kept := longest other (List.mem_filter.mpr ⟨member, covers_iff.mpr begins⟩)
    rw [← closed_isPrefix_iff]
    refine List.prefix_of_prefix_length_le (closed_isPrefix_iff.mpr begins)
      (closed_isPrefix_iff.mpr (covers_iff.mp found_covers)) ?_
    simpa [closed] using kept
  · rintro ⟨first, ancestor, nearest⟩
    have found_covers := covers_iff.mpr ancestor
    refine ⟨(find?_filter_covers index.declarations found_covers).trans first, ?_⟩
    intro other member
    obtain ⟨declared, other_covers⟩ := List.mem_filter.mp member
    have begins := closed_isPrefix_iff.mpr (nearest other declared (covers_iff.mp other_covers))
    simpa [closed] using begins.length_le

/-- Only the first declaration of each name counts. -/
theorem Answers.of_same_first {left right : List Declaration}
    (same : ∀ name, firstNamed? left name = firstNamed? right name) {key : String}
    {found : Declaration} (answers : Answers left key found) : Answers right key found where
  first := (same found.name).symm.trans answers.first
  ancestor := answers.ancestor
  nearest other member begins := by
    cases named : firstNamed? left other.name with
    | none =>
        rw [same] at named
        simpa using List.find?_eq_none.mp named other member
    | some first =>
        have name_eq : first.name = other.name := by simpa using List.find?_some named
        rw [← name_eq] at begins ⊢
        exact answers.nearest first (List.mem_of_find?_eq_some named) begins

/-- Whole segments are compared when the octets of closed texts are. -/
theorem answers_iff_octets {declarations : List Declaration} {key : String} {found : Declaration} :
    Answers declarations key found ↔
      firstNamed? declarations found.name = some found ∧
        Utf8.encodeChars (closed found.name) <+: Utf8.encodeChars (closed key) ∧
        ∀ other ∈ declarations,
          Utf8.encodeChars (closed other.name) <+: Utf8.encodeChars (closed key) →
            (Utf8.encodeChars (closed other.name)).length ≤
              (Utf8.encodeChars (closed found.name)).length := by
  constructor
  · rintro ⟨first, ancestor, nearest⟩
    refine ⟨first, Utf8.encodeChars_isPrefix_iff.mpr (closed_isPrefix_iff.mpr ancestor), ?_⟩
    intro other member begins
    have segments := closed_isPrefix_iff.mp (Utf8.encodeChars_isPrefix_iff.mp begins)
    have nearer := closed_isPrefix_iff.mpr (nearest other member segments)
    exact (Utf8.encodeChars_isPrefix_iff.mpr nearer).length_le
  · rintro ⟨first, begins, longest⟩
    refine ⟨first, closed_isPrefix_iff.mp (Utf8.encodeChars_isPrefix_iff.mp begins), ?_⟩
    intro other member segments
    have other_begins := Utf8.encodeChars_isPrefix_iff.mpr (closed_isPrefix_iff.mpr segments)
    have nearer :=
      List.prefix_of_prefix_length_le other_begins begins (longest other member other_begins)
    exact closed_isPrefix_iff.mp (Utf8.encodeChars_isPrefix_iff.mp nearer)

/-- Indexes with the same first declarations answer alike. -/
theorem find?_eq_of_same_first {left right : SourceIndex}
    (same : ∀ name, firstNamed? left.declarations name = firstNamed? right.declarations name)
    (key : String) : left.find? key = right.find? key := by
  ext found
  rw [find?_eq_some_iff, find?_eq_some_iff]
  exact ⟨.of_same_first same, .of_same_first fun name => (same name).symm⟩

/-- A key has an answer when some declared name is the key or an ancestor of it. -/
theorem isSome_find?_iff {index : SourceIndex} {key : String} :
    (index.find? key).isSome = true ↔
      ∃ declaration ∈ index.declarations, segmentsOf declaration.name <+: segmentsOf key := by
  constructor
  · intro answered
    obtain ⟨found, answers⟩ := Option.isSome_iff_exists.mp answered
    rw [find?_eq_some_iff] at answers
    exact ⟨found, List.mem_of_find?_eq_some answers.first, answers.ancestor⟩
  · rintro ⟨declaration, declared, begins⟩
    have kept : declaration ∈ index.declarations.filter fun other => covers other.name key :=
      List.mem_filter.mpr ⟨declared, covers_iff.mpr begins⟩
    rw [find?]
    generalize index.declarations.filter (fun other => covers other.name key) = candidates at kept
    cases candidates with
    | nil => cases kept
    | cons current rest =>
        obtain ⟨found, folded, -⟩ := isFirstLongest_foldl current rest
        exact Option.isSome_iff_exists.mpr ⟨found, folded⟩

/-! ## Declarations one after another -/

/-- The index after declarations, one after another, where only these files are registered. -/
def ofHistory (files : List FilePath) (history : List Declaration) : SourceIndex :=
  history.foldl insertFirst ⟨[], files⟩

theorem ofHistory_concat (files : List FilePath) (history : List Declaration)
    (declaration : Declaration) :
    ofHistory files (history ++ [declaration]) =
      (ofHistory files history).insertFirst declaration := by
  simp [ofHistory]

theorem declared?_insertFirst (index : SourceIndex) (declaration : Declaration) (name : String) :
    (index.insertFirst declaration).declared? name =
      (index.declared? name).or (firstNamed? [declaration] name) := by
  rw [insertFirst, insert]
  cases known : index.declared? declaration.name with
  | none => simp only [declared?, firstNamed?, List.find?_append]
  | some first =>
      by_cases same : declaration.name = name
      · subst same
        simp [known]
      · simp [firstNamed?, same]

/-- The index declares a name as the history declares it first. -/
theorem declared?_ofHistory (files : List FilePath) (history : List Declaration) (name : String) :
    (ofHistory files history).declared? name = firstNamed? history name := by
  induction history using List.reverseRecOn with
  | nil => rfl
  | append_singleton history declaration ih =>
      rw [ofHistory_concat, declared?_insertFirst, ih, firstNamed?, firstNamed?, firstNamed?,
        List.find?_append]

theorem mem_names_iff {declarations : List Declaration} {name : String} :
    name ∈ declarations.map Declaration.name ↔ (firstNamed? declarations name).isSome = true := by
  rw [firstNamed?, List.find?_isSome]
  simp

/-- The index declares every name of the history once. -/
theorem names_ofHistory_perm (files : List FilePath) (history : List Declaration) :
    ((ofHistory files history).declarations.map Declaration.name).Perm
      (history.map Declaration.name).dedup := by
  refine (List.perm_ext_iff_of_nodup ?_ (List.nodup_dedup _)).mpr fun name => ?_
  · induction history using List.reverseRecOn with
    | nil => exact List.nodup_nil
    | append_singleton history declaration ih =>
        rw [ofHistory_concat, insertFirst, insert]
        cases known : (ofHistory files history).declared? declaration.name with
        | some first => exact ih
        | none =>
            have absent : declaration.name ∉
                (ofHistory files history).declarations.map Declaration.name := by
              have unnamed : firstNamed? _ declaration.name = none := known
              rw [mem_names_iff, unnamed]
              simp
            simpa [List.nodup_append'] using ⟨ih, by simpa using absent⟩
  · rw [List.mem_dedup, mem_names_iff, mem_names_iff]
    exact iff_of_eq (congrArg (·.isSome = true) (declared?_ofHistory files history name))

/-- The declarations of distinct names are the same ones first in any order. -/
theorem firstNamed?_eq_of_perm {left right : List Declaration} (same : left.Perm right)
    (distinct : (right.map Declaration.name).Nodup) (name : String) :
    firstNamed? left name = firstNamed? right name := by
  have found_iff : ∀ declarations : List Declaration,
      (declarations.map Declaration.name).Nodup → ∀ found,
        firstNamed? declarations name = some found ↔
          found ∈ declarations ∧ found.name = name := by
    intro declarations nodup found
    constructor
    · intro first
      exact ⟨List.mem_of_find?_eq_some first, by simpa using List.find?_some first⟩
    · rintro ⟨member, rfl⟩
      cases first : firstNamed? declarations found.name with
      | none => simpa using List.find?_eq_none.mp first found member
      | some other =>
          have name_eq : other.name = found.name := by simpa using List.find?_some first
          rw [List.inj_on_of_nodup_map nodup (List.mem_of_find?_eq_some first) member name_eq]
  ext found
  rw [found_iff left ((same.map _).nodup_iff.mpr distinct), found_iff right distinct,
    same.mem_iff]

/-- What an index answers after declarations, one after another. -/
structure Recalls (files : List FilePath) (history : List Declaration) : Prop where
  /-- A key is answered by the first declaration of its nearest declared ancestor. -/
  found_iff : ∀ key found,
    (ofHistory files history).find? key = some found ↔ Answers history key found
  /-- A key has an answer when a declared name is the key or an ancestor of it. -/
  answered_iff : ∀ key, ((ofHistory files history).find? key).isSome = true ↔
    ∃ declaration ∈ history, segmentsOf declaration.name <+: segmentsOf key
  /-- The answer has the longest closed name whose octets begin those of the closed key. -/
  octets_iff : ∀ key found, (ofHistory files history).find? key = some found ↔
    firstNamed? history found.name = some found ∧
      Utf8.encodeChars (closed found.name) <+: Utf8.encodeChars (closed key) ∧
      ∀ other ∈ history, Utf8.encodeChars (closed other.name) <+: Utf8.encodeChars (closed key) →
        (Utf8.encodeChars (closed other.name)).length ≤
          (Utf8.encodeChars (closed found.name)).length
  /-- A name is refused when it was declared before, with the file of its first declaration. -/
  refused_iff : ∀ declaration duplicate,
    (ofHistory files history).insert declaration = .error duplicate ↔
      ∃ first, firstNamed? history declaration.name = some first ∧
        duplicate = ⟨declaration.name, first.file⟩
  /-- A refused declaration changes nothing. -/
  refused : ∀ declaration duplicate,
    (ofHistory files history).insert declaration = .error duplicate →
      ofHistory files (history ++ [declaration]) = ofHistory files history
  /-- Every name counts once. -/
  size_eq : (ofHistory files history).size = (history.map Declaration.name).dedup.length
  /-- Distinct names may be declared in any order. -/
  order : ∀ other, other.Perm history → (history.map Declaration.name).Nodup →
    (∀ key, (ofHistory files other).find? key = (ofHistory files history).find? key) ∧
      (ofHistory files other).size = (ofHistory files history).size

/-- An index answers for whole segments and by first declarations. -/
theorem recalls_ofHistory (files : List FilePath) (history : List Declaration) :
    Recalls files history := by
  have same : ∀ name,
      firstNamed? (ofHistory files history).declarations name = firstNamed? history name :=
    declared?_ofHistory files history
  have found_iff : ∀ key found,
      (ofHistory files history).find? key = some found ↔ Answers history key found := by
    intro key found
    rw [find?_eq_some_iff]
    exact ⟨.of_same_first same, .of_same_first fun name => (same name).symm⟩
  have names := names_ofHistory_perm files history
  have declared_iff : ∀ name, name ∈ (ofHistory files history).declarations.map Declaration.name ↔
      name ∈ history.map Declaration.name :=
    fun name => names.mem_iff.trans List.mem_dedup
  refine
    { found_iff
      answered_iff := fun key => ?_
      octets_iff := fun key found => ?_
      refused_iff := fun declaration duplicate => ?_
      refused := fun declaration duplicate refuses => ?_
      size_eq := by simpa [size] using names.length_eq
      order := fun other perm distinct => ⟨fun key => ?_, ?_⟩ }
  · rw [isSome_find?_iff]
    constructor
    · rintro ⟨declaration, declared, begins⟩
      obtain ⟨first, member, name_eq⟩ := List.mem_map.mp
        ((declared_iff declaration.name).mp (List.mem_map_of_mem declared))
      exact ⟨first, member, name_eq ▸ begins⟩
    · rintro ⟨declaration, member, begins⟩
      obtain ⟨first, declared, name_eq⟩ := List.mem_map.mp
        ((declared_iff declaration.name).mpr (List.mem_map_of_mem member))
      exact ⟨first, declared, name_eq ▸ begins⟩
  · exact (found_iff key found).trans answers_iff_octets
  · rw [insert, declared?_ofHistory]
    cases firstNamed? history declaration.name with
    | none => simp
    | some first => simp [eq_comm]
  · rw [ofHistory_concat, insertFirst, refuses]
  · refine find?_eq_of_same_first (fun name => ?_) key
    rw [same, ← firstNamed?_eq_of_perm perm distinct]
    exact declared?_ofHistory files other name
  · have other_names := names_ofHistory_perm files other
    have dedup_perm := (perm.map Declaration.name).dedup
    simpa [size] using (other_names.trans (dedup_perm.trans names.symm)).length_eq

/-- Declarations of a class, of a class nested in it, and of the empty name. -/
def nestedHistory : List Declaration :=
  [⟨"a.Order", ⟨"Order.java"⟩, .source⟩, ⟨"a.Order.Line", ⟨"Line.java"⟩, .source⟩,
    ⟨"", ⟨".java"⟩, .source⟩]

/-- The nested class answers for what is nested in it, in either order; another class with a longer
name is unknown, and an empty first segment leads to the empty name. -/
theorem recalls_nestedHistory :
    (ofHistory [] nestedHistory.reverse).find? "a.Order.Line.Detail" =
        some ⟨"a.Order.Line", ⟨"Line.java"⟩, .source⟩ ∧
      ((ofHistory [] nestedHistory).find? "a.OrderLine").isSome = false ∧
      (ofHistory [] nestedHistory).find? ".Order" = some ⟨"", ⟨".java"⟩, .source⟩ := by
  have recalls := recalls_ofHistory [] nestedHistory
  have order := recalls.order nestedHistory.reverse (List.reverse_perm _) (by decide)
  refine ⟨(order.1 _).trans ((recalls.found_iff _ _).mpr ⟨by decide, by decide, by decide⟩), ?_,
    (recalls.found_iff _ _).mpr ⟨by decide, by decide, by decide⟩⟩
  rw [Bool.eq_false_iff, ne_eq, recalls.answered_iff]
  decide

end SourceIndex
end ClassEnhancement
