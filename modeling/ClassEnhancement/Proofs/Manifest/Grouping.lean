import ClassEnhancement.Proofs.Manifest.WireForm

/-!
# Package sets from any calls

A package set grows by entries, by raw lists and by other sets that have grown in the same way.  In
whatever order, how often and in whatever groups entries come, the set holds the packages that they
name, and only an entry that names a new package counts.
-/

namespace ClassEnhancement

theorem rawEntries_append (front back : String) {separator : Char}
    (separates : isListSeparator separator = true) :
    rawEntries (front ++ String.singleton separator ++ back) =
      rawEntries front ++ rawEntries back := by
  have spelled : (front ++ String.singleton separator ++ back).toList =
      front.toList ++ separator :: back.toList := by simp
  rw [rawEntries, spelled, List.splitOnP_append_cons _ _ separates, List.map_append]
  rfl

namespace PackageSet

variable {set left right : PackageSet} {entry package : String} {entries : List String}

/-! ## Calls -/

/-- A call that adds to a set. -/
inductive Call where
  /-- One entry, taken as a whole. -/
  | insert (entry : String)
  /-- A raw list of entries. -/
  | addRaw (raw : String)
  /-- The set that other calls build. -/
  | merge (calls : List Call)

mutual

/-- The set after a call. -/
def Call.apply (set : PackageSet) : Call → PackageSet
  | .insert entry => (set.insert entry).2
  | .addRaw raw => (set.addRaw raw).2
  | .merge calls => set.merge (applyAll empty calls)

/-- The set after calls, one after another. -/
def applyAll (set : PackageSet) : List Call → PackageSet
  | [] => set
  | call :: rest => applyAll (call.apply set) rest

end

mutual

/-- The entries that a call adds, those of merged sets included. -/
def Call.tokens : Call → List String
  | .insert entry => [entry]
  | .addRaw raw => rawEntries raw
  | .merge calls => tokensOf calls

/-- The entries that calls add. -/
def tokensOf : List Call → List String
  | [] => []
  | call :: rest => call.tokens ++ tokensOf rest

end

/-- The set that calls build from nothing. -/
def built (calls : List Call) : PackageSet := applyAll empty calls

/-! ## Members -/

theorem mem_insert :
    package ∈ (set.insert entry).2.packages ↔
      package ∈ set.packages ∨ packageOfEntry? entry = some package := by
  have one : package ∈ (set.insertAll [entry]).2.packages ↔
      package ∈ set.packages ∨ ∃ listed ∈ [entry], packageOfEntry? listed = some package :=
    mem_insertAll
  simpa [insertAll] using one

theorem mem_addRaw {raw : String} :
    package ∈ (set.addRaw raw).2.packages ↔
      package ∈ set.packages ∨ ∃ entry ∈ rawEntries raw, packageOfEntry? entry = some package :=
  mem_insertAll

theorem mem_merge :
    package ∈ (left.merge right).packages ↔
      package ∈ left.packages ∨ package ∈ right.packages := by
  rw [merge]
  induction right.packages generalizing left with
  | nil => simp
  | cons next rest hypothesis =>
      rw [List.foldl_cons, hypothesis, mem_add, List.mem_cons, or_assoc, or_left_comm]

mutual

/-- A call adds the packages that its entries name. -/
theorem mem_apply (set : PackageSet) (call : Call) :
    package ∈ (call.apply set).packages ↔
      package ∈ set.packages ∨ ∃ token ∈ call.tokens, packageOfEntry? token = some package := by
  cases call with
  | insert entry =>
      rw [Call.apply, Call.tokens, mem_insert]
      simp
  | addRaw raw => exact mem_addRaw
  | merge calls =>
      have inner := mem_applyAll empty calls
      rw [Call.apply, Call.tokens, mem_merge, inner]
      simp [empty]

theorem mem_applyAll (set : PackageSet) (calls : List Call) :
    package ∈ (applyAll set calls).packages ↔
      package ∈ set.packages ∨ ∃ token ∈ tokensOf calls, packageOfEntry? token = some package := by
  cases calls with
  | nil => simp [applyAll, tokensOf]
  | cons call rest =>
      have first := mem_apply set call
      have later := mem_applyAll (call.apply set) rest
      rw [applyAll, tokensOf, later, first, or_assoc]
      simp [or_and_right, exists_or]

end

theorem mem_built {calls : List Call} :
    package ∈ (built calls).packages ↔
      ∃ token ∈ tokensOf calls, packageOfEntry? token = some package := by
  rw [built, mem_applyAll]
  simp [empty]

theorem mem_tokensOf {calls : List Call} {call : Call} {token : String} (made : call ∈ calls)
    (listed : token ∈ call.tokens) : token ∈ tokensOf calls := by
  induction calls with
  | nil => cases made
  | cons first rest hypothesis =>
      rw [tokensOf, List.mem_append]
      rcases List.mem_cons.mp made with rfl | later
      · exact .inl listed
      · exact .inr (hypothesis later)

/-! ## Answers -/

/-- Entries in two parts add what the parts add, and count what the parts count. -/
theorem insertAll_append (set : PackageSet) (front back : List String) :
    set.insertAll (front ++ back) =
      ((set.insertAll front).1 + ((set.insertAll front).2.insertAll back).1,
        ((set.insertAll front).2.insertAll back).2) := by
  induction front generalizing set with
  | nil => simp [insertAll]
  | cons entry rest hypothesis =>
      simp only [List.cons_append, insertAll, hypothesis, Prod.mk.injEq, and_true]
      omega

/-- Entries that name nothing new add nothing and count nothing. -/
theorem insertAll_of_stored
    (stored : ∀ entry ∈ entries, ∀ package, packageOfEntry? entry = some package →
      package ∈ set.packages) : set.insertAll entries = (0, set) := by
  have same : (set.insertAll entries).2 = set := by
    refine eq_of_mem_iff fun package => ?_
    rw [mem_insertAll]
    constructor
    · rintro (old | ⟨entry, listed, named⟩)
      · exact old
      · exact stored entry listed package named
    · exact .inl
  have grown := size_insertAll set entries
  rw [same] at grown
  exact Prod.ext (Nat.left_eq_add.mp grown) same

theorem insert_of_stored
    (stored : ∀ package, packageOfEntry? entry = some package → package ∈ set.packages) :
    set.insert entry = (false, set) := by
  have single : set.insertAll [entry] = (0, set) := insertAll_of_stored (by simpa using stored)
  simp only [insertAll, Nat.zero_add, Prod.mk.injEq, Bool.toNat_eq_zero] at single
  exact Prod.ext single.1 single.2

/-- A call that changes nothing, and answers so. -/
def Call.IsIdle (set : PackageSet) : Call → Prop
  | .insert entry => set.insert entry = (false, set)
  | .addRaw raw => set.addRaw raw = (0, set)
  | .merge calls => set.merge (built calls) = set

theorem isIdle_of_stored {call : Call}
    (stored : ∀ token ∈ call.tokens, ∀ package, packageOfEntry? token = some package →
      package ∈ set.packages) : call.IsIdle set := by
  cases call with
  | insert entry => exact insert_of_stored (by simpa [Call.tokens] using stored)
  | addRaw raw => exact insertAll_of_stored stored
  | merge calls =>
      refine eq_of_mem_iff fun package => ?_
      rw [mem_merge, mem_built]
      constructor
      · rintro (old | ⟨token, listed, named⟩)
        · exact old
        · exact stored token listed package named
      · exact .inl

/-- Calls with the same entries build the same set.  A raw list that a separator cuts in two adds and
counts what its parts do, answers are the growth of the set, and a call that was made before changes
nothing. -/
theorem gathers_entries :
    (∀ left right : List Call, (∀ token, token ∈ tokensOf left ↔ token ∈ tokensOf right) →
      built left = built right) ∧
    (∀ (set : PackageSet) (front back : String) (separator : Char),
      isListSeparator separator = true →
        set.addRaw (front ++ String.singleton separator ++ back) =
          ((set.addRaw front).1 + ((set.addRaw front).2.addRaw back).1,
            ((set.addRaw front).2.addRaw back).2)) ∧
    (∀ (set : PackageSet) (entry : String),
      (set.insert entry).2.size = set.size + (set.insert entry).1.toNat) ∧
    (∀ (set : PackageSet) (raw : String),
      (set.addRaw raw).2.size = set.size + (set.addRaw raw).1) ∧
    ∀ (calls : List Call), ∀ call ∈ calls, call.IsIdle (built calls) := by
  refine ⟨fun left right same => ?same, fun set front back separator separates => ?split,
    size_insert, fun set raw => size_insertAll set _, fun calls call made => ?again⟩
  case same =>
    refine eq_of_mem_iff fun package => ?_
    rw [mem_built, mem_built]
    simp only [same]
  case split =>
    rw [addRaw, rawEntries_append front back separates, insertAll_append]
    rfl
  case again =>
    refine isIdle_of_stored fun token listed package named => ?_
    exact mem_built.mpr ⟨token, mem_tokensOf made listed, named⟩

/-- Two lists and a merged set with three spellings of one package. -/
def groupedCalls : List Call :=
  [.addRaw "b.*;a.,b.*", .merge [.insert " a ", .merge [.addRaw "c"]]]

/-- Single entries in another order, the last one twice. -/
def singleCalls : List Call :=
  [.insert "c", .insert " a ", .addRaw "a.", .insert "b.*", .insert "b.*"]

/-- Both build one set; a separator that is no ASCII character cuts a list; and to repeat a call of
the one is idle. -/
theorem gathers_entries_grouped :
    built groupedCalls = built singleCalls ∧
      (empty.addRaw ("a" ++ String.singleton '\u2003' ++ "b")).1 = 2 ∧
      (built groupedCalls).addRaw "b.*;a.,b.*" = (0, built groupedCalls) := by
  obtain ⟨same, split, -, -, again⟩ := gathers_entries
  have grouped : tokensOf groupedCalls = ["b.*", "a.", "b.*", " a ", "c"] := by decide
  have single : tokensOf singleCalls = ["c", " a ", "a.", "b.*", "b.*"] := by decide
  have made : .addRaw "b.*;a.,b.*" ∈ groupedCalls := List.mem_cons_self
  refine ⟨same _ _ fun token => ?_, ?_, again groupedCalls _ made⟩
  · rw [grouped, single]
    simp only [List.mem_cons, List.not_mem_nil, or_false]
    tauto
  · rw [split empty "a" "b" '\u2003' (by decide)]
    decide

end PackageSet
end ClassEnhancement
