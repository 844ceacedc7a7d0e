/-!
# Maps in insertion order

A map lists every key once, in the order of first insertion.  Inserting a present key replaces its
value and keeps its place.  `find?` is the view through which the operations are described; the
list of keys carries the order.
-/

namespace ClassEnhancement

/-- Distinct keys with their values, in order of first insertion. -/
structure OrderedMap (κ α : Type) where
  /-- Keys with values. -/
  entries : List (κ × α)
  /-- No key is listed twice. -/
  distinct : (entries.map Prod.fst).Nodup

namespace OrderedMap

variable {κ α : Type}

/-- The map without keys. -/
def empty : OrderedMap κ α := ⟨[], List.nodup_nil⟩

instance : Inhabited (OrderedMap κ α) := ⟨empty⟩

/-- Keys in order. -/
def keys (map : OrderedMap κ α) : List κ := map.entries.map Prod.fst

/-- Number of keys. -/
def size (map : OrderedMap κ α) : Nat := map.entries.length

/-- Whether there is no key. -/
def isEmpty (map : OrderedMap κ α) : Bool := map.entries.isEmpty

theorem keys_nodup (map : OrderedMap κ α) : map.keys.Nodup := map.distinct

variable [DecidableEq κ]

/-- Value of a key. -/
def find? (map : OrderedMap κ α) (key : κ) : Option α := map.entries.lookup key

/-- Whether a key is present. -/
def contains (map : OrderedMap κ α) (key : κ) : Bool := (map.find? key).isSome

/-- A list of entries with the value of a key replaced, or with the key at the end. -/
def put (key : κ) (value : α) : List (κ × α) → List (κ × α)
  | [] => [(key, value)]
  | entry :: rest => if entry.1 = key then (key, value) :: rest else entry :: put key value rest

theorem keys_put (key : κ) (value : α) (entries : List (κ × α)) :
    (put key value entries).map Prod.fst =
      if key ∈ entries.map Prod.fst then entries.map Prod.fst
      else entries.map Prod.fst ++ [key] := by
  induction entries with
  | nil => simp [put]
  | cons entry rest hypothesis =>
      by_cases same : entry.1 = key
      · simp [put, same]
      · by_cases member : key ∈ rest.map Prod.fst
        · rw [if_pos member] at hypothesis
          rw [if_pos (by simp [List.mem_map.mp member])]
          simp [put, same, hypothesis]
        · rw [if_neg member] at hypothesis
          have absent : key ∉ (entry :: rest).map Prod.fst := by
            simp only [List.map_cons, List.mem_cons, not_or]
            exact ⟨fun h => same h.symm, member⟩
          rw [if_neg absent]
          simp [put, same, hypothesis]

/-- The map with a value for a key. -/
def insert (map : OrderedMap κ α) (key : κ) (value : α) : OrderedMap κ α where
  entries := put key value map.entries
  distinct := by
    rw [keys_put]
    split
    · exact map.distinct
    · next absent =>
        exact List.nodup_append.mpr
          ⟨map.distinct, by simp, fun a member b single same => by
            obtain rfl : b = key := by simpa using single
            exact absent (same ▸ member)⟩

/-- The map without a key. -/
def erase (map : OrderedMap κ α) (key : κ) : OrderedMap κ α where
  entries := map.entries.filter fun entry => entry.1 ≠ key
  distinct := by
    have sublist : (map.entries.filter fun entry => entry.1 ≠ key).Sublist map.entries :=
      List.filter_sublist
    exact (sublist.map Prod.fst).nodup map.distinct

/-- The map with the value of a present key changed. -/
def modify (map : OrderedMap κ α) (key : κ) (change : α → α) : OrderedMap κ α :=
  match map.find? key with
  | some value => map.insert key (change value)
  | none => map

/-- Inserts entries one after another. -/
def insertAll (map : OrderedMap κ α) (entries : List (κ × α)) : OrderedMap κ α :=
  entries.foldl (fun current entry => current.insert entry.1 entry.2) map

/-- The map that a list of entries builds, from the empty map. -/
def ofList (entries : List (κ × α)) : OrderedMap κ α := empty.insertAll entries

/-! ## The view of each operation -/

theorem lookup_put_self (key : κ) (value : α) (entries : List (κ × α)) :
    (put key value entries).lookup key = some value := by
  induction entries with
  | nil => simp [put]
  | cons entry rest hypothesis =>
      obtain ⟨stored, held⟩ := entry
      by_cases same : stored = key
      · simp [put, same]
      · have different : (key == stored) = false := by simp [Ne.symm same]
        simp [put, same, List.lookup_cons, different, hypothesis]

theorem lookup_put_of_ne {key other : κ} (different : other ≠ key) (value : α)
    (entries : List (κ × α)) : (put key value entries).lookup other = entries.lookup other := by
  have unequal : (other == key) = false := by simp [different]
  induction entries with
  | nil => simp [put, List.lookup_cons, unequal]
  | cons entry rest hypothesis =>
      obtain ⟨stored, held⟩ := entry
      by_cases same : stored = key
      · subst same
        simp [put, List.lookup_cons, unequal]
      · by_cases hit : other = stored
        · simp [put, same, hit]
        · have miss : (other == stored) = false := by simp [hit]
          simp [put, same, List.lookup_cons, miss, hypothesis]

@[simp]
theorem find?_insert_self (map : OrderedMap κ α) (key : κ) (value : α) :
    (map.insert key value).find? key = some value :=
  lookup_put_self key value map.entries

theorem find?_insert_of_ne (map : OrderedMap κ α) {key other : κ} (different : other ≠ key)
    (value : α) : (map.insert key value).find? other = map.find? other :=
  lookup_put_of_ne different value map.entries

theorem lookup_filter_ne_self (key : κ) (entries : List (κ × α)) :
    (entries.filter fun entry => entry.1 ≠ key).lookup key = none := by
  refine List.lookup_eq_none_iff.mpr fun entry kept => ?_
  have different : entry.1 ≠ key := by simpa using (List.mem_filter.mp kept).2
  simp [different.symm]

theorem lookup_filter_ne_of_ne {key other : κ} (different : other ≠ key)
    (entries : List (κ × α)) :
    (entries.filter fun entry => entry.1 ≠ key).lookup other = entries.lookup other := by
  induction entries with
  | nil => rfl
  | cons entry rest hypothesis =>
      by_cases same : entry.1 = key
      · have miss : (other == entry.1) = false := by simp [same, different]
        rw [List.filter_cons_of_neg (by simp [same]), hypothesis, List.lookup_cons, miss]
      · rw [List.filter_cons_of_pos (by simp [same]), List.lookup_cons, List.lookup_cons,
          hypothesis]

@[simp]
theorem find?_erase_self (map : OrderedMap κ α) (key : κ) : (map.erase key).find? key = none :=
  lookup_filter_ne_self key map.entries

theorem find?_erase_of_ne (map : OrderedMap κ α) {key other : κ} (different : other ≠ key) :
    (map.erase key).find? other = map.find? other :=
  lookup_filter_ne_of_ne different map.entries

theorem mem_keys_of_find? {map : OrderedMap κ α} {key : κ} {value : α}
    (found : map.find? key = some value) : key ∈ map.keys := by
  obtain ⟨front, back, split, -⟩ := List.lookup_eq_some_iff.mp found
  simp [keys, split]

theorem find?_of_mem {map : OrderedMap κ α} {key : κ} {value : α}
    (member : (key, value) ∈ map.entries) : map.find? key = some value := by
  obtain ⟨front, back, split⟩ := List.append_of_mem member
  refine List.lookup_eq_some_iff.mpr ⟨front, back, split, fun entry earlier => ?_⟩
  have distinct := map.distinct
  rw [split, List.map_append, List.map_cons] at distinct
  have different : entry.1 ≠ key := fun same =>
    (List.nodup_append.mp distinct).2.2 entry.1 (List.mem_map_of_mem earlier) key (by simp) same
  simpa using different.symm

theorem keys_insert (map : OrderedMap κ α) (key : κ) (value : α) :
    (map.insert key value).keys =
      if key ∈ map.keys then map.keys else map.keys ++ [key] :=
  keys_put key value map.entries

theorem mem_keys_insert {map : OrderedMap κ α} {key other : κ} {value : α} :
    other ∈ (map.insert key value).keys ↔ other = key ∨ other ∈ map.keys := by
  rw [keys_insert]
  split
  · next present =>
      constructor
      · exact .inr
      · rintro (rfl | member)
        · exact present
        · exact member
  · rw [List.mem_append, List.mem_singleton, or_comm]

theorem keys_erase_sublist (map : OrderedMap κ α) (key : κ) :
    (map.erase key).keys.Sublist map.keys :=
  List.filter_sublist.map Prod.fst

end OrderedMap
end ClassEnhancement
