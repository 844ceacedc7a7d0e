import ClassEnhancement.OrderedMap
import Mathlib.Data.Finset.Card

/-!
# Inserting entries one after another

A map built from a list of entries holds every key of the list once, with the value that stands last
for it.
-/

namespace ClassEnhancement
namespace OrderedMap

variable {κ α : Type} [DecidableEq κ]

theorem put_put (key : κ) (first second : α) (entries : List (κ × α)) :
    put key second (put key first entries) = put key second entries := by
  induction entries with
  | nil => simp [put]
  | cons entry rest induction =>
      by_cases same : entry.1 = key
      · simp [put, same]
      · simp [put, same, induction]

/-- Of two values inserted for one key the second counts. -/
theorem insert_insert (map : OrderedMap κ α) (key : κ) (first second : α) :
    (map.insert key first).insert key second = map.insert key second := by
  simp only [insert, put_put]

theorem modify_insert (map : OrderedMap κ α) (key : κ) (value : α) (change : α → α) :
    (map.insert key value).modify key change = map.insert key (change value) := by
  rw [modify, find?_insert_self]
  exact insert_insert map key value (change value)

theorem insertAll_append (map : OrderedMap κ α) (front back : List (κ × α)) :
    map.insertAll (front ++ back) = (map.insertAll front).insertAll back :=
  List.foldl_append

theorem ofList_concat (entries : List (κ × α)) (entry : κ × α) :
    ofList (entries ++ [entry]) = (ofList entries).insert entry.1 entry.2 := by
  rw [ofList, insertAll_append]
  rfl

/-- The last entry of a key gives its value. -/
theorem find?_ofList (entries : List (κ × α)) (key : κ) :
    (ofList entries).find? key = entries.reverse.lookup key := by
  induction entries using List.reverseRecOn with
  | nil => rfl
  | append_singleton entries entry induction =>
      rw [ofList_concat, List.reverse_append, List.reverse_singleton, List.singleton_append,
        List.lookup_cons]
      by_cases same : key = entry.1
      · subst same
        simp
      · have different : (key == entry.1) = false := by simpa using same
        rw [find?_insert_of_ne _ same, induction, different]

theorem mem_keys_ofList {entries : List (κ × α)} {key : κ} :
    key ∈ (ofList entries).keys ↔ key ∈ entries.map Prod.fst := by
  induction entries using List.reverseRecOn with
  | nil => rfl
  | append_singleton entries entry induction =>
      rw [ofList_concat, mem_keys_insert, induction, List.map_append, List.mem_append, or_comm]
      simp

theorem find?_eq_none_iff {map : OrderedMap κ α} {key : κ} :
    map.find? key = none ↔ key ∉ map.keys := by
  rw [find?, List.lookup_eq_none_iff, keys, List.mem_map]
  simp only [bne_iff_ne, not_exists, not_and]
  exact forall₂_congr fun _ _ => ne_comm

/-- The first entry of a list counts if none that follows has its key. -/
theorem find?_ofList_cons_eq_some_iff {entry : κ × α} {entries : List (κ × α)} {key : κ}
    {value : α} :
    (ofList (entry :: entries)).find? key = some value ↔
      (ofList entries).find? key = some value ∨
        key ∉ (ofList entries).keys ∧ entry = (key, value) := by
  rw [find?_ofList, List.reverse_cons, List.lookup_append, Option.or_eq_some_iff, ← find?_ofList,
    find?_eq_none_iff]
  refine or_congr_right (and_congr_right fun _ => ?_)
  obtain ⟨stored, held⟩ := entry
  by_cases same : key = stored
  · subst same
    simp
  · have different : (key == stored) = false := by simpa using same
    simp [List.lookup_cons, different, Ne.symm same]

/-- The keys are those of the list, each where it stands first. -/
theorem keys_ofList (entries : List (κ × α)) :
    (ofList entries).keys = (entries.map Prod.fst).eraseDups := by
  induction entries using List.reverseRecOn with
  | nil => rfl
  | append_singleton entries entry induction =>
      rw [ofList_concat, keys_insert, induction, List.map_append, List.map_singleton,
        List.eraseDups_append]
      simp only [List.mem_eraseDups]
      split
      · next present => simp [List.removeAll, present]
      · next absent => simp [List.removeAll, absent, List.eraseDups_cons]

/-- A map is its keys in order with their values. -/
theorem eq_of_keys_of_find? {left right : OrderedMap κ α} (keys : left.keys = right.keys)
    (values : ∀ key, left.find? key = right.find? key) : left = right := by
  have entries_eq : ∀ map : OrderedMap κ α,
      map.entries.map (fun entry => (entry.1, some entry.2)) =
        map.keys.map fun key => (key, map.find? key) := by
    intro map
    rw [OrderedMap.keys, List.map_map]
    refine List.map_congr_left fun entry listed => ?_
    rw [Function.comp_apply, find?_of_mem listed]
  have marked : Function.Injective fun entry : κ × α => (entry.1, some entry.2) := by
    intro one other same
    cases one
    cases other
    simpa using same
  have same : left.entries = right.entries := by
    refine marked.list_map ?_
    rw [entries_eq, entries_eq, keys]
    exact List.map_congr_left fun key _ => by rw [values]
  cases left
  cases right
  simpa using same

/-- The size is the number of different keys. -/
theorem size_ofList (entries : List (κ × α)) :
    (ofList entries).size = (entries.map Prod.fst).toFinset.card := by
  have counted : (ofList entries).keys.toFinset.card = (ofList entries).keys.length :=
    List.toFinset_card_of_nodup (keys_nodup _)
  have same : (ofList entries).keys.toFinset = (entries.map Prod.fst).toFinset := by
    ext key
    rw [List.mem_toFinset, List.mem_toFinset, mem_keys_ofList]
  rw [← same, counted, keys, List.length_map, size]

end OrderedMap
end ClassEnhancement
