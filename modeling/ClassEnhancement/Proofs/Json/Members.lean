import ClassEnhancement.Json.Value

/-!
# Members of an object

Putting a member changes what its own key means and nothing else, and keeps the order of keys.
-/

namespace ClassEnhancement
namespace JsonValue

variable {key other : String} {value : JsonValue} {members : List (String × JsonValue)}

theorem lookup_putMember_self (key : String) (value : JsonValue)
    (members : List (String × JsonValue)) :
    (putMember key value members).lookup key = some value := by
  induction members with
  | nil => simp [putMember]
  | cons member rest hypothesis =>
      obtain ⟨name, held⟩ := member
      rw [putMember]
      split
      · simp
      · split
        · simp
        · next different =>
            have miss : (key == name) = false := by simp [different]
            simp [List.lookup_cons, miss, hypothesis]

theorem lookup_putMember_of_ne (different : other ≠ key) (value : JsonValue)
    (members : List (String × JsonValue)) :
    (putMember key value members).lookup other = members.lookup other := by
  have miss : (other == key) = false := by simp [different]
  induction members with
  | nil => simp [putMember, List.lookup_cons, miss]
  | cons member rest hypothesis =>
      obtain ⟨name, held⟩ := member
      rw [putMember]
      split
      · simp [List.lookup_cons, miss]
      · split
        · next same =>
            subst same
            simp [List.lookup_cons, miss]
        · simp [List.lookup_cons, hypothesis]

theorem mem_putMember {member : String × JsonValue}
    (listed : member ∈ putMember key value members) : member = (key, value) ∨ member ∈ members := by
  induction members with
  | nil => exact .inl (List.mem_singleton.mp listed)
  | cons first rest hypothesis =>
      obtain ⟨name, held⟩ := first
      rw [putMember] at listed
      split at listed
      · exact List.mem_cons.mp listed
      · split at listed
        · exact (List.mem_cons.mp listed).imp_right (List.mem_cons_of_mem _)
        · rcases List.mem_cons.mp listed with rfl | later
          · exact .inr List.mem_cons_self
          · exact (hypothesis later).imp_right (List.mem_cons_of_mem _)

/-- Keys stay in order. -/
theorem increasing_putMember (increasing : (members.map Prod.fst).Pairwise (· < ·)) :
    ((putMember key value members).map Prod.fst).Pairwise (· < ·) := by
  induction members with
  | nil => simp [putMember]
  | cons first rest hypothesis =>
      obtain ⟨name, held⟩ := first
      obtain ⟨least, later⟩ := List.pairwise_cons.mp increasing
      rw [putMember]
      split
      · next before =>
          refine List.pairwise_cons.mpr ⟨fun next listed => ?_, increasing⟩
          rcases List.mem_cons.mp listed with rfl | listed
          · exact before
          · exact String.lt_trans before (least next listed)
      · next notBefore =>
          split
          · next same => exact List.pairwise_cons.mpr ⟨same ▸ least, later⟩
          · next different =>
              refine List.pairwise_cons.mpr ⟨fun next listed => ?_, hypothesis later⟩
              obtain ⟨member, put, rfl⟩ := List.mem_map.mp listed
              rcases mem_putMember put with rfl | old
              · show name < key
                grind
              · exact least _ (List.mem_map_of_mem old)

/-- Of two members of one key, the one put last counts. -/
theorem putMember_putMember (key : String) (value earlier : JsonValue)
    (members : List (String × JsonValue)) :
    putMember key value (putMember key earlier members) = putMember key value members := by
  have irreflexive : ¬ key < key := String.lt_irrefl key
  induction members with
  | nil => simp only [putMember, irreflexive, if_true, if_false]
  | cons first rest hypothesis =>
      obtain ⟨name, held⟩ := first
      by_cases before : key < name
      · simp only [putMember, before, irreflexive, if_true, if_false]
      by_cases same : key = name
      · subst same
        simp only [putMember, irreflexive, if_true, if_false]
      · simp [putMember, before, same, hypothesis]

theorem mem_keys_putMember (key : String) (value : JsonValue)
    (members : List (String × JsonValue)) {name : String} :
    name ∈ (putMember key value members).map Prod.fst ↔
      name = key ∨ name ∈ members.map Prod.fst := by
  induction members with
  | nil => simp [putMember]
  | cons first rest hypothesis =>
      obtain ⟨other, held⟩ := first
      rw [putMember]
      split
      · simp
      · split
        · next same =>
            subst same
            simp
        · simp only [List.map_cons, List.mem_cons, hypothesis]
          exact or_left_comm

/-! ## Sorting -/

theorem putMember_of_greatest (greatest : ∀ member ∈ members, member.1 < key) :
    putMember key value members = members ++ [(key, value)] := by
  induction members with
  | nil => rfl
  | cons first rest hypothesis =>
      obtain ⟨name, held⟩ := first
      have before : name < key := greatest _ List.mem_cons_self
      have different : key ≠ name := by
        rintro rfl
        exact String.lt_irrefl _ before
      rw [putMember, if_neg (String.lt_asymm before), if_neg different,
        hypothesis fun member listed => greatest member (List.mem_cons_of_mem _ listed)]
      rfl

/-- Members in order are sorted. -/
theorem sortMembers_eq_self (increasing : (members.map Prod.fst).Pairwise (· < ·)) :
    sortMembers members = members := by
  suffices general : ∀ front back : List (String × JsonValue),
      ((front ++ back).map Prod.fst).Pairwise (· < ·) →
        back.foldl (fun sorted member => putMember member.1 member.2 sorted) front =
          front ++ back by
    exact general [] members increasing
  intro front back ordered
  induction back generalizing front with
  | nil => simp
  | cons member back hypothesis =>
      have greatest : ∀ earlier ∈ front, earlier.1 < member.1 := fun earlier listed => by
        rw [List.map_append, List.pairwise_append] at ordered
        exact ordered.2.2 _ (List.mem_map_of_mem listed) _ (by simp)
      rw [List.foldl_cons, putMember_of_greatest greatest, hypothesis _ (by simpa using ordered)]
      simp

theorem increasing_sortMembers (members : List (String × JsonValue)) :
    ((sortMembers members).map Prod.fst).Pairwise (· < ·) := by
  suffices general : ∀ sorted : List (String × JsonValue),
      (sorted.map Prod.fst).Pairwise (· < ·) →
        ((members.foldl (fun sorted member => putMember member.1 member.2 sorted) sorted).map
          Prod.fst).Pairwise (· < ·) by
    exact general [] .nil
  induction members with
  | nil => exact fun _ increasing => increasing
  | cons member rest hypothesis =>
      exact fun _ increasing => hypothesis _ (increasing_putMember increasing)

theorem mem_of_mem_sortMembers {member : String × JsonValue}
    (listed : member ∈ sortMembers members) : member ∈ members := by
  suffices general : ∀ sorted : List (String × JsonValue),
      member ∈ members.foldl (fun sorted member => putMember member.1 member.2 sorted) sorted →
        member ∈ sorted ∨ member ∈ members by
    exact (general [] listed).resolve_left List.not_mem_nil
  intro sorted found
  clear listed
  induction members generalizing sorted with
  | nil => exact .inl found
  | cons first rest hypothesis =>
      rcases hypothesis _ found with put | later
      · rcases mem_putMember put with rfl | old
        · exact .inr List.mem_cons_self
        · exact .inl old
      · exact .inr (List.mem_cons_of_mem _ later)

end JsonValue
end ClassEnhancement
