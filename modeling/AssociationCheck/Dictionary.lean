/-
Dictionaries that keep the order of their keys.

A dictionary lists its entries in the order in which their keys first came. A new value for a key
takes the place of the old one.
-/

namespace AssociationCheck

abbrev Dictionary (α : Type) := List (String × α)

namespace Dictionary

variable {α : Type}

/-- Puts a value under a key: in the place of the key if there is one, and at the end
otherwise. -/
def insert (key : String) (value : α) : Dictionary α → Dictionary α
  | [] => [(key, value)]
  | (other, old) :: rest =>
      if other = key then (key, value) :: rest else (other, old) :: insert key value rest

def get? (entries : Dictionary α) (key : String) : Option α := entries.lookup key

def keys (entries : Dictionary α) : List String := entries.map Prod.fst

def values (entries : Dictionary α) : List α := entries.map Prod.snd

theorem mem_keys_insert (entries : Dictionary α) (key other : String) (value : α) :
    other ∈ keys (insert key value entries) ↔ other = key ∨ other ∈ keys entries := by
  induction entries with
  | nil => simp [keys, insert]
  | cons entry rest ih =>
      obtain ⟨first, old⟩ := entry
      simp only [keys, List.mem_map] at ih
      by_cases found : first = key
      · simp [keys, insert, found]
      · simp only [keys, insert, found, if_false, List.map_cons, List.mem_cons, List.mem_map, ih]
        constructor
        · rintro (h | h | h)
          · exact Or.inr (Or.inl h)
          · exact Or.inl h
          · exact Or.inr (Or.inr h)
        · rintro (h | h | h)
          · exact Or.inr (Or.inl h)
          · exact Or.inl h
          · exact Or.inr (Or.inr h)

theorem nodup_keys_insert (entries : Dictionary α) (key : String) (value : α)
    (distinct : (keys entries).Nodup) : (keys (insert key value entries)).Nodup := by
  induction entries with
  | nil => simp [keys, insert]
  | cons entry rest ih =>
      obtain ⟨first, old⟩ := entry
      simp only [keys, List.map_cons, List.nodup_cons] at distinct
      by_cases found : first = key
      · subst found
        simpa [keys, insert] using distinct
      · have tail := ih distinct.2
        simp only [insert, found, if_false, keys, List.map_cons, List.nodup_cons]
        refine ⟨?_, tail⟩
        intro member
        rcases (mem_keys_insert rest key first value).mp member with same | inRest
        · exact found same
        · exact distinct.1 inRest

end Dictionary

end AssociationCheck
