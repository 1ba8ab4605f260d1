import Mathlib

/-!
Lists of entries looked up by their keys: what looking up finds when the entries of a key are taken
out, and when no key has two entries.
-/

namespace XorOverlay

set_option autoImplicit false

variable {Key Value : Type} [DecidableEq Key] [BEq Key] [LawfulBEq Key]

theorem lookup_without (key other : Key) (entries : List (Key × Value)) :
    (entries.filter fun entry => entry.1 != key).lookup other =
      if other = key then none else entries.lookup other := by
  induction entries with
  | nil => simp
  | cons first rest ih =>
      obtain ⟨held, value⟩ := first
      by_cases here : held = key
      · subst here
        rw [List.filter_cons_of_neg (by simp), ih, List.lookup_cons]
        by_cases same : other = held
        · rw [if_pos same, if_pos same]
        · rw [if_neg same, if_neg same, beq_false_of_ne same]
      · rw [List.filter_cons_of_pos (by simp [here]), List.lookup_cons, List.lookup_cons, ih]
        by_cases found : other = held
        · subst found
          simp [here]
        · rw [beq_false_of_ne found]

theorem lookup_iff_mem {entries : List (Key × Value)} (distinct : (entries.map Prod.fst).Nodup)
    (key : Key) (value : Value) :
    entries.lookup key = some value ↔ (key, value) ∈ entries := by
  induction entries with
  | nil => simp
  | cons first rest ih =>
      obtain ⟨held, old⟩ := first
      have fresh : held ∉ rest.map Prod.fst := (List.nodup_cons.mp distinct).1
      rw [List.lookup_cons, List.mem_cons]
      by_cases here : key = held
      · subst here
        have absent : (key, value) ∉ rest := fun later => fresh (List.mem_map_of_mem later)
        simp [absent, eq_comm]
      · have other : (key, value) ≠ (held, old) := fun same => here (congrArg Prod.fst same)
        rw [beq_false_of_ne here]
        simp [other, ih (List.nodup_cons.mp distinct).2]

end XorOverlay
