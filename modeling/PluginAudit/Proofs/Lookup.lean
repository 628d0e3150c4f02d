import Mathlib.Tactic.Common

/-!
# Looking up keys

Directories, registries and objects are lists of pairs in which a key is looked
up. What is found at the front decides (`lookup_cons_if`), and something is found
exactly under the keys of the list (`mem_keys_of_lookup`,
`lookup_eq_none_of_notMem`).
-/

set_option autoImplicit false

namespace PluginAudit

variable {α : Type} {list : List (String × α)} {key : String}

theorem lookup_cons_if (first : String) (content : α) (rest : List (String × α)) (key : String) :
    ((first, content) :: rest).lookup key =
      if key = first then some content else rest.lookup key := by
  rw [List.lookup_cons]
  by_cases same : key = first
  · simp [same]
  · simp [beq_false_of_ne same, same]

theorem lookup_eq_none_of_notMem (absent : key ∉ list.map (·.1)) : list.lookup key = none := by
  rw [List.lookup_eq_none_iff]
  intro entry among
  simp only [bne_iff_ne]
  rintro rfl
  exact absent (List.mem_map_of_mem among)

theorem mem_keys_of_lookup {content : α} (found : list.lookup key = some content) :
    key ∈ list.map (·.1) := by
  by_contra absent
  rw [lookup_eq_none_of_notMem absent] at found
  cases found

end PluginAudit
