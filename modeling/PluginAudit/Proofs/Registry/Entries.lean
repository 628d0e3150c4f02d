import Mathlib.Data.List.Induction
import Mathlib.Data.String.Basic
import PluginAudit.Proofs.Lookup
import PluginAudit.Registry.Basic

/-!
# Entries under their ids

The plugins of a registry are sorted by id, each id once (`Sorted`). Putting an
entry under an id keeps that (`sorted_insertEntry`), and afterwards the id has
that entry and every other id what it had (`lookup_insertEntry`). Sorted lists
with the same entry under every id are the same (`Sorted.ext`); so it does not
matter in which order entries are put under different ids
(`insertEntry_comm`), and putting the plugins of a sorted list one after the
other gives the list again (`foldl_insertEntry`). Into a registry entries are
put in the same way (`insertAll`).
-/

set_option autoImplicit false

namespace PluginAudit.Registry

/-- The plugins are sorted by id, and each id is there once. -/
def Sorted (plugins : List (String × Entry)) : Prop :=
  (plugins.map (·.1)).Pairwise (· < ·)

theorem sorted_nil : Sorted [] := List.Pairwise.nil

section Sorted

variable {plugins : List (String × Entry)}

theorem sorted_cons {first : String} {entry : Entry} :
    Sorted ((first, entry) :: plugins) ↔ (∀ id ∈ plugins.map (·.1), first < id) ∧ Sorted plugins :=
  List.pairwise_cons

/-- A plugin of a sorted list is the one that is found under its id. -/
theorem Sorted.lookup_of_mem (sorted : Sorted plugins) {id : String} {entry : Entry}
    (among : (id, entry) ∈ plugins) : plugins.lookup id = some entry := by
  induction plugins with
  | nil => cases among
  | cons plugin rest ih =>
    obtain ⟨first, old⟩ := plugin
    obtain ⟨before, sorted⟩ := sorted_cons.mp sorted
    rw [lookup_cons_if]
    rcases List.mem_cons.mp among with same | among
    · obtain ⟨rfl, rfl⟩ := Prod.mk.inj same
      rw [if_pos rfl]
    · rw [if_neg (before id (List.mem_map_of_mem among)).ne', ih sorted among]

/-- **Sorted plugins with the same entries under all ids are the same.** -/
theorem Sorted.ext {others : List (String × Entry)} (sorted : Sorted plugins)
    (sorted' : Sorted others) (same : ∀ id, plugins.lookup id = others.lookup id) :
    plugins = others := by
  induction plugins generalizing others with
  | nil =>
    cases others with
    | nil => rfl
    | cons plugin rest =>
      have found := same plugin.1
      rw [lookup_cons_if, if_pos rfl] at found
      cases found
  | cons plugin rest ih =>
    obtain ⟨first, entry⟩ := plugin
    cases others with
    | nil =>
      have found := same first
      rw [lookup_cons_if, if_pos rfl] at found
      cases found
    | cons plugin' rest' =>
      obtain ⟨first', entry'⟩ := plugin'
      obtain ⟨before, sorted⟩ := sorted_cons.mp sorted
      obtain ⟨before', sortedRest'⟩ := sorted_cons.mp sorted'
      -- Each of the first ids is among the ids of the other list, so neither is smaller.
      have isFirst : first = first' := by
        have found := same first
        have found' := same first'
        rw [lookup_cons_if, if_pos rfl, lookup_cons_if] at found
        rw [lookup_cons_if, lookup_cons_if, if_pos rfl] at found'
        by_contra apart
        rw [if_neg apart] at found
        rw [if_neg (Ne.symm apart)] at found'
        exact lt_asymm (before _ (mem_keys_of_lookup found'))
          (before' _ (mem_keys_of_lookup found.symm))
      subst isFirst
      have isEntry := same first
      rw [lookup_cons_if, if_pos rfl, lookup_cons_if, if_pos rfl] at isEntry
      obtain rfl := Option.some.inj isEntry
      have areRest : rest = rest' := by
        refine ih sorted sortedRest' fun id => ?_
        have found := same id
        by_cases here : id = first
        · rw [here, lookup_eq_none_of_notMem fun among => lt_irrefl _ (before _ among),
            lookup_eq_none_of_notMem fun among => lt_irrefl _ (before' _ among)]
        · rwa [lookup_cons_if, if_neg here, lookup_cons_if, if_neg here] at found
      rw [areRest]

end Sorted

/-! ## Putting entries -/

section Putting

variable {plugins : List (String × Entry)}

theorem lookup_insertEntry (id : String) (entry : Entry) (plugins : List (String × Entry))
    (other : String) :
    (insertEntry id entry plugins).lookup other =
      if other = id then some entry else plugins.lookup other := by
  induction plugins with
  | nil => rw [insertEntry, lookup_cons_if]
  | cons plugin rest ih =>
    obtain ⟨first, old⟩ := plugin
    rw [insertEntry]
    split
    · rw [lookup_cons_if]
    · split
      · next same =>
        rw [lookup_cons_if, lookup_cons_if]
        by_cases here : other = id
        · rw [if_pos here, if_pos here]
        · rw [if_neg here, if_neg here, if_neg (same ▸ here)]
      · next apart =>
        rw [lookup_cons_if, ih, lookup_cons_if]
        by_cases here : other = first
        · rw [if_pos here, if_pos here, if_neg (here ▸ apart)]
        · rw [if_neg here, if_neg here]

theorem mem_insertEntry {id : String} {entry : Entry} {plugin : String × Entry}
    (among : plugin ∈ insertEntry id entry plugins) : plugin = (id, entry) ∨ plugin ∈ plugins := by
  induction plugins with
  | nil => exact .inl (List.mem_singleton.mp among)
  | cons first rest ih =>
    obtain ⟨other, old⟩ := first
    rw [insertEntry] at among
    split at among
    · exact List.mem_cons.mp among
    · split at among
      · exact (List.mem_cons.mp among).imp_right (List.mem_cons_of_mem _)
      · rcases List.mem_cons.mp among with rfl | among
        · exact .inr List.mem_cons_self
        · exact (ih among).imp_right (List.mem_cons_of_mem _)

/-- **Putting an entry keeps the plugins sorted.** -/
theorem sorted_insertEntry (sorted : Sorted plugins) (id : String) (entry : Entry) :
    Sorted (insertEntry id entry plugins) := by
  induction plugins with
  | nil => exact sorted_cons.mpr ⟨fun other among => (List.not_mem_nil among).elim, sorted_nil⟩
  | cons first rest ih =>
    obtain ⟨other, old⟩ := first
    obtain ⟨before, sortedRest⟩ := sorted_cons.mp sorted
    rw [insertEntry]
    split
    · next less =>
      refine sorted_cons.mpr ⟨?_, sorted⟩
      intro next among
      rcases List.mem_cons.mp among with rfl | among
      · exact less
      · exact less.trans (before next among)
    · next notLess =>
      split
      · next same => exact sorted_cons.mpr ⟨same ▸ before, sortedRest⟩
      · next apart =>
        refine sorted_cons.mpr ⟨?_, ih sortedRest⟩
        intro next among
        obtain ⟨plugin, isPlugin, rfl⟩ := List.mem_map.mp among
        rcases mem_insertEntry isPlugin with rfl | isPlugin
        · exact lt_of_le_of_ne (not_lt.mp notLess) apart
        · exact before _ (List.mem_map_of_mem isPlugin)

/-- **The order in which entries are put under different ids does not matter.** -/
theorem insertEntry_comm (sorted : Sorted plugins) {id id' : String} (apart : id ≠ id')
    (entry entry' : Entry) :
    insertEntry id entry (insertEntry id' entry' plugins) =
      insertEntry id' entry' (insertEntry id entry plugins) := by
  refine Sorted.ext (sorted_insertEntry (sorted_insertEntry sorted id' entry') id entry)
    (sorted_insertEntry (sorted_insertEntry sorted id entry) id' entry') fun other => ?_
  simp only [lookup_insertEntry]
  by_cases first : other = id
  · rw [if_pos first, if_neg (first ▸ apart), if_pos first]
  · rw [if_neg first, if_neg first]

/-- **Sorted plugins come back when they are put one after the other.** -/
theorem foldl_insertEntry (sorted : Sorted plugins) :
    plugins.foldl (fun put plugin => insertEntry plugin.1 plugin.2 put) [] = plugins := by
  -- What has been put stays sorted, and each id has its last entry.
  have put : ∀ (list start : List (String × Entry)), Sorted start → Sorted list →
      Sorted (list.foldl (fun put plugin => insertEntry plugin.1 plugin.2 put) start) ∧
        ∀ id, (list.foldl (fun put plugin => insertEntry plugin.1 plugin.2 put) start).lookup id =
          (list.lookup id).or (start.lookup id) := by
    intro list
    induction list with
    | nil => exact fun start sortedStart _ => ⟨sortedStart, fun id => rfl⟩
    | cons plugin rest ih =>
      obtain ⟨first, entry⟩ := plugin
      intro start sortedStart sortedList
      obtain ⟨before, sortedRest⟩ := sorted_cons.mp sortedList
      obtain ⟨isSorted, found⟩ :=
        ih (insertEntry first entry start) (sorted_insertEntry sortedStart first entry) sortedRest
      refine ⟨isSorted, fun id => ?_⟩
      rw [List.foldl_cons, found, lookup_insertEntry, lookup_cons_if]
      by_cases here : id = first
      · rw [if_pos here, if_pos here, here,
          lookup_eq_none_of_notMem fun among => lt_irrefl _ (before _ among)]
        rfl
      · rw [if_neg here, if_neg here]
  obtain ⟨isSorted, found⟩ := put plugins [] sorted_nil sorted
  refine isSorted.ext sorted fun id => ?_
  rw [found]
  cases plugins.lookup id <;> rfl

end Putting

/-! ## Registries -/

/-- The registry with entries under ids, put one after the other. -/
def insertAll (registry : Registry) (calls : List (String × Entry)) : Registry :=
  calls.foldl (fun registry call => registry.insert call.1 call.2) registry

section InsertAll

variable (registry : Registry) (calls : List (String × Entry))

theorem insertAll_cons (call : String × Entry) :
    registry.insertAll (call :: calls) = (registry.insert call.1 call.2).insertAll calls := rfl

theorem insertAll_concat (call : String × Entry) :
    registry.insertAll (calls ++ [call]) = (registry.insertAll calls).insert call.1 call.2 := by
  rw [insertAll, List.foldl_concat]
  rfl

theorem extra_insertAll : (registry.insertAll calls).extra = registry.extra := by
  induction calls using List.reverseRecOn with
  | nil => rfl
  | append_singleton calls call ih => rw [insertAll_concat, insert, ih]

/-- **Under each id stands what has been put there last,** or else what stood there before. -/
theorem get?_insertAll (id : String) :
    (registry.insertAll calls).get? id = (calls.reverse.lookup id).or (registry.get? id) := by
  induction calls using List.reverseRecOn with
  | nil => rfl
  | append_singleton calls call ih =>
    rw [List.reverse_append, List.reverse_singleton, List.singleton_append, lookup_cons_if,
      insertAll_concat, get?, insert, lookup_insertEntry]
    by_cases here : id = call.1
    · rw [if_pos here, if_pos here]
      rfl
    · rw [if_neg here, if_neg here, ← ih, get?]

/-- What has been put last is there. -/
theorem last_mem_insertAll (call : String × Entry) :
    call ∈ (registry.insertAll (calls ++ [call])).plugins := by
  have found : (registry.insertAll (calls ++ [call])).get? call.1 = some call.2 := by
    rw [insertAll_concat, get?, insert, lookup_insertEntry, if_pos rfl]
  obtain ⟨before, after, split, -⟩ := List.lookup_eq_some_iff.mp found
  rw [split]
  exact List.mem_append_right _ List.mem_cons_self

end InsertAll

section InsertAll

variable {registry : Registry} {calls : List (String × Entry)}

theorem sorted_insertAll (sorted : Sorted registry.plugins) :
    Sorted (registry.insertAll calls).plugins := by
  induction calls using List.reverseRecOn with
  | nil => exact sorted
  | append_singleton calls call ih =>
    rw [insertAll_concat]
    exact sorted_insertEntry ih call.1 call.2

theorem mem_insertAll {plugin : String × Entry}
    (among : plugin ∈ (registry.insertAll calls).plugins) :
    plugin ∈ calls ∨ plugin ∈ registry.plugins := by
  induction calls using List.reverseRecOn with
  | nil => exact .inr among
  | append_singleton calls call ih =>
    rw [insertAll_concat] at among
    rcases mem_insertEntry among with rfl | among
    · exact .inl (List.mem_append_right _ List.mem_cons_self)
    · exact (ih among).imp_left (List.mem_append_left _)

/-- Each id is there once. -/
theorem nodup_ids (sorted : Sorted registry.plugins) : registry.ids.Nodup :=
  sorted.imp fun less => less.ne

theorem mem_ids_of_get? {id : String} {entry : Entry} (found : registry.get? id = some entry) :
    id ∈ registry.ids := mem_keys_of_lookup found

/-- **The ids that are there have been put there or were there before.** -/
theorem mem_ids_insertAll {id : String} :
    id ∈ (registry.insertAll calls).ids ↔ id ∈ calls.map (·.1) ∨ id ∈ registry.ids := by
  constructor
  · intro isId
    obtain ⟨plugin, among, rfl⟩ := List.mem_map.mp isId
    exact (mem_insertAll among).imp List.mem_map_of_mem List.mem_map_of_mem
  · intro isId
    have found : (registry.insertAll calls).get? id ≠ none := by
      rw [get?_insertAll, Ne, Option.or_eq_none_iff]
      rintro ⟨notPut, notThere⟩
      rcases isId with among | among
      · obtain ⟨call, isCall, rfl⟩ := List.mem_map.mp among
        simpa using List.lookup_eq_none_iff.mp notPut call (List.mem_reverse.mpr isCall)
      · obtain ⟨plugin, isPlugin, rfl⟩ := List.mem_map.mp among
        simpa using List.lookup_eq_none_iff.mp notThere plugin isPlugin
    obtain ⟨last, isLast⟩ := Option.ne_none_iff_exists'.mp found
    exact mem_ids_of_get? isLast

/-- **Entries under different ids may be put in any order.** -/
theorem insertAll_perm {others : List (String × Entry)} (perm : calls.Perm others)
    (sorted : Sorted registry.plugins) (distinct : (calls.map (·.1)).Nodup) :
    registry.insertAll calls = registry.insertAll others := by
  induction perm generalizing registry with
  | nil => rfl
  | cons call perm ih =>
    rw [insertAll_cons, insertAll_cons]
    exact ih (sorted_insertEntry sorted call.1 call.2) (List.nodup_cons.mp distinct).2
  | swap second first rest =>
    have apart : first.1 ≠ second.1 := fun same =>
      (List.nodup_cons.mp distinct).1 (List.mem_cons.mpr (.inl same))
    rw [insertAll_cons, insertAll_cons, insertAll_cons, insertAll_cons, insert, insert, insert,
      insert]
    dsimp only
    rw [insertEntry_comm sorted apart]
  | trans perm _ first second =>
    exact (first sorted distinct).trans (second sorted ((perm.map _).nodup_iff.mp distinct))

end InsertAll

end PluginAudit.Registry
