import Mathlib.Tactic.Common
import PluginAudit.Json.Basic

/-!
# The structure of JSON values

What holds of every value inside a value (`Every`), how deeply lists and objects
are nested (`depth`), and the one induction that all statements about values use
(`byParts`). Objects whose keys are distinct stay so when a member is stored or
removed (`nodup_insert`, `nodup_remove`), and storing members with distinct keys
one after the other gives back the members (`foldl_insert`).
-/

set_option autoImplicit false

namespace PluginAudit.Json

/-! ## Induction -/

/-- A statement about values holds of all values if it passes from the items of a list to the list
and from the values of an object's members to the object. -/
@[elab_as_elim]
theorem byParts {motive : Json → Prop} (null : motive .null) (bool : ∀ value, motive (.bool value))
    (number : ∀ value, motive (.number value)) (string : ∀ text, motive (.string text))
    (array : ∀ items, (∀ item ∈ items, motive item) → motive (.array items))
    (object : ∀ members : List (String × Json), (∀ member ∈ members, motive member.2) →
      motive (.object members)) (value : Json) : motive value := by
  refine @Json.rec motive (fun items => ∀ item ∈ items, motive item)
    (fun members => ∀ member ∈ members, motive member.2) (fun member => motive member.2)
    null bool number string array object ?noItem ?items ?noMember ?members ?member value
  case noItem => exact fun item among => nomatch among
  case items =>
    intro first rest isFirst isRest item among
    rcases List.mem_cons.mp among with rfl | among
    · exact isFirst
    · exact isRest item among
  case noMember => exact fun member among => nomatch among
  case members =>
    intro first rest isFirst isRest member among
    rcases List.mem_cons.mp among with rfl | among
    · exact isFirst
    · exact isRest member among
  case member => exact fun key value isValue => isValue

/-! ## Every value inside -/

mutual

/-- A property holds of a value and of every value inside it. -/
def Every (holds : Json → Prop) : Json → Prop
  | .array items => holds (.array items) ∧ EveryItem holds items
  | .object members => holds (.object members) ∧ EveryMember holds members
  | value => holds value

/-- A property holds of all items and of every value inside them. -/
def EveryItem (holds : Json → Prop) : List Json → Prop
  | [] => True
  | item :: items => Every holds item ∧ EveryItem holds items

/-- A property holds of the values of all members and of every value inside them. -/
def EveryMember (holds : Json → Prop) : List (String × Json) → Prop
  | [] => True
  | (_, value) :: members => Every holds value ∧ EveryMember holds members

end

section Every

variable {holds : Json → Prop}

theorem everyItem_iff {items : List Json} :
    EveryItem holds items ↔ ∀ item ∈ items, Every holds item := by
  induction items with
  | nil => simp [EveryItem]
  | cons item items ih => simp [EveryItem, ih]

theorem everyMember_iff {members : List (String × Json)} :
    EveryMember holds members ↔ ∀ member ∈ members, Every holds member.2 := by
  induction members with
  | nil => simp [EveryMember]
  | cons member members ih => simp [EveryMember, ih]

theorem every_array {items : List Json} :
    Every holds (.array items) ↔ holds (.array items) ∧ ∀ item ∈ items, Every holds item := by
  rw [Every, everyItem_iff]

theorem every_object {members : List (String × Json)} :
    Every holds (.object members) ↔
      holds (.object members) ∧ ∀ member ∈ members, Every holds member.2 := by
  rw [Every, everyMember_iff]

/-- What holds of every value inside a value holds of the value itself. -/
theorem Every.self {value : Json} (every : Every holds value) : holds value := by
  cases value with
  | null => exact every
  | bool _ => exact every
  | number _ => exact every
  | string _ => exact every
  | array _ => exact (every_array.mp every).1
  | object _ => exact (every_object.mp every).1

/-- What follows from two properties holds everywhere if both do. -/
theorem Every.imp₂ {holds' holds'' : Json → Prop}
    (step : ∀ value, holds value → holds' value → holds'' value) {value : Json}
    (every : Every holds value) (every' : Every holds' value) : Every holds'' value := by
  induction value using byParts with
  | null => exact step _ every every'
  | bool _ => exact step _ every every'
  | number _ => exact step _ every every'
  | string _ => exact step _ every every'
  | array items ih =>
    rw [every_array] at every every' ⊢
    exact ⟨step _ every.1 every'.1,
      fun item among => ih item among (every.2 item among) (every'.2 item among)⟩
  | object members ih =>
    rw [every_object] at every every' ⊢
    exact ⟨step _ every.1 every'.1,
      fun member among => ih member among (every.2 member among) (every'.2 member among)⟩

end Every

/-! ## Depth -/

mutual

/-- The number of lists and objects that are open at one time in a value, at most. -/
def depth : Json → Nat
  | .array items => depthOfItems items + 1
  | .object members => depthOfMembers members + 1
  | _ => 0

/-- The greatest depth of an item. -/
def depthOfItems : List Json → Nat
  | [] => 0
  | item :: items => max (depth item) (depthOfItems items)

/-- The greatest depth of a member's value. -/
def depthOfMembers : List (String × Json) → Nat
  | [] => 0
  | (_, value) :: members => max (depth value) (depthOfMembers members)

end

theorem depthOfItems_le_iff {items : List Json} {limit : Nat} :
    depthOfItems items ≤ limit ↔ ∀ item ∈ items, item.depth ≤ limit := by
  induction items with
  | nil => simp [depthOfItems]
  | cons item items ih => rw [depthOfItems, Nat.max_le, ih, List.forall_mem_cons]

theorem depthOfMembers_le_iff {members : List (String × Json)} {limit : Nat} :
    depthOfMembers members ≤ limit ↔ ∀ member ∈ members, member.2.depth ≤ limit := by
  induction members with
  | nil => simp [depthOfMembers]
  | cons member members ih =>
    rw [depthOfMembers, Nat.max_le, ih, List.forall_mem_cons]

theorem depthOfMembers_append (first second : List (String × Json)) :
    depthOfMembers (first ++ second) = max (depthOfMembers first) (depthOfMembers second) := by
  induction first with
  | nil => simp [depthOfMembers]
  | cons member first ih => simp only [List.cons_append, depthOfMembers, ih, Nat.max_assoc]

/-! ## Keys -/

namespace Members

/-- The keys of members, in their order. -/
def keys (members : Members) : List String := members.map (·.1)

@[simp] theorem keys_cons (key : String) (value : Json) (rest : Members) :
    keys ((key, value) :: rest) = key :: keys rest := rfl

@[simp] theorem keys_append (first second : Members) :
    keys (first ++ second) = keys first ++ keys second := List.map_append

/-- Members under a new key are stored last. -/
theorem insert_of_new {members : Members} {key : String} (new : key ∉ members.keys)
    (value : Json) : members.insert key value = members ++ [(key, value)] := by
  induction members with
  | nil => rfl
  | cons member rest ih =>
    obtain ⟨first, old⟩ := member
    obtain ⟨other, newInRest⟩ := not_or.mp (List.mem_cons.not.mp new)
    rw [insert, if_neg (Ne.symm other), ih newInRest, List.cons_append]

theorem keys_insert (members : Members) (key : String) (value : Json) :
    (members.insert key value).keys =
      if key ∈ members.keys then members.keys else members.keys ++ [key] := by
  induction members with
  | nil => rfl
  | cons member rest ih =>
    obtain ⟨first, old⟩ := member
    by_cases same : first = key
    · simp [insert, same]
    · rw [insert, if_neg same, keys_cons, ih, keys_cons]
      by_cases present : key ∈ keys rest
      · simp [present]
      · simp [present, Ne.symm same]

theorem nodup_insert {members : Members} (distinct : members.keys.Nodup) (key : String)
    (value : Json) : (members.insert key value).keys.Nodup := by
  rw [keys_insert]
  split
  · exact distinct
  · next new => exact List.nodup_append.mpr ⟨distinct, by simp, by
      rintro first among second last rfl
      rw [List.mem_singleton.mp last] at among
      exact new among⟩

/-- What is among the members after storing was there before or is what has been stored. -/
theorem mem_insert {members : Members} {key : String} {value : Json} {member : String × Json}
    (among : member ∈ members.insert key value) : member ∈ members ∨ member = (key, value) := by
  induction members with
  | nil => exact .inr (List.mem_singleton.mp among)
  | cons first rest ih =>
    obtain ⟨other, old⟩ := first
    rw [insert] at among
    split at among
    · next same =>
      rcases List.mem_cons.mp among with rfl | among
      · exact .inr (by rw [same])
      · exact .inl (List.mem_cons_of_mem _ among)
    · rcases List.mem_cons.mp among with rfl | among
      · exact .inl List.mem_cons_self
      · exact (ih among).imp (List.mem_cons_of_mem _) id

/-- Members with distinct keys come back when they are stored one after the other. -/
theorem foldl_insert (stored : Members) {members : Members}
    (distinct : (stored ++ members).keys.Nodup) :
    members.foldl (fun stored member => stored.insert member.1 member.2) stored =
      stored ++ members := by
  induction members generalizing stored with
  | nil => simp
  | cons member rest ih =>
    obtain ⟨key, value⟩ := member
    have new : key ∉ stored.keys := by
      intro present
      rw [keys_append, keys_cons] at distinct
      exact (List.nodup_append.mp distinct).2.2 key present key List.mem_cons_self rfl
    have regrouped : stored ++ [(key, value)] ++ rest = stored ++ (key, value) :: rest := by simp
    rw [List.foldl_cons, insert_of_new new, ih _ (by rwa [regrouped]), regrouped]

/-- A key is removed if it is there, and with it only one member; the others may change their
places. -/
theorem remove_cases (members : Members) (key : String) :
    (key ∉ members.keys ∧ members.remove key = members) ∨
      ∃ before value after, members = before ++ (key, value) :: after ∧
        (members.remove key).Perm (before ++ after) := by
  unfold remove
  cases found : members.findIdx? (·.1 == key) with
  | none =>
    refine .inl ⟨?_, rfl⟩
    intro present
    obtain ⟨member, among, isKey⟩ := List.mem_map.mp present
    have absent := List.findIdx?_eq_none_iff.mp found member among
    simp [isKey] at absent
  | some place =>
    obtain ⟨bound, isKey, -⟩ := List.findIdx?_eq_some_iff_getElem.mp found
    refine .inr ⟨members.take place, members[place].2, members.drop (place + 1), ?_, ?_⟩
    · have same : (key, members[place].2) = members[place] := by
        rw [← beq_iff_eq.mp isKey]
      rw [same, List.getElem_cons_drop, List.take_append_drop]
    · rcases List.eq_nil_or_concat members with rfl | ⟨init, last, rfl⟩
      · simp at bound
      · rw [List.concat_eq_append] at bound ⊢
        rw [List.getLast?_concat]
        dsimp only
        by_cases atEnd : place = init.length
        · subst atEnd
          simp
        · have inner : place < init.length := by
            rw [List.length_append, List.length_singleton] at bound
            omega
          rw [List.set_append_left _ _ inner, List.dropLast_concat,
            List.take_append_of_le_length (Nat.le_of_lt inner), List.drop_append_of_le_length inner,
            List.set_eq_take_append_cons_drop, if_pos inner]
          exact List.Perm.append_left _ (List.perm_append_singleton _ _).symm

/-- Removing a key leaves the members under other keys, perhaps in other places. -/
theorem remove_perm {members : Members} (distinct : members.keys.Nodup) (key : String) :
    (members.remove key).Perm (members.filter (·.1 ≠ key)) := by
  rcases remove_cases members key with ⟨absent, same⟩ | ⟨before, value, after, rfl, perm⟩
  · rw [same, List.filter_eq_self.mpr]
    intro member among
    simpa using fun isKey : member.1 = key => absent (isKey ▸ List.mem_map_of_mem among)
  · have once : key ∉ keys (before ++ after) := by
      rw [keys_append, keys_cons] at distinct
      rw [keys_append]
      exact (List.nodup_cons.mp (List.perm_middle.nodup_iff.mp distinct)).1
    have others : (before ++ after).filter (·.1 ≠ key) = before ++ after := by
      refine List.filter_eq_self.mpr fun member among => ?_
      simpa using fun isKey : member.1 = key => once (isKey ▸ List.mem_map_of_mem among)
    have kept : (before ++ (key, value) :: after).filter (·.1 ≠ key) = before ++ after := by
      rw [← others]
      simp
    rw [kept]
    exact perm

/-- Removing a key leaves only members that were there. -/
theorem mem_of_mem_remove {members : Members} {key : String} {member : String × Json}
    (among : member ∈ members.remove key) : member ∈ members := by
  rcases remove_cases members key with ⟨-, same⟩ | ⟨before, value, after, rfl, perm⟩
  · rwa [same] at among
  · rcases List.mem_append.mp (perm.mem_iff.mp among) with early | late
    · exact List.mem_append_left _ early
    · exact List.mem_append_right _ (List.mem_cons_of_mem _ late)

theorem mem_keys_of_remove {members : Members} {key other : String}
    (among : other ∈ (members.remove key).keys) : other ∈ members.keys := by
  obtain ⟨member, isMember, rfl⟩ := List.mem_map.mp among
  exact List.mem_map_of_mem (mem_of_mem_remove isMember)

/-- Where keys are distinct they stay so, and a key that is removed is gone. -/
theorem nodup_remove {members : Members} (distinct : members.keys.Nodup) (key : String) :
    (members.remove key).keys.Nodup ∧ key ∉ (members.remove key).keys := by
  have perm : (members.remove key).keys.Perm (keys (members.filter (·.1 ≠ key))) :=
    (remove_perm distinct key).map _
  refine ⟨perm.nodup_iff.mpr (distinct.sublist (List.filter_sublist.map _)), fun present => ?_⟩
  obtain ⟨member, among, isKey⟩ := List.mem_map.mp (perm.mem_iff.mp present)
  exact of_decide_eq_true (List.mem_filter.mp among).2 isKey

end Members

end PluginAudit.Json
