import PluginAudit.Json.Printer
import PluginAudit.Json.Reader

/-!
# The blanks in printed JSON

The texts of a value differ in the blanks between their parts alone. A spacing
tells which blanks stand before an item, a member or a closing bracket, and which
behind the colon of a member. The compact and the pretty text of a value are its
texts in two spacings (`chars_compact`, `chars_pretty`).
-/

set_option autoImplicit false

namespace PluginAudit.Json

/-- The blanks between the parts of a text: before what stands in a list or an object at a level,
and behind a colon. -/
structure Spacing where
  line : Nat → List Char
  colon : List Char
  line_blank : ∀ level, ∀ c ∈ line level, isSeparator c = true
  colon_blank : ∀ c ∈ colon, isSeparator c = true

namespace Spacing

mutual
/-- The text of a value in a spacing, begun at a level. -/
def chars (spacing : Spacing) (level : Nat) : Json → List Char
  | .null => ['n', 'u', 'l', 'l']
  | .bool true => ['t', 'r', 'u', 'e']
  | .bool false => ['f', 'a', 'l', 's', 'e']
  | .number value => value.print
  | .string text => quoted text
  | .array [] => ['[', ']']
  | .array (item :: items) =>
    '[' :: (spacing.line (level + 1) ++
      (spacing.chars (level + 1) item ++ spacing.charsOfItems level items))
  | .object [] => ['{', '}']
  | .object ((key, value) :: members) =>
    '{' :: (spacing.line (level + 1) ++ (quoted key ++ ':' :: (spacing.colon ++
      (spacing.chars (level + 1) value ++ spacing.charsOfMembers level members))))

/-- The items after the first, with the closing bracket. -/
def charsOfItems (spacing : Spacing) (level : Nat) : List Json → List Char
  | [] => spacing.line level ++ [']']
  | item :: items =>
    ',' :: (spacing.line (level + 1) ++
      (spacing.chars (level + 1) item ++ spacing.charsOfItems level items))

/-- The members after the first, with the closing brace. -/
def charsOfMembers (spacing : Spacing) (level : Nat) : List (String × Json) → List Char
  | [] => spacing.line level ++ ['}']
  | (key, value) :: members =>
    ',' :: (spacing.line (level + 1) ++ (quoted key ++ ':' :: (spacing.colon ++
      (spacing.chars (level + 1) value ++ spacing.charsOfMembers level members))))
end

/-! ## The two spacings in use -/

/-- No blanks. -/
def compact : Spacing where
  line _ := []
  colon := []
  line_blank _ := List.forall_mem_nil _
  colon_blank := List.forall_mem_nil _

/-- Everything on a line of its own, and a blank behind each colon. -/
def pretty : Spacing where
  line := lineBreak
  colon := [' ']
  line_blank level c among := by
    rcases List.mem_cons.mp among with rfl | among
    · rfl
    · rw [List.eq_of_mem_replicate among]
      rfl
  colon_blank := List.forall_mem_singleton.mpr rfl

mutual
theorem chars_compact (level : Nat) (value : Json) :
    compact.chars level value = compactChars value := by
  cases value with
  | null => rfl
  | bool flag => cases flag <;> rfl
  | number written => rfl
  | string text => rfl
  | array items =>
    cases items with
    | nil => rfl
    | cons item items =>
      rw [chars, compactChars, chars_compact (level + 1) item, charsOfItems_compact level items]
      rfl
  | object members =>
    rcases members with _ | ⟨⟨key, value⟩, members⟩
    · rfl
    · rw [chars, compactChars, chars_compact (level + 1) value,
        charsOfMembers_compact level members]
      rfl

theorem charsOfItems_compact (level : Nat) (items : List Json) :
    compact.charsOfItems level items = compactItems items := by
  cases items with
  | nil => rfl
  | cons item items =>
    rw [charsOfItems, compactItems, chars_compact (level + 1) item,
      charsOfItems_compact level items]
    rfl

theorem charsOfMembers_compact (level : Nat) (members : List (String × Json)) :
    compact.charsOfMembers level members = compactMembers members := by
  rcases members with _ | ⟨⟨key, value⟩, members⟩
  · rfl
  · rw [charsOfMembers, compactMembers, chars_compact (level + 1) value,
      charsOfMembers_compact level members]
    rfl
end

mutual
theorem chars_pretty (level : Nat) (value : Json) :
    pretty.chars level value = prettyChars level value := by
  cases value with
  | null => rfl
  | bool flag => cases flag <;> rfl
  | number written => rfl
  | string text => rfl
  | array items =>
    cases items with
    | nil => rfl
    | cons item items =>
      rw [chars, prettyChars, chars_pretty (level + 1) item, charsOfItems_pretty level items]
      rfl
  | object members =>
    rcases members with _ | ⟨⟨key, value⟩, members⟩
    · rfl
    · rw [chars, prettyChars, chars_pretty (level + 1) value, charsOfMembers_pretty level members]
      rfl

theorem charsOfItems_pretty (level : Nat) (items : List Json) :
    pretty.charsOfItems level items = prettyItems level items := by
  cases items with
  | nil => rfl
  | cons item items =>
    rw [charsOfItems, prettyItems, chars_pretty (level + 1) item, charsOfItems_pretty level items]
    rfl

theorem charsOfMembers_pretty (level : Nat) (members : List (String × Json)) :
    pretty.charsOfMembers level members = prettyMembers level members := by
  rcases members with _ | ⟨⟨key, value⟩, members⟩
  · rfl
  · rw [charsOfMembers, prettyMembers, chars_pretty (level + 1) value,
      charsOfMembers_pretty level members]
    rfl
end

end Spacing

end PluginAudit.Json
