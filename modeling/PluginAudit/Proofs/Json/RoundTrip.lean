import PluginAudit.Proofs.Json.Scalars
import PluginAudit.Proofs.Json.Spacing

/-!
# Printed values are read again

Whatever the spacing, the text of a value is read as that value if and only if
the reader may still open as many lists and objects as are nested in it
(`toOption_value_chars`). The loop over the members of an object is told once,
for every way of gathering members (`toOption_members_charsOfMembers`,
`toOption_objectOf`), so that it serves documents of a fixed shape as well.
-/

set_option autoImplicit false

namespace PluginAudit.Json

/-! ## Answers -/

theorem toOption_bind {ε α β : Type} (first : Except ε α) (next : α → Except ε β) :
    (first >>= next).toOption = first.toOption.bind fun value => (next value).toOption := by
  cases first <;> rfl

theorem toOption_ok {ε α : Type} (value : α) :
    (.ok value : Except ε α).toOption = some value := rfl

theorem toOption_eq_some {ε α : Type} {result : Except ε α} {value : α} :
    result.toOption = some value ↔ result = .ok value := by
  cases result <;> simp [Except.toOption]

/-! ## Blanks -/

theorem skipBlanks_cons {c : Char} (noBlank : isSeparator c = false) (rest : List Char) :
    skipBlanks (c :: rest) = c :: rest := by
  simp [skipBlanks, noBlank]

theorem skipBlanks_append {blanks : List Char} (areBlank : ∀ c ∈ blanks, isSeparator c = true)
    (text : List Char) : skipBlanks (blanks ++ text) = skipBlanks text :=
  List.dropWhile_append_of_pos areBlank

theorem skipBlanks_line (spacing : Spacing) (level : Nat) (text : List Char) :
    skipBlanks (spacing.line level ++ text) = skipBlanks text :=
  skipBlanks_append (spacing.line_blank level) text

/-- No number goes on with a blank. -/
theorem stops_append {blanks text : List Char} (areBlank : ∀ c ∈ blanks, isSeparator c = true)
    (stops : Stops text) : Stops (blanks ++ text) := by
  cases blanks with
  | nil => exact stops
  | cons c blanks =>
    have blank := areBlank c List.mem_cons_self
    simp only [isSeparator, Bool.or_eq_true, beq_iff_eq] at blank
    rcases blank with ((rfl | rfl) | rfl) | rfl <;> exact ⟨rfl, by decide, by decide, by decide⟩

/-! ## Values in print -/

variable {spacing : Spacing}

/-- A value that printing does not blur: the keys of an object are distinct and a number reads
back. -/
def Printable : Json → Prop
  | .number written => written.ReadsBack
  | .object members => (Members.keys members).Nodup
  | _ => True

/-- A text starts with a character that is no blank and closes no list. -/
def Opens : List Char → Prop
  | [] => False
  | c :: _ => isSeparator c = false ∧ c ≠ ']'

theorem opens_of_numberText {text rest : List Char} {number : Number}
    (read : numberText text = .ok (number, rest)) : Opens text := by
  unfold numberText at read
  split at read
  · exact ⟨rfl, by decide⟩
  · cases text with
    | nil => cases read
    | cons c text =>
      unfold numberBody at read
      dsimp only at read
      split at read
      · cases read
      · next isDigit =>
        constructor
        · cases blank : isSeparator c with
          | false => rfl
          | true =>
            simp only [isSeparator, Bool.or_eq_true, beq_iff_eq] at blank
            rcases blank with ((rfl | rfl) | rfl) | rfl <;> exact absurd isDigit (by decide)
        · rintro rfl
          exact absurd isDigit (by decide)

theorem opens_chars (spacing : Spacing) {value : Json} (printable : Printable value) (level : Nat)
    (rest : List Char) : Opens (spacing.chars level value ++ rest) := by
  cases value with
  | null => exact ⟨rfl, by decide⟩
  | bool value => cases value <;> exact ⟨rfl, by decide⟩
  | number number =>
    have opens := opens_of_numberText printable
    rw [Spacing.chars]
    cases printed : number.print with
    | nil => rw [printed] at opens; cases opens
    | cons c more => rw [printed] at opens; exact opens
  | string text => exact ⟨rfl, by decide⟩
  | array items => cases items <;> exact ⟨rfl, by decide⟩
  | object members => rcases members with _ | ⟨⟨_, _⟩, _⟩ <;> exact ⟨rfl, by decide⟩

theorem Opens.skipBlanks {text : List Char} (opens : Opens text) : Json.skipBlanks text = text := by
  cases text with
  | nil => cases opens
  | cons c text => exact skipBlanks_cons opens.1 text

/-! ## Scalars in print -/

theorem value_number (levels : Nat) {text rest : List Char} {number : Number}
    (read : numberText text = .ok (number, [])) (stops : Stops rest) :
    value levels (text ++ rest) = .ok (.number number, rest) := by
  have opens := opens_of_numberText read
  unfold numberText at read
  split at read
  · have longer := numberBody_append read stops
    rw [List.cons_append, value, skipBlanks_cons rfl]
    simp [longer, bind, Except.bind, pure, Except.pure]
  · have longer := numberBody_append read stops
    cases text with
    | nil => cases opens
    | cons c text =>
      have isDigit : c.isDigit = true := by
        unfold numberBody at read
        dsimp only at read
        split at read
        · cases read
        · next isDigit => simpa using isDigit
      rw [List.cons_append] at longer ⊢
      rw [value, skipBlanks_cons opens.1]
      split
      case h_9 same =>
        obtain ⟨rfl, rfl⟩ := List.cons.inj same
        rw [if_pos isDigit, longer]
        rfl
      all_goals
        next same => cases same <;> exact absurd isDigit (by decide)

/-! ## Items -/

section Items

variable {α : Type} (item : List Char → Except Fault (α × List Char)) (steps : Nat)

/-- Reads an item and those that follow it. -/
def itemAndMore (text : List Char) : Except Fault (List α × List Char) := do
  let (first, rest) ← item text
  let (others, rest) ← items item steps false rest
  pure (first :: others, rest)

theorem items_end (first : Bool) {text rest : List Char}
    (closes : skipBlanks text = ']' :: rest) :
    items item (steps + 1) first text = .ok ([], rest) := by
  unfold items
  rw [closes]
  cases first <;> rfl

theorem items_first {text : List Char} (opens : Opens (skipBlanks text)) :
    items item (steps + 1) true text = itemAndMore item steps (skipBlanks text) := by
  unfold items
  cases shown : skipBlanks text with
  | nil => rw [shown] at opens; cases opens
  | cons c rest =>
    rw [shown] at opens
    split
    · next same => cases same
    · next same => exact absurd (List.cons.inj same).1 opens.2
    · next same => cases same
    · rfl
    · next same _ _ _ => cases same

theorem items_next {text : List Char} (opens : Opens (skipBlanks text)) :
    items item (steps + 1) false (',' :: text) = itemAndMore item steps (skipBlanks text) := by
  unfold items
  rw [skipBlanks_cons rfl]
  split
  · next same => cases same
  · next same => exact absurd (List.cons.inj same).1 (by decide)
  · next same _ =>
    obtain ⟨-, rfl⟩ := List.cons.inj same
    cases shown : skipBlanks text with
    | nil => rw [shown] at opens; cases opens
    | cons c rest =>
      rw [shown] at opens
      split
      · next same => cases same
      · next same => exact absurd (List.cons.inj same).1 opens.2
      · rfl
  · next same _ _ => cases same
  · next other => exact absurd rfl (other text)

/-- An item that is read in front of more items. -/
theorem toOption_itemAndMore (text : List Char) :
    (itemAndMore item steps text).toOption = (item text).toOption.bind fun first =>
      (items item steps false first.2).toOption.map fun others =>
        (first.1 :: others.1, others.2) := by
  unfold itemAndMore
  rcases item text with _ | ⟨first, rest⟩
  · rfl
  · dsimp only [bind, Except.bind, Except.toOption, Option.bind]
    rcases items item steps false rest with _ | ⟨others, rest⟩ <;> rfl

end Items

theorem stops_charsOfItems (level : Nat) (list : List Json) (rest : List Char) :
    Stops (spacing.charsOfItems level list ++ rest) := by
  cases list with
  | nil =>
    rw [Spacing.charsOfItems, List.append_assoc]
    exact stops_append (spacing.line_blank level) ⟨rfl, by decide, by decide, by decide⟩
  | cons item list => exact ⟨rfl, by decide, by decide, by decide⟩

/-- What an item in print and the items behind it are read as. -/
theorem toOption_itemAndMore_chars {levels level steps : Nat} {item : Json} {list : List Json}
    {rest : List Char}
    (first : ∀ rest, Stops rest →
      (value levels (spacing.chars (level + 1) item ++ rest)).toOption =
        if item.depth ≤ levels then some (item, rest) else none)
    (others :
      (items (value levels) steps false (spacing.charsOfItems level list ++ rest)).toOption =
        if depthOfItems list ≤ levels then some (list, rest) else none) :
    (itemAndMore (value levels) steps
        (spacing.chars (level + 1) item ++ (spacing.charsOfItems level list ++ rest))).toOption =
      if depthOfItems (item :: list) ≤ levels then some (item :: list, rest) else none := by
  rw [toOption_itemAndMore, first _ (stops_charsOfItems level list rest)]
  by_cases fits : item.depth ≤ levels
  · rw [if_pos fits, Option.bind_some, others]
    by_cases fit : depthOfItems list ≤ levels
    · rw [if_pos fit, if_pos (by rw [depthOfItems]; exact Nat.max_le.mpr ⟨fits, fit⟩)]
      rfl
    · rw [if_neg fit, if_neg (by rw [depthOfItems, Nat.max_le]; exact fun both => fit both.2)]
      rfl
  · rw [if_neg fits, if_neg (by rw [depthOfItems, Nat.max_le]; exact fun both => fits both.1)]
    rfl

/-- Where every item is read as it is written, up to a depth, so are the items behind the first.
-/
theorem toOption_items_charsOfItems {levels level : Nat} {list : List Json}
    (printable : ∀ item ∈ list, Printable item)
    (each : ∀ item ∈ list, ∀ rest, Stops rest →
      (value levels (spacing.chars (level + 1) item ++ rest)).toOption =
        if item.depth ≤ levels then some (item, rest) else none)
    {steps : Nat} (enough : list.length < steps) (rest : List Char) :
    (items (value levels) steps false (spacing.charsOfItems level list ++ rest)).toOption =
      if depthOfItems list ≤ levels then some (list, rest) else none := by
  induction list generalizing steps with
  | nil =>
    cases steps with
    | zero => cases enough
    | succ steps =>
      have closes : skipBlanks (spacing.charsOfItems level [] ++ rest) = ']' :: rest := by
        rw [Spacing.charsOfItems, List.append_assoc, skipBlanks_line]
        rfl
      rw [items_end _ _ _ closes]
      rfl
  | cons item list ih =>
    cases steps with
    | zero => cases enough
    | succ steps =>
      have opens := opens_chars spacing (printable item List.mem_cons_self) (level + 1)
        (spacing.charsOfItems level list ++ rest)
      have shown : skipBlanks (spacing.line (level + 1) ++
          (spacing.chars (level + 1) item ++ (spacing.charsOfItems level list ++ rest))) =
          spacing.chars (level + 1) item ++ (spacing.charsOfItems level list ++ rest) := by
        rw [skipBlanks_line, opens.skipBlanks]
      have fewer : list.length < steps := Nat.lt_of_succ_lt_succ enough
      have others := ih (fun item among => printable item (List.mem_cons_of_mem _ among))
        (fun item among => each item (List.mem_cons_of_mem _ among)) fewer
      rw [Spacing.charsOfItems, List.cons_append, List.append_assoc, List.append_assoc,
        items_next _ _ (by rwa [shown]), shown]
      exact toOption_itemAndMore_chars (each item List.mem_cons_self) others

theorem length_le_charsOfItems (spacing : Spacing) (level : Nat) (list : List Json) :
    list.length < (spacing.charsOfItems level list).length := by
  induction list with
  | nil => simp [Spacing.charsOfItems]
  | cons item list ih =>
    simp only [Spacing.charsOfItems, List.length_cons, List.length_append]
    omega

/-- What stands behind the opening bracket of a list in print. -/
theorem listBody (level : Nat) (list : List Json) (rest : List Char) :
    ∃ body, spacing.chars level (.array list) ++ rest = '[' :: body ∧
      ∀ levels, (∀ item ∈ list, Printable item) →
        (∀ item ∈ list, ∀ rest, Stops rest →
          (value levels (spacing.chars (level + 1) item ++ rest)).toOption =
            if item.depth ≤ levels then some (item, rest) else none) →
          (items (value levels) (body.length + 1) true body).toOption =
            if depthOfItems list ≤ levels then some (list, rest) else none := by
  rcases list with _ | ⟨item, list⟩
  · refine ⟨']' :: rest, rfl, ?_⟩
    intro levels _ _
    rw [items_end _ _ _ (skipBlanks_cons rfl rest)]
    rfl
  · refine ⟨spacing.line (level + 1) ++
      (spacing.chars (level + 1) item ++ (spacing.charsOfItems level list ++ rest)), ?_, ?_⟩
    · simp [Spacing.chars]
    · intro levels printable each
      have opens := opens_chars spacing (printable item List.mem_cons_self) (level + 1)
        (spacing.charsOfItems level list ++ rest)
      have shown := (skipBlanks_line spacing (level + 1) _).trans opens.skipBlanks
      rw [items_first _ _ (by rwa [shown]), shown]
      refine toOption_itemAndMore_chars (each item List.mem_cons_self) ?_
      refine toOption_items_charsOfItems
        (fun item among => printable item (List.mem_cons_of_mem _ among))
        (fun item among => each item (List.mem_cons_of_mem _ among)) ?_ rest
      have longer := length_le_charsOfItems spacing level list
      simp only [List.length_append]
      omega

/-! ## Members -/

section Members

variable {σ : Type} (member : σ → String → List Char → Except Fault (σ × List Char)) (steps : Nat)
  (gathered : σ)

/-- Reads a member after the quote that opens its key, and the members that follow it. -/
def memberAndMore (text : List Char) : Except Fault (σ × List Char) := do
  let (key, rest) ← stringBody text
  let (gathered, rest) ← member gathered key rest
  members member steps false gathered rest

theorem members_end (first : Bool) {text rest : List Char}
    (closes : skipBlanks text = '}' :: rest) :
    members member (steps + 1) first gathered text = .ok (gathered, rest) := by
  unfold members
  rw [closes]
  cases first <;> rfl

theorem members_first {text body : List Char} (opens : skipBlanks text = '"' :: body) :
    members member (steps + 1) true gathered text = memberAndMore member steps gathered body := by
  unfold members
  rw [opens]
  split
  · next same => cases same
  · next same => exact absurd (List.cons.inj same).1 (by decide)
  · next same => cases same
  · next same _ =>
    obtain ⟨-, rfl⟩ := List.cons.inj same
    rfl
  · next other => exact absurd rfl (other body)
  · next same _ _ _ => cases same

theorem members_next {text body : List Char} (opens : skipBlanks text = '"' :: body) :
    members member (steps + 1) false gathered (',' :: text) =
      memberAndMore member steps gathered body := by
  unfold members
  rw [skipBlanks_cons rfl]
  split
  · next same => cases same
  · next same => exact absurd (List.cons.inj same).1 (by decide)
  · next same _ =>
    obtain ⟨-, rfl⟩ := List.cons.inj same
    rw [opens]
    rfl
  · next same _ => cases same
  · next same _ _ _ => cases same
  · next other => exact absurd rfl (other text)

/-- A member that is read in front of more members. -/
theorem toOption_memberAndMore (text : List Char) :
    (memberAndMore member steps gathered text).toOption =
      (stringBody text).toOption.bind fun key =>
        (member gathered key.1 key.2).toOption.bind fun next =>
          (members member steps false next.1 next.2).toOption := by
  unfold memberAndMore
  rcases stringBody text with _ | ⟨key, rest⟩
  · rfl
  · dsimp only [bind, Except.bind, Except.toOption, Option.bind]
    rcases member gathered key rest with _ | ⟨next, rest⟩ <;> rfl

end Members

/-- A member in print is read, whatever has been gathered, to what `gather` makes of it. -/
def ReadsMember {σ : Type} (spacing : Spacing)
    (member : σ → String → List Char → Except Fault (σ × List Char))
    (gather : σ → String → Json → Option σ) (level : Nat) (key : String) (content : Json) : Prop :=
  ∀ gathered rest, Stops rest →
    (member gathered key
        (':' :: (spacing.colon ++ (spacing.chars (level + 1) content ++ rest)))).toOption =
      (gather gathered key content).map fun next => (next, rest)

/-- What comes of gathering members one after the other. -/
def gatherAll {σ : Type} (gather : σ → String → Json → Option σ) (gathered : σ)
    (list : List (String × Json)) : Option σ :=
  list.foldlM (fun gathered member => gather gathered member.1 member.2) gathered

theorem gatherAll_cons {σ : Type} (gather : σ → String → Json → Option σ) (gathered : σ)
    (key : String) (content : Json) (list : List (String × Json)) :
    gatherAll gather gathered ((key, content) :: list) =
      (gather gathered key content).bind fun next => gatherAll gather next list := by
  rw [gatherAll, List.foldlM_cons]
  rfl

theorem gatherAll_append {σ : Type} (gather : σ → String → Json → Option σ) (gathered : σ)
    (first second : List (String × Json)) :
    gatherAll gather gathered (first ++ second) =
      (gatherAll gather gathered first).bind fun next => gatherAll gather next second := by
  rw [gatherAll, List.foldlM_append]
  rfl

section Gathered

variable {σ : Type} {member : σ → String → List Char → Except Fault (σ × List Char)}
  {gather : σ → String → Json → Option σ} {level : Nat}

theorem stops_charsOfMembers (level : Nat) (list : List (String × Json)) (rest : List Char) :
    Stops (spacing.charsOfMembers level list ++ rest) := by
  rcases list with _ | ⟨⟨key, content⟩, list⟩
  · rw [Spacing.charsOfMembers, List.append_assoc]
    exact stops_append (spacing.line_blank level) ⟨rfl, by decide, by decide, by decide⟩
  · exact ⟨rfl, by decide, by decide, by decide⟩

/-- What a member in print and the members behind it are read as. -/
theorem toOption_memberAndMore_chars {steps : Nat} {key : String} {content : Json}
    {list : List (String × Json)} {body rest : List Char} {gathered : σ}
    (isKey : ∀ rest, stringBody (body ++ rest) = .ok (key, rest))
    (first : ReadsMember spacing member gather level key content)
    (others : ∀ gathered,
      (members member steps false gathered (spacing.charsOfMembers level list ++ rest)).toOption =
        (gatherAll gather gathered list).map fun all => (all, rest)) :
    (memberAndMore member steps gathered (body ++ ':' :: (spacing.colon ++
        (spacing.chars (level + 1) content ++
          (spacing.charsOfMembers level list ++ rest))))).toOption =
      (gatherAll gather gathered ((key, content) :: list)).map fun all => (all, rest) := by
  rw [toOption_memberAndMore, isKey, gatherAll_cons, toOption_ok, Option.bind_some,
    first gathered _ (stops_charsOfMembers level list rest)]
  cases gather gathered key content with
  | none => rfl
  | some next => exact others next

/-- **Members are gathered as they are written.** -/
theorem toOption_members_charsOfMembers {list : List (String × Json)}
    (each : ∀ entry ∈ list, ReadsMember spacing member gather level entry.1 entry.2) {steps : Nat}
    (enough : list.length < steps) (gathered : σ) (rest : List Char) :
    (members member steps false gathered (spacing.charsOfMembers level list ++ rest)).toOption =
      (gatherAll gather gathered list).map fun all => (all, rest) := by
  induction list generalizing steps gathered with
  | nil =>
    cases steps with
    | zero => cases enough
    | succ steps =>
      have closes : skipBlanks (spacing.charsOfMembers level [] ++ rest) = '}' :: rest := by
        rw [Spacing.charsOfMembers, List.append_assoc, skipBlanks_line]
        rfl
      rw [members_end _ _ _ _ closes]
      rfl
  | cons entry list ih =>
    obtain ⟨key, content⟩ := entry
    cases steps with
    | zero => cases enough
    | succ steps =>
      obtain ⟨body, written, isKey⟩ := quoted_body key
      have shown : skipBlanks (spacing.line (level + 1) ++ ('"' :: body ++ (':' :: (spacing.colon ++
          (spacing.chars (level + 1) content ++ spacing.charsOfMembers level list)) ++ rest))) =
          '"' :: (body ++ ':' :: (spacing.colon ++
            (spacing.chars (level + 1) content ++
              (spacing.charsOfMembers level list ++ rest)))) := by
        rw [skipBlanks_line, List.cons_append, skipBlanks_cons rfl]
        simp
      rw [Spacing.charsOfMembers, written, List.cons_append, List.append_assoc, List.append_assoc,
        members_next _ _ _ shown]
      exact toOption_memberAndMore_chars isKey (each (key, content) List.mem_cons_self)
        fun gathered => ih (fun entry among => each entry (List.mem_cons_of_mem _ among))
          (Nat.lt_of_succ_lt_succ enough) gathered

theorem length_le_charsOfMembers (spacing : Spacing) (level : Nat) (list : List (String × Json)) :
    list.length < (spacing.charsOfMembers level list).length := by
  induction list with
  | nil => simp [Spacing.charsOfMembers]
  | cons entry list ih =>
    obtain ⟨key, content⟩ := entry
    simp only [Spacing.charsOfMembers, List.length_cons, List.length_append]
    omega

end Gathered

/-- What stands behind the opening brace of an object in print. -/
theorem objectBody (level : Nat) (list : List (String × Json)) (rest : List Char) :
    ∃ body, spacing.chars level (.object list) ++ rest = '{' :: body ∧
      ∀ {σ : Type} {member : σ → String → List Char → Except Fault (σ × List Char)}
        {gather : σ → String → Json → Option σ},
        (∀ entry ∈ list, ReadsMember spacing member gather level entry.1 entry.2) →
          ∀ gathered, (members member (body.length + 1) true gathered body).toOption =
            (gatherAll gather gathered list).map fun all => (all, rest) := by
  rcases list with _ | ⟨⟨key, content⟩, list⟩
  · refine ⟨'}' :: rest, rfl, ?_⟩
    intro σ member gather each gathered
    rw [members_end _ _ _ _ (skipBlanks_cons rfl rest)]
    rfl
  · obtain ⟨body, written, isKey⟩ := quoted_body key
    refine ⟨spacing.line (level + 1) ++ '"' :: (body ++ ':' :: (spacing.colon ++
      (spacing.chars (level + 1) content ++
        (spacing.charsOfMembers level list ++ rest)))), ?_, ?_⟩
    · simp [Spacing.chars, written]
    · intro σ member gather each gathered
      rw [members_first _ _ _ ((skipBlanks_line _ _ _).trans (skipBlanks_cons rfl _))]
      refine toOption_memberAndMore_chars isKey (each (key, content) List.mem_cons_self) ?_
      intro gathered
      refine toOption_members_charsOfMembers
        (fun entry among => each entry (List.mem_cons_of_mem _ among)) ?_ gathered rest
      have longer := length_le_charsOfMembers spacing level list
      simp only [List.length_append, List.length_cons]
      omega

/-- **An object in print is read by gathering its members,** by every reader of objects that has a
level left. -/
theorem toOption_objectOf {σ : Type} (wanted : String)
    {member : Nat → σ → String → List Char → Except Fault (σ × List Char)}
    {gather : σ → String → Json → Option σ} {levels level : Nat} {list : List (String × Json)}
    (each : ∀ entry ∈ list, ReadsMember spacing (member levels) gather level entry.1 entry.2)
    (start : σ) (rest : List Char) :
    (objectOf wanted member start (levels + 1)
        (spacing.chars level (.object list) ++ rest)).toOption =
      (gatherAll gather start list).map fun all => (all, rest) := by
  obtain ⟨body, written, gathers⟩ := objectBody level list rest
  rw [written, objectOf, skipBlanks_cons rfl]
  exact gathers each start

theorem toOption_objectOf_zero {σ : Type} (wanted : String)
    (member : Nat → σ → String → List Char → Except Fault (σ × List Char)) (start : σ)
    (level : Nat) (list : List (String × Json)) (rest : List Char) :
    (objectOf wanted member start 0 (spacing.chars level (.object list) ++ rest)).toOption =
      none := by
  obtain ⟨body, written, -⟩ := objectBody level list rest
  rw [written, objectOf, skipBlanks_cons rfl]
  rfl

/-! ## Values -/

/-- Where each member is stored if it fits, all are, or none. -/
theorem gatherAll_fitting {σ : Type} {gather : σ → String → Json → Option σ}
    {fits : String × Json → Prop} [DecidablePred fits] {list : List (String × Json)}
    (store : σ → String → Json → σ)
    (each : ∀ entry ∈ list, ∀ gathered, gather gathered entry.1 entry.2 =
      if fits entry then some (store gathered entry.1 entry.2) else none) (start : σ) :
    gatherAll gather start list =
      if ∀ entry ∈ list, fits entry then
        some (list.foldl (fun gathered entry => store gathered entry.1 entry.2) start)
      else none := by
  induction list generalizing start with
  | nil => rfl
  | cons entry list ih =>
    rw [gatherAll_cons, each entry List.mem_cons_self]
    by_cases first : fits entry
    · rw [if_pos first, Option.bind_some, List.foldl_cons,
        ih fun entry among => each entry (List.mem_cons_of_mem _ among)]
      refine if_congr ?_ rfl rfl
      rw [List.forall_mem_cons, and_iff_right first]
    · rw [if_neg first, if_neg fun all => first (all entry List.mem_cons_self)]
      rfl

/-- Where each member is stored if its value is not nested too deeply, all are, or none. -/
theorem gatherAll_within {σ : Type} {gather : σ → String → Json → Option σ} {levels : Nat}
    {list : List (String × Json)} (store : σ → String → Json → σ)
    (each : ∀ entry ∈ list, ∀ gathered, gather gathered entry.1 entry.2 =
      if entry.2.depth ≤ levels then some (store gathered entry.1 entry.2) else none) (start : σ) :
    gatherAll gather start list =
      if depthOfMembers list ≤ levels then
        some (list.foldl (fun gathered entry => store gathered entry.1 entry.2) start)
      else none := by
  rw [gatherAll_fitting store each]
  exact if_congr depthOfMembers_le_iff.symm rfl rfl

/-- Stores a member whose value may be nested so deeply. -/
def storeWithin (levels : Nat) (stored : Members) (key : String) (content : Json) :
    Option Members :=
  if content.depth ≤ levels then some (stored.insert key content) else none

theorem colon_cons (text : List Char) : colon (':' :: text) = .ok text := by
  rw [colon, skipBlanks_cons rfl]
  rfl

theorem value_string (levels : Nat) (text : List Char) :
    value levels ('"' :: text) =
      stringBody text >>= fun read => pure (.string read.1, read.2) := by
  rw [value, skipBlanks_cons rfl]
  rfl

theorem value_array (levels : Nat) (text : List Char) :
    value (levels + 1) ('[' :: text) =
      items (value levels) (text.length + 1) true text >>= fun read =>
        pure (.array read.1, read.2) := by
  rw [value, skipBlanks_cons rfl]
  rfl

theorem value_object (levels : Nat) (text : List Char) :
    value (levels + 1) ('{' :: text) =
      members (fun (gathered : Members) key text =>
          colon text >>= fun text => value levels text >>= fun read =>
            pure (gathered.insert key read.1, read.2))
        (text.length + 1) true ([] : Members) text >>= fun read =>
          pure (.object read.1, read.2) := by
  rw [value, skipBlanks_cons rfl]
  rfl

/-- Nothing can be opened when no level is left. -/
theorem value_zero {c : Char} (opening : c = '[' ∨ c = '{') (text : List Char) :
    (value 0 (c :: text)).toOption = none := by
  rcases opening with rfl | rfl
  · rw [value, skipBlanks_cons rfl]
    rfl
  · rw [value, skipBlanks_cons rfl]
    rfl

theorem value_colon (spacing : Spacing) (levels : Nat) (text : List Char) :
    value levels (spacing.colon ++ text) = value levels text := by
  unfold value
  rw [skipBlanks_append spacing.colon_blank]

theorem objectOf_colon {σ : Type} (spacing : Spacing) (wanted : String)
    (member : Nat → σ → String → List Char → Except Fault (σ × List Char)) (start : σ)
    (levels : Nat) (text : List Char) :
    objectOf wanted member start levels (spacing.colon ++ text) =
      objectOf wanted member start levels text := by
  rw [objectOf, objectOf, skipBlanks_append spacing.colon_blank]

/-- What is read after the colon of a member in print, and then stored. -/
theorem toOption_afterColon {α σ : Type} {reader : List Char → Except Fault (α × List Char)}
    {read : α} {fits : Prop} [Decidable fits] {text rest : List Char} (store : α → σ)
    (reads : (reader text).toOption = if fits then some (read, rest) else none) :
    (colon (':' :: text) >>= fun text => reader text >>= fun found =>
        (pure (store found.1, found.2) : Except Fault (σ × List Char))).toOption =
      (if fits then some (store read) else none).map fun next => (next, rest) := by
  rw [colon_cons, toOption_bind, toOption_ok, Option.bind_some, toOption_bind, reads]
  by_cases shallow : fits
  · rw [if_pos shallow, if_pos shallow]
    rfl
  · rw [if_neg shallow, if_neg shallow]
    rfl

/-- **A printed value is read again if and only if it is not nested too deeply,** whatever stands
behind it, as long as no number goes on there. -/
theorem toOption_value_chars {content : Json} (printable : content.Every Printable)
    (spacing : Spacing) (levels level : Nat) {rest : List Char} (stops : Stops rest) :
    (value levels (spacing.chars level content ++ rest)).toOption =
      if content.depth ≤ levels then some (content, rest) else none := by
  induction content using byParts generalizing levels level rest with
  | null => unfold value; rfl
  | bool flag => cases flag <;> (unfold value; rfl)
  | number written =>
    rw [Spacing.chars, value_number levels printable stops]
    rfl
  | string text =>
    obtain ⟨body, written, reads⟩ := quoted_body text
    rw [Spacing.chars, written, List.cons_append, value_string, reads]
    rfl
  | array items ih =>
    obtain ⟨-, inside⟩ := every_array.mp printable
    obtain ⟨body, written, reads⟩ := listBody level items rest
    rw [written, depth]
    cases levels with
    | zero =>
      rw [value_zero (.inl rfl)]
      rfl
    | succ levels =>
      rw [value_array, toOption_bind, reads levels (fun item among => (inside item among).self)
        fun item among rest stops => ih item among (inside item among) levels (level + 1) stops]
      by_cases fits : depthOfItems items ≤ levels
      · rw [if_pos fits, if_pos (Nat.succ_le_succ fits)]
        rfl
      · rw [if_neg fits, if_neg fun more => fits (Nat.le_of_succ_le_succ more)]
        rfl
  | object list ih =>
    obtain ⟨distinct, inside⟩ := every_object.mp printable
    obtain ⟨body, written, gathers⟩ := objectBody level list rest
    rw [written, depth]
    cases levels with
    | zero =>
      rw [value_zero (.inr rfl)]
      rfl
    | succ levels =>
      have each : ∀ entry ∈ list, ReadsMember spacing (fun (gathered : Members) key text =>
          colon text >>= fun text => value levels text >>= fun read =>
            pure (gathered.insert key read.1, read.2)) (storeWithin levels) level
            entry.1 entry.2 := by
        intro entry among gathered rest stops
        refine toOption_afterColon (gathered.insert entry.1) ?_
        rw [value_colon]
        exact ih entry among (inside entry among) levels (level + 1) stops
      rw [value_object, toOption_bind, gathers each,
        gatherAll_within Members.insert fun entry among gathered => rfl,
        Members.foldl_insert [] distinct]
      by_cases fits : depthOfMembers list ≤ levels
      · rw [if_pos fits, if_pos (Nat.succ_le_succ fits)]
        rfl
      · rw [if_neg fits, if_neg fun more => fits (Nat.le_of_succ_le_succ more)]
        rfl

/-- **The pretty text of a value that is not nested too deeply is a document of that value.** -/
theorem parse_pretty {content : Json} (printable : content.Every Printable)
    (shallow : content.depth ≤ openLimit) : parse content.pretty = .ok content := by
  have stops : Stops [] := trivial
  have reads := toOption_value_chars printable Spacing.pretty openLimit 0 stops
  rw [if_pos shallow, List.append_nil, Spacing.chars_pretty, toOption_eq_some] at reads
  rw [parse, pretty, String.toList_ofList, document, reads]
  rfl

/-! ## Parts of texts -/

/-- What is in the text of a member or behind it is there when the key is written before. -/
theorem infix_member {part : List Char} {level : Nat} {content : Json} {others : List Char}
    (inside : part <:+: prettyChars (level + 1) content ++ others) (opening : Char) (key : String) :
    part <:+: opening :: (lineBreak (level + 1) ++ (quoted key ++ ':' :: ' ' ::
      (prettyChars (level + 1) content ++ others))) :=
  inside.trans ⟨opening :: (lineBreak (level + 1) ++ (quoted key ++ [':', ' '])), [], by simp⟩

theorem prettyChars_infix_members {list : List (String × Json)} {entry : String × Json}
    (among : entry ∈ list) (level : Nat) :
    prettyChars (level + 1) entry.2 <:+: prettyMembers level list := by
  induction list with
  | nil => cases among
  | cons first rest ih =>
    rw [prettyMembers]
    refine infix_member ?_ ',' first.1
    rcases List.mem_cons.mp among with rfl | among
    · exact (List.prefix_append _ _).isInfix
    · exact (ih among).trans (List.suffix_append _ _).isInfix

/-- **The text of an object contains the texts of its members.** -/
theorem prettyChars_infix_object {list : List (String × Json)} {entry : String × Json}
    (among : entry ∈ list) (level : Nat) :
    prettyChars (level + 1) entry.2 <:+: prettyChars level (.object list) := by
  cases list with
  | nil => cases among
  | cons first rest =>
    rw [prettyChars]
    refine infix_member ?_ '{' first.1
    rcases List.mem_cons.mp among with rfl | among
    · exact (List.prefix_append _ _).isInfix
    · exact (prettyChars_infix_members among level).trans (List.suffix_append _ _).isInfix

end PluginAudit.Json
