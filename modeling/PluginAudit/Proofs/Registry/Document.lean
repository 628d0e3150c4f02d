import PluginAudit.Proofs.Instant.Reading
import PluginAudit.Proofs.Json.RoundTrip
import PluginAudit.Proofs.Registry.Entries

/-!
# The document of a registry

The text of a registry in which nothing is out of order is read as that registry
if and only if its document is nested no deeper than the reader allows and every
date in it has a year of four digits (`toOption_parse_orderly`). It is read from
the inside, whatever the spacing: the members of an entry (`readsMember_entry`),
the entries under their ids (`readsMember_plugin`), the members at the top
(`readsMember_top`). Whatever the text, the plugins of a registry that is read
are sorted (`sorted_parse`).
-/

set_option autoImplicit false

namespace PluginAudit.Registry

open Json (Members Every Printable Spacing Stops ReadsMember gatherAll gatherAll_cons prettyChars
  openLimit)

variable (spacing : Spacing)

/-! ## What can be read as it is -/

/-- An entry in which nothing is out of order: the keys of its fields are distinct and none of its
own, the fields are printable and the instant is proper. -/
structure Entry.Orderly (entry : Entry) : Prop where
  distinct : entry.metadata.keys.Nodup
  noFlag : flagKey ∉ entry.metadata.keys
  noTime : timeKey ∉ entry.metadata.keys
  printable : ∀ member ∈ entry.metadata, member.2.Every Printable
  proper : entry.validatedAt.Proper

/-- A registry in which nothing is out of order. -/
structure Orderly (registry : Registry) : Prop where
  sorted : Sorted registry.plugins
  entries : ∀ plugin ∈ registry.plugins, plugin.2.Orderly
  distinct : registry.extra.keys.Nodup
  noPlugins : pluginsKey ∉ registry.extra.keys
  printable : ∀ member ∈ registry.extra, member.2.Every Printable

/-- The years of all dates have four digits. -/
def Dated (plugins : List (String × Entry)) : Prop :=
  ∀ plugin ∈ plugins, plugin.2.validatedAt.InFourDigits

instance (plugins : List (String × Entry)) : Decidable (Dated plugins) :=
  inferInstanceAs (Decidable (∀ plugin ∈ plugins, plugin.2.validatedAt.InFourDigits))

/-- An entry that its document does not blur: nothing in it is out of order, and its date is read
again from its text. -/
structure Entry.Readable (entry : Entry) : Prop extends Entry.Orderly entry where
  inFourDigits : entry.validatedAt.InFourDigits

/-- A registry that its document does not blur. -/
structure Readable (registry : Registry) : Prop extends Orderly registry where
  dated : Dated registry.plugins

theorem readable_empty : Readable {} where
  sorted := sorted_nil
  entries _ among := nomatch among
  distinct := List.nodup_nil
  noPlugins := List.not_mem_nil
  printable _ among := nomatch among
  dated _ among := nomatch among

/-- A registry stays in order when entries that are in order are put into it. -/
theorem Orderly.insertAll {registry : Registry} (orderly : registry.Orderly)
    {calls : List (String × Entry)} (entries : ∀ call ∈ calls, call.2.Orderly) :
    (registry.insertAll calls).Orderly where
  sorted := sorted_insertAll orderly.sorted
  entries plugin among := (mem_insertAll among).elim (entries plugin) (orderly.entries plugin)
  distinct := by rw [extra_insertAll]; exact orderly.distinct
  noPlugins := by rw [extra_insertAll]; exact orderly.noPlugins
  printable := by rw [extra_insertAll]; exact orderly.printable

/-- A registry stays readable when readable entries are put into it. -/
theorem Readable.insertAll {registry : Registry} (readable : registry.Readable)
    {calls : List (String × Entry)} (entries : ∀ call ∈ calls, call.2.Readable) :
    (registry.insertAll calls).Readable where
  toOrderly := readable.toOrderly.insertAll fun call isCall => (entries call isCall).toOrderly
  dated plugin among := (mem_insertAll among).elim
    (fun isCall => (entries plugin isCall).inFourDigits) (readable.dated plugin)

/-! ## Entries -/

theorem booleanValue_chars (level : Nat) (flag : Bool) (rest : List Char) :
    Json.booleanValue (spacing.colon ++ (spacing.chars level (.bool flag) ++ rest)) =
      .ok (flag, rest) := by
  rw [Json.booleanValue, Json.skipBlanks_append spacing.colon_blank]
  cases flag <;> rfl

theorem stringValue_chars (level : Nat) (text : String) (rest : List Char) :
    Json.stringValue (spacing.colon ++ (spacing.chars level (.string text) ++ rest)) =
      .ok (text, rest) := by
  obtain ⟨body, written, reads⟩ := Json.quoted_body text
  rw [Json.stringValue, Json.skipBlanks_append spacing.colon_blank, Spacing.chars, written]
  exact reads rest

/-- What the members of an entry's document are gathered to. -/
def gatherEntry (entry : Entry) (levels : Nat) (fields : EntryFields) (key : String)
    (content : Json) : Option EntryFields :=
  if key = flagKey then
    if fields.validated.isSome then none
    else some { fields with validated := some entry.validated }
  else if key = timeKey then
    if fields.validatedAt.isSome then none
    else if entry.validatedAt.InFourDigits then
      some { fields with validatedAt := some entry.validatedAt }
    else none
  else if content.depth ≤ levels then
    some { fields with metadata := fields.metadata.insert key content }
  else none

/-- The date of an entry is read if its year has four digits. -/
theorem readsMember_date {entry : Entry} (proper : entry.validatedAt.Proper) (levels level : Nat) :
    ReadsMember spacing (entryMember levels) (gatherEntry entry levels) level timeKey
      (.string entry.validatedAt.write) := by
  intro fields rest _
  have notFlag : ¬ timeKey = flagKey := by decide
  rw [entryMember, gatherEntry, if_neg notFlag, if_pos rfl, if_neg (by simpa using notFlag),
    if_pos (by simp)]
  cases fields.validatedAt with
  | some _ => rfl
  | none =>
    have reads := Instant.toOption_read_write proper
    simp only [Option.isSome_none, Bool.false_eq_true, if_false, Json.colon_cons, bind,
      Except.bind, stringValue_chars]
    by_cases inFourDigits : entry.validatedAt.InFourDigits
    · rw [if_pos inFourDigits, Json.toOption_eq_some] at reads
      rw [reads, if_pos inFourDigits]
      rfl
    · rw [if_neg inFourDigits] at reads
      rw [if_neg inFourDigits]
      cases read : Instant.read entry.validatedAt.write with
      | error fault => rfl
      | ok instant =>
        rw [read] at reads
        cases reads

/-- **Each member of an entry's document is read.** -/
theorem readsMember_entry {entry : Entry} (orderly : entry.Orderly) (levels level : Nat) :
    ∀ member ∈ entry.metadata ++ [(flagKey, .bool entry.validated),
        (timeKey, .string entry.validatedAt.write)],
      ReadsMember spacing (entryMember levels) (gatherEntry entry levels) level
        member.1 member.2 := by
  rintro ⟨key, content⟩ among fields rest stops
  rcases List.mem_append.mp among with isField | isOwn
  · have notFlag : ¬ key = flagKey := fun same =>
      orderly.noFlag (same ▸ List.mem_map_of_mem isField)
    have notTime : ¬ key = timeKey := fun same =>
      orderly.noTime (same ▸ List.mem_map_of_mem isField)
    have printable := orderly.printable _ isField
    rw [entryMember, gatherEntry, if_neg notFlag, if_neg notTime,
      if_neg (by simpa using notFlag), if_neg (by simpa using notTime)]
    have reads := Json.toOption_value_chars printable spacing levels (level + 1) stops
    rw [← Json.value_colon spacing] at reads
    exact Json.toOption_afterColon
      (fun content => { fields with metadata := fields.metadata.insert key content }) reads
  · rcases List.mem_cons.mp isOwn with same | isOwn
    · obtain ⟨rfl, rfl⟩ := Prod.mk.inj same
      rw [entryMember, gatherEntry, if_pos rfl, if_pos (by simp)]
      cases fields.validated with
      | some _ => rfl
      | none =>
        simp only [Option.isSome_none, Bool.false_eq_true, if_false, Json.colon_cons, bind,
          Except.bind, booleanValue_chars]
        rfl
    · obtain ⟨rfl, rfl⟩ := Prod.mk.inj (List.mem_singleton.mp isOwn)
      exact readsMember_date spacing orderly.proper levels level fields rest stops

/-- Stores a field of an entry. -/
def storeField (fields : EntryFields) (key : String) (content : Json) : EntryFields :=
  { fields with metadata := fields.metadata.insert key content }

theorem foldl_storeField (list : Members) (fields : EntryFields) :
    list.foldl (fun fields member => storeField fields member.1 member.2) fields =
      { fields with
        metadata :=
          list.foldl (fun stored member => stored.insert member.1 member.2) fields.metadata } := by
  induction list generalizing fields with
  | nil => rfl
  | cons member list ih => rw [List.foldl_cons, ih, storeField, List.foldl_cons]

/-- The flag and the date are gathered behind the fields. -/
theorem gatherAll_own (entry : Entry) (levels : Nat) (metadata : Members) :
    gatherAll (gatherEntry entry levels) ⟨metadata, none, none⟩
        [(flagKey, .bool entry.validated), (timeKey, .string entry.validatedAt.write)] =
      if entry.validatedAt.InFourDigits then
        some ⟨metadata, some entry.validated, some entry.validatedAt⟩
      else none := by
  have notFlag : ¬ timeKey = flagKey := by decide
  rw [gatherAll_cons, gatherEntry, if_pos rfl]
  dsimp only [Option.isSome_none]
  rw [if_neg Bool.false_ne_true, Option.bind_some, gatherAll_cons, gatherEntry, if_neg notFlag,
    if_pos rfl]
  dsimp only [Option.isSome_none]
  rw [if_neg Bool.false_ne_true]
  split <;> rfl

/-- **The members of an entry's document are gathered to the entry.** -/
theorem gatherAll_entry {entry : Entry} (orderly : entry.Orderly) (levels : Nat) :
    gatherAll (gatherEntry entry levels) {} (entry.metadata ++ [(flagKey, .bool entry.validated),
        (timeKey, .string entry.validatedAt.write)]) =
      if Json.depthOfMembers entry.metadata ≤ levels ∧ entry.validatedAt.InFourDigits then
        some ⟨entry.metadata, some entry.validated, some entry.validatedAt⟩
      else none := by
  have fields : gatherAll (gatherEntry entry levels) {} entry.metadata =
      if Json.depthOfMembers entry.metadata ≤ levels then some ⟨entry.metadata, none, none⟩
      else none := by
    rw [Json.gatherAll_within storeField, foldl_storeField,
      Members.foldl_insert [] orderly.distinct]
    · rfl
    · intro member among fields
      have notFlag : ¬ member.1 = flagKey := fun same =>
        orderly.noFlag (same ▸ List.mem_map_of_mem among)
      have notTime : ¬ member.1 = timeKey := fun same =>
        orderly.noTime (same ▸ List.mem_map_of_mem among)
      rw [gatherEntry, if_neg notFlag, if_neg notTime, storeField]
  rw [Json.gatherAll_append, fields]
  by_cases fits : Json.depthOfMembers entry.metadata ≤ levels
  · rw [if_pos fits, Option.bind_some, gatherAll_own]
    exact if_congr (and_iff_right fits).symm rfl rfl
  · rw [if_neg fits, if_neg fun both => fits both.1]
    rfl

theorem depth_entry (entry : Entry) :
    entry.toJson.depth = Json.depthOfMembers entry.metadata + 1 := by
  rw [Entry.toJson, Json.depth, Json.depthOfMembers_append]
  simp [Json.depthOfMembers, Json.depth]

/-- **An entry is read from its document if and only if that is not nested too deeply** and the
year of its date has four digits. -/
theorem toOption_entryReader {entry : Entry} (orderly : entry.Orderly) (levels level : Nat)
    (rest : List Char) :
    (entryReader levels (spacing.chars level entry.toJson ++ rest)).toOption =
      if entry.toJson.depth ≤ levels ∧ entry.validatedAt.InFourDigits then some (entry, rest)
      else none := by
  rw [entryReader, Json.toOption_bind, depth_entry, Entry.toJson]
  cases levels with
  | zero =>
    rw [Json.toOption_objectOf_zero, if_neg fun both => absurd both.1 (Nat.not_succ_le_zero _)]
    rfl
  | succ levels =>
    rw [Json.toOption_objectOf _ (readsMember_entry spacing orderly levels level),
      gatherAll_entry orderly, if_congr (and_congr_left' Nat.succ_le_succ_iff) rfl rfl]
    split <;> rfl

theorem entryReader_colon (levels : Nat) (text : List Char) :
    entryReader levels (spacing.colon ++ text) = entryReader levels text := by
  rw [entryReader, entryReader, Json.objectOf_colon]

/-! ## Plugins -/

/-- The plugins as JSON. -/
def pluginsJson (plugins : List (String × Entry)) : Json :=
  .object (plugins.map fun (id, entry) => (id, entry.toJson))

/-- What the members of the object of plugins are gathered to. -/
def gatherPlugins (plugins : List (String × Entry)) (levels : Nat) (put : List (String × Entry))
    (id : String) (content : Json) : Option (List (String × Entry)) :=
  (plugins.lookup id).bind fun entry =>
    if content.depth ≤ levels ∧ entry.validatedAt.InFourDigits then
      some (insertEntry id entry put)
    else none

/-- Whether a member of the object of plugins is read. -/
def pluginFits (plugins : List (String × Entry)) (levels : Nat) (member : String × Json) : Bool :=
  decide (member.2.depth ≤ levels) &&
    (plugins.lookup member.1).all fun entry => decide entry.validatedAt.InFourDigits

/-- Puts what plugins have under an id. -/
def putAgain (plugins put : List (String × Entry)) (id : String) : List (String × Entry) :=
  match plugins.lookup id with
  | some entry => insertEntry id entry put
  | none => put

/-- Reads a plugin after its id. -/
def pluginMember (levels : Nat) (put : List (String × Entry)) (id : String) (text : List Char) :
    Except Json.Fault (List (String × Entry) × List Char) := do
  let (entry, rest) ← entryReader levels (← Json.colon text)
  pure (insertEntry id entry put, rest)

theorem pluginsReader_eq (levels : Nat) (text : List Char) :
    pluginsReader levels text = Json.objectOf "a map" pluginMember [] levels text := rfl

/-- **Each plugin is read.** -/
theorem readsMember_plugin {plugins : List (String × Entry)} (sorted : Sorted plugins)
    (orderly : ∀ plugin ∈ plugins, plugin.2.Orderly) (levels level : Nat) :
    ∀ member ∈ plugins.map fun (id, entry) => (id, entry.toJson),
      ReadsMember spacing (pluginMember levels) (gatherPlugins plugins levels) level
        member.1 member.2 := by
  intro member among put rest stops
  obtain ⟨⟨id, entry⟩, isPlugin, rfl⟩ := List.mem_map.mp among
  dsimp only
  rw [pluginMember, gatherPlugins, sorted.lookup_of_mem isPlugin]
  have reads := toOption_entryReader spacing (orderly _ isPlugin) levels (level + 1) rest
  rw [← entryReader_colon spacing] at reads
  exact Json.toOption_afterColon (fun entry => insertEntry id entry put) reads

/-- **The plugins are gathered to the plugins.** -/
theorem gatherAll_plugins {plugins : List (String × Entry)} (sorted : Sorted plugins)
    (levels : Nat) :
    gatherAll (gatherPlugins plugins levels) []
        (plugins.map fun (id, entry) => (id, entry.toJson)) =
      if Json.depthOfMembers (plugins.map fun (id, entry) => (id, entry.toJson)) ≤ levels ∧
          Dated plugins then
        some plugins
      else none := by
  have each : ∀ member ∈ plugins.map fun (id, entry) => (id, entry.toJson), ∀ put,
      gatherPlugins plugins levels put member.1 member.2 =
        if pluginFits plugins levels member then some (putAgain plugins put member.1)
        else none := by
    intro member among put
    obtain ⟨⟨id, entry⟩, isPlugin, rfl⟩ := List.mem_map.mp among
    simp only [gatherPlugins, putAgain, pluginFits, sorted.lookup_of_mem isPlugin, Option.bind_some,
      Option.all_some, Bool.and_eq_true, decide_eq_true_eq]
  have all : plugins.foldl (fun put plugin => putAgain plugins put plugin.1) [] = plugins := by
    refine (List.foldl_ext _ _ [] fun put plugin isPlugin => ?_).trans (foldl_insertEntry sorted)
    rw [putAgain, sorted.lookup_of_mem isPlugin]
  have fit : (∀ member ∈ plugins.map fun (id, entry) => (id, entry.toJson),
        pluginFits plugins levels member = true) ↔
      Json.depthOfMembers (plugins.map fun (id, entry) => (id, entry.toJson)) ≤ levels ∧
        Dated plugins := by
    rw [Json.depthOfMembers_le_iff, List.forall_mem_map, List.forall_mem_map, Dated,
      ← forall₂_and]
    refine forall₂_congr fun plugin isPlugin => ?_
    simp only [pluginFits, sorted.lookup_of_mem isPlugin, Option.all_some, Bool.and_eq_true,
      decide_eq_true_eq]
  rw [Json.gatherAll_fitting (fun put id _ => putAgain plugins put id) each, List.foldl_map, all]
  exact if_congr fit rfl rfl

/-- **Plugins are read from their object if and only if that is not nested too deeply** and the
years of all dates have four digits. -/
theorem toOption_pluginsReader {plugins : List (String × Entry)} (sorted : Sorted plugins)
    (orderly : ∀ plugin ∈ plugins, plugin.2.Orderly) (levels level : Nat) (rest : List Char) :
    (pluginsReader levels (spacing.chars level (pluginsJson plugins) ++ rest)).toOption =
      if (pluginsJson plugins).depth ≤ levels ∧ Dated plugins then some (plugins, rest)
      else none := by
  rw [pluginsReader_eq, pluginsJson, Json.depth]
  cases levels with
  | zero =>
    rw [Json.toOption_objectOf_zero, if_neg fun both => absurd both.1 (Nat.not_succ_le_zero _)]
  | succ levels =>
    rw [Json.toOption_objectOf _ (readsMember_plugin spacing sorted orderly levels level),
      gatherAll_plugins sorted, if_congr (and_congr_left' Nat.succ_le_succ_iff) rfl rfl]
    split <;> rfl

theorem pluginsReader_colon (levels : Nat) (text : List Char) :
    pluginsReader levels (spacing.colon ++ text) = pluginsReader levels text := by
  rw [pluginsReader_eq, pluginsReader_eq, Json.objectOf_colon]

/-! ## The registry -/

/-- What the members at the top are gathered to. -/
def gatherTop (registry : Registry) (levels : Nat) (fields : Fields) (key : String)
    (content : Json) : Option Fields :=
  if key = pluginsKey then
    if fields.plugins.isSome then none
    else if content.depth ≤ levels ∧ Dated registry.plugins then
      some { fields with plugins := some registry.plugins }
    else none
  else if content.depth ≤ levels then
    some { fields with extra := fields.extra.insert key content }
  else none

theorem toJson_eq (registry : Registry) :
    registry.toJson = .object ((pluginsKey, pluginsJson registry.plugins) :: registry.extra) := rfl

/-- **Each member at the top is read.** -/
theorem readsMember_top {registry : Registry} (orderly : registry.Orderly) (levels level : Nat) :
    ∀ entry ∈ (pluginsKey, pluginsJson registry.plugins) :: registry.extra,
      ReadsMember spacing (member levels) (gatherTop registry levels) level entry.1 entry.2 := by
  rintro ⟨key, content⟩ among fields rest stops
  rcases List.mem_cons.mp among with same | isExtra
  · obtain ⟨rfl, rfl⟩ := Prod.mk.inj same
    rw [member, gatherTop, if_pos rfl, if_pos (by simp)]
    cases fields.plugins with
    | some _ => rfl
    | none =>
      have reads := toOption_pluginsReader spacing orderly.sorted orderly.entries levels (level + 1)
        rest
      rw [← pluginsReader_colon spacing] at reads
      exact Json.toOption_afterColon
        (fun plugins => { fields with plugins := some plugins }) reads
  · have notPlugins : ¬ key = pluginsKey := fun same =>
      orderly.noPlugins (same ▸ List.mem_map_of_mem isExtra)
    have reads := Json.toOption_value_chars (orderly.printable _ isExtra) spacing levels
      (level + 1) stops
    rw [← Json.value_colon spacing] at reads
    rw [member, gatherTop, if_neg notPlugins, if_neg (by simpa using notPlugins)]
    exact Json.toOption_afterColon
      (fun content => { fields with extra := fields.extra.insert key content }) reads

/-- Stores a member at the top that belongs to others. -/
def storeExtra (fields : Fields) (key : String) (content : Json) : Fields :=
  { fields with extra := fields.extra.insert key content }

theorem foldl_storeExtra (list : Members) (fields : Fields) :
    list.foldl (fun fields entry => storeExtra fields entry.1 entry.2) fields =
      { fields with
        extra := list.foldl (fun stored entry => stored.insert entry.1 entry.2) fields.extra } := by
  induction list generalizing fields with
  | nil => rfl
  | cons entry list ih => rw [List.foldl_cons, ih, storeExtra, List.foldl_cons]

/-- **The members at the top are gathered to the registry.** -/
theorem gatherAll_top {registry : Registry} (orderly : registry.Orderly) (levels : Nat) :
    gatherAll (gatherTop registry levels) {}
        ((pluginsKey, pluginsJson registry.plugins) :: registry.extra) =
      if max (pluginsJson registry.plugins).depth (Json.depthOfMembers registry.extra) ≤ levels ∧
          Dated registry.plugins then
        some ⟨some registry.plugins, registry.extra⟩
      else none := by
  rw [gatherAll_cons, gatherTop, if_pos rfl]
  dsimp only [Option.isSome_none]
  rw [if_neg Bool.false_ne_true]
  by_cases fits : (pluginsJson registry.plugins).depth ≤ levels ∧ Dated registry.plugins
  · have extra : ∀ entry ∈ registry.extra, ∀ fields : Fields,
        gatherTop registry levels fields entry.1 entry.2 =
          if entry.2.depth ≤ levels then some (storeExtra fields entry.1 entry.2) else none := by
      intro entry among fields
      have notPlugins : ¬ entry.1 = pluginsKey := fun same =>
        orderly.noPlugins (same ▸ List.mem_map_of_mem among)
      rw [gatherTop, if_neg notPlugins, storeExtra]
    rw [if_pos fits, Option.bind_some, Json.gatherAll_within storeExtra extra, foldl_storeExtra,
      Members.foldl_insert [] orderly.distinct]
    refine if_congr ?_ rfl rfl
    rw [Nat.max_le, and_iff_right fits.1, and_iff_left fits.2]
  · rw [if_neg fits, if_neg fun both => fits ⟨(Nat.max_le.mp both.1).1, both.2⟩]
    rfl

theorem toOption_mapError {ε ε' α : Type} (result : Except ε α) (change : ε → ε') :
    (result.mapError change).toOption = result.toOption := by
  cases result <;> rfl

/-- The characters of the text of a registry. -/
theorem toList_fileText (registry : Registry) :
    registry.fileText.toList = prettyChars 0 registry.toJson ++ ['\n'] := by
  rw [fileText, Json.pretty, String.toList_append, String.toList_ofList]
  rfl

/-- The text of a registry contains the texts of all fields of its entries. -/
theorem infix_fileText {registry : Registry} {id : String} {entry : Entry} {field : String × Json}
    (found : registry.get? id = some entry) (among : field ∈ entry.metadata) :
    prettyChars 3 field.2 <:+: registry.fileText.toList := by
  obtain ⟨before, after, split, -⟩ := List.lookup_eq_some_iff.mp found
  have isEntry : (id, entry.toJson) ∈
      registry.plugins.map fun plugin => (plugin.1, plugin.2.toJson) := by
    rw [split]
    simp
  have inEntry : prettyChars 3 field.2 <:+: prettyChars 2 entry.toJson :=
    Json.prettyChars_infix_object (List.mem_append_left _ among) 2
  have inPlugins := Json.prettyChars_infix_object isEntry 1
  have inRegistry : _ <:+: prettyChars 0 registry.toJson :=
    Json.prettyChars_infix_object List.mem_cons_self 0
  rw [toList_fileText]
  exact (inEntry.trans (inPlugins.trans inRegistry)).trans (List.prefix_append _ _).isInfix

/-- **A registry is read from its text if and only if its document is not nested too deeply** and
the years of all dates have four digits. -/
theorem toOption_parse_orderly {registry : Registry} (orderly : registry.Orderly) :
    (parse registry.fileText).toOption =
      if registry.toJson.depth ≤ openLimit ∧ Dated registry.plugins then some registry
      else none := by
  have reads : (reader (prettyChars 0 registry.toJson ++ ['\n'])).toOption =
      if registry.toJson.depth ≤ openLimit ∧ Dated registry.plugins then some (registry, ['\n'])
      else none := by
    rw [← Spacing.chars_pretty, reader, Json.toOption_bind, toJson_eq, openLimit,
      Json.toOption_objectOf _ (readsMember_top .pretty orderly 126 0), gatherAll_top orderly,
      Json.depth, Json.depthOfMembers, if_congr (and_congr_left' Nat.succ_le_succ_iff) rfl rfl]
    split <;> rfl
  rw [parse, toOption_mapError, Json.document, Json.toOption_bind, toList_fileText, reads]
  split <;> rfl

/-- A registry that its document does not blur is read from its text if and only if the document
is not nested too deeply. -/
theorem toOption_parse_fileText {registry : Registry} (readable : registry.Readable) :
    (parse registry.fileText).toOption =
      if registry.toJson.depth ≤ openLimit then some registry else none := by
  rw [toOption_parse_orderly readable.toOrderly]
  exact if_congr (and_iff_left readable.dated) rfl rfl

/-- A registry is nested as deeply as the reader allows if its entries leave room for the two
objects around them and its other members for the one. -/
theorem depth_le_iff (registry : Registry) :
    registry.toJson.depth ≤ openLimit ↔
      (∀ plugin ∈ registry.plugins, plugin.2.toJson.depth + 2 ≤ openLimit) ∧
        ∀ entry ∈ registry.extra, entry.2.depth + 1 ≤ openLimit := by
  have plugins : (pluginsJson registry.plugins).depth ≤ 126 ↔
      ∀ plugin ∈ registry.plugins, plugin.2.toJson.depth + 2 ≤ 127 := by
    rw [pluginsJson, Json.depth, Nat.succ_le_succ_iff, Json.depthOfMembers_le_iff]
    constructor
    · intro fits plugin among
      exact Nat.add_le_add_right (fits _ (List.mem_map_of_mem among)) 2
    · intro fits member among
      obtain ⟨plugin, isPlugin, rfl⟩ := List.mem_map.mp among
      exact Nat.le_of_add_le_add_right (fits plugin isPlugin)
  rw [toJson_eq, Json.depth, Json.depthOfMembers, openLimit, Nat.succ_le_succ_iff, Nat.max_le,
    plugins, Json.depthOfMembers_le_iff]
  simp only [Nat.succ_le_succ_iff]

/-! ## What is read -/

theorem sorted_pluginsReader {levels : Nat} {text rest : List Char}
    {plugins : List (String × Entry)}
    (read : pluginsReader levels text = .ok (plugins, rest)) : Sorted plugins := by
  refine Json.objectOf_keep Sorted ?_ sorted_nil read
  intro levels gathered id text next rest sorted ran
  obtain ⟨_, entry, -, rfl⟩ := Json.afterColon_ok (fun entry => insertEntry id entry gathered) ran
  exact sorted_insertEntry sorted id entry

/-- **Whatever the text, the plugins of a registry that is read are sorted.** -/
theorem sorted_parse {text : String} {registry : Registry} (read : parse text = .ok registry) :
    Sorted registry.plugins := by
  obtain ⟨rest, read⟩ := Json.document_ok read
  obtain ⟨⟨fields, behind⟩, areFields, read⟩ := Json.bind_ok read
  obtain ⟨rfl, -⟩ := Prod.mk.inj (Except.ok.inj read)
  have stored : ∀ plugins, fields.plugins = some plugins → Sorted plugins := by
    refine Json.objectOf_keep
      (fun fields : Fields => ∀ plugins, fields.plugins = some plugins → Sorted plugins) ?_
      (fun plugins none => by cases none) areFields
    intro levels gathered key text next rest sorted ran
    unfold member at ran
    split at ran
    · split at ran
      · cases ran
      · obtain ⟨_, plugins, arePlugins, rfl⟩ := Json.afterColon_ok
          (fun plugins => { gathered with plugins := some plugins }) ran
        intro stored same
        obtain rfl := Option.some.inj same
        exact sorted_pluginsReader arePlugins
    · obtain ⟨_, item, -, rfl⟩ := Json.afterColon_ok
        (fun item => { gathered with extra := gathered.extra.insert key item }) ran
      exact sorted
  cases here : fields.plugins with
  | none => exact sorted_nil
  | some plugins => exact stored plugins here

end PluginAudit.Registry
