import PluginAudit.Proofs.Registry.Reloading
import PluginAudit.Proofs.Registry.Saving

/-!
# Saving a registry that has been loaded

In a registry that has been read nothing is out of order (`parse_fromText`): the
fields of entries and the other members at the top are stored one after the
other, each under a key of its own, and a date that is read is proper. So such a
registry comes back unchanged when it is saved and loaded, unless an offset has
moved a date out of the years with four digits; what is written for that is not
read (`resaved_registry_reloads_iff_dated`).
-/

set_option autoImplicit false

namespace PluginAudit.Registry

open Json (Members Every Regular openLimit bind_ok)

/-! ## What has been read -/

/-- Members that have been read and stored one after the other, with so many levels to open,
beside members that are read in another way. -/
structure Stored (others : List String) (levels : Nat) (members : Members) : Prop where
  distinct : members.keys.Nodup
  apart : ∀ key ∈ others, key ∉ members.keys
  regular : ∀ member ∈ members, member.2.Every Regular
  shallow : ∀ member ∈ members, member.2.depth ≤ levels

theorem stored_nil (others : List String) (levels : Nat) : Stored others levels [] where
  distinct := List.nodup_nil
  apart _ _ := List.not_mem_nil
  regular _ among := nomatch among
  shallow _ among := nomatch among

/-- A member that is read can be stored too. -/
theorem Stored.insert {others : List String} {levels : Nat} {members : Members} {key : String}
    {content : Json} {text rest : List Char} (stored : Stored others levels members)
    (other : key ∉ others) (read : Json.value levels text = .ok (content, rest)) :
    Stored others levels (members.insert key content) where
  distinct := Members.nodup_insert stored.distinct key content
  apart taken isOther among := by
    rw [Members.keys_insert] at among
    split at among
    · exact stored.apart taken isOther among
    · rcases List.mem_append.mp among with among | isKey
      · exact stored.apart taken isOther among
      · exact other (List.mem_singleton.mp isKey ▸ isOther)
  regular member among := by
    rcases Members.mem_insert among with among | rfl
    · exact stored.regular member among
    · exact Json.value_regular read
  shallow member among := by
    rcases Members.mem_insert among with among | rfl
    · exact stored.shallow member among
    · exact Json.depth_le_of_value read

/-- What has been read of an entry, as far as it has. -/
structure EntryFields.FromText (levels : Nat) (fields : EntryFields) : Prop where
  metadata : Stored [flagKey, timeKey] levels fields.metadata
  proper : ∀ instant, fields.validatedAt = some instant → instant.Proper

/-- An entry that has been read with so many levels to open. -/
structure Entry.FromText (levels : Nat) (entry : Entry) : Prop where
  metadata : Stored [flagKey, timeKey] levels entry.metadata
  proper : entry.validatedAt.Proper

theorem entryMember_fromText {levels : Nat} {fields next : EntryFields} {key : String}
    {text rest : List Char} (fromText : fields.FromText levels)
    (ran : entryMember levels fields key text = .ok (next, rest)) : next.FromText levels := by
  unfold entryMember at ran
  split at ran
  · split at ran
    · cases ran
    · obtain ⟨_, flag, -, rfl⟩ := Json.afterColon_ok
        (fun flag => { fields with validated := some flag }) ran
      exact ⟨fromText.metadata, fromText.proper⟩
  · next notFlag =>
    split at ran
    · split at ran
      · cases ran
      · obtain ⟨text, -, ran⟩ := bind_ok ran
        obtain ⟨⟨written, behind⟩, -, ran⟩ := bind_ok ran
        cases read : Instant.read written with
        | error fault => simp [read] at ran
        | ok instant =>
          simp only [read] at ran
          obtain ⟨rfl, -⟩ := Prod.mk.inj (Except.ok.inj ran)
          refine ⟨fromText.metadata, fun other same => ?_⟩
          obtain rfl := Option.some.inj same
          exact Instant.proper_of_read read
    · next notTime =>
      obtain ⟨_, content, read, rfl⟩ := Json.afterColon_ok
        (fun content => { fields with metadata := fields.metadata.insert key content }) ran
      refine ⟨fromText.metadata.insert ?_ read, fromText.proper⟩
      simpa using And.intro (by simpa using notFlag) (by simpa using notTime)

/-- **What is read as an entry** has been read with one level less. -/
theorem entryReader_fromText {levels : Nat} {text rest : List Char} {entry : Entry}
    (read : entryReader levels text = .ok (entry, rest)) :
    ∃ lower, levels = lower + 1 ∧ entry.FromText lower := by
  obtain ⟨⟨fields, behind⟩, areFields, complete⟩ := bind_ok read
  obtain ⟨lower, steps, body, isLower, areMembers⟩ := Json.objectOf_ok areFields
  have fromText : fields.FromText lower := Json.members_keep (EntryFields.FromText lower)
    (fun gathered key text next rest fromText ran => entryMember_fromText fromText ran)
    ⟨stored_nil _ _, fun instant none => by cases none⟩ areMembers
  refine ⟨lower, isLower, ?_⟩
  dsimp only at complete
  split at complete
  · next validated validatedAt isFlag isTime =>
    obtain ⟨rfl, -⟩ := Prod.mk.inj (Except.ok.inj complete)
    exact ⟨fromText.metadata, fromText.proper validatedAt isTime⟩
  · cases complete
  · cases complete

/-- The entries of plugins that are read have been read with two levels less. -/
theorem pluginsReader_fromText {levels : Nat} {text rest : List Char}
    {plugins : List (String × Entry)}
    (read : pluginsReader (levels + 2) text = .ok (plugins, rest)) :
    ∀ plugin ∈ plugins, plugin.2.FromText levels := by
  rw [pluginsReader_eq] at read
  obtain ⟨lower, steps, body, isLower, areMembers⟩ := Json.objectOf_ok read
  obtain rfl : lower = levels + 1 := by omega
  refine Json.members_keep
    (fun put : List (String × Entry) => ∀ plugin ∈ put, plugin.2.FromText levels) ?_
    (List.forall_mem_nil _) areMembers
  intro put id text next rest fromText ran
  obtain ⟨_, entry, read, rfl⟩ := Json.afterColon_ok (fun entry => insertEntry id entry put) ran
  obtain ⟨_, same, isFromText⟩ := entryReader_fromText read
  obtain rfl := Nat.succ.inj same
  intro plugin among
  rcases mem_insertEntry among with rfl | among
  · exact isFromText
  · exact fromText plugin among

/-- What has been read at the top, as far as it has. -/
structure Fields.FromText (fields : Fields) : Prop where
  entries : ∀ plugins, fields.plugins = some plugins → ∀ plugin ∈ plugins, plugin.2.FromText 124
  extra : Stored [pluginsKey] 126 fields.extra

/-- A registry that has been read. -/
structure FromText (registry : Registry) : Prop where
  sorted : Sorted registry.plugins
  entries : ∀ plugin ∈ registry.plugins, plugin.2.FromText 124
  extra : Stored [pluginsKey] 126 registry.extra

theorem member_fromText {fields next : Fields} {key : String} {text rest : List Char}
    (fromText : fields.FromText) (ran : member 126 fields key text = .ok (next, rest)) :
    next.FromText := by
  unfold member at ran
  split at ran
  · split at ran
    · cases ran
    · obtain ⟨_, plugins, read, rfl⟩ := Json.afterColon_ok
        (fun plugins => { fields with plugins := some plugins }) ran
      refine ⟨fun others same => ?_, fromText.extra⟩
      obtain rfl := Option.some.inj same
      exact pluginsReader_fromText read
  · next notPlugins =>
    obtain ⟨_, content, read, rfl⟩ := Json.afterColon_ok
      (fun content => { fields with extra := fields.extra.insert key content }) ran
    exact ⟨fromText.entries, fromText.extra.insert (by simpa using notPlugins) read⟩

/-- **What is read as a registry,** whatever the text. -/
theorem parse_fromText {text : String} {registry : Registry} (parsed : parse text = .ok registry) :
    registry.FromText := by
  obtain ⟨rest, read⟩ := Json.document_ok parsed
  obtain ⟨⟨fields, behind⟩, areFields, complete⟩ := bind_ok read
  obtain ⟨lower, steps, body, isLower, areMembers⟩ := Json.objectOf_ok areFields
  obtain rfl : 126 = lower := Nat.succ.inj isLower
  have fromText : fields.FromText := Json.members_keep Fields.FromText
    (fun gathered key text next rest fromText ran => member_fromText fromText ran)
    ⟨fun plugins none => (by cases none), stored_nil _ _⟩ areMembers
  obtain ⟨rfl, -⟩ := Prod.mk.inj (Except.ok.inj complete)
  refine ⟨sorted_parse parsed, ?_, fromText.extra⟩
  cases here : fields.plugins with
  | none => exact List.forall_mem_nil _
  | some plugins => exact fromText.entries plugins here

/-- In a registry that has been read nothing is out of order where floating point numbers read
back. -/
theorem FromText.orderly {registry : Registry} (fromText : registry.FromText)
    (fields : ∀ plugin ∈ registry.plugins, ∀ field ∈ plugin.2.metadata,
      field.2.Every DoubleReadsBack)
    (extra : ∀ entry ∈ registry.extra, entry.2.Every DoubleReadsBack) : registry.Orderly where
  sorted := fromText.sorted
  entries plugin among :=
    have entry := fromText.entries plugin among
    { distinct := entry.metadata.distinct
      noFlag := entry.metadata.apart flagKey (by simp)
      noTime := entry.metadata.apart timeKey (by simp)
      printable := fun field isField => (entry.metadata.regular field isField).imp₂
        printable_of_regular (fields plugin among field isField)
      proper := entry.proper }
  distinct := fromText.extra.distinct
  noPlugins := fromText.extra.apart pluginsKey (by simp)
  printable entry among := (fromText.extra.regular entry among).imp₂ printable_of_regular
    (extra entry among)

/-- It is nested no deeper than the reader allows, as it has been read. -/
theorem FromText.shallow {registry : Registry} (fromText : registry.FromText) :
    registry.toJson.depth ≤ openLimit := by
  refine (depth_le_iff registry).mpr ⟨fun plugin among => ?_, fun entry among => ?_⟩
  · rw [depth_entry]
    have fits := Json.depthOfMembers_le_iff.mpr (fromText.entries plugin among).metadata.shallow
    rw [openLimit]
    omega
  · have fits := fromText.extra.shallow entry among
    rw [openLimit]
    omega

/-! ## A tree with a registry -/

/-- A tree with the text of a registry. -/
def treeWith (registry : String) : FileTree :=
  { root := .directory [("reg.json", .file registry.toUTF8)], workplace := [] }

theorem readText_treeWith (registry : String) :
    (treeWith registry).readText ⟨"reg.json"⟩ = .ok registry := by
  have located : (treeWith registry).locate true ⟨"reg.json"⟩ =
      .ok (["reg.json"], .file registry.toUTF8) := rfl
  rw [FileTree.readText, located]
  exact FileTree.text_toUTF8 registry

theorem load_treeWith {text : String} {registry : Registry} (parsed : parse text = .ok registry) :
    load (treeWith text) ⟨"reg.json"⟩ = .ok registry := by
  rw [load_of_readText (readText_treeWith text), parsed]
  rfl

/-- There the registry can be replaced. -/
theorem letsReplace_treeWith (registry : String) :
    (treeWith registry).LetsReplace (directoryOf ⟨"reg.json"⟩) ⟨"reg.json"⟩ := by
  have located : (treeWith registry).locate true (directoryOf ⟨"reg.json"⟩) =
      .ok ([], .directory [("reg.json", .file registry.toUTF8)]) := rfl
  have unused : FileTree.firstName ∉ ["reg.json", "reg.json"] := by decide +kernel
  have checked : FileTree.checkPath ((treeWith "").pathFromRoot (directoryOf ⟨"reg.json"⟩)
      FileTree.firstName) = .ok () := by decide +kernel
  exact .of_free located unused checked fun _ _ => rfl

/-- A registry with dates with and without an offset, plugins out of order and another member. -/
def offsetText : String :=
  "\x7b\"note\": 0.5, \"plugins\": \x7b" ++
    "\"q\": \x7b\"validated\": false, \"validation_date\": \"2024-01-15T10:30:00.25\"\x7d, " ++
    "\"p\": \x7b\"name\": \"n\", \"validated\": true, " ++
    "\"validation_date\": \"9999-12-31T23:59:59+01:00\"\x7d\x7d\x7d"

/-- What is read from it. -/
def offsetRegistry : Registry where
  plugins := [("p", ⟨[("name", .string "n")], true, ⟨253402297199, 0⟩⟩),
    ("q", ⟨[], false, ⟨1705314600, 250000000⟩⟩)]
  extra := [("note", .number (.double ⟨false, 2 ^ 52, -53⟩))]

/-- A registry with a date that is in the year after the last one with four digits in universal
time. -/
def lateText : String :=
  "\x7b\"plugins\": \x7b\"p\": \x7b\"validated\": true, " ++
    "\"validation_date\": \"9999-12-31T23:59:59-01:00\"\x7d\x7d\x7d"

/-- What is read from it. -/
def lateRegistry : Registry where
  plugins := [("p", ⟨[], true, ⟨253402304399, 0⟩⟩)]

/-! ## Saved and loaded again -/

section Resaving

variable {path : Path} {tree : FileTree} {text : String} {registry : Registry}

/-- **A registry that is loaded can be saved, if the file system lets its file be replaced. Saved,
it is loaded again if and only if the years of its dates have four digits in universal time;**
then it is the same registry. -/
theorem resaved_registry_reloads_iff_dated (read : tree.readText path = .ok text)
    (loaded : load tree path = .ok registry)
    (fields : ∀ plugin ∈ registry.plugins, ∀ field ∈ plugin.2.metadata,
      field.2.Every DoubleReadsBack)
    (extra : ∀ entry ∈ registry.extra, entry.2.Every DoubleReadsBack) :
    (tree.LetsReplace (directoryOf path) path →
      ∃ after, (save path registry).run tree = (.ok (), after)) ∧
    ∀ after, (save path registry).run tree = (.ok (), after) →
      ((∃ again, load after path = .ok again) ↔
        ∀ plugin ∈ registry.plugins, plugin.2.validatedAt.InFourDigits) ∧
      ∀ again, load after path = .ok again → again = registry := by
  refine ⟨fun lets => save_succeeds read lets registry, fun after ran => ?_⟩
  have fromText : registry.FromText := by
    rcases load_ok loaded with ⟨missing, -⟩ | ⟨text', read', parsed⟩
    · rw [read] at missing
      cases missing
    · exact parse_fromText parsed
  have again : ∀ again, load after path = .ok again ↔
      Dated registry.plugins ∧ again = registry := by
    intro again
    rw [← Json.toOption_eq_some, load_of_readText (saved_text read loaded ran),
      toOption_mapError, toOption_parse_orderly (fromText.orderly fields extra),
      if_congr (and_iff_right fromText.shallow) rfl rfl]
    by_cases dated : Dated registry.plugins
    · rw [if_pos dated, Option.some.injEq, and_iff_right dated, eq_comm]
    · rw [if_neg dated]
      exact iff_of_false (nomatch ·) fun both => dated both.1
  refine ⟨⟨fun ⟨_, reloaded⟩ => ((again _).mp reloaded).1,
    fun dated => ⟨registry, (again registry).mpr ⟨dated, rfl⟩⟩⟩,
    fun _ reloaded => ((again _).mp reloaded).2⟩

end Resaving

/-- A registry with dates with and without an offset is loaded again as it was. -/
theorem offset_registry_reloads :
    load (treeWith offsetText) ⟨"reg.json"⟩ = .ok offsetRegistry ∧
      ∃ after, (save ⟨"reg.json"⟩ offsetRegistry).run (treeWith offsetText) = (.ok (), after) ∧
        load after ⟨"reg.json"⟩ = .ok offsetRegistry := by
  have loaded : load (treeWith offsetText) ⟨"reg.json"⟩ = .ok offsetRegistry :=
    load_treeWith (by decide +kernel)
  have readsBack : (Json.Number.double ⟨false, 2 ^ 52, -53⟩).ReadsBack := by
    rw [Json.Number.ReadsBack]
    decide +kernel
  have fields : ∀ plugin ∈ offsetRegistry.plugins, ∀ field ∈ plugin.2.metadata,
      field.2.Every DoubleReadsBack := by
    refine List.forall_mem_cons.mpr ⟨?_, List.forall_mem_singleton.mpr (List.forall_mem_nil _)⟩
    exact List.forall_mem_singleton.mpr trivial
  have extra : ∀ entry ∈ offsetRegistry.extra, entry.2.Every DoubleReadsBack :=
    List.forall_mem_singleton.mpr readsBack
  obtain ⟨saves, saved⟩ := resaved_registry_reloads_iff_dated
    (readText_treeWith offsetText) loaded fields extra
  obtain ⟨after, ran⟩ := saves (letsReplace_treeWith offsetText)
  obtain ⟨reloads, same⟩ := saved after ran
  obtain ⟨again, reloaded⟩ := reloads.mpr (by decide +kernel)
  exact ⟨loaded, after, ran, same again reloaded ▸ reloaded⟩

/-- **A date that leaves the years with four digits** when its offset is taken away is saved and
not loaded again. -/
theorem late_registry_is_saved_but_not_loaded :
    load (treeWith lateText) ⟨"reg.json"⟩ = .ok lateRegistry ∧
      (∀ plugin ∈ lateRegistry.plugins, ∀ field ∈ plugin.2.metadata,
        field.2.Every DoubleReadsBack) ∧
      (∀ entry ∈ lateRegistry.extra, entry.2.Every DoubleReadsBack) ∧
      ∃ after, (save ⟨"reg.json"⟩ lateRegistry).run (treeWith lateText) = (.ok (), after) ∧
        load after ⟨"reg.json"⟩ = .error
          (.registry "reg.json" "failed to parse: trailing input at line 6 column 5") := by
  have loaded : load (treeWith lateText) ⟨"reg.json"⟩ = .ok lateRegistry :=
    load_treeWith (by decide +kernel)
  obtain ⟨after, ran⟩ :=
    save_succeeds (readText_treeWith lateText) (letsReplace_treeWith lateText) lateRegistry
  refine ⟨loaded, List.forall_mem_singleton.mpr (List.forall_mem_nil _), List.forall_mem_nil _,
    after, ran, ?_⟩
  have refused : parse lateRegistry.fileText = .error "trailing input at line 6 column 5" := by
    decide +kernel
  rw [load_of_readText (saved_text (readText_treeWith lateText) loaded ran), refused]
  rfl

end PluginAudit.Registry
