import Mathlib.Data.List.Induction
import PluginAudit.Proofs.Registry.Document
import PluginAudit.Proofs.Registry.Persistence

/-!
# Loading what has been registered

One plugin after the other is registered where no registry is. As long as each
registration succeeds, the path leads to the text of what has been registered
(`Holds.step`, `registerAll_holds`). Such a text is loaded as long as no entry
is nested too deeply (`load_registered`); an entry may be, since the manifest
from which it is made may be nested as deeply as a document on its own, and in
the registry two more objects are open around it. The next registration then
fails, so only the last entry can be too deep.
-/

set_option autoImplicit false

namespace PluginAudit.Registry

open Json (Members Every Printable Regular openLimit)
open PluginAudit.FileTree (Keeps Ends)

/-! ## Entries of plugins -/

/-- An entry that is made from the directory of a plugin, with an instant that has a text. -/
def Entry.FromPlugin (entry : Entry) : Prop :=
  ∃ (layout : Layout) (tree : FileTree) (plugin : Path) (id : String) (instant : Instant),
    instant.Written ∧ entry = .ofPlugin layout tree plugin id instant

/-- A number that is not kept as an integer is read back as it is printed. -/
def DoubleReadsBack : Json → Prop
  | .number (.double value) => (Json.Number.double value).ReadsBack
  | _ => True

/-- What has been read is printable where such numbers are. -/
theorem printable_of_regular (content : Json) (regular : Regular content)
    (double : DoubleReadsBack content) : Printable content := by
  cases content with
  | number written =>
    cases written with
    | integer value => exact Json.readsBack_integer regular.1 regular.2
    | double value => exact double
  | object members => exact regular
  | null => trivial
  | bool value => trivial
  | string text => trivial
  | array items => trivial

/-- The fields from which an entry is made: their keys are distinct, and they are regular. -/
theorem ofManifestText_cases (text : Option String) (id : String) (instant : Instant) :
    ∃ members, Entry.ofManifestText text id instant = .ofManifest members instant ∧
      (Members.keys members).Nodup ∧ ∀ field ∈ members, field.2.Every Regular := by
  have unknown : (Members.keys (Entry.unknownMetadata id)).Nodup ∧
      ∀ field ∈ Entry.unknownMetadata id, field.2.Every Regular := by
    refine ⟨(by decide : ["id", "name", "description"].Nodup), fun field among => ?_⟩
    simp only [Entry.unknownMetadata, List.mem_cons, List.not_mem_nil, or_false] at among
    rcases among with rfl | rfl | rfl <;> trivial
  unfold Entry.ofManifestText
  cases text with
  | none => exact ⟨_, rfl, unknown⟩
  | some text =>
    cases read : Json.parse text with
    | error reason => exact ⟨_, by rw [Option.map_some, read], unknown⟩
    | ok content =>
      cases content with
      | object members =>
        exact ⟨members, by rw [Option.map_some, read],
          (Json.every_object.mp (Json.parse_regular read))⟩
      | null => exact ⟨_, by rw [Option.map_some, read], unknown⟩
      | bool _ => exact ⟨_, by rw [Option.map_some, read], unknown⟩
      | number _ => exact ⟨_, by rw [Option.map_some, read], unknown⟩
      | string _ => exact ⟨_, by rw [Option.map_some, read], unknown⟩
      | array _ => exact ⟨_, by rw [Option.map_some, read], unknown⟩

/-- The entry of a manifest is in order, if the fields that it keeps are read back. -/
theorem Entry.orderly_ofManifest {members : Members} {instant : Instant}
    (distinct : members.keys.Nodup) (regular : ∀ field ∈ members, field.2.Every Regular)
    (doubles : ∀ field ∈ (Entry.ofManifest members instant).metadata,
      field.2.Every DoubleReadsBack)
    (proper : instant.Proper) : (Entry.ofManifest members instant).Orderly := by
  obtain ⟨distinctFlag, noFlag⟩ := Members.nodup_remove distinct flagKey
  obtain ⟨distinctBoth, noTime⟩ := Members.nodup_remove distinctFlag timeKey
  refine ⟨distinctBoth, fun among => noFlag (Members.mem_keys_of_remove among), noTime, ?_, proper⟩
  intro field among
  exact (regular field (Members.mem_of_mem_remove (Members.mem_of_mem_remove among))).imp₂
    printable_of_regular (doubles field among)

/-- **The entry of a plugin is readable,** whatever its directory holds. -/
theorem Entry.FromPlugin.readable {entry : Entry} (fromPlugin : entry.FromPlugin)
    (doubles : ∀ field ∈ entry.metadata, field.2.Every DoubleReadsBack) : entry.Readable := by
  obtain ⟨layout, tree, plugin, id, instant, written, rfl⟩ := fromPlugin
  rw [Entry.ofPlugin] at doubles ⊢
  obtain ⟨members, made, distinct, regular⟩ := ofManifestText_cases
    (tree.readText (plugin.join layout.manifest)).toOption id instant
  rw [made] at doubles ⊢
  obtain ⟨proper, inFourDigits⟩ := Instant.written_iff.mp written
  exact ⟨Entry.orderly_ofManifest distinct regular doubles proper, inFourDigits⟩

/-! ## What has been registered -/

/-- **The text of what has been registered is loaded if and only if no entry there is too deep.**
-/
theorem load_registered {tree : FileTree} {path : Path} {calls : List (String × Entry)}
    (readable : ∀ call ∈ calls, call.2.Readable)
    (read : tree.readText path = .ok (insertAll {} calls).fileText) (registry : Registry) :
    load tree path = .ok registry ↔
      (∀ plugin ∈ (insertAll {} calls).plugins, plugin.2.toJson.depth + 2 ≤ openLimit) ∧
        registry = insertAll {} calls := by
  have depth := depth_le_iff (insertAll {} calls)
  rw [extra_insertAll, and_iff_left (List.forall_mem_nil _)] at depth
  rw [← Json.toOption_eq_some, load_of_readText read, toOption_mapError,
    toOption_parse_fileText (readable_empty.insertAll readable), ← depth]
  by_cases fits : (insertAll {} calls).toJson.depth ≤ openLimit
  · rw [if_pos fits, Option.some.injEq, eq_comm, iff_true_intro fits, true_and]
  · rw [if_neg fits, iff_false_intro fits, false_and]
    exact ⟨(nomatch ·), False.elim⟩

/-! ## Where no registry is -/

/-- No registry is at a path, and none comes to light when its lock is prepared. -/
structure StartsEmpty (path : Path) (tree : FileTree) : Prop where
  missing : tree.readText path = .error .notFound
  settled : Settled path tree

/-- The registry that is not there is empty. -/
theorem StartsEmpty.load {path : Path} {tree : FileTree} (startsEmpty : StartsEmpty path tree) :
    load tree path = .ok {} := by
  rw [Registry.load, startsEmpty.missing]
  rfl

/-- **No registry is where nothing has the name** in which a path to a directory ends. -/
theorem StartsEmpty.of_vacant {path : Path} {name : String} {tree : FileTree}
    {directory : List String} (ends : tree.Ends path directory) (named : path.EndsIn name)
    (short : name.utf8ByteSize ≤ FileTree.nameLimit)
    (vacant : tree.look (directory ++ [name]) = none) : StartsEmpty path tree := by
  have leads : tree.Leads true path (directory ++ [name]) :=
    ends.leads named short (fun target linked => by rw [vacant] at linked; cases linked) true
  have missing := leads.readText_vacant vacant
  refine ⟨missing, fun between registry prepared loaded => ?_⟩
  rw [Registry.load, missing]
  have kept := (prepareLock_prepared named tree).1
  rw [prepared] at kept
  -- Nothing but a directory or an empty file can be new, and neither is loaded.
  have new : between.look (directory ++ [name]) = none ∨
      between.look (directory ++ [name]) = some .directory ∨
      between.look (directory ++ [name]) = some (.file ByteArray.empty) := by
    cases stands : between.look (directory ++ [name]) with
    | none => exact .inl rfl
    | some shape =>
      rcases kept.new _ _ vacant stands with ⟨rfl, -⟩ | ⟨rfl, -⟩
      · exact .inr (.inl rfl)
      · exact .inr (.inr rfl)
  have noLink : ∀ target, between.look (directory ++ [name]) ≠ some (.link target) := by
    intro target linked
    rw [linked] at new
    rcases new with same | same | same <;> cases same
  have leads : between.Leads true path (directory ++ [name]) :=
    (ends.mono kept.keeps).leads named short noLink true
  rcases load_ok loaded with ⟨-, same⟩ | ⟨text, read, parsed⟩
  · rw [same]
    rfl
  · obtain ⟨place, bytes, leads', stands, decoded⟩ := FileTree.readText_ok_iff.mp read
    obtain rfl := leads.unique leads'
    rw [stands] at new
    rcases new with same | same | same
    · cases same
    · cases same
    · obtain rfl := FileTree.Shape.file.inj (Option.some.inj same)
      have isText := (FileTree.Reading.text_ok_iff.mp decoded).2
      obtain rfl : "" = text :=
        Option.some.inj ((FileTree.fromUTF8?_toUTF8 "").symm.trans isText)
      cases parsed

/-! ## A plugin with a manifest -/

/-- A tree with a plugin that has a manifest. -/
def pluginWith (manifest : String) : FileTree :=
  { root := .directory [("p", .directory [("settings.json", .file manifest.toUTF8)])]
    workplace := [] }

/-- The entry of that plugin. -/
def entryWith (manifest : String) : Entry :=
  .ofPlugin .standard (pluginWith manifest) ⟨"p"⟩ "p" ⟨0, 0⟩

theorem fromPlugin_entryWith (manifest : String) : (entryWith manifest).FromPlugin :=
  ⟨.standard, pluginWith manifest, ⟨"p"⟩, "p", ⟨0, 0⟩, ⟨.inl (by decide), by decide, by decide⟩,
    rfl⟩

theorem entryWith_eq (manifest : String) :
    entryWith manifest = .ofManifestText (some manifest) "p" ⟨0, 0⟩ := by
  have located : (pluginWith manifest).locate true ⟨"p/settings.json"⟩ =
      .ok (["p", "settings.json"], .file manifest.toUTF8) := rfl
  have read : (pluginWith manifest).readText ⟨"p/settings.json"⟩ = .ok manifest := by
    rw [FileTree.readText, located]
    exact FileTree.text_toUTF8 manifest
  have joined : Path.join ⟨"p"⟩ Layout.standard.manifest = ⟨"p/settings.json"⟩ := rfl
  rw [entryWith, Entry.ofPlugin, joined, read]
  rfl

theorem startsEmpty_pluginWith (manifest : String) :
    StartsEmpty ⟨"reg.json"⟩ (pluginWith manifest) := by
  have ends : (pluginWith manifest).Ends ⟨"reg.json"⟩ [] :=
    ⟨by decide +kernel, ⟨0, Nat.zero_le _, .done rfl⟩, rfl⟩
  have named : Path.EndsIn ⟨"reg.json"⟩ "reg.json" := ⟨by decide +kernel, by decide +kernel⟩
  exact .of_vacant ends named (by decide) rfl

/-- A manifest with a number that is no integer. -/
def weighedManifest : String := "\x7b\"weight\": 1.5\x7d"

/-- A plugin that is registered again when its manifest has changed. -/
def twice : List (String × Entry) :=
  [("p", entryWith "\x7b\x7d"), ("p", entryWith weighedManifest)]

theorem forall_mem_twice {holds : String × Entry → Prop} (first : holds ("p", entryWith "\x7b\x7d"))
    (second : holds ("p", entryWith weighedManifest)) : ∀ call ∈ twice, holds call :=
  List.forall_mem_cons.mpr ⟨first, List.forall_mem_cons.mpr ⟨second, List.forall_mem_nil _⟩⟩

/-- Lists within lists. -/
def nested : Nat → Json
  | 0 => .null
  | levels + 1 => .array [nested levels]

theorem every_nested {holds : Json → Prop} (null : holds .null)
    (array : ∀ items, holds (.array items)) (levels : Nat) : (nested levels).Every holds := by
  induction levels with
  | zero => exact null
  | succ levels ih => exact Json.every_array.mpr ⟨array _, List.forall_mem_singleton.mpr ih⟩

theorem depth_nested (levels : Nat) : (nested levels).depth = levels := by
  induction levels with
  | zero => rfl
  | succ levels ih => rw [nested, Json.depth, Json.depthOfItems, Json.depthOfItems, ih,
      Nat.max_zero]

/-- A manifest with lists within lists. -/
def deepManifest (levels : Nat) : String := (Json.object [("a", nested levels)]).pretty

/-- It is accepted as long as it is nested no deeper than the reader allows. -/
theorem metadata_deepManifest {levels : Nat} (fits : levels < openLimit) :
    (entryWith (deepManifest levels)).metadata = [("a", nested levels)] := by
  have printable : (Json.object [("a", nested levels)]).Every Printable := by
    refine Json.every_object.mpr ⟨?_, List.forall_mem_singleton.mpr ?_⟩
    · exact (by decide : ["a"].Nodup)
    · exact every_nested trivial (fun _ => trivial) levels
  have shallow : (Json.object [("a", nested levels)]).depth ≤ openLimit := by
    rw [Json.depth, Json.depthOfMembers, Json.depthOfMembers, depth_nested, Nat.max_zero]
    exact fits
  rw [entryWith_eq, Entry.ofManifestText, Option.map_some, deepManifest,
    Json.parse_pretty printable shallow]
  rfl

/-! ## Run after run -/

/-- What is at a path once plugins have been registered there: nothing, or the text of them all.
-/
def Holds (path : Path) (calls : List (String × Entry)) (tree : FileTree) : Prop :=
  if calls = [] then StartsEmpty path tree
  else tree.readText path = .ok (insertAll {} calls).fileText

/-- What has been registered is loaded if and only if no entry there is too deep. -/
theorem Holds.load_iff {path : Path} {calls : List (String × Entry)} {tree : FileTree}
    (holds : Holds path calls tree) (readable : ∀ call ∈ calls, call.2.Readable)
    (registry : Registry) :
    load tree path = .ok registry ↔
      (∀ plugin ∈ (insertAll {} calls).plugins, plugin.2.toJson.depth + 2 ≤ openLimit) ∧
        registry = insertAll {} calls := by
  unfold Holds at holds
  split at holds
  · next none =>
    subst none
    rw [holds.load]
    constructor
    · intro loaded
      exact ⟨List.forall_mem_nil _, (Except.ok.inj loaded).symm⟩
    · rintro ⟨-, rfl⟩
      rfl
  · exact load_registered readable holds registry

/-- Preparing the lock brings no other registry to light there. -/
theorem Holds.settled {path : Path} {calls : List (String × Entry)} {tree : FileTree}
    (holds : Holds path calls tree) : Settled path tree := by
  unfold Holds at holds
  split at holds
  · exact holds.settled
  · exact settled_of_readText holds

/-- **A registration that succeeds** has found what has been registered before, with no entry too
deep, and leaves the text of that with its own entry. -/
theorem Holds.step {path : Path} {calls : List (String × Entry)} {call : String × Entry}
    {before after : FileTree} (holds : Holds path calls before)
    (readable : ∀ call ∈ calls, call.2.Readable)
    (ran : (register path call.1 call.2).run before = (.ok (), after)) :
    (∀ plugin ∈ (insertAll {} calls).plugins, plugin.2.toJson.depth + 2 ≤ openLimit) ∧
      Holds path (calls ++ [call]) after := by
  obtain ⟨registry, loaded, read⟩ := register_settled holds.settled ran
  have found := (holds.load_iff readable registry).mp loaded
  refine ⟨found.1, ?_⟩
  rw [Holds, if_neg (by simp), insertAll_concat, ← found.2]
  exact read

/-- No entry that has been put is too deep if none before the last one is and none that is there:
the last one always is. -/
theorem forall_shallow {calls : List (String × Entry)}
    (early : ∀ call ∈ calls.dropLast, call.2.toJson.depth + 2 ≤ openLimit)
    (there : ∀ plugin ∈ (insertAll {} calls).plugins, plugin.2.toJson.depth + 2 ≤ openLimit) :
    ∀ call ∈ calls, call.2.toJson.depth + 2 ≤ openLimit := by
  intro call among
  rcases List.eq_nil_or_concat calls with rfl | ⟨init, last, rfl⟩
  · cases among
  · rw [List.concat_eq_append] at *
    rw [List.dropLast_concat] at early
    rcases List.mem_append.mp among with isEarly | isLast
    · exact early call isEarly
    · rw [List.mem_singleton.mp isLast]
      exact there _ (last_mem_insertAll {} init last)

/-- **After every run of registrations that succeed** the text of them all is there, and only the
last entry may be too deep. -/
theorem registerAll_holds {path : Path} {calls : List (String × Entry)} {before after : FileTree}
    (startsEmpty : StartsEmpty path before) (readable : ∀ call ∈ calls, call.2.Readable)
    (ran : (registerAll path calls).run before = (.ok (), after)) :
    (∀ call ∈ calls.dropLast, call.2.toJson.depth + 2 ≤ openLimit) ∧ Holds path calls after := by
  induction calls using List.reverseRecOn generalizing after with
  | nil =>
    obtain ⟨-, rfl⟩ := Prod.mk.inj ran
    exact ⟨List.forall_mem_nil _, startsEmpty⟩
  | append_singleton calls call ih =>
    obtain ⟨between, earlier, ran⟩ := registerAll_concat_done ran
    have readableBefore : ∀ call ∈ calls, call.2.Readable :=
      fun call among => readable call (List.mem_append_left _ among)
    obtain ⟨shallow, holds⟩ := ih readableBefore earlier
    obtain ⟨found, holdsAfter⟩ := holds.step readableBefore ran
    refine ⟨?_, holdsAfter⟩
    rw [List.dropLast_concat]
    exact forall_shallow shallow found

/-- **What has been registered is loaded again if and only if no entry is nested too deeply,** and
then each id that has been registered is there once, with the entry that was registered for it
last, and nothing else is there. -/
theorem registered_plugins_reload_iff_shallow {path : Path} {calls : List (String × Entry)}
    {before after : FileTree} (startsEmpty : StartsEmpty path before)
    (fromPlugins : ∀ call ∈ calls, call.2.FromPlugin)
    (doubles : ∀ call ∈ calls, ∀ field ∈ call.2.metadata, field.2.Every DoubleReadsBack)
    (ran : (registerAll path calls).run before = (.ok (), after)) :
    ((∃ registry, load after path = .ok registry) ↔
        ∀ call ∈ calls, call.2.toJson.depth + 2 ≤ openLimit) ∧
      ∀ registry, load after path = .ok registry →
        registry.extra = [] ∧ registry.ids.Nodup ∧
          (∀ id, id ∈ registry.ids ↔ id ∈ calls.map (·.1)) ∧
          ∀ id, registry.get? id = calls.reverse.lookup id := by
  have readable : ∀ call ∈ calls, call.2.Readable :=
    fun call among => (fromPlugins call among).readable (doubles call among)
  obtain ⟨shallow, holds⟩ := registerAll_holds startsEmpty readable ran
  have loaded : ∀ registry, load after path = .ok registry ↔
      (∀ call ∈ calls, call.2.toJson.depth + 2 ≤ openLimit) ∧ registry = insertAll {} calls := by
    intro registry
    rw [holds.load_iff readable]
    exact and_congr_left fun _ => ⟨forall_shallow shallow, fun fits plugin among =>
      fits plugin ((mem_insertAll among).resolve_right (nomatch ·))⟩
  refine ⟨⟨fun ⟨registry, isLoaded⟩ => ((loaded registry).mp isLoaded).1,
    fun fits => ⟨_, (loaded _).mpr ⟨fits, rfl⟩⟩⟩, fun registry isLoaded => ?_⟩
  obtain ⟨-, rfl⟩ := (loaded registry).mp isLoaded
  refine ⟨extra_insertAll {} calls, nodup_ids (sorted_insertAll sorted_nil),
    fun id => ?_, fun id => ?_⟩
  · rw [mem_ids_insertAll]
    exact or_iff_left List.not_mem_nil
  · rw [get?_insertAll]
    exact Option.or_none

/-- A plugin that has been registered twice is loaded with its second entry. -/
theorem weighed_plugin_reloads :
    ∃ after registry, (registerAll ⟨"reg.json"⟩ twice).run (pluginWith "") = (.ok (), after) ∧
      load after ⟨"reg.json"⟩ = .ok registry ∧
      registry.get? "p" = twice.reverse.lookup "p" := by
  have bare : (entryWith "\x7b\x7d").metadata = [] := by
    rw [entryWith_eq]
    decide +kernel
  have fields : (entryWith weighedManifest).metadata =
      [("weight", .number (.double ⟨false, 3 * 2 ^ 51, -52⟩))] := by
    rw [entryWith_eq]
    decide +kernel
  have readsBack : (Json.Number.double ⟨false, 3 * 2 ^ 51, -52⟩).ReadsBack := by
    rw [Json.Number.ReadsBack]
    decide +kernel
  have fromPlugins : ∀ call ∈ twice, call.2.FromPlugin := by
    apply forall_mem_twice
    · dsimp only
      exact fromPlugin_entryWith _
    · dsimp only
      exact fromPlugin_entryWith _
  have doubles : ∀ call ∈ twice, ∀ field ∈ call.2.metadata, field.2.Every DoubleReadsBack := by
    apply forall_mem_twice
    · rw [bare]
      exact List.forall_mem_nil _
    · rw [fields]
      exact List.forall_mem_cons.mpr ⟨readsBack, List.forall_mem_nil _⟩
  have shallow : ∀ call ∈ twice, call.2.toJson.depth + 2 ≤ openLimit := by
    apply forall_mem_twice
    · rw [depth_entry, bare]
      decide
    · rw [depth_entry, fields]
      decide
  have succeeds : ((registerAll ⟨"reg.json"⟩ twice).run (pluginWith "")).1 = .ok () := by
    decide +kernel
  rcases ran : (registerAll ⟨"reg.json"⟩ twice).run (pluginWith "") with ⟨result, after⟩
  rw [ran] at succeeds
  dsimp only at succeeds
  subst succeeds
  obtain ⟨reloads, content⟩ :=
    registered_plugins_reload_iff_shallow (startsEmpty_pluginWith "") fromPlugins doubles ran
  obtain ⟨registry, loaded⟩ := reloads.mpr shallow
  obtain ⟨-, -, -, last⟩ := content registry loaded
  exact ⟨after, registry, rfl, loaded, last "p"⟩

/-- **A plugin whose manifest is nested too deeply is registered and not loaded again.** -/
theorem deep_plugin_is_registered_but_not_loaded :
    (entryWith (deepManifest 125)).FromPlugin ∧
      (∀ field ∈ (entryWith (deepManifest 125)).metadata, field.2.Every DoubleReadsBack) ∧
      StartsEmpty ⟨"reg.json"⟩ (pluginWith (deepManifest 125)) ∧
      ∃ after failure, (registerAll ⟨"reg.json"⟩ [("p", entryWith (deepManifest 125))]).run
          (pluginWith (deepManifest 125)) = (.ok (), after) ∧
        load after ⟨"reg.json"⟩ = .error failure := by
  have fields := @metadata_deepManifest 125 (by decide)
  have fromPlugin := fromPlugin_entryWith (deepManifest 125)
  have startsEmpty := startsEmpty_pluginWith (deepManifest 125)
  have doubles : ∀ field ∈ (entryWith (deepManifest 125)).metadata,
      field.2.Every DoubleReadsBack := by
    rw [fields]
    exact List.forall_mem_singleton.mpr (every_nested trivial (fun _ => trivial) 125)
  have readable : ∀ call ∈ [("p", entryWith (deepManifest 125))], call.2.Readable :=
    List.forall_mem_singleton.mpr (fromPlugin.readable doubles)
  have succeeds : ((registerAll ⟨"reg.json"⟩ [("p", entryWith (deepManifest 125))]).run
      (pluginWith (deepManifest 125))).1 = .ok () := by decide +kernel
  rcases ran : (registerAll ⟨"reg.json"⟩ [("p", entryWith (deepManifest 125))]).run
    (pluginWith (deepManifest 125)) with ⟨result, after⟩
  rw [ran] at succeeds
  dsimp only at succeeds
  subst succeeds
  obtain ⟨-, holds⟩ := registerAll_holds startsEmpty readable ran
  refine ⟨fromPlugin, doubles, startsEmpty, after, ?_⟩
  cases loaded : load after ⟨"reg.json"⟩ with
  | error failure => exact ⟨failure, rfl, rfl⟩
  | ok registry =>
    have shallow := ((holds.load_iff readable registry).mp loaded).1 _ (last_mem_insertAll {} [] _)
    rw [depth_entry, fields, Json.depthOfMembers, Json.depthOfMembers, depth_nested] at shallow
    exact absurd shallow (by decide)

end PluginAudit.Registry
