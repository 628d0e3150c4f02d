import PluginAudit.Proofs.CommandLine.Recording
import PluginAudit.Proofs.Scan.Occurrences
import PluginAudit.Proofs.Scan.PrimaryModule

/-!
# Validation from the command line

The status of a call that validates is zero exactly when every plugin that it
targets can be validated and has no issue. Registering does not change what is
shown, nor does the registry. When every plugin that passes is said to have been
added, the registry is the previous one with these plugins, each with the
members of its manifest, provided that the numbers that are read again on the
way read back as they are printed (`validate_decides_and_records`).
-/

set_option autoImplicit false

namespace PluginAudit.CommandLine

open PluginAudit.FileTree (DifferAt Node textOf)
open PluginAudit.Registry (Entry DoubleReadsBack registryOf)

/-! ## The registry with the plugins that pass -/

/-- A registry is another one with plugins put into it, each under its id with the members of its
manifest that do not give way. -/
structure Recorded (tree : FileTree) (now : Instant) (plugins : List Plugin)
    (previous final : Registry) : Prop where
  extra : final.extra = previous.extra
  distinct : final.ids.Nodup
  ids : ∀ id, id ∈ final.ids ↔ (∃ plugin ∈ plugins, plugin.id = id) ∨ id ∈ previous.ids
  own : ∀ plugin ∈ plugins, ∀ members, plugin.DeclaresMembers tree members →
    final.get? plugin.id =
      some ⟨(members.remove Registry.flagKey).remove Registry.timeKey, true, now⟩
  others : ∀ id, (∀ plugin ∈ plugins, plugin.id ≠ id) → final.get? id = previous.get? id

/-- The plugins that are targeted have different ids. -/
theorem nodup_targeted {tree : FileTree} {directory : Path} {target : Target}
    {plugins : List Plugin} (distinct : tree.root.Distinct)
    (targets : targeted tree directory target = .ok plugins) : (plugins.map (·.id)).Nodup := by
  cases target with
  | all => exact Plugin.nodup_discover distinct targets
  | id id =>
    rw [targeted] at targets
    cases isPath : Plugin.pathOfId directory id <;> rw [isPath] at targets <;> cases targets
    exact List.nodup_singleton _
  | path plugin =>
    cases targets
    exact List.nodup_singleton _

theorem recorded_insertAll {tree : FileTree} {now : Instant} {plugins : List Plugin}
    {previous : Registry} (nodup : (plugins.map (·.id)).Nodup)
    (sorted : Registry.Sorted previous.plugins) :
    Recorded tree now plugins previous (previous.insertAll (entriesOf tree now plugins)) where
  extra := Registry.extra_insertAll _ _
  distinct := Registry.nodup_ids (Registry.sorted_insertAll sorted)
  ids id := by
    rw [Registry.mem_ids_insertAll]
    simp [entriesOf]
  own plugin among members declares := by
    have keys : ((entriesOf tree now plugins).reverse.map (·.1)).Nodup := by
      rw [List.map_reverse, List.nodup_reverse, entriesOf, List.map_map]
      exact nodup
    have isCall : (plugin.id, Entry.ofManifest members now) ∈
        (entriesOf tree now plugins).reverse := by
      rw [List.mem_reverse, ← declares.ofPlugin_eq now]
      exact List.mem_map_of_mem among
    rw [Registry.get?_insertAll, (FileTree.Node.mem_entries_iff keys).mp isCall]
    rfl
  others id apart := by
    have none : (entriesOf tree now plugins).reverse.lookup id = none := by
      rw [List.lookup_eq_none_iff]
      intro call isCall
      obtain ⟨plugin, among, rfl⟩ := List.mem_map.mp (List.mem_reverse.mp isCall)
      simpa using (apart plugin among).symm
    rw [Registry.get?_insertAll, none]
    rfl

/-! ## What a call decides and records -/

/-- What a call does whose rules can be put to use. -/
theorem run_runCall {rules : Rules} {now : Instant} {call : Call} {tree : FileTree}
    (usable : rulesOf tree call.rules = .ok rules) (target : Target) (register : Bool) :
    (runCall now { call with command := .validate target register }).run tree =
      (validateTarget ⟨rules, .standard⟩ now call target register).run tree := by
  unfold runCall
  rw [StateT.run_bind, StateT.run_get, pure_bind]
  dsimp only
  rw [usable]
  cases target <;> rfl

/-- **What a validation decides and records.** Let a call target plugins in a file tree without
links, with rules that can be put to use, and let the place of the registry be free or hold a
file, outside the directories of these plugins.

The status is zero or one; it is zero exactly when the targets can be told and each of them can be
validated and has no issue. Status and output are the same with and without registering, and in
every tree that differs at the place of the registry only.

When the call registers, it changes nothing if no plugin passes. If it says of each plugin that
passes that it has been added, each has a manifest that is a JSON object, and the registry is the
previous one with these plugins, made from their manifests, as long as the numbers that are loaded
again between two registrations are read back as they are printed. -/
theorem validate_decides_and_records {tree : FileTree} {call : Call} {target : Target}
    {rules : Rules} {now : Instant} (plain : tree.Plain) (proper : now.Proper)
    (usable : rulesOf tree call.rules = .ok rules)
    (noDirectory : tree.look (tree.placeOf call.registryPath) ≠ some .directory)
    (outside : ∀ plugins, targeted tree call.plugins target = .ok plugins → ∀ plugin ∈ plugins,
      tree.isDirectory plugin.path = true →
        ¬ tree.placeOf plugin.path <+: tree.placeOf call.registryPath) :
    (∀ register outcome after,
      (runCall now { call with command := .validate target register }).run tree =
          (outcome, after) →
        outcome.status ≤ 1 ∧
        (outcome.status = 0 ↔ ∃ plugins, targeted tree call.plugins target = .ok plugins ∧
          ∀ plugin ∈ plugins, ∃ report,
            Validator.validate ⟨rules, .standard⟩ tree plugin.id plugin.path = .ok report ∧
              report.issues = []) ∧
        ∀ tree' register' outcome' after',
          DifferAt (tree.placeOf call.registryPath) tree tree' →
          rulesOf tree' call.rules = .ok rules →
          (runCall now { call with command := .validate target register' }).run tree' =
              (outcome', after') →
            outcome'.status = outcome.status ∧ outcome'.output = outcome.output) ∧
    ∀ plugins outcome after, targeted tree call.plugins target = .ok plugins →
      (runCall now { call with command := .validate target true }).run tree = (outcome, after) →
      let passing := plugins.filter (Validator.accepts ⟨rules, .standard⟩ tree)
      (passing = [] → after = tree) ∧
      (passing ≠ [] →
        outcome.errors =
          String.join (passing.map fun plugin => added call.registryPath plugin.id) →
        ∃ previous, registryOf (textOf (tree.view (tree.placeOf call.registryPath))) =
            some previous ∧
          (∀ plugin ∈ passing, ∃ members, plugin.DeclaresMembers tree members) ∧
          ((∀ entry ∈ (entriesOf tree now passing).dropLast, ∀ field ∈ entry.2.metadata,
              field.2.Every DoubleReadsBack) →
            (1 < passing.length → previous.DoublesReadBack) →
            ∃ final, after.readText call.registryPath = .ok final.fileText ∧
              Recorded tree now passing previous final)) := by
  constructor
  · intro register outcome after ran
    rw [run_runCall usable] at ran
    obtain ⟨le, zero⟩ := @status_eq_zero_iff ⟨rules, .standard⟩ now call tree target register
    simp only [ran, Validator.accepts_iff] at le zero
    refine ⟨le, zero, fun tree' register' outcome' after' differ usable' ran' => ?_⟩
    rw [run_runCall usable'] at ran'
    have shown := @shown_validateTarget now call tree tree' rules _ differ target outside register
      register'
    rw [ran, ran'] at shown
    exact ⟨(Prod.mk.inj shown).1.symm, (Prod.mk.inj shown).2.symm⟩
  · intro plugins outcome after targets ran
    rw [run_runCall usable] at ran
    obtain ⟨unchanged, records⟩ := @records_of_added rules now call tree target plugins plain
      noDirectory targets (outside plugins targets)
    dsimp only at unchanged records ⊢
    rw [ran] at unchanged records
    refine ⟨unchanged, fun some said => ?_⟩
    have records := records some said
    have someCalls : entriesOf tree now
        (plugins.filter (Validator.accepts ⟨rules, .standard⟩ tree)) ≠ [] :=
      fun none => some (List.map_eq_nil_iff.mp none)
    obtain ⟨previous, found⟩ := Registry.registryOf_of_inTurn records.inTurn someCalls
    have declares : ∀ plugin ∈ plugins.filter (Validator.accepts ⟨rules, .standard⟩ tree),
        ∃ members, plugin.DeclaresMembers tree members :=
      fun plugin among => Validator.manifest_of_accepts (List.mem_filter.mp among).2
    refine ⟨previous, found, declares, fun doubles previousDoubles =>
      ⟨previous.insertAll (entriesOf tree now _), ?_, recorded_insertAll ?_ ?_⟩⟩
    · rw [records.read.resolve_left fun none => someCalls none.1]
      refine Registry.registerInTurn_orderly found records.inTurn someCalls (fun more => ?_)
        fun call among => ?_
      · refine Registry.orderly_of_registryOf found (previousDoubles ?_)
        have length := List.length_pos_of_ne_nil more
        rw [List.length_dropLast, entriesOf, List.length_map] at length
        exact Nat.lt_of_sub_pos length
      · have doubles := doubles call among
        obtain ⟨plugin, isPlugin, rfl⟩ := List.mem_map.mp (List.dropLast_subset _ among)
        obtain ⟨members, isManifest⟩ := declares plugin isPlugin
        dsimp only at doubles ⊢
        rw [isManifest.ofPlugin_eq now] at doubles ⊢
        obtain ⟨text, -, parsed⟩ := isManifest
        obtain ⟨distinct, regular⟩ := Json.every_object.mp (Json.parse_regular parsed)
        exact Entry.orderly_ofManifest distinct regular doubles proper
    · exact (nodup_targeted plain.distinct targets).sublist (List.filter_sublist.map _)
    · exact Registry.sorted_registryOf found

/-! ## Two plugins -/

/-- The text of a manifest that declares more than it has to. -/
def manifestOf (id more : String) : String :=
  "\x7b\"id\":\"" ++ id ++ "\",\"name\":\"n\",\"description\":\"d\",\"hooks\":[]" ++ more ++ "\x7d"

/-- The members of such a manifest. -/
def membersOf (id : String) (more : Json.Members) : Json.Members :=
  ("id", .string id) :: ("name", .string "n") :: ("description", .string "d") ::
    ("hooks", .array []) :: more

/-- The files of a plugin with a manifest. -/
def filesOf (manifest : String) : List (String × Node) :=
  [("index.js", .file Scan.plainModule), ("settings.json", .file manifest.toUTF8)]

/-- The primary module of such a plugin, as a scan reads it. -/
def primaryModule : Scan.Module := ⟨["index.js"], .ok (Scan.moduleText "")⟩

/-- A tree with two plugins, of which the first one has a weight. -/
def twoPlugins (weight : String) : FileTree where
  root := .directory [("plugins", .directory
    [("a", .directory (filesOf (manifestOf "a" (",\"weight\":" ++ weight)))),
      ("b", .directory (filesOf (manifestOf "b" "")))])]
  workplace := []

/-- The two plugins. -/
def bothPlugins : List Plugin := [⟨"a", ⟨"plugins/a"⟩⟩, ⟨"b", ⟨"plugins/b"⟩⟩]

/-- A call that validates all plugins. -/
def allPlugins : Call where
  command := .validate .all true
  plugins := ⟨"plugins"⟩
  registry := none
  rules := none
  jobs := none
  format := .text
  verbosity := 0

theorem plain_twoPlugins (weight : String) : (twoPlugins weight).Plain := by
  have all {holds : Node → Prop} (atTop : holds (twoPlugins weight).root)
      (atPlugins : ∀ first second, holds (.directory [("a", first), ("b", second)]))
      (atPlugin : ∀ manifest, holds (.directory (filesOf manifest)))
      (atFile : ∀ bytes, holds (.file bytes)) : (twoPlugins weight).root.All holds := by
    have plugin (manifest : String) : (Node.directory (filesOf manifest)).All holds := by
      refine .of_entries (atPlugin manifest) ?_
      simp only [filesOf, Node.entries, List.forall_mem_cons]
      exact ⟨.of_file (atFile _), .of_file (atFile _), List.forall_mem_nil _⟩
    refine .of_entries atTop ?_
    simp only [twoPlugins, Node.entries, List.forall_mem_singleton]
    refine .of_entries (atPlugins _ _) ?_
    simp only [Node.entries, List.forall_mem_cons]
    exact ⟨plugin _, plugin _, List.forall_mem_nil _⟩
  have name : ∀ name ∈ ["plugins", "a", "b", "index.js", "settings.json"],
      FileTree.IsEntryName name := by
    have noSlash : ∀ name ∈ ["plugins", "a", "b", "index.js", "settings.json"],
        '/' ∉ name.toList := by decide +kernel
    have named : ∀ name ∈ ["plugins", "a", "b", "index.js", "settings.json"],
        name.toList ≠ [] := by decide +kernel
    have isName : ∀ name ∈ ["plugins", "a", "b", "index.js", "settings.json"],
        Path.step name = .name name := by decide +kernel
    have short : ∀ name ∈ ["plugins", "a", "b", "index.js", "settings.json"],
        name.utf8ByteSize ≤ FileTree.nameLimit := by decide +kernel
    exact fun name among =>
      ⟨noSlash name among, named name among, isName name among, short name among⟩
  refine ⟨all ?_ ?_ ?_ ?_, all ?_ ?_ ?_ ?_, all ?_ ?_ ?_ ?_⟩
  all_goals simp [twoPlugins, filesOf, Node.entries, name]

theorem locate_twoPlugins (weight : String) :
    (twoPlugins weight).locate true ⟨"plugins/a"⟩ = .ok (["plugins", "a"],
        .directory (filesOf (manifestOf "a" (",\"weight\":" ++ weight)))) ∧
      (twoPlugins weight).locate true ⟨"plugins/b"⟩ = .ok (["plugins", "b"],
        .directory (filesOf (manifestOf "b" ""))) := ⟨rfl, rfl⟩

theorem isDirectory_twoPlugins (weight : String) :
    (twoPlugins weight).isDirectory ⟨"plugins/a"⟩ = true ∧
      (twoPlugins weight).isDirectory ⟨"plugins/b"⟩ = true := by
  obtain ⟨first, second⟩ := locate_twoPlugins weight
  constructor
  · rw [FileTree.isDirectory, first]
    rfl
  · rw [FileTree.isDirectory, second]
    rfl

theorem discover_twoPlugins (weight : String) :
    Plugin.discover (twoPlugins weight) ⟨"plugins"⟩ = .ok bothPlugins := by
  have located : (twoPlugins weight).locate true ⟨"plugins"⟩ = .ok (["plugins"], .directory
    [("a", .directory (filesOf (manifestOf "a" (",\"weight\":" ++ weight)))),
      ("b", .directory (filesOf (manifestOf "b" "")))]) := rfl
  have joined : (⟨"plugins"⟩ : Path).join "a" = ⟨"plugins/a"⟩ ∧
      (⟨"plugins"⟩ : Path).join "b" = ⟨"plugins/b"⟩ := by decide
  obtain ⟨first, second⟩ := isDirectory_twoPlugins weight
  rw [← joined.1] at first
  rw [← joined.2] at second
  rw [bothPlugins, ← joined.1, ← joined.2]
  exact Plugin.discover_pair located rfl (by decide) (by decide) ⟨first, second⟩

/-- In such a plugin a scan meets its primary module. -/
theorem meetings_filesOf {rules : Rules} {weight manifest : String} {path : Path}
    {place : List String}
    (located : (twoPlugins weight).locate true path = .ok (place, .directory (filesOf manifest)))
    (checked : FileTree.checkPath (path.under []) = .ok () ∧
      FileTree.checkPath (path.under ["index.js"]) = .ok ())
    (primary : Scan.isModuleName rules "index.js" = true)
    (noModule : Scan.isModuleName rules "settings.json" = false) :
    Scan.meetings rules (twoPlugins weight) path = .ok [.module primaryModule] := by
  have here : Scan.readingBelow (twoPlugins weight) path place [] = .whole :=
    Scan.readingBelow_eq checked.1
  have file : Scan.readingBelow (twoPlugins weight) path place ["index.js"] = .whole :=
    Scan.readingBelow_eq checked.2
  rw [Scan.meetings_eq located,
    Scan.meetingsBelow_of_ascending (by decide : ["index.js", "settings.json"].Pairwise _)]
  simp only [filesOf, List.flatMap_cons, List.flatMap_nil, Scan.meetingsAt, here, file, primary,
    noModule]
  exact congrArg (fun text => Except.ok [Scan.Meeting.module ⟨["index.js"], text⟩])
    (FileTree.text_toUTF8 _)

/-- The findings in a plugin in which a scan meets the primary module only. -/
def findingsWith (rules : Rules) (tree : FileTree) (plugin : Plugin) : List Finding :=
  let manifest := Validator.checkManifest ⟨rules, .standard⟩ tree plugin.id plugin.path
  manifest.1 ++ Structure.check .standard tree plugin.path manifest.2 ++
    (Scan.checkModule rules primaryModule ++
      Dependencies.auditDangerous .standard rules tree plugin.path) ++
    ModuleContract.checkPlugin .standard tree plugin.path
      ((manifest.2.map Manifest.hooks).getD []) ++
    Dependencies.audit .standard rules tree plugin.path

/-- Whether rules find no issue in two such plugins. -/
def clearsBoth (rules : Rules) (weight : String) : Bool :=
  bothPlugins.all fun plugin =>
    !(findingsWith rules (twoPlugins weight) plugin).any Finding.isIssue

/-- The standard rules accept both plugins with either weight. -/
theorem standard_accepts : ∃ rules, (∀ tree, rulesOf tree none = .ok rules) ∧
    ∀ weight ∈ ["0.5", "1e-28"], ∀ plugin ∈ bothPlugins,
      Validator.accepts ⟨rules, .standard⟩ (twoPlugins weight) plugin = true := by
  obtain ⟨rules, isStandard, facts⟩ := Scan.standard_holds (fun rules =>
    (Scan.isModuleName rules "index.js" && !Scan.isModuleName rules "settings.json") &&
      ["0.5", "1e-28"].all (clearsBoth rules)) (by decide +kernel)
  simp only [Bool.and_eq_true, Bool.not_eq_true', List.all_eq_true] at facts
  obtain ⟨⟨primary, noModule⟩, clears⟩ := facts
  refine ⟨rules, fun tree => ?_, fun weight isWeight plugin among => ?_⟩
  · rw [rulesOf, isStandard]
    rfl
  have cleared := List.all_eq_true.mp (clears weight isWeight) plugin among
  have ⟨isDirectory, found⟩ : (twoPlugins weight).isDirectory plugin.path = true ∧
      Scan.meetings rules (twoPlugins weight) plugin.path = .ok [.module primaryModule] := by
    obtain ⟨first, second⟩ := locate_twoPlugins weight
    obtain ⟨isFirst, isSecond⟩ := isDirectory_twoPlugins weight
    simp only [bothPlugins, List.mem_cons, List.not_mem_nil, or_false] at among
    rcases among with rfl | rfl
    · exact ⟨isFirst, meetings_filesOf first (by decide +kernel) primary noModule⟩
    · exact ⟨isSecond, meetings_filesOf second (by decide +kernel) primary noModule⟩
  refine Validator.accepts_iff_findings.mpr ⟨isDirectory, ?_⟩
  rw [Validator.findings_eq, Scan.checkPlugin, Scan.checkModules, found]
  rw [Bool.not_eq_true', List.any_eq_false] at cleared
  intro finding isFinding
  refine Bool.eq_false_iff.mpr (cleared finding ?_)
  simpa [findingsWith, Scan.Meeting.obstacle?, Scan.Meeting.module?] using isFinding

theorem placeOf_twoPlugins (weight : String) :
    (twoPlugins weight).placeOf allPlugins.registryPath = ["plugins", "registry.json"] ∧
      (twoPlugins weight).placeOf ⟨"plugins/a"⟩ = ["plugins", "a"] ∧
      (twoPlugins weight).placeOf ⟨"plugins/b"⟩ = ["plugins", "b"] := by
  have registry : FileTree.lexical [] (FileTree.pathSteps allPlugins.registryPath) =
    ["plugins", "registry.json"] := by decide
  have first : FileTree.lexical [] (FileTree.pathSteps ⟨"plugins/a"⟩) =
      ["plugins", "a"] := by decide
  have second : FileTree.lexical [] (FileTree.pathSteps ⟨"plugins/b"⟩) =
      ["plugins", "b"] := by decide
  exact ⟨registry, first, second⟩

theorem view_registryPath (weight : String) :
    (twoPlugins weight).view ((twoPlugins weight).placeOf allPlugins.registryPath) = none := by
  rw [(placeOf_twoPlugins weight).1]
  rfl

theorem look_registryPath (weight : String) :
    (twoPlugins weight).look ((twoPlugins weight).placeOf allPlugins.registryPath) = none :=
  FileTree.view_eq_none.mp (view_registryPath weight)

/-- The registry is outside both plugins. -/
theorem registry_outside (weight : String) : ∀ plugin ∈ bothPlugins,
    ¬ (twoPlugins weight).placeOf plugin.path <+:
      (twoPlugins weight).placeOf allPlugins.registryPath := by
  obtain ⟨registry, first, second⟩ := placeOf_twoPlugins weight
  refine List.forall_mem_cons.mpr ⟨?_, List.forall_mem_singleton.mpr ?_⟩
  · rw [registry, first]
    decide
  · rw [registry, second]
    decide

theorem readText_twoPlugins (weight : String) :
    (twoPlugins weight).readText ⟨"plugins/a/settings.json"⟩ =
        .ok (manifestOf "a" (",\"weight\":" ++ weight)) ∧
      (twoPlugins weight).readText ⟨"plugins/b/settings.json"⟩ = .ok (manifestOf "b" "") := by
  have first : (twoPlugins weight).locate true ⟨"plugins/a/settings.json"⟩ =
    .ok (["plugins", "a", "settings.json"],
      .file (manifestOf "a" (",\"weight\":" ++ weight)).toUTF8) := rfl
  have second : (twoPlugins weight).locate true ⟨"plugins/b/settings.json"⟩ =
    .ok (["plugins", "b", "settings.json"], .file (manifestOf "b" "").toUTF8) := rfl
  rw [FileTree.readText, FileTree.readText, first, second]
  exact ⟨FileTree.text_toUTF8 (manifestOf "a" (",\"weight\":" ++ weight)),
    FileTree.text_toUTF8 (manifestOf "b" "")⟩

/-! ## Both plugins are registered -/

/-- The members of the manifest of the plugin that has a weight. -/
def weighedMembers (weight : Binary64) : Json.Members :=
  membersOf "a" [("weight", .number (.double weight))]

/-- The entry of the plugin that has a weight. -/
def weighedEntry (weight : Binary64) : Entry := .ofManifest (weighedMembers weight) ⟨0, 0⟩

/-- The entry of the other plugin. -/
def plainEntry : Entry := .ofManifest (membersOf "b" []) ⟨0, 0⟩

/-- A registry with the plugin that has a weight. -/
def registryWith (weight : Binary64) : Registry :=
  ({} : Registry).insert "a" (weighedEntry weight)

/-- The weight in a manifest is a number with which the plugin can be registered. Before the other
plugin is registered, the registry is loaded with another number or the same. -/
structure Registers (weight : String) (value loaded : Binary64) : Prop where
  declared : Json.parse (manifestOf "a" (",\"weight\":" ++ weight)) =
    .ok (.object (weighedMembers value))
  registered : ((Registry.register allPlugins.registryPath "a" (weighedEntry value)).run
    (twoPlugins weight)).1 = .ok ()
  reloaded : registryOf (.ok (registryWith value).fileText) = some (registryWith loaded)
  locked : ((Registry.prepareLock allPlugins.registryPath).run ((Registry.register
    allPlugins.registryPath "a" (weighedEntry value)).run (twoPlugins weight)).2).1 = .ok ()
  room : ((Registry.prepareLock allPlugins.registryPath).run ((Registry.register
    allPlugins.registryPath "a" (weighedEntry value)).run (twoPlugins weight)).2).2.hasRoom
      (Registry.directoryOf allPlugins.registryPath) allPlugins.registryPath = true

section Registers

variable {weight : String} {value loaded : Binary64}

theorem Registers.declares (registers : Registers weight value loaded) :
    Plugin.DeclaresMembers ⟨"a", ⟨"plugins/a"⟩⟩ (twoPlugins weight) (weighedMembers value) ∧
      Plugin.DeclaresMembers ⟨"b", ⟨"plugins/b"⟩⟩ (twoPlugins weight) (membersOf "b" []) := by
  obtain ⟨first, second⟩ := readText_twoPlugins weight
  have joined : (⟨"plugins/a"⟩ : Path).join Layout.standard.manifest = ⟨"plugins/a/settings.json"⟩ ∧
      (⟨"plugins/b"⟩ : Path).join Layout.standard.manifest = ⟨"plugins/b/settings.json"⟩ := by
    decide
  exact ⟨⟨_, joined.1 ▸ first, registers.declared⟩, ⟨_, joined.2 ▸ second, by decide +kernel⟩⟩

theorem Registers.entriesOf_eq (registers : Registers weight value loaded) :
    entriesOf (twoPlugins weight) ⟨0, 0⟩ bothPlugins =
      [("a", weighedEntry value), ("b", plainEntry)] := by
  obtain ⟨first, second⟩ := registers.declares
  have first := first.ofPlugin_eq ⟨0, 0⟩
  have second := second.ofPlugin_eq ⟨0, 0⟩
  rw [entriesOf, bothPlugins, List.map_cons, List.map_singleton, first, second]
  rfl

/-- What the first registration leaves. -/
theorem Registers.first (registers : Registers weight value loaded) :
    ∃ between, (Registry.register allPlugins.registryPath "a" (weighedEntry value)).run
        (twoPlugins weight) = (.ok (), between) ∧
      between.readText allPlugins.registryPath = .ok (registryWith value).fileText := by
  have succeeds := registers.registered
  rcases ran : (Registry.register allPlugins.registryPath "a" (weighedEntry value)).run
    (twoPlugins weight) with ⟨result, between⟩
  rw [ran] at succeeds
  obtain rfl : result = .ok () := succeeds
  have records := Registry.register_records (plain_twoPlugins weight).noLinks ran
  have once := records.inTurn
  rw [view_registryPath] at once
  refine ⟨between, rfl, ?_⟩
  rw [records.read.resolve_left fun none => List.cons_ne_nil _ _ none.1]
  exact (Option.some.inj once).symm

/-- The reports of both plugins pass, if both are accepted. -/
theorem reports_twoPlugins {rules : Rules} (accepted : ∀ plugin ∈ bothPlugins,
    Validator.accepts ⟨rules, .standard⟩ (twoPlugins weight) plugin = true) :
    ∃ first second, (Validator.validateEach ⟨rules, .standard⟩ (twoPlugins weight)
      bothPlugins).reports.filter (fun report => report.verdict.isPassing) =
        [⟨"a", "plugins/a", first⟩, ⟨"b", "plugins/b", second⟩] := by
  rw [Validator.filter_reports_validateEach, List.filter_eq_self.mpr accepted]
  exact ⟨_, _, rfl⟩

/-- The call says of both plugins that they have been added, if both are accepted. -/
theorem Registers.says_added (registers : Registers weight value loaded) {rules : Rules}
    (usable : rulesOf (twoPlugins weight) none = .ok rules)
    (accepted : ∀ plugin ∈ bothPlugins,
      Validator.accepts ⟨rules, .standard⟩ (twoPlugins weight) plugin = true) :
    ((runCall ⟨0, 0⟩ allPlugins).run (twoPlugins weight)).1.errors =
      String.join (bothPlugins.map fun plugin => added allPlugins.registryPath plugin.id) := by
  have ran : (runCall ⟨0, 0⟩ allPlugins).run (twoPlugins weight) = _ :=
    @run_runCall rules ⟨0, 0⟩ allPlugins (twoPlugins weight) usable .all true
  obtain ⟨-, errors⟩ := @run_validateTarget_register ⟨rules, .standard⟩ ⟨0, 0⟩ allPlugins
    (twoPlugins weight) .all bothPlugins (discover_twoPlugins weight)
  obtain ⟨findings, others, passing⟩ := reports_twoPlugins accepted
  have reported : (Validator.validateEach ⟨rules, .standard⟩ (twoPlugins weight)
      bothPlugins).reports ≠ [] := by
    intro none
    rw [none] at passing
    cases passing
  rw [run_registerAll] at errors
  dsimp only at errors
  rw [ran, errors reported, passing]
  -- The lock can be taken again, and the registry that has been saved is loaded.
  obtain ⟨between, first, read⟩ := registers.first
  have permits := Registry.refuses_register allPlugins.registryPath "a" (weighedEntry value)
    (twoPlugins weight)
  have locked := registers.locked
  have room := registers.room
  rw [first] at permits locked room
  have keeps := Registry.prepareLock_keeps allPlugins.registryPath between
  rcases prepared : (Registry.prepareLock allPlugins.registryPath).run between with
    ⟨result, opened⟩
  rw [prepared] at locked room keeps
  obtain rfl : result = .ok () := locked
  have lets : opened.LetsReplace (Registry.directoryOf allPlugins.registryPath)
      allPlugins.registryPath := by
    refine .of_hasRoom room fun deed place => ?_
    rw [keeps.refuses, permits]
    rfl
  obtain ⟨after, second⟩ := Registry.register_succeeds read
    (Json.toOption_eq_some.mp registers.reloaded) prepared lets "b"
    (.ofPlugin .standard between ⟨"plugins/b"⟩ "b" ⟨0, 0⟩)
  have own : Entry.ofPlugin .standard (twoPlugins weight) ⟨"plugins/a"⟩ "a" ⟨0, 0⟩ =
    weighedEntry value := registers.declares.1.ofPlugin_eq ⟨0, 0⟩
  rw [run_mapM_cons, run_registerPassing]
  dsimp only
  rw [own, first]
  dsimp only
  rw [run_mapM_cons, run_registerPassing]
  dsimp only
  rw [second]
  rfl

/-- What the call records, if both plugins are accepted: the first one with the number that was
loaded. -/
theorem Registers.recorded (registers : Registers weight value loaded) {rules : Rules}
    (usable : rulesOf (twoPlugins weight) none = .ok rules)
    (accepted : ∀ plugin ∈ bothPlugins,
      Validator.accepts ⟨rules, .standard⟩ (twoPlugins weight) plugin = true) :
    ((runCall ⟨0, 0⟩ allPlugins).run (twoPlugins weight)).2.readText allPlugins.registryPath =
      .ok ((registryWith loaded).insert "b" plainEntry).fileText := by
  have ran : (runCall ⟨0, 0⟩ allPlugins).run (twoPlugins weight) = _ :=
    @run_runCall rules ⟨0, 0⟩ allPlugins (twoPlugins weight) usable .all true
  have free : (twoPlugins weight).look ((twoPlugins weight).placeOf allPlugins.registryPath) ≠
      some .directory := by
    rw [look_registryPath]
    nofun
  obtain ⟨-, records⟩ := @records_of_added rules ⟨0, 0⟩ allPlugins (twoPlugins weight) .all
    bothPlugins (plain_twoPlugins weight) free (discover_twoPlugins weight)
    fun plugin among _ => registry_outside weight plugin among
  rw [List.filter_eq_self.mpr accepted, ← ran, registers.entriesOf_eq] at records
  have records := records nofun (registers.says_added usable accepted)
  have inTurn := records.inTurn
  have once : Registry.registerOnce (textOf none) ("a", weighedEntry value) =
    some (.ok (registryWith value).fileText) := rfl
  rw [view_registryPath, Registry.registerInTurn_cons, once, Option.bind_some,
    Registry.registerInTurn_cons, Registry.registerOnce, registers.reloaded] at inTurn
  rw [records.read.resolve_left fun none => List.cons_ne_nil _ _ none.1]
  exact (Option.some.inj inTurn).symm

end Registers

/-- This number is read back. -/
theorem half_registers : Registers "0.5" ⟨false, 2 ^ 52, -53⟩ ⟨false, 2 ^ 52, -53⟩ where
  declared := by decide +kernel
  registered := by decide +kernel
  reloaded := Registry.registryOf_fileText (by decide +kernel)
  locked := by decide +kernel
  room := by decide +kernel

/-- The number that is nearest to the text lies between these two. -/
theorem drift_registers :
    Registers "1e-28" ⟨false, 8920298079412250, -146⟩ ⟨false, 8920298079412248, -146⟩ where
  declared := by decide +kernel
  registered := by decide +kernel
  reloaded := Registry.registryOf_fileText (by decide +kernel)
  locked := by decide +kernel
  room := by decide +kernel

/-- Two plugins, of which one has a number that is read back, are recorded as their manifests
declare them. -/
theorem weighed_plugins_are_recorded : ∃ rules outcome after final,
    rulesOf (twoPlugins "0.5") allPlugins.rules = .ok rules ∧
      (runCall ⟨0, 0⟩ allPlugins).run (twoPlugins "0.5") = (outcome, after) ∧
      outcome.status = 0 ∧
      after.readText allPlugins.registryPath = .ok final.fileText ∧
      Recorded (twoPlugins "0.5") ⟨0, 0⟩ bothPlugins {} final := by
  obtain ⟨rules, usable, accepts⟩ := standard_accepts
  have accepted := accepts "0.5" (by simp)
  have discovered := discover_twoPlugins "0.5"
  have noFile := look_registryPath "0.5"
  have said := half_registers.says_added (usable _) accepted
  rcases ran : (runCall ⟨0, 0⟩ allPlugins).run (twoPlugins "0.5") with ⟨outcome, after⟩
  rw [ran] at said
  have free : (twoPlugins "0.5").look ((twoPlugins "0.5").placeOf allPlugins.registryPath) ≠
      some .directory := by
    rw [noFile]
    nofun
  obtain ⟨decides, records⟩ := @validate_decides_and_records (twoPlugins "0.5") allPlugins .all
    rules ⟨0, 0⟩ (plain_twoPlugins _) (.inl (by decide)) (usable _) free
    fun plugins targets plugin among _ =>
      registry_outside _ plugin (Except.ok.inj (targets.symm.trans discovered) ▸ among)
  obtain ⟨-, zero, -⟩ := decides true outcome after ran
  have passing := records bothPlugins outcome after discovered ran
  dsimp only at passing
  rw [List.filter_eq_self.mpr accepted] at passing
  obtain ⟨previous, found, -, recorded⟩ := passing.2 nofun said
  rw [view_registryPath] at found
  obtain rfl : {} = previous := Option.some.inj found
  have doubles : ∀ entry ∈ (entriesOf (twoPlugins "0.5") ⟨0, 0⟩ bothPlugins).dropLast,
      ∀ field ∈ entry.2.metadata, field.2.Every DoubleReadsBack := by
    have fields : (weighedEntry ⟨false, 2 ^ 52, -53⟩).metadata =
      weighedMembers ⟨false, 2 ^ 52, -53⟩ := by decide +kernel
    have readsBack : (Json.Number.double ⟨false, 2 ^ 52, -53⟩).ReadsBack := by
      rw [Json.Number.ReadsBack]
      decide +kernel
    rw [half_registers.entriesOf_eq]
    refine List.forall_mem_singleton.mpr ?_
    rw [fields]
    simpa [weighedMembers, membersOf, Json.Every, Json.EveryItem, DoubleReadsBack] using readsBack
  obtain ⟨final, read, isRecorded⟩ := recorded doubles fun _ =>
    ⟨List.forall_mem_nil _, List.forall_mem_nil _⟩
  refine ⟨rules, outcome, after, final, usable _, rfl, zero.mpr ⟨bothPlugins, discovered, ?_⟩,
    read, isRecorded⟩
  exact fun plugin among => Validator.accepts_iff.mp (accepted plugin among)

/-- **A number that is not read back is recorded otherwise:** both plugins are said to have been
added, and no registry in which they are recorded as their manifests declare them is what is
written. -/
theorem drifting_number_is_recorded_otherwise : ∃ rules outcome after,
    (twoPlugins "1e-28").Plain ∧ Instant.Proper ⟨0, 0⟩ ∧
      rulesOf (twoPlugins "1e-28") allPlugins.rules = .ok rules ∧
      targeted (twoPlugins "1e-28") allPlugins.plugins .all = .ok bothPlugins ∧
      (twoPlugins "1e-28").look ((twoPlugins "1e-28").placeOf allPlugins.registryPath) = none ∧
      (∀ plugin ∈ bothPlugins,
        Validator.accepts ⟨rules, .standard⟩ (twoPlugins "1e-28") plugin = true ∧
          ¬ (twoPlugins "1e-28").placeOf plugin.path <+:
            (twoPlugins "1e-28").placeOf allPlugins.registryPath) ∧
      (runCall ⟨0, 0⟩ allPlugins).run (twoPlugins "1e-28") = (outcome, after) ∧
      outcome.errors =
        String.join (bothPlugins.map fun plugin => added allPlugins.registryPath plugin.id) ∧
      ¬ ∃ final, after.readText allPlugins.registryPath = .ok final.fileText ∧
        Recorded (twoPlugins "1e-28") ⟨0, 0⟩ bothPlugins {} final := by
  obtain ⟨rules, usable, accepts⟩ := standard_accepts
  have accepted := accepts "1e-28" (by simp)
  have said := drift_registers.says_added (usable _) accepted
  have text := drift_registers.recorded (usable _) accepted
  rcases ran : (runCall ⟨0, 0⟩ allPlugins).run (twoPlugins "1e-28") with ⟨outcome, after⟩
  rw [ran] at said text
  refine ⟨rules, outcome, after, plain_twoPlugins _, .inl (by decide), usable _,
    discover_twoPlugins _, look_registryPath _,
    fun plugin among => ⟨accepted plugin among, registry_outside _ plugin among⟩, rfl, said, ?_⟩
  rintro ⟨final, read, recorded⟩
  rw [text] at read
  have own := recorded.own _ List.mem_cons_self _ drift_registers.declares.1
  -- The number of the manifest would be in the text that is written.
  have field : ("weight", .number (.double ⟨false, 8920298079412250, -146⟩)) ∈
    (weighedEntry ⟨false, 8920298079412250, -146⟩).metadata := by decide +kernel
  have inside := Registry.infix_fileText own field
  rw [← Except.ok.inj read, Registry.toList_fileText] at inside
  revert inside
  decide +kernel

end PluginAudit.CommandLine
