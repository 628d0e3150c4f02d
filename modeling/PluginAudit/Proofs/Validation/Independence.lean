import PluginAudit.Proofs.Validation.Isolation

/-!
# No check hides the findings of another

The five checks of a plugin are made one after the other, and each is made
whatever the others find. What is in the manifest only matters to findings that
are about the manifest: the routing module that it needs, the hooks that it
declares, and the manifest itself (`without_manifestMatters`). What is in the
dependency manifest only matters to findings about the dependencies
(`without_dependenciesMatter`). So a file that is malformed hides nothing that is
found elsewhere (`checks_are_independent`).
-/

set_option autoImplicit false

namespace PluginAudit

open FileTree (LinkFree ReadSame)

/-! ## Leaving out codes -/

/-- The findings whose codes are not among some codes. -/
def without (codes : List String) (findings : List Finding) : List Finding :=
  findings.filter fun finding => !codes.contains finding.code

section Without

variable {codes : List String} {first second : List Finding}

theorem without_append :
    without codes (first ++ second) = without codes first ++ without codes second :=
  List.filter_append ..

theorem without_eq_nil (coded : ∀ finding ∈ first, finding.code ∈ codes) :
    without codes first = [] := by
  refine List.filter_eq_nil_iff.mpr fun finding among => ?_
  simp [coded finding among]

end Without

namespace Validator

/-! ## What the manifests matter to -/

section Matters

variable {validator : Validator} {tree : FileTree} {id : String} {plugin : Path}

/-- The codes of findings to which the manifest matters. -/
def manifestMatters : List String := manifestCodes ++ ["L003", "C004"]

/-- The codes of findings to which the dependency manifest matters. -/
def dependenciesMatter : List String := ["S002", "D001", "D002"]

/-- **The manifest matters to no other findings.** -/
theorem without_manifestMatters (validator : Validator) (tree : FileTree) (id : String)
    (plugin : Path) :
    without manifestMatters (validator.findings tree id plugin) =
      without manifestMatters (Structure.check validator.layout tree plugin none ++
        Scan.checkPlugin validator.layout validator.rules tree plugin ++
        ModuleContract.checkPlugin validator.layout tree plugin [] ++
        Dependencies.audit validator.layout validator.rules tree plugin) := by
  have manifest : without manifestMatters (validator.checkManifest tree id plugin).1 = [] :=
    without_eq_nil fun finding among =>
      List.mem_append_left _ (code_of_mem_checkManifest among)
  obtain ⟨routing, onlyRouting, routingCode⟩ := Structure.check_eq_append validator.layout tree
    plugin (validator.checkManifest tree id plugin).2
  obtain ⟨hooks, onlyHooks, hooksCode⟩ := ModuleContract.checkPlugin_eq_append validator.layout tree
    plugin (((validator.checkManifest tree id plugin).2.map Manifest.hooks).getD [])
  have routing : without manifestMatters routing = [] := by
    refine without_eq_nil fun finding among => ?_
    rw [routingCode finding among]
    decide
  have hooks : without manifestMatters hooks = [] := by
    refine without_eq_nil fun finding among => ?_
    rw [hooksCode finding among]
    decide
  rw [findings_eq, onlyRouting, onlyHooks]
  simp only [without_append, manifest, routing, hooks, List.nil_append, List.append_nil]

/-- **The dependency manifest matters to no other findings.** -/
theorem without_dependenciesMatter (validator : Validator) (tree : FileTree) (id : String)
    (plugin : Path) :
    without dependenciesMatter (validator.findings tree id plugin) =
      without dependenciesMatter ((validator.checkManifest tree id plugin).1 ++
        Structure.check validator.layout tree plugin (validator.checkManifest tree id plugin).2 ++
        Scan.checkModules validator.rules tree plugin ++
        ModuleContract.checkPlugin validator.layout tree plugin
          (((validator.checkManifest tree id plugin).2.map Manifest.hooks).getD [])) := by
  have audit : without dependenciesMatter
      (Dependencies.audit validator.layout validator.rules tree plugin) = [] := by
    refine without_eq_nil fun finding among => ?_
    exact List.mem_cons_of_mem _ (Dependencies.code_of_mem_audit among)
  have dangerous : without dependenciesMatter
      (Dependencies.auditDangerous validator.layout validator.rules tree plugin) = [] := by
    refine without_eq_nil fun finding among => ?_
    rw [List.mem_singleton.mp (Dependencies.code_of_mem_auditDangerous among)]
    exact List.mem_cons_self
  rw [findings_eq, Scan.checkPlugin]
  simp only [without_append, audit, dangerous, List.append_nil]

end Matters

/-! ## Two states of a plugin -/

/-- What is seen below two directories differs in nothing but the file of a name. -/
structure DifferIn (name : String) (tree tree' : FileTree) (place place' : List String) : Prop where
  isFile : ∃ bytes, tree.look (place ++ [name]) = some (.file bytes)
  isFile' : ∃ bytes, tree'.look (place' ++ [name]) = some (.file bytes)
  elsewhere : ∀ more, more ≠ [name] → tree.view (place ++ more) = tree'.view (place' ++ more)

section States

variable {rules : Rules} {tree tree' : FileTree} {plugin : Path} {place place' : List String}
  {name : String}

/-- Everything is there that was there. -/
theorem DifferIn.isSome (differ : DifferIn name tree tree' place place') (more : List String) :
    (tree.look (place ++ more)).isSome = (tree'.look (place' ++ more)).isSome := by
  by_cases here : more = [name]
  · obtain ⟨bytes, isFile⟩ := differ.isFile
    obtain ⟨bytes', isFile'⟩ := differ.isFile'
    rw [here, isFile, isFile']
    rfl
  · rw [FileTree.look_of_view (differ.elsewhere more here)]

theorem DifferIn.has_eq (differ : DifferIn name tree tree' place place')
    (free : tree.LinkFree plugin place) (free' : tree'.LinkFree plugin place') {file : String}
    (isFile : file ∈ Layout.standard.files) :
    tree.has (plugin.join file) = tree'.has (plugin.join file) :=
  free.has_eq free' (isEntryName_of_mem isFile) (differ.isSome [file])

theorem DifferIn.readSame (differ : DifferIn name tree tree' place place')
    (free : tree.LinkFree plugin place) (free' : tree'.LinkFree plugin place') {file : String}
    (isFile : file ∈ Layout.standard.files) (other : file ≠ name) :
    ReadSame tree tree' (plugin.join file) := by
  apply free.readSame free' (isEntryName_of_mem isFile)
  apply differ.elsewhere
  simpa using other

/-- A file that is no module does not matter to the scan. -/
theorem DifferIn.checkModules_eq (differ : DifferIn name tree tree' place place')
    (free : tree.LinkFree plugin place) (free' : tree'.LinkFree plugin place')
    (distinct : tree.root.Distinct) (distinct' : tree'.root.Distinct)
    (noModule : Scan.isModuleName rules name = false) :
    Scan.checkModules rules tree plugin = Scan.checkModules rules tree' plugin := by
  apply Scan.checkModules_congr free free' distinct distinct'
  intro first second isAt isAt' more
  by_cases here : more = [name]
  · have look := FileTree.Node.look_append isAt
    have look' := FileTree.Node.look_append isAt'
    obtain ⟨bytes, isFile⟩ := differ.isFile
    obtain ⟨bytes', isFile'⟩ := differ.isFile'
    have last : more.getLast? = some name := by rw [here]; rfl
    have isFile : first.look more = some (.file bytes) := by rw [here, ← look]; exact isFile
    have isFile' : second.look more = some (.file bytes') := by rw [here, ← look']; exact isFile'
    exact .passedOver last noModule isFile isFile'
  · exact .of_view isAt isAt' (differ.elsewhere more here)

end States

/-! ## What is said about the manifest -/

/-- A report says that the manifest is missing, and no more about it. -/
def SaysMissing (findings : List Finding) : Prop :=
  (∃ finding ∈ findings, finding.code = "L001" ∧
    finding.file = some Layout.standard.manifest) ∧
  findings.filter (fun finding => manifestCodes.contains finding.code) = []

/-- A report says that the manifest cannot be put to use, and no more about it. -/
def SaysUnusable (findings : List Finding) : Prop :=
  ∃ finding : Finding, finding.code = "M001" ∧
    findings.filter (fun finding => manifestCodes.contains finding.code) = [finding]

/-- A report says about the manifest what the check of its members finds. -/
def SaysChecked (rules : Rules) (id : String) (tree : FileTree) (plugin : Path)
    (findings : List Finding) : Prop :=
  (∀ finding ∈ findings, finding.code ≠ "M001") ∧
  (¬∃ finding ∈ findings, finding.code = "L001" ∧
    finding.file = some Layout.standard.manifest) ∧
  ∃ text members, tree.readText (plugin.join Layout.standard.manifest) = .ok text ∧
    Manifest.parse text = .ok members ∧
    findings.filter (fun finding => manifestCodes.contains finding.code) =
      Manifest.check .standard rules id members

/-- A report says one of these about the manifest. -/
theorem says_cases (rules : Rules) (id : String) (tree : FileTree) (plugin : Path) :
    SaysMissing (Validator.findings ⟨rules, .standard⟩ tree id plugin) ∨
      SaysUnusable (Validator.findings ⟨rules, .standard⟩ tree id plugin) ∨
      SaysChecked rules id tree plugin (Validator.findings ⟨rules, .standard⟩ tree id plugin) := by
  have missing := exists_missing_iff ⟨rules, .standard⟩ tree id plugin
  have filter := filter_manifestCodes ⟨rules, .standard⟩ tree id plugin
  rcases checkManifest_cases ⟨rules, .standard⟩ tree id plugin with
    ⟨absent, none⟩ | ⟨has, file, message, one⟩ | ⟨has, text, members, read, parsed, checked⟩
  · exact .inl ⟨missing.mpr absent, filter.trans none⟩
  · exact .inr (.inl ⟨_, rfl, filter.trans one⟩)
  · refine .inr (.inr ⟨?_, ?_, text, members, read, parsed, filter.trans checked⟩)
    · intro finding among code
      have isOne : finding ∈ Manifest.check .standard rules id members := by
        rw [← checked, ← filter]
        exact List.mem_filter.mpr ⟨among, by rw [code]; decide⟩
      have isCode := Manifest.code_of_mem_check isOne
      rw [code] at isCode
      exact absurd isCode (by decide)
    · intro isMissing
      rw [missing.mp isMissing] at has
      cases has

theorem not_unusable_of_missing {findings : List Finding} (missing : SaysMissing findings) :
    ¬SaysUnusable findings := by
  rintro ⟨finding, -, one⟩
  rw [missing.2] at one
  cases one

theorem not_checked_of_missing {rules : Rules} {id : String} {tree : FileTree} {plugin : Path}
    {findings : List Finding} (missing : SaysMissing findings) :
    ¬SaysChecked rules id tree plugin findings := by
  rintro ⟨-, notMissing, -⟩
  exact notMissing missing.1

theorem not_checked_of_unusable {rules : Rules} {id : String} {tree : FileTree} {plugin : Path}
    {findings : List Finding} (unusable : SaysUnusable findings) :
    ¬SaysChecked rules id tree plugin findings := by
  rintro ⟨usable, -, -⟩
  obtain ⟨finding, code, one⟩ := unusable
  have among : finding ∈ findings.filter (fun finding => manifestCodes.contains finding.code) := by
    rw [one]
    exact List.mem_cons_self
  exact usable finding (List.mem_filter.mp among).1 code

/-! ## No check hides another -/

/-- Validation succeeds where there is a directory. -/
theorem validate_ok_iff {validator : Validator} {tree : FileTree} {id : String} {plugin : Path} :
    (∃ report, validator.validate tree id plugin = .ok report) ↔
      ∃ place entries, tree.locate true plugin = .ok (place, .directory entries) := by
  rw [validate, FileTree.isDirectory]
  rcases tree.locate true plugin with fault | ⟨place, node⟩
  · simp
  · cases node <;> simp [FileTree.Node.isDirectory]

/-- A file is no module if what its extension tells is not scanned. -/
theorem isModuleName_eq_false {rules : Rules} (noJson : rules.scansExtension "json" = false)
    {name : String} (isJson : Path.nameExtension? name = some "json") :
    Scan.isModuleName rules name = false := by
  rw [Scan.isModuleName, isJson]
  exact noJson

/-- What is in the manifest does not matter to other findings. -/
theorem manifest_hides_nothing {rules : Rules} (noJson : rules.scansExtension "json" = false)
    {tree tree' : FileTree} (distinct : tree.root.Distinct) (distinct' : tree'.root.Distinct)
    {plugin : Path} {place place' : List String} (free : tree.LinkFree plugin place)
    (free' : tree'.LinkFree plugin place')
    (differ : DifferIn Layout.standard.manifest tree tree' place place') (id : String) :
    without manifestMatters (Validator.findings ⟨rules, .standard⟩ tree id plugin) =
      without manifestMatters (Validator.findings ⟨rules, .standard⟩ tree' id plugin) := by
  have modules : Scan.checkModules rules tree plugin = Scan.checkModules rules tree' plugin :=
    differ.checkModules_eq free free' distinct distinct'
      (isModuleName_eq_false noJson (by decide))
  have contract : ReadSame tree tree' (plugin.join Layout.standard.primaryModule) :=
    differ.readSame free free' (by decide) (by decide)
  have dependencies : ReadSame tree tree' (plugin.join Layout.standard.dependencyManifest) :=
    differ.readSame free free' (by decide) (by decide)
  rw [without_manifestMatters, without_manifestMatters, Scan.checkPlugin, Scan.checkPlugin,
    structure_congr fun file isFile => differ.has_eq free free' isFile, modules,
    contract_congr contract, (dependencies_congr dependencies).1,
    (dependencies_congr dependencies).2]

/-- What is in the dependency manifest does not matter to other findings. -/
theorem dependencyManifest_hides_nothing {rules : Rules}
    (noJson : rules.scansExtension "json" = false)
    {tree tree' : FileTree} (distinct : tree.root.Distinct) (distinct' : tree'.root.Distinct)
    {plugin : Path} {place place' : List String} (free : tree.LinkFree plugin place)
    (free' : tree'.LinkFree plugin place')
    (differ : DifferIn Layout.standard.dependencyManifest tree tree' place place') (id : String) :
    without dependenciesMatter (Validator.findings ⟨rules, .standard⟩ tree id plugin) =
      without dependenciesMatter (Validator.findings ⟨rules, .standard⟩ tree' id plugin) := by
  have modules : Scan.checkModules rules tree plugin = Scan.checkModules rules tree' plugin :=
    differ.checkModules_eq free free' distinct distinct'
      (isModuleName_eq_false noJson (by decide))
  have manifest : ReadSame tree tree' (plugin.join Layout.standard.manifest) :=
    differ.readSame free free' (by decide) (by decide)
  have contract : ReadSame tree tree' (plugin.join Layout.standard.primaryModule) :=
    differ.readSame free free' (by decide) (by decide)
  rw [without_dependenciesMatter, without_dependenciesMatter, checkManifest_congr manifest,
    structure_congr fun file isFile => differ.has_eq free free' isFile, modules,
    contract_congr contract]

/-- **No check hides the findings of another.** Validation succeeds exactly where there is a
directory. Where no links are below it, and files in the notation of manifests are not scanned,
changing the bytes of the manifest changes no findings but those of the manifest, of the routing
module and of the hooks, and changing the bytes of the dependency manifest changes none but those
of the dependencies. And every report says exactly one thing about the manifest: that it is
missing, that it cannot be put to use, or what the check of its members finds. -/
theorem checks_are_independent {rules : Rules} (noJson : rules.scansExtension "json" = false)
    (id : String) (plugin : Path) :
    (∀ tree, (∃ report, Validator.validate ⟨rules, .standard⟩ tree id plugin = .ok report) ↔
      ∃ place entries, tree.locate true plugin = .ok (place, .directory entries)) ∧
    (∀ tree tree' place place', tree.root.Distinct → tree'.root.Distinct →
      tree.LinkFree plugin place → tree'.LinkFree plugin place' →
      ∃ report report',
        Validator.validate ⟨rules, .standard⟩ tree id plugin = .ok report ∧
        Validator.validate ⟨rules, .standard⟩ tree' id plugin = .ok report' ∧
        (DifferIn "settings.json" tree tree' place place' →
          without manifestMatters report.findings = without manifestMatters report'.findings) ∧
        (DifferIn "package.json" tree tree' place place' →
          without dependenciesMatter report.findings =
            without dependenciesMatter report'.findings)) ∧
    ∀ tree report, Validator.validate ⟨rules, .standard⟩ tree id plugin = .ok report →
      (SaysMissing report.findings ∨ SaysUnusable report.findings ∨
        SaysChecked rules id tree plugin report.findings) ∧
      ¬(SaysMissing report.findings ∧ SaysUnusable report.findings) ∧
      ¬(SaysMissing report.findings ∧ SaysChecked rules id tree plugin report.findings) ∧
      ¬(SaysUnusable report.findings ∧ SaysChecked rules id tree plugin report.findings) := by
  refine ⟨fun tree => validate_ok_iff, ?_, ?_⟩
  · intro tree tree' place place' distinct distinct' free free'
    refine ⟨_, _, by rw [validate, if_pos free.isDirectory],
      by rw [validate, if_pos free'.isDirectory], ?_, ?_⟩
    · intro differ
      exact manifest_hides_nothing noJson distinct distinct' free free' differ id
    · intro differ
      exact dependencyManifest_hides_nothing noJson distinct distinct' free free' differ id
  · intro tree report validated
    rw [validate] at validated
    split at validated
    · rw [← Except.ok.inj validated]
      exact ⟨says_cases rules id tree plugin,
        fun both => not_unusable_of_missing both.1 both.2,
        fun both => not_checked_of_missing both.1 both.2,
        fun both => not_checked_of_unusable both.1 both.2⟩
    · cases validated

/-- A plugin whose manifest and dependency manifest are given. -/
def withManifests (manifest dependencies : ByteArray) : FileTree :=
  { root := .directory [("p", .directory
      [("settings.json", .file manifest), ("package.json", .file dependencies)])]
    workplace := [] }

theorem linkFree_withManifests (manifest dependencies : ByteArray) :
    (withManifests manifest dependencies).LinkFree ⟨"p"⟩ ["p"] ∧
      (withManifests manifest dependencies).root.Distinct := by
  have leads : (withManifests manifest dependencies).Leads true ⟨"p"⟩ ["p"] := by
    have atTop : (withManifests manifest dependencies).root.look ([] ++ ["p"]) = some .directory :=
      rfl
    refine ⟨by decide, 0, by decide, ?_⟩
    rw [show FileTree.pathSteps ⟨"p"⟩ = [.name "p"] by decide]
    exact .enter rfl (by decide) atTop nofun (.done atTop)
  have all {holds : FileTree.Node → Prop} (atTop : holds (withManifests manifest dependencies).root)
      (atPlugin : holds (.directory
        [("settings.json", .file manifest), ("package.json", .file dependencies)]))
      (atFile : ∀ bytes, holds (.file bytes)) :
      (withManifests manifest dependencies).root.All holds := by
    refine .of_entries atTop ?_
    simp only [withManifests, FileTree.Node.entries, List.forall_mem_singleton]
    refine .of_entries atPlugin ?_
    simp only [FileTree.Node.entries, List.forall_mem_cons]
    exact ⟨.of_file (atFile _), .of_file (atFile _), List.forall_mem_nil _⟩
  have noLinks : (withManifests manifest dependencies).root.NoLinks :=
    all (by simp [withManifests]) (by simp) (by simp)
  refine ⟨⟨leads, rfl, fun more => noLinks.look _⟩, all ?_ ?_ ?_⟩
  · simp [withManifests, FileTree.Node.entries]
  · simp [FileTree.Node.entries]
  · simp [FileTree.Node.entries]

theorem differIn_withManifests (manifest manifest' dependencies dependencies' : ByteArray) :
    DifferIn "settings.json" (withManifests manifest dependencies)
        (withManifests manifest' dependencies) ["p"] ["p"] ∧
      DifferIn "package.json" (withManifests manifest dependencies)
        (withManifests manifest dependencies') ["p"] ["p"] := by
  have view (manifest dependencies : ByteArray) (more : List String) :
      (withManifests manifest dependencies).view (["p"] ++ more) =
        ((FileTree.Node.directory [("settings.json", .file manifest),
          ("package.json", .file dependencies)]).look more).map fun shape => (shape, .whole) := by
    have look := @FileTree.Node.look_append (withManifests manifest dependencies).root _ ["p"] rfl
    rw [FileTree.view, FileTree.look, look]
    rfl
  -- Below a file there is nothing.
  have further (bytes : ByteArray) (names : List String) (some : names ≠ []) :
      (FileTree.Node.file bytes).at? names = none := by
    obtain ⟨name, rest, rfl⟩ := List.exists_cons_of_ne_nil some
    rfl
  refine ⟨⟨⟨_, rfl⟩, ⟨_, rfl⟩, fun more other => ?_⟩, ⟨_, rfl⟩, ⟨_, rfl⟩, fun more other => ?_⟩
  · rw [view, view]
    cases more with
    | nil => rfl
    | cons name rest =>
      by_cases here : name = "settings.json"
      · have some : rest ≠ [] := by simpa [here] using other
        simp [FileTree.Node.look, here, further _ _ some]
      · simp [FileTree.Node.look, lookup_cons_if, here]
  · rw [view, view]
    cases more with
    | nil => rfl
    | cons name rest =>
      by_cases here : name = "package.json"
      · have some : rest ≠ [] := by simpa [here] using other
        simp [FileTree.Node.look, lookup_cons_if, here, further _ _ some]
      · simp [FileTree.Node.look, lookup_cons_if, here]

/-- **A malformed manifest hides nothing:** what is found elsewhere is found as with any other
one, and so it is with a malformed dependency manifest. -/
theorem malformed_manifests_hide_nothing :
    ∃ (rules : Rules) (report other another : Report), rules.scansExtension "json" = false ∧
      Validator.validate ⟨rules, .standard⟩ (withManifests "?".toUTF8 "?".toUTF8) "p" ⟨"p"⟩ =
        .ok report ∧
      Validator.validate ⟨rules, .standard⟩ (withManifests "\x7b\x7d".toUTF8 "?".toUTF8) "p"
        ⟨"p"⟩ = .ok other ∧
      Validator.validate ⟨rules, .standard⟩ (withManifests "?".toUTF8 "\x7b\x7d".toUTF8) "p"
        ⟨"p"⟩ = .ok another ∧
      without manifestMatters report.findings = without manifestMatters other.findings ∧
      without dependenciesMatter report.findings = without dependenciesMatter another.findings ∧
      SaysUnusable report.findings := by
  have noJson : (⟨.standard, [], []⟩ : Rules).scansExtension "json" = false := by decide +kernel
  obtain ⟨free, distinct⟩ := linkFree_withManifests "?".toUTF8 "?".toUTF8
  obtain ⟨free', distinct'⟩ := linkFree_withManifests "\x7b\x7d".toUTF8 "?".toUTF8
  obtain ⟨free'', distinct''⟩ := linkFree_withManifests "?".toUTF8 "\x7b\x7d".toUTF8
  obtain ⟨inManifest, -⟩ :=
    differIn_withManifests "?".toUTF8 "\x7b\x7d".toUTF8 "?".toUTF8 "?".toUTF8
  obtain ⟨-, inDependencies⟩ :=
    differIn_withManifests "?".toUTF8 "?".toUTF8 "?".toUTF8 "\x7b\x7d".toUTF8
  obtain ⟨-, states, reported⟩ := checks_are_independent noJson "p" ⟨"p"⟩
  obtain ⟨report, other, validated, validated', same, -⟩ :=
    states _ _ _ _ distinct distinct' free free'
  obtain ⟨report', another, again, validated'', -, same'⟩ :=
    states _ _ _ _ distinct distinct'' free free''
  obtain rfl : report' = report := Except.ok.inj (again.symm.trans validated)
  refine ⟨_, report', other, another, noJson, validated, validated', validated'', same inManifest,
    same' inDependencies, ?_⟩
  have codes : (Validator.checkManifest ⟨⟨.standard, [], []⟩, .standard⟩
      (withManifests "?".toUTF8 "?".toUTF8) "p" ⟨"p"⟩).1.map (·.code) = ["M001"] := by
    decide +kernel
  rw [validate, if_pos free.isDirectory] at validated
  obtain ⟨finding, one, code⟩ := List.map_eq_singleton_iff.mp codes
  refine ⟨finding, code, ?_⟩
  rw [← Except.ok.inj validated, ← one]
  exact filter_manifestCodes ⟨⟨.standard, [], []⟩, .standard⟩
    (withManifests "?".toUTF8 "?".toUTF8) "p" ⟨"p"⟩

end Validator

end PluginAudit
