import PluginAudit.Proofs.CommandLine.Deciding
import PluginAudit.Proofs.FileTree.Naming
import PluginAudit.Proofs.Registry.FailedRegistration
import PluginAudit.Proofs.Registry.Saving
import PluginAudit.Proofs.Scan.Occurrences

/-!
# Registering beside the plugins

The registry stands in the directory of all plugins by default, with its lock and
its temporary file. A registration there changes files in that directory and
nothing else (`register_sameDirectories`): what is a directory stays one, with
all that is below it, be it one under a name that the registry or its lock would
have. So the same plugins are found after any number of registrations, whether
these succeed or not, and their reports are the same
(`registering_keeps_validation`).
-/

set_option autoImplicit false

namespace PluginAudit

open FileTree (IsEntryName LinkFree WellNamed)

namespace FileTree

/-! ## A file under a name of a directory -/

section Named

variable {path : Path} {place : List String} {name : String} {bytes : ByteArray}
  {before after : FileTree}

/-- Nothing is below a file. -/
theorem look_below_file (isFile : after.look (place ++ [name]) = some (.file bytes))
    (next : String) (more : List String) : after.look (place ++ name :: next :: more) = none := by
  have noDirectory : after.root.look (place ++ [name]) ≠ some .directory := by
    rw [show after.root.look (place ++ [name]) = _ from isFile]
    simp
  have nothing := Node.look_none_below next noDirectory more
  rwa [List.append_assoc] at nothing

/-- A tree stays well named when a file is put under a name. -/
theorem WellNamed.of_sameBut (named : before.WellNamed) (isName : IsEntryName name)
    (same : SameBut (place ++ [name]) before after) (distinct : after.root.Distinct)
    (isFile : after.look (place ++ [name]) = some (.file bytes)) : after.WellNamed := by
  refine ⟨distinct, fun other next stands => ?_⟩
  by_cases within : place ++ [name] <+: other ++ [next]
  · rcases List.prefix_concat_iff.mp within with equal | ⟨more, rfl⟩
    · obtain ⟨-, last⟩ := List.append_inj' equal rfl
      exact List.singleton_inj.mp last ▸ isName
    · cases more with
      | nil =>
        rw [List.append_nil, List.append_assoc] at stands
        exact absurd (look_below_file isFile next []) stands
      | cons first more =>
        rw [List.append_assoc, List.append_assoc] at stands
        exact absurd (look_below_file isFile first (more ++ [next])) stands
  · exact named.named other next (same.look within ▸ stands)

/-- A directory stays without links when a file is put under a name in it that no directory has. -/
theorem LinkFree.of_sameBut (free : before.LinkFree path place)
    (same : SameBut (place ++ [name]) before after)
    (noDirectory : before.look (place ++ [name]) ≠ some .directory)
    (isFile : after.look (place ++ [name]) = some (.file bytes)) : after.LinkFree path place := by
  have outside := Node.not_prefix_of_directory noDirectory free.here
  refine ⟨?_, (same.look outside).trans free.here, fun more target isLink => ?_⟩
  · obtain ⟨checked, used, bound, walk⟩ := free.leads
    have kept : ∀ other shape, ¬ place ++ [name] <+: other →
        before.root.look other = some shape → after.root.look other = some shape :=
      fun other shape outside stands => (same.look outside).trans stands
    rcases walk.elsewhere kept noDirectory free.here with onward | ⟨target, _, _, isLink, _⟩
    · exact ⟨checked, used, bound, same.workplace ▸ onward⟩
    · exact absurd isLink (free.noLink [name] target)
  · by_cases within : place ++ [name] <+: place ++ more
    · obtain ⟨rest, rfl⟩ := (List.prefix_append_right_inj place).mp within
      cases rest with
      | nil =>
        rw [List.append_nil, isFile] at isLink
        cases isLink
      | cons next rest =>
        rw [List.singleton_append, look_below_file isFile] at isLink
        cases isLink
    · exact free.noLink more target ((same.look within).symm.trans isLink)

end Named

/-! ## Trees with the same directories in a directory -/

/-- A path leads to a directory without links below it in two trees. It can be listed as far in
both, and the directories that are directly in it are the same, with all that is seen below these.
-/
structure SameDirectories (path : Path) (place : List String) (before after : FileTree) : Prop where
  named : before.WellNamed
  named' : after.WellNamed
  free : before.LinkFree path place
  free' : after.LinkFree path place
  listing : after.reading place = before.reading place
  same : ∀ name, before.look (place ++ [name]) = some .directory ∨
      after.look (place ++ [name]) = some .directory →
    ∀ more, after.view (place ++ name :: more) = before.view (place ++ name :: more)

namespace SameDirectories

variable {path : Path} {place : List String} {before after : FileTree}

theorem refl (named : before.WellNamed) (free : before.LinkFree path place) :
    SameDirectories path place before before :=
  ⟨named, named, free, free, rfl, fun _ _ _ => rfl⟩

theorem trans {between : FileTree} (earlier : SameDirectories path place before between)
    (later : SameDirectories path place between after) :
    SameDirectories path place before after := by
  refine ⟨earlier.named, later.named', earlier.free, later.free',
    later.listing.trans earlier.listing, ?_⟩
  rintro name (first | last) more
  · have middle := (look_of_view (earlier.same name (.inl first) [])).trans first
    rw [later.same name (.inl middle), earlier.same name (.inl first)]
  · have middle := (look_of_view (later.same name (.inr last) [])).symm.trans last
    rw [later.same name (.inr last), earlier.same name (.inr middle)]

/-- Trees that look the same have the same directories. -/
theorem of_same (named : before.WellNamed) (free : before.LinkFree path place)
    (same : Same before after) (distinct : after.root.Distinct) :
    SameDirectories path place before after where
  named := named
  named' := ⟨distinct, fun place name => by rw [same.look]; exact named.named place name⟩
  free := free
  free' := by
    have stands : before.look place ≠ none := by
      rw [free.here]
      exact Option.some_ne_none _
    exact free.of_same (free.leads.mono same.keeps stands) fun more => (same.look _).symm
  listing := by
    refine reading_of_view (same.view place) ?_
    rw [same.look, free.here]
    exact Option.some_ne_none _
  same _ _ _ := same.view _

/-- A name under which there is no directory, before and after, can be used otherwise. -/
theorem of_sameBut {name : String} (named : before.WellNamed) (free : before.LinkFree path place)
    (isName : IsEntryName name) (same : SameBut (place ++ [name]) before after)
    (distinct : after.root.Distinct)
    (noDirectory : before.look (place ++ [name]) ≠ some .directory) {bytes : ByteArray}
    (isFile : after.look (place ++ [name]) = some (.file bytes)) :
    SameDirectories path place before after := by
  have noDirectory' : after.look (place ++ [name]) ≠ some .directory := by
    rw [isFile]
    exact nofun
  have free' := free.of_sameBut same noDirectory isFile
  refine ⟨named, named.of_sameBut isName same distinct isFile, free, free', ?_, ?_⟩
  · refine reading_of_view (same.view place (Node.not_prefix_of_directory noDirectory free.here)) ?_
    rw [free'.here]
    exact Option.some_ne_none _
  · intro other isDirectory more
    refine same.view _ fun isPrefix => ?_
    obtain ⟨rest, split⟩ := (List.prefix_append_right_inj place).mp isPrefix
    obtain rfl : name = other := (List.cons.inj split).1
    exact isDirectory.elim noDirectory noDirectory'

/-- A file can be put under a name that nothing has. -/
theorem of_put {name : String} {bytes : ByteArray} (named : before.WellNamed)
    (free : before.LinkFree path place) (isName : IsEntryName name)
    (vacant : before.look (place ++ [name]) = none) :
    SameDirectories path place before (before.withNode (place ++ [name]) (.file bytes)) := by
  refine .of_sameBut named free isName ⟨rfl, fun other => view_withNode before _⟩
    (.set (.of_file List.nodup_nil) _ named.distinct) ?_
    (Node.look_set_self (.file bytes) free.here name)
  rw [vacant]
  exact nofun

end SameDirectories

/-- A name of an entry leads to a directory where one stands under it, if the path can be one. -/
theorem LinkFree.isDirectory_join {tree : FileTree} {path : Path} {place : List String}
    (free : tree.LinkFree path place) {name : String} (isName : IsEntryName name) :
    tree.isDirectory (path.join name) = true ↔
      checkPath (path.join name) = .ok () ∧ tree.look (place ++ [name]) = some .directory := by
  cases checked : checkPath (path.join name) with
  | error fault =>
    rw [FileTree.isDirectory, locate_eq, resolve_of_checkPath checked]
    simp
  | ok _ =>
    have leads := free.join isName checked
    rw [FileTree.isDirectory, locate_eq, leads.resolve_eq, Node.spot, look, Node.look]
    cases tree.root.at? (place ++ [name]) with
    | none => simp
    | some node => simpa using Node.isDirectory_iff

end FileTree

/-! ## What is found and reported -/

section Found

variable {plugins : Path} {place : List String} {before after : FileTree}

/-- Which plugins are found is told by the directories in a directory. -/
theorem Plugin.mem_discover_iff_look {tree : FileTree} (named : tree.WellNamed)
    (free : tree.LinkFree plugins place) {found : List Plugin}
    (ran : discover tree plugins = .ok found) {id : String} :
    id ∈ found.map (·.id) ↔ tree.look (place ++ [id]) = some .directory ∧
      FileTree.checkPath (plugins.join id) = .ok () ∧ isReserved id = false := by
  obtain ⟨entries, located, -⟩ := free.located
  rw [mem_discover_iff named.distinct located ran]
  constructor
  · rintro ⟨stands, isDirectory, notReserved⟩
    obtain ⟨checked, here⟩ := (free.isDirectory_join (named.named _ _ stands)).mp isDirectory
    exact ⟨here, checked, notReserved⟩
  · rintro ⟨here, checked, notReserved⟩
    have stands : tree.look (place ++ [id]) ≠ none := by
      rw [here]
      exact Option.some_ne_none _
    have isDirectory := (free.isDirectory_join (named.named _ _ stands)).mpr ⟨checked, here⟩
    exact ⟨stands, isDirectory, notReserved⟩

namespace FileTree.SameDirectories

variable (same : SameDirectories plugins place before after)

include same

/-- **The same plugins are found** where the directories are the same. -/
theorem discover_eq : Plugin.discover after plugins = Plugin.discover before plugins := by
  obtain ⟨entries, located, -⟩ := same.free.located
  obtain ⟨entries', located', -⟩ := same.free'.located
  cases listed : (before.reading place).fault? with
  | some fault =>
    rw [Plugin.discover_of_fault located listed,
      Plugin.discover_of_fault located' (same.listing ▸ listed)]
  | none =>
  have ran := Plugin.discover_of_located located listed
  have ran' := Plugin.discover_of_located located' (same.listing ▸ listed)
  rw [ran, ran']
  refine congrArg Except.ok (Plugin.discover_ext ran' ran ?_)
  refine List.Perm.eq_of_pairwise (fun _ _ _ _ => String.le_antisymm)
    (Plugin.pairwise_discover ran') (Plugin.pairwise_discover ran) ?_
  refine (List.perm_ext_iff_of_nodup (Plugin.nodup_discover same.named'.distinct ran')
    (Plugin.nodup_discover same.named.distinct ran)).mpr fun id => ?_
  rw [Plugin.mem_discover_iff_look same.named' same.free' ran',
    Plugin.mem_discover_iff_look same.named same.free ran]
  refine and_congr_left fun _ => ⟨fun here => ?_, fun here => ?_⟩
  · exact (FileTree.look_of_view (same.same id (.inr here) [])).symm.trans here
  · exact (FileTree.look_of_view (same.same id (.inl here) [])).trans here

/-- **Each of them has the same report.** -/
theorem validate_eq {found : List Plugin} (ran : Plugin.discover before plugins = .ok found)
    {plugin : Plugin} (among : plugin ∈ found) (rules : Rules) :
    Validator.validate ⟨rules, .standard⟩ after plugin.id plugin.path =
      Validator.validate ⟨rules, .standard⟩ before plugin.id plugin.path := by
  obtain ⟨here, checked, -⟩ := (Plugin.mem_discover_iff_look same.named same.free ran).mp
    (List.mem_map_of_mem among)
  have isName : IsEntryName plugin.id :=
    same.named.named place _ (by rw [here]; exact Option.some_ne_none _)
  have below (more : List String) : before.view (place ++ [plugin.id] ++ more) =
      after.view (place ++ [plugin.id] ++ more) := by
    rw [List.append_assoc]
    exact (same.same plugin.id (.inl here) more).symm
  have free : before.LinkFree plugin.path (place ++ [plugin.id]) := by
    rw [(Plugin.path_of_mem_discover ran among).1]
    refine ⟨same.free.join isName checked, here, fun more target => ?_⟩
    rw [List.append_assoc]
    exact same.free.noLink _ target
  have leads : after.Leads true plugin.path (place ++ [plugin.id]) := by
    rw [(Plugin.path_of_mem_discover ran among).1]
    exact same.free'.join isName checked
  exact (Validator.validate_congr same.named.distinct same.named'.distinct free leads below
    plugin.id).symm

/-- **So the summary of all is the same.** -/
theorem validateAll_eq (rules : Rules) :
    Validator.validateAll ⟨rules, .standard⟩ after plugins =
      Validator.validateAll ⟨rules, .standard⟩ before plugins := by
  rw [CommandLine.validateAll_eq, CommandLine.validateAll_eq, same.discover_eq]
  cases ran : Plugin.discover before plugins with
  | error failure => rfl
  | ok found =>
    exact congrArg Except.ok
      (CommandLine.validateEach_congr fun plugin among => same.validate_eq ran among rules)

end FileTree.SameDirectories

end Found

/-! ## A name behind the path of a directory -/

section Join

variable {path : Path} {name : String}

theorem Path.endsIn_join (written : path.text.toList ≠ []) (isName : IsEntryName name) :
    (path.join name).EndsIn name where
  last := by
    rw [Path.steps_join written isName.noSlash isName.named, List.getLast?_concat, isName.isName]
  noSlash := Path.endsInSlash_join written isName.noSlash isName.named

/-- More behind a name that is joined to a path belongs to the name. -/
theorem Path.extended_join (isName : IsEntryName name) (more : String) :
    (path.join name).extended more = path.join (name ++ more) := by
  obtain ⟨c, rest, split⟩ := List.exists_cons_of_ne_nil isName.named
  have noSlash : c ≠ '/' := by
    rintro rfl
    exact isName.noSlash (by rw [split]; exact List.mem_cons_self)
  have relative : ¬ (name.toList.head? == some '/') = true := by simpa [split] using noSlash
  have relative' : ¬ ((name ++ more).toList.head? == some '/') = true := by
    simpa [split, String.toList_append] using noSlash
  rw [Path.join, Path.join, if_neg relative, if_neg relative']
  split <;> simp [Path.extended, String.append_assoc]

variable {tree : FileTree} {place : List String}

/-- The directory of a registry that is named behind a path is where that path leads. -/
theorem Registry.leads_directoryOf_join (leads : tree.Leads true path place)
    (here : tree.look place = some .directory) (isName : IsEntryName name) :
    tree.Leads true (directoryOf (path.join name)) place := by
  have written := leads.written
  obtain ⟨checked, used, bound, walk⟩ := leads
  obtain ⟨moving, isParent, sub, same⟩ := (Path.endsIn_join written isName).parent?_eq
  rw [Path.steps_join written isName.noSlash isName.named, List.dropLast_concat] at sub same
  rw [Path.isAbsolute_join written isName.noSlash] at isParent
  have steps : (FileTree.pathSteps path).filter (· != .here) =
      Path.rooted path.isAbsolute (moving.filter (· != .here)) := by
    rw [FileTree.pathSteps, List.filter_append, List.filter_append, ← same, Path.rooted]
    cases path.isAbsolute <;> cases path.endsInSlash <;> simp
  obtain ⟨checked', steps'⟩ := directoryOf_moving isParent sub checked
  exact leads_of_moving checked' bound walk here (steps'.trans steps.symm)

end Join

/-! ## Registrations -/

namespace Registry

open FileTree (SameDirectories)

section Beside

variable {plugins : Path} {place : List String} {name : String} {tree : FileTree}
  (named : tree.WellNamed) (free : tree.LinkFree plugins place) (isName : IsEntryName name)

include named free isName

/-- Preparing the lock makes a file at most. -/
theorem prepareLock_sameDirectories (isLock : IsEntryName (name ++ ".lock")) :
    SameDirectories plugins place tree ((prepareLock (plugins.join name)).run tree).2 := by
  rw [run_prepareLock_there (Path.endsIn_join free.leads.written isName)
    (leads_directoryOf_join free.leads free.here isName) free.here]
  rcases openLock_cases (plugins.join name) tree with
    same | ⟨directory, last, leads, -, vacant, put⟩
  · rw [same]
    exact .refl named free
  · rw [lockPath, Path.extended_join isName] at leads
    have isPlace : directory ++ [last] = place ++ [name ++ ".lock"] :=
      leads.unique (free.join isLock leads.1)
    rw [isPlace] at vacant put
    rw [put]
    exact .of_put named free isLock vacant

/-- Saving a registry makes or changes a file at most, or leaves its temporary file behind. -/
theorem save_sameDirectories (registry : Registry) :
    SameDirectories plugins place tree ((save (plugins.join name) registry).run tree).2 := by
  have leads := leads_directoryOf_join free.leads free.here isName
  have distinct := FileTree.distinct_replaceFile (directoryOf (plugins.join name))
    (plugins.join name) registry.fileText.toUTF8 named.distinct
  have isPlace {directory : List String} (ends : tree.Ends (plugins.join name) directory) :
      directory = place := ends.unique (free.leads.ends_join free.here isName ends.checked)
  rw [run_save, FileTree.makeDirectories_there leads free.here]
  dsimp only
  rcases ran : (FileTree.replaceFile (directoryOf (plugins.join name)) (plugins.join name)
    registry.fileText.toUTF8).run tree with ⟨failure | _, after⟩
  · rw [ran] at distinct
    rcases FileTree.replaceFile_failed ran with same | ⟨source, fresh, _, spare, -, rfl⟩
    · exact .of_same named free same distinct
    · obtain rfl := spare.leads.unique leads
      exact .of_put named free spare.isName spare.free
  · rw [ran] at distinct
    obtain ⟨directory, ends, -, replaced⟩ :=
      FileTree.replaceFile_done (Path.endsIn_join free.leads.written isName) ran
    obtain rfl := isPlace ends
    exact .of_sameBut named free isName ⟨replaced.workplace, replaced.elsewhere⟩ distinct
      replaced.noDirectory replaced.look_put

/-- **A registration leaves the directories beside the registry as they are,** whether it succeeds
or not. -/
theorem register_sameDirectories (isLock : IsEntryName (name ++ ".lock")) (id : String)
    (entry : Entry) :
    SameDirectories plugins place tree ((register (plugins.join name) id entry).run tree).2 := by
  have prepared := prepareLock_sameDirectories named free isName isLock
  rw [run_register]
  rcases ran : (prepareLock (plugins.join name)).run tree with ⟨failure | _, between⟩
  · rw [ran] at prepared
    exact prepared
  · rw [ran] at prepared
    dsimp only
    cases load between (plugins.join name) with
    | error failure => exact prepared
    | ok registry =>
      exact prepared.trans (save_sameDirectories prepared.named' prepared.free' isName _)

end Beside

theorem registerEach_sameDirectories {plugins : Path} {place : List String} {name : String}
    (isName : IsEntryName name) (isLock : IsEntryName (name ++ ".lock"))
    (entries : List (String × Entry)) {tree : FileTree} (named : tree.WellNamed)
    (free : tree.LinkFree plugins place) :
    SameDirectories plugins place tree (registerEach (plugins.join name) entries tree) := by
  induction entries generalizing tree with
  | nil => exact .refl named free
  | cons call rest ih =>
    have registered := register_sameDirectories named free isName isLock call.1 call.2
    exact registered.trans (ih registered.named' registered.free')

/-- **Registering keeps validation.** Registrations at the default path of a call, in the
directory of all plugins, leave the plugins that are found there and the whole summary of their
validation as they were if there are no links below that directory: whatever stands under the
names of the registry and of its lock, however many registrations there are and whether they
succeed or not. -/
theorem registering_keeps_validation {call : CommandLine.Call} (byDefault : call.registry = none)
    {tree : FileTree} (named : tree.WellNamed) {place : List String}
    (free : tree.LinkFree call.plugins place) (rules : Rules) (entries : List (String × Entry)) :
    let after := registerEach call.registryPath entries tree
    Plugin.discover after call.plugins = Plugin.discover tree call.plugins ∧
      Validator.validateAll ⟨rules, .standard⟩ after call.plugins =
        Validator.validateAll ⟨rules, .standard⟩ tree call.plugins := by
  have isPath : call.registryPath = call.plugins.join "registry.json" := by
    rw [CommandLine.Call.registryPath, byDefault]
    rfl
  have isName : IsEntryName "registry.json" := by decide +kernel
  have same := registerEach_sameDirectories isName (by decide +kernel) entries named free
  rw [isPath]
  exact ⟨same.discover_eq, same.validateAll_eq rules⟩

/-- A call for the plugins in a directory. -/
def callFor (plugins : Path) : CommandLine.Call where
  command := .validate .all true
  plugins := plugins
  registry := none
  rules := none
  jobs := none
  format := .json
  verbosity := 0

/-- A registry that is made beside two plugins is not found as one, and a plugin with its name is
still found where it keeps the registry from being made. -/
theorem registry_beside_plugins :
    let made := registerEach ⟨"ps/registry.json"⟩ [("a", plainEntry)]
      (.emptyDirectories "ps" ["a", "b"])
    let notMade := registerEach ⟨"ps/registry.json"⟩ [("a", plainEntry)]
      (.emptyDirectories "ps" ["a", "registry.json"])
    made.has ⟨"ps/registry.json"⟩ = true ∧
      Plugin.discover made ⟨"ps"⟩ = .ok [⟨"a", ⟨"ps/a"⟩⟩, ⟨"b", ⟨"ps/b"⟩⟩] ∧
      Plugin.discover notMade ⟨"ps"⟩ =
        .ok [⟨"a", ⟨"ps/a"⟩⟩, ⟨"registry.json", ⟨"ps/registry.json"⟩⟩] := by
  obtain ⟨rules, -, -⟩ := Scan.standard_holds (fun _ => true) (by decide +kernel)
  have free (names : List String) :
      (FileTree.emptyDirectories "ps" names).LinkFree ⟨"ps"⟩ ["ps"] :=
    ⟨(FileTree.locate_ok_iff.mp rfl).1, rfl, fun _ => FileTree.noLinks_emptyDirectories.look _⟩
  have named {names : List String} (nodup : names.Nodup)
      (areNames : ∀ name ∈ names, IsEntryName name) :
      (FileTree.emptyDirectories "ps" names).WellNamed :=
    FileTree.wellNamed_emptyDirectories (by decide +kernel) nodup areNames
  refine ⟨by decide +kernel, ?_, ?_⟩
  · refine (@registering_keeps_validation (callFor ⟨"ps"⟩) rfl _
      (named (by decide) (by decide +kernel)) _ (free _) rules _).1.trans ?_
    exact Plugin.discover_pair rfl rfl (by decide) (by decide) ⟨rfl, rfl⟩
  · refine (@registering_keeps_validation (callFor ⟨"ps"⟩) rfl _
      (named (by decide) (by decide +kernel)) _ (free _) rules _).1.trans ?_
    exact Plugin.discover_pair rfl rfl (by decide) (by decide) ⟨rfl, rfl⟩

end Registry

end PluginAudit
