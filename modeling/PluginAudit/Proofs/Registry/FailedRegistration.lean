import PluginAudit.Proofs.FileTree.Overwriting
import PluginAudit.Proofs.Registry.Persistence

/-!
# Registrations that fail

A registration that fails has changed nothing that stood before, wherever it
stopped: all it may leave behind is the lock file, empty, and directories that
were missing on the way to the registry (`failed_registration_only_adds`). The
temporary file is removed again, whether it could not be written, not be brought
to the disk or not be moved, unless the file system refuses that too. The lock
is free again. What stands at the path of the registry and is none makes a
registration fail, and so it is never replaced.

What is added may stand at the registry's own path, though: a link under the
lock's name can lead there, and then opening the lock makes an empty registry
that cannot be read (`lock_may_stand_at_the_registry`).
-/

set_option autoImplicit false

namespace PluginAudit.Registry

open PluginAudit.FileTree (Node Keeps)

section Failing

variable {path : Path} {id : String} {entry : Entry} {before after : FileTree}

/-- A registration that fails keeps the tree, and adds directories and the lock file at most, and
a temporary file that cannot be removed. -/
theorem register_failed {name : String} (named : path.EndsIn name) {failure : Failure}
    (ran : (register path id entry).run before = (.error failure, after)) :
    LeftBehind path before after := by
  obtain ⟨prepared, -⟩ := prepareLock_prepared named before
  rcases register_failed_cases ran with rfl | ⟨registry, saved⟩
  · exact .of_prepared prepared
  · exact (save_failed saved).after_prepared prepared

/-- What is loaded is told by what is read. -/
theorem load_congr {tree other : FileTree} (same : tree.readText path = other.readText path) :
    load tree path = load other path := by
  rw [load, same, ← load]

/-- **What stands at the path of a registry and is none makes a registration fail.** -/
theorem register_refuses {place : List String} (leads : before.Leads true path place)
    (stands : before.look place ≠ none) (noRegistry : ∀ registry, load before path ≠ .ok registry)
    (id : String) (entry : Entry) :
    ∃ failure, ((register path id entry).run before).1 = .error failure := by
  rcases ran : (register path id entry).run before with ⟨failure | _, after⟩
  · exact ⟨failure, rfl⟩
  · obtain ⟨between, registry, prepared, loaded, -⟩ := register_saved ran
    have keeps := prepareLock_keeps path before
    rw [prepared] at keeps
    rw [load_congr (leads.readText_mono keeps stands)] at loaded
    exact absurd loaded (noRegistry registry)

end Failing

/-- **A failed registration only adds.** Everything that stood anywhere in the tree stands there
as before, at the path of the registry as elsewhere, and texts that could be read still can. What
is new is a directory to which the directory of the registry or one above it leads, or the empty
file to which the path of the lock leads; no temporary file remains, but for one in the directory
of the registry that the file system refuses to remove. Run under the lock, the registration fails
in the same way and leaves the same locks held as before. What stands at the path of the registry
and is none always makes it fail. -/
theorem failed_registration_only_adds {path : Path} {name : String} (named : path.EndsIn name)
    (id : String) (entry : Entry) (before : FileTree) (locked : List (List String)) :
    (∀ failure, ((register path id entry).run before).1 = .error failure →
      ∃ after, (register path id entry).run before = (.error failure, after) ∧
        (registerLocked path id entry).run ⟨before, locked⟩ = (.error failure, ⟨after, locked⟩) ∧
        Keeps before after ∧
        (∀ other text, before.readText other = .ok text → after.readText other = .ok text) ∧
        ∀ place shape, before.look place = none → after.look place = some shape →
          (shape = .directory ∧
              ∃ above, (directoryOf path).UpTo above ∧ after.Leads true above place) ∨
            (shape = .file ByteArray.empty ∧ after.Leads true (lockPath path) place) ∨
            ∃ directory fresh bytes, place = directory ++ [fresh] ∧ shape = .file bytes ∧
              after.Leads true (directoryOf path) directory ∧ path.fileName? ≠ some fresh ∧
              before.refuses .remove place ≠ none) ∧
      ∀ place, before.Leads true path place → before.look place ≠ none →
        (∀ registry, load before path ≠ .ok registry) →
          ∃ failure, ((register path id entry).run before).1 = .error failure := by
  refine ⟨fun failure failed => ?_, fun place leads stands noRegistry =>
    register_refuses leads stands noRegistry id entry⟩
  have ran : (register path id entry).run before =
      (.error failure, ((register path id entry).run before).2) := Prod.ext failed rfl
  have left := register_failed named ran
  refine ⟨_, ran, ?_, left.keeps, fun other text => left.keeps.readText, left.new⟩
  rw [run_registerLocked named, failed]

/-- A tree with a document that is no registry at `a/reg.json`. -/
def brokenRegistry : FileTree where
  root := .directory [("a", .directory [("reg.json", .file "[]".toUTF8)])]
  workplace := []

/-- A tree with a registry at `a/reg.json`, on a disk that is full. -/
def fullDisk : FileTree where
  root := .directory [("a", .directory [("reg.json", .file "\x7b\x7d".toUTF8)])]
  workplace := []
  refuses deed _ := if deed = .write then some .noSpace else none

/-- An entry without metadata. -/
def plainEntry : Entry := ⟨[], true, ⟨0, 0⟩⟩

/-- A document that is no registry makes registering fail and remains. A full disk makes it fail
as well: the registry remains, and nothing is new but the lock. -/
theorem registries_remain :
    (∃ failure after, (register ⟨"a/reg.json"⟩ "p" plainEntry).run brokenRegistry =
        (.error failure, after) ∧
      brokenRegistry.readText ⟨"a/reg.json"⟩ = .ok "[]" ∧
      after.readText ⟨"a/reg.json"⟩ = .ok "[]") ∧
    ∃ after, (register ⟨"a/reg.json"⟩ "p" plainEntry).run fullDisk =
        (.error (.registry "a/reg.json"
          ("failed to write temp registry: No space left on device (os error 28)" ++
            " at path \"/a/.tmpaapppp\"")), after) ∧
      after.readText ⟨"a/reg.json"⟩ = .ok "\x7b\x7d" ∧
      ∀ place shape, fullDisk.look place = none → after.look place = some shape →
        shape = .directory ∨ after.Leads true ⟨"a/reg.json.lock"⟩ place := by
  have named : Path.EndsIn ⟨"a/reg.json"⟩ "reg.json" := ⟨by decide +kernel, by decide +kernel⟩
  constructor
  · obtain ⟨leaves, refuses⟩ :=
      failed_registration_only_adds named "p" plainEntry brokenRegistry []
    have readable : brokenRegistry.readText ⟨"a/reg.json"⟩ = .ok "[]" := by decide +kernel
    have noRegistry : ∀ registry, load brokenRegistry ⟨"a/reg.json"⟩ ≠ .ok registry := by
      intro registry loaded
      rw [load_of_readText readable] at loaded
      cases loaded
    obtain ⟨place, bytes, leads, stands, -⟩ := FileTree.readText_ok_iff.mp readable
    obtain ⟨failure, failed⟩ := refuses place leads (by rw [stands]; simp) noRegistry
    obtain ⟨after, ran, -, -, texts, -⟩ := leaves failure failed
    exact ⟨failure, after, ran, readable, texts _ _ readable⟩
  · obtain ⟨leaves, -⟩ := failed_registration_only_adds named "p" plainEntry fullDisk []
    have fails : ((register ⟨"a/reg.json"⟩ "p" plainEntry).run fullDisk).1 = .error (.registry
        "a/reg.json" ("failed to write temp registry: No space left on device (os error 28)" ++
          " at path \"/a/.tmpaapppp\"")) := by
      decide +kernel
    obtain ⟨after, ran, -, -, texts, new⟩ := leaves _ fails
    refine ⟨after, ran, texts _ _ (by decide +kernel), fun place shape missing stands => ?_⟩
    rcases new place shape missing stands with
      ⟨isDirectory, -⟩ | ⟨-, leads⟩ | ⟨_, _, _, _, _, _, _, stuck⟩
    · exact .inl isDirectory
    · exact .inr leads
    · exact absurd rfl stuck

/-! ## What may be left -/

/-- A tree in which a link under the name of the lock leads to a registry that is missing. -/
def lockLinked : FileTree where
  root := .directory [("reg.json.lock", .link "reg.json")]
  workplace := []

/-- **A failed registration may leave a file at the path of the registry** where nothing stood:
the lock is opened through a link to it, and the empty file is no registry. -/
theorem lock_may_stand_at_the_registry :
    ∃ failure after, (register ⟨"reg.json"⟩ "p" plainEntry).run lockLinked =
        (.error failure, after) ∧
      lockLinked.look ["reg.json"] = none ∧
      after.look ["reg.json"] = some (.file ByteArray.empty) := by
  have left : ((register ⟨"reg.json"⟩ "p" plainEntry).run lockLinked).2.look ["reg.json"] =
      some (.file ByteArray.empty) := by decide +kernel
  have fails : ((register ⟨"reg.json"⟩ "p" plainEntry).run lockLinked).1.toOption = none := by
    decide +kernel
  rcases ran : (register ⟨"reg.json"⟩ "p" plainEntry).run lockLinked with ⟨failure | _, after⟩
  · rw [ran] at left
    exact ⟨failure, after, rfl, by decide +kernel, left⟩
  · rw [ran] at fails
    cases fails

/-- A tree in which names can be added to directories but neither be given to other files nor
removed. -/
def appendOnly : FileTree where
  root := .directory []
  workplace := []
  refuses deed _ := if deed = .replace ∨ deed = .remove then some .notPermitted else none

/-- **A failed registration may leave its temporary file,** where this cannot be removed. -/
theorem temporary_file_may_remain :
    ∃ failure after place, (register ⟨"reg.json"⟩ "p" plainEntry).run appendOnly =
        (.error failure, after) ∧
      appendOnly.look place = none ∧ place ≠ ["reg.json.lock"] ∧
      after.look place = some (.file (Registry.insert {} "p" plainEntry).fileText.toUTF8) := by
  have left : ((register ⟨"reg.json"⟩ "p" plainEntry).run appendOnly).2.look
      [FileTree.firstName] =
      some (.file (Registry.insert {} "p" plainEntry).fileText.toUTF8) := by decide +kernel
  have fails : ((register ⟨"reg.json"⟩ "p" plainEntry).run appendOnly).1.toOption = none := by
    decide +kernel
  rcases ran : (register ⟨"reg.json"⟩ "p" plainEntry).run appendOnly with ⟨failure | _, after⟩
  · rw [ran] at left
    exact ⟨failure, after, _, rfl, by decide +kernel, by decide +kernel, left⟩
  · rw [ran] at fails
    cases fails

/-- **Not everything that a failed registration may leave is the lock or a missing directory:** it
may be a file at the registry's own path, or a temporary file. -/
theorem failed_registration_may_leave_files :
    (∃ failure after, (register ⟨"reg.json"⟩ "p" plainEntry).run lockLinked =
        (.error failure, after) ∧
      lockLinked.look ["reg.json"] = none ∧
      after.look ["reg.json"] = some (.file ByteArray.empty)) ∧
    ∃ failure after place, (register ⟨"reg.json"⟩ "p" plainEntry).run appendOnly =
        (.error failure, after) ∧
      appendOnly.look place = none ∧ place ≠ ["reg.json.lock"] ∧
      after.look place = some (.file (Registry.insert {} "p" plainEntry).fileText.toUTF8) :=
  ⟨lock_may_stand_at_the_registry, temporary_file_may_remain⟩

end PluginAudit.Registry
