import PluginAudit.CommandLine.Basic
import PluginAudit.Disk

/-!
# The program on the disk

The program runs on a picture of the disk. A call that changes something runs
once more, on a new picture, while it holds the lock of the registry; so no
call overwrites what another has registered meanwhile.
-/

set_option autoImplicit false

open PluginAudit

/-- Runs the program, and answers its exit status. -/
def main (arguments : List String) : IO UInt32 := do
  let environment ← IO.getEnv CommandLine.environmentName
  let now ← Disk.now
  let run (tree : FileTree) := (CommandLine.run now environment arguments).run tree
  let outcome ← match CommandLine.parse environment arguments with
    | .error _ => pure (run { root := .directory [], workplace := [] }).1
    | .ok call => do
      let before ← Disk.picture call.paths
      let (outcome, after) := run before
      if (FileTree.additions before after).isEmpty then pure outcome
      else
        Disk.holding (Registry.lockPath call.registryPath) do
          let before ← Disk.picture call.paths
          let (outcome, after) := run before
          (FileTree.additions before after).forM Disk.add
          pure outcome
  IO.print outcome.output
  IO.eprint outcome.errors
  return outcome.status.toUInt32
