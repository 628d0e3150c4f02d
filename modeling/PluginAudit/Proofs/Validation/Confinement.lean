import PluginAudit.Proofs.Path
import PluginAudit.Validation

/-!
# Ids stay in the directory of all plugins

An id that is accepted is a single name (`isName_iff_single`): it does not start
at the root, it does not step upwards, and nothing in it separates names. So the
path of the id is the path of the directory of all plugins with one more name,
whatever that path looks like (`components_join`), and the path tells the id
again (`pathOfId_stays_inside`).
-/

set_option autoImplicit false

namespace PluginAudit

/-- **A name behind a path is one more component,** also behind a path that is not written, that
ends in a slash or that goes nowhere. -/
theorem Path.components_join (path : Path) {name : String} (noSlash : '/' ∉ name.toList)
    (isName : step name = .name name) (named : name.toList ≠ []) :
    (path.join name).components = path.components ++ [.name name] := by
  by_cases written : path.text.toList = []
  · -- A path that is not written adds nothing, not even a slash.
    obtain ⟨text⟩ := path
    obtain rfl : text = "" := String.toList_eq_nil_iff.mp written
    have alone : (Path.join ⟨""⟩ name) = ⟨name⟩ := by
      have relative : ¬ name.toList.head? = some '/' := fun first =>
        noSlash (List.mem_of_head? first)
      simp [join, relative]
    have relative : (⟨name⟩ : Path).isAbsolute = false := by
      simpa [isAbsolute] using fun first => noSlash (List.mem_of_head? first)
    have single : (⟨name⟩ : Path).steps = [.name name] := by
      simp [steps, parts, pieces_of_no_slash noSlash, named, isName]
    rw [alone, components_eq, single, relative]
    rfl
  · have steps := steps_join written noSlash named
    have origins : origin path.isAbsolute (path.steps ++ [.name name]) =
        origin path.isAbsolute path.steps := by
      cases path.steps <;> simp [origin]
    rw [components_eq, components_eq, isAbsolute_join written noSlash, steps, isName, origins,
      List.filter_append, List.append_assoc]
    rfl

namespace Plugin

/-- An id is the name of a single directory if it is written, no special step and without
separators. -/
theorem isName_iff_single {id : String} :
    isName id = true ↔
      id ≠ "" ∧ id ≠ "." ∧ id ≠ ".." ∧ '/' ∉ id.toList ∧ '\\' ∉ id.toList := by
  simp [isName, and_assoc]

/-- An id that is accepted is one step of a path, which leads to the name. -/
theorem step_of_isName {id : String} (accepted : isName id = true) : Path.step id = .name id := by
  obtain ⟨-, notHere, notUp, -⟩ := isName_iff_single.mp accepted
  rw [Path.step, if_neg notHere, if_neg notUp]

theorem pathOfId_ok_iff {plugins path : Path} {id : String} :
    pathOfId plugins id = .ok path ↔ isName id = true ∧ path = plugins.join id := by
  rw [pathOfId]
  cases isName id with
  | false => exact ⟨nofun, fun accepted => nomatch accepted.1⟩
  | true => exact ⟨fun found => ⟨rfl, (Except.ok.inj found).symm⟩,
      fun same => congrArg _ same.2.symm⟩

/-- **No id leads out of the directory of all plugins.** An id has a path exactly if it is
written, is no step to the same directory or upwards, and holds no separator. The components of
the path are then those of the directory of all plugins and the id as a name, and the path tells
the id in every file tree. -/
theorem pathOfId_stays_inside (plugins : Path) (id : String) :
    ((∃ path, pathOfId plugins id = .ok path) ↔
      id ≠ "" ∧ id ≠ "." ∧ id ≠ ".." ∧ '/' ∉ id.toList ∧ '\\' ∉ id.toList) ∧
    ∀ path, pathOfId plugins id = .ok path →
      path.components = plugins.components ++ [.name id] ∧ ∀ tree, idOfPath tree path = id := by
  refine ⟨by simp [pathOfId_ok_iff, ← isName_iff_single], fun path found => ?_⟩
  obtain ⟨accepted, rfl⟩ := pathOfId_ok_iff.mp found
  obtain ⟨written, -, -, noSlash, -⟩ := isName_iff_single.mp accepted
  have components := plugins.components_join noSlash (step_of_isName accepted)
    (String.toList_eq_nil_iff.not.mpr written)
  refine ⟨components, fun tree => ?_⟩
  have name : (plugins.join id).fileName? = some id := by
    rw [Path.fileName?, components, List.getLast?_concat]
  rw [idOfPath, name]

/-- An id in a directory that is reached upwards and written with a slash behind it. -/
theorem pathOfId_beside :
    pathOfId ⟨"../ps/./"⟩ "..." = .ok ⟨"../ps/./..."⟩ ∧
      (⟨"../ps/./..."⟩ : Path).components = [.up, .name "ps", .name "..."] ∧
      ∀ tree, idOfPath tree ⟨"../ps/./..."⟩ = "..." := by
  have found : pathOfId ⟨"../ps/./"⟩ "..." = .ok ⟨"../ps/./..."⟩ := by decide +kernel
  obtain ⟨components, told⟩ := (pathOfId_stays_inside ⟨"../ps/./"⟩ "...").2 _ found
  exact ⟨found, components.trans (by decide +kernel), told⟩

end Plugin

end PluginAudit
