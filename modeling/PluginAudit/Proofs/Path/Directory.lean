import Mathlib.Data.List.Flatten
import Mathlib.Data.String.Basic
import PluginAudit.Proofs.FileTree.Growth

/-!
# The path of a directory

The path of the directory of a file is made of components and written down
again. Its steps are the components of which it is made
(`pathSteps_ofComponents`), so it goes the way of the longer path but for the
steps that stay where they are (`EndsIn.parent?_eq`). It can be a path where the
longer one can, since it is made of some of its characters
(`checkPath_of_sublist`).
-/

set_option autoImplicit false

namespace PluginAudit.Path

/-! ## Components that are read again -/

/-- A component that is read as itself from its text. -/
structure Component.Plain (component : Component) : Prop where
  again : step component.text = component
  written : component.text.toList ≠ []
  noSlash : '/' ∉ component.text.toList

/-- The text of the step that a part stands for is the part. -/
theorem text_step (part : String) : (step part).text = part := by
  unfold step
  split
  · next same => exact same.symm
  · split
    · next same => exact same.symm
    · rfl

theorem notMem_of_mem_pieces {text piece : List Char} (among : piece ∈ pieces text) :
    '/' ∉ piece := by
  induction text generalizing piece with
  | nil =>
    rw [List.mem_singleton.mp among]
    exact List.not_mem_nil
  | cons c rest ih =>
    rw [pieces] at among
    split at among
    · rcases List.mem_cons.mp among with rfl | among
      · exact List.not_mem_nil
      · exact ih among
    · next notSlash =>
      split at among
      · rw [List.mem_singleton.mp among, List.mem_singleton]
        exact Ne.symm notSlash
      · next first others split =>
        rw [split] at ih
        rcases List.mem_cons.mp among with rfl | among
        · rw [List.mem_cons, not_or]
          exact ⟨Ne.symm notSlash, ih List.mem_cons_self⟩
        · exact ih (List.mem_cons_of_mem _ among)

theorem plain_of_mem_steps {path : Path} {component : Component}
    (among : component ∈ path.steps) : component.Plain := by
  obtain ⟨part, isPart, rfl⟩ := List.mem_map.mp among
  obtain ⟨piece, isPiece, rfl⟩ := List.mem_map.mp isPart
  obtain ⟨isPiece, written⟩ := List.mem_filter.mp isPiece
  refine ⟨by rw [text_step], ?_, ?_⟩
  · rw [text_step, String.toList_ofList]
    simpa using written
  · rw [text_step, String.toList_ofList]
    exact notMem_of_mem_pieces isPiece

/-- The pieces of texts with a slash between them are the texts. -/
theorem pieces_intercalate {texts : List String} (some : texts ≠ [])
    (noSlash : ∀ text ∈ texts, '/' ∉ text.toList) :
    pieces ("/".intercalate texts).toList = texts.map String.toList := by
  rw [String.toList_intercalate, show "/".toList = ['/'] from rfl]
  induction texts with
  | nil => exact absurd rfl some
  | cons first rest ih =>
    have here := noSlash first List.mem_cons_self
    cases rest with
    | nil => simpa using pieces_of_no_slash here
    | cons second rest =>
      rw [List.map_cons, List.map_cons, List.intercalate_cons_cons, List.append_assoc,
        List.singleton_append, pieces_append_slash, pieces_of_no_slash here, ← List.map_cons,
        ih (by simp) fun text among => noSlash text (List.mem_cons_of_mem _ among)]
      rfl

theorem endsInSlash_of_pieces {path : Path} {last : List Char}
    (isLast : (pieces path.text.toList).getLast? = some last) (written : last ≠ []) :
    path.endsInSlash = false := by
  rw [endsInSlash, beq_eq_false_iff_ne]
  intro slash
  obtain ⟨front, split⟩ := List.getLast?_eq_some_iff.mp slash
  rw [split, pieces_append_slash, pieces, List.getLast?_concat] at isLast
  exact written (Option.some.inj isLast).symm

/-- A path starts at the root where its first piece is empty and others follow. -/
theorem isAbsolute_of_pieces {path : Path} {first : List Char} {others : List (List Char)}
    (split : pieces path.text.toList = first :: others) :
    path.isAbsolute = true ↔ first = [] ∧ others ≠ [] := by
  rw [isAbsolute]
  cases chars : path.text.toList with
  | nil =>
    rw [chars, pieces] at split
    simp [(List.cons.inj split).2.symm]
  | cons c rest =>
    obtain ⟨init, last, whole, -⟩ := pieces_append [] (by simp) rest
    rw [chars, pieces, whole] at split
    by_cases slash : c = '/'
    · rw [if_pos slash] at split
      obtain ⟨rfl, rfl⟩ := List.cons.inj split
      simp [slash]
    · rw [if_neg slash] at split
      cases init <;> (obtain ⟨rfl, rfl⟩ := List.cons.inj split; simp [slash])

/-! ## The path of components -/

/-- The components of an absolute or a relative path. -/
def rooted (absolute : Bool) (moving : List Component) : List Component :=
  if absolute then .root :: moving else moving

section OfComponents

variable {moving : List Component} (plain : ∀ component ∈ moving, component.Plain)
  (absolute : Bool)

include plain

/-- The pieces of a path that is made of plain components are their texts. -/
theorem pieces_ofComponents (some : moving ≠ []) :
    pieces (ofComponents (rooted absolute moving)).text.toList =
      (if absolute then [[]] else []) ++ moving.map fun component => component.text.toList := by
  have text : (ofComponents (rooted absolute moving)).text =
      "/".intercalate ((rooted absolute moving).map Component.text) := by
    unfold ofComponents
    split
    · next alone =>
      cases absolute with
      | true => exact absurd (List.cons.inj alone).2 some
      | false =>
        obtain rfl : moving = [.root] := alone
        exact absurd (plain .root List.mem_cons_self).written (by decide)
    · rfl
  have noSlash : ∀ text ∈ (rooted absolute moving).map Component.text, '/' ∉ text.toList := by
    intro text among
    obtain ⟨component, isOne, rfl⟩ := List.mem_map.mp among
    cases absolute with
    | false => exact (plain component isOne).noSlash
    | true =>
      rcases List.mem_cons.mp isOne with rfl | isOne
      · exact List.not_mem_nil
      · exact (plain component isOne).noSlash
  rw [text, pieces_intercalate _ noSlash]
  · cases absolute <;> simp [rooted, Component.text]
  · cases absolute <;> simp [rooted, some]

/-- The components of which a path is made are the steps along it. -/
theorem pathSteps_ofComponents (some : moving ≠ []) :
    FileTree.pathSteps (ofComponents (rooted absolute moving)) = rooted absolute moving := by
  have split := pieces_ofComponents plain absolute some
  generalize ofComponents (rooted absolute moving) = path at split
  have written : (moving.map fun component => component.text.toList).filter
      (fun piece => !piece.isEmpty) = moving.map fun component => component.text.toList := by
    refine List.filter_eq_self.mpr fun piece among => ?_
    obtain ⟨component, isOne, rfl⟩ := List.mem_map.mp among
    simpa using (plain component isOne).written
  have parts : path.parts = moving.map Component.text := by
    rw [Path.parts, split, List.filter_append, written]
    cases absolute <;> simp
  have steps : path.steps = moving := by
    rw [Path.steps, parts, List.map_map]
    exact (List.map_congr_left fun component isOne => (plain component isOne).again).trans
      (List.map_id _)
  have slash : path.endsInSlash = false := by
    obtain ⟨init, last, rfl⟩ := (List.eq_nil_or_concat moving).resolve_left some
    refine endsInSlash_of_pieces ?_ (plain last (by simp)).written
    rw [split, List.concat_eq_append, List.map_append, ← List.append_assoc]
    exact List.getLast?_concat
  have root : path.isAbsolute = absolute := by
    obtain ⟨first, rest, rfl⟩ := List.exists_cons_of_ne_nil some
    rw [Bool.eq_iff_iff]
    cases absolute with
    | true => simpa using isAbsolute_of_pieces split
    | false =>
      rw [isAbsolute_of_pieces split]
      simp [(plain first List.mem_cons_self).written]
  rw [FileTree.pathSteps, root, steps, slash]
  cases absolute <;> simp [rooted]

end OfComponents

/-! ## What can be a path -/

theorem checkPath_ok_iff {path : Path} :
    FileTree.checkPath path = .ok () ↔
      '\x00' ∉ path.text.toList ∧ path.text.toList ≠ [] ∧
        String.utf8Len path.text.toList ≤ FileTree.pathLimit := by
  have size : path.text.utf8ByteSize = String.utf8Len path.text.toList := by
    conv_lhs => rw [← String.ofList_toList (s := path.text)]
    exact String.utf8ByteSize_ofList _
  have written : path.text.isEmpty = path.text.toList.isEmpty := by
    rw [Bool.eq_iff_iff]
    simp [String.isEmpty_iff]
  rw [FileTree.checkPath, size, written, List.contains_eq_mem]
  split
  · next nul => exact iff_of_false (by simp) fun can => can.1 (by simpa using nul)
  · next free =>
    split
    · next empty => exact iff_of_false (by simp) fun can => can.2.1 (by simpa using empty)
    · next some =>
      split
      · next long => exact iff_of_false (by simp) fun can => absurd can.2.2 (by omega)
      · next short =>
        exact iff_of_true rfl ⟨by simpa using free, by simpa using some, by omega⟩

/-- The pieces with a slash behind each are the text with a slash behind it. -/
theorem flatMap_pieces (text : List Char) :
    (pieces text).flatMap (· ++ ['/']) = text ++ ['/'] := by
  induction text with
  | nil => rfl
  | cons c rest ih =>
    obtain ⟨init, last, whole, -⟩ := pieces_append [] (by simp) rest
    rw [whole] at ih
    rw [pieces, whole]
    by_cases slash : c = '/'
    · rw [if_pos slash, List.flatMap_cons, ih, slash]
      rfl
    · rw [if_neg slash]
      cases init <;> simpa using ih

theorem utf8Len_le_of_sublist {first second : List Char} (sub : first.Sublist second) :
    String.utf8Len first ≤ String.utf8Len second := by
  induction sub with
  | slnil => exact Nat.le_refl _
  | cons c _ ih => exact Nat.le_trans ih (Nat.le_add_right _ _)
  | cons_cons c _ ih => exact Nat.add_le_add_right ih _

/-- **A text made of some of the characters of a path can be a path too.** -/
theorem checkPath_of_sublist {path other : Path}
    (some : other.text.toList.Sublist path.text.toList) (written : other.text.toList ≠ [])
    (checked : FileTree.checkPath path = .ok ()) : FileTree.checkPath other = .ok () := by
  obtain ⟨free, -, short⟩ := checkPath_ok_iff.mp checked
  exact checkPath_ok_iff.mpr
    ⟨fun nul => free (some.subset nul), written, Nat.le_trans (utf8Len_le_of_sublist some) short⟩

/-- A text made of some of the pieces of another is made of some of its characters. -/
theorem sublist_of_pieces {first second : List Char}
    (some : (pieces first).Sublist (pieces second)) : first.Sublist second := by
  have within := some.flatMap (· ++ ['/'])
  rwa [flatMap_pieces, flatMap_pieces, List.append_sublist_append_right] at within

/-! ## The directory of a name -/

section Parent

variable {path : Path} {name : String}

/-- The components of the path without its last name are some of the steps before that name: those
that move, and possibly one at the start that does not. -/
theorem EndsIn.parent?_eq (named : path.EndsIn name) :
    ∃ moving, path.parent? = some (ofComponents (rooted path.isAbsolute moving)) ∧
      moving.Sublist path.steps.dropLast ∧
        moving.filter (· != .here) = path.steps.dropLast.filter (· != .here) := by
  have whole := path.components_eq
  have steps := named.steps_eq
  generalize path.steps.dropLast = init at steps ⊢
  have moves : path.steps.filter (· != .here) = init.filter (· != .here) ++ [.name name] := by
    rw [steps, List.filter_append]
    rfl
  rw [moves, ← List.append_assoc] at whole
  have parent : path.parent? =
      some (ofComponents (origin path.isAbsolute path.steps ++ init.filter (· != .here))) := by
    simp [parent?, whole]
  cases absolute : path.isAbsolute with
  | true =>
    rw [absolute] at parent
    exact ⟨init.filter (· != .here), parent, List.filter_sublist, by simp⟩
  | false =>
    rw [absolute, steps] at parent
    cases init with
    | nil => exact ⟨[], parent, .slnil, rfl⟩
    | cons first rest =>
      by_cases stays : first = .here
      · subst stays
        exact
          ⟨.here :: rest.filter (· != .here), parent, List.filter_sublist.cons_cons _, by simp⟩
      · refine ⟨(first :: rest).filter (· != .here), ?_, List.filter_sublist, by simp⟩
        rw [parent]
        simp [origin, rooted, stays]

/-- **The directory of a path can be a path,** when it is written at all, and its steps are those
of its components. -/
theorem directory_of_sublist {moving : List Component} (sub : moving.Sublist path.steps)
    (some : moving ≠ []) (checked : FileTree.checkPath path = .ok ()) :
    FileTree.checkPath (ofComponents (rooted path.isAbsolute moving)) = .ok () ∧
      FileTree.pathSteps (ofComponents (rooted path.isAbsolute moving)) =
        rooted path.isAbsolute moving := by
  have plain : ∀ component ∈ moving, component.Plain :=
    fun component isOne => plain_of_mem_steps (sub.subset isOne)
  have split := pieces_ofComponents plain path.isAbsolute some
  refine ⟨checkPath_of_sublist (sublist_of_pieces ?_) ?_ checked,
    pathSteps_ofComponents plain path.isAbsolute some⟩
  · have texts : path.steps.map (fun component => component.text.toList) =
        (pieces path.text.toList).filter fun piece => !piece.isEmpty := by
      simp [steps, parts, Function.comp_def, text_step]
    have among := sub.map fun component => component.text.toList
    rw [texts] at among
    rw [split]
    cases absolute : path.isAbsolute with
    | false => simpa using among.trans List.filter_sublist
    | true =>
      obtain ⟨first, others, whole⟩ :
          ∃ first others, pieces path.text.toList = first :: others := by
        obtain ⟨init, last, whole, -⟩ := pieces_append [] (by simp) path.text.toList
        cases init <;> exact ⟨_, _, whole⟩
      obtain ⟨rfl, -⟩ := (isAbsolute_of_pieces whole).mp absolute
      rw [whole, List.filter_cons_of_neg (by simp)] at among
      rw [whole]
      exact (among.trans List.filter_sublist).cons_cons []
  · intro empty
    obtain ⟨first, rest, rfl⟩ := List.exists_cons_of_ne_nil some
    have written := (plain first List.mem_cons_self).written
    rw [empty] at split
    cases absolute : path.isAbsolute <;> simp_all [pieces]

end Parent

end PluginAudit.Path
