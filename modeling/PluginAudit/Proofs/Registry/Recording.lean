import PluginAudit.Proofs.FileTree.Lexical
import PluginAudit.Proofs.Registry.Concurrency
import PluginAudit.Proofs.Registry.Resaving

/-!
# What registrations record

Where there are no links, a registration that succeeds changes what stands at
the place of the registry's path, and nothing else that was there
(`register_records`). Registrations one after the other record what they do in
turn (`Records.append`).

What is recorded last is the registry before them with all entries put into it,
if nothing is lost when a registry is loaded again for the next entry
(`registerInTurn_orderly`).
-/

set_option autoImplicit false

namespace PluginAudit.Registry

open PluginAudit.FileTree (Node Keeps KeepsBut Ends textOf)

/-! ## One registration -/

section Place

variable {path : Path} {name : String} {before after : FileTree}

theorem Prepared.noLinks (prepared : Prepared path before after) (noLinks : before.root.NoLinks) :
    after.root.NoLinks := by
  refine .of_look fun place target isLink => ?_
  cases stood : before.look place with
  | none =>
    rcases prepared.new place _ stood isLink with ⟨isDirectory, -⟩ | ⟨isFile, -⟩
    · cases isDirectory
    · cases isFile
  | some shape =>
    have stands := prepared.keeps.look place shape stood
    obtain rfl : shape = .link target := Option.some.inj (stands.symm.trans isLink)
    exact noLinks.look place target stood

/-- The lock is not at the place of the registry. -/
theorem placeOf_lockPath_ne (tree : FileTree) (named : path.EndsIn name) :
    tree.placeOf (lockPath path) ≠ tree.placeOf path := by
  have last : (lockPath path).steps.getLast? = some (.name (name ++ ".lock")) := by
    rw [steps_lockPath named, List.getLast?_concat]
  rw [tree.placeOf_of_last last, tree.placeOf_of_last named.last, directorySteps_lockPath named]
  simp

/-- Preparing to register leaves the place of the registry as it is, unless a directory is made
there. -/
theorem Prepared.view_place (prepared : Prepared path before after) (named : path.EndsIn name)
    (noLinks : before.root.NoLinks) :
    after.view (before.placeOf path) = before.view (before.placeOf path) ∨
      after.look (before.placeOf path) = some .directory := by
  cases stood : before.look (before.placeOf path) with
  | some shape =>
    have seen := FileTree.view_of_look stood
    exact .inl ((prepared.keeps.view _ _ seen).trans seen.symm)
  | none =>
    cases stands : after.look (before.placeOf path) with
    | none =>
      exact .inl ((FileTree.view_eq_none.mpr stands).trans (FileTree.view_eq_none.mpr stood).symm)
    | some shape =>
      rcases prepared.new _ shape stood stands with ⟨rfl, -⟩ | ⟨-, leads⟩
      · exact .inr rfl
      · have isLock := leads.eq_placeOf (prepared.noLinks noLinks)
        rw [← FileTree.placeOf_eq prepared.keeps.workplace path] at isLock
        exact absurd isLock.symm (placeOf_lockPath_ne after named)

/-- What is read at the path of a registry is what is seen at its place. -/
theorem readText_eq_textOf {tree : FileTree} {directory : List String} (noLinks : tree.root.NoLinks)
    (ends : tree.Ends path directory) (named : path.EndsIn name)
    (short : name.utf8ByteSize ≤ FileTree.nameLimit) :
    tree.readText path = textOf (tree.view (tree.placeOf path)) := by
  rw [ends.placeOf_eq noLinks named]
  exact (ends.leads named short (noLinks.look _) true).readText_eq

end Place

/-- What registrations have done to a tree: at the place of the registry's path stands what they
leave in turn, and nothing else that was there has changed. -/
structure Records (path : Path) (calls : List (String × Entry)) (before after : FileTree) :
    Prop where
  inTurn : registerInTurn (textOf (before.view (before.placeOf path))) calls =
    some (textOf (after.view (before.placeOf path)))
  keeps : KeepsBut (before.placeOf path) before after
  noLinks : after.root.NoLinks
  noDirectory : after.look (before.placeOf path) ≠ some .directory
  read : calls = [] ∧ after = before ∨
    after.readText path = textOf (after.view (before.placeOf path))

section Records

variable {path : Path} {before after : FileTree}

theorem Records.refl (path : Path) (noLinks : before.root.NoLinks)
    (noDirectory : before.look (before.placeOf path) ≠ some .directory) :
    Records path [] before before where
  inTurn := rfl
  keeps := .refl _ before
  noLinks := noLinks
  noDirectory := noDirectory
  read := .inl ⟨rfl, rfl⟩

/-- **What a registration records:** the registry that is there, with the entry. -/
theorem register_records {id : String} {entry : Entry} (noLinks : before.root.NoLinks)
    (ran : (register path id entry).run before = (.ok (), after)) :
    Records path [(id, entry)] before after := by
  obtain ⟨between, registry, locked, loaded, saved⟩ := register_saved ran
  obtain ⟨name, named⟩ := save_named saved
  have prepared := (prepareLock_prepared named before).1
  rw [locked] at prepared
  obtain ⟨directory, ends⟩ := ends_of_prepareLock named locked
  obtain ⟨middle, made, short, replaced⟩ := save_replaces ends named saved
  have noLinksBetween := prepared.noLinks noLinks
  have noLinksMiddle := (Prepared.of_directories made).noLinks noLinksBetween
  have isPlace : before.placeOf path = directory ++ [name] := by
    rw [← FileTree.placeOf_eq prepared.keeps.workplace, ends.placeOf_eq noLinksBetween named]
  -- What is loaded stood at the place before the lock was prepared.
  have read := readText_eq_textOf noLinksBetween ends named short
  rw [FileTree.placeOf_eq prepared.keeps.workplace] at read
  have found : registryOf (textOf (between.view (before.placeOf path))) = some registry := by
    rw [← read, ← toOption_load, loaded]
    rfl
  have stood : between.view (before.placeOf path) = before.view (before.placeOf path) := by
    refine (prepared.view_place named noLinks).resolve_right fun isDirectory => ?_
    obtain ⟨fault, unread, other⟩ := FileTree.textOf_directory isDirectory
    rw [unread, registryOf, if_neg other] at found
    cases found
  have put : after.view (before.placeOf path) =
      some (.file (registry.insert id entry).fileText.toUTF8, .whole) := isPlace ▸ replaced.put
  have isText : textOf (after.view (before.placeOf path)) =
      .ok (registry.insert id entry).fileText := by
    rw [put]
    exact FileTree.text_toUTF8 _
  refine ⟨?_, ⟨?_, ?_⟩, replaced.noLinks noLinksMiddle, ?_, .inr ?_⟩
  · rw [isText, ← stood]
    rw [registerInTurn_cons, registerOnce, found]
    rfl
  · rw [replaced.workplace, made.keeps.workplace, prepared.keeps.workplace]
  · intro other seen apart stands
    rw [replaced.elsewhere other (isPlace ▸ apart)]
    exact made.keeps.view _ _ (prepared.keeps.view _ _ stands)
  · rw [(FileTree.view_eq_some.mp put).1]
    rintro ⟨⟩
  · rw [isText]
    exact readText_of_save loaded ends named saved

/-- **Registrations record what they do in turn.** -/
theorem Records.cons {call : String × Entry} {calls : List (String × Entry)} {between : FileTree}
    (first : Records path [call] before between) (later : Records path calls between after) :
    Records path (call :: calls) before after := by
  obtain ⟨inTurn, keeps, noLinks, noDirectory, read⟩ := later
  rw [FileTree.placeOf_eq first.keeps.workplace] at inTurn keeps noDirectory read
  refine ⟨?_, first.keeps.trans keeps, noLinks, noDirectory, .inr ?_⟩
  · have once := first.inTurn
    rw [registerInTurn_cons] at once ⊢
    obtain ⟨content, once, same⟩ := Option.bind_eq_some_iff.mp once
    rw [once, Option.bind_some, Option.some.inj same]
    exact inTurn
  · rcases read with ⟨-, rfl⟩ | read
    · exact first.read.resolve_left fun none => List.cons_ne_nil _ _ none.1
    · exact read

end Records

/-! ## What is recorded last -/

/-- Registrations in turn start from a registry that is loaded. -/
theorem registryOf_of_inTurn {content after : Content} {calls : List (String × Entry)}
    (ran : registerInTurn content calls = some after) (some : calls ≠ []) :
    ∃ start, registryOf content = .some start := by
  obtain ⟨call, rest, rfl⟩ := List.exists_cons_of_ne_nil some
  rw [registerInTurn_cons] at ran
  obtain ⟨between, once, -⟩ := Option.bind_eq_some_iff.mp ran
  obtain ⟨start, found, -⟩ := Option.map_eq_some_iff.mp once
  exact ⟨start, found⟩

/-- The numbers in a registry that are not integers are read back as they are printed. -/
def DoublesReadBack (registry : Registry) : Prop :=
  (∀ plugin ∈ registry.plugins, ∀ field ∈ plugin.2.metadata, field.2.Every DoubleReadsBack) ∧
    ∀ member ∈ registry.extra, member.2.Every DoubleReadsBack

/-- A registry that is loaded is in order, if its numbers are read back. -/
theorem orderly_of_registryOf {content : Content} {start : Registry}
    (found : registryOf content = some start) (doubles : start.DoublesReadBack) :
    start.Orderly := by
  cases content with
  | ok text =>
    exact (parse_fromText (Json.toOption_eq_some.mp found)).orderly doubles.1 doubles.2
  | error fault =>
    rw [registryOf] at found
    split at found
    · rw [← Option.some.inj found]
      exact readable_empty.toOrderly
    · cases found

/-- **Entries registered in turn are put into the registry that was there,** if nothing is out of
order that is loaded again. -/
theorem registerInTurn_orderly {content after : Content} {start : Registry}
    {calls : List (String × Entry)} (found : registryOf content = some start)
    (ran : registerInTurn content calls = some after) (some : calls ≠ [])
    (orderly : calls.dropLast ≠ [] → start.Orderly)
    (entries : ∀ call ∈ calls.dropLast, call.2.Orderly) :
    after = .ok (start.insertAll calls).fileText := by
  induction calls using List.reverseRecOn generalizing after with
  | nil => exact absurd rfl some
  | append_singleton calls call ih =>
    rw [List.dropLast_concat] at orderly entries
    rw [registerInTurn_concat] at ran
    obtain ⟨between, earlier, once⟩ := Option.bind_eq_some_iff.mp ran
    obtain ⟨registry, loaded, rfl⟩ := Option.map_eq_some_iff.mp once
    suffices registry = start.insertAll calls by rw [insertAll_concat, this]
    by_cases none : calls = []
    · subst none
      obtain rfl := Option.some.inj earlier
      exact Option.some.inj (loaded.symm.trans found)
    · -- What has been put before is loaded from its text.
      have isText := ih earlier none (fun _ => orderly none)
        fun call among => entries call (List.dropLast_subset calls among)
      rw [isText, registryOf, toOption_parse_orderly ((orderly none).insertAll entries)] at loaded
      split at loaded
      · exact (Option.some.inj loaded).symm
      · cases loaded

end PluginAudit.Registry
