import PluginAudit.FileTree.Change
import PluginAudit.Proofs.Lookup

/-!
# What stands at a place

A file tree is read as a map from places to what stands there: a file with its
bytes, a link with its target, or a directory, whatever that holds. Storing a
node at a place of a directory changes the map at that place and below it and
nowhere else (`look_set`, `at?_set`), and so does taking a node away
(`look_erase`, `look_erase_self`). A place below another one has something only if
the other has a directory (`look_directory_of_append`).

What is seen at a place of a tree is what stands there together with how far it
can be read (`view`), and that is all of it that matters for the text that is
read there (`textOf`).
-/

set_option autoImplicit false

namespace PluginAudit.FileTree

/-- What stands at a place, without what is below it. -/
inductive Shape where
  | file (bytes : ByteArray)
  | link (target : String)
  | directory

instance : DecidableEq Shape
  | .file bytes, .file other =>
    match ByteArray.decEq bytes other with
    | isTrue same => isTrue (congrArg Shape.file same)
    | isFalse differ => isFalse fun same => differ (Shape.file.inj same)
  | .link target, .link other =>
    match decEq target other with
    | isTrue same => isTrue (congrArg Shape.link same)
    | isFalse differ => isFalse fun same => differ (Shape.link.inj same)
  | .directory, .directory => isTrue rfl
  | .file _, .link _ => isFalse nofun
  | .file _, .directory => isFalse nofun
  | .link _, .file _ => isFalse nofun
  | .link _, .directory => isFalse nofun
  | .directory, .file _ => isFalse nofun
  | .directory, .link _ => isFalse nofun

namespace Node

/-- The shape of a node. -/
def shape : Node → Shape
  | file bytes => .file bytes
  | link target => .link target
  | directory _ => .directory

/-- The shape at a place below a node. -/
def look (root : Node) (place : List String) : Option Shape := (root.at? place).map shape

@[simp] theorem shape_file (bytes : ByteArray) : (file bytes).shape = .file bytes := rfl

@[simp] theorem shape_link (target : String) : (link target).shape = .link target := rfl

@[simp] theorem shape_directory (entries : List (String × Node)) :
    (directory entries).shape = .directory := rfl

/-- The nodes whose shape is a directory. -/
theorem shape_eq_directory {node : Node} :
    node.shape = .directory ↔ ∃ entries, node = directory entries := by
  cases node <;> simp

theorem shape_eq_link {node : Node} {target : String} :
    node.shape = .link target ↔ node = link target := by
  cases node <;> simp

theorem shape_eq_file {node : Node} {bytes : ByteArray} :
    node.shape = .file bytes ↔ node = file bytes := by
  cases node <;> simp

theorem isDirectory_iff {node : Node} : node.isDirectory = true ↔ node.shape = .directory := by
  cases node <;> simp [isDirectory]

/-! ## Places below places -/

@[simp] theorem at?_nil (node : Node) : node.at? [] = some node := by
  cases node <;> rfl

@[simp] theorem at?_cons (node : Node) (name : String) (names : List String) :
    node.at? (name :: names) = (node.child? name).bind fun child => child.at? names := by
  cases node <;> rfl

theorem at?_append (node : Node) (first second : List String) :
    node.at? (first ++ second) = (node.at? first).bind fun below => below.at? second := by
  induction first generalizing node with
  | nil => simp
  | cons name names ih =>
    simp only [List.cons_append, at?_cons]
    cases node.child? name with
    | none => rfl
    | some child => exact ih child

/-- What stands under a name in the directory at a place. -/
theorem at?_snoc (node : Node) (place : List String) (name : String) :
    node.at? (place ++ [name]) = (node.at? place).bind fun below => below.child? name := by
  rw [at?_append]
  cases node.at? place with
  | none => rfl
  | some below => cases h : below.child? name <;> simp [h]

theorem look_eq_some {root : Node} {place : List String} {shape : Shape} :
    root.look place = some shape ↔ ∃ node, root.at? place = some node ∧ node.shape = shape := by
  simp [look]

theorem look_eq_none {root : Node} {place : List String} :
    root.look place = none ↔ root.at? place = none := by
  simp [look]

theorem look_directory {root : Node} {place : List String} :
    root.look place = some .directory ↔ ∃ entries, root.at? place = some (directory entries) := by
  simp only [look_eq_some, shape_eq_directory]
  constructor
  · rintro ⟨node, found, entries, rfl⟩
    exact ⟨entries, found⟩
  · rintro ⟨entries, found⟩
    exact ⟨_, found, entries, rfl⟩

/-- What has something below it is a directory. -/
theorem look_directory_of_append {root : Node} {place more : List String} {shape : Shape}
    (below : root.look (place ++ more) = some shape) (isBelow : more ≠ []) :
    root.look place = some .directory := by
  obtain ⟨node, found, -⟩ := look_eq_some.mp below
  rw [at?_append] at found
  obtain ⟨name, names, rfl⟩ := List.exists_cons_of_ne_nil isBelow
  cases here : root.at? place with
  | none => simp [here] at found
  | some above =>
    cases above with
    | directory entries => exact look_directory.mpr ⟨entries, here⟩
    | file bytes => simp [here, child?, entries] at found
    | link target => simp [here, child?, entries] at found

/-- Below a place where no directory stands there is nothing. -/
theorem look_none_below {root : Node} {place : List String} (name : String)
    (noDirectory : root.look place ≠ some .directory) (more : List String) :
    root.look (place ++ name :: more) = none := by
  cases below : root.look (place ++ name :: more) with
  | none => rfl
  | some shape => exact absurd (look_directory_of_append below (by simp)) noDirectory

/-- A directory is not at a place, nor below it, where no directory stands. -/
theorem not_prefix_of_directory {root : Node} {place directory : List String}
    (noDirectory : root.look place ≠ some .directory)
    (here : root.look directory = some .directory) : ¬ place <+: directory := by
  rintro ⟨more, rfl⟩
  cases more with
  | nil => exact noDirectory (by rwa [List.append_nil] at here)
  | cons name more =>
    rw [look_none_below name noDirectory] at here
    cases here

/-! ## Entries of a directory -/

@[simp] theorem child?_directory (entries : List (String × Node)) (name : String) :
    (directory entries).child? name = entries.lookup name := rfl

@[simp] theorem child?_file (bytes : ByteArray) (name : String) :
    (file bytes).child? name = none := rfl

@[simp] theorem child?_link (target name : String) : (link target).child? name = none := rfl

theorem lookup_setEntry (name : String) (node : Node) (entries : List (String × Node))
    (other : String) :
    (setEntry name node entries).lookup other =
      if other = name then some node else entries.lookup other := by
  induction entries with
  | nil => simp [setEntry, lookup_cons_if]
  | cons entry rest ih =>
    obtain ⟨first, old⟩ := entry
    by_cases here : first = name
    · subst here
      by_cases same : other = first <;> simp [setEntry, lookup_cons_if, same]
    · rw [setEntry, if_neg here, lookup_cons_if, ih, lookup_cons_if]
      by_cases same : other = first
      · simp [same, here]
      · simp [same]

theorem lookup_filter_ne (name : String) (entries : List (String × Node)) (other : String) :
    (entries.filter fun entry => entry.1 != name).lookup other =
      if other = name then none else entries.lookup other := by
  induction entries with
  | nil => simp
  | cons entry rest ih =>
    obtain ⟨first, node⟩ := entry
    by_cases gone : first = name
    · subst gone
      rw [List.filter_cons_of_neg (by simp), ih, lookup_cons_if]
      by_cases same : other = first <;> simp [same]
    · rw [List.filter_cons_of_pos (by simpa using gone), lookup_cons_if, ih, lookup_cons_if]
      by_cases same : other = first
      · simp [same, gone]
      · simp [same]

/-! ## Storing -/

/-- Storing further down in a node that is no directory changes nothing. -/
theorem set_cons_of_not_directory (new : Node) (name : String) (names : List String) {root : Node}
    (noDirectory : root.shape ≠ .directory) : set new (name :: names) root = root := by
  cases root with
  | file bytes => cases names <;> rfl
  | link target => cases names <;> rfl
  | directory entries => exact absurd rfl noDirectory

/-- An entry that is set twice is what it has been set to last. -/
theorem setEntry_setEntry (name : String) (old new : Node) (entries : List (String × Node)) :
    setEntry name new (setEntry name old entries) = setEntry name new entries := by
  induction entries with
  | nil => simp [setEntry]
  | cons entry rest ih =>
    obtain ⟨other, node⟩ := entry
    by_cases same : other = name
    · simp [setEntry, same]
    · simp [setEntry, same, ih]

/-- What is stored twice at a place is what has been stored last. -/
theorem set_set (old new : Node) (place : List String) (root : Node) :
    set new place (set old place root) = set new place root := by
  fun_induction set old place root with
  | case1 => simp [set]
  | case2 name entries => simp [set, setEntry_setEntry]
  | case3 name names entries more child found ih =>
    have stored : (setEntry name (set old names child) entries).lookup name =
        some (set old names child) := by simp [lookup_setEntry]
    rw [set, set, stored, found]
    · simp only [setEntry_setEntry, ih]
    · exact more
    · exact more
  | case4 name names entries more missing => rfl
  | case5 => rfl

/-- A directory in which something was stored is still one. -/
theorem shape_set_directory (new : Node) (name : String) (names : List String)
    (entries : List (String × Node)) :
    (set new (name :: names) (directory entries)).shape = .directory := by
  cases names with
  | nil => rfl
  | cons next rest =>
    rw [set]
    · split <;> rfl
    · simp

/-- The entries of a directory in which something was stored. -/
theorem child?_set (new : Node) (name : String) (names : List String)
    (entries : List (String × Node)) (first : String) :
    (set new (name :: names) (directory entries)).child? first =
      if first = name then
        if names = [] then some new else (entries.lookup name).map (set new names)
      else entries.lookup first := by
  cases names with
  | nil => simp [set, lookup_setEntry]
  | cons next rest =>
    rw [set]
    · cases found : entries.lookup name with
      | none => by_cases same : first = name <;> simp [same, found]
      | some child => by_cases same : first = name <;> simp [same, lookup_setEntry]
    · simp

/-- **Storing changes nothing but at its place and below.** -/
theorem look_set (new : Node) {place other : List String} (root : Node)
    (elsewhere : ¬ place <+: other) : (set new place root).look other = root.look other := by
  induction place generalizing root other with
  | nil => exact absurd List.nil_prefix elsewhere
  | cons name names ih =>
    by_cases isDirectory : root.shape = .directory
    · obtain ⟨entries, rfl⟩ := shape_eq_directory.mp isDirectory
      cases other with
      | nil => simp [look, shape_set_directory]
      | cons first rest =>
        simp only [look, at?_cons, child?_set, child?_directory]
        by_cases same : first = name
        · subst same
          have further : ¬ names <+: rest := fun isPrefix =>
            elsewhere (List.cons_prefix_cons.mpr ⟨rfl, isPrefix⟩)
          have more : names ≠ [] := fun none => further (none ▸ List.nil_prefix)
          simp only [more, if_true, if_false]
          cases entries.lookup first with
          | none => rfl
          | some child => exact ih child further
        · simp only [same, if_false]
    · rw [set_cons_of_not_directory new name names isDirectory]

/-- What is below the place of a new entry is what is below its node. -/
theorem at?_set (new : Node) {place : List String} {root : Node}
    (isDirectory : root.look place = some .directory) (name : String) (more : List String) :
    (set new (place ++ [name]) root).at? (place ++ name :: more) = new.at? more := by
  induction place generalizing root with
  | nil =>
    obtain ⟨entries, found⟩ := look_directory.mp isDirectory
    obtain rfl : root = directory entries := by simpa using found
    simp [child?_set]
  | cons first rest ih =>
    obtain ⟨entries, found⟩ := look_directory.mp isDirectory
    cases root with
    | file bytes => simp at found
    | link target => simp at found
    | directory top =>
      cases child : top.lookup first with
      | none => simp [child] at found
      | some below =>
        have inBelow : below.look rest = some .directory := by
          refine look_directory.mpr ⟨entries, ?_⟩
          simpa [child] using found
        simp [child?_set, child, ih inBelow]

theorem look_set_self (new : Node) {place : List String} {root : Node}
    (isDirectory : root.look place = some .directory) (name : String) :
    (set new (place ++ [name]) root).look (place ++ [name]) = some new.shape := by
  rw [look, at?_set new isDirectory name []]
  simp

/-! ## Taking away -/

/-- Taking away further down in a node that is no directory changes nothing. -/
theorem erase_cons_of_not_directory (name : String) (names : List String) {root : Node}
    (noDirectory : root.shape ≠ .directory) : erase (name :: names) root = root := by
  cases root with
  | file bytes => cases names <;> rfl
  | link target => cases names <;> rfl
  | directory entries => exact absurd rfl noDirectory

/-- A directory from which something was taken away is still one. -/
theorem shape_erase_directory (name : String) (names : List String)
    (entries : List (String × Node)) :
    (erase (name :: names) (directory entries)).shape = .directory := by
  cases names with
  | nil => rfl
  | cons next rest =>
    rw [erase]
    · split <;> rfl
    · simp

/-- The entries of a directory from which something was taken away. -/
theorem child?_erase (name : String) (names : List String) (entries : List (String × Node))
    (first : String) :
    (erase (name :: names) (directory entries)).child? first =
      if first = name then
        if names = [] then none else (entries.lookup name).map (erase names)
      else entries.lookup first := by
  cases names with
  | nil => simp [erase, lookup_filter_ne]
  | cons next rest =>
    rw [erase]
    · cases found : entries.lookup name with
      | none => by_cases same : first = name <;> simp [same, found]
      | some child => by_cases same : first = name <;> simp [same, lookup_setEntry]
    · simp

/-- **Taking away changes nothing but at its place and below.** -/
theorem look_erase {place other : List String} (root : Node) (elsewhere : ¬ place <+: other) :
    (erase place root).look other = root.look other := by
  induction place generalizing root other with
  | nil => exact absurd List.nil_prefix elsewhere
  | cons name names ih =>
    by_cases isDirectory : root.shape = .directory
    · obtain ⟨entries, rfl⟩ := shape_eq_directory.mp isDirectory
      cases other with
      | nil => simp [look, shape_erase_directory]
      | cons first rest =>
        simp only [look, at?_cons, child?_erase, child?_directory]
        by_cases same : first = name
        · subst same
          have further : ¬ names <+: rest := fun isPrefix =>
            elsewhere (List.cons_prefix_cons.mpr ⟨rfl, isPrefix⟩)
          have more : names ≠ [] := fun none => further (none ▸ List.nil_prefix)
          simp only [more, if_true, if_false]
          cases entries.lookup first with
          | none => rfl
          | some child => exact ih child further
        · simp only [same, if_false]
    · rw [erase_cons_of_not_directory name names isDirectory]

/-- Where something was taken away there is nothing. -/
theorem look_erase_self (place : List String) (name : String) (more : List String) (root : Node) :
    (erase (place ++ [name]) root).look (place ++ name :: more) = none := by
  induction place generalizing root with
  | nil =>
    by_cases isDirectory : root.shape = .directory
    · obtain ⟨entries, rfl⟩ := shape_eq_directory.mp isDirectory
      simp [look, child?_erase]
    · rw [List.nil_append, erase_cons_of_not_directory name [] isDirectory]
      cases root <;> simp_all [look]
  | cons first rest ih =>
    by_cases isDirectory : root.shape = .directory
    · obtain ⟨entries, rfl⟩ := shape_eq_directory.mp isDirectory
      cases child : entries.lookup first with
      | none => simp [look, child?_erase, child]
      | some below => simpa [look, child?_erase, child] using ih below
    · rw [List.cons_append, erase_cons_of_not_directory first _ isDirectory]
      cases root <;> simp_all [look]

end Node

/-- The shape at a place of a tree. -/
def look (tree : FileTree) (place : List String) : Option Shape := tree.root.look place

/-- What stands at a place of a tree, with how far it can be read. -/
def view (tree : FileTree) (place : List String) : Option (Shape × Reading) :=
  (tree.look place).map fun shape => (shape, tree.reading place)

section View

variable {tree : FileTree} {place : List String}

theorem look_eq_view (tree : FileTree) (place : List String) :
    tree.look place = (tree.view place).map (·.1) := by
  rw [view, Option.map_map]
  exact Option.map_id'.symm

theorem view_eq_some {shape : Shape} {reading : Reading} :
    tree.view place = some (shape, reading) ↔
      tree.look place = some shape ∧ tree.reading place = reading := by
  simp [view]

theorem view_eq_none : tree.view place = none ↔ tree.look place = none := by
  simp [view]

/-- What stands at a place is seen there. -/
theorem view_of_look {shape : Shape} (stands : tree.look place = some shape) :
    tree.view place = some (shape, tree.reading place) :=
  view_eq_some.mpr ⟨stands, rfl⟩

/-- Where the same is seen, the same stands. -/
theorem look_of_view {other : FileTree} {place' : List String}
    (same : tree.view place = other.view place') : tree.look place = other.look place' := by
  rw [look_eq_view, same, ← look_eq_view]

/-- Where the same is seen, it can be read as far. -/
theorem reading_of_view {other : FileTree} {place' : List String}
    (same : tree.view place = other.view place') (stands : tree.look place ≠ none) :
    tree.reading place = other.reading place' := by
  obtain ⟨shape, isShape⟩ := Option.ne_none_iff_exists'.mp stands
  rw [view_of_look isShape] at same
  exact (view_eq_some.mp same.symm).2.symm

end View

/-- A file is read to the end, and its bytes are a text. -/
theorem Reading.text_ok_iff {reading : Reading} {bytes : ByteArray} {text : String} :
    reading.text bytes = .ok text ↔
      reading.fault? = none ∧ String.fromUTF8? bytes = some text := by
  unfold Reading.text
  cases reading.fault? with
  | some fault => simp
  | none => cases String.fromUTF8? bytes <;> simp

theorem fromUTF8?_toUTF8 (text : String) : String.fromUTF8? text.toUTF8 = some text := by
  have valid : text.toUTF8.IsValidUTF8 := text.isValidUTF8
  rw [String.fromUTF8?, dif_pos valid]
  rfl

/-- The bytes of a text that are read to the end are that text. -/
theorem text_toUTF8 (text : String) : Reading.whole.text text.toUTF8 = .ok text :=
  Reading.text_ok_iff.mpr ⟨rfl, fromUTF8?_toUTF8 text⟩

/-- What is read where something stands. -/
def textOf : Option (Shape × Reading) → Except Fault String
  | none => .error .notFound
  | some (.file bytes, reading) => reading.text bytes
  | some (_, .refused fault) => .error fault
  | some (_, _) => .error .isDirectory

/-- A text is read where there is a file. -/
theorem textOf_ok_iff {seen : Option (Shape × Reading)} {text : String} :
    textOf seen = .ok text ↔
      ∃ bytes reading, seen = some (.file bytes, reading) ∧ reading.text bytes = .ok text := by
  rcases seen with _ | ⟨_ | _ | _, reading⟩
  · simp [textOf]
  · simp [textOf]
  · cases reading <;> simp [textOf]
  · cases reading <;> simp [textOf]

/-- No text is read where a directory stands, and it is not told to be missing. -/
theorem textOf_directory {tree : FileTree} {place : List String}
    (here : tree.look place = some .directory) :
    ∃ fault, textOf (tree.view place) = .error fault ∧ fault ≠ .notFound := by
  rw [view_of_look here]
  have present := tree.present place
  cases reading : tree.reading place with
  | whole => exact ⟨.isDirectory, rfl, by decide⟩
  | refused fault =>
    rw [reading] at present
    exact ⟨fault, rfl, fun missing => present (congrArg some missing)⟩
  | broken fault listed => exact ⟨.isDirectory, rfl, by decide⟩

/-! ## What is put to a place, and taken away -/

section Changed

variable {tree : FileTree} {place other : List String}

/-- Storing changes what is seen at its place and below it and nowhere else. -/
theorem view_withNode (tree : FileTree) (node : Node) (elsewhere : ¬ place <+: other) :
    (tree.withNode place node).view other = tree.view other := by
  have differs : other ≠ place := by
    rintro rfl
    exact elsewhere List.prefix_rfl
  rw [view, look, withNode, Node.look_set node tree.root elsewhere]
  simp only [if_neg differs]
  rfl

/-- What is stored can be read. -/
theorem view_withNode_self (node : Node) (here : tree.look place = some .directory)
    (name : String) :
    (tree.withNode (place ++ [name]) node).view (place ++ [name]) = some (node.shape, .whole) :=
  view_eq_some.mpr ⟨Node.look_set_self node here name, if_pos rfl⟩

theorem view_without (tree : FileTree) (elsewhere : ¬ place <+: other) :
    (tree.without place).view other = tree.view other := by
  rw [view, look, without, Node.look_erase tree.root elsewhere]
  rfl

theorem view_without_self (tree : FileTree) (place : List String) (name : String)
    (more : List String) : (tree.without (place ++ [name])).view (place ++ name :: more) = none :=
  view_eq_none.mpr (Node.look_erase_self place name more tree.root)

end Changed

end PluginAudit.FileTree
