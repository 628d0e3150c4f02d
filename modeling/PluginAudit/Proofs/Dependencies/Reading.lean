import PluginAudit.Dependencies
import PluginAudit.Proofs.Json.Recognition

/-!
# What a dependency manifest declares

A dependency manifest that is read is JSON (`parse_written`), and what is declared
in it is told by its outline (`Declares`): the object under the key of a section,
which is written once or not at all, or the item in the place of the section where
a list stands for the object. So what is read is an object whose sections are
objects of strings (`IsManifest`), or a list of at most two objects of strings
(`IsListed`), which nothing but the reader takes for a manifest.
-/

set_option autoImplicit false

namespace PluginAudit

/-- Declares packages one after the other. -/
def Packages.declareAll (declared : Packages) (list : List (String × String)) : Packages :=
  list.foldl (fun declared package => Packages.insert declared package.1 package.2) declared

/-- The packages that come from declaring one after the other. -/
def Packages.ofList (list : List (String × String)) : Packages := Packages.declareAll [] list

namespace Dependencies

open Json Json.Grammar

/-! ## Sections -/

/-- The sections in which packages are declared. -/
inductive Section where
  | runtime
  | development
  deriving DecidableEq, Repr

namespace Section

/-- The key of a section. -/
def key : Section → String
  | runtime => "dependencies"
  | development => "devDependencies"

/-- The place of a section in a list that stands for a manifest. -/
def place : Section → Nat
  | runtime => 0
  | development => 1

/-- The packages of a section. -/
def packages (dependencies : Dependencies) : Section → Packages
  | runtime => dependencies.runtime
  | development => dependencies.development

/-- The packages of a section, as far as it has been read. -/
def read? (fields : Fields) : Section → Option Packages
  | runtime => fields.runtime
  | development => fields.development

theorem packages_toDependencies (fields : Fields) (kind : Section) :
    kind.packages fields.toDependencies = (kind.read? fields).getD [] := by
  cases kind <;> rfl

end Section

/-! ## Shapes -/

/-- An object all of whose values are strings. -/
def HoldsTexts (outline : Outline) : Prop :=
  ∃ members, outline = .object members ∧ ∀ member ∈ members, ∃ units, member.2 = .string units

/-- An object in which the sections, where they are present, are objects of strings. -/
def IsManifest (outline : Outline) : Prop :=
  ∃ members, outline = .object members ∧
    ∀ member ∈ members, ∀ kind : Section, member.1 = unitsOf kind.key → HoldsTexts member.2

/-- A list of at most two objects of strings. -/
def IsListed (outline : Outline) : Prop :=
  ∃ items, outline = .list items ∧ items.length ≤ 2 ∧ ∀ item ∈ items, HoldsTexts item

/-- Packages as they are written in an object. -/
def written (packages : List (String × String)) : Outline :=
  .object (packages.map fun package => (unitsOf package.1, .string (unitsOf package.2)))

theorem holdsTexts_written (packages : List (String × String)) : HoldsTexts (written packages) := by
  refine ⟨_, rfl, fun member among => ?_⟩
  obtain ⟨package, -, rfl⟩ := List.mem_map.mp among
  exact ⟨_, rfl⟩

/-- **What is declared in a section,** in the order in which it is written. -/
inductive Declares (kind : Section) : Outline → List (String × String) → Prop where
  | field {members : List (List Nat × Outline)} {packages : List (String × String)}
      (once : members.filter (·.1 = unitsOf kind.key) = [(unitsOf kind.key, written packages)]) :
      Declares kind (.object members) packages
  | noField {members : List (List Nat × Outline)}
      (absent : members.filter (·.1 = unitsOf kind.key) = []) : Declares kind (.object members) []
  | item {items : List Outline} {packages : List (String × String)}
      (inPlace : items[kind.place]? = some (written packages)) :
      Declares kind (.list items) packages
  | noItem {items : List Outline} (absent : items[kind.place]? = none) :
      Declares kind (.list items) []

/-- An object in which something is declared in both sections is a manifest. -/
theorem isManifest_of_declares {members : List (List Nat × Outline)}
    (declares : ∀ kind : Section, ∃ packages, Declares kind (.object members) packages) :
    IsManifest (.object members) := by
  refine ⟨members, rfl, fun member among kind isKey => ?_⟩
  have inside : member ∈ members.filter (·.1 = unitsOf kind.key) :=
    List.mem_filter.mpr ⟨among, decide_eq_true isKey⟩
  obtain ⟨packages, declares⟩ := declares kind
  cases declares with
  | field once =>
    rw [once] at inside
    rw [List.mem_singleton.mp inside]
    exact holdsTexts_written packages
  | noField absent =>
    rw [absent] at inside
    cases inside

/-! ## Packages that are read -/

/-- A package is stored under its name with a version, which is a string. -/
def StoresPackage (declared : Packages) (name : String) (value : Outline) (next : Packages) :
    Prop :=
  ∃ version, value = .string (unitsOf version) ∧ next = declared.insert name version

/-- Packages that are stored one after the other are names with strings, and are all declared. -/
theorem declareAll_of_gathers {declared final : Packages} {list : List (String × Outline)}
    (gathers : Gathers StoresPackage declared list final) :
    ∃ packages, writtenMembers list =
        packages.map (fun package => (unitsOf package.1, .string (unitsOf package.2))) ∧
      final = declared.declareAll packages := by
  induction gathers with
  | nil => exact ⟨[], rfl, rfl⟩
  | @cons _ _ _ name _ _ first _ ih =>
    obtain ⟨version, rfl, rfl⟩ := first
    obtain ⟨packages, areWritten, rfl⟩ := ih
    exact ⟨(name, version) :: packages, congrArg (_ :: ·) areWritten, rfl⟩

/-- **An object of packages declares its members** one after the other. -/
theorem packages_written {levels : Nat} {text rest : List Char} {declared : Packages}
    (ran : packages levels text = .ok (declared, rest)) :
    ∃ list, Value text (written list) rest ∧ declared = Packages.ofList list := by
  obtain ⟨list, gathers, value⟩ : ∃ list, Gathers StoresPackage [] list declared ∧
      Value text (.object (writtenMembers list)) rest := by
    refine objectOf_written (fun _ declared name text next rest ran => ?_) ran
    obtain ⟨behind, isColon, ran⟩ := bind_ok ran
    obtain ⟨⟨version, between⟩, isString, ran⟩ := bind_ok ran
    obtain ⟨rfl, rfl⟩ := Prod.mk.inj (Except.ok.inj ran)
    exact ⟨behind, _, colon_ok isColon, stringValue_written isString, version, rfl, rfl⟩
  obtain ⟨packages, areWritten, rfl⟩ := declareAll_of_gathers gathers
  rw [areWritten] at value
  exact ⟨packages, value, rfl⟩

/-! ## Manifests that are objects -/

/-- A field is stored once if its key is that of a section, and passed over otherwise. -/
inductive StoresField (fields : Fields) (key : String) (value : Outline) (next : Fields) :
    Prop where
  | field (kind : Section) (list : List (String × String)) (isKey : key = kind.key)
      (fresh : kind.read? fields = none) (isObject : value = written list)
      (isNext : kind.read? next = some (Packages.ofList list))
      (others : ∀ other ≠ kind, other.read? next = other.read? fields)
  | other (noKey : ∀ kind : Section, key ≠ kind.key) (isNext : next = fields)

/-- Both sections are read in the same way: an object of packages behind a colon, which is stored.
-/
theorem section_written {levels : Nat} {text rest : List Char} {next : Fields}
    (store : Packages → Fields) (ran : (colon text >>= fun text => packages levels text >>=
      fun declared => (pure (store declared.1, declared.2) : Except Fault (Fields × List Char))) =
        .ok (next, rest)) :
    ∃ behind list, Token ':' text behind ∧ Value behind (written list) rest ∧
      next = store (Packages.ofList list) := by
  obtain ⟨behind, isColon, ran⟩ := bind_ok ran
  obtain ⟨⟨declared, between⟩, arePackages, ran⟩ := bind_ok ran
  obtain ⟨rfl, rfl⟩ := Prod.mk.inj (Except.ok.inj ran)
  obtain ⟨list, value, rfl⟩ := packages_written arePackages
  exact ⟨behind, list, colon_ok isColon, value, rfl⟩

theorem storesMember_member (levels : Nat) : StoresMember StoresField (member levels) := by
  intro fields key text next rest ran
  unfold member at ran
  split at ran
  · next isKey =>
    split at ran
    · cases ran
    · next fresh =>
      obtain ⟨behind, list, isColon, value, rfl⟩ :=
        section_written (fun declared => { fields with runtime := some declared }) ran
      refine ⟨behind, _, isColon, value, .field .runtime list (beq_iff_eq.mp isKey)
        (Option.not_isSome_iff_eq_none.mp fresh) rfl rfl fun other apart => ?_⟩
      cases other with
      | runtime => exact absurd rfl apart
      | development => rfl
  · next notRuntime =>
    split at ran
    · next isKey =>
      split at ran
      · cases ran
      · next fresh =>
        obtain ⟨behind, list, isColon, value, rfl⟩ :=
          section_written (fun declared => { fields with development := some declared }) ran
        refine ⟨behind, _, isColon, value, .field .development list (beq_iff_eq.mp isKey)
          (Option.not_isSome_iff_eq_none.mp fresh) rfl rfl fun other apart => ?_⟩
        cases other with
        | runtime => rfl
        | development => exact absurd rfl apart
    · next notDevelopment =>
      obtain ⟨behind, isColon, ran⟩ := bind_ok ran
      obtain ⟨after, skimmed, ran⟩ := bind_ok ran
      obtain ⟨rfl, rfl⟩ := Prod.mk.inj (Except.ok.inj ran)
      obtain ⟨value, isValue⟩ := skimValue_ok skimmed
      refine ⟨behind, value, colon_ok isColon, isValue, .other (fun kind => ?_) rfl⟩
      cases kind with
      | runtime => exact mt beq_iff_eq.mpr notRuntime
      | development => exact mt beq_iff_eq.mpr notDevelopment

/-- The members under the key of a section. -/
def ofSection (kind : Section) (list : List (String × Outline)) : List (List Nat × Outline) :=
  (writtenMembers list).filter (·.1 = unitsOf kind.key)

theorem ofSection_cons (kind : Section) (key : String) (value : Outline)
    (list : List (String × Outline)) :
    ofSection kind ((key, value) :: list) =
      if key = kind.key then (unitsOf key, value) :: ofSection kind list
      else ofSection kind list := by
  have sameUnits : unitsOf key = unitsOf kind.key ↔ key = kind.key :=
    ⟨unitsOf_injective, congrArg unitsOf⟩
  simp only [ofSection, writtenMembers, List.map_cons, List.filter_cons, decide_eq_true_eq,
    sameUnits]

/-- **A section is read from the one member under its key,** and stays empty where there is none.
-/
theorem section_of_gathers {fields final : Fields} {list : List (String × Outline)}
    (gathers : Gathers StoresField fields list final) (kind : Section) :
    (∀ declared, kind.read? fields = some declared →
      ofSection kind list = [] ∧ kind.read? final = some declared) ∧
    (kind.read? fields = none →
      ofSection kind list = [] ∧ kind.read? final = none ∨
      ∃ packages, ofSection kind list = [(unitsOf kind.key, written packages)] ∧
        kind.read? final = some (Packages.ofList packages)) := by
  induction gathers with
  | nil => exact ⟨fun declared isRead => ⟨rfl, isRead⟩, fun isRead => .inl ⟨rfl, isRead⟩⟩
  | @cons fields next final key value others first _ ih =>
    rw [ofSection_cons]
    cases first with
    | other noKey isNext =>
      rw [if_neg (noKey kind), ← isNext]
      exact ih
    | field stored packages isKey fresh isObject isNext apart =>
      by_cases same : kind = stored
      · subst same
        rw [if_pos isKey, fresh]
        refine ⟨nofun, fun _ => .inr ⟨packages, ?_, (ih.1 _ isNext).2⟩⟩
        rw [(ih.1 _ isNext).1, isKey, isObject]
      · have notKey : key ≠ kind.key := by
          rw [isKey]
          revert same
          cases kind <;> cases stored <;> decide
        rw [if_neg notKey, ← apart kind same]
        exact ih

/-- A manifest that is an object declares what is under the keys of the sections. -/
theorem declares_of_gathers {list : List (String × Outline)} {fields : Fields}
    (gathers : Gathers StoresField {} list fields) (kind : Section) :
    ∃ packages, Declares kind (.object (writtenMembers list)) packages ∧
      kind.packages fields.toDependencies = Packages.ofList packages := by
  have fresh : kind.read? {} = none := by cases kind <;> rfl
  rw [Section.packages_toDependencies]
  rcases (section_of_gathers gathers kind).2 fresh with ⟨absent, isNone⟩ | ⟨packages, once, isRead⟩
  · exact ⟨[], .noField absent, by rw [isNone]; rfl⟩
  · exact ⟨packages, .field once, by rw [isRead]; rfl⟩

/-! ## Lists in place of manifests -/

theorem listEnd_ok {text rest : List Char} (ran : listEnd text = .ok rest) :
    Token ']' text rest := by
  unfold listEnd at ran
  split at ran
  · cases ran
  · next close =>
    obtain rfl := Except.ok.inj ran
    exact token_of_skipBlanks close
  · split at ran <;> cases ran
  · cases ran

theorem nextItem_first {text item : List Char} (ran : nextItem true text = .ok (some item)) :
    item = skipBlanks text := by
  unfold nextItem at ran
  split at ran
  · cases ran
  · cases ran
  · contradiction
  · exact (Option.some.inj (Except.ok.inj ran)).symm
  · cases ran

theorem nextItem_next {text item : List Char} (ran : nextItem false text = .ok (some item)) :
    ∃ behind, Token ',' text behind ∧ item = skipBlanks behind := by
  unfold nextItem at ran
  split at ran
  · cases ran
  · cases ran
  · next isComma _ =>
    split at ran
    · cases ran
    · cases ran
    · exact ⟨_, token_of_skipBlanks isComma, (Option.some.inj (Except.ok.inj ran)).symm⟩
  · contradiction
  · cases ran

/-- What a list that stands for a manifest declares. -/
theorem listed_written {levels : Nat} {text rest : List Char} {dependencies : Dependencies}
    (ran : listed levels text = .ok (dependencies, rest)) :
    ∃ items, Items text items rest ∧ IsListed (.list items) ∧
      ∀ kind : Section, ∃ packages, Declares kind (.list items) packages ∧
        kind.packages dependencies = Packages.ofList packages := by
  obtain ⟨first, isFirst, ran⟩ := bind_ok ran
  cases first with
  | none =>
    obtain ⟨behind, ends, ran⟩ := bind_ok ran
    obtain ⟨rfl, rfl⟩ := Prod.mk.inj (Except.ok.inj ran)
    refine ⟨[], .none (listEnd_ok ends), ⟨_, rfl, by simp, by simp⟩,
      fun kind => ⟨[], .noItem rfl, ?_⟩⟩
    cases kind <;> rfl
  | some item =>
    obtain ⟨⟨declared, between⟩, arePackages, ran⟩ := bind_ok ran
    obtain ⟨runtime, value, rfl⟩ := packages_written arePackages
    rw [nextItem_first isFirst] at value
    obtain ⟨second, isSecond, ran⟩ := bind_ok ran
    cases second with
    | none =>
      obtain ⟨behind, ends, ran⟩ := bind_ok ran
      obtain ⟨rfl, rfl⟩ := Prod.mk.inj (Except.ok.inj ran)
      refine ⟨[written runtime], .some value.of_skipBlanks (.close (listEnd_ok ends)),
        ⟨_, rfl, by simp, by simp [holdsTexts_written]⟩, fun kind => ?_⟩
      cases kind with
      | runtime => exact ⟨runtime, .item rfl, rfl⟩
      | development => exact ⟨[], .noItem rfl, rfl⟩
    | some item =>
      obtain ⟨comma, isComma, rfl⟩ := nextItem_next isSecond
      obtain ⟨⟨declared, after⟩, arePackages, ran⟩ := bind_ok ran
      obtain ⟨development, value', rfl⟩ := packages_written arePackages
      obtain ⟨behind, ends, ran⟩ := bind_ok ran
      obtain ⟨rfl, rfl⟩ := Prod.mk.inj (Except.ok.inj ran)
      refine ⟨[written runtime, written development],
        .some value.of_skipBlanks (.next isComma value'.of_skipBlanks (.close (listEnd_ok ends))),
        ⟨_, rfl, by simp, by simp [holdsTexts_written]⟩, fun kind => ?_⟩
      cases kind with
      | runtime => exact ⟨runtime, .item rfl, rfl⟩
      | development => exact ⟨development, .item rfl, rfl⟩

/-! ## Whole documents -/

/-- An outline declares dependencies: in each section what is written there. -/
def DeclaresAll (dependencies : Dependencies) (outline : Outline) : Prop :=
  ∀ kind : Section, ∃ packages, Declares kind outline packages ∧
    kind.packages dependencies = Packages.ofList packages

/-- What the reader takes is a manifest or a list in its place. -/
theorem reader_written {text rest : List Char} {dependencies : Dependencies}
    (ran : reader text = .ok (dependencies, rest)) :
    ∃ outline, Value text outline rest ∧ (IsManifest outline ∨ IsListed outline) ∧
      DeclaresAll dependencies outline := by
  unfold reader at ran
  split at ran
  · next starts =>
    obtain ⟨items, inside, isListed, declares⟩ := listed_written ran
    exact ⟨_, .of_token (token_of_skipBlanks starts) (.list inside), .inr isListed, declares⟩
  · obtain ⟨⟨fields, behind⟩, isObject, ran⟩ := bind_ok ran
    obtain ⟨rfl, rfl⟩ := Prod.mk.inj (Except.ok.inj ran)
    obtain ⟨list, gathers, value⟩ := objectOf_written storesMember_member isObject
    have declares := declares_of_gathers gathers
    refine ⟨_, value.of_skipBlanks, .inl (isManifest_of_declares fun kind => ?_), declares⟩
    exact (declares kind).imp fun _ => And.left

/-- **What is read as a dependency manifest is JSON, and declares what is read.** It is an object
whose sections are objects of strings, or a list of at most two such objects. -/
theorem parse_written {text : String} {dependencies : Dependencies}
    (accepted : parse text = .ok dependencies) :
    ∃ outline, Written text outline ∧ (IsManifest outline ∨ IsListed outline) ∧
      DeclaresAll dependencies outline := by
  cases ran : document reader text.toList with
  | error fault =>
    rw [parse, ran] at accepted
    cases accepted
  | ok read =>
    rw [parse, ran] at accepted
    obtain rfl := Except.ok.inj accepted
    exact document_written (fun _ _ _ => reader_written) ran

end Dependencies

end PluginAudit
