import PluginAudit.Proofs.FileTree.Standing

/-!
# Walks

A walk is a way along the steps of a path that ends at something, or at a name
that is missing in a directory. It is given with the number of links on it, so
that following a path is walking along it as far as the links are not too many
(`Walks.walkLinks_eq`, `walks_of_walkLinks`).

Walks can be joined and split (`Walks.append`, `Walks.split`). A walk to
something is still one in a tree in which everything stands that stood before
(`Walks.mono`), and one to a missing name is one to whatever is put there
(`Walks.fill`). Where only files are new, every walk has been one before
(`Walks.of_files`). Where a name that is no directory is put to another use, a walk
to a directory remains unless it follows a link under that name
(`Walks.elsewhere`).
-/

set_option autoImplicit false

namespace PluginAudit.FileTree

open PluginAudit.Path (Component)

/-- A walk along steps from a place, with the number of links that are followed on it. It ends
where something stands or at a name that is missing in a directory. -/
inductive Walks (root : Node) (follow : Bool) :
    Nat → List String → List Component → List String → Prop where
  | done {place : List String} {shape : Shape} (here : root.look place = some shape) :
      Walks root follow 0 place [] place
  | fromRoot {used : Nat} {place goal : List String} {rest : List Component}
      (here : root.look place = some .directory) (more : Walks root follow used [] rest goal) :
      Walks root follow used place (.root :: rest) goal
  | stay {used : Nat} {place goal : List String} {rest : List Component}
      (here : root.look place = some .directory) (more : Walks root follow used place rest goal) :
      Walks root follow used place (.here :: rest) goal
  | back {used : Nat} {place goal : List String} {rest : List Component}
      (here : root.look place = some .directory)
      (more : Walks root follow used place.dropLast rest goal) :
      Walks root follow used place (.up :: rest) goal
  | enter {used : Nat} {place goal : List String} {name : String} {shape : Shape}
      {rest : List Component} (here : root.look place = some .directory)
      (short : name.utf8ByteSize ≤ nameLimit) (there : root.look (place ++ [name]) = some shape)
      (noLink : ∀ target, shape ≠ .link target)
      (more : Walks root follow used (place ++ [name]) rest goal) :
      Walks root follow used place (.name name :: rest) goal
  | stop {place : List String} {name target : String} (here : root.look place = some .directory)
      (short : name.utf8ByteSize ≤ nameLimit)
      (there : root.look (place ++ [name]) = some (.link target)) (stays : follow = false) :
      Walks root follow 0 place [.name name] (place ++ [name])
  | gap {place : List String} {name : String} (here : root.look place = some .directory)
      (short : name.utf8ByteSize ≤ nameLimit) (there : root.look (place ++ [name]) = none) :
      Walks root follow 0 place [.name name] (place ++ [name])
  | link {used : Nat} {place goal : List String} {name target : String} {rest : List Component}
      (here : root.look place = some .directory) (short : name.utf8ByteSize ≤ nameLimit)
      (there : root.look (place ++ [name]) = some (.link target)) (leads : target.isEmpty = false)
      (follows : rest = [] → follow = true)
      (more : Walks root follow used place (pathSteps ⟨target⟩ ++ rest) goal) :
      Walks root follow (used + 1) place (.name name :: rest) goal

/-! ## Steps of following -/

section Steps

variable {root : Node} {follow : Bool}

/-- What following a path does at a link when so many links may still be followed. -/
def onLink (root : Node) (follow : Bool) :
    Nat → List String → String → List Component → Except Fault Spot
  | 0, _, _, _ => .error .tooManyLinks
  | links + 1, place, target, rest =>
    if target.isEmpty then .error .notFound
    else walkLinks root follow links place (pathSteps ⟨target⟩ ++ rest)

theorem walkLinks_eq_walk (links : Nat) :
    walkLinks root follow links = walk root follow (onLink root follow links) := by
  cases links <;> rfl

theorem walkLinks_nil (links : Nat) (place : List String) :
    walkLinks root follow links place [] =
      match root.at? place with
      | some node => .ok (.found place node)
      | none => .error .notFound := by
  rw [walkLinks_eq_walk]
  rfl

theorem walkLinks_root {place : List String} (here : root.look place = some .directory)
    (links : Nat) (rest : List Component) :
    walkLinks root follow links place (.root :: rest) = walkLinks root follow links [] rest := by
  obtain ⟨entries, found⟩ := Node.look_directory.mp here
  rw [walkLinks_eq_walk, walk, found]
  rfl

theorem walkLinks_here {place : List String} (here : root.look place = some .directory)
    (links : Nat) (rest : List Component) :
    walkLinks root follow links place (.here :: rest) =
      walkLinks root follow links place rest := by
  obtain ⟨entries, found⟩ := Node.look_directory.mp here
  rw [walkLinks_eq_walk, walk, found]
  rfl

theorem walkLinks_up {place : List String} (here : root.look place = some .directory)
    (links : Nat) (rest : List Component) :
    walkLinks root follow links place (.up :: rest) =
      walkLinks root follow links place.dropLast rest := by
  obtain ⟨entries, found⟩ := Node.look_directory.mp here
  rw [walkLinks_eq_walk, walk, found]
  rfl

/-- What following a path does at a name, by what stands under it. -/
theorem walkLinks_name {place : List String} (here : root.look place = some .directory)
    {name : String} (short : name.utf8ByteSize ≤ nameLimit) (links : Nat)
    (rest : List Component) :
    walkLinks root follow links place (.name name :: rest) =
      match root.look (place ++ [name]) with
      | none => if rest.isEmpty then .ok (.vacant place name) else .error .notFound
      | some (.link target) =>
        if rest.isEmpty && !follow then .ok (.found (place ++ [name]) (.link target))
        else onLink root follow links place target rest
      | some _ => walkLinks root follow links (place ++ [name]) rest := by
  obtain ⟨entries, found⟩ := Node.look_directory.mp here
  have under : root.look (place ++ [name]) = (entries.lookup name).map Node.shape := by
    rw [Node.look, Node.at?_snoc, found]
    rfl
  have limit : ¬ nameLimit < name.utf8ByteSize := by omega
  rw [under, walkLinks_eq_walk, walk, found]
  simp only [Node.isDirectory, Bool.not_true, Bool.false_eq_true, if_false, if_neg limit,
    Node.child?_directory]
  cases entries.lookup name with
  | none => rfl
  | some node => cases node <;> rfl

/-- A name that is too long is refused. -/
theorem walkLinks_long {place : List String} (here : root.look place = some .directory)
    {name : String} (long : nameLimit < name.utf8ByteSize) (links : Nat)
    (rest : List Component) :
    walkLinks root follow links place (.name name :: rest) = .error .nameTooLong := by
  obtain ⟨entries, found⟩ := Node.look_directory.mp here
  rw [walkLinks_eq_walk, walk, found]
  simp [Node.isDirectory, long]

/-- Every step needs a directory to start from. -/
theorem walkLinks_cons_ok {links : Nat} {place : List String} {step : Component}
    {rest : List Component} {spot : Spot}
    (walked : walkLinks root follow links place (step :: rest) = .ok spot) :
    root.look place = some .directory := by
  rw [walkLinks_eq_walk, walk] at walked
  cases found : root.at? place with
  | none => simp [found] at walked
  | some node =>
    refine Node.look_eq_some.mpr ⟨node, found, ?_⟩
    by_contra noDirectory
    have notDirectory : node.isDirectory = false := by
      rw [← Bool.not_eq_true, Node.isDirectory_iff]
      exact noDirectory
    simp [found, notDirectory] at walked

end Steps

/-! ## Walks and following -/

/-- The place of a spot. -/
def Spot.place : Spot → List String
  | found place _ => place
  | vacant directory name => directory ++ [name]

/-- The spot of a place. -/
def Node.spot (root : Node) (place : List String) : Spot :=
  match root.at? place with
  | some node => .found place node
  | none => .vacant place.dropLast (place.getLastD "")

theorem Node.place_spot (root : Node) (place : List String) : (root.spot place).place = place := by
  unfold spot
  split
  · rfl
  · next missing =>
    rcases List.eq_nil_or_concat place with rfl | ⟨init, last, rfl⟩
    · rw [at?_nil] at missing
      cases missing
    · simp [Spot.place]

theorem Node.spot_found {root : Node} {place : List String} {node : Node}
    (found : root.at? place = some node) : root.spot place = .found place node := by
  simp [spot, found]

theorem Node.spot_vacant {root : Node} {place : List String} {name : String}
    (nothing : root.look (place ++ [name]) = none) :
    root.spot (place ++ [name]) = .vacant place name := by
  simp [spot, Node.look_eq_none.mp nothing]

/-- **Following a path is walking along it,** as far as the links are not too many. -/
theorem Walks.walkLinks_eq {root : Node} {follow : Bool} {used : Nat} {place goal : List String}
    {steps : List Component} (walk : Walks root follow used place steps goal) (links : Nat) :
    walkLinks root follow links place steps =
      if used ≤ links then .ok (root.spot goal) else .error .tooManyLinks := by
  induction walk generalizing links with
  | done here =>
    obtain ⟨node, found, -⟩ := Node.look_eq_some.mp here
    rw [walkLinks_nil, found, if_pos (Nat.zero_le _), Node.spot_found found]
  | fromRoot here _ ih => rw [walkLinks_root here, ih]
  | stay here _ ih => rw [walkLinks_here here, ih]
  | back here _ ih => rw [walkLinks_up here, ih]
  | @enter _ _ _ _ shape _ here short there noLink _ ih =>
    rw [walkLinks_name here short, there, ← ih]
    cases shape with
    | link target => exact absurd rfl (noLink target)
    | file bytes => rfl
    | directory => rfl
  | stop here short there stays =>
    obtain ⟨node, found, shape⟩ := Node.look_eq_some.mp there
    obtain rfl := Node.shape_eq_link.mp shape
    rw [walkLinks_name here short, there, if_pos (Nat.zero_le _), Node.spot_found found, stays]
    rfl
  | gap here short there =>
    rw [walkLinks_name here short, there, if_pos (Nat.zero_le _), Node.spot_vacant there]
    rfl
  | @link used _ _ _ _ rest here short there leads follows _ ih =>
    have goesOn : (rest.isEmpty && !follow) = false := by
      cases rest with
      | nil => simp [follows rfl]
      | cons step more => rfl
    rw [walkLinks_name here short, there]
    simp only [goesOn, Bool.false_eq_true, if_false]
    cases links with
    | zero => simp [onLink]
    | succ links => simp [onLink, leads, ih links]

/-- **What following a path leads to, a walk leads to.** -/
theorem walks_of_walkLinks {root : Node} {follow : Bool} {links : Nat} {place : List String}
    {steps : List Component} {spot : Spot}
    (walked : walkLinks root follow links place steps = .ok spot) :
    ∃ used ≤ links, Walks root follow used place steps spot.place := by
  induction links using Nat.strongRecOn generalizing place steps with
  | ind links ihLinks =>
    induction steps generalizing place with
    | nil =>
      rw [walkLinks_nil] at walked
      cases found : root.at? place with
      | none => simp [found] at walked
      | some node =>
        obtain rfl : Spot.found place node = spot := by simpa [found] using walked
        exact ⟨0, Nat.zero_le _, .done (Node.look_eq_some.mpr ⟨node, found, rfl⟩)⟩
    | cons step rest ihSteps =>
      have here := walkLinks_cons_ok walked
      cases step with
      | root =>
        obtain ⟨used, bound, more⟩ := ihSteps (walkLinks_root here links rest ▸ walked)
        exact ⟨used, bound, .fromRoot here more⟩
      | here =>
        obtain ⟨used, bound, more⟩ := ihSteps (walkLinks_here here links rest ▸ walked)
        exact ⟨used, bound, .stay here more⟩
      | up =>
        obtain ⟨used, bound, more⟩ := ihSteps (walkLinks_up here links rest ▸ walked)
        exact ⟨used, bound, .back here more⟩
      | name name =>
        by_cases short : name.utf8ByteSize ≤ nameLimit
        · rw [walkLinks_name here short] at walked
          cases there : root.look (place ++ [name]) with
          | none =>
            cases rest with
            | nil =>
              obtain rfl : Spot.vacant place name = spot := by simpa [there] using walked
              exact ⟨0, Nat.zero_le _, .gap here short there⟩
            | cons next more => simp [there] at walked
          | some shape =>
            cases shape with
            | file bytes =>
              simp only [there] at walked
              obtain ⟨used, bound, more⟩ := ihSteps walked
              exact ⟨used, bound, .enter here short there (by simp) more⟩
            | directory =>
              simp only [there] at walked
              obtain ⟨used, bound, more⟩ := ihSteps walked
              exact ⟨used, bound, .enter here short there (by simp) more⟩
            | link target =>
              simp only [there] at walked
              split at walked
              · next stops =>
                obtain ⟨isLast, stays⟩ : rest = [] ∧ follow = false := by simpa using stops
                subst isLast
                obtain rfl : Spot.found (place ++ [name]) (.link target) = spot := by
                  simpa using walked
                exact ⟨0, Nat.zero_le _, .stop here short there stays⟩
              · next goesOn =>
                cases links with
                | zero => simp [onLink] at walked
                | succ links =>
                  rw [onLink] at walked
                  split at walked
                  · cases walked
                  · next leads =>
                    obtain ⟨used, bound, more⟩ := ihLinks links (Nat.lt_succ_self _) walked
                    refine ⟨used + 1, Nat.succ_le_succ bound, ?_⟩
                    refine .link here short there (by simpa using leads) ?_ more
                    rintro rfl
                    simpa using goesOn
        · rw [walkLinks_long here (by omega)] at walked
          cases walked

/-- What following a path leads to is what stands there. -/
theorem spot_of_walkLinks {root : Node} {follow : Bool} {links : Nat} {place : List String}
    {steps : List Component} {spot : Spot}
    (walked : walkLinks root follow links place steps = .ok spot) :
    root.spot spot.place = spot := by
  obtain ⟨used, bound, walk⟩ := walks_of_walkLinks walked
  have again := walk.walkLinks_eq links
  rw [if_pos bound] at again
  exact Except.ok.inj (again.symm.trans walked)

theorem at?_of_walkLinks {root : Node} {follow : Bool} {links : Nat} {place goal : List String}
    {steps : List Component} {node : Node}
    (walked : walkLinks root follow links place steps = .ok (.found goal node)) :
    root.at? goal = some node := by
  have isSpot := spot_of_walkLinks walked
  rw [Spot.place, Node.spot] at isSpot
  split at isSpot
  · next found isAt =>
    obtain ⟨-, rfl⟩ := Spot.found.inj isSpot
    exact isAt
  · cases isSpot

/-- A walk that ends at a missing name ends in a directory. -/
theorem Walks.above_gap {root : Node} {follow : Bool} {used : Nat} {place directory : List String}
    {name : String} {steps : List Component}
    (walk : Walks root follow used place steps (directory ++ [name]))
    (missing : root.look (directory ++ [name]) = none) :
    root.look directory = some .directory := by
  generalize isGoal : directory ++ [name] = goal at walk missing
  induction walk with
  | done here => rw [here] at missing; cases missing
  | fromRoot _ _ ih => exact ih isGoal missing
  | stay _ _ ih => exact ih isGoal missing
  | back _ _ ih => exact ih isGoal missing
  | enter _ _ _ _ _ ih => exact ih isGoal missing
  | stop _ _ there _ => rw [there] at missing; cases missing
  | gap here _ _ =>
    obtain ⟨rfl, -⟩ := List.append_inj' isGoal rfl
    exact here
  | link _ _ _ _ _ _ ih => exact ih isGoal missing

theorem vacant_of_walkLinks {root : Node} {follow : Bool} {links : Nat}
    {place directory : List String} {steps : List Component} {name : String}
    (walked : walkLinks root follow links place steps = .ok (.vacant directory name)) :
    root.look directory = some .directory ∧ root.look (directory ++ [name]) = none := by
  obtain ⟨used, -, walk⟩ := walks_of_walkLinks walked
  have missing : root.look (directory ++ [name]) = none := by
    have isSpot := spot_of_walkLinks walked
    rw [Spot.place, Node.spot] at isSpot
    split at isSpot
    · cases isSpot
    · next nothing => exact Node.look_eq_none.mpr nothing
  exact ⟨walk.above_gap missing, missing⟩

/-- A walk on which a link at the end would not be followed stops at that link, or ends where it
ends when links are followed. -/
theorem Walks.unfollowed {root : Node} {follow : Bool} {used : Nat} {place goal : List String}
    {steps : List Component} (walk : Walks root follow used place steps goal) :
    ∃ fewer ≤ used, ∃ goal', Walks root false fewer place steps goal' ∧
      (goal' = goal ∨ ∃ target, root.look goal' = some (.link target)) := by
  induction walk with
  | done here => exact ⟨0, Nat.le_refl 0, _, .done here, .inl rfl⟩
  | fromRoot here _ ih =>
    obtain ⟨fewer, bound, goal', more, ends⟩ := ih
    exact ⟨fewer, bound, goal', .fromRoot here more, ends⟩
  | stay here _ ih =>
    obtain ⟨fewer, bound, goal', more, ends⟩ := ih
    exact ⟨fewer, bound, goal', .stay here more, ends⟩
  | back here _ ih =>
    obtain ⟨fewer, bound, goal', more, ends⟩ := ih
    exact ⟨fewer, bound, goal', .back here more, ends⟩
  | enter here short there noLink _ ih =>
    obtain ⟨fewer, bound, goal', more, ends⟩ := ih
    exact ⟨fewer, bound, goal', .enter here short there noLink more, ends⟩
  | stop here short there _ =>
    exact ⟨0, Nat.le_refl 0, _, .stop here short there rfl, .inl rfl⟩
  | gap here short there => exact ⟨0, Nat.le_refl 0, _, .gap here short there, .inl rfl⟩
  | @link used _ _ _ target rest here short there leads _ _ ih =>
    cases rest with
    | nil =>
      exact ⟨0, Nat.zero_le _, _, .stop here short there rfl, .inr ⟨target, there⟩⟩
    | cons step rest =>
      obtain ⟨fewer, bound, goal', more, ends⟩ := ih
      exact ⟨fewer + 1, Nat.succ_le_succ bound, goal',
        .link here short there leads nofun more, ends⟩

/-! ## Joining and splitting -/

section Joining

variable {root : Node} {follow : Bool}

/-- Walks with steps start from a directory. -/
theorem Walks.starts_directory {used : Nat} {place goal : List String} {step : Component}
    {rest : List Component} (walk : Walks root follow used place (step :: rest) goal) :
    root.look place = some .directory := by
  cases walk <;> assumption

/-- A walk to a directory goes on with any walk from there. Links at its end are followed. -/
theorem Walks.append {used more : Nat} {place middle goal : List String}
    {first second : List Component} (walk : Walks root true used place first middle)
    (onward : Walks root follow more middle second goal)
    (isDirectory : root.look middle = some .directory)
    (follows : second = [] → follow = true) :
    Walks root follow (used + more) place (first ++ second) goal := by
  induction walk with
  | done _ => simpa using onward
  | fromRoot here _ ih => exact .fromRoot here (ih onward isDirectory)
  | stay here _ ih => exact .stay here (ih onward isDirectory)
  | back here _ ih => exact .back here (ih onward isDirectory)
  | enter here short there noLink _ ih =>
    exact .enter here short there noLink (ih onward isDirectory)
  | stop _ _ _ stays => cases stays
  | gap _ _ there => rw [there] at isDirectory; cases isDirectory
  | @link used _ _ _ _ rest here short there leads _ _ ih =>
    have joined := ih onward isDirectory
    rw [List.append_assoc] at joined
    rw [Nat.add_right_comm]
    refine .link here short there leads ?_ joined
    intro none
    exact follows (List.append_eq_nil_iff.mp none).2

/-- A walk can be split before any of its steps. -/
theorem Walks.split {used : Nat} {place goal : List String} {first second : List Component}
    (walk : Walks root follow used place (first ++ second) goal) (more : second ≠ []) :
    ∃ before after middle, used = before + after ∧ Walks root true before place first middle ∧
      root.look middle = some .directory ∧ Walks root follow after middle second goal := by
  -- Nothing has been walked yet where the split comes first.
  have atStart : ∀ {used : Nat} {place goal : List String},
      Walks root follow used place second goal →
        ∃ before after middle, used = before + after ∧ Walks root true before place [] middle ∧
          root.look middle = some .directory ∧ Walks root follow after middle second goal := by
    intro used place goal onward
    obtain ⟨step, rest, rfl⟩ := List.exists_cons_of_ne_nil more
    have here := onward.starts_directory
    exact ⟨0, used, place, (Nat.zero_add _).symm, .done here, here, onward⟩
  generalize whole : first ++ second = steps at walk
  induction walk generalizing first with
  | done _ => exact absurd (List.append_eq_nil_iff.mp whole).2 more
  | @fromRoot _ place _ rest here onward ih =>
    cases first with
    | nil =>
      obtain rfl : second = _ := whole
      exact atStart (.fromRoot here onward)
    | cons step first =>
      obtain ⟨rfl, rfl⟩ := List.cons.inj whole
      obtain ⟨before, after, middle, sum, start, isDirectory, rest⟩ := ih rfl
      exact ⟨before, after, middle, sum, .fromRoot here start, isDirectory, rest⟩
  | @stay _ place _ rest here onward ih =>
    cases first with
    | nil =>
      obtain rfl : second = _ := whole
      exact atStart (.stay here onward)
    | cons step first =>
      obtain ⟨rfl, rfl⟩ := List.cons.inj whole
      obtain ⟨before, after, middle, sum, start, isDirectory, rest⟩ := ih rfl
      exact ⟨before, after, middle, sum, .stay here start, isDirectory, rest⟩
  | @back _ place _ rest here onward ih =>
    cases first with
    | nil =>
      obtain rfl : second = _ := whole
      exact atStart (.back here onward)
    | cons step first =>
      obtain ⟨rfl, rfl⟩ := List.cons.inj whole
      obtain ⟨before, after, middle, sum, start, isDirectory, rest⟩ := ih rfl
      exact ⟨before, after, middle, sum, .back here start, isDirectory, rest⟩
  | @enter _ place _ _ _ rest here short there noLink onward ih =>
    cases first with
    | nil =>
      obtain rfl : second = _ := whole
      exact atStart (.enter here short there noLink onward)
    | cons step first =>
      obtain ⟨rfl, rfl⟩ := List.cons.inj whole
      obtain ⟨before, after, middle, sum, start, isDirectory, rest⟩ := ih rfl
      exact ⟨before, after, middle, sum, .enter here short there noLink start, isDirectory, rest⟩
  | @stop place _ _ here short there stays =>
    cases first with
    | nil =>
      obtain rfl : second = _ := whole
      exact atStart (.stop here short there stays)
    | cons step first => exact absurd (List.append_eq_nil_iff.mp (List.cons.inj whole).2).2 more
  | @gap place _ here short there =>
    cases first with
    | nil =>
      obtain rfl : second = _ := whole
      exact atStart (.gap here short there)
    | cons step first => exact absurd (List.append_eq_nil_iff.mp (List.cons.inj whole).2).2 more
  | @link used place _ _ _ rest here short there leads follows onward ih =>
    cases first with
    | nil =>
      obtain rfl : second = _ := whole
      exact atStart (.link here short there leads follows onward)
    | cons step first =>
      obtain ⟨rfl, rfl⟩ := List.cons.inj whole
      obtain ⟨before, after, middle, sum, start, isDirectory, rest⟩ :=
        ih (List.append_assoc _ _ _)
      refine ⟨before + 1, after, middle, by omega, ?_, isDirectory, rest⟩
      exact .link here short there leads (fun _ => rfl) start

/-- A walk to a directory can be split anywhere, and leads to a directory first. -/
theorem Walks.split_directory {used : Nat} {place goal : List String}
    {first second : List Component} (walk : Walks root true used place (first ++ second) goal)
    (isDirectory : root.look goal = some .directory) :
    ∃ before after middle, used = before + after ∧ Walks root true before place first middle ∧
      root.look middle = some .directory ∧ Walks root true after middle second goal := by
  cases second with
  | nil =>
    rw [List.append_nil] at walk
    exact ⟨used, 0, goal, rfl, walk, isDirectory, .done isDirectory⟩
  | cons step rest => exact walk.split (by simp)

/-- **Steps that stay where they are make no difference** to a walk from a directory to a
directory. -/
theorem walks_moving_iff {used : Nat} {place goal : List String} {steps : List Component}
    (here : root.look place = some .directory) (isDirectory : root.look goal = some .directory) :
    Walks root true used place (steps.filter (· != .here)) goal ↔
      Walks root true used place steps goal := by
  induction steps generalizing used place with
  | nil => exact Iff.rfl
  | cons step rest ih =>
    by_cases stays : step = .here
    · subst stays
      rw [List.filter_cons_of_neg (by simp), ih here]
      refine ⟨.stay here, fun walk => ?_⟩
      cases walk with
      | stay _ more => exact more
    · rw [List.filter_cons_of_pos (by simpa using stays)]
      constructor
      · intro walk
        obtain ⟨before, after, middle, rfl, first, atMiddle, onward⟩ :=
          (show Walks root true used place ([step] ++ _) goal from walk).split_directory isDirectory
        exact first.append ((ih atMiddle).mp onward) atMiddle fun _ => rfl
      · intro walk
        obtain ⟨before, after, middle, rfl, first, atMiddle, onward⟩ :=
          (show Walks root true used place ([step] ++ _) goal from walk).split_directory isDirectory
        exact first.append ((ih atMiddle).mpr onward) atMiddle fun _ => rfl

/-- A walk to something that begins with a name finds something under that name. -/
theorem Walks.first_name {used : Nat} {place goal : List String} {name : String}
    {rest : List Component} (walk : Walks root follow used place (.name name :: rest) goal)
    (found : root.look goal ≠ none) :
    name.utf8ByteSize ≤ nameLimit ∧ root.look (place ++ [name]) ≠ none := by
  cases walk with
  | enter _ short there => exact ⟨short, by simp [there]⟩
  | stop _ short there => exact ⟨short, by simp [there]⟩
  | gap _ _ there => exact absurd there found
  | link _ short there => exact ⟨short, by simp [there]⟩

end Joining

/-! ## Walks in another tree -/

section Changing

variable {root after : Node} {follow : Bool}

/-- **What is found is still found where everything stands that stood before.** -/
theorem Walks.mono {used : Nat} {place goal : List String} {steps : List Component}
    (kept : ∀ place shape, root.look place = some shape → after.look place = some shape)
    (walk : Walks root follow used place steps goal) (found : root.look goal ≠ none) :
    Walks after follow used place steps goal := by
  induction walk with
  | done here => exact .done (kept _ _ here)
  | fromRoot here _ ih => exact .fromRoot (kept _ _ here) (ih found)
  | stay here _ ih => exact .stay (kept _ _ here) (ih found)
  | back here _ ih => exact .back (kept _ _ here) (ih found)
  | enter here short there noLink _ ih =>
    exact .enter (kept _ _ here) short (kept _ _ there) noLink (ih found)
  | stop here short there stays => exact .stop (kept _ _ here) short (kept _ _ there) stays
  | gap _ _ there => exact absurd there found
  | link here short there leads follows _ ih =>
    exact .link (kept _ _ here) short (kept _ _ there) leads follows (ih found)

/-- A walk to a missing name leads to what is put there, if that is no link. -/
theorem Walks.fill {used : Nat} {place goal : List String} {steps : List Component}
    {shape : Shape}
    (kept : ∀ place shape, root.look place = some shape → after.look place = some shape)
    (walk : Walks root follow used place steps goal) (missing : root.look goal = none)
    (put : after.look goal = some shape) (noLink : ∀ target, shape ≠ .link target) :
    Walks after follow used place steps goal := by
  induction walk with
  | done here => rw [here] at missing; cases missing
  | fromRoot here _ ih => exact .fromRoot (kept _ _ here) (ih missing put)
  | stay here _ ih => exact .stay (kept _ _ here) (ih missing put)
  | back here _ ih => exact .back (kept _ _ here) (ih missing put)
  | enter here short there entered _ ih =>
    exact .enter (kept _ _ here) short (kept _ _ there) entered (ih missing put)
  | stop _ _ there _ => rw [there] at missing; cases missing
  | gap here short _ => exact .enter (kept _ _ here) short put noLink (.done put)
  | link here short there leads follows _ ih =>
    exact .link (kept _ _ here) short (kept _ _ there) leads follows (ih missing put)

/-- A walk in a tree in which only files are new has been one before: it passes no file, and where
it ends at a new one, a name was missing. -/
theorem Walks.of_files {used : Nat} {place goal : List String} {steps : List Component}
    (kept : ∀ place shape, root.look place = some shape → after.look place = some shape)
    (new : ∀ place shape, root.look place = none → after.look place = some shape →
      ∃ bytes, shape = .file bytes)
    (walk : Walks after follow used place steps goal) (start : root.look place ≠ none) :
    Walks root follow used place steps goal := by
  have before : ∀ {place shape}, after.look place = some shape → root.look place ≠ none →
      root.look place = some shape := by
    intro place shape stands found
    obtain ⟨other, stood⟩ := Option.ne_none_iff_exists'.mp found
    exact stood.trans ((kept _ _ stood).symm.trans stands)
  have atRoot : root.look [] ≠ none := by simp [Node.look]
  induction walk with
  | done here => exact .done (before here start)
  | fromRoot here _ ih => exact .fromRoot (before here start) (ih atRoot)
  | stay here _ ih => exact .stay (before here start) (ih start)
  | @back _ place _ _ here _ ih =>
    have isDirectory := before here start
    refine .back isDirectory (ih ?_)
    rcases List.eq_nil_or_concat place with rfl | ⟨init, last, rfl⟩
    · exact atRoot
    · rw [List.concat_eq_append] at isDirectory ⊢
      rw [List.dropLast_concat, Node.look_directory_of_append isDirectory (List.cons_ne_nil _ _)]
      exact Option.some_ne_none _
  | @enter _ place _ name shape rest here short there noLink more ih =>
    have isDirectory := before here start
    by_cases found : root.look (place ++ [name]) = none
    · obtain ⟨bytes, rfl⟩ := new _ _ found there
      cases rest with
      | nil =>
        cases more
        exact .gap isDirectory short found
      | cons step rest =>
        rw [more.starts_directory] at there
        cases there
    · exact .enter isDirectory short (before there found) noLink (ih found)
  | @stop place name target here short there stays =>
    have found : root.look (place ++ [name]) ≠ none := by
      intro missing
      obtain ⟨bytes, isFile⟩ := new _ _ missing there
      cases isFile
    exact .stop (before here start) short (before there found) stays
  | @gap place name here short there =>
    have missing : root.look (place ++ [name]) = none := by
      by_contra found
      obtain ⟨shape, stood⟩ := Option.ne_none_iff_exists'.mp found
      rw [kept _ _ stood] at there
      cases there
    exact .gap (before here start) short missing
  | @link _ place _ name target _ here short there leads follows _ ih =>
    have found : root.look (place ++ [name]) ≠ none := by
      intro missing
      obtain ⟨bytes, isFile⟩ := new _ _ missing there
      cases isFile
    exact .link (before here start) short (before there found) leads follows (ih start)

/-- Where only the use of one name changes that is no directory, a walk to a directory remains,
unless it follows a link under that name; then what the link leads to is on the way. -/
theorem Walks.elsewhere {used : Nat} {place goal directory : List String} {name : String}
    {steps : List Component}
    (kept : ∀ place shape, ¬ directory ++ [name] <+: place → root.look place = some shape →
      after.look place = some shape)
    (noDirectory : root.look (directory ++ [name]) ≠ some .directory)
    (walk : Walks root true used place steps goal)
    (isDirectory : root.look goal = some .directory) :
    Walks after true used place steps goal ∨
      ∃ target rest before, root.look (directory ++ [name]) = some (.link target) ∧
        target.isEmpty = false ∧ before < used ∧
          Walks root true before directory (pathSteps ⟨target⟩ ++ rest) goal := by
  -- A directory does not stand at the name nor below it.
  have outside : ∀ place, root.look place = some .directory → ¬ directory ++ [name] <+: place :=
    fun _ => Node.not_prefix_of_directory noDirectory
  induction walk with
  | done here =>
    rw [here] at isDirectory
    exact .inl (.done (kept _ _ (outside _ (here.trans isDirectory)) here))
  | fromRoot here _ ih =>
    refine (ih isDirectory).imp (.fromRoot (kept _ _ (outside _ here) here)) id
  | stay here _ ih =>
    refine (ih isDirectory).imp (.stay (kept _ _ (outside _ here) here)) id
  | back here _ ih =>
    refine (ih isDirectory).imp (.back (kept _ _ (outside _ here) here)) id
  | @enter _ place _ entered shape rest here short there noLink more ih =>
    by_cases same : place ++ [entered] = directory ++ [name]
    · -- What is entered there is a file, from which no walk leads to a directory.
      rw [same] at there more
      exfalso
      cases rest with
      | nil =>
        cases more with
        | done _ => exact noDirectory isDirectory
      | cons step rest => exact noDirectory more.starts_directory
    · have apart : ¬ directory ++ [name] <+: place ++ [entered] := by
        intro isPrefix
        rcases List.prefix_concat_iff.mp isPrefix with equal | within
        · exact same equal.symm
        · exact outside _ here within
      exact (ih isDirectory).imp
        (.enter (kept _ _ (outside _ here) here) short (kept _ _ apart there) noLink) id
  | stop _ _ _ stays => cases stays
  | gap _ _ there => rw [there] at isDirectory; cases isDirectory
  | @link used place _ passed target rest here short there leads follows more ih =>
    by_cases same : place ++ [passed] = directory ++ [name]
    · obtain ⟨rfl, equal⟩ := List.append_inj' same rfl
      obtain rfl : passed = name := by simpa using equal
      exact .inr ⟨target, rest, used, there, leads, Nat.lt_succ_self _, more⟩
    · have apart : ¬ directory ++ [name] <+: place ++ [passed] := by
        intro isPrefix
        rcases List.prefix_concat_iff.mp isPrefix with equal | within
        · exact same equal.symm
        · exact outside _ here within
      refine (ih isDirectory).imp
        (.link (kept _ _ (outside _ here) here) short (kept _ _ apart there) leads follows) ?_
      rintro ⟨target', rest', before, linked, leads', bound, onward⟩
      exact ⟨target', rest', before, linked, leads', Nat.lt_succ_of_lt bound, onward⟩

end Changing

end PluginAudit.FileTree
