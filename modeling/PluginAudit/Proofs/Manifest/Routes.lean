import PluginAudit.Proofs.Manifest.Acceptance

/-!
# Routes of actions

An action that opens a popup or redirects leads to a route. The schema asks that
such an action has a route, and that a route that an action has is declared, if
the manifest declares any. So in a manifest without findings the routes of
actions lead to routes of the model (`declared_routes_resolve`).

A manifest need not declare routes, and the routes of its actions are then not
looked up: a manifest without findings can have an action that leads to a route
of which the model knows nothing (`undeclared_route_is_kept`).
-/

set_option autoImplicit false

namespace PluginAudit

namespace Manifest

/-! ## Actions and routes of the model -/

section Model

variable {members : Json.Members}

/-- An action of the model is made of an object in the field for actions. -/
theorem mem_actions_iff {action : Action} :
    action ∈ (ofMembers members).actions ↔ ∃ entry : Json.Members,
      .object entry ∈ declared members "actions" ∧ Action.ofMembers? entry = some action := by
  simp only [ofMembers, Json.Members.objects, declared, List.mem_filterMap, asObject?_eq_some]
  constructor
  · rintro ⟨entry, ⟨item, among, rfl⟩, lowered⟩
    exact ⟨entry, among, lowered⟩
  · rintro ⟨entry, among, lowered⟩
    exact ⟨entry, ⟨_, among, rfl⟩, lowered⟩

/-- A route of the model is a text in the field for routes. -/
theorem mem_routes_iff {route : String} :
    route ∈ (ofMembers members).routes ↔ .string route ∈ declared members "routes" := by
  simp only [ofMembers, Json.Members.strings, declared, List.mem_filterMap, asString?_eq_some,
    exists_eq_right]

/-- What an action has from its object. -/
theorem action_ofMembers? {entry : Json.Members} {action : Action}
    (lowered : Action.ofMembers? entry = some action) :
    entry.string? "label" = some action.label ∧ entry.string? "type" = some action.kind.name ∧
      entry.string? "route" = action.route := by
  simp only [Action.ofMembers?, Option.bind_eq_bind, Option.bind_eq_some_iff, Option.pure_def,
    Option.some.injEq] at lowered
  obtain ⟨known, ⟨kind, isKind, isKnown⟩, label, isLabel, rfl⟩ := lowered
  exact ⟨isLabel, by rw [ActionKind.ofName?_eq_some.mp isKnown, isKind], rfl⟩

end Model

/-! ## What the schema asks of them -/

section Clean

variable {rules : Rules} {pluginId : String} {members : Json.Members}

/-- An accepted action that leads to a route has the key for it. -/
theorem Accepted.has_route (accepted : Accepted members) {entry : Json.Members}
    (among : .object entry ∈ declared members "actions") {kind : ActionKind}
    (isKind : entry.string? "type" = some kind.name) (needsRoute : kind.needsRoute = true) :
    entry.contains "route" = true := by
  have isNamed : kind.name = "popup" ∨ kind.name = "redirect" :=
    leadsToRoute_iff.mp ⟨kind, ActionKind.ofName?_eq_some.mpr rfl, needsRoute⟩
  have asked := (accepted.actions _ among).2
  simp only [hasTexts_object, hasKeys_object, List.forall_mem_singleton, isKind,
    Option.some.injEq] at asked
  exact asked isNamed

/-- Where a manifest declares routes, an action's route is one of them. -/
theorem Unremarkable.route_declared (unremarkable : Unremarkable rules pluginId members)
    {routes : List Json} (areRoutes : members.get? "routes" = some (.array routes))
    {entry : Json.Members} (among : .object entry ∈ declared members "actions")
    {kind route : String} (isKind : entry.string? "type" = some kind)
    (isRoute : entry.string? "route" = some route) : .string route ∈ declared members "routes" := by
  refine mem_declared_iff.mpr ⟨routes, areRoutes, ?_⟩
  refine unremarkable.routes routes areRoutes _ among kind route ?_
  simp [isKind, isRoute]

end Clean

/-- **Actions lead to routes that are declared.** In a manifest without findings an action that
leads to a route has the key for it, and a text under that key is the route of the action in the
model; where the manifest declares routes, it is one of them. -/
theorem declared_routes_resolve {layout : Layout} {rules : Rules} {pluginId : String}
    {members : Json.Members} (clean : check layout rules pluginId members = []) :
    ∀ action ∈ (ofMembers members).actions, action.kind.needsRoute = true →
      ∃ entry : Json.Members, .object entry ∈ declared members "actions" ∧
        Action.ofMembers? entry = some action ∧ entry.contains "route" = true ∧
          ∀ route, entry.get? "route" = some (.string route) → action.route = some route ∧
            (members.contains "routes" = true → route ∈ (ofMembers members).routes) := by
  obtain ⟨accepted, unremarkable⟩ := check_eq_nil_iff.mp clean
  intro action among needsRoute
  obtain ⟨entry, isEntry, lowered⟩ := mem_actions_iff.mp among
  obtain ⟨-, isKind, isRoute⟩ := action_ofMembers? lowered
  refine ⟨entry, isEntry, lowered, accepted.has_route isEntry isKind needsRoute, ?_⟩
  intro route isText
  have hasRoute := Json.Members.string?_eq_some.mpr isText
  refine ⟨isRoute.symm.trans hasRoute, fun declares => ?_⟩
  obtain ⟨value, isValue⟩ := Json.Members.contains_iff.mp declares
  obtain ⟨routes, rfl⟩ := accepted.arrays "routes" (by simp) value isValue
  exact mem_routes_iff.mpr (unremarkable.route_declared isValue isEntry isKind hasRoute)

/-! ## Two manifests -/

/-- A manifest with a popup and given further fields. -/
def popupManifest (further : Json.Members) : Json.Members :=
  [("id", .string "p"), ("name", .string "n"), ("description", .string "d"), ("hooks", .array []),
    ("actions", .array [.object
      [("label", .string "l"), ("type", .string "popup"), ("route", .string "status")]])] ++ further

/-- That manifest with two routes, of which one is the popup's. -/
def routedManifest : Json.Members :=
  popupManifest [("routes", .array [.string "home", .string "status"])]

/-- **A popup leads to its declared route.** -/
theorem declared_popup_resolves :
    check .standard ⟨.standard, [], []⟩ "p" routedManifest = [] ∧
      ⟨"l", .popup, some "status"⟩ ∈ (ofMembers routedManifest).actions ∧
      ∃ entry : Json.Members, .object entry ∈ declared routedManifest "actions" ∧
        Action.ofMembers? entry = some ⟨"l", .popup, some "status"⟩ ∧
        entry.contains "route" = true ∧
          ∀ route, entry.get? "route" = some (.string route) → some "status" = some route ∧
            (routedManifest.contains "routes" = true →
          route ∈ (ofMembers routedManifest).routes) := by
  have clean : check .standard ⟨.standard, [], []⟩ "p" routedManifest = [] := rfl
  have isAction : ⟨"l", .popup, some "status"⟩ ∈ (ofMembers routedManifest).actions := by decide
  exact ⟨clean, isAction, declared_routes_resolve clean _ isAction rfl⟩

/-- **A route that is looked up nowhere is kept:** a manifest without findings that declares no
routes can have a popup that leads to one. -/
theorem undeclared_route_is_kept :
    (∀ layout rules, check layout rules "p" (popupManifest []) = []) ∧
      (ofMembers (popupManifest [])).actions = [⟨"l", .popup, some "status"⟩] ∧
      ActionKind.popup.needsRoute = true ∧ "status" ∉ (ofMembers (popupManifest [])).routes := by
  refine ⟨fun layout rules => rfl, by decide, rfl, by decide⟩

end Manifest

end PluginAudit
