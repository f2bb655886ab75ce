import TestInventory.Evaluation.Scope

/-!
# Arenas with other bindings

Everything that names are bound to may be replaced by a map.  Which names are bound in
which scopes stays the same, so names are found where they were, with the image of what
they were bound to, and a name is bound in the scope in which it was.
-/

namespace TestInventory

/-- Bindings with everything that names are bound to replaced. -/
def Bindings.mapBound (image : Binding → Binding) (bindings : Bindings) : Bindings :=
  bindings.map fun entry => (entry.1, image entry.2)

/-- A scope with everything that names are bound to replaced. -/
def Scope.mapBound (image : Binding → Binding) (scope : Scope) : Scope :=
  { scope with bindings := scope.bindings.mapBound image }

/-- An arena with everything that names are bound to replaced. -/
def Scopes.mapBound (image : Binding → Binding) (scopes : Scopes) : Scopes :=
  ⟨scopes.arena.map (Scope.mapBound image)⟩

variable (image : Binding → Binding)

theorem Bindings.find?_mapBound (bindings : Bindings) (name : String) :
    (bindings.mapBound image).find? name = (bindings.find? name).map image := by
  induction bindings with
  | nil => rfl
  | cons entry rest ih =>
      by_cases here : entry.1 = name
      · simp [Bindings.mapBound, Bindings.find?, here]
      · simpa [Bindings.mapBound, Bindings.find?, here] using ih

theorem Bindings.bind_mapBound (bindings : Bindings) (name : String) (binding : Binding) :
    (bindings.mapBound image).bind name (image binding) =
      (bindings.bind name binding).mapBound image := by
  induction bindings with
  | nil => rfl
  | cons entry rest ih =>
      by_cases here : entry.1 = name
      · simp [Bindings.mapBound, Bindings.bind, here]
      · simpa [Bindings.mapBound, Bindings.bind, here] using ih

theorem Scope.binds_mapBound (scope : Scope) (name : String) :
    (scope.mapBound image).bindings.binds name = scope.bindings.binds name := by
  rw [Bindings.binds, Scope.mapBound, Bindings.find?_mapBound, Option.isSome_map]
  rfl

namespace Scopes

@[simp]
theorem size_mapBound (scopes : Scopes) : (scopes.mapBound image).size = scopes.size :=
  Array.size_map

theorem initial_mapBound : initial.mapBound image = initial := by
  simp [mapBound, initial, Scope.mapBound, Bindings.mapBound]

theorem add_mapBound (scopes : Scopes) (parent : Nat) (ofFunction : Bool) :
    (scopes.mapBound image).add parent ofFunction =
      (scopes.add parent ofFunction).mapBound image := by
  simp [mapBound, add, Scope.mapBound, Bindings.mapBound]

theorem bindIn_mapBound (scopes : Scopes) (index : Nat) (name : String) (binding : Binding) :
    (scopes.mapBound image).bindIn index name (image binding) =
      (scopes.bindIn index name binding).mapBound image := by
  refine congrArg Scopes.mk (Array.ext (by simp [mapBound, bindIn]) fun at_ _ _ => ?_)
  simp only [mapBound, bindIn, Array.getElem_modify, Array.getElem_map]
  by_cases here : index = at_
  · simp only [here, if_true, Scope.mapBound, Bindings.bind_mapBound]
  · simp only [here, if_false]

theorem getElem?_mapBound (scopes : Scopes) (index : Nat) :
    (scopes.mapBound image).arena[index]? = scopes.arena[index]?.map (Scope.mapBound image) := by
  rw [mapBound, Array.getElem?_map]

theorem chain_mapBound (scopes : Scopes) (start : Nat) :
    (scopes.mapBound image).chain start =
      (scopes.chain start).map fun entry => (entry.1, entry.2.mapBound image) := by
  induction start using Nat.strongRecOn with
  | _ start ih =>
      rw [chain, chain, getElem?_mapBound]
      cases scopes.arena[start]? with
      | none => rfl
      | some scope =>
          simp only [Option.map_some, List.map_cons, Scope.mapBound]
          cases scope.parent with
          | none => rfl
          | some parent =>
              by_cases smaller : parent < start
              · simp only [if_pos smaller, ih parent smaller, Scope.mapBound]
              · simp only [if_neg smaller, List.map_nil]

theorem lookup_mapBound (scopes : Scopes) (start : Nat) (name : String) :
    (scopes.mapBound image).lookup start name = (scopes.lookup start name).map image := by
  rw [lookup, lookup, chain_mapBound]
  induction scopes.chain start with
  | nil => rfl
  | cons entry rest ih =>
      simp only [List.map_cons, List.findSome?_cons, Scope.mapBound, Bindings.find?_mapBound]
      cases entry.2.bindings.find? name with
      | none => exact ih
      | some binding => rfl

/-- The scope that a search along a chain finds does not depend on what names are bound to. -/
theorem find?_chain_mapBound (scopes : Scopes) (start : Nat) (wanted : Scope → Bool)
    (same : ∀ scope, wanted (scope.mapBound image) = wanted scope) :
    (((scopes.mapBound image).chain start).find? (wanted ·.2)).map (·.1) =
      ((scopes.chain start).find? (wanted ·.2)).map (·.1) := by
  rw [chain_mapBound, List.find?_map]
  simp only [Function.comp_def, same, Option.map_map]

theorem declare_mapBound (scopes : Scopes) (start : Nat) (hoisted : Bool) (name : String)
    (binding : Binding) :
    (scopes.mapBound image).declare start hoisted name (image binding) =
      (scopes.declare start hoisted name binding).mapBound image := by
  rw [declare, functionScope, scopes.find?_chain_mapBound image start (·.ofFunction) fun _ => rfl,
    bindIn_mapBound]
  rfl

theorem assign_mapBound (scopes : Scopes) (start : Nat) (name : String) (binding : Binding) :
    (scopes.mapBound image).assign start name (image binding) =
      (scopes.assign start name binding).mapBound image := by
  rw [assign, owner, scopes.find?_chain_mapBound image start (·.bindings.binds name)
    fun scope => scope.binds_mapBound image name, bindIn_mapBound]
  rfl

end Scopes

end TestInventory
