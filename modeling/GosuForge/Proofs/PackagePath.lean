import GosuForge.Proofs.LoadedTree
import GosuForge.Proofs.Ownership

/-!
# Package paths of parts

The way up from an element goes through each element above it, so the package path up to one of them
is a part of the path up to any other that is further above; and from an element that is not on the
way nothing is cut off.

* `Model.ClimbsTo.mem_iff`: what is met on the way up;
* `Model.IsOwnershipTree`: parents and lists agree, from a root that has no parent, as they do in all
  that is loaded (`LoadedModel.isOwnershipTree`);
* `Model.packagePath_eq`: a package path as a part of the way up;
* `Model.PathsCompose`, `Model.pathsCompose`: how the paths of an element go together.
-/

namespace GosuForge

namespace Model

variable {m : Model} {root id : ElementId} {outer : List ElementId}

/-- The way up meets what the element is under. -/
theorem ClimbsTo.mem_iff (h : m.ClimbsTo root id outer) {x : ElementId} :
    x ∈ id :: outer ↔ m.Under id x := by
  induction h with
  | root none =>
    rw [List.mem_singleton]
    constructor
    · rintro rfl
      exact .refl
    · intro way
      rcases Relation.ReflTransGen.cases_head way with same | ⟨parent, up, -⟩
      · exact same.symm
      · rw [none] at up
        cases up
  | @step id parent outer up _ ih =>
    rw [List.mem_cons, ih]
    constructor
    · rintro (rfl | above)
      · exact .refl
      · exact .head up above
    · intro way
      rcases Relation.ReflTransGen.cases_head way with same | ⟨next, up', above⟩
      · exact .inl same.symm
      · rw [up] at up'
        cases up'
        exact .inr above

/-! ## Trees -/

/-- An element of the tree is the one parent of what it lists, and all that the tree contains are
elements that can be asked for what encloses them. -/
structure IsOwnershipTree (m : Model) (root : ElementId) : Prop where
  top : (m.get root).parent = none
  parent : ∀ owner, m.Contains root owner → ∀ id ∈ m.listedBy owner, (m.get id).parent = some owner
  read_eq : ∀ id, m.Contains root id → m.read id = .ok (m.get id)
  askFor_eq : ∀ id, m.Contains root id → m.askFor id .listEnclosing = .ok ()

namespace IsOwnershipTree

theorem climbsTo (tree : m.IsOwnershipTree root) (h : m.Contains root id) :
    m.ClimbsTo root id (m.ancestors id) ∧ ∀ x ∈ m.ancestors id, m.Contains root x :=
  climbsTo_of_contains tree.parent tree.top h

theorem namesOf_eq (tree : m.IsOwnershipTree root) {ids : List ElementId}
    (inside : ∀ id ∈ ids, m.Contains root id) :
    m.namesOf ids = .ok (ids.map fun id => (m.get id).name) := by
  rw [namesOf, Outcome.mapM_eq_ok, List.forall₂_map_right_iff, List.forall₂_same]
  intro id hid
  rw [tree.read_eq id (inside id hid)]
  rfl

end IsOwnershipTree

end Model

/-- What is loaded is such a tree. -/
theorem LoadedModel.isOwnershipTree {document : Value} {loaded : LoadedModel}
    (h : ofDocument document = .ok loaded) :
    loaded.design.model.IsOwnershipTree loaded.root := by
  obtain ⟨_, whole, _, _, _, r⟩ := ofDocument_eq_ok h
  have top := r.placed.1.parent_eq
  rw [← r.root_eq] at top
  refine ⟨top, fun owner _ => (r.isParent owner).parent, fun id _ => ?_, fun id _ => ?_⟩
  · exact Model.read_of_isBuilt (r.allBuilt.isBuilt_get id)
  · rw [Model.askFor, Element.hides_of_isBuilt (r.allBuilt.isBuilt_get id),
      if_neg Bool.false_ne_true]

namespace Model

variable {m : Model} {root id e r r' : ElementId}

/-! ## Paths as parts of ways -/

theorem upTo_none (ids : List ElementId) : upTo none ids = ids := by
  induction ids with
  | nil => rfl
  | cons id rest ih => rw [upTo, if_neg (Option.some_ne_none id), ih]

/-- Nothing is cut off before the first that is asked for. -/
theorem upTo_append {before ids : List ElementId} (h : r ∉ before) :
    upTo (some r) (before ++ ids) = before ++ upTo (some r) ids := by
  induction before with
  | nil => rfl
  | cons id rest ih =>
    rw [List.mem_cons, not_or] at h
    obtain ⟨other, further⟩ := h
    rw [List.cons_append, upTo, if_neg (fun same => other (Option.some.inj same).symm), ih further,
      List.cons_append]

theorem upTo_of_not_mem {ids : List ElementId} (h : r ∉ ids) : upTo (some r) ids = ids := by
  have whole : upTo (some r) (ids ++ []) = ids ++ upTo (some r) [] := upTo_append h
  rwa [List.append_nil, upTo, List.append_nil] at whole

theorem upTo_subset (last : Option ElementId) (ids : List ElementId) : upTo last ids ⊆ ids := by
  induction ids with
  | nil => exact List.Subset.refl _
  | cons id rest ih =>
    rw [upTo]
    split
    · exact List.cons_subset_cons id (List.nil_subset rest)
    · exact List.cons_subset_cons id ih

/-- What encloses an element up to a root: nothing if it is the root itself. -/
def enclosingUpTo (m : Model) (id : ElementId) (root : Option ElementId) : List ElementId :=
  (upTo root (id :: m.ancestors id)).tail

/-- An element that is itself the root is no special case of the way up. -/
theorem packagePath_eq (m : Model) (id : ElementId) (root : Option ElementId) :
    m.packagePath id root = (m.namesOf (m.enclosingUpTo id root)).map List.reverse := by
  rw [packagePath, enclosingUpTo, upTo]
  split <;> rfl

theorem enclosingUpTo_none (m : Model) (id : ElementId) :
    m.enclosingUpTo id none = m.ancestors id := by
  rw [enclosingUpTo, upTo_none, List.tail_cons]

/-- What is not on the way up cuts off nothing. -/
theorem ClimbsTo.enclosingUpTo_of_not_under (h : m.ClimbsTo root e (m.ancestors e))
    (outside : ¬ m.Under e r) : m.enclosingUpTo e (some r) = m.ancestors e := by
  rw [enclosingUpTo, upTo_of_not_mem (mt h.mem_iff.mp outside), List.tail_cons]

/-- From an element to one that is further above the way goes through all between them. -/
theorem ClimbsTo.enclosingUpTo_append (h : m.ClimbsTo root e (m.ancestors e)) (hr : m.Under e r)
    (hr' : m.Under r r') :
    m.enclosingUpTo e (some r') = m.enclosingUpTo e (some r) ++ m.enclosingUpTo r (some r') := by
  obtain ⟨before, after, split, rest⟩ := h.exists_split (h.mem_iff.mpr hr)
  have once := h.nodup
  rw [split] at once
  obtain ⟨-, -, apart⟩ := List.nodup_append.mp once
  have first : r ∉ before := fun hb => apart r hb r List.mem_cons_self rfl
  have second : r' ∉ before := fun hb => apart r' hb r' (rest.mem_iff.mpr hr') rfl
  obtain ⟨between, hbetween⟩ : ∃ between, upTo (some r') (r :: after) = r :: between := by
    rw [upTo]
    split <;> exact ⟨_, rfl⟩
  have here : upTo (some r) (r :: after) = [r] := if_pos rfl
  rw [enclosingUpTo, enclosingUpTo, enclosingUpTo, rest.ancestors_eq, split, upTo_append first,
    upTo_append second, here, hbetween]
  cases before <;> simp

namespace IsOwnershipTree

/-- In a tree the package path of an element is the names of what encloses it, outermost first. -/
theorem packagePath_eq_ok (tree : m.IsOwnershipTree root) (h : m.Contains root id)
    (last : Option ElementId) :
    m.packagePath id last = .ok ((m.enclosingUpTo id last).map fun x => (m.get x).name).reverse := by
  have inside : ∀ x ∈ m.enclosingUpTo id last, m.Contains root x := fun x hx =>
    List.forall_mem_cons.mpr ⟨h, (tree.climbsTo h).2⟩ x (upTo_subset _ _ (List.mem_of_mem_tail hx))
  rw [packagePath_eq, tree.namesOf_eq inside]
  rfl

/-- The qualified name is what encloses an element, outermost first, and the element itself. -/
theorem qualifiedName_eq (tree : m.IsOwnershipTree root) (h : m.Contains root id) :
    m.qualifiedName id = joinNames "."
      (((m.ancestors id).map fun x => (m.get x).name).reverse ++ [(m.get id).name]) := by
  have inside := (tree.climbsTo h).2
  have enclosing_eq : m.enclosing id = .ok (m.ancestors id) := by
    rw [enclosing, tree.askFor_eq id h, tree.namesOf_eq inside]
    rfl
  have names := tree.namesOf_eq (List.forall_mem_cons.mpr ⟨h, inside⟩)
  rw [qualifiedName, enclosing_eq, ← List.reverse_cons,
    ← List.map_cons (f := fun x => (m.get x).name)]
  exact congrArg (· >>= fun names => joinNames "." names.reverse) names

end IsOwnershipTree

/-- How the package paths of an element go together. -/
structure PathsCompose (m : Model) (e : ElementId) : Prop where
  /-- The path up to what is above is the path from there on, and then the path from the element. -/
  compose : ∀ r r', m.Under e r → m.Under r r' → ∃ outer inner,
    m.packagePath r (some r') = .ok outer ∧ m.packagePath e (some r) = .ok inner ∧
      m.packagePath e (some r') = .ok (outer ++ inner)
  /-- Up to what is neither the element nor above it, the path is the whole one. -/
  outside : ∀ r, ¬ m.Under e r → ∃ names,
    m.packagePath e (some r) = .ok names ∧ m.packagePath e none = .ok names
  /-- The qualified name is the whole path and the name of the element, joined by points. -/
  qualified : ∃ names, m.packagePath e none = .ok names ∧
    m.qualifiedName e = joinNames "." (names ++ [(m.get e).name]) ∧
    ∀ texts : List String, names ++ [(m.get e).name] = texts.map .str →
      m.qualifiedName e = .ok (Text.join "." texts)

/-- **Package paths compose** in every tree, for all that it contains. -/
theorem pathsCompose (tree : m.IsOwnershipTree root) (h : m.Contains root e) : m.PathsCompose e := by
  obtain ⟨climbs, inside⟩ := tree.climbsTo h
  refine ⟨fun r r' hr hr' => ?_, fun r outside => ?_, ?_⟩
  · have contains : m.Contains root r :=
      List.forall_mem_cons.mpr ⟨h, inside⟩ r (climbs.mem_iff.mpr hr)
    refine ⟨_, _, tree.packagePath_eq_ok contains _, tree.packagePath_eq_ok h _, ?_⟩
    rw [tree.packagePath_eq_ok h, climbs.enclosingUpTo_append hr hr', List.map_append,
      List.reverse_append]
  · refine ⟨_, tree.packagePath_eq_ok h _, ?_⟩
    rw [tree.packagePath_eq_ok h, enclosingUpTo_none, climbs.enclosingUpTo_of_not_under outside]
  · have qualified := tree.qualifiedName_eq h
    rw [← enclosingUpTo_none] at qualified
    refine ⟨_, tree.packagePath_eq_ok h none, qualified, fun texts ht => ?_⟩
    rw [qualified, ht, joinNames_str]

/-- A class in two packages, with an attribute. -/
def shelf : Value :=
  .obj [("name", .str "app"),
    ("elements", .arr [
      .obj [("kind", .str "package"), ("name", .str "core"),
        ("elements", .arr [
          .obj [("kind", .str "package"), ("name", .str "data"),
            ("elements", .arr [
              .obj [("name", .str "Item"), ("attributes", .arr [.obj [("name", .str "size")]])]])]])],
      .obj [("name", .str "Main")]])]

/-- Up to the inner package the path of the attribute is the rest of its whole path; the other class,
which is not above it, cuts off nothing. -/
theorem pathsCompose_shelf : ∃ loaded, LoadedModel.ofDocument shelf = .ok loaded ∧
    loaded.design.model.IsOwnershipTree loaded.root ∧
    loaded.design.model.Contains loaded.root 4 ∧ loaded.design.model.PathsCompose 4 ∧
    loaded.design.model.packagePath 2 (some 0) = .ok [.str "app", .str "core"] ∧
    loaded.design.model.packagePath 4 (some 2) = .ok [.str "data", .str "Item"] ∧
    loaded.design.model.packagePath 4 (some 5) =
      .ok [.str "app", .str "core", .str "data", .str "Item"] := by
  have lists : (LoadedModel.ofDocument shelf).map (fun loaded =>
      (loaded.root, [0, 1, 2, 3].map loaded.design.model.listedBy)) =
        .ok (0, [[1, 5], [2], [3], [4]]) := by
    rfl
  have paths : (LoadedModel.ofDocument shelf).map (fun loaded =>
      (loaded.design.model.packagePath 2 (some 0), loaded.design.model.packagePath 4 (some 2),
        loaded.design.model.packagePath 4 (some 5))) =
      .ok (.ok [.str "app", .str "core"], .ok [.str "data", .str "Item"],
        .ok [.str "app", .str "core", .str "data", .str "Item"]) := by
    rfl
  obtain ⟨loaded, h, hlists⟩ := Outcome.map_eq_ok.mp lists
  rw [h] at paths
  obtain ⟨upper, others⟩ := Prod.mk.inj (Except.ok.inj paths)
  obtain ⟨lower, whole⟩ := Prod.mk.inj others
  have tree := LoadedModel.isOwnershipTree h
  have contains : loaded.design.model.Contains loaded.root 4 := by
    simp only [List.map_cons, List.map_nil, Prod.mk.injEq, List.cons.injEq, and_true] at hlists
    obtain ⟨hroot, l0, l1, l2, l3⟩ := hlists
    rw [hroot]
    have child (owner child : ElementId) (listed : child ∈ loaded.design.model.listedBy owner) :
        loaded.design.model.Contains owner child := .single listed
    exact (child 0 1 (by simp [l0])).trans <| (child 1 2 (by simp [l1])).trans <|
      (child 2 3 (by simp [l2])).trans (child 3 4 (by simp [l3]))
  exact ⟨loaded, h, tree, contains, pathsCompose tree contains, upper, lower, whole⟩

end Model

end GosuForge
