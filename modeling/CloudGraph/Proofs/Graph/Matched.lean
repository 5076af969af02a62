import CloudGraph.Rule.Basic
import Mathlib.Data.List.Forall2

/-!
# Graphs that match

Two graphs match if they have the same edges and if their nodes come in pairs that differ in
nothing but the settings of yes or no (`Node.Alike`). Which nodes may make a pair is left to a
relation.

The analyses look at the settings of a node only if it holds a role. So it is enough that the pairs
have the same ids, types and labels, and are alike where a role is held (`MatchedInRoles`). A search
in one graph then goes through the pairs of what the same search goes through in the other
(`MatchedInRoles.walk`), and a pattern that asks for no setting of yes or no finds pairs of
offenders (`MatchedInRoles.offenders`). A finding tells no setting, so a rule with pairs of
offenders has the same findings (`MatchedInRoles.evaluate_eq`).
-/

namespace CloudGraph

/-- The two nodes differ at most in their settings of yes or no, as far as an analysis can tell. -/
structure Node.Alike (n m : Node) : Prop where
  id : m.id = n.id
  componentType : m.componentType = n.componentType
  label : m.label = n.label
  replicas : m.view.replicas = n.view.replicas
  region? : m.view.region? = n.view.region?
  instanceSize? : m.view.instanceSize? = n.view.instanceSize?

section Node

variable {n m : Node}

theorem Node.hasRole_congr (h : m.componentType = n.componentType) (role : Role) :
    m.hasRole role = n.hasRole role := by
  unfold Node.hasRole
  rw [h]

theorem Node.hasAnyRole_congr (h : m.componentType = n.componentType) (roles : List Role) :
    m.hasAnyRole roles = n.hasAnyRole roles := by
  unfold Node.hasAnyRole
  rw [funext (Node.hasRole_congr h)]

theorem Node.displayName_congr (hlabel : m.label = n.label)
    (htype : m.componentType = n.componentType) : m.displayName = n.displayName := by
  unfold Node.displayName
  rw [hlabel, htype]

theorem Node.Alike.refl (n : Node) : n.Alike n := ⟨rfl, rfl, rfl, rfl, rfl, rfl⟩

theorem Node.Alike.hasAnyRole (h : n.Alike m) (roles : List Role) :
    m.hasAnyRole roles = n.hasAnyRole roles :=
  hasAnyRole_congr h.componentType roles

theorem Node.Alike.displayName (h : n.Alike m) : m.displayName = n.displayName :=
  displayName_congr h.label h.componentType

end Node

/-! ## Readings -/

theorem findSome?_congr {α β : Type} {f f' : α → Option β} {xs : List α}
    (h : ∀ x ∈ xs, f' x = f x) : xs.findSome? f' = xs.findSome? f := by
  rw [← List.head?_filterMap, ← List.head?_filterMap, List.filterMap_congr h]

theorem View.replicas_eq (v : View) :
    v.replicas = if v.family.isSized then
      ((v.bag.integer? replicasKey).filter fun n => decide (0 < n)).getD 1 else 1 := by
  unfold replicas
  cases v.bag.integer? replicasKey with
  | none => rfl
  | some n => by_cases hn : 0 < n <;> simp [Option.filter, hn]

namespace Node

variable {n : Node} {bag : Configuration}

/-- Configurations with the same number of copies and the same texts make nodes alike. -/
theorem alike_of_configuration
    (hreplicas : (bag.integer? replicasKey).filter (fun n => decide (0 < n)) =
      (n.configuration.integer? replicasKey).filter fun n => decide (0 < n))
    (htext : ∀ key ∈ regionKeys ++ sizeKeys, bag.text? key = n.configuration.text? key) :
    n.Alike { n with configuration := bag } where
  id := rfl
  componentType := rfl
  label := rfl
  replicas := by
    rw [View.replicas_eq, View.replicas_eq]
    exact congrArg (fun copies : Option Int => if n.view.family.isSized then copies.getD 1 else 1)
      hreplicas
  region? := findSome?_congr fun key hkey => htext key (List.mem_append_left _ hkey)
  instanceSize? := by
    have hsize : bag.firstText? sizeKeys = n.configuration.firstText? sizeKeys :=
      findSome?_congr fun key hkey => htext key (List.mem_append_right _ hkey)
    exact congrArg (fun size => if n.view.family.isSized then size else none) hsize

theorem flag?_of_configuration {flag : Flag}
    (h : ∀ key ∈ flag.keys, bag.flag? key = n.configuration.flag? key) :
    ({ n with configuration := bag } : Node).view.flag? flag = n.view.flag? flag := by
  have hfirst : bag.firstFlag? flag.keys = n.configuration.firstFlag? flag.keys :=
    findSome?_congr h
  exact congrArg (fun value => if n.view.family.flags.contains flag then value else none) hfirst

end Node

/-! ## Lists in pairs -/

section Pairs

variable {α β γ : Type} {R : α → β → Prop} {xs : List α} {ys : List β}

theorem map_eq_of_forall₂ {f : α → γ} {f' : β → γ} (h : List.Forall₂ R xs ys)
    (hf : ∀ {x y}, R x y → f' y = f x) : ys.map f' = xs.map f := by
  induction h with
  | nil => rfl
  | cons hxy _ ih => rw [List.map_cons, List.map_cons, hf hxy, ih]

theorem any_eq_of_forall₂ {p : α → Bool} {p' : β → Bool} (h : List.Forall₂ R xs ys)
    (hp : ∀ {x y}, R x y → p' y = p x) : ys.any p' = xs.any p := by
  induction h with
  | nil => rfl
  | cons hxy _ ih => rw [List.any_cons, List.any_cons, hp hxy, ih]

theorem all_eq_of_forall₂ {p : α → Bool} {p' : β → Bool} (h : List.Forall₂ R xs ys)
    (hp : ∀ {x y}, R x y → p' y = p x) : ys.all p' = xs.all p := by
  induction h with
  | nil => rfl
  | cons hxy _ ih => rw [List.all_cons, List.all_cons, hp hxy, ih]

theorem filter_of_forall₂ {p : α → Bool} {p' : β → Bool} (h : List.Forall₂ R xs ys)
    (hp : ∀ {x y}, R x y → p' y = p x) : List.Forall₂ R (xs.filter p) (ys.filter p') :=
  List.rel_filter (R := R) (fun _ _ hxy => Bool.eq_iff_iff.1 (hp hxy).symm) h

/-- What is kept of pairs is known to satisfy the condition. -/
theorem filter_and_of_forall₂ {p : α → Bool} {p' : β → Bool} (h : List.Forall₂ R xs ys)
    (hp : ∀ {x y}, R x y → p' y = p x) :
    List.Forall₂ (fun x y => R x y ∧ p x = true) (xs.filter p) (ys.filter p') := by
  induction h with
  | nil => exact .nil
  | @cons x y xs ys hxy _ ih =>
    by_cases hx : p x = true
    · rw [List.filter_cons_of_pos hx, List.filter_cons_of_pos ((hp hxy).trans hx)]
      exact .cons ⟨hxy, hx⟩ ih
    · rwa [List.filter_cons_of_neg hx, List.filter_cons_of_neg (hp hxy ▸ hx)]

theorem isEmpty_eq_of_forall₂ (h : List.Forall₂ R xs ys) : ys.isEmpty = xs.isEmpty := by
  cases h <;> rfl

theorem find?_of_forall₂ {p : α → Bool} {p' : β → Bool} (h : List.Forall₂ R xs ys)
    (hp : ∀ {x y}, R x y → p' y = p x) : Option.Rel R (xs.find? p) (ys.find? p') := by
  induction h with
  | nil => exact .none
  | cons hxy _ ih =>
    rw [List.find?_cons, List.find?_cons, hp hxy]
    split
    · exact .some hxy
    · exact ih

theorem ite_of_forall₂ {p : Prop} [Decidable p] {xs' : List α} {ys' : List β}
    (h : List.Forall₂ R xs ys) (h' : List.Forall₂ R xs' ys') :
    List.Forall₂ R (if p then xs else xs') (if p then ys else ys') := by
  split_ifs
  · exact h
  · exact h'

/-- Where less is kept of the one list than of the other, what is kept of it has its pairs among
what is kept of the other. -/
theorem sublist_filter_of_forall₂ {p : α → Bool} {p' : β → Bool} (h : List.Forall₂ R xs ys)
    (hp : ∀ {x y}, R x y → p' y = true → p x = true) :
    List.SublistForall₂ (flip R) (ys.filter p') (xs.filter p) := by
  induction h with
  | nil => exact .nil
  | @cons x y xs ys hxy _ ih =>
    by_cases hy : p' y = true
    · rw [List.filter_cons_of_pos hy, List.filter_cons_of_pos (hp hxy hy)]
      exact .cons hxy ih
    · rw [List.filter_cons_of_neg hy, List.filter_cons]
      split_ifs
      · exact .cons_right ih
      · exact ih

end Pairs

/-! ## Matching graphs -/

namespace Graph

/-- The graphs have the same edges, and their nodes come in pairs that are alike. -/
structure Matched (R : Node → Node → Prop) (g g' : Graph) : Prop where
  nodes : List.Forall₂ R g.nodes g'.nodes
  edges : g'.edges = g.edges
  alike : ∀ {n m : Node}, R n m → n.Alike m

/-- The graphs have the same edges, and their nodes come in pairs with the same ids, types and
labels, which are alike where they hold a role. -/
structure MatchedInRoles (R : Node → Node → Prop) (g g' : Graph) : Prop where
  nodes : List.Forall₂ R g.nodes g'.nodes
  edges : g'.edges = g.edges
  id : ∀ {n m : Node}, R n m → m.id = n.id
  componentType : ∀ {n m : Node}, R n m → m.componentType = n.componentType
  label : ∀ {n m : Node}, R n m → m.label = n.label
  alike : ∀ {n m : Node}, R n m → ∀ role, n.hasRole role = true → n.Alike m

namespace MatchedInRoles

variable {R : Node → Node → Prop} {g g' : Graph} {n m : Node}

theorem hasRole_eq (h : MatchedInRoles R g g') (hnm : R n m) (role : Role) :
    m.hasRole role = n.hasRole role :=
  Node.hasRole_congr (h.componentType hnm) role

theorem hasAnyRole_eq (h : MatchedInRoles R g g') (hnm : R n m) (roles : List Role) :
    m.hasAnyRole roles = n.hasAnyRole roles :=
  Node.hasAnyRole_congr (h.componentType hnm) roles

theorem displayName_eq (h : MatchedInRoles R g g') (hnm : R n m) :
    m.displayName = n.displayName :=
  Node.displayName_congr (h.label hnm) (h.componentType hnm)

/-- A condition on nodes of some roles is the same on both nodes of a pair if it is so where they
hold one. -/
theorem hasAnyRole_and_eq (h : MatchedInRoles R g g') (hnm : R n m) {roles : List Role}
    {value value' : Bool} (hvalue : n.hasAnyRole roles = true → value' = value) :
    (m.hasAnyRole roles && value') = (n.hasAnyRole roles && value) := by
  rw [h.hasAnyRole_eq hnm]
  by_cases hany : n.hasAnyRole roles = true
  · rw [hvalue hany]
  · simp [hany]

theorem alike_of_hasAnyRole (h : MatchedInRoles R g g') (hnm : R n m) {roles : List Role}
    (hany : n.hasAnyRole roles = true) : n.Alike m := by
  obtain ⟨role, -, hrole⟩ := List.any_eq_true.1 hany
  exact h.alike hnm role hrole

theorem withRole (h : MatchedInRoles R g g') (role : Role) :
    List.Forall₂ R (g.withRole role) (g'.withRole role) :=
  filter_of_forall₂ h.nodes fun hnm => h.hasRole_eq hnm role

/-- The nodes of a role come in pairs that are alike. -/
theorem alike_withRole (h : MatchedInRoles R g g') (role : Role) :
    List.Forall₂ (fun n m => R n m ∧ n.Alike m) (g.withRole role) (g'.withRole role) :=
  (filter_and_of_forall₂ h.nodes fun hnm => h.hasRole_eq hnm role).imp
    fun _ _ hpair => ⟨hpair.1, h.alike hpair.1 role hpair.2⟩

theorem hasRole (h : MatchedInRoles R g g') (role : Role) : g'.hasRole role = g.hasRole role :=
  any_eq_of_forall₂ h.nodes fun hnm => h.hasRole_eq hnm role

theorem isEmpty (h : MatchedInRoles R g g') : g'.isEmpty = g.isEmpty :=
  isEmpty_eq_of_forall₂ h.nodes

theorem map_id (h : MatchedInRoles R g g') {ns ms : List Node} (hs : List.Forall₂ R ns ms) :
    ms.map (·.id) = ns.map (·.id) :=
  map_eq_of_forall₂ hs h.id

theorem map_displayName (h : MatchedInRoles R g g') {ns ms : List Node}
    (hs : List.Forall₂ R ns ms) : ms.map (·.displayName) = ns.map (·.displayName) :=
  map_eq_of_forall₂ hs h.displayName_eq

theorem node? (h : MatchedInRoles R g g') (id : String) :
    Option.Rel R (g.node? id) (g'.node? id) :=
  find?_of_forall₂ h.nodes fun hnm => by rw [h.id hnm]

theorem outgoing (h : MatchedInRoles R g g') (id : String) :
    List.Forall₂ R (g.outgoing id) (g'.outgoing id) := by
  unfold Graph.outgoing
  rw [h.edges]
  refine List.rel_filterMap (R := Eq) (fun e e' he => ?_) (List.forall₂_refl _)
  exact he ▸ h.node? e.target

theorem unseen (h : MatchedInRoles R g g') {ns ms : List Node} (hs : List.Forall₂ R ns ms)
    (seen : List String) : List.Forall₂ R (Graph.unseen seen ns) (Graph.unseen seen ms) := by
  induction hs generalizing seen with
  | nil => exact .nil
  | @cons n m ns ms hnm _ ih =>
    unfold Graph.unseen
    rw [h.id hnm]
    split_ifs
    · exact ih seen
    · exact .cons hnm (ih _)

/-- The two searches stay in step: they have seen the same ids and have the same ids ahead. -/
theorem walk (h : MatchedInRoles R g g') (fuel : Nat) (seen queue : List String) :
    List.Forall₂ R (g.walk fuel seen queue) (g'.walk fuel seen queue) := by
  induction fuel generalizing seen queue with
  | zero => exact .nil
  | succ fuel ih =>
    cases queue with
    | nil => exact .nil
    | cons current queue =>
      have hfresh := h.unseen (h.outgoing current) seen
      dsimp only [Graph.walk]
      rw [h.map_id hfresh]
      exact List.rel_append hfresh (ih _ _)

theorem reachable? (h : MatchedInRoles R g g') (start : String) (role : Role) :
    Option.Rel R (g.reachable? start (·.hasRole role)) (g'.reachable? start (·.hasRole role)) := by
  have hlength : g'.nodes.length = g.nodes.length := h.nodes.length_eq.symm
  unfold Graph.reachable? Graph.reachableFrom
  rw [hlength]
  exact find?_of_forall₂ (h.walk ..) fun hnm => h.hasRole_eq hnm role

/-! ## Rules -/

/-- A pattern that reads no setting of yes or no, or reads it the same in each pair that it looks
at, finds pairs of offenders. -/
theorem offenders (h : MatchedInRoles R g g') (p : Pattern)
    (hflag : ∀ roles flag unsafeWhen, p = .configFlag roles flag unsafeWhen →
      ∀ {n m}, R n m → n.hasAnyRole roles = true → m.view.flag? flag = n.view.flag? flag) :
    List.Forall₂ R (p.offenders g) (p.offenders g') := by
  cases p with
  | roleAbsence present absent =>
    dsimp only [Pattern.offenders]
    rw [h.hasRole]
    exact ite_of_forall₂ .nil <|
      filter_of_forall₂ h.nodes fun hnm => h.hasAnyRole_eq hnm present
  | configFlag roles flag unsafeWhen =>
    refine filter_of_forall₂ h.nodes fun hnm => h.hasAnyRole_and_eq hnm fun hany => ?_
    rw [hflag roles flag unsafeWhen rfl hnm hany]
  | unbalancedReplicas role balancer =>
    have hmany : List.Forall₂ (fun n m => R n m ∧ n.Alike m)
        ((g.withRole role).filter fun n => 1 < n.view.replicas)
        ((g'.withRole role).filter fun n => 1 < n.view.replicas) :=
      filter_of_forall₂ (h.alike_withRole role) fun hpair => by rw [hpair.2.replicas]
    dsimp only [Pattern.offenders]
    rw [h.hasRole]
    exact ite_of_forall₂ .nil (hmany.imp fun _ _ hpair => hpair.1)
  | singlePointOfFailure role =>
    have hall : (g'.withRole role).all (·.view.replicas == 1) =
        (g.withRole role).all (·.view.replicas == 1) :=
      all_eq_of_forall₂ (h.alike_withRole role) fun hpair => by rw [hpair.2.replicas]
    dsimp only [Pattern.offenders]
    rw [hall]
    exact ite_of_forall₂ (h.withRole role) .nil
  | isolation exempt =>
    refine filter_of_forall₂ h.nodes fun hnm => ?_
    rw [h.hasAnyRole_eq hnm, h.id hnm, h.edges]
  | geography roles allowed =>
    refine filter_of_forall₂ h.nodes fun hnm => h.hasAnyRole_and_eq hnm fun hany => ?_
    rw [(h.alike_of_hasAnyRole hnm hany).region?]
  | cardinality roles sizes threshold =>
    have hmany : ∀ {ns ms : List Node}, List.Forall₂ R ns ms →
        List.Forall₂ R (if threshold < ns.length then ns else [])
          (if threshold < ms.length then ms else []) := by
      intro ns ms hs
      rw [hs.length_eq]
      exact ite_of_forall₂ hs .nil
    apply hmany
    refine filter_of_forall₂ h.nodes fun hnm => h.hasAnyRole_and_eq hnm fun hany => ?_
    rw [(h.alike_of_hasAnyRole hnm hany).instanceSize?]

theorem evaluate_eq (h : MatchedInRoles R g g') {r : Rule}
    (hoffenders : List.Forall₂ R (r.pattern.offenders g) (r.pattern.offenders g')) :
    r.evaluate g' = r.evaluate g := by
  have hone : (r.pattern.offenders g').map r.findingFor =
      (r.pattern.offenders g).map r.findingFor :=
    map_eq_of_forall₂ hoffenders fun hnm => by
      simp only [Rule.findingFor, Rule.finding, List.map_cons, List.map_nil, h.id hnm,
        h.displayName_eq hnm]
  have hall : r.findingForAll (r.pattern.offenders g') =
      r.findingForAll (r.pattern.offenders g) := by
    simp only [Rule.findingForAll, Rule.finding, h.map_id hoffenders, h.map_displayName hoffenders]
  dsimp only [Rule.evaluate]
  rw [isEmpty_eq_of_forall₂ hoffenders, hone, hall]

end MatchedInRoles

namespace Matched

variable {R : Node → Node → Prop} {g g' : Graph}

theorem inRoles (h : Matched R g g') : MatchedInRoles R g g' where
  nodes := h.nodes
  edges := h.edges
  id hnm := (h.alike hnm).id
  componentType hnm := (h.alike hnm).componentType
  label hnm := (h.alike hnm).label
  alike hnm _ _ := h.alike hnm

theorem offenders (h : Matched R g g') (p : Pattern)
    (hflag : ∀ roles flag unsafeWhen, p = .configFlag roles flag unsafeWhen →
      ∀ {n m}, R n m → m.view.flag? flag = n.view.flag? flag) :
    List.Forall₂ R (p.offenders g) (p.offenders g') :=
  h.inRoles.offenders p fun roles flag unsafeWhen hp _ _ hnm _ =>
    hflag roles flag unsafeWhen hp hnm

end Matched

end Graph

end CloudGraph
