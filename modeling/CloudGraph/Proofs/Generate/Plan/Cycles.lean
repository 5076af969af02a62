import CloudGraph.Proofs.Generate.Plan.Resources

/-!
# Dependency cycles

Which edges of a graph a plan keeps as dependencies, and which it drops with a warning. All is
said in node ids: `Feeds` is the relation of the edges, and `DependsOn` the one that can be read
off the finished plan. Between the two stand the arrows of the dependency table.

**Kept** (`dependsOn_of_joins`). An edge is a dependency of the plan just if its arrow is in the
table.

**Dropped** (`warnings_eq`). The warnings are those of the edges that are no dependency of the
plan, in the order of the edges.

**Cycles**. The dependencies of a plan have no cycle (`not_transGen_dependsOn_self`). So without
a warning the edges, all kept, have none either. And a dropped edge lies on a cycle of edges,
because its source depends on its target through edges that were kept.
-/

namespace CloudGraph.Plan

open DependencyTable Relation

variable {target : Target} {g : Graph}

/-! ## The two relations -/

/-- The edges between nodes that both have a mapping. -/
def innerEdges (target : Target) (g : Graph) : List Edge :=
  g.edges.filter fun e =>
    (mappedIds target g).contains e.source && (mappedIds target g).contains e.target

/-- An edge leads from one node with a mapping to another. -/
def Feeds (target : Target) (g : Graph) (a b : String) : Prop :=
  ∃ e ∈ innerEdges target g, e.source = a ∧ e.target = b

/-- The resource of the node `b` depends on the resource of the node `a`. -/
def DependsOn (p : Plan) (b a : String) : Prop :=
  ∃ r ∈ p.resources, ∃ s ∈ p.resources, r.node.id = b ∧ s.node.id = a ∧ s.name ∈ r.dependsOn

instance (p : Plan) (b a : String) : Decidable (p.DependsOn b a) :=
  inferInstanceAs (Decidable (∃ r ∈ p.resources, ∃ s ∈ p.resources,
    r.node.id = b ∧ s.node.id = a ∧ s.name ∈ r.dependsOn))

theorem mem_innerEdges_iff {e : Edge} :
    e ∈ innerEdges target g ↔ e ∈ g.edges ∧ ∃ i j, Joins (mappedIds target g) e i j := by
  have hindex : ∀ a, a ∈ mappedIds target g ↔ ∃ i, indexOf? (mappedIds target g) a = some i :=
    fun a => isSome_indexOf?.symm.trans Option.isSome_iff_exists
  unfold innerEdges Joins
  rw [List.mem_filter, Bool.and_eq_true, List.contains_iff_mem, List.contains_iff_mem, hindex,
    hindex]
  simp only [exists_and_left, exists_and_right]

/-! ## Dependencies and arrows -/

theorem getElem?_mappedIds (i : Nat) :
    (mappedIds target g)[i]? = (declared target g)[i]?.map (·.node.id) := by
  rw [← map_id_declared, List.getElem?_map]

theorem dependsOn_iff {a b : String} :
    (ofGraph target g).DependsOn b a ↔
      ∃ i j, (mappedIds target g)[i]? = some b ∧ (mappedIds target g)[j]? = some a ∧
        (dependencies target g).Arrow i j := by
  have hmem : ∀ r, r ∈ (ofGraph target g).resources ↔ ∃ i : Nat, (declared target g)[i]? = some r :=
    fun r => resources_perm_declared.mem_iff.trans List.mem_iff_getElem?
  constructor
  · rintro ⟨r, hr, s, hs, rfl, rfl, hname⟩
    obtain ⟨i, hi⟩ := (hmem r).1 hr
    obtain ⟨j, s', harrow, hj, hs'⟩ := (mem_dependsOn_iff hi).1 hname
    obtain rfl : s' = s := List.inj_on_of_nodup_map nodup_name_declared
      (List.mem_of_getElem? hj) (resources_perm_declared.mem_iff.1 hs) hs'
    refine ⟨i, j, ?_, ?_, harrow⟩
    · rw [getElem?_mappedIds, hi, Option.map_some]
    · rw [getElem?_mappedIds, hj, Option.map_some]
  · rintro ⟨i, j, hi, hj, harrow⟩
    rw [getElem?_mappedIds] at hi hj
    obtain ⟨r, hr, rfl⟩ := Option.map_eq_some_iff.1 hi
    obtain ⟨s, hs, rfl⟩ := Option.map_eq_some_iff.1 hj
    exact ⟨r, (hmem r).2 ⟨i, hr⟩, s, (hmem s).2 ⟨j, hs⟩, rfl, rfl,
      (mem_dependsOn_iff hr).2 ⟨j, s, harrow, hs, rfl⟩⟩

/-- Along arrows, each resource depends on the next. -/
theorem dependsOn_of_leads {i j : Nat} {a b : String} (h : (dependencies target g).Leads i j)
    (hi : (mappedIds target g)[i]? = some b) (hj : (mappedIds target g)[j]? = some a) :
    ReflTransGen (ofGraph target g).DependsOn b a := by
  induction h generalizing a with
  | refl =>
    rw [Option.some.inj (hi.symm.trans hj)]
  | @tail k j _ harrow ih =>
    have hk : k < (mappedIds target g).length := by
      rw [← (wired_wire (mappedIds target g) g.edges).size]
      exact harrow.lt_size
    have hk := List.getElem?_eq_getElem hk
    exact (ih hk).tail (dependsOn_iff.2 ⟨k, j, hk, hj, harrow⟩)

section distinct

variable (h : (mappedIds target g).Nodup)
include h

theorem index_unique {i j : Nat} {a : String} (hi : (mappedIds target g)[i]? = some a)
    (hj : (mappedIds target g)[j]? = some a) : i = j := by
  obtain ⟨hlt, -⟩ := List.getElem?_eq_some_iff.1 hi
  exact (List.getElem?_inj hlt h).1 (hi.trans hj.symm)

theorem dependsOn_of_joins {e : Edge} {i j : Nat} (hjoin : Joins (mappedIds target g) e i j) :
    (ofGraph target g).DependsOn e.target e.source ↔ (dependencies target g).Arrow j i := by
  rw [dependsOn_iff]
  constructor
  · rintro ⟨k, l, hk, hl, harrow⟩
    rwa [index_unique h hk hjoin.target_eq, index_unique h hl hjoin.source_eq] at harrow
  · exact fun harrow => ⟨j, i, hjoin.target_eq, hjoin.source_eq, harrow⟩

/-- A chain of dependencies is one of arrows. -/
theorem arrows_of_transGen {a b : String} (hchain : TransGen (ofGraph target g).DependsOn b a) :
    ∃ i j, (mappedIds target g)[i]? = some b ∧ (mappedIds target g)[j]? = some a ∧
      TransGen (dependencies target g).Arrow i j := by
  induction hchain with
  | single hstep =>
    obtain ⟨i, j, hi, hj, harrow⟩ := dependsOn_iff.1 hstep
    exact ⟨i, j, hi, hj, .single harrow⟩
  | tail _ hstep ih =>
    obtain ⟨i, j, hi, hj, hchain⟩ := ih
    obtain ⟨k, l, hk, hl, harrow⟩ := dependsOn_iff.1 hstep
    obtain rfl := index_unique h hj hk
    exact ⟨i, l, hi, hl, hchain.tail harrow⟩

theorem not_transGen_dependsOn_self (a : String) :
    ¬ TransGen (ofGraph target g).DependsOn a a := by
  intro hcycle
  obtain ⟨i, j, hi, hj, hchain⟩ := arrows_of_transGen h hcycle
  obtain rfl := index_unique h hi hj
  exact (wired_wire (mappedIds target g) g.edges).acyclic i hchain

/-! ## Dropped edges -/

/-- An edge is lost just if it joins two nodes with a mapping and is no dependency of the
plan. -/
theorem lost_iff_not_dependsOn {e : Edge} (he : e ∈ g.edges) :
    lost (mappedIds target g) (dependencies target g) e = true ↔
      e ∈ innerEdges target g ∧ ¬ (ofGraph target g).DependsOn e.target e.source := by
  rw [mem_innerEdges_iff, lost_iff]
  constructor
  · rintro ⟨i, j, hjoin, hmissing⟩
    exact ⟨⟨he, i, j, hjoin⟩, fun hdep => hmissing ((dependsOn_of_joins h hjoin).1 hdep)⟩
  · rintro ⟨⟨-, i, j, hjoin⟩, hmissing⟩
    exact ⟨i, j, hjoin, fun harrow => hmissing ((dependsOn_of_joins h hjoin).2 harrow)⟩

theorem warnings_eq :
    (ofGraph target g).warnings =
      ((innerEdges target g).filter
        fun e => !decide ((ofGraph target g).DependsOn e.target e.source)).map droppedWarning := by
  have hdropped := (wired_wire (mappedIds target g) g.edges).dropped
  refine congrArg (List.map droppedWarning) (hdropped.trans ?_)
  unfold innerEdges
  rw [List.filter_filter]
  refine List.filter_congr fun e he => Bool.eq_iff_iff.2 ((lost_iff_not_dependsOn h he).trans ?_)
  unfold innerEdges
  rw [List.mem_filter, and_iff_right he, and_comm]
  simp

/-- An edge that is no dependency of the plan is a loop, or its source depends on its target. -/
theorem kept_or_closing {e : Edge} (he : e ∈ innerEdges target g) :
    (ofGraph target g).DependsOn e.target e.source ∨ e.source = e.target ∨
      TransGen (ofGraph target g).DependsOn e.source e.target := by
  obtain ⟨he, i, j, hjoin⟩ := mem_innerEdges_iff.1 he
  rcases (wired_wire (mappedIds target g) g.edges).closing e he i j hjoin with harrow | hlead
  · exact .inl ((dependsOn_of_joins h hjoin).2 harrow)
  · have hchain := dependsOn_of_leads hlead hjoin.source_eq hjoin.target_eq
    exact .inr ((reflTransGen_iff_eq_or_transGen.1 hchain).imp_left Eq.symm)

end distinct

/-! ## Cycles of edges -/

theorem feeds_of_dependsOn {a b : String} (h : (ofGraph target g).DependsOn b a) :
    Feeds target g a b := by
  obtain ⟨i, j, hi, hj, harrow⟩ := dependsOn_iff.1 h
  obtain ⟨e, he, hjoin⟩ := (wired_wire (mappedIds target g) g.edges).sound i j harrow
  refine ⟨e, mem_innerEdges_iff.2 ⟨he, j, i, hjoin⟩, ?_, ?_⟩
  · exact Option.some.inj (hjoin.source_eq.symm.trans hj)
  · exact Option.some.inj (hjoin.target_eq.symm.trans hi)

theorem transGen_feeds_of_dependsOn {a b : String}
    (h : TransGen (ofGraph target g).DependsOn b a) : TransGen (Feeds target g) a b :=
  transGen_swap.1 (TransGen.mono (fun _ _ => feeds_of_dependsOn) _ _ h)

theorem warnings_eq_nil_iff (h : (mappedIds target g).Nodup) :
    (ofGraph target g).warnings = [] ↔ ∀ a, ¬ TransGen (Feeds target g) a a := by
  rw [warnings_eq h, List.map_eq_nil_iff, List.filter_eq_nil_iff]
  constructor
  · intro hkept a hcycle
    refine not_transGen_dependsOn_self h a
      (transGen_swap.1 (TransGen.mono (fun b c hfeeds => ?_) _ _ hcycle))
    obtain ⟨e, he, rfl, rfl⟩ := hfeeds
    simpa using hkept e he
  · intro hacyclic e he hmissing
    have hfeeds : Feeds target g e.source e.target := ⟨e, he, rfl, rfl⟩
    rcases kept_or_closing h he with hkept | hloop | hchain
    · simp [hkept] at hmissing
    · rw [← hloop] at hfeeds
      exact hacyclic e.source (.single hfeeds)
    -- Kept edges lead from the target of `e` to its source, and `e` leads back.
    · exact hacyclic e.target ((transGen_feeds_of_dependsOn hchain).tail hfeeds)

/-- **Greedy cycle breaking.** In a graph with distinct node ids, each name that a resource
depends on comes from an edge. Each edge between nodes with a mapping is a dependency, or a loop,
or would close a cycle of dependencies. There is one warning for each edge that is no dependency,
so there is none just if these edges have no cycle. -/
theorem cycles_broken_greedily (target : Target) (g : Graph) (h : (g.nodes.map (·.id)).Nodup) :
    let p := ofGraph target g
    (∀ r ∈ p.resources, ∀ name ∈ r.dependsOn, ∃ s ∈ p.resources, s.name = name ∧
      ∃ e ∈ innerEdges target g, e.source = s.node.id ∧ e.target = r.node.id) ∧
    (∀ e ∈ innerEdges target g, p.DependsOn e.target e.source ∨ e.source = e.target ∨
      TransGen p.DependsOn e.source e.target) ∧
    p.warnings.length =
      (innerEdges target g).countP (fun e => !decide (p.DependsOn e.target e.source)) ∧
    (p.warnings = [] ↔ ∀ a, ¬ TransGen (Feeds target g) a a) := by
  intro p
  have hids : (mappedIds target g).Nodup := nodup_mappedIds h
  refine ⟨fun r hr name hname => ?_, fun e he => kept_or_closing hids he, ?_,
    warnings_eq_nil_iff hids⟩
  · obtain ⟨k, hk⟩ := List.mem_iff_getElem?.1 hr
    obtain ⟨j, -, s, hs, rfl⟩ := earlier_of_mem_dependsOn hk hname
    have hs := List.mem_of_getElem? hs
    exact ⟨s, hs, rfl, feeds_of_dependsOn ⟨r, hr, s, hs, rfl, rfl, hname⟩⟩
  · rw [warnings_eq hids, List.length_map, List.countP_eq_length_filter]

theorem cycles_broken_greedily_triangle :
    ∃ g : Graph,
      g = {
        nodes := [Node.ofType "a" "aws-ec2", Node.ofType "b" "aws-rds", Node.ofType "c" "aws-s3"]
        edges := [⟨"e1", "a", "b"⟩, ⟨"e2", "b", "c"⟩, ⟨"e3", "c", "a"⟩, ⟨"e4", "c", "a"⟩,
          ⟨"e5", "a", "b"⟩, ⟨"e6", "c", "c"⟩] } ∧
      (g.nodes.map (·.id)).Nodup ∧
      (ofGraph .pulumi g).warnings.length = 3 ∧
      (innerEdges .pulumi g).countP
        (fun e => !decide ((ofGraph .pulumi g).DependsOn e.target e.source)) = 3 :=
  ⟨_, rfl, by decide +kernel, by decide +kernel,
    (cycles_broken_greedily .pulumi _ (by decide +kernel)).2.2.1.symm.trans (by decide +kernel)⟩

end CloudGraph.Plan
