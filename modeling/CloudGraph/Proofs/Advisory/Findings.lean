import CloudGraph.Advisory.Chat
import CloudGraph.Proofs.Graph.Reachability

/-!
# Advice stands behind the findings

**Theorem (`analyze_eq_append`).** Whatever a chat service answers, the findings of the heuristics
come first and as they are. Behind them comes advice only, and only if the reply holds an array in
JSON.

What makes a finding advice (`IsAdvice`) does not depend on the reply: its category and rule are
set, its id is marked, items without a title are dropped before they become findings, and the nodes
that a model names are taken up one by one, each if the graph has it and if it is not there yet
(`knownNodes`).
-/

namespace CloudGraph.Advisory

variable {g : Graph}

/-- What a finding from a reply is like. -/
structure IsAdvice (g : Graph) (f : Finding) : Prop where
  category : f.category = .advisory
  ruleId : f.ruleId = "advisory"
  marked : ['a', 'i', '-'] <+: f.id.toList
  titled : ∃ c ∈ f.title.toList, Text.isBlank c = false
  nodup : f.affected.Nodup
  known : ∀ id ∈ f.affected, ∃ n ∈ g.nodes, n.id = id

/-! ## The nodes of a finding -/

/-- The ids that are kept so far: none twice, and each of a node. -/
structure Kept (g : Graph) (ids : List String) : Prop where
  nodup : ids.Nodup
  known : ∀ id ∈ ids, ∃ n ∈ g.nodes, n.id = id

theorem exists_of_contains {id : String} (h : g.contains id = true) : ∃ n ∈ g.nodes, n.id = id := by
  obtain ⟨n, hn⟩ := Option.isSome_iff_exists.mp h
  exact ⟨n, Graph.mem_of_node? hn, Graph.id_of_node? hn⟩

theorem Kept.step {ids : List String} (h : Kept g ids) (id : String) :
    Kept g (if g.contains id && !ids.contains id then ids ++ [id] else ids) := by
  split_ifs with hid
  · obtain ⟨hnode, hnew⟩ := (Bool.and_eq_true ..).mp hid
    have hnew : id ∉ ids := by simpa using hnew
    refine ⟨List.nodup_append.mpr ⟨h.nodup, List.nodup_singleton id, ?_⟩, ?_⟩
    · rintro a ha b hb rfl
      exact hnew (List.mem_singleton.mp hb ▸ ha)
    · intro a ha
      rcases List.mem_append.mp ha with ha | ha
      · exact h.known a ha
      · exact List.mem_singleton.mp ha ▸ exists_of_contains hnode
  · exact h

theorem kept_knownNodes (g : Graph) (ids : List String) :
    Kept g (Suggestion.knownNodes g ids) := by
  have hrun : ∀ kept, Kept g kept → Kept g (ids.foldl (fun known id =>
      if g.contains id && !known.contains id then known ++ [id] else known) kept) := by
    induction ids with
    | nil => exact fun _ h => h
    | cons id ids ih => exact fun _ h => ih _ (h.step id)
  exact hrun [] ⟨List.nodup_nil, List.forall_mem_nil _⟩

/-! ## From a reply to findings -/

namespace Suggestion

theorem exists_notBlank_title {s : Suggestion} (h : s.isTitled = true) :
    ∃ c ∈ (s.title.getD "").toList, Text.isBlank c = false := by
  unfold isTitled at h
  cases htitle : s.title with
  | none => simp [htitle] at h
  | some title =>
    rw [htitle] at h
    have hblank : title.toList.all Text.isBlank = false := by
      simpa [Text.isBlankText] using h
    simpa using hblank

theorem isAdvice_toFinding {s : Suggestion} (h : s.isTitled = true) (index : Nat) :
    IsAdvice g (s.toFinding g index) where
  category := rfl
  ruleId := rfl
  marked := by
    show _ <+: (s.findingId index).toList
    unfold findingId
    rw [String.toList_ofList]
    exact List.prefix_append ..
  titled := exists_notBlank_title h
  nodup := (kept_knownNodes g s.affected).nodup
  known := (kept_knownNodes g s.affected).known

end Suggestion

theorem isAdvice_of_parseFindings? {array : String} {fs : List Finding}
    (h : parseFindings? array g = some fs) :
    (∃ items, Json.ofText? array = some (.arr items)) ∧ ∀ f ∈ fs, IsAdvice g f := by
  unfold parseFindings? at h
  split at h
  next items hitems =>
    cases h
    refine ⟨⟨items, hitems⟩, fun f hf => ?_⟩
    obtain ⟨i, hi, rfl⟩ := List.mem_mapIdx.mp hf
    exact Suggestion.isAdvice_toFinding (List.mem_filter.mp (List.getElem_mem hi)).2 i
  next => cases h

theorem isAdvice_of_mem_findings {outcome : Option ChatOutcome} :
    ∀ f ∈ findings g outcome, IsAdvice g f ∧ ∃ reply array items,
      outcome = some (.text reply) ∧ firstArray? reply = some array ∧
        Json.ofText? array = some (.arr items) := by
  intro f hf
  unfold findings at hf
  split at hf
  next reply =>
    unfold findingsOfText at hf
    cases harray : firstArray? reply with
    | none => simp [harray] at hf
    | some array =>
      cases hparse : parseFindings? array g with
      | none => simp [harray, hparse] at hf
      | some fs =>
        obtain ⟨⟨items, hitems⟩, hadvice⟩ := isAdvice_of_parseFindings? hparse
        refine ⟨hadvice f ?_, reply, array, items, rfl, harray, hitems⟩
        simpa [harray, hparse] using hf
  next => cases hf

/-- **Advice never disturbs the findings of the heuristics.** Whether no service is asked, the
service fails or stays silent, or it replies with any text at all, the findings of the heuristics
come first, and each finding behind them is advice about nodes of the graph. There are such only
if the reply is a text with an array in JSON. -/
theorem analyze_eq_append (g : Graph) (outcome : Option ChatOutcome) :
    ∃ advice, analyze g outcome = evaluateHeuristics g ++ advice ∧
      (∀ f ∈ advice, IsAdvice g f) ∧
      (advice ≠ [] → ∃ reply array items, outcome = some (.text reply) ∧
        firstArray? reply = some array ∧ Json.ofText? array = some (.arr items)) := by
  refine ⟨findings g outcome, rfl, fun f hf => (isAdvice_of_mem_findings f hf).1, fun hne => ?_⟩
  obtain ⟨f, hf⟩ := List.exists_mem_of_ne_nil _ hne
  exact (isAdvice_of_mem_findings f hf).2

example :
    (findings { nodes := [Node.ofType "db" "aws-rds"] } (some (.text
      "[\x7b\"title\": \" Open\", \"id\": \"ai-ai-7\", \"nodes\": [\"db\", \"x\", \"db\"]\x7d, 4]"))).map
      (fun f => (f.id, f.affected)) = [("ai-7", ["db"])] := by
  decide +kernel

end CloudGraph.Advisory
