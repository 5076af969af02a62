import CloudGraph.Proofs.Generate.Declarations.Pulumi
import CloudGraph.Proofs.Generate.NameMap

/-!
# Words that a Pulumi program declares

The constants of `index.ts` are named after the nodes, and a name is kept off the words of
`Target.programWords`. That list has the keywords of the language. A module is in strict mode too,
and the words that only strict mode takes are not on the list (`strictWords`).

**Theorem (`declared_words_exact`).** No resource is declared under a word of the list. A word that
only strict mode takes is declared just if it is what the label or id of a node with a mapping is
sanitized to.

A name that is not reserved is handed out to the first text that is sanitized to it, if it is handed
out at all. A numbered variant ends in a digit, so it is none of these words
(`mem_allocateAll_iff`).
-/

namespace CloudGraph

/-! ## Names that are no variants -/

namespace NameAllocator

variable {a : NameAllocator} {name : String}

/-- Whether the last character of a text is a digit. -/
def EndsInDigit (name : String) : Prop :=
  name.toList.getLast?.any Char.isDigit = true

instance (name : String) : Decidable (EndsInDigit name) :=
  inferInstanceAs (Decidable (_ = true))

theorem endsInDigit_variant (a : NameAllocator) (base : String) (n : Nat) :
    EndsInDigit (a.variant base n) := by
  have hne : Decimal.digitText n ≠ [] := List.ne_nil_of_length_pos Nat.length_toDigits_pos
  have hsuffix : (suffix a.style n).getLast? = (Decimal.digitText n).getLast? := by
    cases a.style with
    | snake => exact List.getLast?_cons_of_ne_nil hne
    | alphanumeric => rfl
  have hdigit : ((Decimal.digitText n).getLast hne).isDigit = true :=
    Nat.isDigit_of_mem_toDigits (by decide) (by decide) (List.getLast_mem hne)
  unfold EndsInDigit
  rw [toList_variant, List.getLast?_append, hsuffix, List.getLast?_eq_some_getLast hne]
  exact hdigit

theorem sanitize_eq_of_choose_eq {raw : String} (hend : ¬ EndsInDigit name)
    (h : a.choose raw = name) : Identifier.sanitize a.style raw a.maxLength = name := by
  rcases choose_cases a raw with ⟨hbase, -⟩ | ⟨n, -, hvariant, -⟩
  · exact hbase.symm.trans h
  · exact absurd (h ▸ hvariant ▸ endsInDigit_variant a _ n) hend

theorem choose_eq_of_sanitize_eq {raw : String} (hnew : name ∉ a.used)
    (h : Identifier.sanitize a.style raw a.maxLength = name) : a.choose raw = name := by
  unfold choose
  dsimp only
  rw [h, if_neg (mt List.contains_iff_mem.1 hnew)]

/-- A new name without a number is handed out just if some text is sanitized to it. -/
theorem mem_allocateAll_iff (hend : ¬ EndsInDigit name) {raws : List String}
    (hnew : name ∉ a.used) :
    name ∈ (a.allocateAll raws).1 ↔
      ∃ raw ∈ raws, Identifier.sanitize a.style raw a.maxLength = name := by
  induction raws generalizing a with
  | nil => simp
  | cons raw rest ih =>
    rw [allocateAll_cons, List.mem_cons, List.exists_mem_cons_iff]
    by_cases hraw : Identifier.sanitize a.style raw a.maxLength = name
    · exact iff_of_true (.inl (choose_eq_of_sanitize_eq hnew hraw).symm) (.inl hraw)
    · have hother : name ≠ a.choose raw := fun h => hraw (sanitize_eq_of_choose_eq hend h.symm)
      have hnew' : name ∉ (a.allocate raw).2.used := by simp [hother, hnew]
      rw [or_iff_right hother, or_iff_right hraw]
      exact ih hnew'

end NameAllocator

namespace Plan

/-- A name without a number is that of a resource just if the text of a node with a mapping is
sanitized to it. -/
theorem mem_map_name_iff {target : Target} {g : Graph} {name : String}
    (hend : ¬ NameAllocator.EndsInDigit name) (hnew : name ∉ target.reservedNames) :
    name ∈ (ofGraph target g).resources.map (·.name) ↔
      ∃ n ∈ g.nodes, (target.mapping? n.componentType).isSome = true ∧
        Identifier.sanitize target.identifierStyle (rawName n) target.maxIdentifierLength =
          name := by
  have hnames : ((ofGraph target g).resources.map (·.name)).Perm (mappedNames target g) :=
    (resources_perm_declared.map _).trans (.of_eq map_name_declared)
  have hraws : (mapped target g.nodes).map (fun m => rawName m.1) =
      (g.nodes.filter fun n => (target.mapping? n.componentType).isSome).map rawName := by
    rw [← map_fst_mapped, List.map_map]
    rfl
  rw [hnames.mem_iff]
  unfold mappedNames
  rw [hraws, NameAllocator.mem_allocateAll_iff hend hnew]
  constructor
  · rintro ⟨raw, hraw, hname⟩
    obtain ⟨n, hn, rfl⟩ := List.mem_map.1 hraw
    obtain ⟨hn, hmapping⟩ := List.mem_filter.1 hn
    exact ⟨n, hn, hmapping, hname⟩
  · rintro ⟨n, hn, hmapping, hname⟩
    exact ⟨_, List.mem_map_of_mem (List.mem_filter.2 ⟨hn, hmapping⟩), hname⟩

end Plan

/-! ## Words -/

/-- Words that cannot name a variable in strict mode only. -/
def strictWords : List String :=
  ["implements", "interface", "package", "private", "protected", "public", "eval", "arguments"]

theorem strictWords_unreserved :
    ∀ word ∈ strictWords, ¬ NameAllocator.EndsInDigit word ∧ word ∉ Target.programWords := by
  decide +kernel

theorem exists_generate_pulumi (g : Graph) :
    ∃ (a : Artifact) (index project : String), generate .pulumi g = .ok a ∧
      a.documents = [⟨"index.ts", .text index⟩, ⟨"Pulumi.yaml", .text project⟩] ∧
      Text.readLines Pulumi.declared? index.toList =
        (Plan.ofGraph .pulumi g).resources.map (·.name) ++
          if (Plan.ofGraph .pulumi g).resources.isEmpty then [] else ["ids"] := by
  obtain ⟨project, hdocuments⟩ := Pulumi.documents_eq (Plan.ofGraph .pulumi g)
  exact ⟨_, _, project, generate_eq_ok_iff.2 ⟨_, hdocuments, rfl⟩, rfl,
    (Pulumi.reads_indexText g).readLines_ofList Pulumi.skipsContinued_declared?⟩

/-- **Declared words.** A Pulumi program declares the names of the resources and, if there are any,
`ids`. No resource is declared under a word that the program reserves. But a word that only strict
mode takes is declared just if a node with a mapping has a label or id that is sanitized to it. -/
theorem declared_words_exact (g : Graph) :
    ∃ (a : Artifact) (index project : String), generate .pulumi g = .ok a ∧
      a.documents = [⟨"index.ts", .text index⟩, ⟨"Pulumi.yaml", .text project⟩] ∧
      let resources := (Plan.ofGraph .pulumi g).resources
      let words := Text.readLines Pulumi.declared? index.toList
      words = resources.map (·.name) ++ (if resources.isEmpty then [] else ["ids"]) ∧
      (∀ r ∈ resources, r.name ∉ Target.programWords) ∧
      ∀ word ∈ strictWords, (word ∈ words ↔
        ∃ n ∈ g.nodes, (Target.pulumi.mapping? n.componentType).isSome = true ∧
          Identifier.sanitize .snake (Plan.rawName n) 64 = word) := by
  obtain ⟨a, index, project, hgenerate, hdocuments, hwords⟩ := exists_generate_pulumi g
  refine ⟨a, index, project, hgenerate, hdocuments, hwords, fun r => Plan.name_not_reserved,
    fun word hword => ?_⟩
  obtain ⟨hend, hnew⟩ := strictWords_unreserved word hword
  have hother : word ∉ if (Plan.ofGraph .pulumi g).resources.isEmpty then [] else ["ids"] := by
    split_ifs
    · exact List.not_mem_nil
    · rw [List.mem_singleton]
      rintro rfl
      exact hnew (by decide)
  rw [hwords, List.mem_append, or_iff_left hother]
  exact Plan.mem_map_name_iff hend hnew

/-- A bucket with the label `Public` is declared under a word that strict mode takes. -/
theorem declared_words_public :
    ∃ (g : Graph) (a : Artifact) (index project : String),
      g = { nodes := [(Node.ofType "assets" "aws-s3").withLabel "Public"] } ∧
      generate .pulumi g = .ok a ∧
      a.documents = [⟨"index.ts", .text index⟩, ⟨"Pulumi.yaml", .text project⟩] ∧
      Text.readLines Pulumi.declared? index.toList = ["public", "ids"] ∧
      "public" ∈ strictWords := by
  let g : Graph := { nodes := [(Node.ofType "assets" "aws-s3").withLabel "Public"] }
  obtain ⟨a, index, project, hgenerate, hdocuments, hwords⟩ := exists_generate_pulumi g
  have hdeclared : ((Plan.ofGraph .pulumi g).resources.map (·.name) ++
      if (Plan.ofGraph .pulumi g).resources.isEmpty then [] else ["ids"]) = ["public", "ids"] := by
    decide +kernel
  exact ⟨g, a, index, project, rfl, hgenerate, hdocuments, hwords.trans hdeclared, by decide⟩

end CloudGraph
