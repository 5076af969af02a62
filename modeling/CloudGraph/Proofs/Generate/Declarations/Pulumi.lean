import CloudGraph.Generate.Pulumi
import CloudGraph.Proofs.Generate.Plan.Names
import CloudGraph.Proofs.Generate.Template
import CloudGraph.Proofs.Generate.Values

/-!
# The constants of a Pulumi program

`index.ts` declares a constant for each resource of the plan and after them `ids`, and nothing else.

* **Statements** (`reads_statement`). The statement of a resource declares its name. It goes on over
  the lines of its properties, which hang, and ends with what it depends on.
* **Exports** (`reads_exports`). The names are exported together, in lines that are indented.
* **The document** (`renders_indexTemplate`, `reads_indexText`). Only the imports of packages stand
  before the statements.
-/

namespace CloudGraph.Pulumi

open Template Text

variable {g : Graph} {p : Plan} {r : PlannedResource}

/-- The identifier that a line declares: what stands up to the first blank after `const ` or
`export const `. -/
def declared? (line : List Char) : Option String :=
  ((line.dropPrefix? "const ".toList).or (line.dropPrefix? "export const ".toList)).map
    fun rest => String.ofList (rest.takeWhile (· ≠ ' '))

/-! ### Statements -/

/-- The option that names what a resource depends on. -/
def dependencyOption (r : PlannedResource) : List Char :=
  if r.dependsOn.isEmpty then []
  else ", \x7b dependsOn: [".toList ++
    (", ".toList.intercalate (r.dependsOn.map String.toList) ++ ("] \x7d".toList ++ []))

/-- The statement of a resource. -/
def statement (r : PlannedResource) : List Char :=
  "const ".toList ++ (r.name.toList ++ (" = new ".toList ++ (r.mapping.resourceType.toList ++
    ("(".toList ++ (Json.quoteChars r.name.toList ++ (", ".toList ++
      ((Json.pretty (.obj r.properties.entries)).toList ++
        (dependencyOption r ++ ");".toList))))))))

/-- The line that exports a resource, without its indent. -/
def exportLine (r : PlannedResource) : List Char :=
  r.name.toList ++ (": ".toList ++ (r.name.toList ++ ".id,".toList))

/-- The statement that exports the resources, if there are any. -/
def exports (p : Plan) : List Char :=
  if p.resources.isEmpty then []
  else ['\n'] ++ (("export const ids = \x7b".toList ++ ['\n']) ++
    ((p.resources.map fun r => ' ' :: ' ' :: exportLine r ++ ['\n']).flatten ++
      (['}', ';'] ++ ['\n'])))

/-- The line that imports a package. -/
def importLine (package : String × String) : List Char :=
  "import * as ".toList ++ (package.1.toList ++ (" from \"".toList ++
    (package.2.toList ++ ("\";\n".toList ++ []))))

def indexText (p : Plan) : List Char :=
  "// Generated by infragraph. Do not edit by hand.\n".toList ++
    ("import * as pulumi from \"@pulumi/pulumi\";\n".toList ++
      (((usedPackages p).map importLine).flatten ++
        ((p.resources.map fun r => ['\n'] ++ (statement r ++ ['\n'])).flatten ++
          (exports p ++ []))))

theorem renders_indexTemplate (p : Plan) :
    Renders (indexData p) indexTemplate.parts (indexText p) := by
  refine .literal <| .literal <|
    .each (find_object rfl) (fun _ _ => .literal <| .value (find_object rfl) <| .literal <|
      .value (find_object rfl) <| .literal renders_nil) <|
    .each (find_object rfl) (fun r _ => ?statement) <|
    .givenItems (find_object rfl) ?exports renders_nil
  case statement =>
    refine Renders.congr (.literal <| .value (find_object rfl) <| .literal <|
      .value (find_object rfl) <| .literal <| .quoted (find_object rfl) <| .literal <|
      .value (find_object rfl) <|
      .givenItems (find_object rfl)
        (.literal <| .joined (find_object rfl) <| .literal renders_nil) <|
      .literal renders_nil) ?_
    have hopen : "\nconst ".toList = '\n' :: "const ".toList := by simp
    have hend : ");\n".toList = ");".toList ++ ['\n'] := by simp
    unfold statement dependencyOption
    simp only [hopen, hend, List.append_assoc, List.cons_append, List.nil_append, List.append_nil]
  case exports =>
    refine Renders.congr (.literal <|
      .each (find_object rfl) (fun r _ => .literal <| .value (find_object rfl) <| .literal <|
        .value (find_object rfl) <| .literal renders_nil) <|
      .literal renders_nil) ?_
    have hopen : "\nexport const ids = \x7b\n".toList =
        '\n' :: "export const ids = \x7b".toList ++ ['\n'] := by simp
    have hindent : "  ".toList = [' ', ' '] := by simp
    have hid : ".id,\n".toList = ".id,".toList ++ ['\n'] := by simp
    have hclose : "\x7d;\n".toList = ['}', ';', '\n'] := by simp
    unfold exportLine
    simp only [hopen, hindent, hid, hclose, List.append_assoc, List.cons_append, List.nil_append,
      List.append_nil]

theorem renders_projectTemplate :
    ∃ text, Renders projectData projectTemplate.parts text :=
  ⟨_, .literal <| .value (find_object rfl) <| .literal <| .value (find_object rfl) <|
    .literal renders_nil⟩

theorem documents_eq (p : Plan) :
    ∃ project, Pulumi.documents p =
      .ok [⟨"index.ts", .text (.ofList (indexText p))⟩, ⟨"Pulumi.yaml", .text project⟩] := by
  obtain ⟨project, hproject⟩ := renders_projectTemplate
  refine ⟨.ofList project, ?_⟩
  unfold Pulumi.documents
  rw [fill_of_renders (renders_indexTemplate p), fill_of_renders hproject]
  rfl

/-! ### Lines -/

theorem skipsContinued_declared? : SkipsContinued declared? := by
  have hconst : "const ".toList = ['c', 'o', 'n', 's', 't', ' '] := by simp
  have hexport : "export const ".toList =
      ['e', 'x', 'p', 'o', 'r', 't', ' ', 'c', 'o', 'n', 's', 't', ' '] := by simp
  refine ⟨by decide, fun c hc line => ?_⟩
  unfold declared?
  rw [hconst, hexport]
  rcases hc with _ | ⟨_, _ | ⟨_, _ | ⟨_, hc⟩⟩⟩
  · rfl
  · rfl
  · rfl
  · cases hc

theorem declared?_const {name : List Char} (h : ' ' ∉ name) (rest : List Char) :
    declared? ("const ".toList ++ (name ++ ' ' :: rest)) = some (.ofList name) := by
  unfold declared?
  rw [List.dropPrefix?_append_of_beq _ (beq_self_eq_true _), Option.some_or, Option.map_some,
    takeWhile_append_cons h]

theorem plain_name (h : r ∈ (Plan.ofGraph .pulumi g).resources) :
    '\n' ∉ r.name.toList ∧ ' ' ∉ r.name.toList :=
  ⟨fun hc => absurd (Plan.isRest_of_mem_name h hc) (by decide),
    fun hc => absurd (Plan.isRest_of_mem_name h hc) (by decide)⟩

theorem newline_notMem_dependencyOption (h : r ∈ (Plan.ofGraph .pulumi g).resources) :
    '\n' ∉ dependencyOption r := by
  have hopen : '\n' ∉ ", \x7b dependsOn: [".toList := by decide
  have hclose : '\n' ∉ "] \x7d".toList := by decide
  have hjoined : '\n' ∉ ", ".toList.intercalate (r.dependsOn.map String.toList) := by
    refine notMem_intercalate (by decide) fun t ht => ?_
    obtain ⟨name, hname, rfl⟩ := List.mem_map.1 ht
    exact fun hc => absurd (Plan.isRest_of_mem_dependsOn h hname hc) (by decide)
  unfold dependencyOption
  split_ifs
  · exact List.not_mem_nil
  · simp only [List.append_nil, List.mem_append, not_or]
    exact ⟨hopen, hjoined, hclose⟩

theorem hanging_statement (h : r ∈ (Plan.ofGraph .pulumi g).resources) : Hanging (statement r) := by
  have htype : '\n' ∉ r.mapping.resourceType.toList := fun hc =>
    absurd (Plan.isTypeChar_of_mem_resourceType h hc) (by decide)
  have hproperties : Hanging (Json.pretty (.obj r.properties.entries)).toList := by
    unfold Json.pretty
    rw [String.toList_ofList]
    exact Json.hanging_prettyChars 0 _
  have hend : Hanging (dependencyOption r ++ ");".toList) :=
    (hanging_of_notMem (newline_notMem_dependencyOption h)).append (hanging_of_notMem (by decide))
  refine .after_of_notMem (.after_of_notMem (.after_of_notMem (.after_of_notMem
    (.after_of_notMem (.after_of_notMem (.after_of_notMem (hproperties.append hend)
      _ ?_) _ ?_) _ ?_) _ ?_) _ ?_) _ ?_) _ ?_
  · decide
  · exact Json.newline_notMem_quoteChars _
  · decide
  · exact htype
  · decide
  · exact (plain_name h).1
  · decide

theorem reads_statement (h : r ∈ (Plan.ofGraph .pulumi g).resources) :
    Reads declared? (['\n'] ++ (statement r ++ ['\n'])) [r.name] := by
  have hname := plain_name h
  have hfirst : ∃ rest, (statement r).takeWhile (· ≠ '\n') =
      "const ".toList ++ (r.name.toList ++ ' ' :: rest) := by
    have hconst : ∀ c ∈ "const ".toList, decide (c ≠ '\n') = true :=
      List.all_eq_true.mp (by decide)
    have hall : ∀ c ∈ r.name.toList, decide (c ≠ '\n') = true := fun c hc =>
      decide_eq_true fun heq => hname.1 (heq ▸ hc)
    have hnew : " = new ".toList = ' ' :: "= new ".toList := by simp
    unfold statement
    rw [List.takeWhile_append_of_pos hconst, List.takeWhile_append_of_pos hall, hnew,
      List.cons_append, List.takeWhile_cons_of_pos (by decide)]
    exact ⟨_, rfl⟩
  obtain ⟨rest, hrest⟩ := hfirst
  have hreads := reads_hanging skipsContinued_declared? (hanging_statement h)
  rw [hrest, declared?_const hname.2, String.ofList_toList] at hreads
  exact (reads_blank skipsContinued_declared?.nil).append hreads

theorem newline_notMem_exportLine (h : r ∈ (Plan.ofGraph .pulumi g).resources) :
    '\n' ∉ exportLine r := by
  have hname := (plain_name h).1
  have hcolon : '\n' ∉ ": ".toList := by decide
  have hid : '\n' ∉ ".id,".toList := by decide
  unfold exportLine
  simp only [List.mem_append, not_or]
  exact ⟨hname, hcolon, hname, hid⟩

theorem reads_exports (g : Graph) :
    Reads declared? (exports (Plan.ofGraph .pulumi g))
      (if (Plan.ofGraph .pulumi g).resources.isEmpty then [] else ["ids"]) := by
  have hheader : Reads declared? ("export const ids = \x7b".toList ++ ['\n']) ["ids"] :=
    reads_line (by decide) (by decide +kernel)
  have hlines : Reads declared? ((Plan.ofGraph .pulumi g).resources.map fun r =>
      ' ' :: ' ' :: exportLine r ++ ['\n']).flatten [] := by
    refine reads_flatten_nil fun r hr => ?_
    exact reads_continued skipsContinued_declared? (by decide)
      ((hanging_of_notMem (newline_notMem_exportLine hr)).after_of_notMem [' ', ' '] (by decide))
  have hclose : Reads declared? (['}', ';'] ++ ['\n']) [] :=
    reads_continued skipsContinued_declared? (by decide) (hanging_of_notMem (by decide))
  unfold exports
  split_ifs
  · exact reads_nil
  · exact (reads_blank skipsContinued_declared?.nil).append (hheader.append (hlines.append hclose))

theorem reads_indexText (g : Graph) :
    Reads declared? (indexText (Plan.ofGraph .pulumi g))
      ((Plan.ofGraph .pulumi g).resources.map (·.name) ++
        if (Plan.ofGraph .pulumi g).resources.isEmpty then [] else ["ids"]) := by
  have hpackages : ∀ package ∈ packages, (importLine package).getLast? = some '\n' ∧
      readLines declared? (importLine package) = [] := by
    decide +kernel
  have himports : Reads declared?
      ((usedPackages (Plan.ofGraph .pulumi g)).map importLine).flatten [] := by
    refine reads_flatten_nil fun package hpackage => ?_
    obtain ⟨hlast, hnone⟩ := hpackages package (List.mem_of_mem_filter hpackage)
    exact reads_of_readLines_eq_nil hlast hnone
  have hstatements := reads_flatten_map fun r hr => reads_statement (g := g) (r := r) hr
  have hexports : Reads declared? (exports (Plan.ofGraph .pulumi g) ++ [])
      (if (Plan.ofGraph .pulumi g).resources.isEmpty then [] else ["ids"]) := by
    rw [List.append_nil]
    exact reads_exports g
  exact (reads_of_readLines_eq_nil (by decide +kernel) (by decide +kernel)).append <|
    (reads_of_readLines_eq_nil (by decide +kernel) (by decide +kernel)).append <|
    himports.append <| hstatements.append hexports

theorem nodup_declared (g : Graph) :
    ((Plan.ofGraph .pulumi g).resources.map (·.name) ++
      if (Plan.ofGraph .pulumi g).resources.isEmpty then [] else ["ids"]).Nodup := by
  split_ifs
  · rw [List.append_nil]
    exact Plan.nodup_names
  · refine List.nodup_append.2 ⟨Plan.nodup_names, List.nodup_singleton _, ?_⟩
    rintro name hname _ hids rfl
    obtain ⟨r, hr, rfl⟩ := List.mem_map.1 hname
    refine Plan.name_not_reserved hr ?_
    rw [List.mem_singleton.1 hids]
    decide +kernel

end CloudGraph.Pulumi
