import CloudGraph.Proofs.Generate.Closure.Terraform
import CloudGraph.Proofs.Generate.Failure

/-!
# The arguments of resource blocks

`bodies` reads the resource blocks of `main.tf` line by line, each with the names that it assigns. A
line at the indent of a block assigns a name. The lines of a value are further right, or close a
bracket, so nothing in a value is taken for an argument.

The attributes of a resource are kept in a map, so that of the keys with one snake-case form only
one is written. The dependency clause is no entry of that map. The template writes it after the
attributes.

**Theorem (`arguments_exact`).** A block assigns the snake-case forms of the keys of its resource,
each once, and after them `depends_on` if the resource depends on others. So a name is assigned
twice just if the resource depends on others and the node has a setting whose key is `depends_on` in
snake case. No default has such a key.
-/

namespace CloudGraph.Terraform

open Text

variable {g : Graph} {p : Plan} {r : PlannedResource}

/-! ## Reading blocks -/

/-- What a line does to the block that it stands in. -/
inductive Mark where
  | opens (type name : String)
  | assigns (name : String)
  | closes
deriving DecidableEq

/-- The name that a line at the indent of a block assigns. -/
def assigned? (line : List Char) : Option String :=
  (line.dropPrefix? [' ', ' ']).bind fun rest =>
    if (rest.head?.any fun c => c.isAlpha || c == '_') &&
        [' ', '=', ' '].isPrefixOf (rest.dropWhile (· ≠ ' ')) then
      some (.ofList (rest.takeWhile (· ≠ ' ')))
    else none

def mark? (line : List Char) : Option Mark :=
  if "resource ".toList.isPrefixOf line then
    match line.splitOn '"' with
    | [_, type, _, name, _] => some (.opens (.ofList type) (.ofList name))
    | _ => none
  else if line = ['}'] then some .closes
  else (assigned? line).map .assigns

/-- A resource block, with the names that it assigns in their order. -/
structure Body where
  type : String
  name : String
  arguments : List String
deriving DecidableEq

/-- The names that are assigned before a block closes. -/
def openArguments : List Mark → List String
  | .assigns name :: rest => name :: openArguments rest
  | _ => []

def readBodies : List Mark → List Body
  | [] => []
  | .opens type name :: rest => ⟨type, name, openArguments rest⟩ :: readBodies rest
  | _ :: rest => readBodies rest

def bodies (text : List Char) : List Body :=
  readBodies (readLines mark? text)

/-- A block assigns what its resource asks for. -/
structure Assigns (r : PlannedResource) (b : Body) : Prop where
  type : b.type = r.mapping.resourceType
  name : b.name = r.name
  /-- The attributes come first, with distinct names, and then the dependency clause. -/
  arguments : ∃ attributes : List String,
    b.arguments = attributes ++ (if r.dependsOn.isEmpty then [] else ["depends_on"]) ∧
      attributes.Nodup ∧
      ∀ name, name ∈ attributes ↔ ∃ key ∈ r.properties.keys, snakeCase key = name
  /-- A name is assigned twice just if a setting has the name of the clause beside it. -/
  nodup_iff : b.arguments.Nodup ↔
    ¬ (r.dependsOn ≠ [] ∧ ∃ key ∈ r.node.configuration.keys, snakeCase key = "depends_on")

/-! ## Names of attributes -/

/-- The names of the attributes of a resource; none if they cannot be written. -/
def attributeNames (r : PlannedResource) : List String :=
  match r.properties.entries.foldlM (addAttribute r) .empty with
  | .ok lines => lines.keys
  | .error _ => []

theorem nodup_attributeNames (r : PlannedResource) : (attributeNames r).Nodup := by
  unfold attributeNames
  cases r.properties.entries.foldlM (addAttribute r) .empty with
  | error cause => exact List.nodup_nil
  | ok lines => exact lines.increasing.nodup

theorem mem_keys_addAttribute {lines lines' : Attributes} {e : String × Json}
    (h : addAttribute r lines e = .ok lines') {name : String} :
    name ∈ lines'.keys ↔ name ∈ lines.keys ∨ snakeCase e.1 = name := by
  unfold addAttribute at h
  dsimp only at h
  split_ifs at h with hname hgiven
  · cases h
    -- a default that gives way has the name of an attribute that is there
    have hthere : snakeCase e.1 ∈ lines.keys := by
      by_contra hnew
      have hnone : lines.get? (snakeCase e.1) = none := lookup_eq_none hnew
      simp [hnone] at hgiven
    exact (or_iff_left_of_imp fun heq => heq ▸ hthere).symm
  · cases h
    exact mem_keys_insertEntry.trans (or_comm.trans (or_congr_right eq_comm))

theorem mem_keys_foldlM_addAttribute {entries : List (String × Json)} {lines lines' : Attributes}
    (h : entries.foldlM (addAttribute r) lines = .ok lines') {name : String} :
    name ∈ lines'.keys ↔ name ∈ lines.keys ∨ ∃ key ∈ entries.map (·.1), snakeCase key = name := by
  induction entries generalizing lines with
  | nil =>
    cases h
    simp
  | cons e rest ih =>
    rw [List.foldlM_cons] at h
    obtain ⟨next, hstep, hrest⟩ := bind_eq_ok h
    rw [ih hrest, mem_keys_addAttribute hstep, List.map_cons, or_assoc]
    simp

theorem mem_attributeNames (h : r ∈ (Plan.ofGraph .terraform g).resources)
    (hkey : faultyKey? r.node = none) {name : String} :
    name ∈ attributeNames r ↔ ∃ key ∈ r.properties.keys, snakeCase key = name := by
  rw [← find?_keys_properties h] at hkey
  obtain ⟨lines, hlines⟩ := exists_foldlM_addAttribute (r := r) hkey .empty
  unfold attributeNames
  rw [hlines]
  exact (mem_keys_foldlM_addAttribute hlines).trans (or_iff_right List.not_mem_nil)

/-- No default has the name of the clause. -/
theorem snakeCase_ne_of_mem_defaults :
    ∀ m ∈ Target.terraform.mappings, ∀ d ∈ m.2.defaults, snakeCase d.1 ≠ "depends_on" := by
  decide +kernel

theorem exists_key_dependsOn_iff (h : r ∈ (Plan.ofGraph .terraform g).resources) :
    (∃ key ∈ r.properties.keys, snakeCase key = "depends_on") ↔
      ∃ key ∈ r.node.configuration.keys, snakeCase key = "depends_on" := by
  obtain ⟨entry, hentry, hmapping⟩ := Plan.exists_entry_of_mem_resources h
  refine exists_congr fun key => and_congr_left fun hkey => ?_
  rw [PlannedResource.mem_keys_properties]
  refine or_iff_left fun hdefault => ?_
  obtain ⟨d, hd, rfl⟩ := List.mem_map.1 hdefault
  exact snakeCase_ne_of_mem_defaults entry hentry d (hmapping ▸ hd) hkey

/-! ## Lines of a block -/

theorem mark?_header (h : r ∈ (Plan.ofGraph .terraform g).resources) :
    mark? (header r).toList = some (.opens r.mapping.resourceType r.name) := by
  have hopen : "resource ".toList.isPrefixOf (header r).toList = true := by
    unfold header
    simp
  unfold mark?
  rw [if_pos hopen, splitOn_header h]
  simp only [String.ofList_toList]

theorem assigned?_append {name : List Char} (h : Hcl.isAttributeName name = true)
    (value : List Char) :
    assigned? ([' ', ' '] ++ (name ++ ' ' :: '=' :: ' ' :: value)) = some (.ofList name) := by
  have hblank : ' ' ∉ name := fun hc => absurd (Hcl.isAttributeChar_of_mem h hc) (by decide)
  have hfirst : (name ++ ' ' :: '=' :: ' ' :: value).head?.any (fun c => c.isAlpha || c == '_') =
      true := by
    cases name with
    | nil => cases h
    | cons c cs =>
      have hstart : (c.isLower || c == '_') = true := (Bool.and_eq_true_iff.1 h).1
      show (c.isUpper || c.isLower || c == '_') = true
      rw [Bool.or_assoc, hstart, Bool.or_true]
  unfold assigned?
  rw [List.dropPrefix?_append_of_beq _ (beq_self_eq_true _), Option.bind_some, hfirst,
    dropWhile_append_cons hblank, takeWhile_append_cons hblank]
  rfl

theorem mark?_append {name : List Char} (h : Hcl.isAttributeName name = true)
    (value : List Char) :
    mark? ([' ', ' '] ++ (name ++ ' ' :: '=' :: ' ' :: value)) =
      some (.assigns (.ofList name)) := by
  unfold mark?
  rw [if_neg (by simp), if_neg (by simp), assigned?_append h, Option.map_some]

/-- A line further right than the arguments is none of them, nor is one that closes a bracket. -/
theorem mark?_deeper : ∀ d ∈ continuation, ∀ line,
    mark? (List.replicate 2 ' ' ++ d :: line) = none := by
  intro d hd line
  have hletter : ∀ d ∈ continuation, (d.isAlpha || d == '_') = false := by
    simp [continuation]
  have hnone : assigned? ([' ', ' '] ++ d :: line) = none := by
    unfold assigned?
    rw [List.dropPrefix?_append_of_beq _ (beq_self_eq_true _), Option.bind_some, List.head?_cons,
      Option.any_some, hletter d hd]
    rfl
  show mark? ([' ', ' '] ++ d :: line) = none
  unfold mark?
  rw [if_neg (by simp), if_neg (by simp), hnone, Option.map_none]

theorem reads_attribute {name : String} (h : Hcl.isAttributeName name.toList = true) (v : Json) :
    Reads mark? (' ' :: ' ' :: (name ++ " = " ++ Hcl.text 2 v).toList ++ ['\n'])
      [.assigns name] := by
  have hhanging := (hangingFrom_attribute h v).after_of_notMem [' ', ' '] (by decide)
  have hreads := reads_hangingFrom mark?_deeper hhanging
  have hpart : ∀ c ∈ [' ', ' '] ++ (name.toList ++ [' ', '=', ' ']), decide (c ≠ '\n') = true := by
    have hnewline := Hcl.newline_notMem_of_isAttributeName h
    simp only [List.mem_append, decide_eq_true_eq]
    rintro c (hc | hc | hc) rfl
    · exact absurd hc (by decide)
    · exact hnewline hc
    · exact absurd hc (by decide)
  have hline : [' ', ' '] ++ (name ++ " = " ++ Hcl.text 2 v).toList =
      [' ', ' '] ++ (name.toList ++ [' ', '=', ' ']) ++ Hcl.chars 2 v := by
    simp [Hcl.text]
  have hmark : mark? (([' ', ' '] ++ (name ++ " = " ++ Hcl.text 2 v).toList).takeWhile
      (· ≠ '\n')) = some (.assigns name) := by
    rw [hline, List.takeWhile_append_of_pos hpart]
    simpa using mark?_append h ((Hcl.chars 2 v).takeWhile (· ≠ '\n'))
  rw [hmark] at hreads
  exact hreads

theorem reads_attributeLines (r : PlannedResource) :
    Reads mark? ((attributeLines r).map fun line => ' ' :: ' ' :: line.toList ++ ['\n']).flatten
      ((attributeNames r).map .assigns) := by
  unfold attributeLines attributeNames attributes
  cases hfold : r.properties.entries.foldlM (addAttribute r) .empty with
  | error cause => exact reads_nil
  | ok lines =>
    have hlines := writesAttributes_of_foldlM hfold
    show Reads mark? ((lines.entries.map (·.2)).map _).flatten ((lines.entries.map (·.1)).map _)
    rw [List.map_map, List.map_map]
    refine reads_flatten_map fun l hl => ?_
    obtain ⟨hname, v, hline⟩ := hlines l hl
    rw [Function.comp_apply, hline]
    exact reads_attribute hname v

theorem reads_dependencyLine (h : r ∈ (Plan.ofGraph .terraform g).resources) :
    Reads mark? (dependencyLine (Plan.ofGraph .terraform g) r ++ ['\n'])
      [.assigns "depends_on"] := by
  have hopen : "depends_on = [".toList = "depends_on".toList ++ [' ', '=', ' ', '['] := by simp
  have hname : Hcl.isAttributeName "depends_on".toList = true := by decide
  refine reads_line (newline_notMem_dependencyLine h) ?_
  unfold dependencyLine
  rw [hopen, List.append_assoc]
  exact (mark?_append hname _).trans (by rw [String.ofList_toList])

/-- What the lines of a block do. -/
def blockMarks (r : PlannedResource) : List Mark :=
  .opens r.mapping.resourceType r.name ::
    ((attributeNames r).map .assigns ++
      ((if r.dependsOn.isEmpty then [] else [.assigns "depends_on"]) ++ [.closes]))

theorem reads_blockText_marks (h : r ∈ (Plan.ofGraph .terraform g).resources) :
    Reads mark? (blockText (Plan.ofGraph .terraform g) r) (blockMarks r) := by
  have hblank : Reads mark? ['\n'] [] := reads_blank rfl
  have hheader : Reads mark? ((header r).toList ++ ['\n'])
      [.opens r.mapping.resourceType r.name] :=
    reads_line (newline_notMem_header h) (mark?_header h)
  have hdepends : Reads mark?
      (if (r.dependsOn.map (addressOf (Plan.ofGraph .terraform g))).isEmpty then []
        else ['\n'] ++ (dependencyLine (Plan.ofGraph .terraform g) r ++ ['\n']))
      (if r.dependsOn.isEmpty then [] else [.assigns "depends_on"]) := by
    rw [List.isEmpty_map]
    split_ifs
    · exact reads_nil
    · exact hblank.append (reads_dependencyLine h)
  have hclose : Reads mark? (['}'] ++ ['\n']) [.closes] := reads_line (by decide) rfl
  exact hblank.append (hheader.append ((reads_attributeLines r).append (hdepends.append hclose)))

/-! ## The program -/

/-- The block of a resource as it is read. -/
def bodyOf (r : PlannedResource) : Body where
  type := r.mapping.resourceType
  name := r.name
  arguments := attributeNames r ++ (if r.dependsOn.isEmpty then [] else ["depends_on"])

theorem openArguments_map_append (names : List String) (rest : List Mark) :
    openArguments (names.map .assigns ++ rest) = names ++ openArguments rest := by
  induction names with
  | nil => rfl
  | cons name names ih => exact congrArg (name :: ·) ih

/-- Lines that open no block are passed over. -/
theorem readBodies_append {ms : List Mark} (h : readBodies ms = []) (rest : List Mark) :
    readBodies (ms ++ rest) = readBodies rest := by
  induction ms with
  | nil => rfl
  | cons m ms ih =>
    cases m with
    | opens type name => cases h
    | assigns name => exact ih h
    | closes => exact ih h

theorem readBodies_map_assigns (names : List String) :
    readBodies (names.map .assigns) = [] := by
  induction names with
  | nil => rfl
  | cons name names ih => exact ih

theorem readBodies_blockMarks_append (r : PlannedResource) (rest : List Mark) :
    readBodies (blockMarks r ++ rest) = bodyOf r :: readBodies rest := by
  unfold blockMarks bodyOf
  rw [List.cons_append, readBodies, List.append_assoc, openArguments_map_append,
    readBodies_append (readBodies_map_assigns _)]
  split_ifs <;> rfl

theorem readBodies_flatMap_blockMarks (rs : List PlannedResource) :
    readBodies (rs.flatMap blockMarks) = rs.map bodyOf := by
  induction rs with
  | nil => rfl
  | cons r rs ih => rw [List.flatMap_cons, readBodies_blockMarks_append, ih, List.map_cons]

/-- The lines before the blocks of resources. -/
def head (cs : List CloudProvider) : List Char :=
  preamble cs ++ (cs.map providerBlock).flatten

theorem mainText_eq_head_append (p : Plan) :
    mainText p = head (usedProviders p) ++ (p.resources.map (blockText p)).flatten := by
  unfold mainText head preamble
  simp only [List.append_assoc, List.append_nil]

theorem readBodies_head :
    ∀ cs ∈ providers.sublists, (head cs).getLast? = some '\n' ∧
      readBodies (readLines mark? (head cs)) = [] := by
  decide +kernel

theorem bodies_mainText (g : Graph) :
    bodies (mainText (Plan.ofGraph .terraform g)) =
      (Plan.ofGraph .terraform g).resources.map bodyOf := by
  have hused : usedProviders (Plan.ofGraph .terraform g) ∈ providers.sublists :=
    List.mem_sublists.2 List.filter_sublist
  obtain ⟨hlast, hhead⟩ := readBodies_head _ hused
  have hlines : Reads mark? (head (usedProviders (Plan.ofGraph .terraform g))) _ :=
    reads_readLines rfl hlast
  have hblocks := reads_flatten fun r hr => reads_blockText_marks (g := g) (r := r) hr
  have hreads := hlines.append hblocks
  unfold bodies
  rw [mainText_eq_head_append, hreads.readLines_eq rfl, readBodies_append hhead,
    readBodies_flatMap_blockMarks]

theorem assigns_bodyOf (h : r ∈ (Plan.ofGraph .terraform g).resources)
    (hkey : faultyKey? r.node = none) : Assigns r (bodyOf r) where
  type := rfl
  name := rfl
  arguments := ⟨_, rfl, nodup_attributeNames r, fun _ => mem_attributeNames h hkey⟩
  nodup_iff := by
    rw [← exists_key_dependsOn_iff h, ← mem_attributeNames h hkey]
    unfold bodyOf
    cases hdepends : r.dependsOn with
    | nil => simpa using nodup_attributeNames r
    | cons name rest =>
      show (attributeNames r ++ ["depends_on"]).Nodup ↔ _
      rw [List.nodup_append_comm, List.singleton_append, List.nodup_cons]
      simp [nodup_attributeNames r]

/-- A graph that is generated from has no key at fault. -/
theorem faultless_of_generate {a : Artifact} (h : generate .terraform g = .ok a) :
    ∀ r ∈ (Plan.ofGraph .terraform g).resources, faultyKey? r.node = none := by
  obtain ⟨documents, hdocuments, -⟩ := generate_eq_ok_iff.1 h
  rcases faultless_or_first_fault (Plan.ofGraph .terraform g) with hnone | hfirst
  · exact hnone
  · obtain ⟨before, r, after, key, hresources, hbefore, hkey⟩ := hfirst
    cases hdocuments.symm.trans (documents_eq_error hresources hbefore hkey)

/-- **Arguments.** Let a Terraform program be generated for a graph. Its blocks are those of the
resources of the plan, and each assigns the snake-case forms of the keys of its resource, once each,
and after them `depends_on` if the resource depends on others. So no name is assigned twice in a
block, unless the resource depends on others and the node has a setting whose key is `depends_on` in
snake case. -/
theorem arguments_exact (g : Graph) (a : Artifact) (h : generate .terraform g = .ok a) :
    ∃ main outputs : String,
      a.documents = [⟨"main.tf", .text main⟩, ⟨"outputs.tf", .text outputs⟩] ∧
        List.Forall₂ Assigns (Plan.ofGraph .terraform g).resources (bodies main.toList) := by
  obtain ⟨documents, hdocuments, rfl⟩ := generate_eq_ok_iff.1 h
  refine ⟨_, _, documents_of_ok hdocuments, ?_⟩
  rw [String.toList_ofList, bodies_mainText, List.forall₂_map_right_iff, List.forall₂_same]
  exact fun r hr => assigns_bodyOf hr (faultless_of_generate h r hr)

/-- A node that is not the target of an edge may name its dependencies in a setting. -/
theorem arguments_exact_own_clause :
    ∃ (g : Graph) (a : Artifact) (main outputs : String),
      g = { nodes := [
        Node.ofType "net" "aws-vpc",
        (Node.ofType "vm" "aws-ec2").withSetting "dependsOn" (.str "aws_vpc.net")] } ∧
      generate .terraform g = .ok a ∧
      a.documents = [⟨"main.tf", .text main⟩, ⟨"outputs.tf", .text outputs⟩] ∧
      List.Forall₂ Assigns (Plan.ofGraph .terraform g).resources (bodies main.toList) := by
  let g : Graph := { nodes := [
    Node.ofType "net" "aws-vpc",
    (Node.ofType "vm" "aws-ec2").withSetting "dependsOn" (.str "aws_vpc.net")] }
  have hfaultless : ∀ r ∈ (Plan.ofGraph .terraform g).resources, faultyKey? r.node = none := by
    decide +kernel
  obtain ⟨a, ha⟩ := exists_generate_terraform hfaultless
  obtain ⟨main, outputs, hdocuments, hbodies⟩ := arguments_exact g a ha
  exact ⟨g, a, main, outputs, rfl, ha, hdocuments, hbodies⟩

/-- With an edge to such a node its block assigns `depends_on` twice. -/
theorem arguments_repeated :
    ∃ (g : Graph) (a : Artifact) (main outputs : String) (b : Body),
      g = {
        nodes := [
          Node.ofType "net" "aws-vpc",
          (Node.ofType "vm" "aws-ec2").withSetting "dependsOn" (.str "aws_vpc.net")]
        edges := [⟨"e1", "net", "vm"⟩] } ∧
      generate .terraform g = .ok a ∧
      a.documents = [⟨"main.tf", .text main⟩, ⟨"outputs.tf", .text outputs⟩] ∧
      b ∈ bodies main.toList ∧ b.name = "vm" ∧
      b.arguments = ["ami", "depends_on", "instance_type", "depends_on"] := by
  let g : Graph := {
    nodes := [
      Node.ofType "net" "aws-vpc",
      (Node.ofType "vm" "aws-ec2").withSetting "dependsOn" (.str "aws_vpc.net")]
    edges := [⟨"e1", "net", "vm"⟩] }
  have hfaultless : ∀ r ∈ (Plan.ofGraph .terraform g).resources, faultyKey? r.node = none := by
    decide +kernel
  have hgenerate : generate .terraform g = .ok _ :=
    generate_eq_ok_iff.2 ⟨_, documents_eq_ok hfaultless, rfl⟩
  let b : Body := {
    type := "aws_instance"
    name := "vm"
    arguments := ["ami", "depends_on", "instance_type", "depends_on"] }
  have hb : b ∈ (Plan.ofGraph .terraform g).resources.map bodyOf := by decide +kernel
  refine ⟨g, _, _, _, b, rfl, hgenerate, rfl, ?_, rfl, rfl⟩
  rwa [String.toList_ofList, bodies_mainText]

end CloudGraph.Terraform
