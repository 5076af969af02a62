import CloudGraph.Generate.Terraform
import CloudGraph.Proofs.Generate.Plan.Names
import CloudGraph.Proofs.Generate.Template
import CloudGraph.Proofs.Generate.Values

/-!
# The blocks of a Terraform program

`main.tf` has a block for each resource of the plan and `outputs.tf` an output for each, and no
line of either starts another one.

* **Attributes** (`hanging_of_mem_attributeLines`). The name of an attribute is a word and its value
  hangs, so the lines of an attribute are indented or close a bracket.
* **Blocks** (`renders_block`, `reads_blockText`). A block is its header, its attributes and what
  it depends on. The header has the type and the name of the resource, which are words. All other
  lines are empty, indented or close the block.
* **Documents** (`documents_of_ok`, `reads_mainText`, `reads_outputsText`). The templates put the
  blocks after lines about the providers, of which none opens a block.
-/

namespace CloudGraph.Terraform

open Template Text

variable {g : Graph} {p : Plan} {r : PlannedResource}

/-- A computation that succeeds has a first step that does. -/
theorem bind_eq_ok {ε α β : Type} {x : Except ε α} {f : α → Except ε β} {b : β}
    (h : (x >>= f) = .ok b) : ∃ a, x = .ok a ∧ f a = .ok b := by
  cases x with
  | error e => cases h
  | ok a => exact ⟨a, rfl, h⟩

/-! ### Attributes -/

/-- The attribute lines of a resource; none if they cannot be written. -/
def attributeLines (r : PlannedResource) : List String :=
  match attributes r with
  | .ok lines => lines
  | .error _ => []

/-- Each entry has the line of an attribute of that name. -/
def WritesAttributes (lines : Attributes) : Prop :=
  ∀ l ∈ lines.entries, Hcl.isAttributeName l.1.toList = true ∧
    ∃ v, l.2 = l.1 ++ " = " ++ Hcl.text 2 v

theorem WritesAttributes.addAttribute {lines lines' : Attributes} {e : String × Json}
    (hlines : WritesAttributes lines) (h : addAttribute r lines e = .ok lines') :
    WritesAttributes lines' := by
  unfold Terraform.addAttribute at h
  dsimp only at h
  split_ifs at h with hname hgiven
  · cases h
    exact hlines
  · cases h
    intro l hl
    rcases eq_or_mem_of_mem_insertEntry hl with rfl | hl
    · exact ⟨by simpa using hname, e.2, rfl⟩
    · exact hlines l hl

theorem WritesAttributes.foldlM {entries : List (String × Json)} {lines lines' : Attributes}
    (hlines : WritesAttributes lines)
    (h : entries.foldlM (Terraform.addAttribute r) lines = .ok lines') :
    WritesAttributes lines' := by
  induction entries generalizing lines with
  | nil =>
    cases h
    exact hlines
  | cons e rest ih =>
    rw [List.foldlM_cons] at h
    obtain ⟨next, hstep, hrest⟩ := bind_eq_ok h
    exact ih (hlines.addAttribute hstep) hrest

theorem writesAttributes_of_foldlM {entries : List (String × Json)} {lines : Attributes}
    (h : entries.foldlM (addAttribute r) .empty = .ok lines) : WritesAttributes lines :=
  WritesAttributes.foldlM (fun l hl => by cases hl) h

/-- The line of an attribute, the value of which hangs from its indent. -/
theorem hangingFrom_attribute {name : String} (h : Hcl.isAttributeName name.toList = true)
    (v : Json) : HangingFrom 2 (name ++ " = " ++ Hcl.text 2 v).toList := by
  have hname := Hcl.newline_notMem_of_isAttributeName h
  have htext : (name ++ " = " ++ Hcl.text 2 v).toList =
      name.toList ++ ([' ', '=', ' '] ++ Hcl.chars 2 v) := by
    simp [Hcl.text]
  rw [htext]
  exact ((Hcl.hangingFrom_chars (Nat.le_refl 2) v).after_of_notMem _ (by decide)).after_of_notMem _
    hname

theorem hanging_of_mem_attributeLines {line : String} (h : line ∈ attributeLines r) :
    Hanging line.toList := by
  unfold attributeLines attributes at h
  cases hfold : r.properties.entries.foldlM (addAttribute r) .empty with
  | error cause =>
    rw [hfold] at h
    cases h
  | ok lines =>
    rw [hfold] at h
    obtain ⟨l, hl, rfl⟩ := List.mem_map.1 h
    obtain ⟨hname, v, hline⟩ := writesAttributes_of_foldlM hfold l hl
    exact hline ▸ (hangingFrom_attribute hname v).hanging

/-! ### Blocks -/

/-- The data of a resource whose attributes can be written. -/
def block (p : Plan) (r : PlannedResource) : Json :=
  .object [("resource_type", .str r.mapping.resourceType), ("name", .str r.name),
    ("attributes", .strings (attributeLines r)),
    ("depends_on", .strings (r.dependsOn.map (addressOf p)))]

theorem eq_block_of_resourceJson {data : Json} (h : resourceJson p r = .ok data) :
    data = block p r := by
  unfold resourceJson at h
  unfold block attributeLines
  cases hlines : attributes r with
  | error cause =>
    rw [hlines] at h
    cases h
  | ok lines =>
    rw [hlines] at h
    cases h
    rfl

theorem eq_map_block_of_mapM {resources : List PlannedResource} {data : List Json}
    (h : resources.mapM (resourceJson p) = .ok data) : data = resources.map (block p) := by
  induction resources generalizing data with
  | nil =>
    cases h
    rfl
  | cons r rest ih =>
    rw [List.mapM_cons] at h
    obtain ⟨first, hfirst, h⟩ := bind_eq_ok h
    obtain ⟨others, hothers, h⟩ := bind_eq_ok h
    cases h
    rw [List.map_cons, eq_block_of_resourceJson hfirst, ih hothers]

/-- The line that opens the block of a resource. -/
def header (r : PlannedResource) : String :=
  "resource \"" ++ r.mapping.resourceType ++ "\" \"" ++ r.name ++ "\" \x7b"

/-- The line with the dependencies of a resource. -/
def dependencyLine (p : Plan) (r : PlannedResource) : List Char :=
  ' ' :: ' ' :: ("depends_on = [".toList ++
    (", ".toList.intercalate ((r.dependsOn.map (addressOf p)).map String.toList) ++ [']']))

/-- The block of a resource, line by line. -/
def blockText (p : Plan) (r : PlannedResource) : List Char :=
  ['\n'] ++ (((header r).toList ++ ['\n']) ++
    (((attributeLines r).map fun line => ' ' :: ' ' :: line.toList ++ ['\n']).flatten ++
      ((if (r.dependsOn.map (addressOf p)).isEmpty then []
        else ['\n'] ++ (dependencyLine p r ++ ['\n'])) ++
        (['}'] ++ ['\n']))))

theorem renders_block (p : Plan) (r : PlannedResource) {body : List TemplatePart}
    (hbody : resourceBlocks = .each "resources" body) :
    Renders (block p r) body (blockText p r) := by
  cases hbody
  refine Renders.congr (.literal <| .value (find_object rfl) <| .literal <|
    .value (find_object rfl) <| .literal <|
    .each (find_object rfl) (fun line _ => .literal <| .item <| .literal renders_nil) <|
    .givenItems (find_object rfl)
      (.literal <| .joined (find_object rfl) <| .literal renders_nil) <|
    .literal renders_nil) ?_
  have hopen : "\nresource \"".toList = '\n' :: "resource \"".toList := by simp
  have hbrace : "\" \x7b\n".toList = "\" \x7b".toList ++ ['\n'] := by simp
  have hend : "\n".toList = ['\n'] := by simp
  have hindent : "  ".toList = [' ', ' '] := by simp
  have hdepends : "\n  depends_on = [".toList = '\n' :: ' ' :: ' ' :: "depends_on = [".toList := by
    simp
  have hbracket : "]\n".toList = [']', '\n'] := by simp
  have hclose : "\x7d\n".toList = ['}', '\n'] := by simp
  unfold blockText header dependencyLine
  split_ifs <;>
    simp only [String.toList_append, hopen, hbrace, hend, hindent, hdepends, hbracket, hclose,
      List.append_assoc, List.cons_append, List.nil_append, List.append_nil]

/-! ### Lines -/

theorem skipsContinued_resource : SkipsContinued (lineFrom? "resource \"".toList) :=
  skipsContinued_lineFrom? (d := 'r') (by decide) (by decide)

theorem skipsContinued_output : SkipsContinued (lineFrom? "output \"".toList) :=
  skipsContinued_lineFrom? (d := 'o') (by decide) (by decide)

theorem newline_notMem_name (h : r ∈ (Plan.ofGraph .terraform g).resources) :
    '\n' ∉ r.name.toList := fun hc =>
  absurd (Plan.isRest_of_mem_name h hc) (by decide)

theorem newline_notMem_resourceType (h : r ∈ (Plan.ofGraph .terraform g).resources) :
    '\n' ∉ r.mapping.resourceType.toList := fun hc =>
  absurd (Plan.isTypeChar_of_mem_resourceType h hc) (by decide)

theorem newline_notMem_header (h : r ∈ (Plan.ofGraph .terraform g).resources) :
    '\n' ∉ (header r).toList := by
  have hopen : '\n' ∉ "resource \"".toList := by decide
  have hmiddle : '\n' ∉ "\" \"".toList := by decide
  have hend : '\n' ∉ "\" \x7b".toList := by decide
  unfold header
  simp only [String.toList_append, List.mem_append, not_or]
  exact ⟨⟨⟨⟨hopen, newline_notMem_resourceType h⟩, hmiddle⟩, newline_notMem_name h⟩, hend⟩

/-- An address is written in the characters of types and names. -/
theorem isTypeChar_or_isRest_of_mem_addressOf (h : r ∈ (Plan.ofGraph .terraform g).resources)
    {name : String} (hname : name ∈ r.dependsOn) {c : Char}
    (hc : c ∈ (addressOf (Plan.ofGraph .terraform g) name).toList) :
    Plan.isTypeChar c = true ∨ Target.terraform.identifierStyle.isRest c = true := by
  obtain ⟨s, hs, rfl⟩ := Plan.exists_resource_of_mem_dependsOn h hname
  have hdot : ∀ d ∈ ".".toList, Plan.isTypeChar d = true := List.all_eq_true.1 (by decide)
  unfold addressOf at hc
  rw [Plan.resource?_eq_some_iff.2 ⟨hs, rfl⟩] at hc
  unfold address at hc
  simp only [String.toList_append, List.mem_append] at hc
  obtain (hc | hc) | hc := hc
  · exact .inl (Plan.isTypeChar_of_mem_resourceType hs hc)
  · exact .inl (hdot c hc)
  · exact .inr (Plan.isRest_of_mem_name hs hc)

theorem newline_notMem_dependencyLine (h : r ∈ (Plan.ofGraph .terraform g).resources) :
    '\n' ∉ dependencyLine (Plan.ofGraph .terraform g) r := by
  have hopen : '\n' ∉ "depends_on = [".toList := by decide
  have hjoined : '\n' ∉ ", ".toList.intercalate
      ((r.dependsOn.map (addressOf (Plan.ofGraph .terraform g))).map String.toList) := by
    refine notMem_intercalate (by decide) fun t ht => ?_
    obtain ⟨_, haddress, rfl⟩ := List.mem_map.1 ht
    obtain ⟨name, hname, rfl⟩ := List.mem_map.1 haddress
    exact fun hc => absurd (isTypeChar_or_isRest_of_mem_addressOf h hname hc) (by decide)
  unfold dependencyLine
  simp only [List.mem_cons, List.mem_append, not_or]
  exact ⟨by decide, by decide, hopen, hjoined, by decide⟩

theorem hanging_dependencyLine (h : r ∈ (Plan.ofGraph .terraform g).resources) :
    Hanging (dependencyLine (Plan.ofGraph .terraform g) r) :=
  hanging_of_notMem (newline_notMem_dependencyLine h)

theorem reads_blockText (h : r ∈ (Plan.ofGraph .terraform g).resources) :
    Reads (lineFrom? "resource \"".toList) (blockText (Plan.ofGraph .terraform g) r)
      [(header r).toList] := by
  have hskip := skipsContinued_resource
  have hheader : Reads (lineFrom? "resource \"".toList) ((header r).toList ++ ['\n'])
      [(header r).toList] := by
    refine reads_line (newline_notMem_header h) ?_
    unfold header
    simp only [String.toList_append, List.append_assoc]
    exact lineFrom?_append _ _
  have hattributes : Reads (lineFrom? "resource \"".toList)
      ((attributeLines r).map fun line => ' ' :: ' ' :: line.toList ++ ['\n']).flatten [] := by
    refine reads_flatten_nil fun line hline => ?_
    have hhanging := (hanging_of_mem_attributeLines hline).after_of_notMem [' ', ' '] (by decide)
    exact reads_continued hskip (by decide) hhanging
  have hdepends : Reads (lineFrom? "resource \"".toList)
      (if (r.dependsOn.map (addressOf (Plan.ofGraph .terraform g))).isEmpty then []
        else ['\n'] ++ (dependencyLine (Plan.ofGraph .terraform g) r ++ ['\n'])) [] := by
    split_ifs
    · exact reads_nil
    · have hline := reads_continued hskip (c := ' ') (by decide) (hanging_dependencyLine h)
      exact (reads_blank hskip.nil).append hline
  have hclose : Reads (lineFrom? "resource \"".toList) (['}'] ++ ['\n']) [] :=
    reads_continued hskip (by decide) (hanging_of_notMem (by decide))
  exact (reads_blank hskip.nil).append
    (hheader.append (hattributes.append (hdepends.append hclose)))

/-! ### Documents -/

/-- What declares a provider in the table of those required. -/
def providerEntry (c : CloudProvider) : List Char :=
  "    ".toList ++ (c.name.toList ++ (" = \x7b\n".toList ++ ("      source = \"".toList ++
    (("hashicorp/" ++ c.name).toList ++ ("\"\n".toList ++ ("    \x7d\n".toList ++ []))))))

def providerBlock (c : CloudProvider) : List Char :=
  "\nprovider \"".toList ++ (c.name.toList ++ ("\" \x7b\n".toList ++
    (([c.body].map fun line => "  ".toList ++ (line.toList ++ ("\n".toList ++ []))).flatten ++
      ("\x7d\n".toList ++ []))))

def mainText (p : Plan) : List Char :=
  "# Generated by infragraph. Do not edit by hand.\n\n".toList ++
    ("terraform \x7b\n  required_providers \x7b\n".toList ++
      (((usedProviders p).map providerEntry).flatten ++ ("  \x7d\n\x7d\n".toList ++
        (((usedProviders p).map providerBlock).flatten ++
          ((p.resources.map (blockText p)).flatten ++ [])))))

/-- The data of the templates. -/
def data (p : Plan) : Json :=
  .object [("providers", .arr ((usedProviders p).map CloudProvider.toJson)),
    ("resources", .arr (p.resources.map (block p)))]

theorem renders_mainTemplate (p : Plan) : Renders (data p) mainTemplate.parts (mainText p) :=
  .literal <| .literal <|
    .each (find_object rfl) (fun _ _ => .literal <| .value (find_object rfl) <| .literal <|
      .literal <| .value (find_object rfl) <| .literal <| .literal renders_nil) <|
    .literal <|
    .each (find_object rfl) (fun _ _ => .literal <| .value (find_object rfl) <| .literal <|
      .each (find_object rfl) (fun _ _ => .literal <| .item <| .literal renders_nil) <|
      .literal renders_nil) <|
    .each (find_object rfl) (fun r _ => renders_block p r rfl) renders_nil

/-- The line that opens the output of a resource. -/
def outputHeader (r : PlannedResource) : String :=
  "output \"" ++ r.name ++ "_id\" \x7b"

/-- The line with its value, without the indent. -/
def outputValue (r : PlannedResource) : List Char :=
  "value = ".toList ++ (r.mapping.resourceType.toList ++ (".".toList ++
    (r.name.toList ++ ".id".toList)))

/-- The output of a resource, line by line. -/
def outputText (r : PlannedResource) : List Char :=
  ['\n'] ++ (((outputHeader r).toList ++ ['\n']) ++
    ((' ' :: ' ' :: outputValue r ++ ['\n']) ++ (['}'] ++ ['\n'])))

def outputsText (p : Plan) : List Char :=
  "# Generated by infragraph. Do not edit by hand.\n".toList ++
    ((p.resources.map outputText).flatten ++ [])

theorem renders_outputsTemplate (p : Plan) :
    Renders (data p) outputsTemplate.parts (outputsText p) := by
  refine .literal <| .each (find_object rfl) (fun r _ => ?_) renders_nil
  refine Renders.congr (.literal <| .value (find_object rfl) <| .literal <| .literal <|
    .value (find_object rfl) <| .literal <| .value (find_object rfl) <| .literal renders_nil) ?_
  have hopen : "\noutput \"".toList = '\n' :: "output \"".toList := by simp
  have hbrace : "_id\" \x7b\n".toList = "_id\" \x7b".toList ++ ['\n'] := by simp
  have hvalue : "  value = ".toList = ' ' :: ' ' :: "value = ".toList := by simp
  have hclose : ".id\n\x7d\n".toList = ".id".toList ++ ['\n', '}', '\n'] := by simp
  unfold outputText outputHeader outputValue
  simp only [String.toList_append, hopen, hbrace, hvalue, hclose, List.append_assoc,
    List.cons_append, List.nil_append, List.append_nil]

theorem documents_of_ok {documents : List GeneratedDocument}
    (h : Terraform.documents p = .ok documents) :
    documents = [⟨"main.tf", .text (.ofList (mainText p))⟩,
      ⟨"outputs.tf", .text (.ofList (outputsText p))⟩] := by
  obtain ⟨resources, hresources, h⟩ := bind_eq_ok h
  obtain rfl := eq_map_block_of_mapM hresources
  obtain ⟨main, hmain, h⟩ := bind_eq_ok h
  obtain ⟨outputs, houtputs, h⟩ := bind_eq_ok h
  cases h
  cases hmain.symm.trans (fill_of_renders (renders_mainTemplate p))
  cases houtputs.symm.trans (fill_of_renders (renders_outputsTemplate p))
  rfl

theorem reads_mainText (g : Graph) :
    Reads (lineFrom? "resource \"".toList) (mainText (Plan.ofGraph .terraform g))
      ((Plan.ofGraph .terraform g).resources.map fun r => (header r).toList) := by
  have hproviders : ∀ c ∈ providers,
      ((providerEntry c).getLast? = some '\n' ∧
        readLines (lineFrom? "resource \"".toList) (providerEntry c) = []) ∧
      (providerBlock c).getLast? = some '\n' ∧
        readLines (lineFrom? "resource \"".toList) (providerBlock c) = [] := by
    decide +kernel
  have htable : Reads (lineFrom? "resource \"".toList)
      ((usedProviders (Plan.ofGraph .terraform g)).map providerEntry).flatten [] := by
    refine reads_flatten_nil fun c hc => ?_
    obtain ⟨hlast, hnone⟩ := (hproviders c (List.mem_of_mem_filter hc)).1
    exact reads_of_readLines_eq_nil hlast hnone
  have hblocks : Reads (lineFrom? "resource \"".toList)
      ((usedProviders (Plan.ofGraph .terraform g)).map providerBlock).flatten [] := by
    refine reads_flatten_nil fun c hc => ?_
    obtain ⟨hlast, hnone⟩ := (hproviders c (List.mem_of_mem_filter hc)).2
    exact reads_of_readLines_eq_nil hlast hnone
  have hresources := reads_flatten_map fun r hr => reads_blockText (g := g) (r := r) hr
  rw [← List.append_nil (List.map _ _)]
  exact (reads_of_readLines_eq_nil (by decide +kernel) (by decide +kernel)).append <|
    (reads_of_readLines_eq_nil (by decide +kernel) (by decide +kernel)).append <|
    htable.append <|
    (reads_of_readLines_eq_nil (by decide +kernel) (by decide +kernel)).append <|
    hblocks.append <| hresources.append reads_nil

theorem newline_notMem_outputHeader (h : r ∈ (Plan.ofGraph .terraform g).resources) :
    '\n' ∉ (outputHeader r).toList := by
  have hopen : '\n' ∉ "output \"".toList := by decide
  have hend : '\n' ∉ "_id\" \x7b".toList := by decide
  unfold outputHeader
  simp only [String.toList_append, List.mem_append, not_or]
  exact ⟨⟨hopen, newline_notMem_name h⟩, hend⟩

theorem newline_notMem_outputValue (h : r ∈ (Plan.ofGraph .terraform g).resources) :
    '\n' ∉ outputValue r := by
  have hopen : '\n' ∉ "value = ".toList := by decide
  have hdot : '\n' ∉ ".".toList := by decide
  have hend : '\n' ∉ ".id".toList := by decide
  unfold outputValue
  simp only [List.mem_append, not_or]
  exact ⟨hopen, newline_notMem_resourceType h, hdot, newline_notMem_name h, hend⟩

theorem reads_outputText (h : r ∈ (Plan.ofGraph .terraform g).resources) :
    Reads (lineFrom? "output \"".toList) (outputText r) [(outputHeader r).toList] := by
  have hskip := skipsContinued_output
  have hheader : Reads (lineFrom? "output \"".toList) ((outputHeader r).toList ++ ['\n'])
      [(outputHeader r).toList] := by
    refine reads_line (newline_notMem_outputHeader h) ?_
    unfold outputHeader
    simp only [String.toList_append, List.append_assoc]
    exact lineFrom?_append _ _
  have hvalue :
      Reads (lineFrom? "output \"".toList) (' ' :: ' ' :: outputValue r ++ ['\n']) [] := by
    have hhanging := hanging_of_notMem (newline_notMem_outputValue h)
    exact reads_continued hskip (by decide) (hhanging.after_of_notMem [' ', ' '] (by decide))
  have hclose : Reads (lineFrom? "output \"".toList) (['}'] ++ ['\n']) [] :=
    reads_continued hskip (by decide) (hanging_of_notMem (by decide))
  exact (reads_blank hskip.nil).append (hheader.append (hvalue.append hclose))

theorem reads_outputsText (g : Graph) :
    Reads (lineFrom? "output \"".toList) (outputsText (Plan.ofGraph .terraform g))
      ((Plan.ofGraph .terraform g).resources.map fun r => (outputHeader r).toList) := by
  have houtputs := reads_flatten_map fun r hr => reads_outputText (g := g) (r := r) hr
  rw [← List.append_nil (List.map _ _)]
  exact (reads_of_readLines_eq_nil (by decide +kernel) (by decide +kernel)).append
    (houtputs.append reads_nil)

end CloudGraph.Terraform
