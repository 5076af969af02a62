import CloudGraph.Proofs.Generate.Declarations.Terraform
import CloudGraph.Proofs.Text.Paragraphs
import Mathlib.Data.List.Sublists

/-!
# The references of a Terraform program

`program` reads `main.tf` back: the providers that it declares, and its resource blocks with the
addresses in their dependency clauses. The template puts an empty line before each provider, each
block and each clause, so these are told apart as paragraphs, and the first line of a paragraph
says what it is.

* **Paragraphs** (`readParagraphs_blockBody`). The lines of a block hang on its header, so no value
  of a setting opens a paragraph of its own. The clause is the one that the template writes, a
  paragraph behind the attributes. A setting named `depends_on` is an attribute line, hence no
  clause, and where there is a clause too the block assigns the name twice.
* **The program** (`items_mainText`, `program_mainText`). What is read are the providers in use and
  the resources of the plan, each with the addresses of those it depends on.
* **Closure** (`closed_program`). An address is that of an earlier resource of the plan, and each
  type of the table starts with the stem of a provider.
-/

namespace CloudGraph.Terraform

open Text

variable {g : Graph} {p : Plan} {r : PlannedResource}

/-! ## Reading a program -/

/-- What a paragraph of a program holds. -/
inductive Item where
  /-- The table of required providers, by name. -/
  | required (names : List String)
  | provider (name : String)
  /-- A resource block, up to its dependency clause. -/
  | resource (type name : String)
  /-- The dependency clause of the block before it. -/
  | dependsOn (addresses : List String)
deriving DecidableEq

/-- The provider that a line of the table opens an entry for. -/
def requiredName? (line : List Char) : Option String :=
  ((line.dropPrefix? "    ".toList).bind (·.dropSuffix? " = \x7b".toList)).map String.ofList

/-- The first line of a paragraph tells what the paragraph is and holds the names in quotes. -/
def item? (paragraph : List Char) : Option Item :=
  let parts := (paragraph.takeWhile (· ≠ '\n')).splitOn '"'
  if "resource ".toList.isPrefixOf paragraph then
    match parts with
    | [_, type, _, name, _] => some (.resource (.ofList type) (.ofList name))
    | _ => none
  else if "provider ".toList.isPrefixOf paragraph then
    match parts with
    | [_, name, _] => some (.provider (.ofList name))
    | _ => none
  else if "terraform ".toList.isPrefixOf paragraph then
    some (.required (readLines requiredName? paragraph))
  else
    (paragraph.dropPrefix? "  depends_on = [".toList).map fun rest =>
      .dependsOn (listed (rest.takeWhile (· ≠ ']')))

/-- A resource block, with the addresses in its dependency clause. -/
structure Block where
  type : String
  name : String
  dependsOn : List String
deriving DecidableEq

def Block.address (b : Block) : String :=
  b.type ++ "." ++ b.name

/-- The addresses of the clause that the items start with. -/
def clause : List Item → List String
  | .dependsOn addresses :: _ => addresses
  | _ => []

/-- A clause belongs to the block that it stands after. -/
def readBlocks : List Item → List Block
  | [] => []
  | .resource type name :: rest => ⟨type, name, clause rest⟩ :: readBlocks rest
  | _ :: rest => readBlocks rest

def Item.requiredNames : Item → List String
  | .required names => names
  | _ => []

def Item.provider? : Item → Option String
  | .provider name => some name
  | _ => none

/-- What a program declares. -/
structure Program where
  /-- The names in the table of required providers. -/
  required : List String
  /-- The names of the provider blocks. -/
  providers : List String
  blocks : List Block

def Program.ofItems (items : List Item) : Program where
  required := items.flatMap Item.requiredNames
  providers := items.filterMap Item.provider?
  blocks := readBlocks items

def program (text : List Char) : Program :=
  .ofItems (readParagraphs item? text)

/-- The program of a plan refers only to what it declares. -/
structure Closed (p : Plan) (program : Program) : Prop where
  /-- The blocks are the resources of the plan, none of whose dependencies is left out. -/
  blocks : program.blocks.map (fun b => (b.type, b.name, b.dependsOn.length)) =
    p.resources.map fun r => (r.mapping.resourceType, r.name, r.dependsOn.length)
  /-- An address in a clause is that of an earlier block. -/
  earlier : ∀ (k : Nat) (b : Block), program.blocks[k]? = some b → ∀ address ∈ b.dependsOn,
    ∃ j < k, ∃ c : Block, program.blocks[j]? = some c ∧ c.address = address
  /-- The providers are those whose stem the type of some block starts with. -/
  providers : program.providers =
    (Terraform.providers.filter fun c =>
      program.blocks.any fun b => c.stem.toList.isPrefixOf b.type.toList).map (·.name)
  required : program.required = program.providers
  /-- Each block has a provider. -/
  covered : ∀ b ∈ program.blocks, ∃ c ∈ Terraform.providers,
    c.name ∈ program.providers ∧ c.stem.toList <+: b.type.toList

/-! ## Blocks -/

/-- The lines of the attributes of a resource, indented. -/
def indentedLines (r : PlannedResource) : List (List Char) :=
  (attributeLines r).map fun line => ' ' :: ' ' :: line.toList

/-- The paragraphs of a block, without the line breaks around them. -/
def blockBody (p : Plan) (r : PlannedResource) : List Char :=
  if r.dependsOn.isEmpty then lines (header r).toList (indentedLines r ++ [['}']])
  else lines (header r).toList (indentedLines r) ++
    '\n' :: '\n' :: lines (dependencyLine p r) [['}']]

theorem blockText_eq (p : Plan) (r : PlannedResource) :
    blockText p r = '\n' :: blockBody p r ++ ['\n'] := by
  have hlines : ((attributeLines r).map fun line => ' ' :: ' ' :: line.toList ++ ['\n']) =
      (indentedLines r).map (· ++ ['\n']) := by
    simp [indentedLines]
  unfold blockText blockBody lines
  rw [hlines, List.isEmpty_map]
  split_ifs <;> simp [newline_cons_flatten]

/-- What the paragraphs of a block hold. -/
def blockItems (p : Plan) (r : PlannedResource) : List Item :=
  .resource r.mapping.resourceType r.name ::
    if r.dependsOn.isEmpty then [] else [.dependsOn (r.dependsOn.map (addressOf p))]

theorem quote_notMem (h : r ∈ (Plan.ofGraph .terraform g).resources) :
    '"' ∉ r.mapping.resourceType.toList ∧ '"' ∉ r.name.toList :=
  ⟨fun hc => absurd (Plan.isTypeChar_of_mem_resourceType h hc) (by decide),
    fun hc => absurd (Plan.isRest_of_mem_name h hc) (by decide)⟩

theorem splitOn_header (h : r ∈ (Plan.ofGraph .terraform g).resources) :
    (header r).toList.splitOn '"' =
      ["resource ".toList, r.mapping.resourceType.toList, [' '], r.name.toList, [' ', '{']] := by
  obtain ⟨htype, hname⟩ := quote_notMem h
  have hheader : (header r).toList = "resource ".toList ++ '"' :: (r.mapping.resourceType.toList ++
      '"' :: ([' '] ++ '"' :: (r.name.toList ++ '"' :: [' ', '{']))) := by
    unfold header
    simp
  rw [hheader, List.splitOn_append_cons_self_of_not_mem (by decide),
    List.splitOn_append_cons_self_of_not_mem htype,
    List.splitOn_append_cons_self_of_not_mem (by decide),
    List.splitOn_append_cons_self_of_not_mem hname, List.splitOn_eq_singleton (by decide)]

theorem item?_header (h : r ∈ (Plan.ofGraph .terraform g).resources) (rest : List (List Char)) :
    item? (lines (header r).toList rest) = some (.resource r.mapping.resourceType r.name) := by
  have hopen : "resource ".toList.isPrefixOf (lines (header r).toList rest) = true := by
    unfold lines header
    simp
  unfold item?
  rw [takeWhile_lines (newline_notMem_header h), splitOn_header h, if_pos hopen]
  simp only [String.ofList_toList]

theorem item?_clause {addresses : List String} (hne : addresses ≠ [])
    (h : ∀ address ∈ addresses, IsPlain address.toList) (rest : List Char) :
    item? ("  depends_on = [".toList ++
      (", ".toList.intercalate (addresses.map String.toList) ++ ']' :: rest)) =
        some (.dependsOn addresses) := by
  unfold item?
  rw [if_neg (by simp), if_neg (by simp), if_neg (by simp),
    List.dropPrefix?_append_of_beq _ (beq_self_eq_true _), Option.map_some,
    takeWhile_append_cons (notMem_intercalate_of_isPlain h (by decide) (by decide)),
    listed_intercalate hne h]

theorem item?_dependencyLine (h : r ∈ (Plan.ofGraph .terraform g).resources)
    (hdepends : r.dependsOn ≠ []) (rest : List (List Char)) :
    item? (lines (dependencyLine (Plan.ofGraph .terraform g) r) rest) =
      some (.dependsOn (r.dependsOn.map (addressOf (Plan.ofGraph .terraform g)))) := by
  have haddresses : ∀ address ∈ r.dependsOn.map (addressOf (Plan.ofGraph .terraform g)),
      IsPlain address.toList := by
    refine List.forall_mem_map.2 fun name hname => ?_
    refine isPlain_of_forall
      (p := fun c => Plan.isTypeChar c || Target.terraform.identifierStyle.isRest c)
      (by decide) fun c hc => ?_
    exact Bool.or_eq_true_iff.2 (isTypeChar_or_isRest_of_mem_addressOf h hname hc)
  have hclause := item?_clause (by simpa using hdepends) haddresses
    (rest.map ('\n' :: ·)).flatten
  simpa [lines, dependencyLine] using hclause

theorem hanging_indentedLines : ∀ line ∈ indentedLines r, Hanging ('\n' :: line) := by
  refine List.forall_mem_map.2 fun line hline => ?_
  have hhanging := (hanging_of_mem_attributeLines hline).after_of_notMem [' ', ' '] (by decide)
  exact hhanging.newline_cons (by decide)

theorem readParagraphs_header (h : r ∈ (Plan.ofGraph .terraform g).resources)
    {rest : List (List Char)} (hrest : ∀ line ∈ rest, Hanging ('\n' :: line)) :
    readParagraphs item? (lines (header r).toList rest) =
      [.resource r.mapping.resourceType r.name] := by
  have hhanging := hanging_lines (hanging_of_notMem (newline_notMem_header h)) hrest
  have hfirst : (lines (header r).toList rest).head? = some 'r' := by
    unfold lines header
    simp
  rw [readParagraphs_hanging hfirst (by decide) hhanging, item?_header h]
  rfl

theorem hanging_brace : ∀ line ∈ [['}']], Hanging ('\n' :: line) :=
  List.forall_mem_singleton.2 ((hanging_of_notMem (by decide)).newline_cons (by decide))

theorem readParagraphs_dependencyLine (h : r ∈ (Plan.ofGraph .terraform g).resources)
    (hdepends : r.dependsOn ≠ []) :
    readParagraphs item? (lines (dependencyLine (Plan.ofGraph .terraform g) r) [['}']]) =
      [.dependsOn (r.dependsOn.map (addressOf (Plan.ofGraph .terraform g)))] := by
  have hhanging := hanging_lines (hanging_dependencyLine h) hanging_brace
  rw [readParagraphs_hanging rfl (by decide) hhanging, item?_dependencyLine h hdepends]
  rfl

theorem readParagraphs_blockBody (h : r ∈ (Plan.ofGraph .terraform g).resources) :
    readParagraphs item? (blockBody (Plan.ofGraph .terraform g) r) =
      blockItems (Plan.ofGraph .terraform g) r := by
  unfold blockBody blockItems
  split_ifs with hnone
  · exact readParagraphs_header h (List.forall_mem_append.2 ⟨hanging_indentedLines, hanging_brace⟩)
  · have hdepends : r.dependsOn ≠ [] := by simpa using hnone
    rw [readParagraphs_append_blank, readParagraphs_header h hanging_indentedLines,
      readParagraphs_dependencyLine h hdepends]
    rfl

/-! ## The program -/

/-- The lines before the blocks of providers. -/
def preamble (cs : List CloudProvider) : List Char :=
  "# Generated by infragraph. Do not edit by hand.\n\n".toList ++
    ("terraform \x7b\n  required_providers \x7b\n".toList ++
      ((cs.map providerEntry).flatten ++ "  \x7d\n\x7d\n".toList))

/-- The block of a provider, without the line breaks around it. -/
def providerBody (c : CloudProvider) : List Char :=
  "provider \"".toList ++ (c.name.toList ++ ("\" \x7b\n  ".toList ++
    (c.body.toList ++ "\n\x7d".toList)))

theorem providerBlock_eq (c : CloudProvider) :
    providerBlock c = '\n' :: providerBody c ++ ['\n'] := by
  have hopen : "\nprovider \"".toList = '\n' :: "provider \"".toList := by simp
  have hbody : "\" \x7b\n  ".toList = "\" \x7b\n".toList ++ "  ".toList := by simp
  have hclose : "\x7d\n".toList = "\x7d".toList ++ ['\n'] := by simp
  have hend : "\n\x7d".toList = "\n".toList ++ "\x7d".toList := by simp
  unfold providerBlock providerBody
  rw [hopen, hbody, hclose, hend]
  simp only [List.map_singleton, List.flatten_singleton, List.append_assoc, List.cons_append,
    List.append_nil]

theorem mainText_eq (p : Plan) :
    mainText p = preamble (usedProviders p) ++
      (((usedProviders p).map providerBody ++ p.resources.map (blockBody p)).map
        fun t => '\n' :: t ++ ['\n']).flatten := by
  have hproviders : providerBlock = (fun t => '\n' :: t ++ ['\n']) ∘ providerBody :=
    funext providerBlock_eq
  have hblocks : blockText p = (fun t => '\n' :: t ++ ['\n']) ∘ blockBody p :=
    funext (blockText_eq p)
  unfold mainText preamble
  rw [hproviders, hblocks]
  simp only [List.map_append, List.map_map, List.flatten_append, List.append_assoc, List.append_nil]

theorem readParagraphs_preamble :
    ∀ cs ∈ providers.sublists, (preamble cs).getLast? = some '\n' ∧
      readParagraphs item? (preamble cs) = [.required (cs.map (·.name))] := by
  decide +kernel

theorem readParagraphs_providerBody :
    ∀ c ∈ providers, readParagraphs item? (providerBody c) = [.provider c.name] := by
  decide +kernel

theorem items_mainText (g : Graph) :
    readParagraphs item? (mainText (Plan.ofGraph .terraform g)) =
      .required ((usedProviders (Plan.ofGraph .terraform g)).map (·.name)) ::
        ((usedProviders (Plan.ofGraph .terraform g)).map (fun c => .provider c.name) ++
          (Plan.ofGraph .terraform g).resources.flatMap
            (blockItems (Plan.ofGraph .terraform g))) := by
  have hused : usedProviders (Plan.ofGraph .terraform g) ∈ providers.sublists :=
    List.mem_sublists.2 List.filter_sublist
  obtain ⟨hlast, hpreamble⟩ := readParagraphs_preamble _ hused
  have hproviders : (usedProviders (Plan.ofGraph .terraform g)).flatMap
      (fun c => readParagraphs item? (providerBody c)) =
        (usedProviders (Plan.ofGraph .terraform g)).map fun c => .provider c.name := by
    rw [List.map_eq_flatMap]
    exact List.flatMap_congr fun c hc => readParagraphs_providerBody c (List.mem_of_mem_filter hc)
  rw [mainText_eq, readParagraphs_append rfl hlast, hpreamble, List.flatMap_append,
    List.flatMap_map, List.flatMap_map, hproviders,
    List.flatMap_congr fun r hr => readParagraphs_blockBody (g := g) (r := r) hr]
  rfl

/-- The block of a resource as it is read. -/
def blockOf (p : Plan) (r : PlannedResource) : Block :=
  ⟨r.mapping.resourceType, r.name, r.dependsOn.map (addressOf p)⟩

theorem requiredNames_flatMap (p : Plan) (rs : List PlannedResource) :
    (rs.flatMap (blockItems p)).flatMap Item.requiredNames = [] := by
  rw [List.flatMap_assoc, List.flatMap_eq_nil_iff]
  intro r _
  unfold blockItems
  split_ifs <;> rfl

theorem providers_flatMap (p : Plan) (rs : List PlannedResource) :
    (rs.flatMap (blockItems p)).filterMap Item.provider? = [] := by
  rw [List.filterMap_flatMap, List.flatMap_eq_nil_iff]
  intro r _
  unfold blockItems
  split_ifs <;> rfl

theorem readBlocks_blockItems_append {rest : List Item} (h : clause rest = []) :
    readBlocks (blockItems p r ++ rest) = blockOf p r :: readBlocks rest := by
  unfold blockItems blockOf
  split_ifs with hnone
  · simp [readBlocks, h, List.isEmpty_iff.1 hnone]
  · simp [readBlocks, clause]

theorem readBlocks_flatMap (p : Plan) (rs : List PlannedResource) :
    readBlocks (rs.flatMap (blockItems p)) = rs.map (blockOf p) := by
  induction rs with
  | nil => rfl
  | cons r rs ih =>
    -- the next item opens a block, so it is no clause of this one
    have hclause : clause (rs.flatMap (blockItems p)) = [] := by
      cases rs <;> rfl
    rw [List.flatMap_cons, readBlocks_blockItems_append hclause, ih, List.map_cons]

theorem readBlocks_providers (cs : List CloudProvider) (items : List Item) :
    readBlocks (cs.map (fun c => .provider c.name) ++ items) = readBlocks items := by
  induction cs with
  | nil => rfl
  | cons c cs ih => exact ih

theorem program_mainText (g : Graph) :
    program (mainText (Plan.ofGraph .terraform g)) =
      { required := (usedProviders (Plan.ofGraph .terraform g)).map (·.name)
        providers := (usedProviders (Plan.ofGraph .terraform g)).map (·.name)
        blocks := (Plan.ofGraph .terraform g).resources.map
          (blockOf (Plan.ofGraph .terraform g)) } := by
  unfold program Program.ofItems
  rw [items_mainText]
  generalize Plan.ofGraph .terraform g = p
  have hrequired : ((usedProviders p).map fun c => Item.provider c.name).flatMap
      Item.requiredNames = [] := by
    rw [List.flatMap_map, List.flatMap_eq_nil_iff]
    exact fun _ _ => rfl
  have hproviders : ((usedProviders p).map fun c => Item.provider c.name).filterMap
      Item.provider? = (usedProviders p).map (·.name) := by
    rw [List.filterMap_map]
    exact congrFun List.filterMap_eq_map _
  congr 1
  · rw [List.flatMap_cons, List.flatMap_append, hrequired, requiredNames_flatMap]
    exact List.append_nil _
  · rw [List.filterMap_cons_none rfl, List.filterMap_append, hproviders, providers_flatMap,
      List.append_nil]
  · exact (readBlocks_providers _ _).trans (readBlocks_flatMap _ _)

/-! ## Closure -/

/-- Each type of the table starts with the stem of a provider. -/
theorem exists_provider_of_mem_mappings :
    ∀ m ∈ Target.terraform.mappings,
      ∃ c ∈ providers, c.stem.toList <+: m.2.resourceType.toList := by
  -- a text is slow to take apart, so what follows the stem is found by unification
  have htables :
      (∀ m ∈ Mapping.terraformAws,
        ∃ rest, m.2.resourceType = .ofList (['a', 'w', 's', '_'] ++ rest)) ∧
      (∀ m ∈ Mapping.terraformAzure,
        ∃ rest, m.2.resourceType = .ofList (['a', 'z', 'u', 'r', 'e', 'r', 'm', '_'] ++ rest)) ∧
      ∀ m ∈ Mapping.terraformGcp,
        ∃ rest, m.2.resourceType = .ofList (['g', 'o', 'o', 'g', 'l', 'e', '_'] ++ rest) := by
    simp only [Mapping.terraformAws, Mapping.terraformAzure, Mapping.terraformGcp,
      List.forall_mem_cons, List.not_mem_nil, false_imp_iff, implies_true, and_true]
    repeat' apply And.intro
    all_goals exact ⟨_, rfl⟩
  obtain ⟨haws, hazure, hgoogle⟩ := htables
  intro m hm
  obtain (hm | hm) | hm := (List.mem_append.1 hm).imp_left List.mem_append.1
  · obtain ⟨rest, hrest⟩ := haws m hm
    exact ⟨_, .head _, by simp [hrest]⟩
  · obtain ⟨rest, hrest⟩ := hazure m hm
    exact ⟨_, .tail _ (.head _), by simp [hrest]⟩
  · obtain ⟨rest, hrest⟩ := hgoogle m hm
    exact ⟨_, .tail _ (.tail _ (.head _)), by simp [hrest]⟩

/-- An address in a clause is that of an earlier resource. -/
theorem earlier_of_mem_clause {k : Nat}
    (h : (Plan.ofGraph .terraform g).resources[k]? = some r) {address : String}
    (haddress : address ∈ (blockOf (Plan.ofGraph .terraform g) r).dependsOn) :
    ∃ j < k, ∃ s, (Plan.ofGraph .terraform g).resources[j]? = some s ∧
      (blockOf (Plan.ofGraph .terraform g) s).address = address := by
  obtain ⟨name, hname, rfl⟩ := List.mem_map.1 haddress
  obtain ⟨j, hj, s, hs, rfl⟩ := Plan.earlier_of_mem_dependsOn h hname
  refine ⟨j, hj, s, hs, ?_⟩
  unfold addressOf
  rw [Plan.resource?_eq_some_iff.2 ⟨List.mem_of_getElem? hs, rfl⟩]
  rfl

theorem exists_provider (h : r ∈ (Plan.ofGraph .terraform g).resources) :
    ∃ c ∈ providers, c.stem.toList <+: r.mapping.resourceType.toList := by
  obtain ⟨entry, hentry, hmapping⟩ := Plan.exists_entry_of_mem_resources h
  exact hmapping ▸ exists_provider_of_mem_mappings entry hentry

theorem usedProviders_eq (p : Plan) :
    usedProviders p = providers.filter fun c =>
      (p.resources.map (blockOf p)).any fun b => c.stem.toList.isPrefixOf b.type.toList := by
  unfold usedProviders
  simp only [List.any_map]
  rfl

theorem closed_program (g : Graph) :
    Closed (Plan.ofGraph .terraform g) (program (mainText (Plan.ofGraph .terraform g))) := by
  rw [program_mainText]
  refine ⟨?blocks, ?earlier, ?providers, rfl, ?covered⟩
  case blocks => simp [blockOf]
  case earlier =>
    intro k b hb address haddress
    rw [List.getElem?_map, Option.map_eq_some_iff] at hb
    obtain ⟨r, hr, rfl⟩ := hb
    obtain ⟨j, hj, s, hs, hsaddress⟩ := earlier_of_mem_clause hr haddress
    refine ⟨j, hj, _, ?_, hsaddress⟩
    rw [List.getElem?_map, hs]
    rfl
  case providers => rw [usedProviders_eq]
  case covered =>
    intro b hb
    obtain ⟨r, hr, rfl⟩ := List.mem_map.1 hb
    obtain ⟨c, hc, hstem⟩ := exists_provider hr
    refine ⟨c, hc, List.mem_map_of_mem ?_, hstem⟩
    rw [usedProviders_eq]
    refine List.mem_filter.2 ⟨hc, List.any_eq_true.2 ⟨_, hb, ?_⟩⟩
    exact List.isPrefixOf_iff_prefix.2 hstem

end CloudGraph.Terraform
