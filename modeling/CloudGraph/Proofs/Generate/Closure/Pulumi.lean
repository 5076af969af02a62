import CloudGraph.Proofs.Generate.Declarations.Pulumi
import CloudGraph.Proofs.Text.Paragraphs
import Mathlib.Data.List.DropRight
import Mathlib.Data.List.Sublists

/-!
# The references of a Pulumi program

`program` reads `index.ts` back: the packages that its lines import, and its statements with the
variables that they depend on. A statement is a paragraph. What it depends on stands at its end,
where it is looked for from behind: the properties before it may hold any text.

* **Statements** (`statement?_statement`). The brace that closes the properties has no blank before
  it, so properties are not taken for dependencies.
* **The program** (`program_indexText`). What is read are the packages in use and the resources of
  the plan, each with the names of those it depends on.
* **Closure** (`closed_program`). Each name is that of an earlier resource of the plan, and each
  type of the table starts with the alias of a package.
-/

namespace CloudGraph.Pulumi

open Text

variable {g : Graph} {p : Plan} {r : PlannedResource}

/-! ## Reading a program -/

/-- A statement that declares a resource, with the variables that it depends on. -/
structure Statement where
  name : String
  type : String
  dependsOn : List String
deriving DecidableEq

/-- The words in the brackets that a statement ends with. -/
def dependencies (paragraph : List Char) : List String :=
  match paragraph.dropSuffix? "] \x7d);".toList with
  | some front => listed (front.rtakeWhile (· ≠ '['))
  | none => []

/-- A statement `const name = new type(` with its dependencies. -/
def statement? (paragraph : List Char) : Option Statement :=
  (paragraph.dropPrefix? "const ".toList).bind fun rest =>
    ((rest.dropWhile (· ≠ ' ')).dropPrefix? " = new ".toList).map fun construction =>
      { name := .ofList (rest.takeWhile (· ≠ ' '))
        type := .ofList (construction.takeWhile (· ≠ '('))
        dependsOn := dependencies paragraph }

/-- The package that a line imports. -/
def imported? (line : List Char) : Option String :=
  (line.dropPrefix? "import * as ".toList).map fun rest => .ofList (rest.takeWhile (· ≠ ' '))

/-- What a program declares. -/
structure Program where
  imports : List String
  statements : List Statement

def program (text : List Char) : Program where
  imports := readLines imported? text
  statements := readParagraphs statement? text

/-- The program of a plan refers only to what it declares. -/
structure Closed (p : Plan) (program : Program) : Prop where
  /-- The statements are the resources of the plan, none of whose dependencies is left out. -/
  statements : program.statements.map (fun s => (s.name, s.type, s.dependsOn.length)) =
    p.resources.map fun r => (r.name, r.mapping.resourceType, r.dependsOn.length)
  /-- A variable is declared by an earlier statement. -/
  earlier : ∀ (k : Nat) (s : Statement), program.statements[k]? = some s → ∀ name ∈ s.dependsOn,
    ∃ j < k, ∃ t : Statement, program.statements[j]? = some t ∧ t.name = name
  /-- The imports are the base package and those whose alias is the word that the type of some
  statement starts with. -/
  imports : program.imports = "pulumi" ::
    (packages.filter fun package => program.statements.any fun s =>
      (package.1 ++ ".").toList.isPrefixOf s.type.toList).map (·.1)
  /-- Each statement has a package. -/
  covered : ∀ s ∈ program.statements, ∃ package ∈ packages,
    package.1 ∈ program.imports ∧ (package.1 ++ ".").toList <+: s.type.toList

/-! ## Statements -/

/-- The statement of a resource as it is read. -/
def statementOf (r : PlannedResource) : Statement :=
  ⟨r.name, r.mapping.resourceType, r.dependsOn⟩

theorem dependencies_of_listed {words : List String} (hne : words ≠ [])
    (h : ∀ word ∈ words, IsPlain word.toList) (front : List Char) :
    dependencies (front ++ '[' :: (", ".toList.intercalate (words.map String.toList) ++
      "] \x7d);".toList)) = words := by
  have hbracket := notMem_intercalate_of_isPlain h (c := '[') (by decide) (by decide)
  have hlisted := listed_intercalate hne h
  generalize ", ".toList.intercalate (words.map String.toList) = inner at hbracket hlisted ⊢
  have hdrop : (front ++ '[' :: (inner ++ "] \x7d);".toList)).dropSuffix? "] \x7d);".toList =
      some (front ++ '[' :: inner) :=
    List.dropSuffix?_eq_some_iff.2 ⟨_, by simp, beq_self_eq_true _⟩
  have hinner : (front ++ '[' :: inner).rtakeWhile (· ≠ '[') = inner := by
    unfold List.rtakeWhile
    rw [List.reverse_append, List.reverse_cons, List.append_assoc, List.singleton_append,
      takeWhile_append_cons (by simpa using hbracket), List.reverse_reverse]
  unfold dependencies
  simp only [hdrop, hinner, hlisted]

theorem dependencies_eq_nil {c : Char} (hc : c ≠ ' ') {front : List Char}
    (h : [c, '}'] <:+ front) : dependencies (front ++ ");".toList) = [] := by
  obtain ⟨s, rfl⟩ := h
  have hdrop : (s ++ [c, '}'] ++ ");".toList).dropSuffix? "] \x7d);".toList = none := by
    refine Option.eq_none_iff_forall_ne_some.2 fun front hfront => hc ?_
    obtain ⟨end', heq, hend⟩ := List.dropSuffix?_eq_some_iff.1 hfront
    obtain rfl := eq_of_beq hend
    -- of the four characters at the end, only the first can differ
    have hlast : s ++ [c, '}', ')', ';'] = (front ++ [']']) ++ [' ', '}', ')', ';'] := by
      simpa using heq
    have htails := (List.append_inj' hlast rfl).2
    exact (List.cons.inj htails).1
  unfold dependencies
  rw [hdrop]

/-- The start of a statement, up to the properties. -/
def opening (r : PlannedResource) : List Char :=
  "const ".toList ++ (r.name.toList ++ (" = new ".toList ++ (r.mapping.resourceType.toList ++
    ("(".toList ++ (Json.quoteChars r.name.toList ++ ", ".toList)))))

theorem statement_eq (r : PlannedResource) :
    statement r = opening r ++ (Json.obj r.properties.entries).prettyChars 0 ++
      (dependencyOption r ++ ");".toList) := by
  unfold statement opening Json.pretty
  simp only [String.toList_ofList, List.append_assoc]

theorem dependencies_statement (h : r ∈ (Plan.ofGraph .pulumi g).resources) :
    dependencies (statement r) = r.dependsOn := by
  rw [statement_eq]
  unfold dependencyOption
  split_ifs with hnone
  · obtain ⟨c, hc, hsuffix⟩ := Json.exists_suffix_prettyChars r.properties.entries
    rw [List.isEmpty_iff.1 hnone]
    exact dependencies_eq_nil hc (hsuffix.trans (List.suffix_append _ _))
  · have hnames : ∀ name ∈ r.dependsOn, IsPlain name.toList := fun name hname =>
      isPlain_of_forall (by decide) fun c => Plan.isRest_of_mem_dependsOn h hname
    have hlisted := dependencies_of_listed (by simpa using hnone) hnames
      (opening r ++ (Json.obj r.properties.entries).prettyChars 0 ++ ", \x7b dependsOn: ".toList)
    have hopen : ", \x7b dependsOn: [".toList = ", \x7b dependsOn: ".toList ++ ['['] := by simp
    have hclose : "] \x7d);".toList = "] \x7d".toList ++ ");".toList := by simp
    rw [hclose] at hlisted
    rw [hopen]
    simpa only [List.append_assoc, List.cons_append, List.nil_append, List.append_nil] using hlisted

theorem statement?_append {name type : List Char} (hname : ' ' ∉ name) (htype : '(' ∉ type)
    (rest : List Char) :
    statement? ("const ".toList ++ (name ++ (" = new ".toList ++ (type ++ '(' :: rest)))) =
      some ⟨.ofList name, .ofList type, dependencies
        ("const ".toList ++ (name ++ (" = new ".toList ++ (type ++ '(' :: rest))))⟩ := by
  have hnew : " = new ".toList = ' ' :: "= new ".toList := by simp
  unfold statement?
  rw [List.dropPrefix?_append_of_beq _ (beq_self_eq_true _), Option.bind_some, hnew,
    List.cons_append, takeWhile_append_cons hname, dropWhile_append_cons hname,
    ← List.cons_append, ← hnew, List.dropPrefix?_append_of_beq _ (beq_self_eq_true _),
    Option.map_some, takeWhile_append_cons htype]

theorem statement?_statement (h : r ∈ (Plan.ofGraph .pulumi g).resources) :
    statement? (statement r) = some (statementOf r) := by
  have htype : '(' ∉ r.mapping.resourceType.toList := fun hc =>
    absurd (Plan.isTypeChar_of_mem_resourceType h hc) (by decide)
  have hopen : "(".toList = ['('] := by simp
  have hread := statement?_append (plain_name h).2 htype
    (Json.quoteChars r.name.toList ++ (", ".toList ++
      ((Json.pretty (.obj r.properties.entries)).toList ++ (dependencyOption r ++ ");".toList))))
  rw [← List.singleton_append, ← hopen] at hread
  rw [String.ofList_toList, String.ofList_toList] at hread
  unfold statementOf
  rw [← dependencies_statement h]
  exact hread

/-! ## The program -/

/-- The lines before the statements. -/
def preamble (imports : List (String × String)) : List Char :=
  "// Generated by infragraph. Do not edit by hand.\n".toList ++
    ("import * as pulumi from \"@pulumi/pulumi\";\n".toList ++
      (imports.map importLine).flatten)

/-- The lines that export the resources, indented. -/
def exportLines (p : Plan) : List (List Char) :=
  p.resources.map fun r => ' ' :: ' ' :: exportLine r

/-- The statement that exports the resources, without the line breaks around it. -/
def exportsBody (p : Plan) : List Char :=
  lines "export const ids = \x7b".toList (exportLines p ++ [['}', ';']])

/-- The statements of a program, and the exports. -/
def bodies (p : Plan) : List (List Char) :=
  p.resources.map statement ++ if p.resources.isEmpty then [] else [exportsBody p]

theorem exports_eq (p : Plan) :
    exports p = ((if p.resources.isEmpty then [] else [exportsBody p]).map
      fun t => '\n' :: t ++ ['\n']).flatten := by
  have hlines : (p.resources.map fun r => ' ' :: ' ' :: exportLine r ++ ['\n']) =
      (exportLines p).map (· ++ ['\n']) := by
    simp [exportLines]
  unfold exports exportsBody lines
  rw [hlines]
  split_ifs <;> simp [newline_cons_flatten]

theorem indexText_eq (p : Plan) :
    indexText p = preamble (usedPackages p) ++
      ((bodies p).map fun t => '\n' :: t ++ ['\n']).flatten := by
  unfold indexText preamble bodies
  rw [exports_eq]
  simp only [List.map_append, List.map_map, List.flatten_append, List.append_assoc, List.append_nil,
    Function.comp_def, List.cons_append, List.nil_append]

theorem read_preamble :
    ∀ imports ∈ packages.sublists, (preamble imports).getLast? = some '\n' ∧
      readParagraphs statement? (preamble imports) = [] ∧
      readLines imported? (preamble imports) = "pulumi" :: imports.map (·.1) := by
  decide +kernel

/-- A statement opens with the keyword `const` or `export` and goes on in lines that hang. -/
theorem hanging_of_mem_bodies {t : List Char} (ht : t ∈ bodies (Plan.ofGraph .pulumi g)) :
    Hanging t ∧ ∃ c ∈ ['c', 'e'], t.head? = some c := by
  rcases List.mem_append.1 ht with hstatement | hexports
  · obtain ⟨r, hr, rfl⟩ := List.mem_map.1 hstatement
    have hconst : "const ".toList = 'c' :: "onst ".toList := by simp
    refine ⟨hanging_statement hr, 'c', by decide, ?_⟩
    unfold statement
    rw [hconst]
    rfl
  · split_ifs at hexports
    · cases hexports
    · obtain rfl := List.mem_singleton.1 hexports
      refine ⟨hanging_lines (hanging_of_notMem (by decide)) ?_, 'e', by decide, by
        simp [exportsBody, lines]⟩
      refine List.forall_mem_append.2 ⟨List.forall_mem_map.2 fun r hr => ?_, ?_⟩
      · have hline := hanging_of_notMem (newline_notMem_exportLine hr)
        exact (hline.after_of_notMem [' ', ' '] (by decide)).newline_cons (by decide)
      · exact List.forall_mem_singleton.2 ((hanging_of_notMem (by decide)).newline_cons (by decide))

theorem imported?_cons {c : Char} (hc : c ≠ 'i') (s : List Char) : imported? (c :: s) = none := by
  have himport : "import * as ".toList = 'i' :: "mport * as ".toList := by simp
  have hne : (c == 'i') = false := beq_false_of_ne hc
  unfold imported?
  rw [himport, List.dropPrefix?, hne]
  rfl

theorem skipsContinued_imported? : SkipsContinued imported? :=
  ⟨by decide, fun _ hc => imported?_cons (ne_of_mem_of_not_mem hc (by decide))⟩

theorem imports_indexText (g : Graph) :
    readLines imported? (indexText (Plan.ofGraph .pulumi g)) =
      "pulumi" :: (usedPackages (Plan.ofGraph .pulumi g)).map (·.1) := by
  have hused : usedPackages (Plan.ofGraph .pulumi g) ∈ packages.sublists :=
    List.mem_sublists.2 List.filter_sublist
  obtain ⟨hlast, -, himports⟩ := read_preamble _ hused
  have hbodies : Reads imported?
      ((bodies (Plan.ofGraph .pulumi g)).map fun t => '\n' :: t ++ ['\n']).flatten [] := by
    refine reads_flatten_nil fun t ht => ?_
    obtain ⟨hhanging, c, hc, hfirst⟩ := hanging_of_mem_bodies ht
    obtain ⟨s, rfl⟩ := List.head?_eq_some_iff.1 hfirst
    have hread := reads_hanging skipsContinued_imported? hhanging
    have hnewline : c ≠ '\n' := ne_of_mem_of_not_mem hc (by decide)
    have himport : c ≠ 'i' := ne_of_mem_of_not_mem hc (by decide)
    rw [List.takeWhile_cons_of_pos (by simpa using hnewline), imported?_cons himport] at hread
    exact (reads_blank skipsContinued_imported?.nil).append hread
  have hpreamble := reads_readLines skipsContinued_imported?.nil hlast
  rw [himports] at hpreamble
  have hread := (hpreamble.append hbodies).readLines_eq skipsContinued_imported?.nil
  rwa [← indexText_eq, List.append_nil] at hread

theorem statement?_exportsBody (p : Plan) : statement? (exportsBody p) = none := by
  have hdrop : (exportsBody p).dropPrefix? "const ".toList = none := by
    simp [exportsBody, lines, List.dropPrefix?]
  unfold statement?
  rw [hdrop]
  rfl

theorem statements_indexText (g : Graph) :
    readParagraphs statement? (indexText (Plan.ofGraph .pulumi g)) =
      (Plan.ofGraph .pulumi g).resources.map statementOf := by
  have hused : usedPackages (Plan.ofGraph .pulumi g) ∈ packages.sublists :=
    List.mem_sublists.2 List.filter_sublist
  obtain ⟨hlast, hnone, -⟩ := read_preamble _ hused
  have hbodies : ∀ t ∈ bodies (Plan.ofGraph .pulumi g),
      readParagraphs statement? t = (statement? t).toList := fun t ht => by
    obtain ⟨hhanging, c, hc, hfirst⟩ := hanging_of_mem_bodies ht
    exact readParagraphs_hanging hfirst (ne_of_mem_of_not_mem hc (by decide)) hhanging
  have hexports : (if (Plan.ofGraph .pulumi g).resources.isEmpty then []
      else [exportsBody (Plan.ofGraph .pulumi g)]).filterMap statement? = [] := by
    split_ifs
    · rfl
    · exact List.filterMap_cons_none (statement?_exportsBody _)
  rw [indexText_eq, readParagraphs_append rfl hlast, hnone, List.nil_append,
    List.flatMap_congr hbodies, ← List.filterMap_eq_flatMap_toList, bodies, List.filterMap_append,
    hexports, List.append_nil, List.filterMap_map]
  exact (List.filterMap_congr fun r hr => statement?_statement hr).trans
    (congrFun List.filterMap_eq_map _)

theorem program_indexText (g : Graph) :
    program (indexText (Plan.ofGraph .pulumi g)) =
      { imports := "pulumi" :: (usedPackages (Plan.ofGraph .pulumi g)).map (·.1)
        statements := (Plan.ofGraph .pulumi g).resources.map statementOf } := by
  unfold program
  rw [imports_indexText, statements_indexText]

/-! ## Closure -/

/-- Each type of the table starts with the alias of a package. -/
theorem exists_package_of_mem_mappings :
    ∀ m ∈ Target.pulumi.mappings,
      ∃ package ∈ packages, (package.1 ++ ".").toList <+: m.2.resourceType.toList := by
  -- a text is slow to take apart, so what follows the alias is found by unification
  have htables :
      (∀ m ∈ Mapping.pulumiAws,
        ∃ rest, m.2.resourceType = .ofList (['a', 'w', 's', '.'] ++ rest)) ∧
      (∀ m ∈ Mapping.pulumiAzure, ∃ rest, m.2.resourceType =
        .ofList (['a', 'z', 'u', 'r', 'e', '_', 'n', 'a', 't', 'i', 'v', 'e', '.'] ++ rest)) ∧
      ∀ m ∈ Mapping.pulumiGcp,
        ∃ rest, m.2.resourceType = .ofList (['g', 'c', 'p', '.'] ++ rest) := by
    simp only [Mapping.pulumiAws, Mapping.pulumiAzure, Mapping.pulumiGcp,
      List.forall_mem_cons, List.not_mem_nil, false_imp_iff, implies_true, and_true]
    repeat' apply And.intro
    all_goals exact ⟨_, rfl⟩
  obtain ⟨haws, hazure, hgoogle⟩ := htables
  intro m hm
  obtain (hm | hm) | hm := (List.mem_append.1 hm).imp_left List.mem_append.1
  · obtain ⟨rest, hrest⟩ := haws m hm
    exact ⟨_, .head _, by simp [hrest]⟩
  · obtain ⟨rest, hrest⟩ := hazure m hm
    exact ⟨_, .tail _ (.head _), by simp [hrest]⟩
  · obtain ⟨rest, hrest⟩ := hgoogle m hm
    exact ⟨_, .tail _ (.tail _ (.head _)), by simp [hrest]⟩

/-- A type that starts with the alias of a package has no other alias. -/
theorem packageAlias_eq {package : String × String} (hpackage : package ∈ packages)
    {resourceType : String} (h : (package.1 ++ ".").toList <+: resourceType.toList) :
    packageAlias resourceType = package.1 := by
  have hpoints : ∀ package ∈ packages, '.' ∉ package.1.toList := by decide +kernel
  obtain ⟨rest, hrest⟩ := h
  have hpoint : ".".toList = ['.'] := by simp
  unfold packageAlias
  rw [← hrest, String.toList_append, hpoint, List.append_assoc,
    List.singleton_append, takeWhile_append_cons (hpoints package hpackage), String.ofList_toList]

theorem exists_package (h : r ∈ (Plan.ofGraph .pulumi g).resources) :
    ∃ package ∈ packages, (package.1 ++ ".").toList <+: r.mapping.resourceType.toList := by
  obtain ⟨entry, hentry, hmapping⟩ := Plan.exists_entry_of_mem_resources h
  exact hmapping ▸ exists_package_of_mem_mappings entry hentry

theorem usedPackages_eq (g : Graph) :
    usedPackages (Plan.ofGraph .pulumi g) = packages.filter fun package =>
      ((Plan.ofGraph .pulumi g).resources.map statementOf).any fun s =>
        (package.1 ++ ".").toList.isPrefixOf s.type.toList := by
  unfold usedPackages
  refine List.filter_congr fun package hpackage => ?_
  rw [List.any_map, Bool.eq_iff_iff, List.any_eq_true, List.any_eq_true]
  refine exists_congr fun r => and_congr_right fun hr => ?_
  obtain ⟨own, hown, hprefix⟩ := exists_package hr
  rw [beq_iff_eq, packageAlias_eq hown hprefix]
  show own.1 = package.1 ↔ (package.1 ++ ".").toList.isPrefixOf r.mapping.resourceType.toList = true
  rw [List.isPrefixOf_iff_prefix]
  refine ⟨fun heq => heq ▸ hprefix, fun hpackagePrefix => ?_⟩
  exact (packageAlias_eq hown hprefix).symm.trans (packageAlias_eq hpackage hpackagePrefix)

theorem closed_program (g : Graph) :
    Closed (Plan.ofGraph .pulumi g) (program (indexText (Plan.ofGraph .pulumi g))) := by
  rw [program_indexText]
  refine ⟨?statements, ?earlier, ?imports, ?covered⟩
  case statements => simp [statementOf]
  case earlier =>
    intro k s hs name hname
    rw [List.getElem?_map, Option.map_eq_some_iff] at hs
    obtain ⟨r, hr, rfl⟩ := hs
    obtain ⟨j, hj, t, ht, htname⟩ := Plan.earlier_of_mem_dependsOn hr hname
    refine ⟨j, hj, statementOf t, ?_, htname⟩
    rw [List.getElem?_map, ht]
    rfl
  case imports => rw [usedPackages_eq]
  case covered =>
    intro s hs
    obtain ⟨r, hr, rfl⟩ := List.mem_map.1 hs
    obtain ⟨package, hpackage, hprefix⟩ := exists_package hr
    refine ⟨package, hpackage, List.mem_cons_of_mem _ (List.mem_map_of_mem ?_), hprefix⟩
    rw [usedPackages_eq]
    refine List.mem_filter.2 ⟨hpackage, List.any_eq_true.2 ⟨statementOf r, hs, ?_⟩⟩
    exact List.isPrefixOf_iff_prefix.2 hprefix

end CloudGraph.Pulumi
