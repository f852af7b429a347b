import XmlTypes.Proofs.Classifying
import XmlTypes.Proofs.Traversal
/-!
# What annotations do to a graph

The annotation mode decides which restrictions a graph gives, and `emitOrder` whether the elements
of sequences are numbered. Neither decides anything else: two constructions that differ in them
only end in graphs that are the same without restrictions and numbers, or with the same failure
(`annotations_do_not_interfere`). And no restriction is given that the mode does not cover.
-/

namespace XmlTypes

open Schema Build

namespace Erasure

variable (ε : Erasure)

/-! ## Substitutes -/

theorem map_modify_comm {α β : Type} {v : α → β} {f : α → α} {f' : β → β}
    (h : ∀ a, v (f a) = f' (v a)) (i : Nat) (as : List α) :
    (as.modify i f).map v = (as.map v).modify i f' := by
  apply List.ext_getElem?
  intro j
  simp only [List.getElem?_map, List.getElem?_modify]
  cases as[j]? with
  | none => rfl
  | some a =>
    by_cases hij : i = j <;> simp [hij, h]

theorem siteProperty?_graph (g : Graph) (site : Site) :
    siteProperty? (ε.graph g) site = (siteProperty? g site).map ε.property := by
  rw [siteProperty?, siteProperty?, properties_graph, List.find?_map]
  rfl

theorem graph_mergeSubstitutes (g : Graph) (site : Site) (substitutes : List Substitute) :
    ε.graph (mergeSubstitutes g site substitutes) =
      mergeSubstitutes (ε.graph g) site substitutes := by
  have hfind : ((ε.graph g).properties site.owner).findIdx? (·.isElement site.head) =
      (g.properties site.owner).findIdx? (·.isElement site.head) := by
    rw [properties_graph, List.findIdx?_map]
    rfl
  unfold mergeSubstitutes
  rw [hfind]
  cases (g.properties site.owner).findIdx? (·.isElement site.head) with
  | none => rfl
  | some i =>
    refine ε.graph_modify_mapProperties _ _ fun ps => map_modify_comm ?_ i ps
    exact fun _ => rfl

theorem graph_separateSubstitutes (hnil : ε.restrictions [] = []) (naming : Naming) (g : Graph)
    (site : Site) (substitutes : List Substitute) :
    ε.graph (separateSubstitutes naming g site substitutes) =
      separateSubstitutes naming (ε.graph g) site substitutes := by
  unfold separateSubstitutes
  rw [siteProperty?_graph]
  cases siteProperty? g site with
  | none => rfl
  | some head =>
    dsimp only [Option.map_some]
    rw [nameOf_graph]
    generalize g.nameOf site.owner = ownerName
    have hproperty (s : Substitute) :
        substituteProperty naming site.owner ownerName (ε.property head) s =
          ε.property (substituteProperty naming site.owner ownerName head s) := by
      simp [substituteProperty, property, Property.make, hnil]
    refine (List.foldl_hom ε.graph fun g s => ?_).symm
    rw [hproperty, addProperty_graph]

theorem graph_attachSubstitutes (hnil : ε.restrictions [] = []) {env env' : Environment}
    (hnaming : env'.naming = env.naming)
    (hstrategy : env'.options.substitutionStrategy = env.options.substitutionStrategy)
    (registry : Substitutions) (g : Graph) :
    ε.graph (attachSubstitutes env registry g) = attachSubstitutes env' registry (ε.graph g) := by
  unfold attachSubstitutes
  rw [hnaming, hstrategy]
  refine (List.foldl_hom ε.graph fun g site => ?_).symm
  cases env.options.substitutionStrategy with
  | merge =>
    dsimp only
    split
    · rfl
    · exact (ε.graph_mergeSubstitutes _ _ _).symm
  | separate => exact (ε.graph_separateSubstitutes hnil _ _ _ _).symm

/-! ## Renames -/

theorem interfaceIds_graph (g : Graph) : (ε.graph g).interfaceIds = g.interfaceIds := by
  simp only [Graph.interfaceIds, ids_graph, interface?_graph, Option.isSome_map]

theorem isNameTaken_graph (g : Graph) (owner : NodeId) (position : Nat) (name : String) :
    (ε.graph g).isNameTaken owner position name = g.isNameTaken owner position name := by
  simp only [Graph.isNameTaken, properties_graph, ancestors_graph, descendants_graph,
    List.eraseIdx_map, List.any_map]
  rfl

theorem newName?_graph (g : Graph) (implementers : List NodeId) (p : Property) :
    (ε.graph g).newName? implementers (ε.property p) = g.newName? implementers p := by
  simp only [Graph.newName?, class?_graph, Option.isSome_map, properties_graph, List.find?_map,
    Option.map_map]
  rfl

theorem declarations_graph (g : Graph) (interface : NodeId) (index : Nat)
    (implementers : List NodeId) (p : Property) :
    (ε.graph g).declarations interface index implementers (ε.property p) =
      g.declarations interface index implementers p := by
  simp only [Graph.declarations, properties_graph, List.findIdx?_map]
  rfl

theorem graph_renameProperty (g : Graph) (owner : NodeId) (position : Nat) (name : String) :
    ε.graph (g.renameProperty owner position name) =
      (ε.graph g).renameProperty owner position name := by
  refine ε.graph_modify_mapProperties _ _ fun ps => map_modify_comm ?_ position ps
  exact fun _ => rfl

theorem graph_propagateRename (interface : NodeId) (implementers : List NodeId) (g : Graph)
    (index : Nat) :
    ε.graph (Graph.propagateRename interface implementers g index) =
      Graph.propagateRename interface implementers (ε.graph g) index := by
  unfold Graph.propagateRename
  rw [properties_graph, List.getElem?_map]
  cases (g.properties interface)[index]? with
  | none => rfl
  | some p =>
    dsimp only [Option.map_some]
    rw [newName?_graph]
    cases g.newName? implementers p with
    | none => rfl
    | some name =>
      simp only [declarations_graph, isNameTaken_graph]
      split
      · rfl
      · exact (List.foldl_hom ε.graph fun g _ => (ε.graph_renameProperty g _ _ name).symm).symm

theorem graph_propagateRenames (g : Graph) :
    ε.graph g.propagateRenames = (ε.graph g).propagateRenames := by
  unfold Graph.propagateRenames
  rw [interfaceIds_graph]
  refine (List.foldl_hom ε.graph fun g interface => ?_).symm
  unfold Graph.propagateInterface
  have hderived : ((ε.graph g).interface? interface).map (·.derived) =
      (g.interface? interface).map (·.derived) := by
    rw [interface?_graph, Option.map_map]
    rfl
  rw [hderived, properties_graph, List.length_map]
  exact List.foldl_hom ε.graph fun g index => (ε.graph_propagateRename _ _ g index).symm

/-! ## Duplicates, root elements and names -/

theorem graph_pruneDuplicates (g : Graph) :
    ε.graph g.pruneDuplicates = (ε.graph g).pruneDuplicates := by
  unfold Graph.pruneDuplicates
  rw [interfaceIds_graph]
  refine (List.foldl_hom ε.graph fun g interface => ?_).symm
  have hinherited : (((ε.graph g).reachableInterfaces interface).flatMap
        (ε.graph g).properties).map (fun p => (p.name, p.type)) =
      ((g.reachableInterfaces interface).flatMap g.properties).map fun p => (p.name, p.type) := by
    rw [reachableInterfaces_graph, funext (ε.properties_graph g), ← List.map_flatMap,
      List.map_map]
    rfl
  unfold Graph.pruneInterface
  rw [hinherited]
  refine (ε.graph_modify_mapProperties _ _ fun ps => ?_).symm
  rw [List.filter_map]
  rfl

theorem graph_disambiguateRoots (g : Graph) :
    ε.graph g.disambiguateRoots = (ε.graph g).disambiguateRoots := by
  have hshared (n : Node) : (ε.graph g).isSharedName (ε.node n) = g.isSharedName n := by
    simp only [Graph.isSharedName, graph, Array.any_map]
    rfl
  have hroot (n : Node) : Graph.mayBeRoot (ε.node n) = Graph.mayBeRoot n := by
    simp only [Graph.mayBeRoot, isInterface_node]
    rfl
  have hnode (n : Node) :
      ε.node (if Graph.mayBeRoot n && g.isSharedName n then { n with root := some n.identity }
        else n) =
      if Graph.mayBeRoot (ε.node n) && (ε.graph g).isSharedName (ε.node n) then
        { ε.node n with root := some (ε.node n).identity } else ε.node n := by
    rw [hroot, hshared]
    split <;> rfl
  simp only [Graph.disambiguateRoots, graph, Array.map_map, Graph.mk.injEq, and_true]
  exact congrArg (Array.map · g.nodes) (funext hnode)

theorem graph_rename (g : Graph) (id : NodeId) (name : String) :
    ε.graph (g.rename id name) = (ε.graph g).rename id name := by
  unfold Graph.rename
  rw [node?_graph]
  cases g.node? id with
  | none => rfl
  | some n =>
    dsimp only [Option.map_some]
    let named (n : Node) : Node := { n with name }
    have hnamed (n : Node) : ε.node (named n) = named (ε.node n) := rfl
    rw [graph_modifyTypes]
    exact congrArg (fun g : Graph => g.modifyTypes n.space fun t => t.rename n.name name id)
      (ε.graph_modify g id hnamed)

/-- The names in use are those of what is left. -/
def nameUse (u : Graph.NameUse) : Graph.NameUse := { u with graph := ε.graph u.graph }

theorem nameUse_settle (u : Graph.NameUse) (id : NodeId) :
    ε.nameUse (u.settle id) = (ε.nameUse u).settle id := by
  unfold Graph.NameUse.settle
  simp only [nameUse, nameOf_graph]
  split
  · rfl
  · simp only [graph_rename]

theorem graph_enforceUniqueNames (g : Graph) :
    ε.graph g.enforceUniqueNames = (ε.graph g).enforceUniqueNames := by
  unfold Graph.enforceUniqueNames
  have hnames : (((ε.graph g).nodes.map (·.name)).toList) = (g.nodes.map (·.name)).toList := by
    simp only [graph, Array.map_map]
    rfl
  rw [hnames, namespaces_graph]
  exact congrArg Graph.NameUse.graph
    (List.foldl_hom ε.nameUse fun u id => (ε.nameUse_settle u id).symm).symm

theorem graph_finish (options : Options) {options' : Options}
    (h : options'.uniqueNames = options.uniqueNames) (g : Graph) :
    ε.graph (g.finish options) = (ε.graph g).finish options' := by
  unfold Graph.finish
  rw [h]
  dsimp only
  rw [← graph_propagateRenames, ← graph_pruneDuplicates, ← graph_disambiguateRoots]
  split
  · exact ε.graph_enforceUniqueNames _
  · rfl

theorem graph_markAmbiguous (g : Graph) : ε.graph g.markAmbiguous = (ε.graph g).markAmbiguous := rfl

end Erasure

/-! ## Annotations -/

/-- The restrictions that a node gives, of its own values and of its properties. -/
def Node.restrictions (n : Node) : List Restriction :=
  (match n.kind with
    | .simple s => s.restrictions
    | _ => []) ++ n.properties.flatMap (·.restrictions)

/-- All restrictions that a graph gives. -/
def Graph.restrictions (g : Graph) : List Restriction := g.nodes.toList.flatMap Node.restrictions

/-- Neither restrictions nor positions are kept. -/
def Erasure.unannotated : Erasure := ⟨fun _ => [], false⟩

/-- The restrictions that a mode covers are kept. -/
def Erasure.covered (mode : AnnotationMode) : Erasure := ⟨List.filter (·.isGiven mode), true⟩

theorem restrictions_of_covered {mode : AnnotationMode} {g : Graph}
    (h : (Erasure.covered mode).graph g = g) {r : Restriction} (hr : r ∈ g.restrictions) :
    r.isGiven mode = true := by
  rw [← h] at hr
  simp only [Graph.restrictions, Erasure.graph, List.mem_flatMap, Array.toList_map, List.mem_map]
    at hr
  obtain ⟨_, ⟨n, -, rfl⟩, hr⟩ := hr
  rw [Node.restrictions, Erasure.properties_node, List.mem_append, List.mem_flatMap] at hr
  rcases hr with hr | ⟨_, hp, hr⟩
  · rcases n with ⟨_, _, _, _, _, _, _, k⟩
    cases k with
    | simple s => exact (List.mem_filter.1 hr).2
    | classLike _ => cases hr
    | interface _ => cases hr
    | enumeration _ => cases hr
  · obtain ⟨p, -, rfl⟩ := List.mem_map.1 hp
    exact (List.mem_filter.1 hr).2

/-- No facet amounts to a restriction that the mode does not cover. -/
theorem restrictionsOf_covered (facets : List Facet) (type : Primitive) (mode : AnnotationMode) :
    (restrictionsOf facets type mode).filter (·.isGiven mode) =
      restrictionsOf facets type mode := by
  unfold restrictionsOf
  split
  · rfl
  · rw [List.filter_filter]
    simp only [Bool.and_self]

namespace Build

/-- The options under which nothing is annotated. -/
def plainOptions (o : Options) : Options := { o with annotationMode := .none, emitOrder := false }

/-- A construction and the one that annotates nothing. -/
def Mirror.unannotated (set : SchemaSet) (options : Options) (naming : Naming) : Mirror where
  erasure := .unannotated
  env := .ofSet set options naming
  env' := .ofSet set (plainOptions options) naming
  bounds := none
  index := rfl
  naming := rfl
  reserved := rfl
  interfaces := rfl
  ordered := (Bool.and_false _).symm
  unrestricted := rfl
  classify document visiting t _ := by
    have hcommutes : Classification.Commutes Erasure.unannotated.classification options
        (plainOptions options) := classification_commutes rfl rfl fun _ _ _ => rfl
    exact classifyContent_map hcommutes fun r _ =>
      classifyRef_map hcommutes (fun _ _ => rfl) _ _ _ r
  settles := nofun
  limit_le := Nat.le_refl _
  limit_eq _ := rfl
  covers := nofun
  deep := nofun

/-- A construction and itself, without the restrictions that the mode does not cover. -/
def Mirror.covered (set : SchemaSet) (options : Options) (naming : Naming) : Mirror where
  erasure := .covered options.annotationMode
  env := .ofSet set options naming
  env' := .ofSet set options naming
  bounds := none
  index := rfl
  naming := rfl
  reserved := rfl
  interfaces := rfl
  ordered := (Bool.and_true _).symm
  unrestricted := rfl
  classify document visiting t _ := by
    have hcommutes : Classification.Commutes (Erasure.covered options.annotationMode).classification
        options options := by
      refine classification_commutes rfl rfl fun inherited facets type => ?_
      change layer (inherited.filter _) _ = (layer inherited _).filter _
      rw [layer, layer, List.filter_append, restrictionsOf_covered, List.filter_filter,
        List.filter_filter]
      simp only [Bool.and_comm]
    exact classifyContent_map hcommutes fun r _ =>
      classifyRef_map hcommutes (fun _ _ => rfl) _ _ _ r
  settles := nofun
  limit_le := Nat.le_refl _
  limit_eq _ := rfl
  covers := nofun
  deep := nofun

/-- What is left of the graph is the graph of what is left. -/
theorem Mirror.buildGraph_mirrored (M : Mirror) {set : SchemaSet} {options options' : Options}
    {naming : Naming} (resolver : Resolver) (henv : M.env = .ofSet set options naming)
    (henv' : M.env' = .ofSet set options' naming)
    (hstrategy : options'.substitutionStrategy = options.substitutionStrategy)
    (hunique : options'.uniqueNames = options.uniqueNames) :
    (buildGraph set options naming resolver).map M.erasure.graph =
      buildGraph set options' naming resolver := by
  have hrun := (M.run_mirrored resolver).1
  rw [henv, henv'] at hrun
  rw [buildGraph_eq, buildGraph_eq, hrun]
  cases run (.ofSet set options naming) resolver with
  | error e => rfl
  | ok s =>
    refine congrArg Except.ok ?_
    change M.erasure.graph ((((attachSubstitutes _ _ _)).finish options).markAmbiguous) =
      ((attachSubstitutes _ s.context.substitutions (M.erasure.graph s.graph)).finish
        options').markAmbiguous
    rw [M.erasure.graph_markAmbiguous, M.erasure.graph_finish options hunique,
      M.erasure.graph_attachSubstitutes M.unrestricted]
    · rfl
    · exact hstrategy

/-- Under options that differ in the annotation mode and in `emitOrder` only, the constructions
fail alike, or their graphs are the same without restrictions and positions. A graph gives no
restriction that the mode of its construction does not cover. -/
theorem annotations_do_not_interfere (set : SchemaSet) (options : Options) (naming : Naming)
    (resolver : Resolver) (mode : AnnotationMode) (emitOrder : Bool) :
    (buildGraph set { options with annotationMode := mode, emitOrder } naming resolver).map
        Erasure.unannotated.graph =
      (buildGraph set options naming resolver).map Erasure.unannotated.graph ∧
    ∀ g, buildGraph set options naming resolver = .ok g → ∀ r ∈ g.restrictions,
      r.leastMode.rank ≤ options.annotationMode.rank := by
  have hplain (options : Options) :
      (buildGraph set options naming resolver).map Erasure.unannotated.graph =
        buildGraph set (plainOptions options) naming resolver :=
    (Mirror.unannotated set options naming).buildGraph_mirrored resolver rfl rfl rfl rfl
  refine ⟨(hplain _).trans (hplain options).symm, fun g hg r hr => ?_⟩
  have hcovered : (buildGraph set options naming resolver).map
      (Erasure.covered options.annotationMode).graph = buildGraph set options naming resolver :=
    (Mirror.covered set options naming).buildGraph_mirrored resolver rfl rfl rfl rfl
  rw [hg] at hcovered
  exact of_decide_eq_true (restrictions_of_covered (Except.ok.inj hcovered) hr)

/-- A simple type with a pattern and a number of digits, and an element of it in a sequence. -/
def annotatedType : SchemaSet :=
  sampleSet
    [.simple
      { name := some (sampleName "Code")
        content := .restriction (.xsd "decimal") [.pattern "[0-9]+", .totalDigits 3] },
     .complex
      { name := some (sampleName "Item")
        particle := some (sampleSequence [sampleElement "code" (sampleName "Code")]) }]
    []

/-- With combined ranges and patterns the pattern is given, and the number of digits is not. -/
theorem annotations_do_not_interfere_ranges :
    (buildGraph annotatedType { annotationMode := .none, emitOrder := true } .conventional
        oneNamespace).map Erasure.unannotated.graph =
      (buildGraph annotatedType { annotationMode := .ranges } .conventional oneNamespace).map
        Erasure.unannotated.graph ∧
    ∃ g, buildGraph annotatedType { annotationMode := .ranges } .conventional oneNamespace = .ok g ∧
      g.restrictions = [.pattern "[0-9]+"] ∧
      ∀ r ∈ g.restrictions, r.leastMode.rank ≤ AnnotationMode.ranges.rank := by
  obtain ⟨hsame, hcovered⟩ := annotations_do_not_interfere annotatedType
    { annotationMode := .ranges } .conventional oneNamespace .none true
  obtain ⟨g, hg, hr⟩ := exists_of_any
    (x := buildGraph annotatedType { annotationMode := .ranges } .conventional oneNamespace)
    (p := fun g => g.restrictions = [.pattern "[0-9]+"]) (by decide +kernel)
  exact ⟨hsame, g, hg, of_decide_eq_true hr, hcovered g hg⟩

end Build

end XmlTypes
