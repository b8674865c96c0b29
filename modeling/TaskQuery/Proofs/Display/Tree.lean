/-
  TaskQuery — the drawing of a tree has a line for every node.

  A node is found by its way from the root.  What is drawn before its label depends on
  nothing but this way: a stem for every step but the last one, and a joint for the last.

  * `Expression.part? e way`: what stands at the end of a way; `Expression.nodes e`: all
    nodes, with their ways; `Precedes`: a node is drawn above another one;
  * `Expression.mem_nodes` and `Expression.pairwise_nodes`: these are all nodes, in the order
    in which they are drawn;
  * `margin way`: what is drawn before the label of a node; `treeLines_eq`: the lines of a
    drawing are those of the nodes;
  * `Expression.isFormless_label`: labels have neither line breaks nor escape characters;
  * `treeLines_append_inj`: trees are told apart by their lines;
  * `tree_drawing_faithful`: what a drawing shows.
-/
import TaskQuery.Display.QueryText
import TaskQuery.Proofs.Display.Escapes
import TaskQuery.Proofs.Display.Lines
import TaskQuery.Proofs.Query.UniqueText

namespace TaskQuery

/-! ## Nodes -/

/-- A branch of a pair. -/
inductive Side where
  /-- The left branch. -/
  | left
  /-- The right branch. -/
  | right

/-- A node of a tree: the way to it from the root, and what stands there. -/
structure Node where
  /-- The branches that lead to the node. -/
  way : List Side
  /-- The node with everything below it. -/
  part : Expression

/-- A node of a branch as a node of the whole pair. -/
def Node.under (side : Side) (n : Node) : Node :=
  ⟨side :: n.way, n.part⟩

/-- A node comes before another one: before those below it, and those of the left branch
    before those of the right one. -/
inductive Precedes : List Side → List Side → Prop
  | root {side way} : Precedes [] (side :: way)
  | apart {way way'} : Precedes (.left :: way) (.right :: way')
  | step {side way way'} : Precedes way way' → Precedes (side :: way) (side :: way')

namespace Expression

/-- What stands at the end of a way from the root. -/
def part? : Expression → List Side → Option Expression
  | e, [] => some e
  | condition _, _ :: _ => none
  | joined _ left _, .left :: way => left.part? way
  | joined _ _ right, .right :: way => right.part? way

/-- The nodes of an expression, every node before its branches. -/
def nodes : Expression → List Node
  | condition x => [⟨[], condition x⟩]
  | joined connective left right => ⟨[], joined connective left right⟩ ::
      (left.nodes.map (Node.under .left) ++ right.nodes.map (Node.under .right))

/-- An expression has one node for each condition and each connective. -/
theorem length_nodes (e : Expression) : e.nodes.length = e.conditions + e.connectives := by
  induction e with
  | condition => rfl
  | joined connective left right ihl ihr =>
    simp only [nodes, List.length_cons, List.length_append, List.length_map, ihl, ihr, conditions,
      connectives]
    omega

/-- **The nodes are found by their ways.** -/
theorem mem_nodes {e : Expression} {n : Node} : n ∈ e.nodes ↔ e.part? n.way = some n.part := by
  have hunder {ns : List Node} {side other : Side} {way : List Side} {part : Expression} :
      ⟨side :: way, part⟩ ∈ ns.map (Node.under other) ↔ side = other ∧ ⟨way, part⟩ ∈ ns := by
    rw [List.mem_map]
    constructor
    · rintro ⟨m, hm, heq⟩
      cases heq
      exact ⟨rfl, hm⟩
    · rintro ⟨rfl, hm⟩
      exact ⟨_, hm, rfl⟩
  obtain ⟨way, part⟩ := n
  show _ ↔ e.part? way = some part
  induction e generalizing way with
  | condition x =>
    cases way with
    | nil => simp [nodes, part?, eq_comm]
    | cons => simp [nodes, part?]
  | joined connective left right ihl ihr =>
    cases way with
    | nil => simp [nodes, part?, Node.under, eq_comm]
    | cons side way =>
      have hroot : (⟨side :: way, part⟩ : Node) ≠ ⟨[], joined connective left right⟩ := by simp
      rw [nodes, List.mem_cons, or_iff_right hroot, List.mem_append, hunder, hunder, ihl, ihr]
      cases side with
      | left => simp [part?]
      | right => simp [part?]

/-- **The nodes are in order.** -/
theorem pairwise_nodes (e : Expression) : e.nodes.Pairwise fun m n => Precedes m.way n.way := by
  have hunder (side : Side) {ns : List Node} (h : ns.Pairwise fun m n => Precedes m.way n.way) :
      (ns.map (Node.under side)).Pairwise fun m n => Precedes m.way n.way :=
    List.pairwise_map.2 (h.imp fun hmn => .step hmn)
  induction e with
  | condition => exact List.pairwise_singleton _ _
  | joined connective left right ihl ihr =>
    refine List.pairwise_cons.2 ⟨fun n hn => ?_, List.pairwise_append.2
      ⟨hunder .left ihl, hunder .right ihr, fun m hm n hn => ?_⟩⟩
    · rcases List.mem_append.1 hn with hn | hn
      · obtain ⟨n, -, rfl⟩ := List.mem_map.1 hn
        exact .root
      · obtain ⟨n, -, rfl⟩ := List.mem_map.1 hn
        exact .root
    · obtain ⟨m, -, rfl⟩ := List.mem_map.1 hm
      obtain ⟨n, -, rfl⟩ := List.mem_map.1 hn
      exact .apart

end Expression

/-! ## Margins -/

/-- What is drawn under a node in the lines of those below it. -/
def Side.stem : Side → String
  | left => "│   "
  | right => "    "

/-- What is drawn just before the label of a node. -/
def Side.joint : Side → String
  | left => "├── "
  | right => "└── "

/-- What is drawn before the label of a node: a stem for every node between it and the root,
    and its own joint. -/
def margin (way : List Side) : String :=
  String.join (way.dropLast.map Side.stem) ++ String.join (way.getLast?.toList.map Side.joint)

theorem margin_cons (side next : Side) (way : List Side) :
    margin (side :: next :: way) = side.stem ++ margin (next :: way) := by
  simp [margin, String.append_assoc]

/-- Four characters are drawn for every step of the way. -/
theorem length_margin (way : List Side) : (margin way).length = 4 * way.length := by
  induction way with
  | nil => rfl
  | cons side way ih =>
    cases way with
    | nil => cases side <;> rfl
    | cons next way =>
      have hstem : side.stem.length = 4 := by cases side <;> rfl
      rw [margin_cons, String.length_append, hstem, ih, List.length_cons (a := side)]
      omega

theorem mem_margin {c : Char} {way : List Side} (h : c ∈ (margin way).toList) :
    c ∈ [' ', '│', '├', '└', '─'] := by
  have hstem (side : Side) : ∀ c ∈ side.stem.toList, c ∈ [' ', '│', '├', '└', '─'] :=
    List.all_iff_forall_prop.1 (by cases side <;> decide)
  have hjoint (side : Side) : ∀ c ∈ side.joint.toList, c ∈ [' ', '│', '├', '└', '─'] :=
    List.all_iff_forall_prop.1 (by cases side <;> decide)
  induction way with
  | nil => cases h
  | cons side way ih =>
    cases way with
    | nil => exact hjoint side c (by simpa [margin] using h)
    | cons next way =>
      rw [margin_cons, String.toList_append, List.mem_append] at h
      exact h.elim (hstem side c) ih

/-! ## Lines -/

/-- The label of a node. -/
def Expression.label (colors : Bool) : Expression → String
  | condition x => x.toText
  | joined connective _ _ => paint colors [.cyan, .bold] connective.symbol

/-- The line of a node. -/
def Node.line (colors : Bool) (n : Node) : String :=
  margin n.way ++ n.part.label colors

/-- What is drawn before the label of a node, from a node above it on. -/
def Limb.margin (limb : Limb) : List Side → String
  | [] => limb.joint
  | side :: way => limb.stem ++ TaskQuery.margin (side :: way)

theorem margin_under (way : List Side) : margin (.left :: way) = Limb.first.margin way ∧
    margin (.right :: way) = Limb.last.margin way := by
  cases way with
  | nil => exact ⟨rfl, rfl⟩
  | cons side way => exact ⟨margin_cons _ _ _, margin_cons _ _ _⟩

theorem treeLines_eq (colors : Bool) (front : String) (limb : Limb) (e : Expression) :
    treeLines colors front limb e =
      e.nodes.map fun n => front ++ limb.margin n.way ++ n.part.label colors := by
  induction e generalizing front limb with
  | condition x => rfl
  | joined connective left right ihl ihr =>
    have hleft (way : List Side) : front ++ limb.margin (.left :: way) =
        front ++ limb.stem ++ Limb.first.margin way := by
      rw [← (margin_under way).1, Limb.margin, String.append_assoc]
    have hright (way : List Side) : front ++ limb.margin (.right :: way) =
        front ++ limb.stem ++ Limb.last.margin way := by
      rw [← (margin_under way).2, Limb.margin, String.append_assoc]
    rw [treeLines, Expression.nodes, List.map_cons, List.map_append, List.map_map, List.map_map,
      List.cons_append, ihl, ihr]
    simp only [Function.comp_def, Node.under, hleft, hright]
    rfl

/-- The lines of a drawing. -/
theorem treeLines_root (colors : Bool) (e : Expression) :
    treeLines colors "" .root e = e.nodes.map (Node.line colors) := by
  have hroot (way : List Side) : "" ++ Limb.root.margin way = margin way := by
    cases way with
    | nil => rfl
    | cons side way => rw [Limb.margin, Limb.stem, String.empty_append, String.empty_append]
  simp only [treeLines_eq, hroot]
  rfl

/-! ## Labels -/

open Text (isFormless isFormless_ascii isFormless_of_ascii isFormless_of_mem_quote)

theorem Number.isFormless_toText (n : Number) : ∀ c ∈ n.toText.toList, isFormless c = false := by
  have hletters : ∀ c ∈ ['N', 'a', 'i', 'n', 'f'], isFormless c = false :=
    isFormless_of_ascii (by decide)
  intro c hc
  rcases mem_toText hc with (hdigit | rfl | rfl) | hletter
  · have hrange : 48 ≤ c.toNat ∧ c.toNat ≤ 57 := Char.isDigit_iff_toNat.1 hdigit
    exact isFormless_ascii (by omega)
  · exact isFormless_ascii (by decide)
  · exact isFormless_ascii (by decide)
  · exact hletters c hletter

theorem Literal.isFormless_toText (v : Literal) : ∀ c ∈ v.toText.toList, isFormless c = false := by
  have hmarks : ∀ c ∈ ['[', ']', ',', ' '], isFormless c = false := isFormless_of_ascii (by decide)
  cases v with
  | text value => exact isFormless_of_mem_quote
  | list items =>
    cases items with
    | nil => exact isFormless_of_ascii (by decide)
    | cons item items =>
      rw [toText_list_cons]
      intro c hc
      simp only [moreItems, List.mem_cons, List.mem_append, List.mem_flatMap, List.not_mem_nil,
        or_false] at hc
      rcases hc with rfl | hc | ⟨other, -, rfl | rfl | hc⟩ | rfl
      · exact hmarks _ (by decide)
      · exact isFormless_of_mem_quote c hc
      · exact hmarks _ (by decide)
      · exact hmarks _ (by decide)
      · exact isFormless_of_mem_quote c hc
      · exact hmarks _ (by decide)
  | number value => exact value.isFormless_toText
  | bool value => exact isFormless_of_ascii (by cases value <;> decide)

/-- The characters of a label have forms of their own. -/
theorem Expression.isFormless_label (e : Expression) :
    ∀ c ∈ (e.label false).toList, isFormless c = false := by
  cases e with
  | condition x =>
    have hname : ∀ c ∈ x.field.name.toList, isFormless c = false :=
      isFormless_of_ascii (by cases x.field <;> decide)
    have hsymbol : ∀ c ∈ x.operator.symbol.toList, isFormless c = false :=
      isFormless_of_ascii (by cases x.operator <;> decide)
    have hblank : isFormless ' ' = false := isFormless_ascii (by decide)
    rw [label, Condition.toList_toText]
    refine List.forall_mem_append.2 ⟨hname, List.forall_mem_cons.2 ⟨hblank, ?_⟩⟩
    exact List.forall_mem_append.2
      ⟨hsymbol, List.forall_mem_cons.2 ⟨hblank, x.value.isFormless_toText⟩⟩
  | joined connective left right =>
    have hsymbol : connective.symbol.toList.all fun c => 0x20 ≤ c.toNat ∧ c.toNat < 0x7F := by
      cases connective <;> decide
    exact isFormless_of_ascii hsymbol

theorem Expression.not_mem_label (e : Expression) :
    '\n' ∉ (e.label false).toList ∧ '\x1b' ∉ (e.label false).toList := by
  constructor
  · exact fun h => absurd (e.isFormless_label _ h) (by decide +kernel)
  · exact fun h => absurd (e.isFormless_label _ h) (by decide +kernel)

/-- A line has neither line breaks nor escape characters. -/
theorem Node.not_mem_line (n : Node) :
    '\n' ∉ (n.line false).toList ∧ '\x1b' ∉ (n.line false).toList := by
  obtain ⟨hbreak, hescape⟩ := n.part.not_mem_label
  rw [line, String.toList_append, List.mem_append, List.mem_append]
  constructor
  · exact fun h => h.elim (fun h => absurd (mem_margin h) (by decide)) hbreak
  · exact fun h => h.elim (fun h => absurd (mem_margin h) (by decide)) hescape

/-! ## Drawings that are the same -/

/-- A label tells a condition from others, and from connectives. -/
theorem Expression.label_condition_inj {x : Condition} {e : Expression}
    (h : (condition x).label false = e.label false) : e = condition x := by
  cases e with
  | condition y => exact congrArg condition (Condition.eq_of_toText_eq h).symm
  | joined connective left right =>
    obtain ⟨c, text, htext, hc⟩ := x.exists_cons
    have hsymbol : ∃ d rest, connective.symbol.toList = d :: rest ∧ d ∈ ['(', '&', '|'] := by
      cases connective <;> exact ⟨_, _, rfl, by decide⟩
    obtain ⟨d, rest, hd, hmem⟩ := hsymbol
    have hlabel : c :: text = d :: rest := by
      rw [← htext, ← hd]
      exact congrArg String.toList h
    exact absurd ((List.cons.inj hlabel).1 ▸ hmem) hc

/-- **Trees are told apart by their lines**, whatever lines stand behind them. -/
theorem treeLines_append_inj {front : String} {limb : Limb} {e e' : Expression}
    {rest rest' : List String}
    (h : treeLines false front limb e ++ rest = treeLines false front limb e' ++ rest') :
    e = e' ∧ rest = rest' := by
  have hfirst {front : String} {limb : Limb} {e e' : Expression} {rest rest' : List String}
      (h : treeLines false front limb e ++ rest = treeLines false front limb e' ++ rest') :
      e.label false = e'.label false := by
    have hhead (e : Expression) : ∃ more,
        treeLines false front limb e = (front ++ limb.joint ++ e.label false) :: more := by
      cases e <;> exact ⟨_, rfl⟩
    obtain ⟨more, hlines⟩ := hhead e
    obtain ⟨more', hlines'⟩ := hhead e'
    rw [hlines, hlines'] at h
    exact String.append_right_inj _ |>.1 (List.cons.inj h).1
  induction e generalizing front limb e' rest rest' with
  | condition x =>
    obtain rfl := Expression.label_condition_inj (hfirst h)
    exact ⟨rfl, List.append_cancel_left h⟩
  | joined connective left right ihl ihr =>
    cases e' with
    | condition y => cases Expression.label_condition_inj (hfirst h).symm
    | joined connective' left' right' =>
      have hsymbol : connective.symbol = connective'.symbol := hfirst h
      obtain ⟨rfl, -⟩ := Connective.symbol_append_inj (congrArg (·.toList ++ []) hsymbol)
      simp only [treeLines, List.cons_append, List.append_assoc, List.cons.injEq, true_and] at h
      obtain ⟨rfl, hright⟩ := ihl h
      obtain ⟨rfl, hrest⟩ := ihr hright
      exact ⟨rfl, hrest⟩

/-! ## Drawings in colours -/

/-- Without its escape sequences, a line in colours is the plain one. -/
theorem Node.visible_line (n : Node) (rest : List Char) :
    visible false ((n.line true).toList ++ rest) = (n.line false).toList ++ visible false rest := by
  obtain ⟨way, part⟩ := n
  cases part with
  | condition x => exact visible_append (not_mem_line ⟨way, .condition x⟩).2 rest
  | joined connective left right =>
    have hmargin : '\x1b' ∉ (margin way).toList := fun h => absurd (mem_margin h) (by decide)
    have hlabel : Looks (paint true [.cyan, .bold] connective.symbol).toList
        connective.symbol.toList := by
      cases connective with
      | and => exact looks_paint true _ (by decide) ⟨['&'], '&', rfl, by decide⟩
      | or => exact looks_paint true _ (by decide) ⟨['|'], '|', rfl, by decide⟩
    simp only [line, Expression.label, String.toList_append, List.append_assoc]
    rw [visible_append hmargin, hlabel.visible_eq]
    rfl

theorem withoutEscapes_drawTree (e : Expression) :
    withoutEscapes (drawTree true e) = drawTree false e := by
  have hlines (ns : List Node) : visible false (unlines (ns.map (Node.line true))).toList =
      (unlines (ns.map (Node.line false))).toList := by
    induction ns with
    | nil => rfl
    | cons n ns ih =>
      rw [List.map_cons, List.map_cons, toList_unlines, toList_unlines, n.visible_line,
        visible_cons (by decide), ih]
  rw [drawTree, drawTree, treeLines_root, treeLines_root, withoutEscapes, hlines,
    String.ofList_toList]

/-! ## Drawings -/

theorem drawTree_inj {e e' : Expression} (h : drawTree false e = drawTree false e') : e = e' := by
  have hplain (e : Expression) : ∀ line ∈ treeLines false "" .root e, '\n' ∉ line.toList := by
    intro line hline
    rw [treeLines_root] at hline
    obtain ⟨n, -, rfl⟩ := List.mem_map.1 hline
    exact n.not_mem_line.1
  have hlines := (unlines_inj (hplain e) (hplain e')).1 h
  exact (treeLines_append_inj (congrArg (· ++ []) hlines)).1

/-- **A drawing has a line for every node**, in the order of the nodes: four characters for
    every step from the root, which show the way, and a label without line breaks.  Two
    drawings are the same only if the normal texts are, and colours leave the text as it is. -/
theorem tree_drawing_faithful (e e' : Expression) :
    (drawTree false e = unlines (e.nodes.map (Node.line false)) ∧
      e.nodes.length = 2 * e.conditions - 1 ∧
      (∀ n, n ∈ e.nodes ↔ e.part? n.way = some n.part) ∧
      (e.nodes.Pairwise fun m n => Precedes m.way n.way) ∧
      ∀ n ∈ e.nodes, (margin n.way).length = 4 * n.way.length ∧ '\n' ∉ (n.line false).toList) ∧
    (drawTree false e = drawTree false e' ↔ e.toText = e'.toText) ∧
    withoutEscapes (drawTree true e) = drawTree false e := by
  refine ⟨⟨?_, ?_, fun n => Expression.mem_nodes, e.pairwise_nodes,
    fun n _ => ⟨length_margin n.way, n.not_mem_line.1⟩⟩, ?_, withoutEscapes_drawTree e⟩
  · rw [drawTree, treeLines_root]
  · have hconditions := e.conditions_eq
    rw [e.length_nodes]
    omega
  · constructor
    · exact fun h => congrArg _ (drawTree_inj h)
    · exact fun h => congrArg _ (Expression.eq_of_toText_eq h)

/-- A bar is drawn under the left branch of the root, and none under its right branch. -/
example :
    drawTree false (.or (.and (.condition ⟨.done, .eq, .bool false⟩)
        (.condition ⟨.project, .eq, .text "a\nb"⟩)) (.condition ⟨.priority, .isIn, .list []⟩)) =
      "||\n├── &&\n│   ├── done = false\n│   └── project = \"a\\nb\"\n└── priority in []\n" := by
  decide +kernel

end TaskQuery
