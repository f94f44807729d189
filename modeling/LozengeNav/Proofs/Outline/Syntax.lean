import LozengeNav.Proofs.Outline.Extent
import LozengeNav.Proofs.Text.ByteRow

/-! # Names in bytes

In the bytes of a source a name stands where its symbol is selected: bytes and code points
before it on its row are counted apart, and it ends as many code points behind as it has. This
is so for every tree in which names and definitions are at their bytes, and the outline of a
source is that of such a tree.
-/

namespace LozengeNav

namespace Outline

open Text Utf8

/-! ## Covered names -/

/-- The row of the selection, cut out of the bytes and decoded, has the name between the ends of the
location. The bytes of the name begin and end at places that have these code points before them, and
the span of the symbol takes in the name. -/
structure Covers (bytes : List UInt8) (sym : OutlineSymbol) : Prop where
  row : ∃ row chars, (bytes.splitOn lineFeed)[sym.selection.line]? = some row ∧
    decode? row = some chars ∧
    (chars.drop sym.selection.column).take sym.name.length = sym.name.toList
  place : ∃ before after, bytes = before ++ (encode sym.name.toList ++ after) ∧
    (BytePlace.behind before).position bytes = sym.selection ∧
    (BytePlace.behind (before ++ encode sym.name.toList)).position bytes =
      ⟨sym.selection.line, sym.selection.column + sym.name.length⟩
  location : ∀ uri, (sym.location uri).span =
    ⟨sym.selection, ⟨sym.selection.line, sym.selection.column + sym.name.length⟩⟩
  span : ∀ uri, sym.span.start ≤ sym.selection ∧ (sym.location uri).span.stop ≤ sym.span.stop

theorem covers_of_name {before after : List Char} {sym : OutlineSymbol}
    (hname : '\n' ∉ sym.name.toList) (hselection : sym.selection = Position.origin.advance before)
    (hwithin : sym.nameSpan.Within sym.span) :
    Covers (encode (before ++ (sym.name.toList ++ after))) sym := by
  have hline : sym.selection.line = before.count '\n' := by
    rw [hselection, Position.line_advance]
    exact Nat.zero_add _
  have hcolumn : sym.selection.column = (lastRow before).length := by
    rw [hselection, Position.column_advance_origin]
  have hstop : Position.origin.advance (before ++ sym.name.toList) =
      ⟨sym.selection.line, sym.selection.column + sym.name.length⟩ := by
    rw [Position.advance_append, ← hselection, Position.advance_of_not_mem _ hname,
      String.length_toList]
  have hkept : ∀ c ∈ sym.name.toList, decide (c ≠ '\n') = true := by
    intro c hc
    rw [decide_eq_true_eq]
    rintro rfl
    exact hname hc
  have hrow : ((encode (before ++ (sym.name.toList ++ after))).splitOn
      lineFeed)[sym.selection.line]? =
        some (encode (lastRow before ++ (sym.name.toList ++ after.takeWhile (· ≠ '\n')))) := by
    rw [splitOn_encode, List.getElem?_map, hline, getElem?_rows,
      List.takeWhile_append_of_pos hkept, Option.map_some]
  refine ⟨⟨_, _, hrow, decode?_encode _, ?_⟩,
    ⟨encode before, encode after, by simp, ?_, ?_⟩, fun uri => rfl, fun uri => hwithin⟩
  · rw [hcolumn, List.drop_left, ← String.length_toList, List.take_left]
  · rw [position_behind, hselection]
  · have hjoin : encode (before ++ (sym.name.toList ++ after)) =
        encode ((before ++ sym.name.toList) ++ after) := by
      rw [List.append_assoc]
    rw [← encode_append, hjoin, position_behind, hstop]

theorem covers_of_cut {lead opening body behind : List Char} {sym : OutlineSymbol}
    (hline : '\n' ∉ sym.name.toList) (hstart : sym.span.start = Position.origin.advance lead)
    (hselection : sym.selection = Position.origin.advance (lead ++ opening))
    (hstop : sym.span.stop =
      Position.origin.advance (lead ++ (opening ++ (sym.name.toList ++ body)))) :
    Covers (encode (lead ++ (opening ++ (sym.name.toList ++ (body ++ behind))))) sym := by
  rw [← List.append_assoc lead opening]
  refine covers_of_name hline hselection ⟨?_, ?_⟩
  · have hopening := Position.le_advance (Position.origin.advance lead) opening
    rwa [← Position.advance_append, ← hstart, ← hselection] at hopening
  · have hname : sym.nameSpan.stop = sym.selection.advance sym.name.toList := by
      rw [Position.advance_of_not_mem _ hline, String.length_toList]
      rfl
    rw [hname, hstop, ← List.append_assoc, Position.advance_append _ (lead ++ opening),
      ← hselection, Position.advance_append]
    exact Position.le_advance _ body

/-! ## Trees over a text -/

theorem WrittenName.read_of_encode {n : WrittenName} {s : String} (h : n.text = encode s.toList) :
    n.read = .ok s := by
  rw [read, h, decode?_encode]
  exact congrArg Except.ok String.ofList_toList

/-- A definition of a text and its name are where their bytes are; a name is on one row. -/
structure Standing (text : List Char) (start stop : BytePlace) (n : WrittenName) : Prop where
  intro ::
  cut : ∃ lead opening name body behind,
    text = lead ++ (opening ++ (name ++ (body ++ behind))) ∧ n.text = encode name ∧ '\n' ∉ name ∧
    start = .behind (encode lead) ∧ n.place = .behind (encode (lead ++ opening)) ∧
    stop = .behind (encode (lead ++ (opening ++ (name ++ body))))

/-- The definitions with a name are where their bytes are, all the way down. -/
inductive SyntaxNode.Located (text : List Char) : SyntaxNode → Prop
  | mk {kind : SyntaxKind} {start stop : BytePlace} {name : Option WrittenName}
      {children : List SyntaxNode}
      (hname : kind ≠ .other → ∀ n ∈ name, n.text ≠ [] → Standing text start stop n)
      (hchildren : ∀ child ∈ children, SyntaxNode.Located text child) :
      SyntaxNode.Located text (.mk kind start stop name children)

namespace SyntaxNode

variable {text : List Char} {start stop : BytePlace} {n : WrittenName}

theorem covers_symbol (h : Standing text start stop n) (kind : SymbolKind)
    (container : Option String) : ∃ name, n.read = .ok name ∧
      Covers (encode text) (symbol (encode text) kind start stop name n.place container) := by
  obtain ⟨lead, opening, name, body, behind, rfl, hread, hline, rfl, hplace, rfl⟩ := h
  obtain ⟨s, rfl⟩ : ∃ s : String, name = s.toList := ⟨.ofList name, String.toList_ofList.symm⟩
  refine ⟨s, ?_, ?_⟩
  · exact WrittenName.read_of_encode hread
  -- The text is cut behind the definition, in front of its name and in front of itself.
  have hstart := position_behind lead (opening ++ (s.toList ++ (body ++ behind)))
  have hselection := position_behind (lead ++ opening) (s.toList ++ (body ++ behind))
  have hstop := position_behind (lead ++ (opening ++ (s.toList ++ body))) behind
  rw [List.append_assoc, ← hplace] at hselection
  simp only [List.append_assoc] at hstop
  exact @covers_of_cut lead opening body behind (symbol _ kind _ _ s n.place container) hline hstart
    hselection hstop

theorem symbolsAll_of_forall {bytes : List UInt8} {container : Option String}
    {P : OutlineSymbol → Prop} {nodes : List SyntaxNode}
    (h : ∀ node ∈ nodes, ∃ found, node.symbols bytes container = .ok found ∧ ∀ sym ∈ found, P sym) :
    ∃ found, symbolsAll bytes container nodes = .ok found ∧ ∀ sym ∈ found, P sym := by
  induction nodes with
  | nil => exact ⟨[], rfl, List.forall_mem_nil _⟩
  | cons node rest ih =>
      obtain ⟨⟨first, hfirst, hall⟩, hrest⟩ := List.forall_mem_cons.1 h
      obtain ⟨others, hothers, hmore⟩ := ih hrest
      refine ⟨first ++ others, ?_, List.forall_mem_append.2 ⟨hall, hmore⟩⟩
      rw [symbolsAll, hfirst, hothers]
      rfl

theorem symbols_of_unnamed {bytes : List UInt8} {container : Option String} {kind : SyntaxKind}
    {name : Option WrittenName} {children : List SyntaxNode}
    (h : kind = .other ∨ (name.filter fun n => !n.text.isEmpty) = none) :
    SyntaxNode.symbols bytes container (.mk kind start stop name children) =
      symbolsAll bytes container children := by
  rcases h with rfl | hnone
  · simp only [SyntaxNode.symbols]
  · cases kind <;> simp only [SyntaxNode.symbols, hnone]

/-- Every tree over a text has an outline, and all of its symbols cover their names. -/
theorem Located.symbols {tree : SyntaxNode} (h : tree.Located text) (container : Option String) :
    ∃ found, tree.symbols (encode text) container = .ok found ∧
      ∀ sym ∈ found, Covers (encode text) sym := by
  induction h generalizing container with
  | @mk kind start stop name children hname hchildren ih =>
      have hinner : ∀ container, ∃ found, symbolsAll (encode text) container children = .ok found ∧
          ∀ sym ∈ found, Covers (encode text) sym := fun container =>
        symbolsAll_of_forall fun child hchild => ih child hchild container
      cases hnamed : name.filter fun n => !n.text.isEmpty with
      | none =>
          rw [symbols_of_unnamed (.inr hnamed)]
          exact hinner container
      | some n =>
          obtain ⟨hmem, htext⟩ := Option.filter_eq_some_iff.1 hnamed
          have hstanding : kind ≠ .other → Standing text start stop n :=
            fun hkind => hname hkind n hmem (by simpa using htext)
          cases kind with
          | classDefinition =>
              obtain ⟨name, hread, hcovers⟩ := covers_symbol (hstanding nofun) .type container
              obtain ⟨inner, hinside, hall⟩ := hinner (some name)
              refine ⟨_, ?_, List.forall_mem_cons.2 ⟨hcovers, hall⟩⟩
              simp only [SyntaxNode.symbols, hnamed, hread, hinside, bind, Except.bind, pure,
                Except.pure]
          | functionDefinition =>
              obtain ⟨name, hread, hcovers⟩ := covers_symbol (hstanding nofun)
                (if container.isSome then .method else .function) container
              refine ⟨_, ?_, List.forall_mem_singleton.2 hcovers⟩
              simp only [SyntaxNode.symbols, hnamed, hread, bind, Except.bind, pure, Except.pure]
          | other =>
              rw [symbols_of_unnamed (.inl rfl)]
              exact hinner container

end SyntaxNode

/-! ## The tree of a source -/

theorem prefix_of_advance_le {s front other : List Char} (hfront : front <+: s)
    (hother : other <+: s)
    (h : Position.origin.advance front ≤ Position.origin.advance other) : front <+: other := by
  rcases List.prefix_or_prefix_of_prefix hfront hother with hprefix | ⟨more, rfl⟩
  · exact hprefix
  · have hmore : more = [] := by
      by_contra hmore
      rw [Position.advance_append] at h
      exact Position.advance_ne_self _ hmore (Position.le_antisymm h (Position.le_advance _ _))
    simp only [hmore, List.append_nil, List.prefix_rfl]

theorem Placed.exists_prefix {s : List Char} {p : Placed} (h : p ∈ Placed.scan s) :
    (∃ front, front <+: s ∧ p.start = Position.origin.advance front) ∧
      ∃ front, front <+: s ∧ p.stop = Position.origin.advance front := by
  obtain ⟨before, after, hcut⟩ := List.append_of_mem h
  have htext := joined_scan s
  rw [scan_lexemes hcut, joined_append, joined_cons] at htext
  have hstart := start_of_scan hcut
  refine ⟨⟨_, ⟨_, htext⟩, hstart⟩, ⟨_, ⟨_, (List.append_assoc ..).trans htext⟩, ?_⟩⟩
  rw [(mem_ofLexemes h).2.2, hstart, Position.advance_append]

/-- A row begins, if it is code, and ends where lexemes of the source do. -/
theorem Row.exists_prefix {s : List Char} {row : Row} (h : row ∈ rows s) :
    (∃ front, front <+: s ∧ row.stop = Position.origin.advance front) ∧
      ∀ indent span declaration opens, row = .code indent span declaration opens →
        ∃ front, front <+: s ∧ span.start = Position.origin.advance front := by
  obtain ⟨group, hgroup, hofGroup⟩ := List.mem_filterMap.1 h
  obtain ⟨before, behind, hscan, -⟩ := exists_before_group hgroup
  have hsub : ∀ p ∈ solid group, p ∈ Placed.scan s := fun p hp =>
    hscan ▸ List.mem_append_right before (List.mem_append_left behind (List.mem_filter.1 hp).1)
  unfold Row.ofGroup? at hofGroup
  simp only at hofGroup
  split at hofGroup
  · cases hofGroup
  · next first rest hsolid =>
      rw [hsolid] at hsub
      have hlast := (Placed.exists_prefix (hsub _ (List.getLastD_mem_cons (l := rest)))).2
      split at hofGroup
      · cases hofGroup
        exact ⟨hlast, nofun⟩
      · next head more hcode =>
          cases hofGroup
          refine ⟨hlast, ?_⟩
          rintro _ _ _ _ ⟨⟩
          have hhead : head ∈ first :: rest :=
            (hcode ▸ List.filter_sublist).subset List.mem_cons_self
          exact (Placed.exists_prefix (hsub head hhead)).1

theorem position_of_front {s front : List Char} (h : front <+: s) :
    (BytePlace.behind (encode front)).position (encode s) = Position.origin.advance front := by
  obtain ⟨back, rfl⟩ := h
  exact position_behind front back

/-- What a node declares is where its bytes are. -/
theorem Node.exists_standing {s : List Char} {d : Declaration} {span : Span}
    (hhead : Heads (rows s) (some d) span.start) (hstop : Ends (rows s) span.stop)
    (hplace : span.start ≤ d.place) (hend : d.stop ≤ span.stop) :
    ∃ start stop n, Standing s start stop n ∧ n.text ≠ [] ∧ n.read = .ok d.name ∧
      start.position (encode s) = span.start ∧ stop.position (encode s) = span.stop ∧
      n.place.position (encode s) = d.place := by
  obtain ⟨indent, last, opens, hrow⟩ := hhead d rfl
  obtain ⟨before, rest, htext, hne, hplain, hbefore⟩ := exists_name_of_row hrow
  obtain ⟨lead, hlead, hstart⟩ := (Row.exists_prefix hrow).2 _ _ _ _ rfl
  obtain ⟨row, hmem, hrowStop⟩ := hstop
  obtain ⟨upTo, hupTo, hlast⟩ := (Row.exists_prefix hmem).1
  rw [hrowStop] at hlast
  have hline : '\n' ∉ d.name.toList := fun hfeed => by
    have hbreak := hplain _ hfeed
    revert hbreak
    decide
  have hname : before ++ d.name.toList <+: s := ⟨rest, by rw [htext, List.append_assoc]⟩
  have hfront : before <+: s := (List.prefix_append _ _).trans hname
  have hstops : d.stop = Position.origin.advance (before ++ d.name.toList) := by
    rw [Position.advance_append, ← hbefore, Position.advance_of_not_mem _ hline,
      String.length_toList, Declaration.stop]
  dsimp only at hstart
  rw [hstart, hbefore] at hplace
  rw [hstops, hlast] at hend
  obtain ⟨opening, rfl⟩ := prefix_of_advance_le hlead hfront hplace
  obtain ⟨body, rfl⟩ := prefix_of_advance_le hname hupTo hend
  obtain ⟨behind, hbehind⟩ := id hupTo
  refine ⟨.behind (encode lead), .behind (encode (lead ++ opening ++ d.name.toList ++ body)),
    ⟨encode d.name.toList, .behind (encode (lead ++ opening))⟩,
    ⟨lead, opening, d.name.toList, body, behind, ?_, rfl, hline, rfl, rfl, ?_⟩, ?_, ?_,
    (position_of_front hlead).trans hstart.symm, (position_of_front hupTo).trans hlast.symm,
    (position_of_front hfront).trans hbefore.symm⟩
  · simpa only [List.append_assoc] using hbehind.symm
  · simp only [List.append_assoc]
  · intro hempty
    have hread := decode?_encode d.name.toList
    rw [show encode d.name.toList = [] from hempty] at hread
    exact hne (Option.some.inj hread).symm
  · exact WrittenName.read_of_encode rfl

/-- A tree over a text with the same outline as a node. -/
def Node.Tree (s : List Char) (node : Node) (tree : SyntaxNode) : Prop :=
  tree.Located s ∧
    ∀ container, tree.symbols (encode s) container = .ok (node.symbols container)

theorem Node.exists_trees {s : List Char} {nodes : List Node}
    (h : ∀ node ∈ nodes, ∃ tree, node.Tree s tree) :
    ∃ trees, (∀ tree ∈ trees, SyntaxNode.Located s tree) ∧ ∀ container,
      SyntaxNode.symbolsAll (encode s) container trees = .ok (symbolsAll container nodes) := by
  induction nodes with
  | nil => exact ⟨[], List.forall_mem_nil _, fun _ => rfl⟩
  | cons node rest ih =>
      obtain ⟨⟨tree, hlocated, hsymbols⟩, hrest⟩ := List.forall_mem_cons.1 h
      obtain ⟨trees, hall, hmore⟩ := ih hrest
      refine ⟨tree :: trees, List.forall_mem_cons.2 ⟨hlocated, hall⟩, fun container => ?_⟩
      rw [SyntaxNode.symbolsAll, hsymbols, hmore]
      rfl

theorem Node.Sound.exists_tree {s : List Char} {node : Node} (h : node.Sound (rows s))
    (hlinewise : node.linewise = true) : ∃ tree, node.Tree s tree := by
  -- The induction is on the nodes; only what is declared has to be where its bytes are.
  induction h with
  | @mk declaration span children hhead hstop hchildren ih =>
      obtain ⟨⟨-, hframed, -⟩, hinside⟩ := Node.linewise_iff.1 hlinewise
      have hlines := (Node.linewiseAll_iff.1 hinside).1
      obtain ⟨trees, hlocated, hsymbols⟩ :=
        Node.exists_trees fun child hchild => ih child hchild (hlines child hchild)
      cases declaration with
      | none =>
          refine ⟨.mk .other (.behind []) (.behind []) none trees, .mk (by simp) hlocated, ?_⟩
          intro container
          rw [SyntaxNode.symbols_of_unnamed (.inl rfl), hsymbols]
          rfl
      | some d =>
          obtain ⟨hkind, hplace, hend⟩ := hframed d rfl
          obtain ⟨start, stop, n, hstanding, htext, hread, hstart, hstop, hselection⟩ :=
            Node.exists_standing hhead hstop hplace hend
          have hnamed : (some n).filter (fun n => !n.text.isEmpty) = some n := by
            simp [Option.filter, htext]
          have hmk : ∀ kind : SyntaxKind,
              SyntaxNode.Located s (.mk kind start stop (some n) trees) := fun kind =>
            .mk (fun _ m hm _ => Option.some.inj hm ▸ hstanding) hlocated
          have hsymbol : ∀ kind container,
              SyntaxNode.symbol (encode s) kind start stop d.name n.place container =
                ⟨d.name, kind, span, d.place, container⟩ := by
            intro kind container
            rw [SyntaxNode.symbol, hstart, hstop, hselection]
          cases hd : d.kind with
          | type =>
              refine ⟨.mk .classDefinition start stop (some n) trees, hmk _, fun container => ?_⟩
              simp only [SyntaxNode.symbols, hnamed, hread, hsymbols, hsymbol, bind, Except.bind,
                pure, Except.pure]
              simp [symbols, symbol, hd]
          | function =>
              refine ⟨.mk .functionDefinition start stop (some n) trees, hmk _, fun container => ?_⟩
              simp only [SyntaxNode.symbols, hnamed, hread, hsymbol, bind, Except.bind, pure,
                Except.pure]
              simp [symbols, symbol, hd]
          | method => exact absurd hd hkind

/-- The outline of a source is that of trees over it. -/
theorem exists_trees_of_source (s : List Char) :
    ∃ trees, (∀ tree ∈ trees, SyntaxNode.Located s tree) ∧
      SyntaxNode.symbolsAll (encode s) none trees = .ok (outlineOf s) := by
  have hlines := (Node.linewiseAll_iff.1 (Node.linewiseAll_ofSource s)).1
  obtain ⟨trees, hlocated, hsymbols⟩ := Node.exists_trees fun node hnode =>
    (Node.sound_ofSource s node hnode).exists_tree (hlines node hnode)
  exact ⟨trees, hlocated, hsymbols none⟩

/-- Whatever is in front of it on its row, a name is where its symbol says, counted in code points.
This is so for the outline of a source, and for that of every tree in which the definitions and
their names are at their bytes: each of these has an outline. -/
theorem outline_covers_names {bytes : List UInt8} {text : List Char}
    (hbytes : decode? bytes = some text) :
    (∀ sym ∈ outlineOf (decodeLossy bytes), Covers bytes sym) ∧
    ∀ tree : SyntaxNode, tree.Located text → ∃ found, tree.symbols bytes none = .ok found ∧
      ∀ sym ∈ found, Covers bytes sym := by
  rw [decodeLossy_of_decode? hbytes]
  obtain rfl := decode?_eq_some_iff.mp hbytes
  refine ⟨?_, fun tree htree => htree.symbols none⟩
  obtain ⟨trees, hlocated, houtline⟩ := exists_trees_of_source text
  obtain ⟨found, hfound, hcovers⟩ :=
    SyntaxNode.symbolsAll_of_forall fun tree htree => (hlocated tree htree).symbols none
  cases houtline.symm.trans hfound
  exact hcovers

/-- A class behind characters of two and four bytes, with a name of which one character has two. -/
def accented : List Char :=
  "é = '😀'; x = 1\nif x: pass\nclass Ünit: pass\n".toList

/-- The tree of it as far as its class goes: its last byte is the seventeenth of the third row. -/
def accentedTree : SyntaxNode :=
  .mk .other ⟨0, 0⟩ ⟨3, 0⟩ none
    [.mk .classDefinition ⟨2, 0⟩ ⟨2, 17⟩ (some ⟨encode "Ünit".toList, ⟨2, 6⟩⟩) []]

theorem located_accentedTree : accentedTree.Located accented := by
  have hstanding : Standing accented ⟨2, 0⟩ ⟨2, 17⟩ ⟨encode "Ünit".toList, ⟨2, 6⟩⟩ :=
    ⟨"é = '😀'; x = 1\nif x: pass\n".toList, "class ".toList, "Ünit".toList, ": pass".toList,
      "\n".toList, by decide +kernel⟩
  refine .mk (fun hkind => absurd rfl hkind) (List.forall_mem_singleton.2 ?_)
  exact .mk (fun _ n hn _ => Option.some.inj hn ▸ hstanding) (List.forall_mem_nil _)

/-- The name is behind six characters of the third row and has four, however many bytes they are. -/
theorem outline_covers_names_accented :
    (∃ row chars, ((encode accented).splitOn lineFeed)[2]? = some row ∧ decode? row = some chars ∧
      (chars.drop 6).take 4 = "Ünit".toList ∧
      outlineOf accented = [⟨"Ünit", .type, ⟨⟨2, 0⟩, ⟨2, 16⟩⟩, ⟨2, 6⟩, none⟩]) ∧
    accentedTree.symbols (encode accented) none =
        .ok [⟨"Ünit", .type, ⟨⟨2, 0⟩, ⟨2, 16⟩⟩, ⟨2, 6⟩, none⟩] ∧
      Covers (encode accented) ⟨"Ünit", .type, ⟨⟨2, 0⟩, ⟨2, 16⟩⟩, ⟨2, 6⟩, none⟩ := by
  have houtline : outlineOf accented = [⟨"Ünit", .type, ⟨⟨2, 0⟩, ⟨2, 16⟩⟩, ⟨2, 6⟩, none⟩] := by
    decide +kernel
  have htree : accentedTree.symbols (encode accented) none =
      .ok [⟨"Ünit", .type, ⟨⟨2, 0⟩, ⟨2, 16⟩⟩, ⟨2, 6⟩, none⟩] := by
    decide +kernel
  obtain ⟨hscanned, hparsed⟩ := outline_covers_names (decode?_encode accented)
  rw [decodeLossy_encode, houtline] at hscanned
  obtain ⟨found, hfound, hcovers⟩ := hparsed accentedTree located_accentedTree
  cases htree.symm.trans hfound
  obtain ⟨row, chars, hrow, hchars, hname⟩ := (hscanned _ List.mem_cons_self).row
  exact ⟨⟨row, chars, hrow, hchars, hname, houtline⟩, htree, hcovers _ List.mem_cons_self⟩

end Outline

end LozengeNav
