import LozengeNav.Proofs.Outline.Extent

/-! # Members of classes

A definition right inside a class is a member of it. Definitions stand in the order of
their lines, so a symbol of an outline is that of one definition only and is a member
of one class at most. The outline names the class of a member, but does not tell
classes of one name apart.
-/

namespace LozengeNav

namespace Outline

theorem rel_of_find? {α : Type} {R : α → α → Prop} {p : α → Bool} {items : List α}
    (h : items.Pairwise R) {a b : α} (ha : items.find? p = some a) (hb : b ∈ items)
    (hp : p b = true) : b = a ∨ R a b := by
  obtain ⟨-, before, after, rfl, hbefore⟩ := List.find?_eq_some_iff_append.mp ha
  rcases List.mem_append.mp hb with hfront | hback
  · have hnot := hbefore b hfront
    rw [hp] at hnot
    cases hnot
  · rcases List.mem_cons.mp hback with rfl | hafter
    · exact .inl rfl
    · exact .inr (List.rel_of_pairwise_cons (List.pairwise_append.mp h).2.1 hafter)

/-! ## The order of definitions -/

/-- The name of a definition stands on an earlier line than that of another one. -/
def Scoped.Before (x y : Scoped) : Prop :=
  x.declaration.place.line < y.declaration.place.line

theorem Scoped.lines_of_within {x : Scoped} (h : x.nameSpan.Within x.span) {span : Span}
    (hspan : x.span.Within span) :
    span.start.line ≤ x.declaration.place.line ∧ x.declaration.place.line ≤ span.stop.line := by
  obtain ⟨hstart, hstop⟩ := h.trans hspan
  have hlast : x.nameSpan.stop.line ≤ span.stop.line := Position.line_le hstop
  exact ⟨Position.line_le hstart, hlast⟩

namespace Node

mutual

theorem pairwise_definitions (n : Node) (h : n.linewise = true) (around : List Declaration) :
    (n.definitions around).Pairwise Scoped.Before := by
  match n with
  | mk none span children =>
      exact pairwise_definitionsAll children (linewise_iff.mp h).2 around
  | mk (some d) span children =>
      obtain ⟨hframed, hinside⟩ := linewise_iff.mp h
      refine .cons (fun y hy => ?_) (pairwise_definitionsAll children hinside (d :: around))
      rw [definitionsAll_eq_flatMap] at hy
      obtain ⟨m, hm, hy⟩ := List.mem_flatMap.mp hy
      obtain ⟨hname, hspan⟩ := within_of_linewiseAll children hinside hm hy
      have hline := (hframed.2.2 m hm).2.1 d rfl
      exact Nat.lt_of_lt_of_le hline (Scoped.lines_of_within hname hspan).1

theorem pairwise_definitionsAll (nodes : List Node) (h : linewiseAll nodes = true)
    (around : List Declaration) : (definitionsAll around nodes).Pairwise Scoped.Before := by
  match nodes with
  | [] => exact .nil
  | n :: rest =>
      obtain ⟨hn, hapart, hrest⟩ := linewiseAll_cons.mp h
      rw [definitionsAll, List.pairwise_append]
      refine ⟨pairwise_definitions n hn around, pairwise_definitionsAll rest hrest around,
        fun x hx y hy => ?_⟩
      obtain ⟨hname, hspan⟩ := within_of_linewise n hn hx
      rw [definitionsAll_eq_flatMap] at hy
      obtain ⟨m, hm, hy⟩ := List.mem_flatMap.mp hy
      obtain ⟨hname', hspan'⟩ := within_of_linewiseAll rest hrest hm hy
      have hlast := (Scoped.lines_of_within hname hspan).2
      have hfirst := (Scoped.lines_of_within hname' hspan').1
      have hlt := hapart m hm
      show x.declaration.place.line < y.declaration.place.line
      omega

end

mutual

theorem exists_around (n : Node) (h : n.linewise = true) {around : List Declaration} {x : Scoped}
    (hx : x ∈ n.definitions around) :
    x.around = around ∨ ∃ y ∈ n.definitions around, x.around = y.declaration :: y.around ∧
      x.span.Within y.span := by
  match n with
  | mk none span children =>
      exact exists_around_all children (linewise_iff.mp h).2 hx
  | mk (some d) span children =>
      obtain ⟨hframed, hinside⟩ := linewise_iff.mp h
      rcases List.mem_cons.mp hx with rfl | hx
      · exact .inl rfl
      · rcases exists_around_all children hinside hx with haround | ⟨y, hy, haround, hspan⟩
        · refine .inr ⟨⟨d, span, around⟩, List.mem_cons_self, haround, ?_⟩
          rw [definitionsAll_eq_flatMap] at hx
          obtain ⟨m, hm, hx⟩ := List.mem_flatMap.mp hx
          exact (within_of_linewiseAll children hinside hm hx).2.trans (hframed.within hm)
        · exact .inr ⟨y, List.mem_cons_of_mem _ hy, haround, hspan⟩

theorem exists_around_all (nodes : List Node) (h : linewiseAll nodes = true)
    {around : List Declaration} {x : Scoped} (hx : x ∈ definitionsAll around nodes) :
    x.around = around ∨ ∃ y ∈ definitionsAll around nodes, x.around = y.declaration :: y.around ∧
      x.span.Within y.span := by
  match nodes with
  | [] => cases hx
  | n :: rest =>
      obtain ⟨hn, -, hrest⟩ := linewiseAll_cons.mp h
      rcases List.mem_append.mp hx with hx | hx
      · exact (exists_around n hn hx).imp_right fun ⟨y, hy, hsame⟩ =>
          ⟨y, List.mem_append_left _ hy, hsame⟩
      · exact (exists_around_all rest hrest hx).imp_right fun ⟨y, hy, hsame⟩ =>
          ⟨y, List.mem_append_right _ hy, hsame⟩

end

end Node

/-! ## Members -/

/-- The definitions of a source in pre-order. -/
def scopes (source : List Char) : List Scoped :=
  Node.definitionsAll [] (Node.ofSource source)

/-- A symbol is that of a definition right inside the class of another symbol. -/
def MemberOf (source : List Char) (s k : OutlineSymbol) : Prop :=
  ∃ x ∈ scopes source, ∃ y ∈ scopes source, x.around = y.declaration :: y.around ∧
    inFunction x.around = false ∧ x.entry = s ∧ y.entry = k

instance (source : List Char) (s k : OutlineSymbol) : Decidable (MemberOf source s k) :=
  inferInstanceAs (Decidable (∃ x ∈ scopes source, ∃ y ∈ scopes source, _ ∧ _ ∧ _ ∧ _))

section Members

variable {source : List Char}

theorem scopes_pairwise (source : List Char) : (scopes source).Pairwise Scoped.Before :=
  Node.pairwise_definitionsAll _ (Node.linewiseAll_ofSource source) []

/-- A definition is known by the place of its name. -/
theorem eq_of_place {x y : Scoped} (hx : x ∈ scopes source) (hy : y ∈ scopes source)
    (hplace : x.declaration.place = y.declaration.place) : x = y := by
  obtain ⟨before, after, hcut⟩ := List.append_of_mem hx
  have hpairwise := scopes_pairwise source
  rw [hcut] at hy hpairwise
  obtain ⟨-, hafter, hbefore⟩ := List.pairwise_append.mp hpairwise
  have hne : ¬ x.declaration.place.line < y.declaration.place.line ∧
      ¬ y.declaration.place.line < x.declaration.place.line := by
    rw [hplace]
    omega
  rcases List.mem_append.mp hy with hy | hy
  · exact absurd (hbefore y hy x List.mem_cons_self) hne.2
  · rcases List.mem_cons.mp hy with rfl | hy
    · rfl
    · exact absurd (List.rel_of_pairwise_cons hafter hy) hne.1

theorem eq_of_selection {s s' : OutlineSymbol} (hs : s ∈ outlineOf source)
    (hs' : s' ∈ outlineOf source) (hselection : s.selection = s'.selection) : s = s' := by
  obtain ⟨x, hx, -, rfl⟩ := Node.mem_outlineOf.mp hs
  obtain ⟨y, hy, -, rfl⟩ := Node.mem_outlineOf.mp hs'
  rw [eq_of_place hx hy hselection]

theorem outlineOf_pairwise (source : List Char) :
    (outlineOf source).Pairwise fun s t => s.selection.line < t.selection.line := by
  rw [Node.outlineOf_eq_map, List.pairwise_map]
  exact (scopes_pairwise source).filter _

theorem MemberOf.unique {s k k' : OutlineSymbol} (h : MemberOf source s k)
    (h' : MemberOf source s k') : k = k' := by
  obtain ⟨x, hx, y, hy, haround, -, rfl, rfl⟩ := h
  obtain ⟨x', hx', y', hy', haround', -, hentry, rfl⟩ := h'
  obtain rfl := eq_of_place hx' hx (congrArg OutlineSymbol.selection hentry)
  rw [haround, List.cons.injEq] at haround'
  rw [eq_of_place hy hy' (congrArg Declaration.place haround'.1)]

theorem kind_ne_method {x : Scoped} (hx : x ∈ scopes source) : x.declaration.kind ≠ .method :=
  (Node.nests_ofSource source).kinds x hx

/-- What a definition outside of functions is right inside of is a class outside of functions. -/
theorem type_of_around {x y : Scoped} (hy : y ∈ scopes source)
    (haround : x.around = y.declaration :: y.around) (hin : inFunction x.around = false) :
    y.declaration.kind = .type ∧ inFunction y.around = false := by
  rw [haround, inFunction, List.any_cons, Bool.or_eq_false_iff] at hin
  obtain ⟨hkind, houter⟩ := hin
  refine ⟨?_, houter⟩
  cases h : y.declaration.kind with
  | type => rfl
  | function => simp [h] at hkind
  | method => exact absurd h (kind_ne_method hy)

/-- A member is listed with the name of its class, which is listed too and takes it in. -/
theorem MemberOf.listed {s k : OutlineSymbol} (h : MemberOf source s k) :
    s ∈ outlineOf source ∧ k ∈ outlineOf source ∧ s.container = some k.name ∧ k.kind = .type ∧
      s.span.Within k.span := by
  obtain ⟨x, hx, y, hy, haround, hin, rfl, rfl⟩ := h
  obtain ⟨hkind, houter⟩ := type_of_around hy haround hin
  refine ⟨Node.mem_outlineOf.mpr ⟨x, hx, hin, rfl⟩, Node.mem_outlineOf.mpr ⟨y, hy, houter, rfl⟩,
    ?_, ?_, ?_⟩
  · simp [Scoped.entry, classAround?, haround, hkind]
  · simp [Scoped.entry, hkind]
  · have hparent := Node.exists_around_all _ (Node.linewiseAll_ofSource source) hx
    rcases hparent with hnil | ⟨y', hy', haround', hspan⟩
    · rw [haround] at hnil
      cases hnil
    · rw [haround, List.cons.injEq] at haround'
      rw [eq_of_place hy hy' (congrArg Declaration.place haround'.1)]
      exact hspan

theorem exists_memberOf {s : OutlineSymbol} (hs : s ∈ outlineOf source) {container : String}
    (hcontainer : s.container = some container) :
    ∃ k, MemberOf source s k ∧ k.name = container := by
  obtain ⟨x, hx, hin, rfl⟩ := Node.mem_outlineOf.mp hs
  have hclass : classAround? x.around = some container := hcontainer
  have hparent := Node.exists_around_all _ (Node.linewiseAll_ofSource source) hx
  rcases hparent with hnil | ⟨y, hy, haround, -⟩
  · rw [hnil] at hclass
    cases hclass
  · obtain ⟨hkind, -⟩ := type_of_around hy haround hin
    refine ⟨y.entry, ⟨x, hx, y, hy, haround, hin, rfl, rfl⟩, ?_⟩
    show y.declaration.name = container
    simpa [classAround?, haround, hkind] using hclass

/-- The member that is found among classes of one name is in the first of them only if a member of
that one comes before those of the others. -/
theorem memberOf_iff_first {s top : OutlineSymbol} {name : String}
    (h : SourceIndex.member? (outlineOf source) top.name name = some s) :
    MemberOf source s top ↔
      ∃ s', MemberOf source s' top ∧ s'.name = name ∧
        ∀ s'' k, MemberOf source s'' k → k ≠ top → k.name = top.name → s''.name = name →
          s'.selection.line < s''.selection.line := by
  have hfound : s.container = some top.name ∧ s.name = name := by
    simpa using List.find?_some h
  -- the outline is in the order of lines, so the member that is found comes before all others
  have hlater : ∀ s' k, MemberOf source s' k → k.name = top.name → s'.name = name →
      s' = s ∨ s.selection.line < s'.selection.line := by
    intro s' k hmember hk hname
    obtain ⟨hlisted, -, hcontainer, -⟩ := hmember.listed
    exact rel_of_find? (outlineOf_pairwise source) h hlisted (by simp [hcontainer, hk, hname])
  constructor
  · intro hmember
    refine ⟨s, hmember, hfound.2, fun s'' k hother hne hk hname => ?_⟩
    rcases hlater s'' k hother hk hname with rfl | hline
    · exact absurd (hother.unique hmember) hne
    · exact hline
  · rintro ⟨s', hmember, hname, hbefore⟩
    obtain ⟨k, hk, hkname⟩ := exists_memberOf (List.mem_of_find?_eq_some h) hfound.1
    by_cases htop : k = top
    · rwa [htop] at hk
    · have hfirst := hbefore s k hk htop hkname hfound.2
      rcases hlater s' top hmember rfl hname with rfl | hline
      · exact hmember
      · omega

end Members

end Outline

end LozengeNav
