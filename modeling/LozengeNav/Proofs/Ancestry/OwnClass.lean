import LozengeNav.Proofs.Ancestry.Agreement
import LozengeNav.Proofs.Definition.Functions

/-! # The base class itself

A question about the base class itself begins where every other question is to
end. The search of the type hierarchy tests the class that it starts from. The
chase tests only files that a header leads to, so without a hierarchy the base
class counts as its own descendant only if its own header leads back into a
marked file.
-/

namespace LozengeNav

namespace World

def withHierarchy (w : World)
    (prepared : List ((String × Position) × Option (List (String × String)))) : World :=
  { w with hierarchy := prepared }

/-- The base class is declared in a marked file: a line of its text declares a
class of that name, with or without bases, and the outline has an entry for it. -/
structure DeclaresBase (w : World) (base : BaseClass) (uri : String) (entry : OutlineSymbol) :
    Prop where
  marked : base.Marks uri
  header : ∃ text, look w.texts uri = some text ∧
    ∃ line ∈ Text.lines text.toList, ClassHeader.declared? line = some base.name.toList
  outlined : ((look w.outlines uri).getD []).find? (fun s => s.kind = .type ∧ s.name = base.name) =
    some entry

section OwnClass

variable {w : World} {base : BaseClass} {uri : String}
  {prepared : List ((String × Position) × Option (List (String × String)))}

/-! ## Reaching the base class from itself -/

theorem hierarchyReaches_self (hmarks : base.Marks uri) {roots : List (String × String)}
    (hnode : (uri, base.name) ∈ roots) : w.HierarchyReaches base roots :=
  ⟨(uri, base.name), hnode, (uri, base.name), .refl, rfl, hmarks⟩

theorem not_chainReaches_of_baseSites_nil {c : ClassRef} (hsites : w.baseSites base c = []) :
    ¬ w.ChainReaches base c := by
  rintro ⟨d, hreach, l, hl, -⟩
  rcases hreach.cases_head with rfl | ⟨e, ⟨site, hsite, -⟩, -⟩
  · rw [hsites] at hl
    exact List.not_mem_nil hl
  · rw [hsites] at hsite
    exact List.not_mem_nil hsite

/-! ## The verdict with and without a hierarchy -/

theorem roots?_withHierarchy {entry : OutlineSymbol} (h : w.DeclaresBase base uri entry) :
    (w.withHierarchy prepared).roots? ⟨uri, base.name⟩ =
      (look prepared (uri, entry.selection)).filter fun roots => roots ≠ [] := by
  have houtlined := h.outlined
  unfold roots? withHierarchy
  dsimp only
  rw [houtlined]
  rfl

theorem descends_of_node {entry : OutlineSymbol} (h : w.DeclaresBase base uri entry)
    {roots : List (String × String)} (hprepared : look prepared (uri, entry.selection) = some roots)
    (hnode : (uri, base.name) ∈ roots) :
    (w.withHierarchy prepared).Descends base ⟨uri, base.name⟩ := by
  have hnonempty : roots ≠ [] := List.ne_nil_of_mem hnode
  have hroots : (w.withHierarchy prepared).roots? ⟨uri, base.name⟩ = some roots := by
    rw [roots?_withHierarchy h, hprepared, Option.filter_some, if_pos (decide_eq_true hnonempty)]
  unfold Descends
  rw [hroots]
  exact hierarchyReaches_self h.marked hnode

theorem descends_withoutHierarchy_iff (c : ClassRef) :
    (w.withHierarchy []).Descends base c ↔ w.ChainReaches base c := by
  have hroots : (w.withHierarchy []).roots? c = none := by
    unfold roots? withHierarchy
    dsimp only
    cases ((look w.outlines c.uri).getD []).find? fun s => s.kind = .type ∧ s.name = c.name <;> rfl
  unfold Descends
  rw [hroots]
  exact Iff.rfl

theorem ask_descends (w : World) (base : BaseClass) (uri name : String) :
    (ask (Ancestry.descends w.host base uri name)).1 =
      .ok (decide (w.Descends base ⟨uri, name⟩)) :=
  congrArg Prod.fst (ask_of_runsTo (w.descends_runsTo_decide base ⟨uri, name⟩ [])).1

theorem qualifies_iff_descends {w : World} {base : BaseClass} {symbol : WorkspaceSymbol}
    (hkind : symbol.kind = .method) {name : String} (hclass : w.classOf? symbol = some name) :
    w.Qualifies base symbol ↔ w.Descends base ⟨symbol.location.uri, name⟩ := by
  simp [qualifies_iff_of_method hkind, hclass]

theorem ask_qualifies (w : World) (base : BaseClass) {symbol : WorkspaceSymbol}
    (hkind : symbol.kind = .method) {name : String} (hclass : w.classOf? symbol = some name) :
    (ask (ForeignSymbols.qualifies w.host base (.method symbol.location (hint? symbol)))).1 =
      .ok (decide (w.Descends base ⟨symbol.location.uri, name⟩)) := by
  rw [(ask_of_runsTo (w.qualifiesMethod_runsTo base hkind [])).1]
  exact congrArg Except.ok (decide_eq_decide.2 (qualifies_iff_descends hkind hclass))

/-- A hierarchy that knows the base class calls it its own descendant and keeps
its methods. Without one both hold exactly if a chain of class headers leads from
the base class to a marked file. -/
theorem own_class_verdicts (w : World) (base : BaseClass) (uri : String) (entry : OutlineSymbol)
    (prepared : List ((String × Position) × Option (List (String × String))))
    (roots : List (String × String)) (declared : w.DeclaresBase base uri entry)
    (hprepared : look prepared (uri, entry.selection) = some roots)
    (hnode : (uri, base.name) ∈ roots) :
    ((ask (Ancestry.descends (w.withHierarchy prepared).host base uri base.name)).1 = .ok true ∧
      ((ask (Ancestry.descends (w.withHierarchy []).host base uri base.name)).1 = .ok true ↔
        w.ChainReaches base ⟨uri, base.name⟩)) ∧
    ∀ symbol : WorkspaceSymbol, symbol.kind = .method → symbol.location.uri = uri →
      w.classOf? symbol = some base.name →
      (ask (ForeignSymbols.qualifies (w.withHierarchy prepared).host base
        (.method symbol.location (hint? symbol)))).1 = .ok true ∧
      ((ask (ForeignSymbols.qualifies (w.withHierarchy []).host base
        (.method symbol.location (hint? symbol)))).1 = .ok true ↔
        w.ChainReaches base ⟨uri, base.name⟩) := by
  have hwith := descends_of_node declared hprepared hnode
  have hwithout : (w.withHierarchy []).Descends base ⟨uri, base.name⟩ ↔
      w.ChainReaches base ⟨uri, base.name⟩ := descends_withoutHierarchy_iff _
  refine ⟨⟨?_, ?_⟩, fun symbol hkind huri hclass => ⟨?_, ?_⟩⟩
  · rw [ask_descends, decide_eq_true hwith]
  · rw [ask_descends, Except.ok.injEq, decide_eq_true_iff, hwithout]
  · rw [ask_qualifies (w.withHierarchy prepared) base hkind hclass, huri, decide_eq_true hwith]
  · rw [ask_qualifies (w.withHierarchy []) base hkind hclass, huri, Except.ok.injEq,
      decide_eq_true_iff, hwithout]

end OwnClass

/-! ## Base classes with and without bases -/

def coreUri : String :=
  "file:///lib/appeldryck/core.py"

def derivedBase : World where
  texts := [(coreUri, some "class Root:\n    pass\nclass Context(Root):\n    def render(self): pass")]
  outlines := [(coreUri, some
    [⟨"Root", .type, ⟨⟨0, 0⟩, ⟨1, 8⟩⟩, ⟨0, 6⟩, none⟩,
     ⟨"Context", .type, ⟨⟨2, 0⟩, ⟨3, 26⟩⟩, ⟨2, 6⟩, none⟩])]
  definitions := [((coreUri, ⟨2, 14⟩), some [⟨coreUri, ⟨⟨0, 6⟩, ⟨0, 10⟩⟩⟩])]

def derivedEntry : OutlineSymbol :=
  ⟨"Context", .type, ⟨⟨2, 0⟩, ⟨3, 26⟩⟩, ⟨2, 6⟩, none⟩

theorem derivedBase_declaresBase : derivedBase.DeclaresBase {} coreUri derivedEntry where
  marked := by decide
  header := ⟨_, rfl, "class Context(Root):".toList, by decide, by decide⟩
  outlined := by decide

theorem derivedBase_chainReaches : derivedBase.ChainReaches {} ⟨coreUri, "Context"⟩ := by
  have hsite : ⟨coreUri, ⟨⟨0, 6⟩, ⟨0, 10⟩⟩⟩ ∈ derivedBase.baseSites {} ⟨coreUri, "Context"⟩ := by
    decide +kernel
  exact ⟨_, .refl, _, hsite, by decide +kernel⟩

theorem own_class_verdicts_derivedBase :
    derivedBase.DeclaresBase {} coreUri derivedEntry ∧
      look [((coreUri, derivedEntry.selection), some [(coreUri, "Context")])]
        (coreUri, derivedEntry.selection) = some [(coreUri, "Context")] ∧
      (ask (Ancestry.descends (derivedBase.withHierarchy
        [((coreUri, derivedEntry.selection), some [(coreUri, "Context")])]).host {} coreUri
        "Context")).1 = .ok true ∧
      (ask (Ancestry.descends (derivedBase.withHierarchy []).host {} coreUri "Context")).1 =
        .ok true := by
  have hlook : look [((coreUri, derivedEntry.selection), some [(coreUri, "Context")])]
      (coreUri, derivedEntry.selection) = some [(coreUri, "Context")] := by
    decide +kernel
  obtain ⟨⟨hwith, hwithout⟩, -⟩ := own_class_verdicts derivedBase {} coreUri derivedEntry _ _
    derivedBase_declaresBase hlook (List.mem_singleton_self _)
  exact ⟨derivedBase_declaresBase, hlook, hwith, hwithout.2 derivedBase_chainReaches⟩

def bareMethod : WorkspaceSymbol :=
  ⟨"render", .method, ⟨coreUri, ⟨⟨1, 8⟩, ⟨1, 14⟩⟩⟩, some "Context"⟩

/-- A library whose base class has no base list, and its method. -/
def bareBase : World where
  texts := [(coreUri, some "class Context:\n    def render(self): pass")]
  symbols := [("render", some [bareMethod])]
  outlines := [(coreUri, some [⟨"Context", .type, ⟨⟨0, 0⟩, ⟨1, 26⟩⟩, ⟨0, 6⟩, none⟩])]

def bareEntry : OutlineSymbol :=
  ⟨"Context", .type, ⟨⟨0, 0⟩, ⟨1, 26⟩⟩, ⟨0, 6⟩, none⟩

theorem bareBase_declaresBase : bareBase.DeclaresBase {} coreUri bareEntry where
  marked := by decide
  header := ⟨_, rfl, "class Context:".toList, by decide, by decide⟩
  outlined := by decide

theorem bareBase_not_descends : ¬ (bareBase.withHierarchy []).Descends {} ⟨coreUri, "Context"⟩ := by
  rw [descends_withoutHierarchy_iff]
  exact not_chainReaches_of_baseSites_nil (by decide)

theorem bareBase_descends : (bareBase.withHierarchy
    [((coreUri, bareEntry.selection), some [(coreUri, "Context")])]).Descends {}
      ⟨coreUri, "Context"⟩ := by
  have hlook : look [((coreUri, bareEntry.selection), some [(coreUri, "Context")])]
      (coreUri, bareEntry.selection) = some [(coreUri, "Context")] := by
    decide
  exact descends_of_node bareBase_declaresBase hlook (List.mem_singleton_self _)

theorem functionsOf_bareBase
    (prepared : List ((String × Position) × Option (List (String × String)))) :
    (bareBase.withHierarchy prepared).functionsOf {} "render" =
      if (bareBase.withHierarchy prepared).Descends {} ⟨coreUri, "Context"⟩ then
        [⟨coreUri, ⟨⟨1, 8⟩, ⟨1, 14⟩⟩⟩]
      else [] := by
  have hsymbols : (look bareBase.symbols "render").getD [] = [bareMethod] := by decide
  have hhint : hint? bareMethod = some "Context" := by decide
  have hclass : (bareBase.withHierarchy prepared).classOf? bareMethod = some "Context" := by
    rw [classOf?, hhint, Option.some_or]
  have hqualifies : (bareBase.withHierarchy prepared).Qualifies {} bareMethod ↔
      (bareBase.withHierarchy prepared).Descends {} ⟨coreUri, "Context"⟩ :=
    qualifies_iff_descends rfl hclass
  have hname : bareMethod.name = "render" := rfl
  have hfiltered : (look (bareBase.withHierarchy prepared).symbols "render").getD [] =
      [bareMethod] := hsymbols
  rw [functionsOf, hfiltered]
  by_cases h : (bareBase.withHierarchy prepared).Descends {} ⟨coreUri, "Context"⟩
  · rw [if_pos h, List.filter_cons_of_pos (by simp [hname, hqualifies, h])]
    rfl
  · rw [if_neg h, List.filter_cons_of_neg (by simp [hqualifies, h])]
    rfl

/-- The method of a base class without bases is kept only where there is a type
hierarchy. -/
theorem own_class_verdicts_differ :
    bareBase.DeclaresBase {} coreUri bareEntry ∧
      (ask (Ancestry.descends (bareBase.withHierarchy
        [((coreUri, bareEntry.selection), some [(coreUri, "Context")])]).host {} coreUri
        "Context")).1 = .ok true ∧
      (ask (Ancestry.descends (bareBase.withHierarchy []).host {} coreUri "Context")).1 =
        .ok false ∧
      (ask (ForeignSymbols.resolve (bareBase.withHierarchy
        [((coreUri, bareEntry.selection), some [(coreUri, "Context")])]).host {} "render")).1 =
        .ok [⟨coreUri, ⟨⟨1, 8⟩, ⟨1, 14⟩⟩⟩] ∧
      (ask (ForeignSymbols.resolve (bareBase.withHierarchy []).host {} "render")).1 = .ok [] := by
  refine ⟨bareBase_declaresBase, ?_, ?_, ?_, ?_⟩
  · rw [ask_descends, decide_eq_true bareBase_descends]
  · rw [ask_descends, decide_eq_false bareBase_not_descends]
  · rw [(ask_of_runsTo (resolveFunctions_runsTo _ {} "render" [])).1, functionsOf_bareBase,
      if_pos bareBase_descends]
  · rw [(ask_of_runsTo (resolveFunctions_runsTo _ {} "render" [])).1, functionsOf_bareBase,
      if_neg bareBase_not_descends]

end World

end LozengeNav
