import LozengeNav.ForeignSymbols
import LozengeNav.Proofs.Ancestry.Verdict

/-! # Which functions a name refers to

A name refers to the functions of that name, and to the methods of that name
whose class descends from the base class. The class of a method is its container,
or else the innermost class around its first line. The lookup keeps the order of
the index and asks about one method after the other.
-/

namespace LozengeNav

namespace World

/-! ## Functions and methods of a name -/

/-- The container of a symbol, unless it is empty. -/
def hint? (symbol : WorkspaceSymbol) : Option String :=
  symbol.container.filter fun c => c ≠ ""

/-- The class of a method: the one that the index gives, or else the innermost
one around its first line. -/
def classOf? (w : World) (symbol : WorkspaceSymbol) : Option String :=
  (hint? symbol).or <|
    innermostClass? ((look w.outlines symbol.location.uri).getD []) symbol.location.span.start.line

/-- A symbol is a function, or a method of a class that descends from the base
class. -/
def Qualifies (w : World) (base : BaseClass) (symbol : WorkspaceSymbol) : Prop :=
  symbol.kind = .function ∨
    symbol.kind = .method ∧
      ∃ c ∈ w.classOf? symbol, w.Descends base ⟨symbol.location.uri, c⟩

instance (w : World) (base : BaseClass) (symbol : WorkspaceSymbol) :
    Decidable (w.Qualifies base symbol) :=
  inferInstanceAs (Decidable (_ ∨ _ ∧ ∃ c ∈ w.classOf? symbol, w.Descends base ⟨_, c⟩))

/-- The locations that a name without a file refers to, in the order of the index. -/
def functionsOf (w : World) (base : BaseClass) (name : String) : List Location :=
  (((look w.symbols name).getD []).filter fun symbol =>
    symbol.name = name ∧ w.Qualifies base symbol).map WorkspaceSymbol.location

/-- The calls that settle whether a symbol qualifies: none for a function, and for
a method those for its class and the descent of that class. -/
def callsAbout (w : World) (base : BaseClass) (symbol : WorkspaceSymbol) : List Call :=
  if symbol.kind = .method then
    (if (hint? symbol).isSome then [] else [.documentOutline symbol.location.uri]) ++
      match w.classOf? symbol with
      | none => []
      | some c => (ask (Ancestry.descends w.host base symbol.location.uri c)).2
  else []

def callsForFunctions (w : World) (base : BaseClass) (name : String) : List Call :=
  .workspaceSymbols name ::
    (((look w.symbols name).getD []).filter fun symbol => symbol.name = name).flatMap
      (w.callsAbout base)

/-! ## The lookup -/

theorem methodClass?_runsTo (w : World) (symbol : WorkspaceSymbol) (s : List Call) :
    RunsTo (ForeignSymbols.methodClass? w.host symbol.location (hint? symbol)) s
      (w.classOf? symbol)
      (s ++ if (hint? symbol).isSome then [] else [.documentOutline symbol.location.uri]) := by
  unfold classOf?
  cases hint? symbol with
  | some c =>
      rw [Option.isSome_some, if_pos rfl, List.append_nil, Option.some_or]
      exact Runs.pure (some c) s
  | none =>
      have hask := runsTo_answer (.documentOutline symbol.location.uri)
        (look w.outlines symbol.location.uri) s
      exact Runs.bind hask (Runs.pure _ _)

theorem qualifies_iff_of_method {w : World} {base : BaseClass} {symbol : WorkspaceSymbol}
    (h : symbol.kind = .method) :
    w.Qualifies base symbol ↔
      ∃ c ∈ w.classOf? symbol, w.Descends base ⟨symbol.location.uri, c⟩ := by
  simp [Qualifies, h]

theorem qualifiesMethod_runsTo (w : World) (base : BaseClass) {symbol : WorkspaceSymbol}
    (h : symbol.kind = .method) (s : List Call) :
    RunsTo (ForeignSymbols.qualifies w.host base (.method symbol.location (hint? symbol))) s
      (decide (w.Qualifies base symbol)) (s ++ w.callsAbout base symbol) := by
  have hclass := w.methodClass?_runsTo symbol s
  rw [callsAbout, if_pos h, ← List.append_assoc]
  refine Runs.bind hclass ?_
  cases hc : w.classOf? symbol with
  | none =>
      have hnot : ¬ w.Qualifies base symbol := by simp [qualifies_iff_of_method h, hc]
      rw [decide_eq_false hnot, List.append_nil]
      exact Runs.pure false _
  | some c =>
      have hiff : w.Qualifies base symbol ↔ w.Descends base ⟨symbol.location.uri, c⟩ := by
        simp [qualifies_iff_of_method h, hc]
      rw [decide_eq_decide.2 hiff]
      exact w.descends_runsTo_decide base ⟨symbol.location.uri, c⟩ _

theorem keep_cons_runsTo {w : World} {base : BaseClass} {hit : SymbolMatch}
    {rest : List SymbolMatch} {qualified : Bool} {others : List Location} {s₁ s₂ s₃ : List Call}
    (hhit : RunsTo (ForeignSymbols.qualifies w.host base hit) s₁ qualified s₂)
    (hrest : RunsTo (ForeignSymbols.keep w.host base rest) s₂ others s₃) :
    RunsTo (ForeignSymbols.keep w.host base (hit :: rest)) s₁
      (if qualified then hit.location :: others else others) s₃ :=
  Runs.bind hhit (Runs.bind hrest (Runs.pure _ _))

theorem keep_runsTo (w : World) (base : BaseClass) (name : String)
    (symbols : List WorkspaceSymbol) (s : List Call) :
    RunsTo (ForeignSymbols.keep w.host base (SymbolMatch.ofSymbols name symbols)) s
      ((symbols.filter fun symbol => symbol.name = name ∧ w.Qualifies base symbol).map
        WorkspaceSymbol.location)
      (s ++ (symbols.filter fun symbol => symbol.name = name).flatMap (w.callsAbout base)) := by
  -- The induction is on the symbols; a class and a symbol of another name are no match and cost
  -- no call.
  induction symbols generalizing s with
  | nil =>
      simp only [List.filter_nil, List.map_nil, List.flatMap_nil, List.append_nil]
      exact Runs.pure [] s
  | cons symbol rest ih =>
      rw [SymbolMatch.ofSymbols, List.filterMap_cons, SymbolMatch.ofSymbol?]
      by_cases hname : symbol.name = name
      · rw [if_pos hname, List.filter_cons, List.filter_cons, if_pos (decide_eq_true hname),
          List.flatMap_cons, ← List.append_assoc]
        cases hkind : symbol.kind with
        | type =>
            have hnot : ¬ w.Qualifies base symbol := by simp [Qualifies, hkind]
            have hcalls : w.callsAbout base symbol = [] := by simp [callsAbout, hkind]
            simp only [hnot, and_false, decide_false, Bool.false_eq_true, if_false, hcalls,
              List.append_nil]
            exact ih s
        | function =>
            have hqualifies : w.Qualifies base symbol := Or.inl hkind
            have hcalls : w.callsAbout base symbol = [] := by simp [callsAbout, hkind]
            simp only [hname, hqualifies, and_self, decide_true, if_true, hcalls, List.append_nil]
            have hhit : RunsTo (ForeignSymbols.qualifies w.host base (.function symbol.location)) s
                true s := Runs.pure true s
            exact keep_cons_runsTo hhit (ih s)
        | method =>
            have hrun := keep_cons_runsTo (w.qualifiesMethod_runsTo base hkind s) (ih _)
            by_cases hqualifies : w.Qualifies base symbol
            · simp only [hqualifies, decide_true, if_true] at hrun
              simp only [hname, hqualifies, and_self, decide_true, if_true]
              exact hrun
            · simp only [hqualifies, decide_false, Bool.false_eq_true, if_false] at hrun
              simp only [hqualifies, and_false, decide_false, Bool.false_eq_true, if_false]
              exact hrun
      · rw [if_neg hname]
        simp only [List.filter_cons, hname, false_and, decide_false, Bool.false_eq_true, if_false]
        exact ih s

/-- The lookup of a name answers with the locations of its functions, and makes
the calls for them. -/
theorem resolveFunctions_runsTo (w : World) (base : BaseClass) (name : String) (s : List Call) :
    RunsTo (ForeignSymbols.resolve w.host base name) s (w.functionsOf base name)
      (s ++ w.callsForFunctions base name) := by
  have hask := runsTo_answer (.workspaceSymbols name) (look w.symbols name) s
  rw [callsForFunctions, List.append_cons]
  exact Runs.bind hask (w.keep_runsTo base name _ _)

end World

end LozengeNav
