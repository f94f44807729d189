import LozengeNav.ForeignSymbols
import LozengeNav.Proofs.Enclosing.Lines
import LozengeNav.SourceIndex
import LozengeNav.World

/-! # The class of a method, given and looked up

The outline of a source names the nearest class around each method, and the innermost
class at the name of the method is that class. So it makes no difference to a lookup
whether the index says what the class of a method is.
-/

namespace LozengeNav

namespace Outline

namespace Node

theorem methodClass?_run {σ : Type} (host : Host σ) (uri : String) {before after : σ}
    {outline : List OutlineSymbol} {s : OutlineSymbol}
    (houtline : (host.documentOutline uri).run.run before = (.ok (some outline), after))
    (hclass : innermostClass? outline s.selection.line = s.container) {given : Option String}
    (hgiven : given = none ∨ given = s.container) :
    ((ForeignSymbols.methodClass? host (s.location uri) given).run.run before).1 =
      .ok s.container := by
  cases given with
  | some name =>
      rw [← hgiven.resolve_left (by simp)]
      rfl
  | none =>
      have hrun : (enclosingClass? host uri s.selection).run.run before =
          (.ok (innermostClass? outline s.selection.line), after) := by
        rw [enclosingClass?, ExceptT.run_bind, StateT.run_bind, houtline]
        rfl
      rw [← hclass]
      exact congrArg Prod.fst hrun

/-- The outline of a tree with nested lines lists the classes and functions that stand in no
function, each with the nearest class around it, and the functions of classes as methods. The
innermost class at the name of a method is that class, so a lookup takes a method for one of the
same class whether it relies on what a search says or reads the outline. The trees of all
sources are of this kind. -/
theorem lookup_eq_container :
    (∀ forest, Nests forest →
      symbolsAll none forest =
        ((definitionsAll [] forest).filter fun x => !inFunction x.around).map Scoped.entry ∧
      ∀ s ∈ symbolsAll none forest, s.kind = .method →
        innermostClass? (symbolsAll none forest) s.selection.line = s.container ∧
        ∀ uri, ∃ hint,
          SymbolMatch.ofSymbol? s.name (SourceIndex.hit uri s) =
            some (.method (s.location uri) hint) ∧
          ∀ {σ : Type} (host : Host σ) (before after : σ),
            (host.documentOutline uri).run.run before =
              (.ok (some (symbolsAll none forest)), after) →
            ∀ given ∈ [hint, none],
              ((ForeignSymbols.methodClass? host (s.location uri) given).run.run before).1 =
                .ok s.container) ∧
    ∀ source, Nests (ofSource source) := by
  refine ⟨fun forest h => ⟨symbolsAll_eq_map rfl forest h.kinds, fun s hs hkind => ?_⟩,
    nests_ofSource⟩
  have hclass := h.innermostClass?_symbolsAll hs (by simp [hkind])
  rw [Option.or_none] at hclass
  refine ⟨hclass, fun uri => ⟨s.container.filter fun c => c ≠ "", ?_, ?_⟩⟩
  · simp [SymbolMatch.ofSymbol?, SourceIndex.hit, hkind]
  · intro σ host before after houtline given hgiven
    refine methodClass?_run host uri houtline hclass ?_
    rcases List.mem_cons.mp hgiven with rfl | hnone
    · cases s.container with
      | none => exact .inl rfl
      | some c => by_cases hc : c = "" <;> simp [Option.filter, hc]
    · exact .inl (List.mem_singleton.mp hnone)

/-- A class with a branch in which a nested class stands before a decorated method, a method
behind the branch and a function with a class of its own. -/
def branchForest : List Node :=
  [mk (some ⟨.type, "A", ⟨0, 6⟩⟩) ⟨⟨0, 0⟩, ⟨7, 15⟩⟩
      [mk none ⟨⟨1, 4⟩, ⟨6, 28⟩⟩
        [mk (some ⟨.type, "B", ⟨2, 14⟩⟩) ⟨⟨2, 8⟩, ⟨3, 30⟩⟩
          [mk (some ⟨.function, "inner", ⟨3, 16⟩⟩) ⟨⟨3, 12⟩, ⟨3, 30⟩⟩ []],
        mk none ⟨⟨4, 8⟩, ⟨6, 28⟩⟩
          [mk (some ⟨.function, "late", ⟨5, 12⟩⟩) ⟨⟨5, 8⟩, ⟨6, 28⟩⟩
            [mk (some ⟨.function, "helper", ⟨6, 16⟩⟩) ⟨⟨6, 12⟩, ⟨6, 28⟩⟩ []]]],
      mk (some ⟨.function, "g", ⟨7, 8⟩⟩) ⟨⟨7, 4⟩, ⟨7, 15⟩⟩ []],
    mk (some ⟨.function, "f", ⟨8, 4⟩⟩) ⟨⟨8, 0⟩, ⟨9, 12⟩⟩
      [mk (some ⟨.type, "C", ⟨9, 10⟩⟩) ⟨⟨9, 4⟩, ⟨9, 12⟩⟩ []]]

theorem nests_branchForest : Nests branchForest :=
  nests_of_linewiseAll branchForest (by decide)

def lateEntry : OutlineSymbol :=
  ⟨"late", .method, ⟨⟨5, 8⟩, ⟨6, 28⟩⟩, ⟨5, 12⟩, some "A"⟩

def branchWorld : World :=
  { outlines := [("file:///ws/a.py", some (symbolsAll none branchForest))] }

/-- Behind the nested class and below a decorator, the lookup of the method finds the outer class,
which is its container. -/
theorem lookup_eq_container_branch :
    Nests branchForest ∧
      symbolsAll none branchForest =
        [⟨"A", .type, ⟨⟨0, 0⟩, ⟨7, 15⟩⟩, ⟨0, 6⟩, none⟩,
          ⟨"B", .type, ⟨⟨2, 8⟩, ⟨3, 30⟩⟩, ⟨2, 14⟩, some "A"⟩,
          ⟨"inner", .method, ⟨⟨3, 12⟩, ⟨3, 30⟩⟩, ⟨3, 16⟩, some "B"⟩, lateEntry,
          ⟨"g", .method, ⟨⟨7, 4⟩, ⟨7, 15⟩⟩, ⟨7, 8⟩, some "A"⟩,
          ⟨"f", .function, ⟨⟨8, 0⟩, ⟨9, 12⟩⟩, ⟨8, 4⟩, none⟩] ∧
      innermostClass? (symbolsAll none branchForest) 5 = some "A" ∧
      ((ForeignSymbols.methodClass? branchWorld.host (lateEntry.location "file:///ws/a.py")
        none).run.run []).1 = .ok (some "A") := by
  obtain ⟨houtline, hlookup⟩ := lookup_eq_container.1 branchForest nests_branchForest
  obtain ⟨hclass, hhost⟩ := hlookup lateEntry (by decide) rfl
  obtain ⟨hint, -, hhost⟩ := hhost "file:///ws/a.py"
  refine ⟨nests_branchForest, houtline.trans (by decide), hclass, ?_⟩
  exact hhost branchWorld.host [] _ rfl none (by simp)

end Node

end Outline

end LozengeNav
