import LozengeNav.Config.Load
import LozengeNav.Engine
import LozengeNav.Proofs.Definition.Targets

/-! # An engine over sources

A valid configuration with the sources as its backend sets up one index for a root
directory. The engine recalls what it has read, so it looks up what a fresh index
would find on the same files.
-/

namespace LozengeNav

open Query

/-- Where a place in a document leads, with nothing kept. -/
def SourceIndex.lookUp (x : SourceIndex) (config : Config) (t : FileTree) (document : Document)
    (place : Position) : Except Fault (List Location) :=
  (((Engine.navigation config).definition x.host document place).run.run ⟨t, []⟩).1

/-- Every location of a lookup is a target of it. From a plain document in a plain
workspace, the lookup leads into plain paths. -/
theorem exists_target_of_lookUp {past : List FileTree} {t : FileTree} {x : SourceIndex}
    {config : Config} (htells : FileTree.Recallable past) (ht : t ∈ past) {document : Document}
    {place : Position} {found : List Location}
    (hfound : x.lookUp config t document place = .ok found) {l : Location} (hl : l ∈ found) :
    ∃ near p, Target x t near p l ∧
      (document.path.Plain → x.PlainIn t → '/' ∉ config.extension.toList → p.Plain) := by
  have hdetermined :=
    definition_determined htells ht x ⟨config.base, config.extension⟩ document place
  obtain ⟨reference, hreference, p, htarget⟩ :=
    hdetermined.holds (IndexState.recalls_fresh past t) hfound l hl
  refine ⟨_, p, htarget, fun hdocument hx hextension => ?_⟩
  refine htarget.plain hx fun q hq => plain_of_mem_nearby hdocument ?_ ?_ hextension hq
  · rw [String.toList_ofList]
    exact Reference.begins_of_at? hreference
  · rw [String.toList_ofList]
    exact Reference.spelled_of_at? hreference

theorem ForeignSymbols.keep_functions {σ : Type} (host : Host σ) (base : BaseClass) {name : String}
    {found : List WorkspaceSymbol}
    (h : ∀ symbol ∈ found, symbol.name = name ∧ symbol.kind = .function) (s : σ) :
    (keep host base (SymbolMatch.ofSymbols name found)).run.run s =
      (.ok (found.map WorkspaceSymbol.location), s) := by
  induction found with
  | nil => rfl
  | cons symbol rest ih =>
      obtain ⟨⟨hname, hkind⟩, hrest⟩ := List.forall_mem_cons.1 h
      have hmatch : SymbolMatch.ofSymbol? name symbol = some (.function symbol.location) := by
        rw [SymbolMatch.ofSymbol?, if_pos hname, hkind]
      rw [SymbolMatch.ofSymbols, List.filterMap_cons, hmatch, keep]
      exact run_bind_of_ok _ (ih hrest)

theorem SourceIndex.lookUp_functions {x : SourceIndex} {config : Config} {t : FileTree}
    (document : Document) (place : Position) {reference : Reference} {name : String}
    {files : List Path} {found : List WorkspaceSymbol}
    (hat : Reference.at? (document.line place.line) place.column = some reference)
    (hname : String.ofList reference.name = name) (hplain : reference.isDotted = false)
    (hlocal : ((LocalFile.resolve x.host config.extension name document.path.parent).run.run
      ⟨t, []⟩).1 = .ok none)
    (hfiles : x.workspace.pythonFiles t = .ok files)
    (hfound : ((symbolsIn name files).run.run ⟨t, []⟩).1 = .ok found)
    (hfunctions : ∀ symbol ∈ found, symbol.name = name ∧ symbol.kind = .function) :
    x.lookUp config t document place = .ok (found.map WorkspaceSymbol.location) := by
  have hsearch : (x.host.workspaceSymbols name).run.run ⟨t, []⟩ =
      (.ok (some found), ((symbolsIn name files).run.run ⟨t, []⟩).2) := by
    have hsymbols : (x.symbols name).run.run ⟨t, []⟩ =
        (symbolsIn name files).run.run ⟨t, []⟩ := by
      rw [symbols, run_get, hfiles]
      exact run_bind_of_ok _ (run_ofExcept _ _)
    exact run_bind_of_ok _ (hsymbols.trans (Prod.ext hfound rfl))
  have hkeep : ∀ s, (ForeignSymbols.keep x.host config.base
      (SymbolMatch.ofSymbols name found)).run.run s = (.ok (found.map WorkspaceSymbol.location), s) :=
    ForeignSymbols.keep_functions x.host config.base hfunctions
  have hresolve : (LocalFile.resolve x.host config.extension name document.path.parent).run.run
      ⟨t, []⟩ = (.ok none, ⟨t, []⟩) := by
    have hlooks := LocalFile.resolve_determined x (I := (· = ⟨t, []⟩)) (fun _ hs => by rw [hs])
      config.extension name document.path.parent
    exact Prod.ext hlocal (hlooks.keeps rfl)
  subst hname
  rw [lookUp, Navigation.definition, hat]
  dsimp only [Engine.navigation]
  rw [run_bind_of_ok _ hresolve, hplain, ForeignSymbols.resolve]
  simp only [Bool.false_eq_true, if_false]
  rw [run_bind_of_ok _ hsearch, Option.getD_some, hkeep]

namespace Engine

/-- The index that a valid configuration sets up for a root directory. -/
structure SetUp (m : Machine) (t : FileTree) (root : Path) (config : Config) (x : SourceIndex) :
    Prop where
  loaded : Config.load t root = .ok config
  static : config.backend = .static
  paths : config.resolveSearchPaths m.home root = .ok x.searchPaths
  workspace : x.workspace = Engine.workspace config root
  importPath : x.importPath = m.importPath

variable {m : Machine} {t : FileTree} {root : Path} {config : Config} {x : SourceIndex}

theorem start_run (h : SetUp m t root config x) (s : EngineState) :
    (start m config root).run.run s = (.ok (.sources x), { s with kept := [] }) := by
  obtain ⟨workspace, searchPaths, importPath⟩ := x
  obtain ⟨-, hstatic, hpaths, rfl, rfl⟩ := h
  unfold start
  rw [hstatic]
  exact run_bind_of_ok _ (by rw [hpaths]; exact run_ofExcept _ s)

theorem zoom_run {σ τ α : Type} (view : τ → σ) (update : τ → σ → τ) (q : Query σ α) (s : τ) :
    (q.zoom view update).run.run s =
      ((q.run.run (view s)).1, update s (q.run.run (view s)).2) := by
  unfold Query.zoom
  rw [run_get]
  exact run_ofExcept _ _

theorem definition_run (x : SourceIndex) (config : Config) {past : List FileTree} (htells : FileTree.Recallable past) (ht : t ∈ past)
    {s : EngineState} (hs : s.index.Recalls past t) (document : Document) (place : Position) :
    ∃ s', ((sources x).definition config document place).run.run s =
        (x.lookUp config t document place, s') ∧
      s'.index.Recalls past t := by
  have hdetermined := definition_determined htells ht x (navigation config) document place
  refine ⟨_, Prod.ext ?_ rfl, ?_⟩
  · rw [definition, ask, zoom_run]
    exact hdetermined.result_eq hs (IndexState.recalls_fresh past t)
  · rw [definition, ask, zoom_run]
    exact hdetermined.keeps hs

end Engine

end LozengeNav
