import LozengeNav.Definition
import LozengeNav.Proofs.Definition.Files
import LozengeNav.Proofs.Definition.Functions

/-! # The stages of a lookup

A lookup reads the reference under the cursor, searches for its file and turns to
the functions only if there is no file and the name has no dots. What it answers
and every call it makes follow from the tables of the world alone.
-/

namespace LozengeNav

namespace World

/-- What a lookup answers, and the calls it makes, in order. -/
def staged (w : World) (nav : Navigation) (document : Document) (position : Position) :
    List Location × List Call :=
  match Reference.at? (document.line position.line) position.column with
  | none => ([], [])
  | some reference =>
      let name := String.ofList reference.name
      let questions := probes document.path.parent nav.extension name
      match w.firstHit? questions with
      | some uri => ([.fileStart uri], w.callsToHit questions)
      | none =>
          if reference.isDotted then ([], w.callsToHit questions)
          else (w.functionsOf nav.base name,
            w.callsToHit questions ++ w.callsForFunctions nav.base name)

theorem definition_runsTo (w : World) (nav : Navigation) (document : Document)
    (hpath : document.path.WellFormed) (hanchor : document.path.anchor ≠ .share)
    (position : Position) (s : List Call) :
    RunsTo (nav.definition w.host document position) s (w.staged nav document position).1
      (s ++ (w.staged nav document position).2) := by
  unfold Navigation.definition staged
  cases hat : Reference.at? (document.line position.line) position.column with
  | none =>
      rw [List.append_nil]
      exact Runs.pure [] s
  | some reference =>
      have hname : Reference.Begins (String.ofList reference.name).toList := by
        rw [String.toList_ofList]
        exact Reference.begins_of_at? hat
      have hfile := w.resolveFile_runsTo nav.extension (Path.wellFormed_parent hpath) hanchor hname s
      refine Runs.bind hfile ?_
      cases hhit : w.firstHit? (probes document.path.parent nav.extension
          (String.ofList reference.name)) with
      | some uri =>
          simp only [hhit]
          exact Runs.pure _ _
      | none =>
          cases hdotted : reference.isDotted with
          | true =>
              simp only [hhit, hdotted, if_true]
              exact Runs.pure [] _
          | false =>
              simp only [hhit, hdotted, Bool.false_eq_true, if_false]
              rw [← List.append_assoc]
              exact w.resolveFunctions_runsTo nav.base _ _

/-- A lookup from a document on a local path always answers, and its answer and
calls are those of the stages. -/
theorem definition_eq_staged (w : World) (nav : Navigation) (path : String)
    (lines : List (List Char)) (position : Position)
    (hpath : ¬ ['/', '/'] <+: (Path.ofString path).toString.toList) :
    ask (nav.definition w.host ⟨.ofString path, lines⟩ position) =
      (.ok (w.staged nav ⟨.ofString path, lines⟩ position).1,
        (w.staged nav ⟨.ofString path, lines⟩ position).2) := by
  have hrun := w.definition_runsTo nav ⟨.ofString path, lines⟩
    (Path.wellFormed_ofString path) (Path.not_share_of_not_prefix hpath) position []
  obtain ⟨hask, hcalls⟩ := ask_of_runsTo hrun
  rw [hask, ← List.nil_append (ask _).2, ← hcalls, List.nil_append]

/-- A workspace without a file for a name, whose index knows a method of that
name in a class that lists the base class as its supertype. -/
def gallery : World where
  globs := [("**/_card.page", ["file:///ws/parts/_card.page"])]
  symbols := [("greet", some
    [⟨"greet", .method, ⟨"file:///ws/views.py", ⟨⟨2, 8⟩, ⟨2, 13⟩⟩⟩, some "View"⟩,
     ⟨"greet", .function, ⟨"file:///ws/tools.py", ⟨⟨0, 4⟩, ⟨0, 9⟩⟩⟩, none⟩,
     ⟨"greet", .type, ⟨"file:///ws/tools.py", ⟨⟨4, 6⟩, ⟨4, 11⟩⟩⟩, none⟩])]
  outlines := [("file:///ws/views.py", some
    [⟨"View", .type, ⟨⟨1, 0⟩, ⟨3, 8⟩⟩, ⟨1, 6⟩, none⟩])]
  hierarchy := [(("file:///ws/views.py", ⟨1, 6⟩), some [("file:///ws/views.py", "View")])]
  supertypes := [(("file:///ws/views.py", "View"),
    some [("file:///lib/appeldryck/core.py", "Context")])]

theorem definition_gallery :
    ¬ ['/', '/'] <+: (Path.ofString "/ws/site/index.page").toString.toList ∧
      ask (Navigation.definition ⟨{}, "page"⟩ gallery.host
        ⟨.ofString "/ws/site/index.page", ["Say ◊greet: Ada".toList]⟩ ⟨0, 6⟩) =
      (.ok [⟨"file:///ws/views.py", ⟨⟨2, 8⟩, ⟨2, 13⟩⟩⟩, ⟨"file:///ws/tools.py", ⟨⟨0, 4⟩, ⟨0, 9⟩⟩⟩],
       [.fileExists "/ws/site/greet.page", .fileExists "/ws/site/_greet.page",
        .fileExists "/ws/greet.page", .fileExists "/ws/_greet.page",
        .findFiles "**/greet.page" 1, .findFiles "**/_greet.page" 1,
        .workspaceSymbols "greet", .documentOutline "file:///ws/views.py",
        .prepareTypeHierarchy "file:///ws/views.py" ⟨1, 6⟩,
        .supertypes "file:///ws/views.py" "View"]) := by
  have hpath : ¬ ['/', '/'] <+: (Path.ofString "/ws/site/index.page").toString.toList := by
    decide +kernel
  refine ⟨hpath, ?_⟩
  rw [definition_eq_staged gallery ⟨{}, "page"⟩ "/ws/site/index.page" _ _ hpath]
  decide +kernel

end World

end LozengeNav
