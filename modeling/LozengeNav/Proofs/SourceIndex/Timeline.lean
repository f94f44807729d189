import LozengeNav.Proofs.SourceIndex.Jump
import LozengeNav.Proofs.SourceIndex.Recall

/-! # Questions between changes of files

An index is asked, files are written and removed, and it is asked again. Unless
a file has two contents with one modification time, every answer is the one that
an index without anything kept would give on the files of that moment.
-/

namespace LozengeNav

namespace SourceIndex

open Query

/-! ## Runs -/

/-- A question to an index. -/
inductive Question where
  | symbols (name : String)
  | outline (uri : String)
  | jump (uri : String) (position : Position)
  deriving DecidableEq, Repr

/-- What an index answers. -/
inductive Reply where
  | symbols (found : Option (List WorkspaceSymbol))
  | outline (found : Option (List OutlineSymbol))
  | jump (found : Option (List Location))
  deriving DecidableEq, Repr

/-- Something that happens to an index and its files. -/
inductive Event where
  | ask (question : Question)
  | write (path : Path) (content : List UInt8) (modified : Int)
  | remove (path : Path)

def Question.ask (x : SourceIndex) : Question → Lookup Reply
  | symbols name => Reply.symbols <$> x.host.workspaceSymbols name
  | outline uri => Reply.outline <$> x.host.documentOutline uri
  | jump uri position => Reply.jump <$> x.host.jumpToDefinition uri position

/-- The files after an event. A removal that fails changes nothing. -/
def Event.change (t : FileTree) : Event → FileTree
  | ask _ => t
  | write path content modified => t.write path content modified
  | remove path => (t.remove path).toOption.getD t

def trees (t : FileTree) : List Event → List FileTree
  | [] => [t]
  | event :: rest => t :: trees (event.change t) rest

/-- The replies of an index that keeps what it reads, and its state at the end. -/
def replies (x : SourceIndex) (s : IndexState) : List Event → List (Except Fault Reply) × IndexState
  | [] => ([], s)
  | .ask question :: rest =>
      let asked := (question.ask x).run.run s
      let others := x.replies asked.2 rest
      (asked.1 :: others.1, others.2)
  | event :: rest => x.replies { s with tree := event.change s.tree } rest

/-- The replies of indexes that have nothing kept. -/
def freshReplies (x : SourceIndex) (t : FileTree) : List Event → List (Except Fault Reply)
  | [] => []
  | .ask question :: rest => ((question.ask x).run.run ⟨t, []⟩).1 :: x.freshReplies t rest
  | event :: rest => x.freshReplies (event.change t) rest

/-! ## One event -/

theorem question_determined {past : List FileTree} {t : FileTree}
    (htells : FileTree.Recallable past) (ht : t ∈ past) (x : SourceIndex) (question : Question) :
    Determined (IndexState.Recalls past t) (fun _ => True) (question.ask x) := by
  cases question with
  | symbols name =>
      exact determined_map Reply.symbols <| determined_bind (Q := fun _ => True)
        (symbols_determined htells ht x name) fun _ _ => determined_pure trivial
  | outline uri => exact determined_map Reply.outline (documentOutline_determined htells ht uri)
  | jump uri position =>
      exact determined_map Reply.jump <| determined_bind (Q := fun _ => True)
        (jump_determined htells ht x uri position) fun _ _ => determined_pure trivial

theorem recalls_change {past : List FileTree} {s : IndexState} {t t' : FileTree}
    (hs : s.Recalls past t) : IndexState.Recalls past t' { s with tree := t' } :=
  ⟨rfl, hs.kept⟩

theorem linkFree_change {t : FileTree} (h : t.LinkFree) (event : Event) :
    (event.change t).LinkFree ∧ (event.change t).here = t.here := by
  cases event with
  | ask question => exact ⟨h, rfl⟩
  | write path content modified => exact h.write path content modified
  | remove path =>
      cases hremove : t.remove path with
      | ok t' =>
          rw [Event.change, hremove]
          exact h.remove hremove
      | error fault =>
          rw [Event.change, hremove]
          exact ⟨h, rfl⟩

/-! ## All events -/

theorem linkFree_of_mem_trees {t : FileTree} (h : t.LinkFree) (events : List Event) :
    ∀ t' ∈ trees t events, t'.LinkFree ∧ t'.here = t.here := by
  induction events generalizing t with
  | nil => exact List.forall_mem_singleton.2 ⟨h, rfl⟩
  | cons event rest ih =>
      obtain ⟨hchange, hhere⟩ := linkFree_change h event
      rw [trees, List.forall_mem_cons]
      refine ⟨⟨h, rfl⟩, fun t' ht' => ?_⟩
      rw [← hhere]
      exact ih hchange t' ht'

theorem replies_of_recalls {past : List FileTree} (htells : FileTree.Recallable past)
    (x : SourceIndex) {t : FileTree} {s : IndexState} (hs : s.Recalls past t) {events : List Event}
    (hpast : ∀ t' ∈ trees t events, t' ∈ past) :
    (x.replies s events).1 = x.freshReplies t events ∧
      ∃ last, (x.replies s events).2.Recalls past last := by
  -- The induction is on the events. All trees of the run count as past from the beginning, so
  -- that what is recalled from one of them stays so.
  induction events generalizing t s with
  | nil => exact ⟨rfl, t, hs⟩
  | cons event rest ih =>
      rw [trees, List.forall_mem_cons] at hpast
      obtain ⟨ht, hrest⟩ := hpast
      have hstep : ∀ event : Event, (∀ t' ∈ trees (event.change t) rest, t' ∈ past) →
          (x.replies { s with tree := event.change s.tree } rest).1 =
              x.freshReplies (event.change t) rest ∧
            ∃ last, (x.replies { s with tree := event.change s.tree } rest).2.Recalls past last := by
        intro event hrest
        rw [hs.tree]
        exact ih (recalls_change hs) hrest
      cases event with
      | ask question =>
          have hasked := question_determined htells ht x question
          have hsame := hasked.result_eq hs (IndexState.recalls_fresh past t)
          obtain ⟨hothers, hlast⟩ := ih (hasked.keeps hs) hrest
          refine ⟨?_, hlast⟩
          rw [replies, freshReplies, ← hsame, ← hothers]
      | write path content modified => exact hstep (.write path content modified) hrest
      | remove path => exact hstep (.remove path) hrest

/-- Every reply of a run is the one that an index with nothing kept would give on
the files of that moment, and all that is kept at the end is the outline of what a
file held when it was modified at the time noted with it. -/
theorem replies_eq_fresh (x : SourceIndex) (t : FileTree) (events : List Event)
    (hlinks : t.LinkFree) (hdated : FileTree.Dated (trees t events)) :
    (x.replies ⟨t, []⟩ events).1 = x.freshReplies t events ∧
      ∀ k ∈ (x.replies ⟨t, []⟩ events).2.kept, ∃ before ∈ trees t events, ∃ content,
        before.HasFile k.path content k.modified ∧
          k.outline = outlineOf (Text.Utf8.decodeLossy content) := by
  have htells := FileTree.recallable_of_dated (linkFree_of_mem_trees hlinks events) hdated
  obtain ⟨hreplies, last, hlast⟩ := replies_of_recalls htells x
    (IndexState.recalls_fresh (trees t events) t) fun _ h => h
  exact ⟨hreplies, hlast.kept⟩

/-! ## Times that come back -/

def drafted : FileTree where
  entries := [(["ws"], .directory), (["ws", "a.py"], sourceFile "class A:\n    pass\n" 1)]
  here := []

def draftPath : Path :=
  ⟨.root, ["ws", "a.py"]⟩

def outlineDraft : Event :=
  .ask (.outline "file:///ws/a.py")

def writeDraft (name : String) (modified : Int) : Event :=
  .write draftPath (("class " ++ name ++ ":\n    pass\n").toList.flatMap Text.Utf8.encodeChar)
    modified

theorem linkFree_drafted : drafted.LinkFree := by
  intro trail target hmem
  simp [drafted, sourceFile] at hmem

def draftOutline (name : String) : Reply :=
  .outline (some [⟨name, .type, ⟨⟨0, 0⟩, ⟨1, 8⟩⟩, ⟨0, 6⟩, none⟩])

/-- The module is rewritten, removed and written again. -/
theorem replies_drafted :
    drafted.LinkFree ∧
      FileTree.Dated (trees drafted [outlineDraft, writeDraft "B" 2, outlineDraft,
        .remove draftPath, outlineDraft, writeDraft "C" 3, outlineDraft]) ∧
      (rootIndex.replies ⟨drafted, []⟩ [outlineDraft, writeDraft "B" 2, outlineDraft,
        .remove draftPath, outlineDraft, writeDraft "C" 3, outlineDraft]).1 =
        [.ok (draftOutline "A"), .ok (draftOutline "B"), .ok (.outline none),
          .ok (draftOutline "C")] := by
  have hdated : FileTree.Dated (trees drafted [outlineDraft, writeDraft "B" 2, outlineDraft,
      .remove draftPath, outlineDraft, writeDraft "C" 3, outlineDraft]) :=
    FileTree.dated_of_entries (by decide +kernel)
  refine ⟨linkFree_drafted, hdated, ?_⟩
  rw [(replies_eq_fresh rootIndex drafted _ linkFree_drafted hdated).1]
  decide +kernel

/-- Every write that changes a file gives it a modification time that it never had
before. Nothing is said about writes that leave the content as it is. -/
def ChangesDated (past : List FileTree) (t : FileTree) : List Event → Prop
  | [] => True
  | .write path content modified :: rest =>
      (t.read path = .ok content ∨ ∀ before ∈ t :: past, before.modified? path ≠ some modified) ∧
        ChangesDated (t :: past) (t.write path content modified) rest
  | event :: rest => ChangesDated (t :: past) (event.change t) rest

/-- A file is changed and then, with the same content, dated back. What was kept of
it at that time is recalled, although it is not what the file holds. -/
theorem replies_dated_back :
    drafted.LinkFree ∧
      ChangesDated [] drafted [outlineDraft, writeDraft "B" 2, writeDraft "B" 1, outlineDraft] ∧
      (rootIndex.replies ⟨drafted, []⟩
        [outlineDraft, writeDraft "B" 2, writeDraft "B" 1, outlineDraft]).1 =
        [.ok (draftOutline "A"), .ok (draftOutline "A")] ∧
      rootIndex.freshReplies drafted
        [outlineDraft, writeDraft "B" 2, writeDraft "B" 1, outlineDraft] =
        [.ok (draftOutline "A"), .ok (draftOutline "B")] := by
  refine ⟨linkFree_drafted, ?_, by decide +kernel, by decide +kernel⟩
  exact ⟨.inr (by decide +kernel), .inl (by decide +kernel), trivial⟩

end SourceIndex

end LozengeNav
