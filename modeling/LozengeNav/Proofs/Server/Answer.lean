import LozengeNav.Proofs.Server.Setup

/-! # What a server answers

Whatever a server has been asked before, it answers where a position leads by the
files, the open documents and the configuration alone: the lookup is the one of an
index without anything kept, and its locations are told one by one. Only an
introduction changes whom a server attends to.
-/

namespace LozengeNav

open Query

/-- The locations that an editor is told for a position in a document. -/
def Editor.View.reply (v : Editor.View) (x : SourceIndex) (config : Config) (t : FileTree)
    (uri : String) (position : Position) : Except Fault (List Location) := do
  let (path, text) ← v.document t uri
  let found ← x.lookUp config t (.ofEditor path text)
    (position.ofUnits v.encoding (Text.wholeLines text))
  found.mapM (v.encode t)

namespace Server

variable {m : Machine} {past : List FileTree} {s : Server} {view : Editor.View} {config : Config}
  {x : SourceIndex}

theorem encode_run (h : s.view = some view) (l : Location) :
    (encode l).run.run s = (view.encode s.inner.tree l, s) := by
  rw [encode, run_bind_of_ok _ (told_run h), run_get, Editor.View.encode]
  cases hdocument : view.document s.inner.tree l.uri with
  | error fault => exact run_bind_of_error _ (run_ofExcept _ s)
  | ok found =>
      rw [run_bind_of_ok _ (run_ofExcept _ s)]
      rfl

theorem Running.setInner (h : s.Running past config x) {inner : EngineState}
    (hinner : inner.index.Recalls past s.inner.tree) : (s.setInner inner).Running past config x := by
  refine ⟨h.engine, h.config, ?_⟩
  have htree : inner.tree = s.inner.tree := hinner.tree
  rw [Server.setInner, htree]
  exact hinner

theorem Attends.setInner (h : s.Attends m past view config x) (hrunning : s.Running past config x)
    {inner : EngineState} (hinner : inner.index.Recalls past s.inner.tree) :
    (s.setInner inner).Attends m past view config x := by
  refine ⟨h.told, h.addressed, ?_, .inr (hrunning.setInner hinner)⟩
  have htree : inner.tree = s.inner.tree := hinner.tree
  have hroot : (s.setInner inner).rootFor view = s.rootFor view := by
    rw [rootFor, rootFor, Server.setInner, htree]
  rw [hroot, Server.setInner, htree]
  exact h.setUp

theorem lookUp_run (htells : FileTree.Recallable past) (ht : s.inner.tree ∈ past)
    (h : s.Attends m past view config x) (hrunning : s.Running past config x) (document : Document)
    (place : Position) :
    ∃ s', (within ((Engine.sources x).definition config document place)).run.run s =
        (x.lookUp config s.inner.tree document place, s') ∧
      s'.Attends m past view config x ∧ s'.inner.tree = s.inner.tree := by
  obtain ⟨inner, hlookup, hinner⟩ := Engine.definition_run x config htells ht hrunning.recalls
    document place
  refine ⟨s.setInner inner, ?_, h.setInner hrunning hinner, hinner.tree⟩
  rw [within, Engine.zoom_run, hlookup]

/-- A question for a definition is answered by the files, the open documents and the
configuration. -/
theorem definition_run (htells : FileTree.Recallable past) (ht : s.inner.tree ∈ past)
    (h : s.Attends m past view config x) (uri : String) (position : Position) :
    ∃ s', (definition m uri position).run.run s =
        (view.reply x config s.inner.tree uri position, s') ∧
      s'.Attends m past view config x ∧ s'.inner.tree = s.inner.tree := by
  obtain ⟨s₁, hensure, hattends, hrunning, htree⟩ := ensure_run h
  rw [← htree] at ht ⊢
  rw [definition, run_bind_of_ok _ hensure, run_bind_of_ok _ (told_run hattends.told), run_get,
    Editor.View.reply]
  cases hdocument : view.document s₁.inner.tree uri with
  | error fault => exact ⟨s₁, run_bind_of_error _ (run_ofExcept _ s₁), hattends, rfl⟩
  | ok found =>
      obtain ⟨path, text⟩ := found
      obtain ⟨s₂, hlookup, hattends₂, htree₂⟩ := lookUp_run htells ht hattends hrunning
        (Document.ofEditor path text) (position.ofUnits view.encoding (Text.wholeLines text))
      refine ⟨s₂, ?_, hattends₂, htree₂⟩
      rw [run_bind_of_ok _ (run_ofExcept _ s₁)]
      dsimp only
      rw [run_get, hrunning.config]
      simp only [bind, Except.bind]
      cases hfound : x.lookUp config s₁.inner.tree (Document.ofEditor path text)
          (position.ofUnits view.encoding (Text.wholeLines text)) with
      | error fault => exact run_bind_of_error _ (hlookup.trans (by rw [hfound]))
      | ok found =>
          have hencode := run_mapM (encode_run hattends₂.told) found
          rw [htree₂] at hencode
          exact (run_bind_of_ok _ (hlookup.trans (by rw [hfound]))).trans hencode

/-- The answer for a position: what the editor is told, or else a failure. -/
def answerOf : Except Fault (List Location) → Editor.Answer
  | .ok told => .locations told
  | .error _ => .failed

theorem answerOf_eq_failed_iff {reply : Except Fault (List Location)} :
    answerOf reply = .failed ↔ ∃ fault, reply = .error fault := by
  cases reply <;> simp [answerOf]

theorem answer_definition (htells : FileTree.Recallable past) (ht : s.inner.tree ∈ past)
    (h : s.Attends m past view config x) (uri : String) (position : Position) :
    (answer m (.definition uri position) s).1 =
        answerOf (view.reply x config s.inner.tree uri position) ∧
      (answer m (.definition uri position) s).2.Attends m past view config x ∧
      (answer m (.definition uri position) s).2.inner.tree = s.inner.tree := by
  obtain ⟨s', hrun, hattends, htree⟩ := definition_run htells ht h uri position
  rw [answer, respond]
  cases hreply : view.reply x config s.inner.tree uri position with
  | error fault =>
      rw [run_bind_of_error _ (hrun.trans (by rw [hreply]))]
      exact ⟨rfl, hattends, htree⟩
  | ok told =>
      rw [run_bind_of_ok _ (hrun.trans (by rw [hreply]))]
      exact ⟨rfl, hattends, htree⟩

/-! ## Sessions -/

/-- Something that an editor sends. -/
inductive Message where
  | ask (request : Editor.Request)
  | tell (notice : Editor.Notice)

/-- Whether an editor introduces itself, by which it names its root directory. -/
def Message.introduces : Message → Bool
  | ask (.introduce ..) => true
  | _ => false

def receive (m : Machine) (s : Server) : Message → Server
  | .ask request => (answer m request s).2
  | .tell notice => take m notice s

def session (m : Machine) (s : Server) (messages : List Message) : Server :=
  messages.foldl (receive m) s

theorem Attends.told_again (h : s.Attends m past view config x) {view' : Editor.View}
    (hsame : view.SameEditor view') (haddressed : view'.Addressed) :
    Attends m past { s with view := some view' } view' config x := by
  obtain ⟨htold, -, hsetUp, hengine⟩ := h
  refine ⟨rfl, haddressed, ?_, ?_⟩
  · have hroot : rootFor { s with view := some view' } view' = s.rootFor view := by
      rw [rootFor, rootFor, hsame.root]
    rw [hroot]
    exact hsetUp
  · rcases hengine with hnone | hrunning
    · exact .inl hnone
    · exact .inr ⟨hrunning.engine, hrunning.config, hrunning.recalls⟩

theorem attends_tell (h : s.Attends m past view config x)
    {change : Editor.View → Except Fault Editor.View}
    (hchange : ∀ view', change view = .ok view' → view.SameEditor view' ∧ view'.Addressed) :
    ∃ view', view.SameEditor view' ∧ ((tell change).run.run s).2.Attends m past view' config x ∧
      ((tell change).run.run s).2.inner.tree = s.inner.tree := by
  rw [tell, run_bind_of_ok _ (told_run h.told)]
  cases hview : change view with
  | error fault =>
      rw [run_bind_of_error _ (run_ofExcept _ s)]
      exact ⟨view, ⟨rfl, rfl⟩, h, rfl⟩
  | ok view' =>
      rw [run_bind_of_ok _ (run_ofExcept _ s)]
      obtain ⟨hsame, haddressed⟩ := hchange view' hview
      exact ⟨view', hsame, h.told_again hsame haddressed, rfl⟩

theorem attends_notice (h : s.Attends m past view config x) (n : Editor.Notice) :
    ∃ view', view.SameEditor view' ∧ ((notice m n).run.run s).2.Attends m past view' config x ∧
      ((notice m n).run.run s).2.inner.tree = s.inner.tree := by
  cases n with
  | introduced =>
      obtain ⟨s', hensure, hattends, -, htree⟩ := ensure_run h
      rw [notice, run_bind_of_ok _ hensure]
      exact ⟨view, ⟨rfl, rfl⟩, hattends, htree⟩
  | didOpen uri text =>
      exact attends_tell h fun view' hview =>
        ⟨Editor.View.sameEditor_opened hview, h.addressed.opened hview⟩
  | didChange uri changes =>
      refine attends_tell h fun view' hview => ?_
      cases hview
      exact ⟨⟨rfl, rfl⟩, h.addressed.changed uri changes⟩
  | didClose uri =>
      refine attends_tell h fun view' hview => ?_
      cases hview
      exact ⟨⟨rfl, rfl⟩, h.addressed.closed uri⟩
  | exit => exact ⟨view, ⟨rfl, rfl⟩, h, rfl⟩
  | unknown => exact ⟨view, ⟨rfl, rfl⟩, h, rfl⟩

theorem attends_receive (htells : FileTree.Recallable past) (ht : s.inner.tree ∈ past)
    (h : s.Attends m past view config x) {message : Message}
    (hmessage : message.introduces = false) :
    ∃ view', view.SameEditor view' ∧ (receive m s message).Attends m past view' config x ∧
      (receive m s message).inner.tree = s.inner.tree := by
  cases message with
  | ask request =>
      cases request with
      | introduce rootUri rootPath encodings => cases hmessage
      | definition uri position =>
          exact ⟨view, ⟨rfl, rfl⟩, (answer_definition htells ht h uri position).2⟩
      | shutdown =>
          refine ⟨view, ⟨rfl, rfl⟩, ⟨h.told, h.addressed, h.setUp, ?_⟩, rfl⟩
          exact h.engine.imp id fun hrunning => ⟨hrunning.engine, hrunning.config, hrunning.recalls⟩
      | command => exact ⟨view, ⟨rfl, rfl⟩, h, rfl⟩
      | unknown => exact ⟨view, ⟨rfl, rfl⟩, h, rfl⟩
  | tell n =>
      rw [receive, take]
      split
      · exact ⟨view, ⟨rfl, rfl⟩, h, rfl⟩
      · exact attends_notice h n

/-- Over a whole session a server attends to the editor that introduced itself, whatever it is
asked and told. -/
theorem attends_session (htells : FileTree.Recallable past) (ht : s.inner.tree ∈ past)
    (h : s.Attends m past view config x) {messages : List Message}
    (hmessages : ∀ message ∈ messages, message.introduces = false) :
    ∃ view', view.SameEditor view' ∧ (session m s messages).Attends m past view' config x ∧
      (session m s messages).inner.tree = s.inner.tree := by
  induction messages generalizing s view with
  | nil => exact ⟨view, ⟨rfl, rfl⟩, h, rfl⟩
  | cons message rest ih =>
      obtain ⟨hmessage, hrest⟩ := List.forall_mem_cons.1 hmessages
      obtain ⟨view₁, hsame₁, hattends, htree⟩ := attends_receive htells ht h hmessage
      rw [← htree] at ht ⊢
      obtain ⟨view₂, hsame₂, hlast⟩ := ih ht hattends hrest
      exact ⟨view₂, ⟨hsame₂.root.trans hsame₁.root, hsame₂.encoding.trans hsame₁.encoding⟩, hlast⟩

/-! ## A small workspace -/

def bareMachine : Machine :=
  ⟨⟨.root, ["home"]⟩, []⟩

/-- The index of a directory that has no configuration. -/
def bareIndex : SourceIndex :=
  ⟨Engine.workspace {} ⟨.root, ["ws"]⟩, [], []⟩

def introduced (t : FileTree) : Server :=
  (answer bareMachine (.introduce (some "file:///ws") none none) (fresh none (.fresh t none))).2

end Server

end LozengeNav
