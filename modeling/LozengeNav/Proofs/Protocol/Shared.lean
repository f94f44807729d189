import LozengeNav.Proofs.Protocol.Discipline

/-! # The text that both ends of a session have

A document is sent to the server when it is opened, once in a session, but places in it
are converted by the text that its file has at the time of each call. The two ends have
one text as long as the file says what it said when the document was opened, and no longer.
-/

namespace LozengeNav

def Message.textOf? (uri : String) : Message → Option String
  | didOpen other text => if other = uri then some text else none
  | _ => none

namespace Session

open Query

/-! ## What the server was sent -/

/-- The text that a transcript last sends for a document. -/
def lastSent? (uri : String) (log : List (FileTree × Message)) : Option String :=
  log.reverse.findSome? fun entry => entry.2.textOf? uri

def Call.subject? (x : Session) : Call → Option String
  | symbols _ => none
  | outline uri => some uri
  | prepare uri _ => if x.hierarchy then some uri else none
  | supertypes _ => none
  | jump uri _ => some uri

/-- The text that a document has at the first question about it at which it can be read. -/
def firstRead? (x : Session) (uri : String) (tree : FileTree) : List Event → Option String
  | [] => none
  | .change later :: rest => firstRead? x uri later rest
  | .call c :: rest =>
      (if c.subject? x = some uri then Workspace.readText tree uri else none).or
        (firstRead? x uri tree rest)

section Sent

variable {x : Session} {s : SessionState} {uri : String}

theorem lastSent?_append (uri : String) (log others : List (FileTree × Message)) :
    lastSent? uri (log ++ others) = (lastSent? uri others).or (lastSent? uri log) := by
  rw [lastSent?, List.reverse_append, List.findSome?_append]
  rfl

theorem textOf?_eq_none_iff {m : Message} : m.textOf? uri = none ↔ m.opened? ≠ some uri := by
  cases m with
  | didOpen other text => simp [Message.textOf?, Message.opened?]
  | _ => simp [Message.textOf?, Message.opened?]

theorem lastSent?_eq_none_iff {log : List (FileTree × Message)} :
    lastSent? uri log = none ↔ uri ∉ openings log := by
  simp only [lastSent?, List.findSome?_eq_none_iff, List.mem_reverse, textOf?_eq_none_iff, openings,
    List.mem_filterMap, not_exists, not_and]

theorem lastSent?_opening (s : SessionState) (other : String) :
    lastSent? uri ((opening s other).map fun m => (s.tree, m)) =
      if s.isOpen other = false ∧ other = uri then text? s uri else none := by
  unfold opening
  cases hopen : s.isOpen other with
  | true => rfl
  | false =>
      by_cases hsame : other = uri
      · subst hsame
        cases text? s other <;> simp [lastSent?, Message.textOf?]
      · cases text? s other <;> simp [lastSent?, Message.textOf?, hsame]

/-- A call that asks about a document opens it before, and one that does not opens
nothing. -/
theorem messages_of_subject? (x : Session) (s : SessionState) (c : Call) :
    (c.subject? x = none ∧ ∀ m ∈ c.messages x s, m.opened? = none) ∨
      ∃ uri last, c.subject? x = some uri ∧ c.messages x s = opening s uri ++ [last] ∧
        last.opened? = none := by
  cases c with
  | symbols name => exact .inl ⟨rfl, List.forall_mem_singleton.2 rfl⟩
  | outline uri => exact .inr ⟨uri, _, rfl, rfl, rfl⟩
  | prepare uri position =>
      rw [Call.subject?, Call.messages]
      cases x.hierarchy with
      | false => exact .inl ⟨rfl, List.forall_mem_nil _⟩
      | true => exact .inr ⟨uri, _, rfl, rfl, rfl⟩
  | supertypes node =>
      refine .inl ⟨rfl, fun m hm => ?_⟩
      obtain ⟨item, -, rfl⟩ := Option.map_eq_some_iff.1 (Option.mem_toList.1 hm)
      rfl
  | jump uri position => exact .inr ⟨uri, _, rfl, rfl, rfl⟩

/-- A call sends the text of a document that is not open if it asks about it and the
document can be read. -/
theorem lastSent?_messages (x : Session) (s : SessionState) (c : Call)
    (hopen : s.isOpen uri = false) :
    lastSent? uri ((c.messages x s).map fun m => (s.tree, m)) =
      if c.subject? x = some uri then text? s uri else none := by
  rcases messages_of_subject? x s c with ⟨hnone, hmessages⟩ | ⟨other, last, hother, heq, hlast⟩
  · rw [hnone, lastSent?_eq_none_iff.2]
    · rfl
    · rw [openings_at, List.filterMap_eq_nil_iff.2 hmessages]
      exact List.not_mem_nil
  · have hquestion : lastSent? uri [(s.tree, last)] = none :=
      lastSent?_eq_none_iff.2 (by simp [openings, hlast])
    rw [heq, List.map_append, lastSent?_append, List.map_singleton, hquestion, Option.none_or,
      lastSent?_opening, hother]
    by_cases hsame : other = uri
    · rw [hsame]
      simp [hopen]
    · simp [hsame]

/-- An event sends a text for a document that is not open where it reads the first one. -/
theorem firstRead?_cons (x : Session) (s : SessionState) (event : Event) (rest : List Event)
    (hopen : s.isOpen uri = false) :
    firstRead? x uri s.tree (event :: rest) =
      (lastSent? uri ((since s (event.after x s)).map fun m => (s.tree, m))).or
        (firstRead? x uri (event.after x s).tree rest) := by
  cases event with
  | change tree =>
      have hsince : since s (Event.after x s (.change tree)) = [] := since_eq rfl
      rw [hsince]
      rfl
  | call c =>
      obtain ⟨htree, hsent, -⟩ := sends_call x s c
      have hsince : since s (Event.after x s (.call c)) = c.messages x s := since_eq hsent
      have hafter : (Event.after x s (.call c)).tree = s.tree := htree
      rw [hsince, hafter, lastSent?_messages x s c hopen, firstRead?]
      rfl

theorem lastSent?_transcript (x : Session) (s : SessionState) (events : List Event)
    (hopen : s.isOpen uri = false) :
    lastSent? uri (transcript x s events) = firstRead? x uri s.tree events := by
  -- The induction is on the events. A document is sent with the first text that can be read,
  -- and as it is open from then on, never again.
  induction events generalizing s with
  | nil => rfl
  | cons event rest ih =>
      have hopens := (event_opens x s event).1 uri
      have hclosed : uri ∉ s.opened := fun hmem => by
        rw [SessionState.isOpen, List.contains_iff_mem.2 hmem] at hopen
        cases hopen
      rw [transcript, lastSent?_append, firstRead?_cons x s event rest hopen]
      cases hhere : lastSent? uri ((since s (event.after x s)).map fun m => (s.tree, m)) with
      | none =>
          have hnot : uri ∉ (since s (event.after x s)).filterMap Message.opened? := by
            rw [← openings_at s.tree]
            exact lastSent?_eq_none_iff.1 hhere
          have hafter : (event.after x s).isOpen uri = false := by
            rw [SessionState.isOpen, Bool.eq_false_iff, ne_eq, List.contains_iff_mem, hopens]
            exact fun h => h.elim hnot hclosed
          rw [ih _ hafter, Option.or_none, Option.none_or]
      | some text =>
          have hmem : uri ∈ (event.after x s).opened := by
            rw [hopens, ← openings_at s.tree]
            refine .inl (Classical.byContradiction fun hnot => ?_)
            rw [lastSent?_eq_none_iff.2 hnot] at hhere
            cases hhere
          have hlater : uri ∉ openings (transcript x (event.after x s) rest) :=
            fun hagain => (openings_transcript x (event.after x s) rest).2 uri hagain hmem
          rw [lastSent?_eq_none_iff.2 hlater, Option.none_or, Option.some_or]

theorem firstRead?_concat (x : Session) (s : SessionState) (events : List Event) (c : Call)
    (hc : c.subject? x = some uri) :
    firstRead? x uri s.tree (events ++ [.call c]) =
      (firstRead? x uri s.tree events).or (text? (events.foldl (Event.after x) s) uri) := by
  induction events generalizing s with
  | nil =>
      simp only [List.nil_append, firstRead?, if_pos hc, Option.or_none, Option.none_or]
      rfl
  | cons event rest ih =>
      have hrest := ih (event.after x s)
      cases event with
      | change tree => exact hrest
      | call earlier =>
          have htree : (Event.after x s (.call earlier)).tree = s.tree := (sends_call x s earlier).1
          rw [htree] at hrest
          rw [List.cons_append, firstRead?, firstRead?, hrest, Option.or_assoc]
          rfl

end Sent

/-! ## How places are converted -/

def linesOf (text : String) : List (List Char) :=
  Text.wholeLines text.toList

/-- A symbol whose places are those of a server, in a document with some lines. -/
def placed (e : Text.Encoding) (lines : List (List Char)) (o : OutlineSymbol) : OutlineSymbol :=
  { o with span := o.span.ofUnits e lines, selection := o.selection.ofUnits e lines }

/-- A call that converts all places in a document by one text: the place that it sends and
those that the server answers. -/
inductive Call.Converts (x : Session) (s : SessionState) (uri text : String) : Call → Prop where
  | outline
      (hsent : since s ((Call.outline uri).after x s) = opening s uri ++ [.documentSymbol uri])
      (hanswer : ((x.outline uri).run.run s).1 =
        .ok ((s.nextReply "textDocument/documentSymbol").result?.map fun d =>
          (OutlineSymbol.ofAnswer d).map (placed x.encoding (linesOf text)))) :
      Converts x s uri text (.outline uri)
  | prepare {p : Position}
      (hsent : since s ((Call.prepare uri p).after x s) =
        opening s uri ++ [.prepareTypeHierarchy uri (p.toUnits x.encoding (linesOf text))]) :
      Converts x s uri text (.prepare uri p)
  | jump {p : Position}
      (hsent : since s ((Call.jump uri p).after x s) =
        opening s uri ++ [.definition uri (p.toUnits x.encoding (linesOf text))])
      (hanswer : ((x.jump uri p).run.run s).1 =
        .ok ((s.nextReply "textDocument/definition").result?.map fun d =>
          (Location.ofDefinitions d).map fun l =>
            ⟨l.uri, l.span.ofUnits x.encoding (if l.uri = uri then linesOf text else lines s l.uri)⟩)) :
      Converts x s uri text (.jump uri p)

section Converts

variable {x : Session} {s : SessionState} {uri : String}

theorem ensureOpen_run (s : SessionState) (uri : String) :
    ∃ s₁, (ensureOpen uri).run.run s = (.ok (), s₁) ∧ s₁.tree = s.tree ∧
      s₁.replies = s.replies := by
  unfold ensureOpen
  rw [run_get]
  cases hopen : s.isOpen uri with
  | true => exact ⟨s, rfl, rfl, rfl⟩
  | false =>
      cases htext : text? s uri with
      | none => exact ⟨s, rfl, rfl, rfl⟩
      | some text =>
          exact ⟨⟨s.tree, s.replies, .didOpen uri text :: s.sent, uri :: s.opened⟩, rfl, rfl, rfl⟩

theorem nextReply_congr {s₁ : SessionState} (h : s₁.replies = s.replies) (method : String) :
    s₁.nextReply method = s.nextReply method := by
  rw [SessionState.nextReply, SessionState.nextReply, h]

theorem outline_answer (x : Session) (s : SessionState) (uri : String) :
    ((x.outline uri).run.run s).1 =
      .ok ((s.nextReply "textDocument/documentSymbol").result?.map fun d =>
        (OutlineSymbol.ofAnswer d).map (placed x.encoding (lines s uri))) := by
  obtain ⟨s₁, hopen, htree, hreplies⟩ := ensureOpen_run s uri
  rw [Session.outline, run_bind_of_ok _ hopen, run_bind_of_ok _ (ask_run _ _),
    show Message.method (.documentSymbol uri) = "textDocument/documentSymbol" from rfl,
    nextReply_congr hreplies]
  cases (s.nextReply "textDocument/documentSymbol").result? with
  | none => rfl
  | some d =>
      rw [← lines_congr htree uri]
      rfl

theorem jump_answer (x : Session) (s : SessionState) (uri : String) (p : Position) :
    ((x.jump uri p).run.run s).1 =
      .ok ((s.nextReply "textDocument/definition").result?.map fun d =>
        (Location.ofDefinitions d).map fun l => ⟨l.uri, l.span.ofUnits x.encoding (lines s l.uri)⟩) := by
  obtain ⟨s₁, hopen, htree, hreplies⟩ := ensureOpen_run s uri
  have hencode := (sends_encode x uri p htree).run
  rw [Session.jump, run_bind_of_ok _ hopen, run_bind_of_ok _ hencode, run_bind_of_ok _ (ask_run _ _),
    show Message.method (.definition uri _) = "textDocument/definition" from rfl,
    nextReply_congr hreplies]
  cases (s.nextReply "textDocument/definition").result? with
  | none => rfl
  | some d =>
      have hfound := (sends_mapM (f := x.decode)
        (g := fun l => ⟨l.uri, l.span.ofUnits x.encoding (lines s l.uri)⟩)
        (s := (s₁.record (.definition uri (p.toUnits x.encoding (lines s uri)))).dropReply
          "textDocument/definition") (fun l => by rw [← lines_congr htree l.uri]; rfl)
        (Location.ofDefinitions d)).run
      exact congrArg Prod.fst (run_bind_of_ok _ hfound)

/-- A call that asks about a document converts its places by the text that it has then. -/
theorem converts_of_subject? {c : Call} (s : SessionState) (hc : c.subject? x = some uri) :
    c.Converts x s uri ((text? s uri).getD "") := by
  have hsent : ∀ c : Call, since s (c.after x s) = c.messages x s := fun c =>
    since_eq (sends_call x s c).2.1
  cases c with
  | symbols name => cases hc
  | outline other =>
      cases hc
      exact .outline (hsent _) (outline_answer x s uri)
  | prepare other p =>
      rw [Call.subject?] at hc
      split at hc
      · next hhierarchy =>
          cases hc
          refine .prepare ((hsent _).trans ?_)
          rw [Call.messages, if_pos hhierarchy]
          rfl
      · cases hc
  | supertypes node => cases hc
  | jump other p =>
      cases hc
      refine .jump (hsent _) ((jump_answer x s uri p).trans ?_)
      have hlines : ∀ l : Location, lines s l.uri =
          if l.uri = uri then linesOf ((text? s uri).getD "") else lines s l.uri := by
        intro l
        split
        · next hsame => rw [hsame]; rfl
        · rfl
      simp only [← hlines]

end Converts

/-- A call about a document in the course of a session converts its places by the text
that its file has at that moment. The server was last sent the text of the first question
at which the document could be read. So both ends have one text if the file says now what
it said then, or, when it could not be read before, if it can be read now. -/
theorem shared_iff_unchanged {command : List String} {root : Path} {s s₀ : SessionState}
    {x : Session} (hstart : (start command root).run.run s = (.ok x, s₀)) (events : List Event)
    {c : Call} {uri : String} (hc : c.subject? x = some uri) {now : SessionState}
    (hnow : now = events.foldl (Event.after x) s₀) :
    c.Converts x now uri ((text? now uri).getD "") ∧
      (∀ first, firstRead? x uri s₀.tree events = some first →
        (lastSent? uri (transcript x s₀ (events ++ [.call c])) = some ((text? now uri).getD "") ↔
          (text? now uri).getD "" = first)) ∧
      (firstRead? x uri s₀.tree events = none →
        (lastSent? uri (transcript x s₀ (events ++ [.call c])) = some ((text? now uri).getD "") ↔
          text? now uri ≠ none)) := by
  obtain ⟨hopened, -⟩ := start_eq_ok hstart
  have hclosed : s₀.isOpen uri = false := by
    rw [SessionState.isOpen, hopened]
    rfl
  have hsent : lastSent? uri (transcript x s₀ (events ++ [.call c])) =
      (firstRead? x uri s₀.tree events).or (text? now uri) := by
    rw [lastSent?_transcript x s₀ _ hclosed, firstRead?_concat x s₀ events c hc, hnow]
  refine ⟨converts_of_subject? now hc, ?_, ?_⟩
  · intro first hfirst
    rw [hsent, hfirst, Option.some_or, Option.some.injEq, eq_comm]
  · intro hfirst
    rw [hsent, hfirst, Option.none_or]
    cases text? now uri <;> simp

/-! ## A document that is edited -/

def draftText : String :=
  "class A(Context): greet = print\n\nclass B:\n    pass\n"

def editedText : String :=
  "class A(Context): greet = print\n"

def toolsUri : String :=
  "file:///ws/tools.py"

def toolsTree (text : String) : FileTree where
  entries := [(["ws"], .directory), (["ws", "tools.py"], .file (Text.Utf8.encode text.toList) 1)]
  here := []

def draftAnswer : Datum :=
  .list [
    .table [("name", .text "A"), ("kind", .int 5), ("range", Span.data ⟨⟨0, 0⟩, ⟨0, 31⟩⟩),
      ("selectionRange", Span.data ⟨⟨0, 6⟩, ⟨0, 7⟩⟩)],
    .table [("name", .text "B"), ("kind", .int 5), ("range", Span.data ⟨⟨2, 0⟩, ⟨3, 8⟩⟩),
      ("selectionRange", Span.data ⟨⟨2, 6⟩, ⟨2, 7⟩⟩)]]

def editStart : SessionState where
  tree := toolsTree draftText
  replies := some [("initialize", [.result (.table [("capabilities", .table [])])]),
    ("textDocument/documentSymbol", [.result draftAnswer, .result draftAnswer])]
  sent := []
  opened := []

def editSession : SessionState :=
  ((start ["server"] lateRoot).run.run editStart).2

theorem editSession_started :
    (start ["server"] lateRoot).run.run editStart = (.ok {}, editSession) :=
  rfl

def editEvents : List Event :=
  [.call (.outline toolsUri), .change (toolsTree editedText)]

def edited : SessionState :=
  editEvents.foldl (Event.after {}) editSession

theorem text?_edited : text? edited toolsUri = some editedText := by
  decide +kernel

/-- Both ends have one text for the first question and two for the second. -/
theorem shared_iff_unchanged_tools :
    firstRead? {} toolsUri editSession.tree editEvents = some draftText ∧
      lastSent? toolsUri (transcript {} editSession ([] ++ [.call (.outline toolsUri)])) =
        some draftText ∧
      lastSent? toolsUri (transcript {} editSession (editEvents ++ [.call (.outline toolsUri)])) ≠
        some editedText := by
  have hfirst : firstRead? {} toolsUri editSession.tree editEvents = some draftText := by
    decide +kernel
  have hdraft : text? editSession toolsUri = some draftText := by decide +kernel
  have hbefore := (shared_iff_unchanged editSession_started [] (c := .outline toolsUri) rfl rfl).2.2 rfl
  have hedited : edited = editEvents.foldl (Event.after {}) editSession := rfl
  have hafter := (shared_iff_unchanged editSession_started editEvents (c := .outline toolsUri) rfl
    hedited).2.1 draftText hfirst
  rw [List.foldl_nil, hdraft] at hbefore
  rw [text?_edited] at hafter
  exact ⟨hfirst, hbefore.2 nofun, fun hsame => absurd (hafter.1 hsame) (by decide)⟩

/-- After an edit that removes a class both ends have different texts: the server has the
draft, and its answer is converted by the edited text, in which the class comes to stand on
the line of the other one. -/
theorem text_not_shared_after_edit :
    (start ["server"] lateRoot).run.run editStart = (.ok {}, editSession) ∧
      (Call.outline toolsUri).Converts {} edited toolsUri editedText ∧
      lastSent? toolsUri (transcript {} editSession (editEvents ++ [.call (.outline toolsUri)])) ≠
        some editedText ∧
      (((outline {} toolsUri).run.run edited).1.toOption.join.map fun symbols =>
        symbols.map fun o => (o.name, o.span.start.line)) = some [("A", 0), ("B", 0)] := by
  have hconverts := converts_of_subject? (x := {}) edited (c := .outline toolsUri) rfl
  rw [text?_edited] at hconverts
  exact ⟨editSession_started, hconverts, by decide +kernel, by decide +kernel⟩

end Session

end LozengeNav
