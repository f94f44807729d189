import LozengeNav.Proofs.Determined
import LozengeNav.Protocol.Session

/-! # The discipline of a session

What a call sends is a function of the state it is made in: a document is opened
unless it is open or cannot be read, and then the question is asked. So over a whole
session, with any replies and with files that change between the calls, a document is
opened at most once and no question about it comes before that, unless it could not be
read when the question was sent.
-/

namespace LozengeNav

def Message.opened? : Message → Option String
  | didOpen uri _ => some uri
  | _ => none

namespace Session

open Query

/-! ## Calls -/

/-- A call that is made during a session. -/
inductive Call where
  | symbols (name : String)
  | outline (uri : String)
  | prepare (uri : String) (position : Position)
  | supertypes (node : HierarchyNode)
  | jump (uri : String) (position : Position)

def Call.after (x : Session) (s : SessionState) : Call → SessionState
  | symbols name => ((x.symbols name).run.run s).2
  | outline uri => ((x.outline uri).run.run s).2
  | prepare uri position => ((x.prepare uri position).run.run s).2
  | supertypes node => ((Session.supertypes node).run.run s).2
  | jump uri position => ((x.jump uri position).run.run s).2

/-- The message that opens a document, unless it is open or cannot be read. -/
def opening (s : SessionState) (uri : String) : List Message :=
  if s.isOpen uri then [] else ((text? s uri).map (Message.didOpen uri)).toList

/-- The messages of a call in a state, in order. -/
def Call.messages (x : Session) (s : SessionState) : Call → List Message
  | symbols name => [.workspaceSymbol name]
  | outline uri => opening s uri ++ [.documentSymbol uri]
  | prepare uri position =>
      if x.hierarchy then
        opening s uri ++
          [.prepareTypeHierarchy uri (position.toUnits x.encoding (lines s uri))]
      else []
  | supertypes node => (node.handle.map Message.supertypes).toList
  | jump uri position =>
      opening s uri ++ [.definition uri (position.toUnits x.encoding (lines s uri))]

/-! ## What is sent -/

/-- A talk without a fault that sends messages, in order, and opens their documents.
It changes no files. -/
structure Sends {α : Type} (q : Talk α) (s : SessionState) (a : α) (s' : SessionState)
    (messages : List Message) : Prop where
  run : q.run.run s = (.ok a, s')
  tree : s'.tree = s.tree
  sent : s'.sent = messages.reverse ++ s.sent
  opened : s'.opened = (messages.filterMap Message.opened?).reverse ++ s.opened

section Sends

variable {α β : Type} {x : Session} {s s₁ s₂ : SessionState} {uri : String}

theorem sends_pure (a : α) (s : SessionState) : Sends (pure a) s a s [] :=
  ⟨rfl, rfl, rfl, rfl⟩

theorem Sends.bind {q : Talk α} {f : α → Talk β} {a : α} {b : β} {messages others : List Message}
    (hq : Sends q s a s₁ messages) (hf : Sends (f a) s₁ b s₂ others) :
    Sends (q >>= f) s b s₂ (messages ++ others) := by
  refine ⟨(run_bind_of_ok f hq.run).trans hf.run, hf.tree.trans hq.tree, ?_, ?_⟩
  · rw [hf.sent, hq.sent, List.reverse_append, List.append_assoc]
  · rw [hf.opened, hq.opened, List.filterMap_append, List.reverse_append, List.append_assoc]

theorem sends_look {q : Talk α} {a : α} (h : q.run.run s = (.ok a, s)) : Sends q s a s [] :=
  ⟨h, rfl, rfl, rfl⟩

theorem sends_ask {m : Message} (hm : m.opened? = none) (s : SessionState) :
    ∃ a s₁, Sends (ask m) s a s₁ [m] := by
  refine ⟨_, _, rfl, rfl, rfl, ?_⟩
  rw [List.filterMap_cons_none hm]
  rfl

theorem sends_ensureOpen (s : SessionState) (uri : String) :
    ∃ s₁, Sends (ensureOpen uri) s () s₁ (opening s uri) := by
  unfold ensureOpen opening
  by_cases hopen : s.isOpen uri = true
  · rw [if_pos hopen]
    refine ⟨s, sends_look ?_⟩
    rw [run_get, hopen]
    rfl
  · rw [if_neg hopen]
    cases htext : text? s uri with
    | none =>
        refine ⟨s, sends_look ?_⟩
        rw [run_get, htext]
        simp only [hopen]
        rfl
    | some text =>
        refine ⟨⟨s.tree, s.replies, .didOpen uri text :: s.sent, uri :: s.opened⟩, ?_, rfl, rfl, rfl⟩
        rw [run_get, htext]
        simp only [hopen]
        rfl

theorem lines_congr (h : s₁.tree = s.tree) (uri : String) : lines s₁ uri = lines s uri := by
  rw [lines, lines, text?, text?, h]

theorem sends_mapM {f : α → Talk β} {g : α → β} (h : ∀ a, (f a).run.run s = (.ok (g a), s))
    (items : List α) : Sends (items.mapM f) s (items.map g) s [] := by
  have hall : items.mapM (fun a => (.ok (g a) : Except Fault β)) = .ok (items.map g) :=
    List.mapM_pure
  exact sends_look ((run_mapM h items).trans (by rw [hall]))

theorem sends_symbols (x : Session) (name : String) (s : SessionState) :
    ∃ a s₁, Sends (x.symbols name) s a s₁ [.workspaceSymbol name] := by
  obtain ⟨answer, s₁, hask⟩ := sends_ask (m := .workspaceSymbol name) rfl s
  cases answer with
  | none => exact ⟨none, s₁, hask.bind (sends_pure none s₁)⟩
  | some d =>
      have hhits := sends_mapM (f := fun symbol : WorkspaceSymbol => do
        return { symbol with location := ← x.decode symbol.location }) (fun _ => rfl)
        (WorkspaceSymbol.ofAnswer d) (s := s₁)
      exact ⟨_, s₁, hask.bind (hhits.bind (sends_pure _ s₁))⟩

theorem sends_outline (x : Session) (uri : String) (s : SessionState) :
    ∃ a s₁, Sends (x.outline uri) s a s₁ (opening s uri ++ [.documentSymbol uri]) := by
  obtain ⟨s₁, hopen⟩ := sends_ensureOpen s uri
  obtain ⟨answer, s₂, hask⟩ := sends_ask (m := .documentSymbol uri) rfl s₁
  cases answer with
  | none => exact ⟨none, s₂, hopen.bind (hask.bind (sends_pure none s₂))⟩
  | some d => exact ⟨_, s₂, hopen.bind (hask.bind (sends_look rfl))⟩

theorem sends_encode (x : Session) (uri : String) (p : Position) (h : s₁.tree = s.tree) :
    Sends (x.encode uri p) s₁ (p.toUnits x.encoding (lines s uri)) s₁ [] := by
  refine sends_look ?_
  rw [← lines_congr h uri]
  rfl

theorem sends_prepare (x : Session) (uri : String) (p : Position) (s : SessionState) :
    ∃ a s₁, Sends (x.prepare uri p) s a s₁ ((Call.prepare uri p).messages x s) := by
  unfold prepare Call.messages
  cases x.hierarchy with
  | false => exact ⟨none, s, sends_pure none s⟩
  | true =>
      obtain ⟨s₁, hopen⟩ := sends_ensureOpen s uri
      obtain ⟨answer, s₂, hask⟩ := sends_ask
        (m := .prepareTypeHierarchy uri (p.toUnits x.encoding (lines s uri))) rfl s₁
      exact ⟨_, s₂, hopen.bind ((sends_encode x uri p hopen.tree).bind
        (hask.bind (sends_pure _ s₂)))⟩

theorem sends_supertypes (node : HierarchyNode) (s : SessionState) :
    ∃ a s₁, Sends (supertypes node) s a s₁ (node.handle.map Message.supertypes).toList := by
  unfold supertypes
  cases node.handle with
  | none => exact ⟨none, s, sends_pure none s⟩
  | some item =>
      obtain ⟨answer, s₁, hask⟩ := sends_ask (m := .supertypes item) rfl s
      exact ⟨_, s₁, hask.bind (sends_pure _ s₁)⟩

theorem sends_jump (x : Session) (uri : String) (p : Position) (s : SessionState) :
    ∃ a s₁, Sends (x.jump uri p) s a s₁ ((Call.jump uri p).messages x s) := by
  obtain ⟨s₁, hopen⟩ := sends_ensureOpen s uri
  have hencode := sends_encode x uri p hopen.tree
  obtain ⟨answer, s₂, hask⟩ := sends_ask
    (m := .definition uri (p.toUnits x.encoding (lines s uri))) rfl s₁
  cases answer with
  | none => exact ⟨none, s₂, hopen.bind (hencode.bind (hask.bind (sends_pure none s₂)))⟩
  | some d =>
      have hfound := sends_mapM (f := x.decode) (fun _ => rfl) (Location.ofDefinitions d) (s := s₂)
      exact ⟨_, s₂, hopen.bind (hencode.bind (hask.bind (hfound.bind (sends_pure _ s₂))))⟩

end Sends

theorem sends_call (x : Session) (s : SessionState) (c : Call) :
    (c.after x s).tree = s.tree ∧
      (c.after x s).sent = (c.messages x s).reverse ++ s.sent ∧
      (c.after x s).opened = ((c.messages x s).filterMap Message.opened?).reverse ++ s.opened := by
  cases c with
  | symbols name =>
      obtain ⟨_, s', h⟩ := sends_symbols x name s
      exact (show (Call.symbols name).after x s = s' from congrArg Prod.snd h.run) ▸
        ⟨h.tree, h.sent, h.opened⟩
  | outline uri =>
      obtain ⟨_, s', h⟩ := sends_outline x uri s
      exact (show (Call.outline uri).after x s = s' from congrArg Prod.snd h.run) ▸
        ⟨h.tree, h.sent, h.opened⟩
  | prepare uri position =>
      obtain ⟨_, s', h⟩ := sends_prepare x uri position s
      exact (show (Call.prepare uri position).after x s = s' from congrArg Prod.snd h.run) ▸
        ⟨h.tree, h.sent, h.opened⟩
  | supertypes node =>
      obtain ⟨_, s', h⟩ := sends_supertypes node s
      exact (show (Call.supertypes node).after x s = s' from congrArg Prod.snd h.run) ▸
        ⟨h.tree, h.sent, h.opened⟩
  | jump uri position =>
      obtain ⟨_, s', h⟩ := sends_jump x uri position s
      exact (show (Call.jump uri position).after x s = s' from congrArg Prod.snd h.run) ▸
        ⟨h.tree, h.sent, h.opened⟩

/-! ## The messages of one call -/

section Messages

variable {x : Session} {s : SessionState} {uri : String} {c : Call}

theorem mem_opening {m : Message} (h : m ∈ opening s uri) :
    s.isOpen uri = false ∧ ∃ text, text? s uri = some text ∧ m = .didOpen uri text := by
  unfold opening at h
  split at h
  · cases h
  · next hopen =>
      refine ⟨Bool.eq_false_iff.2 hopen, ?_⟩
      cases htext : text? s uri with
      | none => rw [htext] at h; cases h
      | some text =>
          rw [htext] at h
          exact ⟨text, rfl, List.mem_singleton.1 h⟩

/-- After the message that opens it, a document is open unless it cannot be read. -/
theorem opening_covers (s : SessionState) (uri : String) :
    (∃ m ∈ opening s uri, m.opened? = some uri) ∨ s.isOpen uri = true ∨ text? s uri = none := by
  unfold opening
  cases hopen : s.isOpen uri with
  | true => exact .inr (.inl rfl)
  | false =>
      cases htext : text? s uri with
      | none => exact .inr (.inr rfl)
      | some text => exact .inl ⟨.didOpen uri text, List.mem_singleton.2 rfl, rfl⟩

theorem messages_cases (x : Session) (s : SessionState) (c : Call) :
    (∀ m ∈ c.messages x s, m.opened? = none ∧ m.subject? = none) ∨
      ∃ uri last, c.messages x s = opening s uri ++ [last] ∧ last.opened? = none ∧
        last.subject? = some uri ∧
        (x.hierarchy = false → ∀ uri position, last ≠ .prepareTypeHierarchy uri position) := by
  cases c with
  | symbols name => exact .inl (List.forall_mem_singleton.2 ⟨rfl, rfl⟩)
  | outline uri => exact .inr ⟨uri, .documentSymbol uri, rfl, rfl, rfl, nofun⟩
  | prepare uri position =>
      simp only [Call.messages]
      split
      · next hx => exact .inr ⟨uri, _, rfl, rfl, rfl, fun h => by rw [hx] at h; cases h⟩
      · exact .inl nofun
  | supertypes node =>
      refine .inl fun m hm => ?_
      obtain ⟨item, -, rfl⟩ := Option.map_eq_some_iff.1 (Option.mem_toList.1 hm)
      exact ⟨rfl, rfl⟩
  | jump uri position => exact .inr ⟨uri, _, rfl, rfl, rfl, nofun⟩

theorem opens_messages (x : Session) (s : SessionState) (c : Call) :
    (c.messages x s).filterMap Message.opened? = [] ∨
      ∃ uri, (c.messages x s).filterMap Message.opened? = [uri] ∧ uri ∉ s.opened := by
  rcases messages_cases x s c with hnone | ⟨uri, last, heq, hlast, -⟩
  · exact .inl (List.filterMap_eq_nil_iff.2 fun m hm => (hnone m hm).1)
  · rw [heq, List.filterMap_append, List.filterMap_cons_none hlast, List.filterMap_nil,
      List.append_nil, opening]
    split
    · exact .inl rfl
    · next hopen =>
        cases text? s uri with
        | none => exact .inl rfl
        | some text => exact .inr ⟨uri, rfl, fun hmem => hopen (List.elem_eq_true_of_mem hmem)⟩

/-- A question about a document is asked after the document was opened, by the same
call or before, or while it could not be read. -/
theorem covered_of_messages {before after : List Message} {m : Message}
    (hsplit : c.messages x s = before ++ m :: after) (hm : m.subject? = some uri) :
    (∃ e ∈ before, e.opened? = some uri) ∨ s.isOpen uri = true ∨ text? s uri = none := by
  have hmem : m ∈ c.messages x s := hsplit ▸ List.mem_append_right _ List.mem_cons_self
  rcases messages_cases x s c with hnone | ⟨subject, last, heq, -, hlast, -⟩
  · cases (hnone m hmem).2.symm.trans hm
  · -- The openings have no subject, so that the question is the last message.
    have hafter : after = [] := by
      rcases List.eq_nil_or_concat after with rfl | ⟨init, final, rfl⟩
      · rfl
      · rw [heq, List.concat_eq_append, ← List.cons_append, ← List.append_assoc] at hsplit
        have hopening : m ∈ opening s subject :=
          (List.append_inj' hsplit rfl).1 ▸ List.mem_append_right _ List.mem_cons_self
        obtain ⟨-, text, -, rfl⟩ := mem_opening hopening
        cases hm
    rw [heq, hafter] at hsplit
    obtain ⟨rfl, hsingle⟩ := List.append_inj' hsplit rfl
    cases List.singleton_inj.1 hsingle
    cases hm.symm.trans hlast
    exact opening_covers s uri

theorem ne_prepare_of_messages (hx : x.hierarchy = false) {m : Message} (hm : m ∈ c.messages x s)
    (uri : String) (position : Position) : m ≠ .prepareTypeHierarchy uri position := by
  rcases messages_cases x s c with hnone | ⟨subject, last, heq, -, -, hlast⟩
  · rintro rfl
    cases (hnone _ hm).2
  · rcases List.mem_append.1 (heq ▸ hm) with hopening | hmem
    · obtain ⟨-, text, -, rfl⟩ := mem_opening hopening
      nofun
    · exact List.mem_singleton.1 hmem ▸ hlast hx uri position

end Messages

/-! ## Start -/

/-- Whether the answer to the first request offers a type hierarchy. -/
def OffersHierarchy (answer : Datum) : Prop :=
  ∃ capabilities provider, answer.get? "capabilities" = some capabilities ∧
    capabilities.get? "typeHierarchyProvider" = some provider ∧
    provider ≠ .null ∧ provider ≠ .bool false

theorem hierarchy_ofAnswer {answer : Datum} (h : ¬ OffersHierarchy answer) :
    (ofAnswer answer).hierarchy = false := by
  rw [ofAnswer]
  cases hcapabilities : answer.get? "capabilities" with
  | none => rfl
  | some capabilities =>
      rw [Option.getD_some]
      cases hprovider : capabilities.get? "typeHierarchyProvider" with
      | none => rfl
      | some provider =>
          by_cases hnull : provider = .null
          · rw [hnull]
          · by_cases hfalse : provider = .bool false
            · rw [hfalse]
            · exact (h ⟨capabilities, provider, hcapabilities, hprovider, hnull, hfalse⟩).elim

theorem lookup_map_of_fix {β : Type} {f : String × β → String × β} {key : String}
    (hkey : ∀ e, (f e).1 = e.1) (hfix : ∀ e, e.1 = key → f e = e) (table : List (String × β)) :
    (table.map f).lookup key = table.lookup key := by
  induction table with
  | nil => rfl
  | cons e rest ih =>
      by_cases he : e.1 = key
      · rw [List.map_cons, hfix e he, List.lookup_cons, List.lookup_cons, ih]
      · have hne : (key == e.1) = false := beq_false_of_ne (Ne.symm he)
        rw [List.map_cons, List.lookup_cons, List.lookup_cons, ih, hkey, hne]

theorem nextReply_dropReply {method other : String} (h : method ≠ other) (s : SessionState) :
    (s.dropReply method).nextReply other = s.nextReply other := by
  cases hreplies : s.replies with
  | none => rw [SessionState.nextReply, SessionState.nextReply, SessionState.dropReply, hreplies]; rfl
  | some table =>
      rw [SessionState.nextReply, SessionState.nextReply, SessionState.dropReply, hreplies]
      simp only [Option.map_some, Option.getD_some]
      have hfix : ∀ e : String × List Reply, e.1 = other →
          (e.1, if e.1 == method then e.2.drop 1 else e.2) = e := by
        intro e he
        rw [if_neg (by simpa [he] using Ne.symm h)]
      rw [lookup_map_of_fix (f := fun e : String × List Reply =>
        (e.1, if e.1 == method then e.2.drop 1 else e.2)) (fun _ => rfl) hfix]

theorem ask_run (m : Message) (s : SessionState) :
    (ask m).run.run s =
      (.ok (s.nextReply m.method).result?, (s.record m).dropReply m.method) :=
  rfl

theorem result_of_result? {reply : Reply} {answer : Datum} (h : reply.result? = some answer) :
    reply = .result answer := by
  cases reply with
  | failure reason => cases h
  | timeout => cases h
  | result d =>
      cases d with
      | null => cases h
      | _ => cases h; rfl

theorem launch_eq_ok {command : List String} {root : Path} {s s' : SessionState}
    (h : (launch command root).run.run s = (.ok (), s')) :
    s'.opened = s.opened ∧ s'.sent = .start command root :: s.sent ∧
      s'.nextReply "initialize" = s.nextReply "initialize" := by
  obtain ⟨_, s₁, htell, h⟩ := exists_of_run_bind h
  cases htell
  rw [run_get] at h
  cases hreplies : (s.record (.start command root)).replies with
  | none =>
      rw [hreplies] at h
      dsimp only at h
      split at h
      · cases h
      · obtain ⟨_, _, -, h⟩ := exists_of_run_bind h
        cases h
  | some table =>
      rw [hreplies] at h
      obtain ⟨_, s₂, hset, h⟩ := exists_of_run_bind h
      cases hset
      have hend : s' = (s.record (.start command root)).dropReply "start" := by
        split at h
        · cases h
        · exact (Prod.mk.inj h).2.symm
      rw [hend]
      exact ⟨rfl, rfl, nextReply_dropReply (by decide) _⟩

/-- A start that succeeds has agreed on what the server answered to the first request,
and nothing is open. -/
theorem start_eq_ok {command : List String} {root : Path} {s s₀ : SessionState} {x : Session}
    (h : (start command root).run.run s = (.ok x, s₀)) :
    s₀.opened = [] ∧
      ∃ uri answer, s.nextReply "initialize" = .result answer ∧ x = ofAnswer answer ∧
        s₀.sent = .introduced :: .introduce uri root.name :: .start command root :: s.sent := by
  rw [start, run_modify] at h
  obtain ⟨_, s₁, hlaunch, h⟩ := exists_of_run_bind h
  obtain ⟨hopened, hsent, hreply⟩ := launch_eq_ok hlaunch
  obtain ⟨uri, s₂, huri, h⟩ := exists_of_run_bind h
  rw [run_ofExcept] at huri
  cases (Prod.mk.inj huri).2
  obtain ⟨result, s₃, hask, h⟩ := exists_of_run_bind h
  rw [ask_run] at hask
  obtain ⟨hresult, rfl⟩ := Prod.mk.inj hask
  have hanswer : (s.nextReply "initialize").result? = result :=
    (congrArg Reply.result? hreply).symm.trans (Except.ok.inj hresult)
  cases result with
  | none =>
      obtain ⟨_, _, -, h⟩ := exists_of_run_bind h
      cases h
  | some answer =>
      obtain ⟨_, s₄, htell, h⟩ := exists_of_run_bind h
      cases htell
      cases h
      refine ⟨hopened, uri, answer, ?_, rfl, ?_⟩
      · exact result_of_result? hanswer
      · exact congrArg (fun sent => Message.introduced :: .introduce uri root.name :: sent) hsent

/-! ## Whole sessions -/

/-- Something that happens during a session. -/
inductive Event where
  | call (c : Call)
  | change (tree : FileTree)

def Event.after (x : Session) (s : SessionState) : Event → SessionState
  | call c => c.after x s
  | change tree => { s with tree := tree }

/-- What a later state has sent since, in order. -/
def since (s later : SessionState) : List Message :=
  (later.sent.take (later.sent.length - s.sent.length)).reverse

/-- What is sent in the course of events, with the files of the moment. -/
def transcript (x : Session) (s : SessionState) : List Event → List (FileTree × Message)
  | [] => []
  | event :: rest =>
      let later := event.after x s
      (since s later).map (fun m => (s.tree, m)) ++ transcript x later rest

def openings (log : List (FileTree × Message)) : List String :=
  log.filterMap fun entry => entry.2.opened?

section Transcript

variable {x : Session} {s : SessionState} {event : Event} {events : List Event}

theorem since_eq {later : SessionState} {messages : List Message}
    (h : later.sent = messages.reverse ++ s.sent) : since s later = messages := by
  rw [since, h, List.length_append, Nat.add_sub_cancel, List.take_left, List.reverse_reverse]

/-- One event sends the messages of a call, with the files of its time, and opens
what they say. -/
theorem event_cases (x : Session) (s : SessionState) (event : Event) :
    since s (event.after x s) = [] ∧ (event.after x s).opened = s.opened ∨
      ∃ c : Call, since s (event.after x s) = c.messages x s ∧
        (event.after x s).opened =
          ((c.messages x s).filterMap Message.opened?).reverse ++ s.opened := by
  cases event with
  | call c =>
      obtain ⟨-, hsent, hopened⟩ := sends_call x s c
      exact .inr ⟨c, since_eq hsent, hopened⟩
  | change tree => exact .inl ⟨since_eq rfl, rfl⟩

theorem sent_after (x : Session) (s : SessionState) (event : Event) :
    (event.after x s).sent = (since s (event.after x s)).reverse ++ s.sent := by
  cases event with
  | call c =>
      obtain ⟨-, hsent, -⟩ := sends_call x s c
      rw [Event.after, since_eq hsent, hsent]
  | change tree =>
      rw [show since s (Event.after x s (.change tree)) = [] from since_eq rfl]
      rfl

theorem openings_append (log others : List (FileTree × Message)) :
    openings (log ++ others) = openings log ++ openings others :=
  List.filterMap_append

theorem openings_at (tree : FileTree) (messages : List Message) :
    openings (messages.map fun m => (tree, m)) = messages.filterMap Message.opened? := by
  rw [openings, List.filterMap_map]
  rfl

/-- The documents that are open after an event were open or are opened by it, and no
document that is open is opened. -/
theorem event_opens (x : Session) (s : SessionState) (event : Event) :
    (∀ uri, uri ∈ (event.after x s).opened ↔
      uri ∈ (since s (event.after x s)).filterMap Message.opened? ∨ uri ∈ s.opened) ∧
    ((since s (event.after x s)).filterMap Message.opened?).Nodup ∧
    ∀ uri ∈ (since s (event.after x s)).filterMap Message.opened?, uri ∉ s.opened := by
  rcases event_cases x s event with ⟨hsince, hopened⟩ | ⟨c, hsince, hopened⟩
  · rw [hsince, hopened]
    exact ⟨fun uri => by simp, List.nodup_nil, nofun⟩
  · rw [hsince, hopened]
    refine ⟨fun uri => by rw [List.mem_append, List.mem_reverse], ?_⟩
    rcases opens_messages x s c with hnone | ⟨uri, hone, hfresh⟩
    · rw [hnone]
      exact ⟨List.nodup_nil, nofun⟩
    · rw [hone]
      exact ⟨List.pairwise_singleton _ uri, List.forall_mem_singleton.2 hfresh⟩

theorem openings_transcript (x : Session) (s : SessionState) (events : List Event) :
    (openings (transcript x s events)).Nodup ∧
      ∀ uri ∈ openings (transcript x s events), uri ∉ s.opened := by
  -- The induction is on the events; what is open at their beginning stays open.
  induction events generalizing s with
  | nil => exact ⟨List.nodup_nil, nofun⟩
  | cons event rest ih =>
      obtain ⟨hopened, hnodup, hfresh⟩ := event_opens x s event
      obtain ⟨hrest, hnew⟩ := ih (event.after x s)
      rw [transcript, openings_append, openings_at]
      refine ⟨List.nodup_append.2 ⟨hnodup, hrest, ?_⟩, fun uri huri => ?_⟩
      · rintro uri huri _ hagain rfl
        exact hnew uri hagain ((hopened uri).2 (.inl huri))
      · rcases List.mem_append.1 huri with hhere | hlater
        · exact hfresh uri hhere
        · exact fun hopen => hnew uri hlater ((hopened uri).2 (.inr hopen))

/-- An entry of two lists comes from the second behind all of the first, or from the
first. -/
theorem split_append {α : Type} {first second before after : List α} {a : α}
    (h : first ++ second = before ++ a :: after) :
    (∃ between, before = first ++ between ∧ second = between ++ a :: after) ∨
      ∃ between, first = before ++ a :: between := by
  rcases List.append_eq_append_iff.1 h with ⟨between, hbefore, hsecond⟩ | ⟨between, hfirst, hrest⟩
  · exact .inl ⟨between, hbefore, hsecond⟩
  · cases between with
    | nil => exact .inl ⟨[], by rw [hfirst, List.append_nil, List.append_nil], hrest.symm⟩
    | cons b others =>
        obtain ⟨rfl, -⟩ := List.cons.inj hrest
        exact .inr ⟨others, hfirst⟩

/-- A question of a transcript is asked after its document was opened or while it
could not be read. -/
theorem covered_transcript {before after : List (FileTree × Message)} {tree : FileTree}
    {m : Message} {uri : String}
    (hsplit : transcript x s events = before ++ (tree, m) :: after) (hm : m.subject? = some uri) :
    uri ∈ openings before ∨ uri ∈ s.opened ∨ Workspace.readText tree uri = none := by
  induction events generalizing s before with
  | nil => exact (List.append_ne_nil_of_right_ne_nil _ (List.cons_ne_nil _ _) hsplit.symm).elim
  | cons event rest ih =>
      rcases split_append hsplit with ⟨between, rfl, hrest⟩ | ⟨between, hhere⟩
      · -- The question comes from a later event.
        rw [openings_append, openings_at, List.mem_append]
        rcases ih hrest with hbefore | hopen | hread
        · exact .inl (.inr hbefore)
        · exact ((event_opens x s event).1 uri).1 hopen |>.imp .inl .inl
        · exact .inr (.inr hread)
      · obtain ⟨earlier, others, hsince, rfl, hlater⟩ := List.map_eq_append_iff.1 hhere
        obtain ⟨_, others, rfl, hentry, -⟩ := List.map_eq_cons_iff.1 hlater
        cases hentry
        rw [openings_at]
        rcases event_cases x s event with ⟨hnone, -⟩ | ⟨c, hcall, -⟩
        · exact (List.append_ne_nil_of_right_ne_nil _ (List.cons_ne_nil _ _)
            (hsince.symm.trans hnone)).elim
        · rcases covered_of_messages (hcall.symm.trans hsince) hm with ⟨e, he, huri⟩ | hopen | hread
          · exact .inl (List.mem_filterMap.2 ⟨e, he, huri⟩)
          · exact .inr (.inl (List.contains_iff_mem.1 hopen))
          · exact .inr (.inr hread)

theorem ne_prepare_of_transcript (hx : x.hierarchy = false) {entry : FileTree × Message}
    (h : entry ∈ transcript x s events) (uri : String) (position : Position) :
    entry.2 ≠ .prepareTypeHierarchy uri position := by
  induction events generalizing s with
  | nil => cases h
  | cons event rest ih =>
      rcases List.mem_append.1 h with hhere | hlater
      · obtain ⟨m, hm, rfl⟩ := List.mem_map.1 hhere
        rcases event_cases x s event with ⟨hnone, -⟩ | ⟨c, hcall, -⟩
        · rw [hnone] at hm
          cases hm
        · exact ne_prepare_of_messages hx (hcall ▸ hm) uri position
      · exact ih hlater

/-- A transcript leaves nothing out. -/
theorem sent_transcript (x : Session) (s : SessionState) (events : List Event) :
    (events.foldl (Event.after x) s).sent =
      ((transcript x s events).map Prod.snd).reverse ++ s.sent := by
  induction events generalizing s with
  | nil => rfl
  | cons event rest ih =>
      have hmessages : ((since s (event.after x s)).map fun m => (s.tree, m)).map Prod.snd =
          since s (event.after x s) := by
        rw [List.map_map]
        exact List.map_id _
      rw [List.foldl_cons, ih, transcript, sent_after, List.map_append, hmessages,
        List.reverse_append, List.append_assoc]

end Transcript

/-- A session that has been started, with any calls, any replies and any changes of
files: what it sends opens each document at most once, asks about a document only
after opening it or while it cannot be read, and asks for no type hierarchy unless
the server offered one. -/
theorem transcript_disciplined {command : List String} {root : Path} {s s₀ : SessionState}
    {x : Session} (hstart : (start command root).run.run s = (.ok x, s₀)) (events : List Event) :
    (events.foldl (Event.after x) s₀).sent =
        ((transcript x s₀ events).map Prod.snd).reverse ++ s₀.sent ∧
      (∃ uri, s₀.sent =
        .introduced :: .introduce uri root.name :: .start command root :: s.sent) ∧
      (openings (transcript x s₀ events)).Nodup ∧
      (∀ before tree m after uri, transcript x s₀ events = before ++ (tree, m) :: after →
        m.subject? = some uri →
        uri ∈ openings before ∨ Workspace.readText tree uri = none) ∧
      ∀ answer, s.nextReply "initialize" = .result answer → ¬ OffersHierarchy answer →
        (∀ entry ∈ transcript x s₀ events, ∀ uri position,
          entry.2 ≠ .prepareTypeHierarchy uri position) ∧
        ∀ now uri position, (x.prepare uri position).run.run now = (.ok none, now) := by
  obtain ⟨hopened, uri, agreed, hreply, hx, hsent⟩ := start_eq_ok hstart
  refine ⟨sent_transcript x s₀ events, ⟨uri, hsent⟩, (openings_transcript x s₀ events).1, ?_, ?_⟩
  · intro before tree m after uri hsplit hm
    have hcovered := covered_transcript hsplit hm
    rw [hopened] at hcovered
    exact hcovered.imp_right fun h => h.resolve_left List.not_mem_nil
  · intro answer hanswer hoffers
    cases hreply.symm.trans hanswer
    have hhierarchy : x.hierarchy = false := hx ▸ hierarchy_ofAnswer hoffers
    refine ⟨fun entry hentry => ne_prepare_of_transcript hhierarchy hentry, ?_⟩
    intro now uri position
    rw [prepare, hhierarchy]
    rfl

/-! ## A document that comes late -/

/-- A server that offers no type hierarchy and does not answer a second time. -/
def lateStart : SessionState where
  tree := { entries := [(["ws"], .directory)], here := [] }
  replies := some [("initialize", [.result (.table [("capabilities", .table [])])]),
    ("textDocument/definition", [.timeout])]
  sent := []
  opened := []

def lateRoot : Path :=
  ⟨.root, ["ws"]⟩

def lateSession : SessionState :=
  ((start ["server"] lateRoot).run.run lateStart).2

/-- The document is written between the first question about it and the second. -/
def lateEvents : List Event :=
  [.call (.outline "file:///ws/a.py"),
    .change { entries := [(["ws"], .directory), (["ws", "a.py"], .file [97] 1)], here := [] },
    .call (.jump "file:///ws/a.py" ⟨0, 6⟩), .call (.prepare "file:///ws/a.py" ⟨0, 6⟩),
    .call (.outline "file:///ws/a.py")]

theorem transcript_disciplined_late :
    (start ["server"] lateRoot).run.run lateStart = (.ok {}, lateSession) ∧
      ¬ OffersHierarchy (.table [("capabilities", .table [])]) ∧
      (transcript {} lateSession lateEvents).map (fun entry => entry.2.method) =
        ["textDocument/documentSymbol", "textDocument/didOpen", "textDocument/definition",
          "textDocument/documentSymbol"] ∧
      (openings (transcript {} lateSession lateEvents)).Nodup ∧
      ∀ entry ∈ transcript {} lateSession lateEvents, ∀ uri position,
        entry.2 ≠ .prepareTypeHierarchy uri position := by
  have hstart : (start ["server"] lateRoot).run.run lateStart = (.ok {}, lateSession) := rfl
  have hoffers : ¬ OffersHierarchy (.table [("capabilities", .table [])]) := by
    rintro ⟨capabilities, provider, hcapabilities, hprovider, -⟩
    cases hcapabilities
    cases hprovider
  have hreply : lateStart.nextReply "initialize" =
      .result (.table [("capabilities", .table [])]) := rfl
  obtain ⟨-, -, hopenings, -, hnone⟩ := transcript_disciplined hstart lateEvents
  exact ⟨hstart, hoffers, by decide +kernel, hopenings, (hnone _ hreply hoffers).1⟩

end Session

end LozengeNav
