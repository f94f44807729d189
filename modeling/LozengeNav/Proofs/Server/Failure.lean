import LozengeNav.Proofs.Config
import LozengeNav.Proofs.Server.Answer

/-! # Answers that fail

A position in an open document is answered by locations or by none, unless the
lookup ends with a fault or leads into a document that is not at hand. Lookups
lead into files, but to tell a location takes the text of its document: a file
that is not open in the editor has to be UTF-8, which no lookup asks for.
-/

namespace LozengeNav

namespace Server

variable {m : Machine} {past : List FileTree} {s : Server} {view : Editor.View} {config : Config}
  {x : SourceIndex}

/-- Where the lookup for a position in an open document leads. -/
def lookUpIn (view : Editor.View) (x : SourceIndex) (config : Config) (t : FileTree)
    (path : List Char) (text : List Char) (position : Position) : Except Fault (List Location) :=
  x.lookUp config t (.ofEditor (.ofString (String.ofList path)) text)
    (position.ofUnits view.encoding (Text.wholeLines text))

theorem reply_of_open {view : Editor.View} {t : FileTree} {uri : String} {path text : List Char}
    (hopen : view.open? uri = some text) (hpath : Uri.anyPath uri.toList = .ok path)
    (position : Position) :
    view.reply x config t uri position =
      lookUpIn view x config t path text position >>= fun found => found.mapM (view.encode t) := by
  rw [Editor.View.reply, Editor.View.document, hpath, hopen]
  rfl

/-- Told locations are told one by one, and one whose document is not at hand spoils
the answer. -/
theorem reply_fault_iff (x : SourceIndex) (config : Config) (t : FileTree) {view : Editor.View}
    {uri : String} {path text : List Char}
    (hopen : view.open? uri = some text) (hpath : Uri.anyPath uri.toList = .ok path)
    (position : Position) :
    (∃ fault, view.reply x config t uri position = .error fault) ↔
      (∃ fault, lookUpIn view x config t path text position = .error fault) ∨
        ∃ found, lookUpIn view x config t path text position = .ok found ∧
          ∃ l ∈ found, ¬ view.Reads t l.uri := by
  rw [reply_of_open hopen hpath]
  cases hfound : lookUpIn view x config t path text position with
  | error fault => simp [bind, Except.bind]
  | ok found =>
      simpa only [bind, Except.bind, reduceCtorEq, exists_false, false_or, Except.ok.injEq,
        exists_eq_left', Editor.View.encode_fault_iff] using
        Fault.mapM_fault_iff (f := view.encode t) found

/-- In a whole session, a position in an open document is answered by locations or a
failure. It fails if and only if the lookup ends with a fault or has a location whose
document is not at hand. Every location is in a file that is there; from a plain
document in a plain workspace, its document is not at hand if and only if it is not
open and the file is not UTF-8. -/
theorem definition_failed_iff (htells : FileTree.Recallable past) (ht : s.inner.tree ∈ past)
    (h : s.Attends m past view config x) {messages : List Message}
    (hmessages : ∀ message ∈ messages, message.introduces = false) :
    ∃ view', (session m s messages).view = some view' ∧
      ∀ uri text position, view'.open? uri = some text →
        ∃ path, Uri.anyPath uri.toList = .ok path ∧
          ((∃ told, (answer m (.definition uri position) (session m s messages)).1 =
                .locations told) ∨
            (answer m (.definition uri position) (session m s messages)).1 = .failed) ∧
          ((answer m (.definition uri position) (session m s messages)).1 = .failed ↔
            (∃ fault, lookUpIn view' x config s.inner.tree path text position = .error fault) ∨
              ∃ found, lookUpIn view' x config s.inner.tree path text position = .ok found ∧
                ∃ l ∈ found, ¬ view'.Reads s.inner.tree l.uri) ∧
          ∀ found, lookUpIn view' x config s.inner.tree path text position = .ok found →
            ∀ l ∈ found, ∃ p content modified,
              s.inner.tree.HasFile p content modified ∧ p.toUri = .ok l.uri ∧
                ((Path.ofString (String.ofList path)).Plain → x.PlainIn s.inner.tree →
                  (¬ view'.Reads s.inner.tree l.uri ↔
                    view'.open? l.uri = none ∧ Text.Utf8.decode? content = none)) := by
  obtain ⟨view', -, hattends, htree⟩ := attends_session htells ht h hmessages
  refine ⟨view', hattends.told, fun uri text position hopen => ?_⟩
  obtain ⟨path, hpath⟩ := hattends.addressed.anyPath hopen
  have htree' := ht
  rw [← htree] at htree'
  obtain ⟨hanswer, -, -⟩ := answer_definition htells htree' hattends uri position
  rw [htree] at hanswer
  have hfault := reply_fault_iff x config s.inner.tree hopen hpath position
  refine ⟨path, hpath, ?_, ?_, ?_⟩
  · rw [hanswer]
    cases view'.reply x config s.inner.tree uri position with
    | ok told => exact .inl ⟨told, rfl⟩
    | error fault => exact .inr rfl
  · rw [← hfault, hanswer, answerOf_eq_failed_iff]
  · intro found hfound l hl
    obtain ⟨near, p, htarget, hplain⟩ := exists_target_of_lookUp htells ht hfound hl
    obtain ⟨content, modified, hfile⟩ := FileTree.exists_hasFile_of_isFile htarget.file
    refine ⟨p, content, modified, hfile, htarget.uri, fun hdocument hx => ?_⟩
    have hp := hplain hdocument hx (Config.slash_not_mem_of_load h.setUp.loaded)
    exact Editor.View.not_reads_iff hp (hfile.parts_ne_nil hp.root) htarget.uri hfile

/-! ## A file that is no text -/

/-- A document that is text and one that is not. -/
def halfText : FileTree where
  entries :=
    [(["ws"], .directory), (["ws", "greet.dryck"], .file [0xFF] 1),
     (["ws", "plain.dryck"], .file [0x68, 0x69] 2)]
  here := []

theorem attends_halfText :
    (introduced halfText).Attends bareMachine [halfText] ⟨"/ws", .utf16, []⟩ {} bareIndex :=
  ⟨rfl, fun _ hd => absurd hd List.not_mem_nil, ⟨rfl, rfl, rfl, rfl, rfl⟩, .inl rfl⟩

def openPage : List Message :=
  [.tell .introduced, .tell (.didOpen "file:///ws/page.dryck" "◊greet ◊plain".toList)]

def openedPage : Editor.View :=
  ⟨"/ws", .utf16, [("file:///ws/page.dryck", "◊greet ◊plain".toList)]⟩

/-- Of the two references one is answered, and the other is not. -/
theorem definition_failed_halfText :
    FileTree.Recallable [halfText] ∧
      (introduced halfText).Attends bareMachine [halfText] ⟨"/ws", .utf16, []⟩ {} bareIndex ∧
      (∀ message ∈ openPage, message.introduces = false) ∧
      (answer bareMachine (.definition "file:///ws/page.dryck" ⟨0, 3⟩)
        (session bareMachine (introduced halfText) openPage)).1 = .failed ∧
      ∃ told, (answer bareMachine (.definition "file:///ws/page.dryck" ⟨0, 9⟩)
        (session bareMachine (introduced halfText) openPage)).1 = .locations told := by
  have htells := FileTree.recallable_singleton halfText
  have hmessages : ∀ message ∈ openPage, message.introduces = false := by decide
  refine ⟨htells, attends_halfText, hmessages, ?_⟩
  obtain ⟨view', hview, hverdict⟩ :=
    definition_failed_iff htells List.mem_cons_self attends_halfText hmessages
  have hopened : (session bareMachine (introduced halfText) openPage).view = some openedPage := by
    decide +kernel
  obtain rfl : openedPage = view' := Option.some.inj (hopened.symm.trans hview)
  have haddress : Uri.anyPath "file:///ws/page.dryck".toList = .ok "/ws/page.dryck".toList := by
    decide +kernel
  have hopen : openedPage.open? "file:///ws/page.dryck" = some "◊greet ◊plain".toList := by
    decide +kernel
  constructor
  · obtain ⟨path, hpath, -, hfailed, -⟩ := hverdict _ _ ⟨0, 3⟩ hopen
    obtain rfl := Except.ok.inj (haddress.symm.trans hpath)
    refine hfailed.2 (.inr ⟨[.fileStart "file:///ws/greet.dryck"], by decide +kernel, _,
      List.mem_cons_self, ?_⟩)
    rintro ⟨found, hfound⟩
    have hundecodable : openedPage.document halfText "file:///ws/greet.dryck" =
        .error .undecodable := by decide +kernel
    cases hundecodable.symm.trans hfound
  · obtain ⟨path, hpath, hshape, hfailed, -⟩ := hverdict _ _ ⟨0, 9⟩ hopen
    obtain rfl := Except.ok.inj (haddress.symm.trans hpath)
    refine hshape.resolve_right fun hfails => ?_
    have hfound : lookUpIn openedPage bareIndex {} halfText "/ws/page.dryck".toList
        "◊greet ◊plain".toList ⟨0, 9⟩ = .ok [.fileStart "file:///ws/plain.dryck"] := by
      decide +kernel
    have hreads : openedPage.document halfText "file:///ws/plain.dryck" =
        .ok (⟨.root, ["ws", "plain.dryck"]⟩, ['h', 'i']) := by decide +kernel
    rcases hfailed.1 hfails with ⟨fault, hfault⟩ | ⟨found, hother, l, hl, hunread⟩
    · cases hfound.symm.trans hfault
    · cases hfound.symm.trans hother
      rw [List.mem_singleton.1 hl] at hunread
      exact hunread ⟨_, hreads⟩

/-- A question about a reference to a file that is not UTF-8 fails. -/
theorem definition_fails_on_bytes :
    Config.load halfText ⟨.root, ["ws"]⟩ = .ok {} ∧
      (answer bareMachine (.definition "file:///ws/page.dryck" ⟨0, 3⟩)
        (session bareMachine (introduced halfText) openPage)).1 = .failed :=
  ⟨rfl, by decide +kernel⟩

end Server

end LozengeNav
