import LozengeNav.Grammar.Statement
import LozengeNav.Proofs.Grammar.Pattern
import LozengeNav.Proofs.Grammar.Token

/-! # Statements in the order of a source

The statements of a source in pre-order. The keywords of its imports, in that order,
are tokens that follow each other in the source: a reader of statements lists in its
answer what it takes from the front.
-/

set_option synthInstance.maxSize 20000

namespace LozengeNav

namespace Grammar

namespace Statement

/-! ## Statements in their places -/

/-- A statement in its place. -/
structure Occurrence where
  /-- Whether a function or class is around it. -/
  inner : Bool
  statement : Statement

mutual

/-- A statement and all within it, in pre-order. -/
def occurrences (inner : Bool) : Statement → List Occurrence
  | .definition body => ⟨inner, .definition body⟩ :: occurrencesAll true body
  | .block children => ⟨inner, .block children⟩ :: occurrencesAll inner children
  | s => [⟨inner, s⟩]

/-- Some statements and all within them, in pre-order. -/
def occurrencesAll (inner : Bool) : List Statement → List Occurrence
  | [] => []
  | s :: rest => occurrences inner s ++ occurrencesAll inner rest

end

def keyword? : Statement → Option Token
  | .importModules line _ => some ⟨.word, "import", line⟩
  | .importMembers line _ _ _ => some ⟨.word, "from", line⟩
  | _ => none

/-- The tokens that the imports among some statements begin with, those in scopes too. -/
def keywords (statements : List Statement) : List Token :=
  (occurrencesAll false statements).filterMap fun o => o.statement.keyword?

theorem occurrencesAll_append (inner : Bool) (front back : List Statement) :
    occurrencesAll inner (front ++ back) =
      occurrencesAll inner front ++ occurrencesAll inner back := by
  induction front with
  | nil => rfl
  | cons s rest ih => simp [occurrencesAll, ih]

mutual

theorem statements_occurrences (inner : Bool) (s : Statement) :
    (occurrences inner s).map Occurrence.statement =
      (occurrences false s).map Occurrence.statement := by
  match s with
  | .importModules .. => rfl
  | .importMembers .. => rfl
  | .other => rfl
  | .definition body => rfl
  | .block children =>
      simp only [occurrences, List.map_cons, statements_occurrencesAll inner children]

theorem statements_occurrencesAll (inner : Bool) (statements : List Statement) :
    (occurrencesAll inner statements).map Occurrence.statement =
      (occurrencesAll false statements).map Occurrence.statement := by
  match statements with
  | [] => rfl
  | s :: rest =>
      simp only [occurrencesAll, List.map_append, statements_occurrences inner s,
        statements_occurrencesAll inner rest]

end

@[simp] theorem keywords_nil : keywords [] = [] :=
  rfl

@[simp] theorem keywords_append (front back : List Statement) :
    keywords (front ++ back) = keywords front ++ keywords back := by
  simp [keywords, occurrencesAll_append]

@[simp] theorem keywords_block (children : List Statement) :
    keywords [.block children] = keywords children := by
  simp [keywords, occurrencesAll, occurrences, keyword?]

@[simp] theorem keywords_definition (body : List Statement) :
    keywords [.definition body] = keywords body := by
  have hbody := congrArg (List.filterMap keyword?) (statements_occurrencesAll true body)
  rw [List.filterMap_map, List.filterMap_map] at hbody
  simp only [keywords, occurrencesAll, occurrences, List.append_nil]
  exact hbody

/-! ## Readers of statements -/

/-- The imports among the statements of an answer begin, in order, with tokens that are
taken from some tokens, or with those of statements that were read before. -/
def InOrder {α : Type} (listed : α → List Statement) (before : List Statement) (p : Parse α)
    (ts : List Token) : Prop :=
  ∀ a rest, p.run ts = some (a, rest) →
    ∃ read, ts = read ++ rest ∧ (keywords (listed a)).Sublist (keywords before ++ read)

open Parse

section InOrder

variable {α β : Type} {listed : β → List Statement} {before : List Statement} {ts : List Token}

theorem inOrder_pure {b : β} (h : (keywords (listed b)).Sublist (keywords before)) :
    InOrder listed before (pure b) ts := by
  intro _ _ hrun
  cases hrun
  exact ⟨[], rfl, by simpa using h⟩

theorem inOrder_failure : InOrder listed before failure ts := by
  intro _ _ hrun
  cases hrun

theorem inOrder_of_consumes {p : Parse β} [hp : Consumes p] (h : ∀ b, keywords (listed b) = []) :
    InOrder listed before p ts := by
  intro b rest hrun
  obtain ⟨read, hread⟩ := hp.suffix hrun
  exact ⟨read, hread.symm, by simp [h b]⟩

theorem inOrder_bind {first : α → List Statement} {p : Parse α} {f : α → Parse β}
    (hp : InOrder first [] p ts)
    (hf : ∀ a middle, InOrder listed (before ++ first a) (f a) middle) :
    InOrder listed before (p >>= f) ts := by
  intro b rest hrun
  obtain ⟨a, middle, hfirst, hrest⟩ := bind_run_eq_some.1 hrun
  obtain ⟨read, rfl, hread⟩ := hp a middle hfirst
  obtain ⟨more, rfl, hmore⟩ := hf a middle b rest hrest
  refine ⟨read ++ more, by simp, hmore.trans ?_⟩
  rw [keywords_append, ← List.append_assoc]
  exact ((List.Sublist.refl _).append hread).append (List.Sublist.refl _)

theorem inOrder_skip {p : Parse α} {f : α → Parse β} [hp : Consumes p]
    (hf : ∀ a middle, InOrder listed before (f a) middle) :
    InOrder listed before (p >>= f) ts := by
  have hnothing : InOrder (fun _ => []) [] p ts := inOrder_of_consumes fun _ => rfl
  refine inOrder_bind hnothing fun a middle => ?_
  rw [List.append_nil]
  exact hf a middle

theorem inOrder_ite {c : Prop} [Decidable c] {p q : Parse β} (hp : InOrder listed before p ts)
    (hq : InOrder listed before q ts) : InOrder listed before (if c then p else q) ts := by
  split <;> assumption

theorem inOrder_orElse {p q : Parse β} (hp : InOrder listed before p ts)
    (hq : InOrder listed before q ts) : InOrder listed before (p <|> q) ts := by
  intro b rest hrun
  exact (orElse_run_eq_some hrun).elim (hp b rest) (hq b rest)

theorem inOrder_seesWord {text : String} {p q : Parse β}
    (hp : ∀ line more, ts = ⟨.word, text, line⟩ :: more → InOrder listed before p ts)
    (hq : InOrder listed before q ts) :
    InOrder listed before (do if ← seesWord text then p else q) ts := by
  have hrun : (do if ← seesWord text then p else q : Parse β).run ts =
      (if ts.head?.any (Token.isWord text) then p else q).run ts := rfl
  intro b rest h
  rw [hrun] at h
  split at h
  · next hword =>
      match ts with
      | ⟨kind, found, line⟩ :: more =>
          simp only [List.head?_cons, Option.any_some, Token.isWord, Bool.and_eq_true,
            decide_eq_true_eq, beq_iff_eq] at hword
          obtain ⟨rfl, rfl⟩ := hword
          exact hp line more rfl b rest h
  · exact hq b rest h

theorem inOrder_collect {listed : α → List Statement} {item : Parse (Option α)}
    (hitem : ∀ ts, InOrder (fun found => (found.map listed).getD []) [] item ts)
    (ts : List Token) : InOrder (fun found => found.flatMap listed) [] (collect item) ts := by
  have hupTo : ∀ fuel ts, InOrder (fun found => found.flatMap listed) []
      (collectUpTo item fuel) ts := by
    intro fuel
    induction fuel with
    | zero => exact fun ts => inOrder_pure (List.Sublist.refl _)
    | succ fuel ih =>
        intro ts
        refine inOrder_bind (hitem ts) fun found middle => ?_
        cases found with
        | none => exact inOrder_pure (by simp)
        | some a => exact inOrder_bind (ih middle) fun more rest => inOrder_pure (by simp)
  exact inOrder_skip fun tokens middle => hupTo tokens.length middle

theorem inOrder_items {item : Parse (Option Statement)}
    (hitem : ∀ ts, InOrder Option.toList [] item ts) (ts : List Token) :
    InOrder id [] (collect item) ts := by
  have hsingle : (fun found : List Statement => found.flatMap fun s => [s]) = id := by
    funext found
    simp
  rw [← hsingle]
  refine inOrder_collect (fun ts found rest hrun => ?_) ts
  cases found <;> exact hitem ts _ rest hrun

theorem inOrder_blocks {item : Parse (Option (List Statement))}
    (hitem : ∀ ts, InOrder (fun found => found.getD []) [] item ts) (ts : List Token) :
    InOrder List.flatten [] (collect item) ts := by
  have hflatten : (fun found : List (List Statement) => found.flatMap id) = List.flatten := by
    funext found
    exact List.flatMap_id
  rw [← hflatten]
  exact inOrder_collect (fun ts => by simpa using hitem ts) ts

end InOrder

/-! ## Simple statements -/

instance consumes_dottedName : Consumes dottedName := by
  unfold dottedName
  infer_instance

instance consumes_boundName : Consumes boundName := by
  unfold boundName
  infer_instance

instance consumes_leadingDots : Consumes leadingDots := by
  unfold leadingDots
  infer_instance

instance consumes_members : Consumes members := by
  unfold members
  infer_instance

theorem inOrder_import {f : Token → Parse Statement} {t : Token} {more : List Token}
    [hconsumes : Consumes (f t)]
    (hkeyword : ∀ s rest, (f t).run more = some (s, rest) → keywords [s] = [t]) :
    InOrder (fun s => [s]) [] (next >>= f) (t :: more) := by
  intro s rest hrun
  obtain ⟨_, _, hnext, hrest⟩ := bind_run_eq_some.1 hrun
  cases next_run_eq_some.1 hnext
  obtain ⟨read, rfl⟩ := hconsumes.suffix hrest
  exact ⟨t :: read, rfl, by simp [hkeyword s rest hrest]⟩

theorem inOrder_moduleImport (line : Nat) (more : List Token) :
    InOrder (fun s => [s]) [] moduleImport (⟨.word, "import", line⟩ :: more) := by
  refine inOrder_import fun s rest hrun => ?_
  obtain ⟨⟨modules, trailing⟩, _, -, hlast⟩ := bind_run_eq_some.1 hrun
  cases trailing
  · cases hlast
    rfl
  · cases hlast

theorem inOrder_memberImport (line : Nat) (more : List Token) :
    InOrder (fun s => [s]) [] memberImport (⟨.word, "from", line⟩ :: more) := by
  refine inOrder_import fun s rest hrun => ?_
  obtain ⟨level, _, -, hmodule⟩ := bind_run_eq_some.1 hrun
  obtain ⟨module, _, -, hword⟩ := bind_run_eq_some.1 hmodule
  obtain ⟨_, _, -, hmembers⟩ := bind_run_eq_some.1 hword
  obtain ⟨found, _, -, hlast⟩ := bind_run_eq_some.1 hmembers
  cases hlast
  rfl

section Rules

variable (r : Rules) (primary : Parse Shape) [Consumes r.expression] [Consumes primary]

instance consumes_assigned : Consumes (assigned r primary) := by
  unfold assigned
  infer_instance

instance consumes_assignments (s : Shape) : Consumes (assignments r primary s) := by
  unfold assignments
  infer_instance

instance consumes_expressionOrAssignment : Consumes (expressionOrAssignment r primary) := by
  unfold expressionOrAssignment
  infer_instance

instance consumes_keywordStatement (keyword : String) :
    Consumes (keywordStatement r primary keyword) := by
  unfold keywordStatement
  split <;> infer_instance

theorem inOrder_simple (ts : List Token) :
    InOrder (fun s => [s]) [] (simple r primary) ts := by
  refine inOrder_seesWord ?_ (inOrder_seesWord ?_ ?_)
  · rintro line more rfl
    exact inOrder_moduleImport line more
  · rintro line more rfl
    exact inOrder_memberImport line more
  · have hother : ∀ middle, InOrder (fun s => [s]) [] (pure Statement.other) middle :=
      fun middle => inOrder_pure (by simp [keywords, occurrencesAll, occurrences, keyword?])
    refine inOrder_skip fun _ _ => inOrder_ite ?_ (inOrder_skip fun _ _ => inOrder_ite ?_ ?_)
    · exact inOrder_skip fun _ middle => hother middle
    · exact inOrder_skip fun _ _ => inOrder_skip fun _ middle => hother middle
    · exact inOrder_skip fun _ middle => hother middle

theorem inOrder_simpleRow (ts : List Token) :
    InOrder id [] (simpleRow r primary) ts := by
  refine inOrder_bind (inOrder_simple r primary ts) fun first middle => ?_
  refine inOrder_bind (inOrder_items (fun ts => ?_) middle) fun more middle => ?_
  · refine inOrder_skip fun _ middle => inOrder_ite ?_ (inOrder_pure (by simp))
    refine inOrder_skip fun _ middle => inOrder_skip fun _ middle => ?_
    refine inOrder_ite (inOrder_pure (by simp)) ?_
    exact inOrder_bind (inOrder_simple r primary _) fun s middle => inOrder_pure (by simp)
  · exact inOrder_skip fun _ middle => inOrder_pure (by simp)

/-! ## Compound statements -/

variable {statements : Parse (List Statement)} (hstatements : ∀ ts, InOrder id [] statements ts)

include hstatements

theorem inOrder_suite (ts : List Token) : InOrder id [] (suite r primary statements) ts := by
  refine inOrder_skip fun _ _ => inOrder_skip fun _ middle => ?_
  refine inOrder_ite (inOrder_skip fun _ middle => ?_) (inOrder_simpleRow r primary middle)
  refine inOrder_bind (hstatements middle) fun body _ => inOrder_skip fun _ _ => ?_
  exact inOrder_pure (by simp)

theorem inOrder_someSuite (ts : List Token) :
    InOrder (fun found => found.getD []) [] (do return some (← suite r primary statements)) ts := by
  refine inOrder_bind (inOrder_suite r primary hstatements ts) fun body _ => ?_
  exact inOrder_pure (by simp)

theorem inOrder_blockAfter (keyword : String) (ts : List Token) :
    InOrder (fun found => found.getD []) [] (blockAfter r primary statements keyword) ts :=
  inOrder_skip fun _ middle =>
    inOrder_ite (inOrder_someSuite r primary hstatements middle) (inOrder_pure (by simp))

theorem inOrder_elseBlock (ts : List Token) :
    InOrder id [] (elseBlock r primary statements) ts := by
  refine inOrder_bind (inOrder_blockAfter r primary hstatements "else" ts) fun found _ => ?_
  exact inOrder_pure (by simp)

theorem inOrder_conditional (ts : List Token) :
    InOrder (fun s => [s]) [] (conditional r primary statements) ts := by
  refine inOrder_skip fun _ _ => inOrder_skip fun _ middle => ?_
  refine inOrder_bind (inOrder_suite r primary hstatements middle) fun first middle => ?_
  refine inOrder_bind (inOrder_blocks (fun ts => ?_) middle) fun more middle => ?_
  · refine inOrder_skip fun _ _ => inOrder_ite (inOrder_skip fun _ middle => ?_)
      (inOrder_pure (by simp))
    exact inOrder_someSuite r primary hstatements middle
  · refine inOrder_bind (inOrder_elseBlock r primary hstatements middle) fun other _ => ?_
    exact inOrder_pure (by simp)

theorem inOrder_whileLoop (ts : List Token) :
    InOrder (fun s => [s]) [] (whileLoop r primary statements) ts := by
  refine inOrder_skip fun _ _ => inOrder_skip fun _ middle => ?_
  refine inOrder_bind (inOrder_suite r primary hstatements middle) fun body middle => ?_
  refine inOrder_bind (inOrder_elseBlock r primary hstatements middle) fun other _ => ?_
  exact inOrder_pure (by simp)

theorem inOrder_forLoop (ts : List Token) :
    InOrder (fun s => [s]) [] (forLoop r primary statements) ts := by
  refine inOrder_skip fun _ _ => inOrder_skip fun _ _ => inOrder_skip fun _ _ => ?_
  refine inOrder_skip fun _ middle => ?_
  refine inOrder_bind (inOrder_suite r primary hstatements middle) fun body middle => ?_
  refine inOrder_bind (inOrder_elseBlock r primary hstatements middle) fun other _ => ?_
  exact inOrder_pure (by simp)

omit hstatements in
instance consumes_context : Consumes (context r primary) := by
  unfold context
  infer_instance

omit hstatements in
instance consumes_groupedContexts : Consumes (groupedContexts r primary) := by
  unfold groupedContexts
  infer_instance

theorem inOrder_withBlock (ts : List Token) :
    InOrder (fun s => [s]) [] (withBlock r primary statements) ts := by
  refine inOrder_skip fun _ _ => inOrder_skip fun _ middle => ?_
  refine inOrder_bind (inOrder_suite r primary hstatements middle) fun body _ => ?_
  exact inOrder_pure (by simp)

omit hstatements in
instance consumes_handled : Consumes (handled r) := by
  unfold handled
  infer_instance

theorem inOrder_handlers (ts : List Token) :
    InOrder List.flatten [] (handlers r primary statements) ts := by
  have hsuite := inOrder_someSuite r primary hstatements
  refine inOrder_skip fun starred middle => inOrder_blocks (fun ts => ?_) middle
  refine inOrder_skip fun _ middle => inOrder_ite (inOrder_ite ?_ ?_) (inOrder_pure (by simp))
  · exact inOrder_skip fun _ _ => inOrder_skip fun _ middle => hsuite middle
  · refine inOrder_skip fun _ middle => inOrder_ite ?_ (hsuite middle)
    exact inOrder_skip fun _ middle => hsuite middle

theorem inOrder_tryBlock (ts : List Token) :
    InOrder (fun s => [s]) [] (tryBlock r primary statements) ts := by
  refine inOrder_skip fun _ middle => ?_
  refine inOrder_bind (inOrder_suite r primary hstatements middle) fun body middle => ?_
  refine inOrder_bind (inOrder_handlers r primary hstatements middle) fun caught middle => ?_
  have hother : InOrder id [] (do
      if caught.isEmpty then return [] else elseBlock r primary statements) middle :=
    inOrder_ite (inOrder_pure (by simp)) (inOrder_elseBlock r primary hstatements middle)
  refine inOrder_bind hother fun other middle => ?_
  refine inOrder_bind (inOrder_blockAfter r primary hstatements "finally" middle) fun last _ => ?_
  exact inOrder_ite (inOrder_skip fun _ _ => inOrder_pure (by simp)) (inOrder_pure (by simp))

theorem inOrder_body (ts : List Token) :
    InOrder (fun s => [s]) [] (do return .definition (← suite r primary statements)) ts := by
  refine inOrder_bind (inOrder_suite r primary hstatements ts) fun body _ => ?_
  exact inOrder_pure (by simp)

theorem inOrder_function (ts : List Token) :
    InOrder (fun s => [s]) [] (function r primary statements) ts := by
  have hbody := inOrder_body r primary hstatements
  refine inOrder_skip fun _ _ => inOrder_skip fun _ _ => inOrder_skip fun _ _ => ?_
  refine inOrder_skip fun _ _ => inOrder_skip fun _ middle => inOrder_ite ?_ (hbody middle)
  exact inOrder_skip fun _ middle => hbody middle

theorem inOrder_classDefinition (ts : List Token) :
    InOrder (fun s => [s]) [] (classDefinition r primary statements) ts := by
  have hbody := inOrder_body r primary hstatements
  refine inOrder_skip fun _ _ => inOrder_skip fun _ _ => inOrder_skip fun _ middle => ?_
  exact inOrder_ite (inOrder_skip fun _ middle => hbody middle) (hbody middle)

theorem inOrder_decorated (ts : List Token) :
    InOrder (fun s => [s]) [] (decorated r primary statements) ts := by
  refine inOrder_skip fun _ _ => inOrder_skip fun _ middle => inOrder_ite ?_ ?_
  · exact inOrder_classDefinition r primary hstatements middle
  · exact inOrder_skip fun _ middle => inOrder_function r primary hstatements middle

omit hstatements in
instance consumes_subject : Consumes (subject r primary) := by
  unfold subject
  have hlast : ∀ (items : List Shape) (trailing : Bool), Consumes (match items, trailing with
      | [s], false => if s.isStarred then failure else return ()
      | _, _ => return () : Parse Unit) := by
    intro items trailing
    split <;> infer_instance
  infer_instance

theorem inOrder_caseBlock (ts : List Token) :
    InOrder (fun found => found.getD []) [] (caseBlock r primary statements) ts := by
  have hsuite := inOrder_someSuite r primary hstatements
  refine inOrder_skip fun _ _ => inOrder_ite (inOrder_skip fun _ _ => ?_) (inOrder_pure (by simp))
  refine inOrder_skip fun _ middle => inOrder_ite ?_ (hsuite middle)
  exact inOrder_skip fun _ middle => hsuite middle

theorem inOrder_matchBlock (ts : List Token) :
    InOrder (fun s => [s]) [] (matchBlock r primary statements) ts := by
  refine inOrder_skip fun _ _ => inOrder_skip fun _ _ => inOrder_skip fun _ _ => ?_
  refine inOrder_skip fun _ _ => inOrder_skip fun _ middle => ?_
  have hcases := inOrder_blocks (inOrder_caseBlock r primary hstatements) middle
  refine inOrder_bind hcases fun cases _ => inOrder_skip fun _ _ => ?_
  exact inOrder_ite inOrder_failure (inOrder_pure (by simp))

theorem inOrder_asynchronous (ts : List Token) :
    InOrder (fun s => [s]) [] (asynchronous r primary statements) ts := by
  refine inOrder_skip fun _ _ => inOrder_skip fun _ middle => inOrder_ite ?_ ?_
  · exact inOrder_function r primary hstatements middle
  · refine inOrder_skip fun _ middle => inOrder_ite ?_ ?_
    · exact inOrder_withBlock r primary hstatements middle
    · refine inOrder_skip fun _ middle => inOrder_ite ?_ inOrder_failure
      exact inOrder_forLoop r primary hstatements middle

omit hstatements in
theorem inOrder_single {p : Parse Statement} {ts : List Token}
    (hp : InOrder (fun s => [s]) [] p ts) : InOrder id [] (do return [← p]) ts :=
  inOrder_bind hp fun _ _ => inOrder_pure (by simp)

theorem inOrder_statement (ts : List Token) :
    InOrder id [] (statement r primary statements) ts := by
  refine inOrder_skip fun found ts => ?_
  split
  · exact inOrder_failure
  · refine inOrder_ite (inOrder_single (inOrder_decorated r primary hstatements ts)) ?_
    refine inOrder_ite (inOrder_simpleRow r primary ts) ?_
    split
    · exact inOrder_single (inOrder_function r primary hstatements ts)
    · exact inOrder_single (inOrder_classDefinition r primary hstatements ts)
    · exact inOrder_single (inOrder_asynchronous r primary hstatements ts)
    · exact inOrder_single (inOrder_conditional r primary hstatements ts)
    · exact inOrder_single (inOrder_whileLoop r primary hstatements ts)
    · exact inOrder_single (inOrder_forLoop r primary hstatements ts)
    · exact inOrder_single (inOrder_withBlock r primary hstatements ts)
    · exact inOrder_single (inOrder_tryBlock r primary hstatements ts)
    · exact inOrder_orElse (inOrder_single (inOrder_matchBlock r primary hstatements ts))
        (inOrder_simpleRow r primary ts)
    · exact inOrder_simpleRow r primary ts

theorem inOrder_sequence (ts : List Token) :
    InOrder id [] (sequence r primary statements) ts := by
  refine inOrder_bind (inOrder_blocks (fun ts => ?_) ts) fun parts _ => inOrder_pure (by simp)
  refine inOrder_skip fun _ middle => inOrder_ite ?_ (inOrder_pure (by simp))
  refine inOrder_bind (inOrder_statement r primary hstatements middle) fun found _ => ?_
  exact inOrder_pure (by simp)

omit hstatements in
theorem inOrder_ofDepth (depth : Nat) :
    ∀ ts, InOrder id [] (ofDepth r primary depth) ts := by
  induction depth with
  | zero => exact fun _ => inOrder_failure
  | succ depth ih => exact inOrder_sequence r primary ih

end Rules

/-! ## Sources -/

theorem ofSource?_keywords {source : List Char} {statements : List Statement}
    (h : ofSource? source = some statements) :
    ∃ tokens, tokens? source = some tokens ∧ (keywords statements).Sublist tokens := by
  obtain ⟨tokens, htokens, hall⟩ := Option.bind_eq_some_iff.1 h
  obtain ⟨hprimary, hexpression⟩ := consumes_tower
    (isField ((tokens.map fun t => t.text.length).foldl Nat.max 0)) (tokens.length + 1)
  refine ⟨tokens, htokens, ?_⟩
  have : Consumes (rulesFor tokens).1.expression := hexpression
  have : Consumes (rulesFor tokens).2 := hprimary
  have hrun : (ofDepth (rulesFor tokens).1 (rulesFor tokens).2 (tokens.length + 1)).run tokens =
      some (statements, []) := by
    simp only [Parse.all?] at hall
    split at hall
    · next hrun =>
        cases hall
        exact hrun
    · cases hall
  obtain ⟨read, hread, hsublist⟩ := inOrder_ofDepth _ _ _ tokens _ _ hrun
  rw [List.append_nil] at hread
  subst hread
  simpa using hsublist

end Statement

end Grammar

end LozengeNav
