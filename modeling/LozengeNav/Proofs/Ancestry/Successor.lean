import LozengeNav.Ancestry
import LozengeNav.Proofs.ClassHeader.First
import LozengeNav.Proofs.Determined
import LozengeNav.World
import Mathlib.Logic.Relation

/-! # Classes that a chase names

A chase names a class by a line of a text, and opens the class by looking for its
header in that text. A text that was read is kept as it is while the chase goes
on, whatever the host answers in the meantime. So where the line is a header of
the class, a header is there when the class is opened, on that line or before it.
-/

namespace LozengeNav

namespace Ancestry

variable {σ α β : Type} {host : Host σ} {base : BaseClass} {s s' : Sources × σ}

/-! ## Parts of a chase -/

/-- A part of a chase ends with an answer. The texts kept and the state of the host are
those before and those after. -/
def Ends (x : Chase σ α) (s : Sources × σ) (a : α) (s' : Sources × σ) : Prop :=
  (x.run s.1).run.run s.2 = (.ok (a, s'.1), s'.2)

instance [DecidableEq σ] [DecidableEq α] (x : Chase σ α) (s : Sources × σ) (a : α)
    (s' : Sources × σ) : Decidable (Ends x s a s') :=
  inferInstanceAs (Decidable (@Eq (Except Fault (α × Sources) × σ) _ _))

theorem Ends.of_pure {a b : α} (h : Ends (pure a : Chase σ α) s b s') : b = a ∧ s' = s := by
  obtain ⟨hanswer, hstate⟩ := Prod.mk.inj h
  obtain ⟨rfl, hkept⟩ := Prod.mk.inj (Except.ok.inj hanswer)
  exact ⟨rfl, Prod.ext hkept.symm hstate.symm⟩

theorem Ends.of_bind {x : Chase σ α} {f : α → Chase σ β} {b : β} (h : Ends (x >>= f) s b s') :
    ∃ a s₁, Ends x s a s₁ ∧ Ends (f a) s₁ b s' := by
  obtain ⟨⟨a, kept⟩, t, hfirst, hrest⟩ := Query.exists_of_run_bind h
  exact ⟨a, (kept, t), hfirst, hrest⟩

theorem Ends.of_get {kept : Sources} (h : Ends (get : Chase σ Sources) s kept s') :
    kept = s.1 ∧ s' = s :=
  Ends.of_pure h

theorem Ends.of_modify {f : Sources → Sources} {u : PUnit}
    (h : Ends (modify f : Chase σ PUnit) s u s') : s'.1 = f s.1 :=
  (Prod.mk.inj (Except.ok.inj (Prod.mk.inj h).1)).2.symm

theorem Ends.of_lift {q : Query σ α} {a : α} (h : Ends (monadLift q : Chase σ α) s a s') :
    s'.1 = s.1 := by
  obtain ⟨b, t, -, hrest⟩ := Query.exists_of_run_bind h
  exact (Prod.mk.inj (Except.ok.inj (Prod.mk.inj hrest).1)).2.symm

/-! ## Texts that are kept -/

/-- What is kept stays as it is. -/
def Grows (kept kept' : Sources) : Prop :=
  ∀ uri text, kept.lookup uri = some text → kept'.lookup uri = some text

theorem Grows.refl (kept : Sources) : Grows kept kept :=
  fun _ _ hkept => hkept

theorem Grows.trans {kept kept₁ kept₂ : Sources} (h : Grows kept kept₁) (h' : Grows kept₁ kept₂) :
    Grows kept kept₂ :=
  fun uri text hkept => h' uri text (h uri text hkept)

theorem grows_cons {kept : Sources} {uri : String} (hnew : kept.lookup uri = none)
    (text : Option String) : Grows kept ((uri, text) :: kept) := by
  intro other told hkept
  rw [List.lookup_cons]
  split
  · next heq =>
      rw [beq_iff_eq.1 heq, hnew] at hkept
      cases hkept
  · exact hkept

theorem Ends.of_source {uri : String} {text : Option String}
    (h : Ends (source host uri) s text s') : Grows s.1 s'.1 ∧ s'.1.lookup uri = some text := by
  obtain ⟨kept, s₁, hget, h⟩ := h.of_bind
  obtain ⟨rfl, rfl⟩ := hget.of_get
  split at h
  · next told hkept =>
      obtain ⟨rfl, rfl⟩ := h.of_pure
      exact ⟨Grows.refl _, hkept⟩
  · next hnew =>
      obtain ⟨read, s₂, hread, h⟩ := h.of_bind
      obtain ⟨_, s₃, hmodify, h⟩ := h.of_bind
      obtain ⟨rfl, rfl⟩ := h.of_pure
      have hkept := hread.of_lift
      rw [hmodify.of_modify, hkept]
      exact ⟨grows_cons hnew _, by simp⟩

theorem run_source {kept : Sources} {uri : String} {text : Option String}
    (h : kept.lookup uri = some text) : (source host uri).run kept = pure (text, kept) := by
  have hget : (get : Chase σ Sources).run kept = pure (kept, kept) := rfl
  unfold source
  rw [StateT.run_bind, hget, pure_bind]
  simp only [h]
  rfl

/-! ## Classes that are named -/

/-- A text that is kept names a class at a location. -/
structure Names (kept : Sources) (place : Location) (text : String) (line : List Char)
    (c : ClassRef) : Prop where
  document : c.uri = place.uri
  kept : kept.lookup c.uri = some (some text)
  found : (Text.lines text.toList)[place.span.start.line]? = some line
  read : classNameAt? line (some place.span.start.column) = some c.name

def Known (kept : Sources) (found : List ClassRef) : Prop :=
  ∀ c ∈ found, ∃ place text line, Names kept place text line c

theorem Known.mono {kept kept' : Sources} {found : List ClassRef} (h : Known kept found)
    (hgrows : Grows kept kept') : Known kept' found := by
  intro c hc
  obtain ⟨place, text, line, hnames⟩ := h c hc
  exact ⟨place, text, line, { hnames with kept := hgrows _ _ hnames.kept }⟩

theorem Ends.of_nameAt? {place : Location} {name : Option String}
    (h : Ends (nameAt? host place) s name s') :
    Grows s.1 s'.1 ∧ ∀ n, name = some n → Known s'.1 [⟨place.uri, n⟩] := by
  obtain ⟨told, s₁, hsource, h⟩ := h.of_bind
  obtain ⟨hgrows, hkept⟩ := hsource.of_source
  split at h
  · obtain ⟨rfl, rfl⟩ := h.of_pure
    exact ⟨hgrows, nofun⟩
  · next text =>
      split at h
      · obtain ⟨rfl, rfl⟩ := h.of_pure
        exact ⟨hgrows, nofun⟩
      · next line hline =>
          obtain ⟨rfl, rfl⟩ := h.of_pure
          refine ⟨hgrows, fun n hname => ?_⟩
          intro c hc
          obtain rfl := List.mem_singleton.1 hc
          exact ⟨place, text, line, rfl, hkept, hline, hname⟩

theorem Ends.of_followLocations {places : List Location} {found : List ClassRef}
    {r : Bool × List ClassRef} (h : Ends (followLocations host base places found) s r s')
    (hfound : Known s.1 found) : Grows s.1 s'.1 ∧ Known s'.1 r.2 := by
  -- What was found before stays known, since the texts only grow.
  induction places generalizing found s with
  | nil =>
      obtain ⟨rfl, rfl⟩ := h.of_pure
      exact ⟨Grows.refl _, hfound⟩
  | cons place places ih =>
      rw [followLocations] at h
      split at h
      · obtain ⟨rfl, rfl⟩ := h.of_pure
        exact ⟨Grows.refl _, nofun⟩
      · obtain ⟨name, s₁, hname, h⟩ := h.of_bind
        obtain ⟨hgrows, hnamed⟩ := hname.of_nameAt?
        have hkept := hfound.mono hgrows
        cases name with
        | none =>
            obtain ⟨hrest, hknown⟩ := ih h hkept
            exact ⟨hgrows.trans hrest, hknown⟩
        | some n =>
            obtain ⟨hrest, hknown⟩ := ih h (List.forall_mem_append.2 ⟨hkept, hnamed n rfl⟩)
            exact ⟨hgrows.trans hrest, hknown⟩

theorem Ends.of_followBases {uri : String} {bases : List BaseReference} {found : List ClassRef}
    {r : Bool × List ClassRef} (h : Ends (followBases host base uri bases found) s r s')
    (hfound : Known s.1 found) : Grows s.1 s'.1 ∧ Known s'.1 r.2 := by
  induction bases generalizing found s with
  | nil =>
      obtain ⟨rfl, rfl⟩ := h.of_pure
      exact ⟨Grows.refl _, hfound⟩
  | cons reference bases ih =>
      rw [followBases] at h
      obtain ⟨locations, s₁, hjump, h⟩ := h.of_bind
      obtain ⟨⟨reached, more⟩, s₂, hfollow, h⟩ := h.of_bind
      obtain ⟨hgrows, hknown⟩ := hfollow.of_followLocations (hjump.of_lift ▸ hfound)
      rw [hjump.of_lift] at hgrows
      cases reached with
      | true =>
          obtain ⟨rfl, rfl⟩ := h.of_pure
          exact ⟨hgrows, nofun⟩
      | false =>
          obtain ⟨hrest, hall⟩ := ih h hknown
          exact ⟨hgrows.trans hrest, hall⟩

/-- What is kept when a class is opened is kept afterwards, and the classes that it leads to are
named by what is kept. -/
theorem Ends.of_expand {c : ClassRef} {r : Bool × List ClassRef}
    (h : Ends (expand host base c) s r s') : Grows s.1 s'.1 ∧ Known s'.1 r.2 := by
  obtain ⟨told, s₁, hsource, h⟩ := h.of_bind
  obtain ⟨hgrows, -⟩ := hsource.of_source
  split at h
  · obtain ⟨rfl, rfl⟩ := h.of_pure
    exact ⟨hgrows, nofun⟩
  · split at h
    · obtain ⟨rfl, rfl⟩ := h.of_pure
      exact ⟨hgrows, nofun⟩
    · obtain ⟨hrest, hknown⟩ := h.of_followBases nofun
      exact ⟨hgrows.trans hrest, hknown⟩

/-! ## Opening what was named -/

/-- A chase goes on from one state to another: classes are opened in between. -/
def GoesOn (host : Host σ) (base : BaseClass) : Sources × σ → Sources × σ → Prop :=
  Relation.ReflTransGen fun s s' => ∃ c r, Ends (expand host base c) s r s'

theorem GoesOn.grows (h : GoesOn host base s s') : Grows s.1 s'.1 := by
  induction h with
  | refl => exact Grows.refl _
  | tail _ hstep ih =>
      obtain ⟨c, r, hends⟩ := hstep
      exact ih.trans hends.of_expand.1

/-- Opening a class whose text is kept asks for no text, but follows the header that it has. -/
theorem run_expand {kept : Sources} {c : ClassRef} {text : String} {header : Nat × List Char}
    (hkept : kept.lookup c.uri = some (some text))
    (hheader : classHeader? text.toList c.name = some header) :
    (expand host base c).run kept =
      (followBases host base c.uri (baseList header.1 header.2 c.name base.rootBase) []).run kept := by
  unfold expand
  rw [StateT.run_bind, run_source hkept, pure_bind]
  simp only [hheader]

/-- A class that is named by its header has a header whenever it is opened. -/
theorem Names.exists_header {place : Location} {text : String} {line : List Char} {c : ClassRef}
    (h : Names s.1 place text line c) (hheads : ClassHeader.Heads line c.name.toList)
    (hlater : GoesOn host base s s') :
    ∃ index ≤ place.span.start.line, ∃ header,
      classHeader? text.toList c.name = some (index, header) ∧
        (expand host base c).run s'.1 = (followBases host base c.uri
          (baseList index header c.name base.rootBase) []).run s'.1 := by
  obtain ⟨index, hle, header, hheader⟩ :=
    ClassHeader.exists_classHeader? (ClassHeader.spellable_of_classNameAt? h.read) h.found hheads
  exact ⟨index, hle, header, hheader, run_expand (hlater.grows _ _ h.kept) hheader⟩

/-- The header that is found for an identifier is the first one, and is read as that identifier
under any cursor; where a line is such a header, one is found there or before. So every class
that a chase comes to is named by a text it keeps, and where a header names it, its own opening
follows the bases of a header, however the chase has gone on. -/
theorem named_class_found (host : Host σ) (base : BaseClass) :
    (∀ (source : List Char) (name : String), Text.Identifier name.toList →
      (∀ index line, classHeader? source name = some (index, line) →
        (Text.lines source)[index]? = some line ∧ ClassHeader.Heads line name.toList ∧
          (∀ column, classNameAt? line column = some name) ∧
          ∀ i < index, ∀ earlier, (Text.lines source)[i]? = some earlier →
            ¬ ClassHeader.Heads earlier name.toList) ∧
      ∀ j line, (Text.lines source)[j]? = some line → ClassHeader.Heads line name.toList →
        (∀ column, classNameAt? line column = some name) ∧
          ∃ index ≤ j, ∃ header, classHeader? source name = some (index, header)) ∧
    ∀ c s r s', Ends (expand host base c) s r s' → ∀ d ∈ r.2,
      (∃ place text line, Names s'.1 place text line d) ∧
        ∀ place text line, Names s'.1 place text line d → ClassHeader.Heads line d.name.toList →
          ∀ t, GoesOn host base s' t → ∃ index ≤ place.span.start.line, ∃ header,
            classHeader? text.toList d.name = some (index, header) ∧
              (expand host base d).run t.1 = (followBases host base d.uri
                (baseList index header d.name base.rootBase) []).run t.1 := by
  refine ⟨fun source name hname => ⟨?_, ?_⟩, ?_⟩
  · intro index line hheader
    obtain ⟨hline, hheads, hfirst⟩ :=
      (ClassHeader.classHeader?_eq_some_iff (ClassHeader.spellable_of_identifier hname)).1 hheader
    exact ⟨hline, hheads, hheads.classNameAt? hname, hfirst⟩
  · intro j line hline hheads
    exact ⟨hheads.classNameAt? hname,
      ClassHeader.exists_classHeader? (ClassHeader.spellable_of_identifier hname) hline hheads⟩
  · intro c s r s' hends d hd
    exact ⟨hends.of_expand.2 d hd,
      fun place text line hnames hheads t hlater => hnames.exists_header hheads hlater⟩

/-! ## A name that another name begins with -/

/-- Four headers, of which the second is of a longer name and the last two are of one name. -/
def twiceText : String :=
  "class Page(Foo):\nclass Foobar(Page):\n  class Foo (Foobar):\nclass Foo(Page):\n"

def twiceHeader : List Char :=
  "  class Foo (Foobar):".toList

def twiceLine : List Char :=
  "class Foo(Page):".toList

def twicePlace : Location :=
  ⟨"file:///ws/a.py", ⟨⟨3, 6⟩, ⟨3, 9⟩⟩⟩

def twice : World where
  texts := [("file:///ws/a.py", some twiceText)]
  definitions := [(("file:///ws/a.py", ⟨0, 11⟩), some [twicePlace])]

def twiceKept : Sources :=
  [("file:///ws/a.py", some twiceText)]

def twiceCalls : World.Log :=
  [.jumpToDefinition "file:///ws/a.py" ⟨0, 11⟩, .readText "file:///ws/a.py"]

def twiceClass : ClassRef :=
  ⟨"file:///ws/a.py", "Foo"⟩

theorem named_class_found_twice :
    Text.Identifier "Foo".toList ∧
      classHeader? twiceText.toList "Foo" = some (2, twiceHeader) ∧
      (∀ column, classNameAt? twiceHeader column = some "Foo") ∧
      Ends (expand twice.host {} ⟨"file:///ws/a.py", "Page"⟩) ([], []) (false, [twiceClass])
        (twiceKept, twiceCalls) ∧
      Names twiceKept twicePlace twiceText twiceLine twiceClass ∧
      ClassHeader.Heads twiceLine "Foo".toList ∧
      (∃ index ≤ 3, ∃ header, classHeader? twiceText.toList "Foo" = some (index, header)) ∧
      ∃ calls, GoesOn twice.host {} (twiceKept, twiceCalls) (twiceKept, calls) ∧
        ∃ index ≤ 3, ∃ header, classHeader? twiceText.toList "Foo" = some (index, header) ∧
          (expand twice.host {} twiceClass).run twiceKept =
            (followBases twice.host {} "file:///ws/a.py"
              (baseList index header "Foo" "object") []).run twiceKept := by
  have hname : Text.Identifier "Foo".toList := by decide
  have hheader : classHeader? twiceText.toList "Foo" = some (2, twiceHeader) := by
    decide +kernel
  have hline : (Text.lines twiceText.toList)[3]? = some twiceLine := by decide +kernel
  have hends : Ends (expand twice.host {} ⟨"file:///ws/a.py", "Page"⟩) ([], [])
      (false, [twiceClass]) (twiceKept, twiceCalls) := by
    decide +kernel
  have hlonger : Ends (expand twice.host {} ⟨"file:///ws/a.py", "Foobar"⟩) (twiceKept, twiceCalls)
      (false, []) (twiceKept, .jumpToDefinition "file:///ws/a.py" ⟨1, 13⟩ :: twiceCalls) := by
    decide +kernel
  have hnames : Names twiceKept twicePlace twiceText twiceLine twiceClass :=
    ⟨rfl, by decide +kernel, hline, by decide +kernel⟩
  have hheads : ClassHeader.Heads twiceLine "Foo".toList :=
    ⟨[], [' '], '(' :: "Page):".toList, by decide, List.all_eq_true.1 (by decide), by decide, '(', _,
      rfl, .inl rfl⟩
  obtain ⟨hreads, hopens⟩ := named_class_found twice.host {}
  obtain ⟨hfound, hlook⟩ := hreads twiceText.toList "Foo" hname
  obtain ⟨-, -, hany, -⟩ := hfound 2 twiceHeader hheader
  obtain ⟨-, hsome⟩ := hlook 3 twiceLine hline hheads
  obtain ⟨-, hopen⟩ := hopens _ _ _ _ hends twiceClass (List.mem_singleton.2 rfl)
  have hlater : GoesOn twice.host {} (twiceKept, twiceCalls) (twiceKept, _) :=
    .single ⟨_, _, hlonger⟩
  exact ⟨hname, hheader, hany, hends, hnames, hheads, hsome, _, hlater,
    hopen twicePlace twiceText twiceLine hnames hheads _ hlater⟩

end Ancestry

end LozengeNav
