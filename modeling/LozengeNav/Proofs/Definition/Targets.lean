import LozengeNav.Definition
import LozengeNav.Proofs.Files.Plain
import LozengeNav.Proofs.Reference
import LozengeNav.Proofs.SourceIndex.Recall

/-! # Where a reference may lead

A lookup over an index of sources depends on the files alone, whatever outlines
are kept. Where it leads, there is a file, near the document or found in the
workspace: the lookup gives the start of the file or a symbol of its outline.
-/

namespace LozengeNav

namespace Search

open Query

theorem depthFrom_determined {σ τ α κ : Type} [DecidableEq κ] {I : σ → Prop}
    {openNode : α → StateT τ (Query σ) (Bool × List α)} (key : α → κ)
    (hopen : ∀ a, DeterminedFrom I (openNode a)) (fuel : Nat) (stack : List α) (seen : List κ) :
    DeterminedFrom I (depthFrom openNode key fuel stack seen) := by
  induction fuel generalizing stack seen with
  | zero =>
      induction stack with
      | nil =>
          rw [depthFrom.eq_def]
          exact determinedFrom_pure false
      | cons node rest ih =>
          rw [depthFrom.eq_def]
          by_cases hseen : key node ∈ seen
          · simpa only [if_pos hseen] using ih
          · simpa only [if_neg hseen] using determinedFrom_pure false
  | succ fuel ih =>
      induction stack with
      | nil =>
          rw [depthFrom.eq_def]
          exact determinedFrom_pure false
      | cons node rest ihrest =>
          rw [depthFrom.eq_def]
          by_cases hseen : key node ∈ seen
          · simpa only [if_pos hseen] using ihrest
          · simp only [if_neg hseen]
            refine determinedFrom_bind (hopen node) fun found => ?_
            cases found.1 with
            | true => exact determinedFrom_pure true
            | false => exact ih _ _

end Search

namespace SymbolMatch

theorem exists_symbol_of_mem_ofSymbols {name : String} {symbols : List WorkspaceSymbol}
    {hit : SymbolMatch} (h : hit ∈ ofSymbols name symbols) :
    ∃ symbol ∈ symbols, hit.location = symbol.location := by
  obtain ⟨symbol, hsymbol, hmatch⟩ := List.mem_filterMap.1 h
  refine ⟨symbol, hsymbol, ?_⟩
  unfold ofSymbol? at hmatch
  split at hmatch
  · split at hmatch <;> cases hmatch <;> rfl
  · cases hmatch

end SymbolMatch

open Query SourceIndex

section Recalls

variable {past : List FileTree} {t : FileTree} (htells : FileTree.Recallable past) (ht : t ∈ past)
  (x : SourceIndex)

/-- A location in a file that was looked at beside a document or found in the
workspace: its start or a symbol of its outline. -/
structure Target (t : FileTree) (near : List Path) (p : Path) (l : Location) : Prop where
  file : t.isFile p = .ok true
  uri : p.toUri = .ok l.uri
  found : p ∈ near ∨ ∃ pattern files, x.workspace.glob t pattern = .ok files ∧ p ∈ files
  span : l = .fileStart l.uri ∨ ∃ symbol ∈ freshOutline t p, l = symbol.location l.uri

/-! ## Files of a name -/

namespace LocalFile

variable {I : IndexState → Prop} (hI : ∀ s, I s → s.tree = t)

include hI

theorem firstFile?_determined (paths : List Path) :
    Determined I (fun found => ∀ p ∈ found, p ∈ paths ∧ t.isFile p = .ok true)
      (firstFile? x.host paths) := by
  induction paths with
  | nil => exact determined_pure (by simp)
  | cons path rest ih =>
      refine determined_bind
        (determined_get (fun s hs => by rw [hI s hs]) (determined_ofExcept fun found h => h))
        fun found hfound => ?_
      cases found with
      | true =>
          refine determined_pure ?_
          rintro p ⟨⟩
          exact ⟨List.mem_cons_self, hfound⟩
      | false =>
          refine ih.mono fun found hfound p hp => ?_
          obtain ⟨hmem, hfile⟩ := hfound p hp
          exact ⟨List.mem_cons_of_mem path hmem, hfile⟩

theorem firstFound?_determined (names : List String) :
    Determined I
      (fun found => ∀ uri ∈ found, ∃ pattern files, x.workspace.glob t pattern = .ok files ∧
        ∃ p ∈ files, p.toUri = .ok uri)
      (firstFound? x.host names) := by
  induction names with
  | nil => exact determined_pure (by simp)
  | cons name rest ih =>
      refine determined_bind
        (determined_get (fun s hs => by rw [hI s hs]) (determined_ofExcept fun found h => h))
        fun found hfound => ?_
      cases found with
      | nil => exact ih
      | cons first others =>
          refine determined_pure ?_
          rintro uri ⟨⟩
          exact ⟨_, Workspace.exists_of_mem_findFiles hfound List.mem_cons_self⟩

theorem resolve_determined (extension name : String) (directory : Path) :
    Determined I
      (fun found => ∀ uri ∈ found,
        ∃ p, Target x t (nearby directory (candidates name extension)) p (.fileStart uri))
      (resolve x.host extension name directory) := by
  refine determined_bind (firstFile?_determined x hI _) fun found hfound => ?_
  cases found with
  | some path =>
      obtain ⟨hnear, hfile⟩ := hfound path rfl
      refine determined_bind (determined_lift fun uri h => h) fun uri huri => ?_
      refine determined_pure ?_
      rintro _ ⟨⟩
      exact ⟨path, hfile, huri, .inl hnear, .inl rfl⟩
  | none =>
      refine (firstFound?_determined x hI _).mono fun found hfound uri huri => ?_
      obtain ⟨pattern, files, hfiles, p, hp, hpath⟩ := hfound uri huri
      exact ⟨p, Workspace.isFile_of_mem_glob hfiles hp, hpath, .inr ⟨pattern, files, hfiles, hp⟩,
        .inl rfl⟩

end LocalFile

/-! ## Descent -/

namespace Ancestry

theorem source_determined (uri : String) :
    DeterminedFrom (IndexState.Recalls past t) (source x.host uri) := by
  refine determinedFrom_get fun sources => ?_
  cases sources.lookup uri with
  | some text => exact determinedFrom_pure text
  | none =>
      refine determinedFrom_bind (determinedFrom_lift (P := fun _ => True) ?_) fun text => ?_
      · exact determined_get (fun s hs => by rw [hs.tree]) (determined_pure trivial)
      · exact determinedFrom_bind (determinedFrom_modify _) fun _ => determinedFrom_pure text

theorem nameAt?_determined (location : Location) :
    DeterminedFrom (IndexState.Recalls past t) (nameAt? x.host location) := by
  refine determinedFrom_bind (source_determined x location.uri) fun text => ?_
  cases text with
  | none => exact determinedFrom_pure none
  | some text =>
      dsimp only
      cases (Text.lines text.toList)[location.span.start.line]? with
      | none => exact determinedFrom_pure none
      | some line => exact determinedFrom_pure _

theorem followLocations_determined (base : BaseClass) (locations : List Location)
    (found : List ClassRef) :
    DeterminedFrom (IndexState.Recalls past t)
      (followLocations x.host base locations found) := by
  induction locations generalizing found with
  | nil => exact determinedFrom_pure (false, found)
  | cons location rest ih =>
      rw [followLocations]
      cases base.definedIn location.uri with
      | true => exact determinedFrom_pure (true, [])
      | false =>
          refine determinedFrom_bind (nameAt?_determined x location) fun name => ?_
          cases name with
          | none => exact ih found
          | some name => exact ih _

include htells ht

theorem followBases_determined (base : BaseClass) (uri : String) (bases : List BaseReference)
    (found : List ClassRef) :
    DeterminedFrom (IndexState.Recalls past t) (followBases x.host base uri bases found) := by
  induction bases generalizing found with
  | nil => exact determinedFrom_pure (false, found)
  | cons reference rest ih =>
      refine determinedFrom_bind (determinedFrom_lift (P := fun _ => True) <| determined_bind
        (jump_determined htells ht x uri ⟨reference.line, reference.column⟩) fun _ _ =>
          determined_pure trivial) fun locations => ?_
      refine determinedFrom_bind (followLocations_determined x base _ found) fun followed => ?_
      obtain ⟨reached, others⟩ := followed
      cases reached with
      | true => exact determinedFrom_pure (true, [])
      | false => exact ih others

theorem expand_determined (base : BaseClass) (ref : ClassRef) :
    DeterminedFrom (IndexState.Recalls past t) (expand x.host base ref) := by
  refine determinedFrom_bind (source_determined x ref.uri) fun text => ?_
  cases text with
  | none => exact determinedFrom_pure (false, [])
  | some text =>
      dsimp only
      cases classHeader? text.toList ref.name with
      | none => exact determinedFrom_pure (false, [])
      | some header => exact followBases_determined htells ht x base ref.uri _ []

theorem byChase_determined (base : BaseClass) (ref : ClassRef) :
    Determined (IndexState.Recalls past t) (fun _ => True) (byChase x.host base ref) := by
  have hbound : ∀ s : IndexState, s.Recalls past t →
      x.host.classBound s = classBound ⟨t, []⟩ := by
    intro s hs
    rw [← hs.tree]
    rfl
  refine determined_get (fun s hs => by rw [hbound s hs]) ?_
  exact (Search.depthFrom_determined id (fun c => expand_determined htells ht x base c) _ _ _).run' []

theorem descends_determined (base : BaseClass) (uri name : String) :
    Determined (IndexState.Recalls past t) (fun _ => True)
      (descends x.host base uri name) := by
  refine determined_bind (P := (· = .chase)) ?_ ?_
  · refine determined_bind (documentOutline_determined htells ht uri) fun outline _ => ?_
    cases entry? (outline.getD []) name with
    | none => exact determined_pure rfl
    | some symbol => exact determined_pure rfl
  · rintro strategy rfl
    exact byChase_determined htells ht x base ⟨uri, name⟩

end Ancestry

/-! ## Symbols of a name -/

namespace ForeignSymbols

include htells ht

theorem qualifies_determined (base : BaseClass) (hit : SymbolMatch) :
    Determined (IndexState.Recalls past t) (fun _ => True) (qualifies x.host base hit) := by
  cases hit with
  | function location => exact determined_pure trivial
  | method location enclosing =>
      refine determined_bind (P := fun _ => True) ?_ fun found _ => ?_
      · cases enclosing with
        | some name => exact determined_pure trivial
        | none =>
            exact determined_bind (documentOutline_determined htells ht location.uri) fun _ _ =>
              determined_pure trivial
      · cases found with
        | none => exact determined_pure trivial
        | some name => exact Ancestry.descends_determined htells ht x base location.uri name

theorem keep_determined (base : BaseClass) (hits : List SymbolMatch) :
    Determined (IndexState.Recalls past t)
      (fun found => ∀ l ∈ found, ∃ hit ∈ hits, l = hit.location) (keep x.host base hits) := by
  induction hits with
  | nil => exact determined_pure nofun
  | cons hit rest ih =>
      refine determined_bind (qualifies_determined htells ht x base hit) fun qualified _ => ?_
      refine determined_bind ih fun others hothers => determined_pure fun l hl => ?_
      have hmem : l = hit.location ∨ l ∈ others := by
        cases qualified with
        | true => exact List.mem_cons.1 hl
        | false => exact .inr hl
      rcases hmem with rfl | hl
      · exact ⟨hit, List.mem_cons_self, rfl⟩
      · obtain ⟨other, hother, heq⟩ := hothers l hl
        exact ⟨other, List.mem_cons_of_mem hit hother, heq⟩

theorem resolve_determined (near : List Path) (base : BaseClass) (name : String) :
    Determined (IndexState.Recalls past t) (fun found => ∀ l ∈ found, ∃ p, Target x t near p l)
      (resolve x.host base name) := by
  have hsymbols : Determined (IndexState.Recalls past t)
      (fun found => ∀ symbol ∈ found.getD [], ∃ files, x.workspace.pythonFiles t = .ok files ∧
        ∃ path ∈ files, Outlined t path symbol.location)
      (x.host.workspaceSymbols name) :=
    determined_bind (symbols_determined htells ht x name) fun _ h => determined_pure h
  refine determined_bind hsymbols fun symbols hsymbols => ?_
  refine (keep_determined htells ht x base _).mono fun found hfound l hl => ?_
  obtain ⟨hit, hhit, rfl⟩ := hfound l hl
  obtain ⟨symbol, hsymbol, hlocation⟩ := SymbolMatch.exists_symbol_of_mem_ofSymbols hhit
  obtain ⟨files, hfiles, p, hp, huri, entry, hentry, hspan⟩ := hsymbols symbol hsymbol
  rw [hlocation]
  exact ⟨p, Workspace.isFile_of_mem_glob hfiles hp, huri, .inr ⟨_, files, hfiles, hp⟩,
    .inr ⟨entry, hentry, hspan⟩⟩

end ForeignSymbols

include htells ht in
theorem definition_determined (nav : Navigation) (document : Document) (position : Position) :
    Determined (IndexState.Recalls past t)
      (fun found => ∀ l ∈ found,
        ∃ reference, Reference.at? (document.line position.line) position.column = some reference ∧
          ∃ p, Target x t (LocalFile.nearby document.path.parent
            (LocalFile.candidates (String.ofList reference.name) nav.extension)) p l)
      (nav.definition x.host document position) := by
  unfold Navigation.definition
  cases hreference : Reference.at? (document.line position.line) position.column with
  | none => exact determined_pure nofun
  | some reference =>
      refine determined_bind (LocalFile.resolve_determined x (fun _ hs => hs.tree) nav.extension
        (String.ofList reference.name) document.path.parent) fun found hfound => ?_
      cases found with
      | some uri =>
          refine determined_pure fun l hl => ?_
          rw [List.mem_singleton.1 hl]
          exact ⟨reference, rfl, hfound uri rfl⟩
      | none =>
          dsimp only
          cases reference.isDotted with
          | true => exact determined_pure nofun
          | false =>
              have hfunctions := ForeignSymbols.resolve_determined htells ht x
                (LocalFile.nearby document.path.parent
                  (LocalFile.candidates (String.ofList reference.name) nav.extension))
                nav.base (String.ofList reference.name)
              exact hfunctions.mono fun found hfound l hl => ⟨reference, rfl, hfound l hl⟩

end Recalls

/-! ## Plain targets -/

theorem isName_of_spelled {front extension : List Char} {file : String}
    (hbegins : Reference.Begins front) (hspelled : Reference.Spelled front)
    (hextension : '/' ∉ extension) (hfile : file.toList = front ++ '.' :: extension) :
    Path.IsName file ∧ Uri.hasDrive ('/' :: file.toList) = false := by
  obtain ⟨c, rest, rfl, hc⟩ := hbegins
  refine ⟨⟨?_, ?_, ?_⟩, ?_⟩
  · rintro rfl
    simp at hfile
  · intro hslash
    rw [hfile] at hslash
    rcases List.mem_append.1 hslash with hslash | hslash
    · exact hspelled.not_mem (by decide) (by decide) hslash
    · rcases List.mem_cons.1 hslash with hdot | hslash
      · cases hdot
      · exact hextension hslash
  · rintro rfl
    have hdot : c = '.' := by
      have hlist : ".".toList = ['.'] := rfl
      rw [hlist, List.cons_append, List.cons.injEq] at hfile
      exact hfile.1.symm
    rw [hdot] at hc
    exact absurd hc (by decide)
  · rw [hfile]
    cases rest with
    | nil => simp [Path.hasDrive_cons]
    | cons d others =>
        have hcolon : d ≠ ':' := by
          rintro rfl
          have hmem : ':' ∈ c :: ':' :: others := by simp
          exact hspelled.not_mem (by decide) (by decide) hmem
        rw [List.cons_append, List.cons_append, Path.hasDrive_cons, decide_eq_false hcolon,
          Bool.false_and]

theorem plain_of_mem_nearby {document : Path} (hdocument : document.Plain)
    {name extension : String} (hbegins : Reference.Begins name.toList)
    (hspelled : Reference.Spelled name.toList) (hextension : '/' ∉ extension.toList) {p : Path}
    (hp : p ∈ LocalFile.nearby document.parent (LocalFile.candidates name extension)) :
    p.Plain := by
  obtain ⟨directory, hdirectory, hp⟩ := List.mem_flatMap.1 hp
  obtain ⟨file, hfile, rfl⟩ := List.mem_map.1 hp
  have hdot : ".".toList = ['.'] := rfl
  have hunderscore : "_".toList = ['_'] := rfl
  have hname : Path.IsName file ∧ Uri.hasDrive ('/' :: file.toList) = false := by
    rw [LocalFile.candidates, List.mem_cons, List.mem_singleton] at hfile
    rcases hfile with rfl | rfl
    · refine isName_of_spelled hbegins hspelled hextension ?_
      simp [hdot]
    · have hfront : Reference.Spelled ('_' :: name.toList) :=
        List.forall_mem_cons.2 ⟨.inl (by decide), hspelled⟩
      refine isName_of_spelled ⟨'_', name.toList, rfl, by decide⟩ hfront hextension ?_
      simp [hdot, hunderscore]
  obtain ⟨⟨hempty, hslash, hdots⟩, hdrive⟩ := hname
  have hprefix : directory.anchor = .root ∧ directory.parts <+: document.parts := by
    rw [List.mem_cons, List.mem_singleton] at hdirectory
    rcases hdirectory with rfl | rfl
    · exact ⟨hdocument.root, List.dropLast_prefix _⟩
    · exact ⟨hdocument.root, (List.dropLast_prefix _).trans (List.dropLast_prefix _)⟩
  rw [Path.join_of_name directory hslash hempty hdots, Path.child, hprefix.1]
  exact Path.plain_child_of_prefix hdocument hprefix.2 ⟨hempty, hslash, hdots⟩ hdrive

/-- The workspace is at a plain path that names something, and all entries have names. -/
structure SourceIndex.PlainIn (x : SourceIndex) (t : FileTree) : Prop where
  root : x.workspace.root.Plain
  parts : x.workspace.root.parts ≠ []
  named : t.Named

/-- From a plain document in a plain workspace, a lookup leads into plain paths. -/
theorem Target.plain {x : SourceIndex} {t : FileTree} {near : List Path} {p : Path} {l : Location}
    (h : Target x t near p l) (hx : x.PlainIn t) (hnear : ∀ q ∈ near, q.Plain) : p.Plain := by
  rcases h.found with hp | ⟨pattern, files, hfiles, hp⟩
  · exact hnear p hp
  · exact Workspace.plain_of_mem_glob hx.named hx.root hx.parts hfiles hp

end LozengeNav
