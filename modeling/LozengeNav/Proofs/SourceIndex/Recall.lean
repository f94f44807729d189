import LozengeNav.Proofs.Determined
import LozengeNav.Proofs.Files.History
import LozengeNav.Proofs.Workspace

/-! # What an index recalls

An outline is kept beside the time its file was modified, through writes and
removals of files. As long as times tell contents apart, an outline that is found
again is the one that would be read, so a lookup gives what it would give if
nothing was kept. Directories have times too, but an outline is only asked for
where a file is.
-/

namespace LozengeNav

/-- Every outline that is kept is that of the content which its path had at that
time, in one of the trees so far. -/
structure IndexState.Recalls (past : List FileTree) (t : FileTree) (s : IndexState) : Prop where
  tree : s.tree = t
  kept : ∀ k ∈ s.kept, ∃ before ∈ past, ∃ content,
    before.HasFile k.path content k.modified ∧
      k.outline = outlineOf (Text.Utf8.decodeLossy content)

theorem IndexState.recalls_fresh (past : List FileTree) (t : FileTree) :
    IndexState.Recalls past t ⟨t, []⟩ :=
  ⟨rfl, fun _ hk => absurd hk List.not_mem_nil⟩

theorem FileTree.HasFile.freshOutline_eq {t : FileTree} {path : Path} {content : List UInt8}
    {modified : Int} (h : t.HasFile path content modified) :
    SourceIndex.freshOutline t path = outlineOf (Text.Utf8.decodeLossy content) := by
  rw [SourceIndex.freshOutline, h.read_eq]

namespace SourceIndex

open Query

def Outlined (t : FileTree) (path : Path) (l : Location) : Prop :=
  path.toUri = .ok l.uri ∧ ∃ symbol ∈ freshOutline t path, l = symbol.location l.uri

theorem isFile_of_source?_eq_some {t : FileTree} {path : Path} {text : List Char}
    (h : source? t path = .ok (some text)) : t.isFile path = .ok true := by
  unfold source? at h
  cases hread : t.readText path with
  | ok text => exact FileTree.isFile_of_readText hread
  | error fault =>
      rw [hread] at h
      cases fault <;> cases h

section Recalls

variable {past : List FileTree} {t : FileTree}

/-! ## Outlines -/

theorem keptOutline?_of_recalls (htells : FileTree.Recallable past) (ht : t ∈ past)
    {s : IndexState} (hs : s.Recalls past t) {path : Path} {content : List UInt8} {modified : Int}
    (hfile : t.HasFile path content modified) {outline : List OutlineSymbol}
    (h : keptOutline? s path modified = some outline) : outline = freshOutline t path := by
  obtain ⟨k, hk, rfl⟩ := Option.map_eq_some_iff.1 h
  obtain ⟨hfind, hcurrent⟩ := Option.filter_eq_some_iff.1 hk
  have hpath : k.path = path := by simpa using List.find?_some hfind
  have hmodified : k.modified = modified := by simpa using hcurrent
  obtain ⟨before, hbefore, content', hfile', houtline⟩ := hs.kept k (List.mem_of_find?_eq_some hfind)
  rw [hpath, hmodified] at hfile'
  rw [houtline, hfile.freshOutline_eq,
    htells before hbefore t ht path content' content modified hfile' hfile]

theorem recalls_keep (ht : t ∈ past) {s : IndexState} (hs : s.Recalls past t) {path : Path}
    {content : List UInt8} {modified : Int} (hfile : t.HasFile path content modified) :
    (keep s ⟨path, modified, freshOutline t path⟩).Recalls past t := by
  refine ⟨hs.tree, fun k hk => ?_⟩
  rcases List.mem_cons.1 hk with rfl | hk
  · exact ⟨t, ht, content, hfile, hfile.freshOutline_eq⟩
  · exact hs.kept k (List.mem_filter.1 hk).1

theorem outline_run {s : IndexState} {path : Path} {modified : Int}
    (h : s.tree.modified? path = some modified) :
    (outline path).run.run s =
      match keptOutline? s path modified with
      | some kept => (.ok kept, s)
      | none =>
          (.ok (freshOutline s.tree path), keep s ⟨path, modified, freshOutline s.tree path⟩) := by
  rw [outline, run_get, h]
  cases hkept : keptOutline? s path modified with
  | some kept =>
      simp only [hkept]
      rfl
  | none =>
      simp only [hkept]
      rfl

variable (htells : FileTree.Recallable past) (ht : t ∈ past)

include htells ht

theorem outline_determined {path : Path} (hpath : t.isFile path = .ok true) :
    Determined (IndexState.Recalls past t) (· = freshOutline t path) (outline path) := by
  obtain ⟨content, modified, hfile⟩ := FileTree.exists_hasFile_of_isFile hpath
  refine ⟨.ok (freshOutline t path), by simp, fun s hs => ?_⟩
  rw [← hs.tree] at hfile
  rw [outline_run hfile.modified?_eq]
  rw [hs.tree] at hfile ⊢
  cases hkept : keptOutline? s path modified with
  | some kept =>
      rw [keptOutline?_of_recalls htells ht hs hfile hkept]
      exact ⟨s, rfl, hs⟩
  | none => exact ⟨_, rfl, recalls_keep ht hs hfile⟩

theorem documentOutline_determined (uri : String) :
    Determined (IndexState.Recalls past t) (fun _ => True) (documentOutline uri) := by
  unfold documentOutline
  cases localPath? uri with
  | none => exact determined_pure trivial
  | some path =>
      refine determined_get (fun s hs => by rw [hs.tree]) ?_
      refine determined_bind (determined_ofExcept fun found hfound => hfound) fun found hfound => ?_
      cases found with
      | false => exact determined_pure trivial
      | true =>
          exact determined_bind (outline_determined htells ht hfound) fun _ _ =>
            determined_pure trivial

/-! ## Symbols -/

theorem symbolsIn_determined (name : String) {paths : List Path}
    (hpaths : ∀ path ∈ paths, t.isFile path = .ok true) :
    Determined (IndexState.Recalls past t)
      (fun found => ∀ symbol ∈ found, ∃ path ∈ paths, Outlined t path symbol.location)
      (symbolsIn name paths) := by
  induction paths with
  | nil => exact determined_pure nofun
  | cons path rest ih =>
      obtain ⟨hpath, hrest⟩ := List.forall_mem_cons.1 hpaths
      have hbehind : ∀ hits : List WorkspaceSymbol,
          (∀ symbol ∈ hits, Outlined t path symbol.location) →
          Determined (IndexState.Recalls past t)
            (fun found => ∀ symbol ∈ found, ∃ file ∈ path :: rest, Outlined t file symbol.location)
            (do return hits ++ (← symbolsIn name rest)) := by
        intro hits hhits
        refine determined_bind (ih hrest) fun others hothers => determined_pure ?_
        intro symbol hsymbol
        rcases List.mem_append.1 hsymbol with hmine | hother
        · exact ⟨path, List.mem_cons_self, hhits symbol hmine⟩
        · obtain ⟨file, hfile, houtlined⟩ := hothers symbol hother
          exact ⟨file, List.mem_cons_of_mem path hfile, houtlined⟩
      refine determined_bind (outline_determined htells ht hpath) ?_
      rintro outline rfl
      have hsub : ∀ symbol ∈ (freshOutline t path).filter fun s => s.name = name,
          symbol ∈ freshOutline t path := fun _ h => (List.mem_filter.1 h).1
      generalize (freshOutline t path).filter _ = found at hsub ⊢
      cases found with
      | nil => exact hbehind [] nofun
      | cons first others =>
          refine determined_bind (determined_ofExcept fun uri huri => huri) fun uri huri => ?_
          refine hbehind _ fun symbol hsymbol => ?_
          obtain ⟨entry, hentry, rfl⟩ := List.mem_map.1 hsymbol
          exact ⟨huri, entry, hsub entry hentry, rfl⟩

theorem symbols_determined (x : SourceIndex) (name : String) :
    Determined (IndexState.Recalls past t)
      (fun found => ∀ symbol ∈ found, ∃ files, x.workspace.pythonFiles t = .ok files ∧
        ∃ path ∈ files, Outlined t path symbol.location)
      (x.symbols name) := by
  refine determined_get (fun s hs => by rw [hs.tree]) ?_
  refine determined_bind (determined_ofExcept fun files hfiles => hfiles) fun files hfiles => ?_
  refine (symbolsIn_determined htells ht name fun path hpath =>
    Workspace.isFile_of_mem_glob hfiles hpath).mono fun found hfound symbol hsymbol => ?_
  exact ⟨files, hfiles, hfound symbol hsymbol⟩

/-! ## Jumps -/

theorem nameTable_determined {path : Path} (hpath : t.isFile path = .ok true) (module : String)
    (text : List Char) :
    Determined (IndexState.Recalls past t) (fun _ => True) (nameTable path module text) :=
  determined_bind (outline_determined htells ht hpath) fun _ _ => determined_pure trivial

theorem memberIn_determined {file : Path} (hfile : t.isFile file = .ok true)
    (module head : String) (tail : List String) {follow : Option Follow}
    (hfollow : ∀ go ∈ follow, ∀ parts,
      Determined (IndexState.Recalls past t) (fun _ => True) (go parts)) :
    Determined (IndexState.Recalls past t) (fun _ => True)
      (memberIn file module head tail follow) := by
  refine determined_bind (outline_determined htells ht hfile) fun outline _ => ?_
  cases topLevel? outline head with
  | some top =>
      dsimp only
      cases symbolOf? outline top tail with
      | some symbol =>
          exact determined_bind (P := fun _ => True) (determined_ofExcept fun _ _ => trivial)
            fun _ _ => determined_pure trivial
      | none => exact determined_pure trivial
  | none =>
      cases follow with
      | none => exact determined_pure trivial
      | some go =>
          refine determined_get (fun s hs => by rw [hs.tree]) ?_
          refine determined_bind (determined_ofExcept fun _ _ => trivial) fun text _ => ?_
          cases text with
          | none => exact determined_pure trivial
          | some text =>
              refine determined_bind (nameTable_determined htells ht hfile module text)
                fun table _ => ?_
              cases table.get? head with
              | none => exact determined_pure trivial
              | some binding => exact hfollow go rfl _

theorem locateFrom_determined (x : SourceIndex) {follow : Option Follow}
    (hfollow : ∀ go ∈ follow, ∀ parts,
      Determined (IndexState.Recalls past t) (fun _ => True) (go parts))
    (rest done : List String) :
    Determined (IndexState.Recalls past t) (fun _ => True) (x.locateFrom follow rest done) := by
  -- The induction is on the parts that may still name the module.
  induction done generalizing rest with
  | nil => exact determined_pure trivial
  | cons last before ih =>
      refine determined_get (fun s hs => by rw [hs.tree]) ?_
      refine determined_bind (determined_ofExcept fun found hfound => hfound) fun found hfound => ?_
      cases found with
      | none => exact ih _
      | some file =>
          have hmodule := moduleFile?_eq_ok hfound
          have hfile := Fault.yes_eq_true_iff.1 (yes_isFile_of_module? hmodule.symm)
          cases rest with
          | nil =>
              exact determined_bind (determined_ofExcept fun _ _ => trivial) fun _ _ =>
                determined_pure trivial
          | cons head tail => exact memberIn_determined htells ht hfile _ head tail hfollow

theorem locate_determined (x : SourceIndex) (hops : Nat) (parts : List String) :
    Determined (IndexState.Recalls past t) (fun _ => True) (x.locate hops parts) := by
  induction hops generalizing parts with
  | zero => exact locateFrom_determined htells ht x (by simp) [] parts.reverse
  | succ hops ih =>
      refine locateFrom_determined htells ht x ?_ [] parts.reverse
      rintro go ⟨⟩
      exact ih

theorem locateExpression_determined (x : SourceIndex) {path : Path}
    (hpath : t.isFile path = .ok true) (text : List Char) (expression : String) :
    Determined (IndexState.Recalls past t) (fun _ => True)
      (x.locateExpression path text expression) := by
  refine determined_get (fun s hs => by rw [hs.tree]) ?_
  refine determined_bind (determined_ofExcept fun _ _ => trivial) fun module _ => ?_
  refine determined_bind (nameTable_determined htells ht hpath module text) fun table _ => ?_
  cases ModuleName.pieces expression with
  | nil => exact determined_pure trivial
  | cons head tail =>
      dsimp only
      cases table.get? head with
      | none => exact determined_pure trivial
      | some binding =>
          dsimp only
          cases binding.origin with
          | definition => exact memberIn_determined htells ht hpath module head tail (by simp)
          | _ => exact locate_determined htells ht x hopLimit _

theorem jump_determined (x : SourceIndex) (uri : String) (position : Position) :
    Determined (IndexState.Recalls past t) (fun _ => True) (x.jump uri position) := by
  unfold jump
  cases localPath? uri with
  | none => exact determined_pure trivial
  | some path =>
      refine determined_get (fun s hs => by rw [hs.tree]) ?_
      refine determined_bind (determined_ofExcept fun text htext => htext) fun text htext => ?_
      cases text with
      | none => exact determined_pure trivial
      | some text =>
          have hpath := isFile_of_source?_eq_some htext
          dsimp only
          cases (Text.lines text)[position.line]? with
          | none => exact determined_pure trivial
          | some line =>
              dsimp only
              cases expressionAt? line position.column with
              | none => exact determined_pure trivial
              | some expression =>
                  exact determined_bind (locateExpression_determined htells ht x hpath text expression)
                    fun _ _ => determined_pure trivial

end Recalls

end SourceIndex

end LozengeNav
