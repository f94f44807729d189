import LozengeNav.SourceIndex

/-! # Outlines that are kept

Lookups keep the outlines that they read. As long as the files stay the same,
what is kept of a file is what its source says, so the result of a lookup depends
on the files alone. Results are faults or answers here, since a lookup may end
with either.
-/

namespace LozengeNav

/-- What is kept of the current version of a file is its outline. -/
def IndexState.Faithful (s : IndexState) : Prop :=
  ∀ k ∈ s.kept, s.tree.modified? k.path = some k.modified →
    k.outline = SourceIndex.freshOutline s.tree k.path

theorem IndexState.faithful_fresh (t : FileTree) : IndexState.Faithful ⟨t, []⟩ :=
  fun _ hk => absurd hk List.not_mem_nil

namespace SourceIndex

/-! ## Results of lookups -/

/-- A lookup among some files has a result, whatever outlines are kept, and keeps
true ones. -/
def Yields {α : Type} (t : FileTree) (q : Lookup α) (result : Except Fault α) : Prop :=
  ∀ s : IndexState, s.tree = t → s.Faithful →
    ∃ s', q.run.run s = (result, s') ∧ s'.tree = t ∧ s'.Faithful

section Yields

variable {α β : Type} {t : FileTree}

theorem yields_pure (a : α) : Yields t (pure a) (.ok a) :=
  fun s htree hs => ⟨s, rfl, htree, hs⟩

theorem yields_ofExcept (r : Except Fault α) : Yields t (Query.ofExcept r) r := by
  intro s htree hs
  cases r with
  | ok a => exact ⟨s, rfl, htree, hs⟩
  | error fault => exact ⟨s, rfl, htree, hs⟩

theorem yields_bind {q : Lookup α} {f : α → Lookup β} {a : α} {r : Except Fault β}
    (hq : Yields t q (.ok a)) (hf : Yields t (f a) r) : Yields t (q >>= f) r := by
  intro s htree hs
  obtain ⟨s₁, hq, htree₁, hs₁⟩ := hq s htree hs
  obtain ⟨s₂, hf, htree₂, hs₂⟩ := hf s₁ htree₁ hs₁
  refine ⟨s₂, ?_, htree₂, hs₂⟩
  rw [ExceptT.run_bind, StateT.run_bind, hq]
  exact hf

theorem yields_bind_error {q : Lookup α} {f : α → Lookup β} {fault : Fault}
    (hq : Yields t q (.error fault)) : Yields t (q >>= f) (.error fault) := by
  intro s htree hs
  obtain ⟨s₁, hq, htree₁, hs₁⟩ := hq s htree hs
  refine ⟨s₁, ?_, htree₁, hs₁⟩
  rw [ExceptT.run_bind, StateT.run_bind, hq]
  rfl

theorem yields_get {f : IndexState → Lookup β} {r : Except Fault β}
    (hf : ∀ s, s.tree = t → s.Faithful → Yields t (f s) r) : Yields t (get >>= f) r := by
  intro s htree hs
  exact hf s htree hs s htree hs

theorem yields_set {s : IndexState} (htree : s.tree = t) (hs : s.Faithful) :
    Yields t (set s) (.ok ⟨⟩) :=
  fun _ _ _ => ⟨s, rfl, htree, hs⟩

end Yields

/-! ## The outline of a file -/

theorem freshOutline_of_modified?_eq_none {t : FileTree} {path : Path}
    (h : t.modified? path = none) : freshOutline t path = [] := by
  unfold FileTree.modified? at h
  unfold freshOutline FileTree.read
  cases hlocate : t.locate true path with
  | error absence => rfl
  | ok found =>
      rw [hlocate] at h
      obtain ⟨trail, entry⟩ := found
      cases entry <;> cases h

theorem keptOutline?_eq_some {s : IndexState} (hs : s.Faithful) {path : Path} {modified : Int}
    (hmodified : s.tree.modified? path = some modified) {outline : List OutlineSymbol}
    (h : keptOutline? s path modified = some outline) : outline = freshOutline s.tree path := by
  obtain ⟨k, hk, rfl⟩ := Option.map_eq_some_iff.1 h
  obtain ⟨hfind, hcurrent⟩ := Option.filter_eq_some_iff.1 hk
  have hpath : k.path = path := by simpa using List.find?_some hfind
  have hkept : k.modified = modified := by simpa using hcurrent
  rw [← hpath]
  exact hs k (List.mem_of_find?_eq_some hfind) (by rw [hpath, hkept, hmodified])

theorem faithful_keep {s : IndexState} (hs : s.Faithful) (path : Path) (modified : Int) :
    (keep s ⟨path, modified, freshOutline s.tree path⟩).Faithful := by
  intro k hk hcurrent
  rcases List.mem_cons.1 hk with rfl | hk
  · rfl
  · exact hs k (List.mem_filter.1 hk).1 hcurrent

theorem outline_yields (t : FileTree) (path : Path) :
    Yields t (outline path) (.ok (freshOutline t path)) := by
  unfold outline
  refine yields_get fun s htree hs => ?_
  subst htree
  cases hmodified : s.tree.modified? path with
  | none =>
      rw [freshOutline_of_modified?_eq_none hmodified]
      exact yields_pure []
  | some modified =>
      cases hkept : keptOutline? s path modified with
      | some kept =>
          rw [← keptOutline?_eq_some hs hmodified hkept]
          simp only [hkept]
          exact yields_pure kept
      | none =>
          simp only [hkept]
          exact yields_bind (yields_set rfl (faithful_keep hs path modified)) (yields_pure _)

end SourceIndex

end LozengeNav
