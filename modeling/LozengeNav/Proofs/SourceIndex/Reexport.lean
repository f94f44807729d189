import LozengeNav.Proofs.SourceIndex.Modules

/-! # Where a qualified name leads

A qualified name is cut behind its longest prefix that names a module. What is
left is a symbol of that module or a name that the module binds; in the latter
case the name hops to what is bound. The relations are stated on the files alone
and put no bound on the number of hops, which may go round in circles.
-/

namespace LozengeNav

namespace SourceIndex

/-! ## Cutting a name -/

/-- No longer prefix of a name than `parts` has a module. -/
structure Asked (x : SourceIndex) (t : FileTree) (q : String) (parts rest : List String) :
    Prop where
  spelled : ModuleName.pieces q = parts ++ rest
  nonempty : parts ≠ []
  longest : ∀ extra, extra ≠ [] → extra <+: rest → x.module? t (parts ++ extra) = none

/-- The longest prefix of a name that has a module, what is left of the name, and
the file of the module. -/
structure Cut (x : SourceIndex) (t : FileTree) (q : String) (parts rest : List String)
    (file : Path) : Prop extends Asked x t q parts rest where
  found : x.module? t parts = some file

/-- What a module binds a name to, if its source can be read. -/
def bound? (t : FileTree) (parts : List String) (file : Path) (name : String) : Option Binding := do
  let text ← (t.readText file).toOption
  (NameTable.build (ModuleName.spell parts) (isPackage file) (freshOutline t file)
    (importsOf text)).get? name

/-! ## Following a name -/

/-- The module of a name has no symbol for the rest but binds its head; the name
bound there, with the tail behind it, is next. -/
inductive Hop (x : SourceIndex) (t : FileTree) (q : String) : String → Prop where
  | bound {parts tail : List String} {head : String} {file : Path} {b : Binding} :
      Cut x t q parts (head :: tail) file → topLevel? (freshOutline t file) head = none →
      bound? t parts file head = some b → Hop x t q (ModuleName.spell (b.qualified :: tail))

/-- One name leads to another in a number of hops. -/
inductive Hops (x : SourceIndex) (t : FileTree) : Nat → String → String → Prop where
  | refl (q : String) : Hops x t 0 q q
  | head {k : Nat} {q q' q'' : String} : Hop x t q q' → Hops x t k q' q'' → Hops x t (k + 1) q q''

/-- A name stands for a span of a file: for the start of a module, for a top-level
symbol of one, or for a member of such a symbol. -/
inductive Lands (x : SourceIndex) (t : FileTree) (q : String) : Path → Span → Prop where
  | module {parts : List String} {file : Path} :
      Cut x t q parts [] file → Lands x t q file .origin
  | symbol {parts : List String} {name : String} {file : Path} {s : OutlineSymbol} :
      Cut x t q parts [name] file → topLevel? (freshOutline t file) name = some s →
      Lands x t q file s.nameSpan
  | member {parts : List String} {head name : String} {file : Path} {top s : OutlineSymbol} :
      Cut x t q parts [head, name] file → topLevel? (freshOutline t file) head = some top →
      member? (freshOutline t file) head name = some s → Lands x t q file s.nameSpan

/-- A name leads to a location in at most `n` hops. -/
def LeadsTo (x : SourceIndex) (t : FileTree) (n : Nat) (q : String) (l : Location) : Prop :=
  ∃ k ≤ n, ∃ q' file, Hops x t k q q' ∧ Lands x t q' file l.span ∧ file.toUri = .ok l.uri

/-! ## Questions with an answer -/

def ModulesAnswered (x : SourceIndex) (t : FileTree) (q : String) : Prop :=
  ∀ parts rest, Asked x t q parts rest → ∃ found, x.moduleFile? t parts = .ok found

/-- Every question that looking a name up in its module asks of the file system
has an answer, and the file that the name stands for has a URI. -/
structure Answered (x : SourceIndex) (t : FileTree) (q : String) : Prop where
  modules : ModulesAnswered x t q
  target : ∀ file span, Lands x t q file span → ∃ uri, file.toUri = .ok uri

/-- The questions about all names that a name leads to in at most `n` hops have an
answer. -/
def Clear (x : SourceIndex) (t : FileTree) (n : Nat) (q : String) : Prop :=
  ∀ k ≤ n, ∀ q', Hops x t k q q' → Answered x t q'

/-! ## There is one way to follow a name -/

section Unique

variable {x : SourceIndex} {t : FileTree} {q q' : String} {parts parts' rest rest' : List String}
  {file file' : Path}

theorem Cut.prefix_of_asked (h : Cut x t q parts rest file) (h' : Asked x t q parts' rest') :
    parts <+: parts' := by
  have happ : parts ++ rest = parts' ++ rest' := h.spelled.symm.trans h'.spelled
  rcases List.prefix_or_prefix_of_prefix (List.prefix_append parts rest)
    (happ ▸ List.prefix_append parts' rest') with hprefix | ⟨extra, hextra⟩
  · exact hprefix
  · cases extra with
    | nil => exact ⟨[], by rw [List.append_nil] at hextra ⊢; exact hextra.symm⟩
    | cons first others =>
        have hrest : first :: others <+: rest' := by
          rw [← hextra, List.append_assoc] at happ
          exact ⟨rest, List.append_cancel_left happ⟩
        have hnone := h'.longest (first :: others) (List.cons_ne_nil _ _) hrest
        rw [hextra, h.found] at hnone
        cases hnone

theorem Cut.unique (h : Cut x t q parts rest file) (h' : Cut x t q parts' rest' file') :
    parts' = parts ∧ rest' = rest ∧ file' = file := by
  have hparts : parts' = parts :=
    (h'.prefix_of_asked h.toAsked).eq_of_length_le (h.prefix_of_asked h'.toAsked).length_le
  subst hparts
  have happ : parts' ++ rest' = parts' ++ rest := h'.spelled.symm.trans h.spelled
  have hfile : some file' = some file := h'.found.symm.trans h.found
  exact ⟨rfl, List.append_cancel_left happ, Option.some.inj hfile⟩

theorem Cut.hop_iff {head : String} {tail : List String}
    (h : Cut x t q parts (head :: tail) file) :
    Hop x t q q' ↔ topLevel? (freshOutline t file) head = none ∧
      ∃ b, bound? t parts file head = some b ∧ q' = ModuleName.spell (b.qualified :: tail) := by
  constructor
  · rintro ⟨hcut, htop, hbound⟩
    obtain ⟨rfl, hrest, rfl⟩ := h.unique hcut
    cases hrest
    exact ⟨htop, _, hbound, rfl⟩
  · rintro ⟨htop, b, hbound, rfl⟩
    exact .bound h htop hbound

theorem name_of_topLevel? {outline : List OutlineSymbol} {name : String} {s : OutlineSymbol}
    (h : topLevel? outline name = some s) : s.name = name := by
  have hfound := List.find?_some h
  simp only [Bool.and_eq_true, decide_eq_true_eq] at hfound
  exact hfound.2

theorem Cut.lands_iff_origin {span : Span} (h : Cut x t q parts [] file) :
    Lands x t q file' span ↔ file' = file ∧ span = .origin := by
  constructor
  · rintro (hcut | ⟨hcut, -⟩ | ⟨hcut, -, -⟩) <;> obtain ⟨-, hrest, hfile⟩ := h.unique hcut
    · exact ⟨hfile, rfl⟩
    · cases hrest
    · cases hrest
  · rintro ⟨rfl, rfl⟩
    exact .module h

theorem Cut.lands_iff_symbol {head : String} {tail : List String} {span : Span}
    (h : Cut x t q parts (head :: tail) file) :
    Lands x t q file' span ↔ file' = file ∧ ∃ top s, topLevel? (freshOutline t file) head = some top ∧
      symbolOf? (freshOutline t file) top tail = some s ∧ span = s.nameSpan := by
  constructor
  · rintro (hcut | ⟨hcut, htop⟩ | ⟨hcut, htop, hmember⟩) <;>
      obtain ⟨-, hrest, rfl⟩ := h.unique hcut <;> cases hrest
    · exact ⟨rfl, _, _, htop, rfl, rfl⟩
    · refine ⟨rfl, _, _, htop, ?_, rfl⟩
      rwa [symbolOf?, name_of_topLevel? htop]
  · rintro ⟨rfl, top, s, htop, hsymbol, rfl⟩
    cases tail with
    | nil =>
        cases hsymbol
        exact .symbol h htop
    | cons name others =>
        cases others with
        | nil =>
            rw [symbolOf?, name_of_topLevel? htop] at hsymbol
            exact .member h htop hsymbol
        | cons _ _ => cases hsymbol

theorem Lands.cut {span : Span} (h : Lands x t q file span) : ∃ parts rest, Cut x t q parts rest file := by
  obtain hcut | ⟨hcut, -⟩ | ⟨hcut, -, -⟩ := h
  · exact ⟨_, _, hcut⟩
  · exact ⟨_, _, hcut⟩
  · exact ⟨_, _, hcut⟩

theorem Hop.unique {q₁ q₂ : String} (h₁ : Hop x t q q₁) (h₂ : Hop x t q q₂) : q₁ = q₂ := by
  obtain ⟨hcut, -, hbound⟩ := h₁
  obtain ⟨-, b, hbound', rfl⟩ := hcut.hop_iff.1 h₂
  rw [hbound] at hbound'
  cases hbound'
  rfl

theorem Hop.not_lands (h : Hop x t q q') {span : Span} : ¬ Lands x t q file span := by
  obtain ⟨hcut, htop, -⟩ := h
  rw [hcut.lands_iff_symbol]
  rintro ⟨-, top, s, hsome, -⟩
  rw [htop] at hsome
  cases hsome

theorem Lands.unique {span span' : Span} (h : Lands x t q file span)
    (h' : Lands x t q file' span') : file' = file ∧ span' = span := by
  obtain ⟨parts, rest, hcut⟩ := h.cut
  cases rest with
  | nil =>
      obtain ⟨-, rfl⟩ := hcut.lands_iff_origin.1 h
      exact hcut.lands_iff_origin.1 h'
  | cons head tail =>
      obtain ⟨-, top, s, htop, hsymbol, rfl⟩ := hcut.lands_iff_symbol.1 h
      obtain ⟨hfile, top', s', htop', hsymbol', rfl⟩ := hcut.lands_iff_symbol.1 h'
      rw [htop] at htop'
      cases htop'
      rw [hsymbol] at hsymbol'
      cases hsymbol'
      exact ⟨hfile, rfl⟩

end Unique

/-! ## One hop after the other -/

section Steps

variable {x : SourceIndex} {t : FileTree} {n : Nat} {q q' : String} {l : Location}

theorem hops_of_last (h : n = 0 ∨ ∀ q', ¬ Hop x t q q') {k : Nat} (hk : k ≤ n)
    (hops : Hops x t k q q') : q' = q := by
  cases hops with
  | refl => rfl
  | head hop _ =>
      rcases h with rfl | h
      · omega
      · exact absurd hop (h _)

theorem leadsTo_iff_lands (h : n = 0 ∨ ∀ q', ¬ Hop x t q q') :
    LeadsTo x t n q l ↔ ∃ file, Lands x t q file l.span ∧ file.toUri = .ok l.uri := by
  constructor
  · rintro ⟨k, hk, q', file, hops, hlands⟩
    rw [hops_of_last h hk hops] at hlands
    exact ⟨file, hlands⟩
  · rintro ⟨file, hlands⟩
    exact ⟨0, Nat.zero_le n, q, file, .refl q, hlands⟩

theorem clear_iff_answered (h : n = 0 ∨ ∀ q', ¬ Hop x t q q') :
    Clear x t n q ↔ Answered x t q := by
  constructor
  · intro hclear
    exact hclear 0 (Nat.zero_le n) q (.refl q)
  · intro hanswered k hk q' hops
    rwa [hops_of_last h hk hops]

theorem leadsTo_succ_of_hop (h : Hop x t q q') :
    LeadsTo x t (n + 1) q l ↔ LeadsTo x t n q' l := by
  constructor
  · rintro ⟨k, hk, q'', file, hops, hlands, huri⟩
    cases hops with
    | refl => exact absurd hlands h.not_lands
    | head hop hops =>
        rw [hop.unique h] at hops
        exact ⟨_, Nat.le_of_succ_le_succ hk, q'', file, hops, hlands, huri⟩
  · rintro ⟨k, hk, q'', file, hops, hlands⟩
    exact ⟨k + 1, Nat.succ_le_succ hk, q'', file, .head h hops, hlands⟩

theorem clear_succ_of_hop (h : Hop x t q q') :
    Clear x t (n + 1) q ↔ Answered x t q ∧ Clear x t n q' := by
  constructor
  · intro hclear
    refine ⟨hclear 0 (Nat.zero_le _) q (.refl q), fun k hk q'' hops => ?_⟩
    exact hclear (k + 1) (Nat.succ_le_succ hk) q'' (.head h hops)
  · rintro ⟨hanswered, hclear⟩ k hk q'' hops
    cases hops with
    | refl => exact hanswered
    | head hop hops =>
        rw [hop.unique h] at hops
        exact hclear _ (Nat.le_of_succ_le_succ hk) q'' hops

end Steps

end SourceIndex

end LozengeNav
