import LozengeNav.NameTable
import LozengeNav.Proofs.ModuleName

/-! # Name tables of modules

The last import of a name decides what a module means by it. A relative import
comes in two forms: one binds a member of the package that its dots mean, the
other reads from that member as a module. Both mean the same module as long as
the dots leave something of the name of the importing module.
-/

namespace LozengeNav

namespace NameTable

/-! ## The latest binding -/

section Build

variable {module : String} {isPackage : Bool} {outline : List OutlineSymbol}

@[simp] theorem ofImport_name (module : String) (isPackage : Bool) (b : ImportBinding) :
    (ofImport module isPackage b).name = b.name := by
  cases b with
  | mk name imported member level line => cases member <;> rfl

theorem ofImport_origin_ne (module : String) (isPackage : Bool) (b : ImportBinding) :
    (ofImport module isPackage b).origin ≠ .definition := by
  cases b with
  | mk name imported member level line => cases member <;> simp [ofImport]

theorem get?_build_of_last {earlier later : List ImportBinding} {b : ImportBinding}
    (hlast : ∀ c ∈ later, c.name ≠ b.name) :
    (build module isPackage outline (earlier ++ b :: later)).get? b.name =
      some (ofImport module isPackage b) := by
  have hlater : ((later.map (ofImport module isPackage)).reverse.find?
      fun c => c.name == b.name) = none := by
    rw [List.find?_eq_none]
    intro c hc
    obtain ⟨i, hi, rfl⟩ := List.mem_map.1 (List.mem_reverse.1 hc)
    simpa using hlast i hi
  have hmap : (earlier ++ b :: later).map (ofImport module isPackage) =
      earlier.map (ofImport module isPackage) ++
        ofImport module isPackage b :: later.map (ofImport module isPackage) := by
    rw [List.map_append, List.map_cons]
  rw [get?, build, hmap, List.reverse_append, List.reverse_cons, List.append_assoc,
    List.append_assoc, List.find?_append, hlater, List.singleton_append,
    List.find?_cons_of_pos (by simp)]
  rfl

theorem exists_symbol_of_get? {imports : List ImportBinding} {name : String} {b : Binding}
    (h : (build module isPackage outline imports).get? name = some b)
    (horigin : b.origin = .definition) :
    ∃ s ∈ outline, s.container = none ∧ s.name = name := by
  have hname : b.name = name := by simpa using List.find?_some h
  rcases List.mem_append.1 (List.mem_of_find?_eq_some h) with himport | hlocal
  · obtain ⟨i, -, rfl⟩ := List.mem_map.1 (List.mem_reverse.1 himport)
    exact absurd horigin (ofImport_origin_ne module isPackage i)
  · obtain ⟨s, hs, hof⟩ := List.mem_filterMap.1 (List.mem_reverse.1 hlocal)
    unfold ofSymbol? at hof
    split at hof
    · next hkept =>
        rw [Bool.and_eq_true] at hkept
        cases hof
        exact ⟨s, hs, Option.isNone_iff_eq_none.1 hkept.1, hname⟩
    · cases hof

/-- The names of the classes and functions at the top level of an outline. -/
def Defines (outline : List OutlineSymbol) (name : String) : Prop :=
  ∃ s ∈ outline, s.container = none ∧ s.kind ≠ .method ∧ s.name = name

theorem mem_ofSymbol?_iff {b : Binding} :
    b ∈ outline.filterMap (ofSymbol? module) ↔
      Defines outline b.name ∧ b = ⟨b.name, qualify module b.name, .definition⟩ := by
  rw [List.mem_filterMap]
  constructor
  · rintro ⟨s, hs, hof⟩
    unfold ofSymbol? at hof
    split at hof
    · next hkept =>
        rw [Bool.and_eq_true, decide_eq_true_eq, Option.isNone_iff_eq_none] at hkept
        cases hof
        exact ⟨⟨s, hs, hkept.1, hkept.2, rfl⟩, rfl⟩
    · cases hof
  · rintro ⟨⟨s, hs, hcontainer, hkind, hname⟩, hb⟩
    refine ⟨s, hs, ?_⟩
    rw [ofSymbol?, hcontainer, hname, hb]
    simp [hkind]

/-- A name that is not imported is that of a local class or function, if of anything. -/
theorem get?_build_of_not_imported {imports : List ImportBinding} {name : String}
    (hnot : ∀ c ∈ imports, c.name ≠ name) :
    (Defines outline name → (build module isPackage outline imports).get? name =
        some ⟨name, qualify module name, .definition⟩) ∧
      (¬ Defines outline name → (build module isPackage outline imports).get? name = none) := by
  have himports : ((imports.map (ofImport module isPackage)).reverse.find?
      fun c => c.name == name) = none := by
    rw [List.find?_eq_none]
    intro c hc
    obtain ⟨i, hi, rfl⟩ := List.mem_map.1 (List.mem_reverse.1 hc)
    simpa using hnot i hi
  have hget : (build module isPackage outline imports).get? name =
      (outline.filterMap (ofSymbol? module)).reverse.find? fun c => c.name == name := by
    rw [get?, build, List.find?_append, himports, Option.none_or]
  rw [hget]
  constructor
  · intro hdefines
    cases hfound : (outline.filterMap (ofSymbol? module)).reverse.find? fun c => c.name == name with
    | none =>
        have hmem : (⟨name, qualify module name, .definition⟩ : Binding) ∈
            outline.filterMap (ofSymbol? module) := mem_ofSymbol?_iff.2 ⟨hdefines, rfl⟩
        have hne := List.find?_eq_none.1 hfound _ (List.mem_reverse.2 hmem)
        simp at hne
    | some b =>
        have hname : b.name = name := by simpa using List.find?_some hfound
        have hmem := mem_ofSymbol?_iff.1 (List.mem_reverse.1 (List.mem_of_find?_eq_some hfound))
        rw [hmem.2, hname]
  · intro hdefines
    rw [List.find?_eq_none]
    intro b hb hname
    have hmem := mem_ofSymbol?_iff.1 (List.mem_reverse.1 hb)
    rw [beq_iff_eq] at hname
    exact hdefines (hname ▸ hmem.1)

end Build

/-! ## The two forms of a relative import -/

theorem append_dot_ne (start name : String) : start ++ "." ++ name ≠ name := by
  intro heq
  have hlength := congrArg (fun s => s.toList.length) heq
  simp only [String.toList_append, List.length_append, String.reduceToList, List.length_cons] at hlength
  omega

/-- The name bound by dots alone is that of the module behind the same dots if
and only if something is left of the name of the importing module, or it has none. -/
theorem qualify_relativeTo_iff {module name : String} {level : Nat} {isPackage : Bool}
    (hname : name ≠ "")
    (hdrop : ModuleName.dropped level isPackage ≤ (ModuleName.components module).length) :
    qualify (ModuleName.relativeTo module "" level isPackage) name =
        ModuleName.relativeTo module name level isPackage ↔
      module = "" ∨ ModuleName.spell (ModuleName.kept module level isPackage) ≠ "" := by
  rw [ModuleName.relativeTo_of_dots hdrop, ModuleName.relativeTo_of_name hname hdrop]
  by_cases hkept : ModuleName.kept module level isPackage = []
  · rw [hkept, if_pos rfl, List.nil_append]
    by_cases hmodule : module = ""
    · simp [hmodule, qualify, ModuleName.spell]
    · simp [hmodule, qualify, ModuleName.spell, append_dot_ne module name]
  · have hmodule : module ≠ "" := by
      rintro rfl
      exact hkept (by simp [ModuleName.kept, ModuleName.components])
    rw [if_neg hkept, ModuleName.spell_concat hkept]
    by_cases hempty : ModuleName.spell (ModuleName.kept module level isPackage) = ""
    · have hdot : name ≠ "." ++ name := by simpa using (append_dot_ne "" name).symm
      simp [hempty, hmodule, qualify, hdot]
    · simp [hempty, qualify]

/-- What a module binds by `from <dots> import name`, and what it binds by
`from <dots>name import member`: the first is the module that the second reads
from if and only if the dots leave something of the importing module's name, or
that has no name at all. -/
theorem relative_forms_agree_iff (module name member : String) (level line line' : Nat)
    (isPackage : Bool) (outline : List OutlineSymbol)
    (earlier later earlier' later' : List ImportBinding) (hname : name ≠ "") (hlevel : 1 ≤ level)
    (hdrop : ModuleName.dropped level isPackage ≤ (ModuleName.components module).length)
    (hlast : ∀ c ∈ later, c.name ≠ name) (hlast' : ∀ c ∈ later', c.name ≠ member) :
    ∃ b c, (build module isPackage outline
          (earlier ++ ⟨name, "", some name, level, line⟩ :: later)).get? name = some b ∧
      (build module isPackage outline
          (earlier' ++ ⟨member, name, some member, level, line'⟩ :: later')).get? member = some c ∧
      c.qualified = qualify (ModuleName.relativeTo module name level isPackage) member ∧
      (b.qualified = ModuleName.relativeTo module name level isPackage ↔
        module = "" ∨ ModuleName.spell (ModuleName.kept module level isPackage) ≠ "") := by
  have hzero : level ≠ 0 := by omega
  refine ⟨_, _, get?_build_of_last hlast, get?_build_of_last hlast', ?_, ?_⟩
  · simp [ofImport, hzero]
  · have hbound : (ofImport module isPackage ⟨name, "", some name, level, line⟩).qualified =
        qualify (ModuleName.relativeTo module "" level isPackage) name := by
      simp [ofImport, hzero]
    rw [hbound]
    exact qualify_relativeTo_iff hname hdrop

/-- Two dots in `pkg.sub.mod` leave `pkg`. -/
theorem relative_forms_agree_nested :
    "shared" ≠ "" ∧ 1 ≤ 2 ∧
      ModuleName.dropped 2 false ≤ (ModuleName.components "pkg.sub.mod").length ∧
      ∃ b c, (build "pkg.sub.mod" false [] [⟨"shared", "", some "shared", 2, 1⟩]).get? "shared" =
          some b ∧
        (build "pkg.sub.mod" false [] [⟨"dedent", "shared", some "dedent", 2, 2⟩]).get? "dedent" =
          some c ∧
        c.qualified = qualify "pkg.shared" "dedent" ∧ b.qualified = "pkg.shared" := by
  have hdrop : ModuleName.dropped 2 false ≤ (ModuleName.components "pkg.sub.mod").length := by
    decide +kernel
  have hmeant : ModuleName.relativeTo "pkg.sub.mod" "shared" 2 false = "pkg.shared" := by
    decide +kernel
  obtain ⟨b, c, hb, hc, hreads, hagree⟩ := relative_forms_agree_iff "pkg.sub.mod" "shared" "dedent"
    2 1 2 false [] [] [] [] [] (by decide) (by decide) hdrop (by simp) (by simp)
  rw [hmeant] at hreads hagree
  exact ⟨by decide, by decide, hdrop, b, c, hb, hc, hreads, hagree.2 (.inr (by decide +kernel))⟩

/-- One dot in a module without a package leaves nothing. Then `from . import n`
binds a name within the importing module, and `from .n import x` reads from the
module `n`. -/
theorem relative_forms_differ_at_top :
    ModuleName.dropped 1 false ≤ (ModuleName.components "a").length ∧
      ∃ b, (build "a" false [] [⟨"n", "", some "n", 1, 1⟩]).get? "n" = some b ∧
        b.qualified = "a.n" ∧ ModuleName.relativeTo "a" "n" 1 false = "n" :=
  ⟨by decide +kernel, _, rfl, by decide +kernel, by decide +kernel⟩

end NameTable

end LozengeNav
