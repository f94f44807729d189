import LozengeNav.Proofs.Outline.Member
import LozengeNav.Proofs.SourceIndex.Locate
import LozengeNav.Proofs.Text.Utf8

/-! # Members of a class of a module

A class and a member of it are looked up in the outline of a module, where classes of
one name are not told apart. The lookup finds the first member of the name in any
of them, which need not be the class that the first part of the name stands for.
-/

namespace LozengeNav

namespace SourceIndex

open Outline

section Member

variable {t : FileTree} {file : Path} {module head name : String} {follow : Option Follow}
  {top : OutlineSymbol}

theorem topLevel?_name {outline : List OutlineSymbol} (h : topLevel? outline head = some top) :
    top ∈ outline ∧ top.container = none ∧ top.name = head := by
  have hfound := List.find?_some h
  simp only [Bool.and_eq_true, Option.isNone_iff_eq_none, decide_eq_true_eq] at hfound
  exact ⟨List.mem_of_find?_eq_some h, hfound⟩

/-- The lookup of a member answers with the first member of that name in the outline. -/
theorem memberIn_member_yields (htop : topLevel? (freshOutline t file) head = some top) :
    Yields t (memberIn file module head [name] follow)
      (match member? (freshOutline t file) head name with
        | some s => file.toUri.map fun uri => some (s.location uri)
        | none => .ok none) := by
  have hname := (topLevel?_name htop).2.2
  unfold memberIn
  refine yields_bind (outline_yields t file) ?_
  simp only [htop, symbolOf?, hname]
  cases member? (freshOutline t file) head name with
  | none => exact yields_pure none
  | some s => exact target_yields rfl

end Member

/-- What the lookup of a member finds is a member of some class of the name that the lookup begins
with, and within the span of that class. It is a member of the class that the name stands for, and
within its span, if and only if that class has a member of the name which comes before the members
of this name in all other classes of the same name. -/
theorem memberIn_finds_member {s : IndexState} (hs : s.Faithful) {file : Path}
    {content : List UInt8} {source : List Char} (hread : s.tree.read file = .ok content)
    (hsource : Text.Utf8.decodeLossy content = source) {module head name : String}
    {follow : Option Follow} {top : OutlineSymbol}
    (htop : topLevel? (outlineOf source) head = some top) {l : Location}
    (hrun : ((memberIn file module head [name] follow).run.run s).1 = .ok (some l)) :
    (∃ member k uri, MemberOf source member k ∧ k.kind = .type ∧ k.name = head ∧
      member.name = name ∧ file.toUri = .ok uri ∧ l = member.location uri ∧
      l.span.Within k.span) ∧
    ((∃ member uri, l = member.location uri ∧ MemberOf source member top ∧
        l.span.Within top.span) ↔
      ∃ own, MemberOf source own top ∧ own.name = name ∧
        ∀ other k, MemberOf source other k → k ≠ top → k.name = head → other.name = name →
          own.selection.line < other.selection.line) := by
  have houtline : freshOutline s.tree file = outlineOf source := by
    rw [freshOutline, hread, ← hsource]
  obtain ⟨-, -, rfl⟩ := topLevel?_name htop
  rw [← houtline] at htop
  obtain ⟨after, hyields, -⟩ := memberIn_member_yields htop s rfl hs
  rw [hyields, houtline] at hrun
  cases hmember : member? (outlineOf source) top.name name with
  | none =>
      rw [hmember] at hrun
      cases hrun
  | some found =>
      rw [hmember] at hrun
      have hfound : found.container = some top.name ∧ found.name = name := by
        simpa using List.find?_some hmember
      have hlisted := List.mem_of_find?_eq_some hmember
      obtain ⟨k, hk, hkname⟩ := exists_memberOf hlisted hfound.1
      obtain ⟨-, -, -, hkind, hspan⟩ := hk.listed
      have hwithin : ∀ k : OutlineSymbol, found.span.Within k.span → found.nameSpan.Within k.span :=
        fun _ hspan => (nameSpan_within hlisted).trans hspan
      cases huri : file.toUri with
      | error fault =>
          rw [huri] at hrun
          cases hrun
      | ok uri =>
          rw [huri] at hrun
          cases hrun
          refine ⟨⟨found, k, uri, hk, hkind, hkname, hfound.2, rfl, rfl, hwithin k hspan⟩, ?_⟩
          rw [← memberOf_iff_first hmember]
          constructor
          · rintro ⟨member, uri', hlocation, hmemberOf, -⟩
            have hselection := congrArg (fun l : Location => l.span.start) hlocation
            rwa [eq_of_selection hlisted hmemberOf.listed.1 hselection]
          · intro hmemberOf
            obtain ⟨-, -, -, -, hspan⟩ := hmemberOf.listed
            exact ⟨found, uri, rfl, hmemberOf, hwithin top hspan⟩

def moduleTree (source : List Char) : FileTree where
  entries := [(["ws"], .directory), (["ws", "a.py"], .file (Text.Utf8.encode source) 1)]
  here := []

/-- A class, and a class of the same name inside another one behind it. -/
def innerLast : List Char :=
  "class C:\n    def m(self):\n        pass\nclass A:\n    class C:\n        def m(self):\n            pass\n".toList

/-- The first member is found, which is that of the class outside. -/
theorem memberIn_finds_member_innerLast :
    ((memberIn ⟨.root, ["ws", "a.py"]⟩ "a" "C" ["m"] none).run.run ⟨moduleTree innerLast, []⟩).1 =
        .ok (some ⟨"file:///ws/a.py", ⟨⟨1, 8⟩, ⟨1, 9⟩⟩⟩) ∧
      ∃ own, MemberOf innerLast own ⟨"C", .type, ⟨⟨0, 0⟩, ⟨2, 12⟩⟩, ⟨0, 6⟩, none⟩ ∧
        own.name = "m" ∧ ∀ other k, MemberOf innerLast other k →
          k ≠ ⟨"C", .type, ⟨⟨0, 0⟩, ⟨2, 12⟩⟩, ⟨0, 6⟩, none⟩ → k.name = "C" → other.name = "m" →
            own.selection.line < other.selection.line := by
  have hrun : ((memberIn ⟨.root, ["ws", "a.py"]⟩ "a" "C" ["m"] none).run.run
      ⟨moduleTree innerLast, []⟩).1 = .ok (some ⟨"file:///ws/a.py", ⟨⟨1, 8⟩, ⟨1, 9⟩⟩⟩) := by
    decide +kernel
  have hread : (moduleTree innerLast).read ⟨.root, ["ws", "a.py"]⟩ =
      .ok (Text.Utf8.encode innerLast) := by
    decide +kernel
  have htop : topLevel? (outlineOf innerLast) "C" =
      some ⟨"C", .type, ⟨⟨0, 0⟩, ⟨2, 12⟩⟩, ⟨0, 6⟩, none⟩ := by
    decide +kernel
  have hfinds := memberIn_finds_member (IndexState.faithful_fresh (moduleTree innerLast)) hread
    (Text.Utf8.decodeLossy_encode innerLast) htop hrun
  exact ⟨hrun, hfinds.2.mp ⟨⟨"m", .method, ⟨⟨1, 4⟩, ⟨2, 12⟩⟩, ⟨1, 8⟩, some "C"⟩, _, rfl,
    by decide +kernel, by decide⟩⟩

/-- A class inside another one, and a class of the same name behind it that has no members. -/
def innerFirst : List Char :=
  "class A:\n    class C:\n        def m(self):\n            pass\nclass C:\n    pass\n".toList

/-- The name stands for the class outside, but the member that is found is in the class inside. -/
theorem memberIn_leaves_class :
    topLevel? (outlineOf innerFirst) "C" =
        some ⟨"C", .type, ⟨⟨4, 0⟩, ⟨5, 8⟩⟩, ⟨4, 6⟩, none⟩ ∧
      ((memberIn ⟨.root, ["ws", "a.py"]⟩ "a" "C" ["m"] none).run.run
        ⟨moduleTree innerFirst, []⟩).1 = .ok (some ⟨"file:///ws/a.py", ⟨⟨2, 12⟩, ⟨2, 13⟩⟩⟩) ∧
      ¬ (⟨⟨2, 12⟩, ⟨2, 13⟩⟩ : Span).Within ⟨⟨4, 0⟩, ⟨5, 8⟩⟩ ∧
      ∀ member ∈ outlineOf innerFirst,
        ¬ MemberOf innerFirst member ⟨"C", .type, ⟨⟨4, 0⟩, ⟨5, 8⟩⟩, ⟨4, 6⟩, none⟩ := by
  decide +kernel

end SourceIndex

end LozengeNav
