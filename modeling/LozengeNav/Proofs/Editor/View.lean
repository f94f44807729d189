import LozengeNav.Editor.View
import LozengeNav.Proofs.Files.History
import LozengeNav.Proofs.Files.Plain
import LozengeNav.Protocol.Units

/-! # Documents of an editor

A location is told to an editor in units of the line where it stands, so the text
of its document is needed: the one that is open, or else what the file of the URI
holds. The URI of a plain path names that path's file again, which is text if its
bytes are UTF-8.
-/

namespace LozengeNav

namespace Uri

theorem anyPath_of_toPath {s path : List Char} (h : toPath s = .ok path) : anyPath s = .ok path := by
  obtain ⟨parts, hsplit, h⟩ := Fault.ok_of_bind_eq_ok h
  by_cases hscheme : parts.scheme = fileScheme
  · rw [if_pos hscheme] at h
    rw [anyPath, hsplit]
    simpa only [bind, Except.bind, if_pos hscheme] using h
  · rw [if_neg hscheme] at h
    cases h

end Uri

namespace Path

theorem exists_toPath_of_ofUri {uri : String} {p : Path} (h : ofUri uri = .ok p) :
    ∃ path, Uri.toPath uri.toList = .ok path ∧ ofString (String.ofList path) = p := by
  rw [ofUri] at h
  cases hpath : Uri.toPath uri.toList with
  | error fault =>
      rw [hpath] at h
      cases h
  | ok path =>
      rw [hpath] at h
      exact ⟨path, rfl, Except.ok.inj h⟩

theorem exists_before_last {parts : List String} (hparts : parts ≠ []) :
    ∃ front, ('/' :: ("/".intercalate parts).toList) = front ++ '/' :: (parts.getLast hparts).toList := by
  induction parts with
  | nil => exact absurd rfl hparts
  | cons first rest ih =>
      cases rest with
      | nil => exact ⟨[], by rw [String.intercalate_singleton]; rfl⟩
      | cons second others =>
          obtain ⟨front, hfront⟩ := ih (List.cons_ne_nil second others)
          refine ⟨'/' :: first.toList ++ front, ?_⟩
          have hslash : "/".toList = ['/'] := rfl
          rw [String.intercalate_cons_cons, String.toList_append, String.toList_append, hslash,
            List.append_assoc, List.singleton_append, hfront, List.getLast_cons_cons,
            List.cons_append, List.cons_append, List.append_assoc]

theorem eq_of_slash_suffix {s name other : List Char} (hname : '/' ∉ name) (hother : '/' ∉ other)
    (h : '/' :: name <:+ s) (h' : '/' :: other <:+ s) : name = other := by
  rcases List.suffix_or_suffix_of_suffix h h' with hsuffix | hsuffix
  · rcases List.suffix_cons_iff.1 hsuffix with heq | hsuffix
    · exact (List.cons.inj heq).2
    · exact absurd (hsuffix.subset List.mem_cons_self) hother
  · rcases List.suffix_cons_iff.1 hsuffix with heq | hsuffix
    · exact (List.cons.inj heq).2.symm
    · exact absurd (hsuffix.subset List.mem_cons_self) hname

theorem Plain.anyPath_of_toUri {p : Path} (h : p.Plain) {uri : String} (huri : p.toUri = .ok uri) :
    Uri.anyPath uri.toList = .ok p.toString.toList := by
  rw [h.toUri_eq, Except.ok.injEq] at huri
  rw [← huri]
  exact Uri.anyPath_of_toPath h.toPath_localUri

end Path

namespace Editor

namespace View

theorem fileText_of_plain (t : FileTree) {p : Path} (h : p.Plain) (hparts : p.parts ≠ []) :
    fileText t p.toString.toList = t.readText p := by
  obtain ⟨front, hfront⟩ := Path.exists_before_last hparts
  obtain ⟨hempty, hslash, hdot⟩ := h.parts _ (List.getLast_mem hparts)
  have hlist : p.toString.toList = front ++ '/' :: (p.parts.getLast hparts).toList := by
    rw [h.toString_eq, String.toList_append, ← hfront]
    rfl
  have hlast : '/' :: (p.parts.getLast hparts).toList <:+ p.toString.toList := ⟨front, hlist.symm⟩
  have hdirectory : ¬ ['/'] <:+ p.toString.toList := by
    intro hends
    have heq := Path.eq_of_slash_suffix List.not_mem_nil hslash hends hlast
    exact hempty (String.toList_eq_nil_iff.1 heq.symm)
  have hhere : ¬ ['/', '.'] <:+ p.toString.toList := by
    intro hends
    have heq := Path.eq_of_slash_suffix (by decide) hslash hends hlast
    exact hdot (String.toList_inj.1 heq.symm)
  have hne : p.toString.toList ≠ [] := by simp [hlist]
  rw [fileText, if_neg (by simpa using hne), if_neg (by simp [hdirectory, hhere]),
    String.ofList_toList, h.ofString_toString]

deriving instance DecidableEq for View

def Addressed (v : View) : Prop :=
  ∀ d ∈ v.documents, ∃ path, Uri.anyPath d.1.toList = .ok path

/-- The same editor, perhaps with other documents. -/
structure SameEditor (v v' : View) : Prop where
  root : v'.root = v.root
  encoding : v'.encoding = v.encoding

theorem Addressed.anyPath {v : View} (h : v.Addressed) {uri : String} {text : List Char}
    (hopen : v.open? uri = some text) : ∃ path, Uri.anyPath uri.toList = .ok path := by
  obtain ⟨before, after, heq, -⟩ := List.lookup_eq_some_iff.1 hopen
  exact h (uri, text) (by simp [heq])

section Addressed

variable {v v' : View} {uri : String} {text : List Char}

theorem sameEditor_opened (h : v.opened uri text = .ok v') : SameEditor v v' := by
  obtain ⟨path, -, h⟩ := Fault.ok_of_bind_eq_ok h
  cases h
  exact ⟨rfl, rfl⟩

theorem Addressed.opened (hv : v.Addressed) (h : v.opened uri text = .ok v') : v'.Addressed := by
  obtain ⟨path, hpath, h⟩ := Fault.ok_of_bind_eq_ok h
  cases h
  refine List.forall_mem_cons.2 ⟨⟨path, hpath⟩, fun d hd => ?_⟩
  exact hv d (List.mem_filter.1 hd).1

theorem Addressed.closed (hv : v.Addressed) (uri : String) : (v.closed uri).Addressed :=
  fun d hd => hv d (List.mem_filter.1 hd).1

theorem Addressed.changed (hv : v.Addressed) (uri : String) (changes : List Change) :
    (v.changed uri changes).Addressed := by
  intro d hd
  obtain ⟨old, hold, rfl⟩ := List.mem_map.1 hd
  have hsame : (if old.1 == uri then
      (old.1, changes.foldl (fun text c => c.apply v.encoding text) old.2) else old).1 = old.1 := by
    split <;> rfl
  rw [hsame]
  exact hv old hold

end Addressed

def Reads (v : View) (t : FileTree) (uri : String) : Prop :=
  ∃ found, v.document t uri = .ok found

/-- A location as it is told to the editor, by the text that its document has. -/
def encode (v : View) (t : FileTree) (l : Location) : Except Fault Location := do
  let (_, text) ← v.document t l.uri
  return ⟨l.uri, l.span.toUnits v.encoding (Text.wholeLines text)⟩

variable {v : View} {t : FileTree}

theorem encode_of_document {l : Location} {path : Path} {text : List Char}
    (h : v.document t l.uri = .ok (path, text)) :
    v.encode t l = .ok ⟨l.uri, l.span.toUnits v.encoding (Text.wholeLines text)⟩ := by
  rw [encode, h]
  rfl

theorem encode_fault_iff {l : Location} :
    (∃ fault, v.encode t l = .error fault) ↔ ¬ v.Reads t l.uri := by
  cases hdocument : v.document t l.uri with
  | error fault => simp [encode, Reads, hdocument, bind, Except.bind]
  | ok found => simp [encode_of_document hdocument, Reads, hdocument]

section Plain

variable {p : Path} (hp : p.Plain) (hparts : p.parts ≠ []) {uri : String}
  (huri : p.toUri = .ok uri)

include hp huri

theorem document_of_open {text : List Char} (hopen : v.open? uri = some text) :
    v.document t uri = .ok (p, text) := by
  rw [document, hp.anyPath_of_toUri huri, hopen]
  simp only [bind, Except.bind, pure, Except.pure, String.ofList_toList, hp.ofString_toString]

include hparts

theorem document_of_not_open (hopen : v.open? uri = none) :
    v.document t uri = (t.readText p).map fun text => (p, text) := by
  rw [document, hp.anyPath_of_toUri huri, hopen]
  simp only [bind, Except.bind, pure, Except.pure, fileText_of_plain t hp hparts,
    String.ofList_toList, hp.ofString_toString]
  cases t.readText p <;> rfl

/-- The document of a file is at hand unless it is not open and the file is no text. -/
theorem not_reads_iff {content : List UInt8} {modified : Int}
    (hfile : t.HasFile p content modified) :
    ¬ v.Reads t uri ↔ v.open? uri = none ∧ Text.Utf8.decode? content = none := by
  cases hopen : v.open? uri with
  | some text => simp [Reads, document_of_open hp huri hopen]
  | none =>
      rw [Reads, document_of_not_open hp hparts huri hopen, FileTree.readText, hfile.read_eq]
      cases hdecode : Text.Utf8.decode? content <;>
        simp [Except.map, bind, Except.bind, hdecode, pure, Except.pure, throw, throwThe,
          MonadExceptOf.throw]

end Plain

end View

end Editor

end LozengeNav
