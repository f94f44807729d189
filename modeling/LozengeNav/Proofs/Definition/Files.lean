import LozengeNav.LocalFile
import LozengeNav.Proofs.Path
import LozengeNav.Proofs.Reference
import LozengeNav.Proofs.World.Answers

/-! # Which file a name refers to

The search for the file of a name asks up to six questions in a fixed order and
stops behind the first hit. The questions, their hits and the calls made are
stated on the tables of a world; the search agrees with them call by call.
-/

namespace LozengeNav

namespace World

/-! ## Questions for a file -/

/-- A question for a file: whether a path is one, or which one fits a pattern. -/
inductive Probe where
  | file (path : Path)
  | pattern (text : String)

namespace Probe

def call : Probe → Call
  | file path => .fileExists path.toString
  | pattern text => .findFiles text 1

end Probe

def hit? (w : World) : Probe → Option String
  | .file path => if path.toString ∈ w.paths then some path.localUri else none
  | .pattern text => ((w.globs.lookup text).getD []).head?

def firstHit? (w : World) (probes : List Probe) : Option String :=
  probes.findSome? w.hit?

/-- The calls of questions asked one after the other; none is asked behind a hit. -/
def callsToHit (w : World) : List Probe → List Call
  | [] => []
  | probe :: rest =>
      probe.call :: if (w.hit? probe).isSome then [] else w.callsToHit rest

/-- The questions for the file of a name, nearest first: the directory, the one
above it and the whole workspace, the plain name before the one with an
underscore. -/
def probes (directory : Path) (extension name : String) : List Probe :=
  [.file (directory.join (name ++ "." ++ extension)),
   .file (directory.join ("_" ++ name ++ "." ++ extension)),
   .file (directory.parent.join (name ++ "." ++ extension)),
   .file (directory.parent.join ("_" ++ name ++ "." ++ extension)),
   .pattern ("**/" ++ (name ++ "." ++ extension)),
   .pattern ("**/" ++ ("_" ++ name ++ "." ++ extension))]

theorem firstHit?_append (w : World) (ps qs : List Probe) :
    w.firstHit? (ps ++ qs) = (w.firstHit? ps).or (w.firstHit? qs) :=
  List.findSome?_append

theorem callsToHit_append (w : World) (ps qs : List Probe) :
    w.callsToHit (ps ++ qs) =
      w.callsToHit ps ++ if (w.firstHit? ps).isSome then [] else w.callsToHit qs := by
  induction ps with
  | nil => rfl
  | cons p rest ih =>
      rw [List.cons_append, callsToHit, callsToHit, firstHit?, List.findSome?_cons]
      cases hp : w.hit? p with
      | some uri => rfl
      | none =>
          rw [ih]
          rfl

/-! ## The search -/

theorem firstHit?_files (w : World) (paths : List Path) :
    w.firstHit? (paths.map .file) =
      (paths.find? fun p => p.toString ∈ w.paths).map Path.localUri := by
  induction paths with
  | nil => rfl
  | cons p rest ih =>
      rw [firstHit?] at ih ⊢
      rw [List.map_cons, List.findSome?_cons, List.find?_cons]
      by_cases hp : p.toString ∈ w.paths
      · simp [hit?, hp]
      · simpa [hit?, hp] using ih

theorem firstFile?_runsTo (w : World) (paths : List Path) (s : List Call) :
    RunsTo (LocalFile.firstFile? w.host paths) s (paths.find? fun p => p.toString ∈ w.paths)
      (s ++ w.callsToHit (paths.map .file)) := by
  induction paths generalizing s with
  | nil =>
      rw [List.map_nil, callsToHit, List.append_nil]
      exact Runs.pure none s
  | cons p rest ih =>
      have hask := runsTo_answer (.fileExists p.toString) (w.paths.contains p.toString) s
      rw [List.map_cons, callsToHit, List.append_cons, List.find?_cons]
      refine Runs.bind hask ?_
      by_cases hp : p.toString ∈ w.paths
      · have hcontains : w.paths.contains p.toString = true := by simpa using hp
        simp only [hcontains, hit?, hp, if_true, Option.isSome_some, List.append_nil]
        exact Runs.pure (some p) _
      · have hcontains : w.paths.contains p.toString = false := by simpa using hp
        simp only [hcontains, hit?, hp, if_false]
        exact ih _

theorem firstFound?_runsTo (w : World) (names : List String) (s : List Call) :
    RunsTo (LocalFile.firstFound? w.host names) s
      (w.firstHit? (names.map fun name => .pattern ("**/" ++ name)))
      (s ++ w.callsToHit (names.map fun name => .pattern ("**/" ++ name))) := by
  induction names generalizing s with
  | nil =>
      rw [List.map_nil, callsToHit, List.append_nil]
      exact Runs.pure none s
  | cons name rest ih =>
      have hask := runsTo_answer (.findFiles ("**/" ++ name) 1)
        (((w.globs.lookup ("**/" ++ name)).getD []).take 1) s
      rw [List.map_cons, callsToHit, List.append_cons, firstHit?, List.findSome?_cons]
      refine Runs.bind hask ?_
      cases hfound : (w.globs.lookup ("**/" ++ name)).getD [] with
      | nil =>
          simp only [hit?, hfound]
          exact ih _
      | cons uri others =>
          simp only [hit?, hfound, List.head?_cons, Option.isSome_some, if_true, List.append_nil]
          exact Runs.pure (some uri) _

theorem probes_eq (directory : Path) (extension name : String) :
    probes directory extension name =
      (LocalFile.nearby directory (LocalFile.candidates name extension)).map .file ++
        (LocalFile.candidates name extension).map fun name => .pattern ("**/" ++ name) :=
  rfl

theorem head?_ne_of_mem_candidates {name extension file : String}
    (hname : Reference.Begins name.toList) (h : file ∈ LocalFile.candidates name extension) :
    file.toList.head? ≠ some '/' := by
  obtain ⟨c, rest, hc, hhead⟩ := hname
  have hslash : c ≠ '/' := by
    rintro rfl
    exact absurd hhead (by decide)
  rw [LocalFile.candidates, List.mem_cons, List.mem_singleton] at h
  rcases h with rfl | rfl
  · simpa [hc] using hslash
  · simp

theorem toUri_of_mem_nearby {directory p : Path} (hdirectory : directory.WellFormed)
    (hanchor : directory.anchor ≠ .share) {names : List String}
    (hnames : ∀ name ∈ names, name.toList.head? ≠ some '/')
    (h : p ∈ LocalFile.nearby directory names) : p.toUri = .ok p.localUri := by
  obtain ⟨d, hd, hp⟩ := List.mem_flatMap.1 h
  obtain ⟨name, hname, rfl⟩ := List.mem_map.1 hp
  have hjoin := Path.anchor_join d (hnames name hname)
  rw [List.mem_cons, List.mem_singleton] at hd
  rcases hd with rfl | rfl
  · exact Path.toUri_of_wellFormed (Path.wellFormed_join hdirectory name) (hjoin ▸ hanchor)
  · refine Path.toUri_of_wellFormed (Path.wellFormed_join ?_ name) ?_
    · exact Path.wellFormed_parent hdirectory
    · rwa [hjoin, Path.anchor_parent]

/-- The search for the file of a name answers with the first hit, and makes the
calls up to it. -/
theorem resolveFile_runsTo (w : World) (extension : String) {name : String} {directory : Path}
    (hdirectory : directory.WellFormed) (hanchor : directory.anchor ≠ .share)
    (hname : Reference.Begins name.toList) (s : List Call) :
    RunsTo (LocalFile.resolve w.host extension name directory) s
      (w.firstHit? (probes directory extension name))
      (s ++ w.callsToHit (probes directory extension name)) := by
  have hfiles := w.firstFile?_runsTo
    (LocalFile.nearby directory (LocalFile.candidates name extension)) s
  rw [probes_eq, firstHit?_append, callsToHit_append, firstHit?_files, ← List.append_assoc]
  refine Runs.bind hfiles ?_
  cases hfound : (LocalFile.nearby directory (LocalFile.candidates name extension)).find?
      fun p => p.toString ∈ w.paths with
  | none => exact w.firstFound?_runsTo _ _
  | some p =>
      have huri := toUri_of_mem_nearby hdirectory hanchor
        (fun file hfile => head?_ne_of_mem_candidates hname hfile) (List.mem_of_find?_eq_some hfound)
      simp only [huri, Option.map_some, Option.isSome_some, if_true, List.append_nil]
      exact Runs.bind (runsTo_ok p.localUri _) (Runs.pure _ _)

end World

end LozengeNav
