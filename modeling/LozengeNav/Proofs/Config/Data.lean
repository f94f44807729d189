import LozengeNav.Proofs.Config

/-! # The data of a configuration

A configuration that was read says the same as the data it is written as: reading these
data gives it again. The configurations that are read back from their own data are exactly
those whose settings pass their checks.
-/

namespace LozengeNav

namespace Config

/-! ## Single settings -/

theorem itemsFrom_texts (n : Nat) (items : List String) :
    itemsFrom n (items.map .text) = .ok items := by
  induction items generalizing n with
  | nil => rfl
  | cons item rest ih => rw [List.map_cons, itemsFrom, ih]; rfl

theorem texts_texts (items : List String) : texts (.list (items.map .text)) = .ok items :=
  itemsFrom_texts 0 items

theorem choice_name {α : Type} {all : List α} {name : α → String}
    (hname : ∀ a b, name a = name b → a = b) {a : α} (ha : a ∈ all) :
    choice all name (.text (name a)) = .ok a := by
  cases hfind : all.find? fun b => name b == name a with
  | none => exact absurd (List.find?_eq_none.1 hfind a ha) (by simp)
  | some b =>
      have hsame : name b = name a := by simpa using List.find?_some hfind
      simp only [choice, hfind, hname b a hsame]

theorem backend_name (b : Backend) : choice Backend.all Backend.name (.text b.name) = .ok b := by
  apply choice_name
  · intro a b
    cases a <;> cases b <;> decide
  · cases b <;> decide

theorem logLevel_name (l : LogLevel) :
    choice LogLevel.all LogLevel.name (.text l.name) = .ok l := by
  apply choice_name
  · intro a b
    cases a <;> cases b <;> decide
  · cases l <;> decide

theorem extensionOf_text {extension : String} (h : IsSuffix extension) :
    extensionOf (.text extension) = .ok extension := by
  obtain ⟨hne, hdot, hslash, hbackslash⟩ := h
  have hkeep : extension.toList.dropWhile (fun c => decide (c = '.')) = extension.toList := by
    cases hlist : extension.toList with
    | nil => rfl
    | cons c rest =>
        rw [hlist] at hdot
        have hc : c ≠ '.' := fun hc => hdot (congrArg some hc)
        simp [hc]
  have hfull : extension.toList.isEmpty = false := by simpa using hne
  unfold extensionOf
  simp only [text, bind, Except.bind, hkeep, hfull]
  simp [hslash, hbackslash, pure, Except.pure]

theorem commandOf_texts {command : List String} (h : NamesExecutable command) :
    commandOf (.list (command.map .text)) = .ok command := by
  obtain ⟨first, rest, rfl, hblank⟩ := h
  unfold commandOf
  rw [texts_texts]
  simp [bind, Except.bind, hblank, pure, Except.pure]

theorem timeoutOf_float {timeout : Float} (h : 0 < timeout) :
    timeoutOf (.float timeout) = .ok timeout := by
  simp [timeoutOf, number, bind, Except.bind, h, pure, Except.pure]

/-! ## Tables -/

theorem setting_eq_of_lookup {α : Type} {entries : List (String × Datum)} {key : String} {d : Datum}
    {read : Datum → Checked α} {default a : α} (hkey : entries.lookup key = some d)
    (hread : read d = .ok a) : setting entries key read default = .ok a := by
  rw [setting, hkey]
  simp only [hread]
  rfl

def baseEntries (b : BaseClass) : List (String × Datum) :=
  [("name", .text b.name), ("path_marker", .text b.pathMarker), ("root_base", .text b.rootBase)]

theorem baseOf_entries (b : BaseClass) : baseOf (.table (baseEntries b)) = .ok b :=
  rfl

def serverEntries (s : ServerSettings) : List (String × Datum) :=
  [("command", .list (s.command.map .text)), ("request_timeout", .float s.timeout)]

theorem serverOf_entries {s : ServerSettings} (hcommand : NamesExecutable s.command)
    (htimeout : 0 < s.timeout) : serverOf (.table (serverEntries s)) = .ok s := by
  have hwords : setting (serverEntries s) "command" commandOf ({} : ServerSettings).command =
      .ok s.command := setting_eq_of_lookup rfl (commandOf_texts hcommand)
  have hseconds : setting (serverEntries s) "request_timeout" timeoutOf
      ({} : ServerSettings).timeout = .ok s.timeout :=
    setting_eq_of_lookup rfl (timeoutOf_float htimeout)
  have hkeys : onlyKeys serverKeys (serverEntries s) = .ok () := rfl
  rw [serverOf]
  dsimp only
  rw [hwords, hseconds, hkeys]
  rfl

def entries (c : Config) : List (String × Datum) :=
  [("extension", .text c.extension),
    ("backend", .text c.backend.name),
    ("exclude", .list (c.exclude.map .text)),
    ("nested_gitignore", .bool c.nestedIgnore),
    ("search_paths", .list (c.searchPaths.map .text)),
    ("log_level", .text c.logLevel.name),
    ("base_class", .table (baseEntries c.base)),
    ("language_server", .table (serverEntries c.server))]

theorem ofData_data {c : Config} (h : c.Valid) : ofData c.data = .ok c := by
  have hextension : setting c.entries "extension" extensionOf "dryck" = .ok c.extension :=
    setting_eq_of_lookup rfl (extensionOf_text h.suffix)
  have hbackend : setting c.entries "backend" (choice Backend.all Backend.name) .static =
      .ok c.backend := setting_eq_of_lookup rfl (backend_name c.backend)
  have hexclude : setting c.entries "exclude" texts [] = .ok c.exclude :=
    setting_eq_of_lookup rfl (texts_texts c.exclude)
  have hnested : setting c.entries "nested_gitignore" flag false = .ok c.nestedIgnore :=
    setting_eq_of_lookup (d := .bool c.nestedIgnore) rfl rfl
  have hpaths : setting c.entries "search_paths" texts [] = .ok c.searchPaths :=
    setting_eq_of_lookup rfl (texts_texts c.searchPaths)
  have hlevel : setting c.entries "log_level" (choice LogLevel.all LogLevel.name) .warning =
      .ok c.logLevel := setting_eq_of_lookup rfl (logLevel_name c.logLevel)
  have hbase : setting c.entries "base_class" baseOf {} = .ok c.base :=
    setting_eq_of_lookup rfl (baseOf_entries c.base)
  have hserver : setting c.entries "language_server" serverOf {} = .ok c.server :=
    setting_eq_of_lookup rfl (serverOf_entries h.executable h.timeout)
  have hkeys : onlyKeys keys c.entries = .ok () := rfl
  change ofData (.table c.entries) = .ok c
  rw [ofData, hextension, hbackend, hexclude, hnested, hpaths, hlevel, hbase, hserver, hkeys]
  rfl

/-- The configurations that are read back from their own data are the valid ones. -/
theorem ofData_data_iff {c : Config} : ofData c.data = .ok c ↔ c.Valid :=
  ⟨valid_of_ofData, ofData_data⟩

/-- Whatever data a configuration was read from, its settings pass their checks, and the
data it is written as are read as the same configuration. -/
theorem ofData_settles {d : Datum} {c : Config} (h : ofData d = .ok c) :
    (c.extension ≠ "" ∧ c.extension.toList.head? ≠ some '.' ∧ '/' ∉ c.extension.toList ∧
      '\\' ∉ c.extension.toList) ∧
    (∃ first rest, c.server.command = first :: rest ∧ Text.allBlank first.toList = false) ∧
    0 < c.server.timeout ∧
    ofData c.data = .ok c := by
  have hvalid := valid_of_ofData h
  exact ⟨hvalid.suffix, hvalid.executable, hvalid.timeout, ofData_data_iff.2 hvalid⟩

/-- Numbers that stand for others, and an extension with dots in front. -/
def looseData : Datum :=
  .table [("extension", .text "..tpl"), ("nested_gitignore", .int 1),
    ("language_server", .table [("command", .list [.text " ls "]),
      ("request_timeout", .text " 2.5e0 ")])]

def looseConfig : Config :=
  { extension := "tpl", nestedIgnore := true, server := { command := [" ls "], timeout := 2.5 } }

theorem ofData_settles_loose :
    ofData looseData = .ok looseConfig ∧ ofData looseConfig.data = .ok looseConfig := by
  have h : ofData looseData = .ok looseConfig := rfl
  exact ⟨h, (ofData_settles h).2.2.2⟩

end Config

end LozengeNav
