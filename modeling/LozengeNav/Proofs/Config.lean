import LozengeNav.Config.Load
import LozengeNav.Proofs.Fault

/-! # Configurations that were loaded

A configuration is checked when it is read, so what a setting is checked for
holds of every configuration that a workspace has.
-/

namespace LozengeNav

namespace Config

/-- What an extension is checked for. -/
def IsSuffix (extension : String) : Prop :=
  extension ≠ "" ∧ extension.toList.head? ≠ some '.' ∧ '/' ∉ extension.toList ∧
    '\\' ∉ extension.toList

/-- What a command is checked for. -/
def NamesExecutable (command : List String) : Prop :=
  ∃ first rest, command = first :: rest ∧ Text.allBlank first.toList = false

/-- What the settings of a configuration are checked for. -/
structure Valid (config : Config) : Prop where
  suffix : IsSuffix config.extension
  executable : NamesExecutable config.server.command
  timeout : 0 < config.server.timeout

/-! ## Checks -/

theorem Checked.apply_eq_ok {α β : Type} {f : Checked (α → β)} {a : Checked α} {b : β}
    (h : Checked.apply f a = .ok b) : ∃ g c, f = .ok g ∧ a = .ok c ∧ b = g c := by
  cases f with
  | error issues => cases a <;> cases h
  | ok g =>
      cases a with
      | error issues => cases h
      | ok c =>
          cases h
          exact ⟨g, c, rfl, rfl, rfl⟩

theorem setting_eq_ok {α : Type} {entries : List (String × Datum)} {key : String}
    {read : Datum → Checked α} {default a : α} (h : setting entries key read default = .ok a) :
    a = default ∨ ∃ d, read d = .ok a := by
  unfold setting at h
  split at h
  · next d _ =>
      cases hread : read d with
      | error issues =>
          rw [hread] at h
          cases h
      | ok value =>
          rw [hread] at h
          cases h
          exact .inr ⟨d, hread⟩
  · cases h
    exact .inl rfl

theorem setting_of {α : Type} {entries : List (String × Datum)} {key : String}
    {read : Datum → Checked α} {default a : α} (P : α → Prop) (hdefault : P default)
    (hread : ∀ d a, read d = .ok a → P a) (h : setting entries key read default = .ok a) :
    P a := by
  rcases setting_eq_ok h with rfl | ⟨d, hd⟩
  · exact hdefault
  · exact hread d a hd

/-! ## Single settings -/

theorem extensionOf_eq_ok {d : Datum} {extension : String} (h : extensionOf d = .ok extension) :
    IsSuffix extension := by
  obtain ⟨value, -, h⟩ := Fault.ok_of_bind_eq_ok h
  dsimp only at h
  split at h
  · cases h
  · next hrest =>
      cases h
      simp only [Bool.or_eq_true, not_or, List.contains_iff_mem, List.isEmpty_iff] at hrest
      obtain ⟨⟨hne, hslash⟩, hbackslash⟩ := hrest
      rw [IsSuffix, String.toList_ofList]
      refine ⟨fun hempty => hne ?_, ?_, hslash, hbackslash⟩
      · rw [← String.toList_ofList (l := value.toList.dropWhile _), hempty]
        rfl
      · intro hhead
        have hdot := List.head?_dropWhile_not (fun c => decide (c = '.')) value.toList
        rw [hhead] at hdot
        exact absurd hdot (by decide)

theorem commandOf_eq_ok {d : Datum} {command : List String} (h : commandOf d = .ok command) :
    NamesExecutable command := by
  obtain ⟨words, -, h⟩ := Fault.ok_of_bind_eq_ok h
  cases words with
  | nil => cases h
  | cons first rest =>
      dsimp only at h
      split at h
      · cases h
      · next hblank =>
          cases h
          exact ⟨first, rest, rfl, Bool.eq_false_iff.2 hblank⟩

theorem timeoutOf_eq_ok {d : Datum} {timeout : Float} (h : timeoutOf d = .ok timeout) :
    0 < timeout := by
  obtain ⟨x, -, h⟩ := Fault.ok_of_bind_eq_ok h
  split at h
  · next hpositive =>
      cases h
      exact hpositive
  · cases h

/-! ## Whole configurations -/

/-- The default settings pass their own checks. -/
theorem valid_default : Valid {} where
  suffix := ⟨by decide, by decide, by decide, by decide⟩
  executable := ⟨_, _, rfl, by decide⟩
  timeout := by decide

theorem serverOf_eq_ok {d : Datum} {server : ServerSettings} (h : serverOf d = .ok server) :
    NamesExecutable server.command ∧ 0 < server.timeout := by
  unfold serverOf at h
  split at h
  · obtain ⟨_, _, hkeys, -, rfl⟩ := Checked.apply_eq_ok h
    obtain ⟨_, _, htimeout, hseconds, rfl⟩ := Checked.apply_eq_ok hkeys
    obtain ⟨_, _, hmake, hcommand, rfl⟩ := Checked.apply_eq_ok htimeout
    cases hmake
    exact ⟨setting_of NamesExecutable valid_default.executable (fun _ _ => commandOf_eq_ok) hcommand,
      setting_of (0 < ·) valid_default.timeout (fun _ _ => timeoutOf_eq_ok) hseconds⟩
  · cases h

theorem valid_of_ofData {d : Datum} {config : Config} (h : ofData d = .ok config) :
    config.Valid := by
  unfold ofData at h
  split at h
  · obtain ⟨_, _, hkeys, -, rfl⟩ := Checked.apply_eq_ok h
    obtain ⟨_, server, hserver, hsettings, rfl⟩ := Checked.apply_eq_ok hkeys
    obtain ⟨_, _, hbase, -, rfl⟩ := Checked.apply_eq_ok hserver
    obtain ⟨_, _, hlevel, -, rfl⟩ := Checked.apply_eq_ok hbase
    obtain ⟨_, _, hpaths, -, rfl⟩ := Checked.apply_eq_ok hlevel
    obtain ⟨_, _, hnested, -, rfl⟩ := Checked.apply_eq_ok hpaths
    obtain ⟨_, _, hexclude, -, rfl⟩ := Checked.apply_eq_ok hnested
    obtain ⟨_, _, hbackend, -, rfl⟩ := Checked.apply_eq_ok hexclude
    obtain ⟨make, extension, hmake, hextension, rfl⟩ := Checked.apply_eq_ok hbackend
    cases hmake
    obtain ⟨hexecutable, htimeout⟩ := setting_of
      (fun server : ServerSettings => NamesExecutable server.command ∧ 0 < server.timeout)
      ⟨valid_default.executable, valid_default.timeout⟩ (fun _ _ => serverOf_eq_ok) hsettings
    exact ⟨setting_of IsSuffix valid_default.suffix (fun _ _ => extensionOf_eq_ok) hextension,
      hexecutable, htimeout⟩
  · cases h

/-! ## Files -/

theorem valid_of_ofBytes {file : Path} {bytes : List UInt8} {config : Config}
    (h : ofBytes file bytes = .ok config) : config.Valid := by
  unfold ofBytes at h
  split at h
  · cases h
  · split at h
    · cases h
    · cases h
    · split at h
      · next hdata =>
          cases h
          exact valid_of_ofData hdata
      · cases h

theorem valid_of_load {t : FileTree} {root : Path} {config : Config}
    (h : load t root = .ok config) : config.Valid := by
  unfold load at h
  dsimp only at h
  split at h
  · cases h
  · cases h
    exact valid_default
  · split at h
    · cases h
    · exact valid_of_ofBytes h

theorem slash_not_mem_of_load {t : FileTree} {root : Path} {config : Config}
    (h : load t root = .ok config) : '/' ∉ config.extension.toList :=
  (valid_of_load h).suffix.2.2.1

end Config

end LozengeNav
