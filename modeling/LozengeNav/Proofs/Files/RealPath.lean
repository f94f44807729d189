import LozengeNav.Proofs.Files.Limits

/-! # Real paths of what is there

The real path of a path is read off without following any link twice. It is all the
same where following every link leads to: whenever something is at a path, its real
path names the very entry that is there, as long as the links have paths that fit.
-/

namespace LozengeNav

namespace FileTree

variable {t : FileTree}

/-! ## Ways -/

/-- Names lead from a trail to another one, with every link on the way followed. The cost
counts the names and the links, so no link leads through itself. -/
inductive Leads (t : FileTree) : Nat → Trail → List String → Trail → Prop where
  | nil {trail} : Leads t 0 trail [] trail
  | up {cost trail rest goal} (h : Leads t cost trail.dropLast rest goal) :
      Leads t (cost + 1) trail (".." :: rest) goal
  | name {cost trail name rest goal} (hup : name ≠ "..")
      (hlink : ∀ target, t.entry? (trail ++ [name]) ≠ some (.link target))
      (h : Leads t cost (trail ++ [name]) rest goal) :
      Leads t (cost + 1) trail (name :: rest) goal
  | link {inner outer trail name target middle rest goal} (hup : name ≠ "..")
      (hlink : t.entry? (trail ++ [name]) = some (.link target))
      (hinner : Leads t inner (startOf trail (.ofString target)) (Path.ofString target).parts middle)
      (houter : Leads t outer middle rest goal) :
      Leads t (inner + outer + 1) trail (name :: rest) goal

/-- There is one way at most, and one cost of it. -/
theorem Leads.unique {cost other : Nat} {trail goal aim : Trail} {names : List String}
    (h : Leads t cost trail names goal) (h' : Leads t other trail names aim) :
    cost = other ∧ goal = aim := by
  induction h generalizing other aim with
  | nil =>
      cases h'
      exact ⟨rfl, rfl⟩
  | up h ih =>
      cases h' with
      | up h' =>
          obtain ⟨rfl, rfl⟩ := ih h'
          exact ⟨rfl, rfl⟩
      | name hup => exact (hup rfl).elim
      | link hup => exact (hup rfl).elim
  | name hup hlink h ih =>
      cases h' with
      | up => exact (hup rfl).elim
      | name _ _ h' =>
          obtain ⟨rfl, rfl⟩ := ih h'
          exact ⟨rfl, rfl⟩
      | link _ hlink' => exact (hlink _ hlink').elim
  | link hup hlink hinner houter ihinner ihouter =>
      cases h' with
      | up => exact (hup rfl).elim
      | name _ hlink' => exact (hlink' _ hlink).elim
      | link _ hlink' hinner' houter' =>
          rw [hlink] at hlink'
          cases hlink'
          obtain ⟨rfl, rfl⟩ := ihinner hinner'
          obtain ⟨rfl, rfl⟩ := ihouter houter'
          exact ⟨rfl, rfl⟩

theorem Leads.split {cost : Nat} {trail goal : Trail} {names more : List String}
    (h : Leads t cost trail (names ++ more) goal) :
    ∃ first middle second, Leads t first trail names middle ∧ Leads t second middle more goal := by
  induction names generalizing cost trail with
  | nil => exact ⟨0, trail, cost, .nil, h⟩
  | cons name rest ih =>
      cases h with
      | up h =>
          obtain ⟨first, middle, second, hfirst, hsecond⟩ := ih h
          exact ⟨first + 1, middle, second, .up hfirst, hsecond⟩
      | name hup hlink h =>
          obtain ⟨first, middle, second, hfirst, hsecond⟩ := ih h
          exact ⟨first + 1, middle, second, .name hup hlink hfirst, hsecond⟩
      | link hup hlink hinner houter =>
          obtain ⟨first, middle, second, hfirst, hsecond⟩ := ih houter
          exact ⟨_, middle, second, .link hup hlink hinner hfirst, hsecond⟩

def Leading (t : FileTree) (go : Trail → List String → Except Absence (Trail × Entry)) : Prop :=
  ∀ trail names goal entry, go trail names = .ok (goal, entry) → ∃ cost, Leads t cost trail names goal

theorem leading_walk {jump : Option (Trail → List String → Except Absence (Trail × Entry))}
    (hjump : ∀ go ∈ jump, Leading t go) : Leading t (t.walk true jump) := by
  intro trail names goal entry h
  -- The induction is on the names; a link hands all that are left to `jump`.
  induction names generalizing trail with
  | nil =>
      rw [walk] at h
      split at h <;> cases h
      exact ⟨0, .nil⟩
  | cons name rest ih =>
      cases onward_of_walk h with
      | up hup hrest =>
          obtain ⟨cost, hcost⟩ := ih _ hrest
          exact ⟨cost + 1, hup ▸ .up hcost⟩
      | long _ _ hr => cases hr
      | missing _ _ _ hr => cases hr
      | directory hup _ hentry hrest =>
          obtain ⟨cost, hcost⟩ := ih _ hrest
          exact ⟨cost + 1, .name hup (by simp [hentry]) hcost⟩
      | file hup _ hentry hend hr =>
          cases hr
          rw [hend]
          exact ⟨1, .name hup (by simp [hentry]) .nil⟩
      | notDirectory _ _ _ _ hr => cases hr
      | link _ _ _ _ hlast => cases hlast
      | lost _ _ _ _ _ hr => cases hr
      | jump hup _ hentry _ hgo hrest =>
          obtain ⟨cost, hcost⟩ := hjump _ hgo _ _ _ _ (requiring_eq_ok hrest)
          obtain ⟨inner, middle, outer, hinner, houter⟩ := hcost.split
          exact ⟨_, .link hup hentry hinner houter⟩

theorem leading_follow (t : FileTree) (links : Nat) : Leading t (t.follow true links) := by
  induction links with
  | zero => exact leading_walk (by simp)
  | succ links ih => exact leading_walk (by simpa using ih)

theorem leads_of_locate {p : Path} {goal : Trail} {entry : Entry}
    (h : t.locate true p = .ok (goal, entry)) :
    ∃ cost, Leads t cost (startOf t.here p) p.parts goal := by
  unfold locate at h
  dsimp only at h
  split at h
  · cases h
  · split at h
    · cases h
    · exact leading_follow t linkLimit _ _ _ _ h

/-! ## Steps that are left -/

/-- The steps that following a link takes at most, once it is not seen yet. -/
def stepsFor (seen : List (Trail × Option Trail)) (e : Trail × Entry) : Nat :=
  match e.2 with
  | .link target => if seen.lookup e.1 = none then target.length + 2 else 0
  | _ => 0

/-- The steps that following each link not yet seen may add. -/
def stepsLeft (t : FileTree) (seen : List (Trail × Option Trail)) : Nat :=
  (t.entries.map (stepsFor seen)).foldr (· + ·) 0

theorem stepsLeft_nil (t : FileTree) : t.stepsLeft [] = t.linkSteps :=
  rfl

theorem stepsFor_cons_le (seen : List (Trail × Option Trail)) (link : Trail)
    (found : Option Trail) (e : Trail × Entry) :
    stepsFor ((link, found) :: seen) e ≤ stepsFor seen e := by
  obtain ⟨key, entry⟩ := e
  cases entry with
  | directory => exact Nat.le_refl _
  | file content modified => exact Nat.le_refl _
  | link target =>
      dsimp only [stepsFor]
      by_cases hkey : key = link
      · simp [hkey]
      · exact Nat.le_of_eq (by rw [List.lookup_cons, beq_false_of_ne hkey])

theorem stepsLeft_cons_le (t : FileTree) (seen : List (Trail × Option Trail)) (link : Trail)
    (found : Option Trail) : t.stepsLeft ((link, found) :: seen) ≤ t.stepsLeft seen := by
  unfold stepsLeft
  induction t.entries with
  | nil => exact Nat.le_refl 0
  | cons e rest ih =>
      simp only [List.map_cons, List.foldr_cons]
      exact Nat.add_le_add (stepsFor_cons_le seen link found e) ih

theorem stepsLeft_cons_add_le {seen : List (Trail × Option Trail)} {link : Trail} {target : String}
    (hlink : (link, .link target) ∈ t.entries) (hseen : seen.lookup link = none)
    (found : Option Trail) :
    t.stepsLeft ((link, found) :: seen) + (target.length + 2) ≤ t.stepsLeft seen := by
  have hless : ∀ entries : List (Trail × Entry),
      (entries.map (stepsFor ((link, found) :: seen))).foldr (· + ·) 0 ≤
        (entries.map (stepsFor seen)).foldr (· + ·) 0 :=
    fun entries => stepsLeft_cons_le ⟨entries, []⟩ seen link found
  obtain ⟨entries, here⟩ := t
  unfold stepsLeft
  dsimp only at hlink ⊢
  induction entries with
  | nil => cases hlink
  | cons e rest ih =>
      simp only [List.map_cons, List.foldr_cons]
      have hrest := hless rest
      rcases List.mem_cons.1 hlink with rfl | hlink
      · have hfollowed : stepsFor ((link, found) :: seen) (link, .link target) = 0 := by
          simp [stepsFor]
        have hopen : stepsFor seen (link, .link target) = target.length + 2 := by
          simp [stepsFor, hseen]
        omega
      · have hfirst := stepsFor_cons_le seen link found e
        have := ih hlink
        omega

theorem length_splitOn_le (c : Char) (s : List Char) : (s.splitOn c).length ≤ s.length + 1 := by
  induction s with
  | nil => simp
  | cons d rest ih =>
      rw [List.splitOn_cons_eq_if_modifyHead]
      split
      · simpa using ih
      · rw [List.length_modifyHead, List.length_cons]
        omega

theorem length_parts_le (s : String) : (Path.ofString s).parts.length ≤ s.length + 1 := by
  have hsplit := length_splitOn_le '/' s.toList
  have hfilter := List.length_filter_le (fun p => p ≠ [] && p ≠ ['.']) (s.toList.splitOn '/')
  rw [String.length_toList] at hsplit
  rw [Path.ofString, Path.partsOf, List.length_map]
  exact Nat.le_trans hfilter hsplit

/-! ## Links that were seen -/

/-- A link leads somewhere. -/
def LinkLeads (t : FileTree) (cost : Nat) (link goal : Trail) : Prop :=
  ∃ target, t.entry? link = some (.link target) ∧
    Leads t cost (startOf link.dropLast (.ofString target)) (Path.ofString target).parts goal

/-- What is kept of links is where they lead. -/
def Kept (t : FileTree) (seen : List (Trail × Option Trail)) : Prop :=
  ∀ link goal, seen.lookup link = some (some goal) → ∃ cost, LinkLeads t cost link goal

/-- A way of some cost is too short to lead through a link that is being followed. -/
def Below (t : FileTree) (seen : List (Trail × Option Trail)) (cost : Nat) : Prop :=
  ∀ link inner goal, seen.lookup link = some none → LinkLeads t inner link goal → cost ≤ inner

theorem Below.mono {seen : List (Trail × Option Trail)} {cost less : Nat} (h : Below t seen cost)
    (hle : less ≤ cost) : Below t seen less :=
  fun link inner goal hlookup hleads => Nat.le_trans hle (h link inner goal hlookup hleads)

theorem LinkLeads.unique {cost other : Nat} {link goal aim : Trail} (h : LinkLeads t cost link goal)
    (h' : LinkLeads t other link aim) : cost = other ∧ goal = aim := by
  obtain ⟨target, hlink, hleads⟩ := h
  obtain ⟨target', hlink', hleads'⟩ := h'
  rw [hlink] at hlink'
  cases hlink'
  exact hleads.unique hleads'

section Steps

variable {seen : List (Trail × Option Trail)} {trail : Trail} {name : String}

theorem realFrom_nil (seen : List (Trail × Option Trail)) (fuel : Nat) (trail : Trail) :
    t.realFrom seen fuel trail [] = trail := by
  cases fuel <;> simp [realFrom, lexical, Step.names]

theorem realFrom_known {target : String} {known : Trail} (hup : name ≠ "..")
    (hlink : t.linkAt? (trail ++ [name]) = some target)
    (hseen : seen.lookup (trail ++ [name]) = some (some known)) (fuel : Nat) (rest : List Step) :
    t.realFrom seen (fuel + 1) trail (.name name :: rest) = t.realFrom seen fuel known rest := by
  rw [realFrom, if_neg hup]
  simp only [hlink, hseen]

theorem realFrom_link {target : String} (hup : name ≠ "..")
    (hlink : t.linkAt? (trail ++ [name]) = some target)
    (hseen : seen.lookup (trail ++ [name]) = none) (fuel : Nat) (rest : List Step) :
    t.realFrom seen (fuel + 1) trail (.name name :: rest) =
      t.realFrom ((trail ++ [name], none) :: seen) fuel (startOf trail (.ofString target))
        ((Path.ofString target).parts.map .name ++ .resolved (trail ++ [name]) :: rest) := by
  rw [realFrom, if_neg hup]
  simp only [hlink, hseen]

end Steps

theorem Kept.follow {seen : List (Trail × Option Trail)} (h : Kept t seen) (link : Trail) :
    Kept t ((link, none) :: seen) := by
  intro key goal hlookup
  by_cases hkey : key = link
  · simp [hkey] at hlookup
  · rw [List.lookup_cons, beq_false_of_ne hkey] at hlookup
    exact h key goal hlookup

theorem Kept.resolve {seen : List (Trail × Option Trail)} (h : Kept t seen) {cost : Nat}
    {link goal : Trail} (hlink : LinkLeads t cost link goal) :
    Kept t ((link, some goal) :: seen) := by
  intro key aim hlookup
  by_cases hkey : key = link
  · rw [hkey, List.lookup_cons_self] at hlookup
    cases hlookup
    exact ⟨cost, hkey ▸ hlink⟩
  · rw [List.lookup_cons, beq_false_of_ne hkey] at hlookup
    exact h key aim hlookup

theorem Below.follow {seen : List (Trail × Option Trail)} {inner : Nat} (h : Below t seen inner)
    {link goal : Trail} (hlink : LinkLeads t inner link goal) :
    Below t ((link, none) :: seen) inner := by
  intro key cost aim hlookup hleads
  by_cases hkey : key = link
  · rw [hkey] at hleads
    exact Nat.le_of_eq (hlink.unique hleads).1
  · rw [List.lookup_cons, beq_false_of_ne hkey] at hlookup
    exact h key cost aim hlookup hleads

/-- The links that are being followed are among others. -/
def Following (seen others : List (Trail × Option Trail)) : Prop :=
  ∀ link, seen.lookup link = some none → others.lookup link = some none

theorem Below.of_following {seen others : List (Trail × Option Trail)} {cost : Nat}
    (h : Below t others cost) (hfollowing : Following seen others) : Below t seen cost :=
  fun link inner goal hlookup hleads => h link inner goal (hfollowing link hlookup) hleads

theorem following_resolve {seen others : List (Trail × Option Trail)} {link : Trail} (goal : Trail)
    (h : Following seen ((link, none) :: others)) :
    Following ((link, some goal) :: seen) others := by
  intro key hlookup
  by_cases hkey : key = link
  · simp [hkey] at hlookup
  · rw [List.lookup_cons, beq_false_of_ne hkey] at hlookup
    have hothers := h key hlookup
    rwa [List.lookup_cons, beq_false_of_ne hkey] at hothers

/-- The first of the steps from a trail arrive at a goal, and others are to go. What is kept
of links is right, and enough steps are left for the links not seen and some more. -/
def Arrives (t : FileTree) (seen : List (Trail × Option Trail)) (fuel more : Nat) (trail : Trail)
    (steps : List Step) (goal : Trail) (rest : List Step) : Prop :=
  ∃ seen' fuel', Kept t seen' ∧ Following seen' seen ∧ t.stepsLeft seen' + more ≤ fuel' ∧
    t.realFrom seen fuel trail steps = t.realFrom seen' fuel' goal rest

section Arrives

variable {seen others : List (Trail × Option Trail)} {fuel less more : Nat}
  {trail next goal : Trail} {steps following rest : List Step}

theorem Arrives.of_eq (h : Arrives t others less more next following goal rest)
    (hfollowing : Following others seen)
    (heq : t.realFrom seen fuel trail steps = t.realFrom others less next following) :
    Arrives t seen fuel more trail steps goal rest := by
  obtain ⟨seen', fuel', hkept, hfollowing', hleft, hrest⟩ := h
  exact ⟨seen', fuel', hkept, fun link hlink => hfollowing link (hfollowing' link hlink), hleft,
    heq.trans hrest⟩

theorem Arrives.resolve {link : Trail} {inner : Nat} (hleads : LinkLeads t inner link goal)
    (h : Arrives t ((link, none) :: seen) less (more + 1) next following goal
      (.resolved link :: rest))
    (heq : t.realFrom seen fuel trail steps =
      t.realFrom ((link, none) :: seen) less next following) :
    Arrives t seen fuel more trail steps goal rest := by
  obtain ⟨seen', fuel', hkept, hfollowing, hleft, hrest⟩ := h
  obtain ⟨fuel', rfl⟩ : ∃ less, fuel' = less + 1 := ⟨fuel' - 1, by omega⟩
  have hless := stepsLeft_cons_le t seen' link (some goal)
  refine ⟨_, fuel', hkept.resolve hleads, following_resolve goal hfollowing, by omega, ?_⟩
  rw [heq, hrest, realFrom]

end Arrives

theorem exists_fuel_of_cons {name : String} {names : List String} {left fuel : Nat}
    (h : (name :: names).length + left ≤ fuel) :
    ∃ less, fuel = less + 1 ∧ names.length + left ≤ less := by
  rw [List.length_cons] at h
  exact ⟨fuel - 1, by omega, by omega⟩

theorem arrives_of_leads (hfit : t.LinksFit) {cost : Nat} {trail goal : Trail} {names : List String}
    (h : Leads t cost trail names goal) {seen : List (Trail × Option Trail)} (hkept : Kept t seen)
    (hbelow : Below t seen cost) (rest : List Step) {fuel more : Nat}
    (hfuel : names.length + (t.stepsLeft seen + more) ≤ fuel) :
    Arrives t seen fuel more trail (names.map .name ++ rest) goal rest := by
  induction h generalizing seen rest fuel more with
  | nil => exact ⟨seen, fuel, hkept, fun _ h => h, by simpa using hfuel, rfl⟩
  | up h ih =>
      obtain ⟨fuel, rfl, hless⟩ := exists_fuel_of_cons hfuel
      refine (ih hkept (hbelow.mono (by omega)) rest hless).of_eq (fun _ h => h) ?_
      rw [List.map_cons, List.cons_append, realFrom, if_pos rfl]
  | name hup hlink h ih =>
      obtain ⟨fuel, rfl, hless⟩ := exists_fuel_of_cons hfuel
      refine (ih hkept (hbelow.mono (by omega)) rest hless).of_eq (fun _ h => h) ?_
      exact realFrom_name hup hlink fuel _
  | @link inner outer trail name target middle names goal hup hlink hinner houter ihinner ihouter =>
      have hleads : LinkLeads t inner (trail ++ [name]) middle :=
        ⟨target, hlink, by rwa [List.dropLast_concat]⟩
      have hat := hfit.linkAt? hlink
      obtain ⟨fuel, rfl, hless⟩ := exists_fuel_of_cons hfuel
      cases hseen : seen.lookup (trail ++ [name]) with
      | some found =>
          cases found with
          | none =>
              -- the way would lead through a link that is being followed
              have := hbelow _ _ _ hseen hleads
              omega
          | some known =>
              obtain ⟨cost, hknown⟩ := hkept _ _ hseen
              obtain ⟨-, rfl⟩ := hknown.unique hleads
              refine (ihouter hkept (hbelow.mono (by omega)) rest hless).of_eq (fun _ h => h) ?_
              exact realFrom_known hup hat hseen fuel _
      | none =>
          have hparts := length_parts_le target
          have hleft := stepsLeft_cons_add_le (mem_of_entry?_link hlink) hseen none
          have harrives := ihinner (hkept.follow (trail ++ [name]))
            ((hbelow.mono (by omega)).follow hleads)
            (.resolved (trail ++ [name]) :: (names.map .name ++ rest))
            (show _ + (_ + (names.length + more + 1)) ≤ fuel by omega)
          obtain ⟨seen₁, fuel₁, hkept₁, hfollowing, hleft₁, heq⟩ :=
            harrives.resolve hleads (realFrom_link hup hat hseen fuel _)
          have hbelow₁ := (hbelow.mono (show outer ≤ _ by omega)).of_following hfollowing
          exact (ihouter hkept₁ hbelow₁ rest (by omega)).of_eq hfollowing heq

/-- The real path of a path is where following its links leads. -/
theorem realTrail_of_leads (hfit : t.LinksFit) {cost : Nat} {p : Path} {goal : Trail}
    (h : Leads t cost (startOf t.here p) p.parts goal) : t.realTrail p = goal := by
  have hkept : Kept t [] := nofun
  obtain ⟨seen, fuel, -, -, -, heq⟩ := arrives_of_leads hfit h hkept nofun []
    (show _ + (_ + 0) ≤ t.linkSteps + p.parts.length + 1 by rw [stepsLeft_nil]; omega)
  rw [List.append_nil, realFrom_nil] at heq
  exact heq

/-! ## Trails without links -/

/-- No link is on the way along a trail. -/
structure Clear (t : FileTree) (trail : Trail) : Prop where
  noUp : ".." ∉ trail
  noLink : ∀ before, before <+: trail → ∀ target, t.entry? before ≠ some (.link target)

theorem Clear.of_prefix {trail before : Trail} (h : Clear t trail) (hbefore : before <+: trail) :
    Clear t before where
  noUp hup := h.noUp (hbefore.subset hup)
  noLink first hfirst := h.noLink first (hfirst.trans hbefore)

theorem clear_nil (t : FileTree) : Clear t [] where
  noUp := List.not_mem_nil
  noLink before hbefore target := by
    rw [List.prefix_nil.1 hbefore]
    nofun

theorem Clear.child {trail : Trail} {name : String} (h : Clear t trail) (hup : name ≠ "..")
    (hlink : ∀ target, t.entry? (trail ++ [name]) ≠ some (.link target)) :
    Clear t (trail ++ [name]) where
  noUp hmem := by
    rcases List.mem_append.1 hmem with hmem | hmem
    · exact h.noUp hmem
    · exact hup (List.mem_singleton.1 hmem).symm
  noLink before hbefore := by
    rcases List.prefix_concat_iff.1 hbefore with rfl | hbefore
    · exact hlink
    · exact h.noLink before hbefore

theorem Clear.startOf {trail : Trail} (h : Clear t trail) (p : Path) : Clear t (startOf trail p) := by
  unfold FileTree.startOf
  split
  · exact clear_nil t
  · exact h

theorem Leads.clear {cost : Nat} {trail goal : Trail} {names : List String}
    (h : Leads t cost trail names goal) (htrail : Clear t trail) : Clear t goal := by
  induction h with
  | nil => exact htrail
  | up h ih => exact ih (htrail.of_prefix (List.dropLast_prefix _))
  | name hup hlink h ih => exact ih (htrail.child hup hlink)
  | link hup hlink hinner houter ihinner ihouter => exact ihouter (ihinner (htrail.startOf _))

theorem walk_ne_of_clear {jump : Option (Trail → List String → Except Absence (Trail × Entry))}
    {trail : Trail} {names : List String} (h : Clear t (trail ++ names)) :
    t.walk true jump trail names ≠ .error .tooManyLinks := by
  intro hwalk
  induction names generalizing trail with
  | nil =>
      rw [walk] at hwalk
      split at hwalk <;> cases hwalk
  | cons name rest ih =>
      have hnext : Clear t (trail ++ [name] ++ rest) := by rwa [List.append_assoc]
      have hlink : ∀ target, t.entry? (trail ++ [name]) ≠ some (.link target) :=
        hnext.noLink _ (List.prefix_append _ _)
      cases onward_of_walk hwalk with
      | up hup => exact h.noUp (by simp [hup])
      | long _ _ hr => cases hr
      | missing _ _ _ hr => cases hr
      | directory _ _ _ hrest => exact ih hnext hrest
      | file _ _ _ _ hr => cases hr
      | notDirectory _ _ _ _ hr => cases hr
      | link _ _ hentry => exact hlink _ hentry
      | lost _ _ hentry => exact hlink _ hentry
      | jump _ _ hentry => exact hlink _ hentry

/-! ## Real paths -/

/-- A file tree in which the real path of a path is where its links lead: all its links have paths
within the limit, and none is on the way to the current directory. -/
structure Resolvable (t : FileTree) : Prop where
  links : t.LinksFit
  here : Clear t t.here

theorem realPath_of_leads (ht : t.Resolvable) {p : Path}
    (hnul : '\x00' ∉ p.toString.toList) {cost : Nat} {goal : Trail}
    (h : Leads t cost (startOf t.here p) p.parts goal) : t.realPath p = .ok ⟨.root, goal⟩ := by
  have hgoal : Clear t goal := h.clear (ht.here.startOf p)
  have hlocate : t.locate true ⟨.root, goal⟩ ≠ .error .tooManyLinks := by
    unfold locate
    dsimp only
    split
    · simp
    · split
      · simp
      · change t.walk true _ [] goal ≠ _
        exact walk_ne_of_clear hgoal
  have hclean : ¬ p.toString.toList.contains '\x00' = true := by rwa [List.contains_iff_mem]
  rw [realPath, if_neg hclean, realTrail_of_leads ht.links h]
  dsimp only
  split
  · next hlinks => exact (hlocate hlinks).elim
  · rfl

theorem not_mem_nul_of_locate {last : Bool} {p : Path} {found : Trail × Entry}
    (h : t.locate last p = .ok found) : '\x00' ∉ p.toString.toList := by
  unfold locate at h
  dsimp only at h
  split at h
  · cases h
  · next hclean => rwa [List.contains_iff_mem] at hclean

theorem realPath_of_locate (ht : t.Resolvable) {p : Path} {goal : Trail} {entry : Entry}
    (h : t.locate true p = .ok (goal, entry)) : t.realPath p = .ok ⟨.root, goal⟩ := by
  obtain ⟨cost, hleads⟩ := leads_of_locate h
  exact realPath_of_leads ht (not_mem_nul_of_locate h) hleads

theorem exists_realPath_of_below (ht : t.Resolvable) {p : Path}
    {names : List String} {found : Trail × Entry} (h : t.locate true (p.below names) = .ok found) :
    ∃ top, t.realPath p = .ok ⟨.root, top⟩ := by
  obtain ⟨goal, entry⟩ := found
  obtain ⟨cost, hleads⟩ := leads_of_locate h
  obtain ⟨first, middle, -, hfirst, -⟩ := hleads.split
  refine ⟨middle, realPath_of_leads ht (fun hnul => not_mem_nul_of_locate h ?_) hfirst⟩
  obtain ⟨part, hpart, hc⟩ := (Path.mem_toString_iff (by decide) (by decide) p).1 hnul
  exact (Path.mem_toString_iff (by decide) (by decide) _).2
    ⟨part, List.mem_append_left _ hpart, hc⟩

end FileTree

end LozengeNav
