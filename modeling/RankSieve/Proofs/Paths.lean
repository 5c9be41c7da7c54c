import RankSieve.Directory

/-!
# `RankSieve.Proofs.Paths` — what is written at a path is read there

A path is followed name by name, and where it leads depends on which files are there. Writing may make a
file, and so it may change where paths lead; it does not change where its own path leads.

The names on the way were directories, and they still are: a file that is put somewhere takes no directory
away, and it is none of the names on the way to it. `follow_put` says this by induction on the path.

## Contents
- **Files.** `contentAt?_put` and `hasDirectory_put`: what putting a file changes, and what it does not.
- **Destinations.** Following a path by one name, in its cases, and `follow_put`.
- **Reading and writing.** `write_eq` and `read_of_write`.
-/

namespace RankSieve

namespace Directory

/-! ## Files -/

theorem contentAt?_cons (here : Names) (entry : Names × Octets) (files : List (Names × Octets)) (names : Names) :
    contentAt? ⟨here, entry :: files⟩ names =
      if entry.1 = names then some entry.2 else contentAt? ⟨here, files⟩ names := by
  unfold contentAt?
  by_cases h : entry.1 = names
  · simp [h]
  · simp [h]

/-- Replacing the content of the files at some names. -/
theorem contentAt?_replace (here : Names) (files : List (Names × Octets)) (names names' : Names) (content : Octets) :
    contentAt? ⟨here, files.map fun entry => if entry.1 == names then (names, content) else entry⟩ names' =
      if names' = names then (contentAt? ⟨here, files⟩ names).map fun _ => content
      else contentAt? ⟨here, files⟩ names' := by
  induction files with
  | nil =>
    have hnone (ns : Names) : contentAt? ⟨here, []⟩ ns = none := rfl
    rw [List.map_nil, hnone, hnone, Option.map_none, ite_self]
  | cons entry files ih =>
    rw [List.map_cons, contentAt?_cons, contentAt?_cons, contentAt?_cons, ih]
    by_cases hentry : entry.1 = names
    · by_cases hnames : names' = names
      · simp [hentry, hnames]
      · simp [hentry, hnames, Ne.symm hnames]
    · by_cases hnames : names' = names
      · simp [hentry, hnames]
      · simp [hentry, hnames]

theorem contentAt?_append (here : Names) (files : List (Names × Octets)) (entry : Names × Octets) (names : Names) :
    contentAt? ⟨here, files ++ [entry]⟩ names =
      (contentAt? ⟨here, files⟩ names).or (if entry.1 = names then some entry.2 else none) := by
  induction files with
  | nil => exact contentAt?_cons here entry [] names
  | cons first files ih =>
    rw [List.cons_append, contentAt?_cons, contentAt?_cons, ih]
    by_cases hfirst : first.1 = names
    · simp [hfirst]
    · simp [hfirst]

variable (d : Directory) (names : Names) (content : Octets)

/-- **What is put at some names** is there, and other files keep their contents. -/
theorem contentAt?_put (names' : Names) :
    (d.put names content).contentAt? names' = if names' = names then some content else d.contentAt? names' := by
  unfold put
  by_cases hthere : (d.contentAt? names).isSome
  · obtain ⟨old, hold⟩ := Option.isSome_iff_exists.mp hthere
    rw [if_pos hthere, contentAt?_replace, hold]
    rfl
  · have hnone : d.contentAt? names = none := by simpa using hthere
    rw [if_neg hthere, contentAt?_append]
    by_cases hnames : names' = names
    · rw [if_pos hnames, hnames, hnone, if_pos rfl]
      rfl
    · rw [if_neg hnames, if_neg (Ne.symm hnames), Option.or_none]

/-- The current directory stays. -/
theorem here_put : (d.put names content).here = d.here := by
  unfold put
  by_cases hthere : (d.contentAt? names).isSome
  · rw [if_pos hthere]
  · rw [if_neg hthere]

/-- Directories stay. -/
theorem hasDirectory_put {names' : Names} (h : d.hasDirectory names' = true) :
    (d.put names content).hasDirectory names' = true := by
  unfold hasDirectory at h ⊢
  rw [Bool.or_eq_true] at h ⊢
  rw [here_put]
  refine h.imp_right fun h => ?_
  obtain ⟨entry, hmem, hbelow⟩ := List.any_eq_true.mp h
  refine List.any_eq_true.mpr ?_
  unfold put
  by_cases hthere : (d.contentAt? names).isSome
  · rw [if_pos hthere]
    refine ⟨_, List.mem_map_of_mem hmem, ?_⟩
    by_cases hentry : (entry.1 == names) = true
    · rw [if_pos hentry, ← beq_iff_eq.mp hentry]
      exact hbelow
    · rw [if_neg hentry]
      exact hbelow
  · rw [if_neg hthere]
    exact ⟨entry, List.mem_append_left _ hmem, hbelow⟩

/-! ## Destinations -/

/-- A destination that some content can be written to: a file at the given names, or nothing in a directory
    that is there. -/
inductive Ready : Destination → Prop where
  | file : (d.contentAt? names).isSome = true → Ready (.file names)
  | free : (d.contentAt? names).isSome ≠ true → d.hasDirectory names ≠ true → Ready (.free names)

/-- Whether a path leads to a destination that content can be written to, under the given names. -/
def Leads (path : Text) : Prop := d.resolve path = .ok (.file names) ∨ d.resolve path = .ok (.free names)

/-- A directory on the way to a file is not what is written to. -/
theorem Ready.ne_of_directory {d : Directory} {names ns : Names} {dest : Destination} (h : d.Ready names dest)
    (hcontent : (d.contentAt? ns).isSome ≠ true) (hdirectory : d.hasDirectory ns = true) : ns ≠ names := by
  rintro rfl
  cases h with
  | file hfile => exact hcontent hfile
  | free _ hfree => exact hfree hdirectory

/-- Following one point, or a name of no letters, stays. -/
theorem follow_skip {ns : Names} {name : Text} (hskip : (name.isEmpty || name == ['.']) = true)
    (rest : List Text) : d.follow ns (name :: rest) = d.follow ns rest := by
  rw [follow, if_pos hskip]

/-- Following two points goes up. -/
theorem follow_up {ns : Names} {name : Text} (hskip : ¬(name.isEmpty || name == ['.']) = true)
    (hup : (name == ['.', '.']) = true) (rest : List Text) :
    d.follow ns (name :: rest) = d.follow ns.dropLast rest := by
  rw [follow, if_neg hskip, if_pos hup]

/-- Following any other name. -/
theorem follow_name {name : Text} (hskip : ¬(name.isEmpty || name == ['.']) = true)
    (hup : ¬(name == ['.', '.']) = true) (hlong : ¬longestName < Utf8.size name) (ns : Names) (rest : List Text) :
    d.follow ns (name :: rest) =
      if (d.contentAt? (ns ++ [name])).isSome then
        if rest.isEmpty then .ok (.file (ns ++ [name])) else .error .notADirectory
      else if d.hasDirectory (ns ++ [name]) then d.follow (ns ++ [name]) rest
      else if rest.isEmpty then .ok (.free (ns ++ [name]))
      else if rest.all (·.isEmpty) then .error .isADirectory
      else .error .notFound := by
  rw [follow, if_neg hskip, if_neg hup, if_neg hlong]

/-- **Following a path** to where a file was put ends at that file. -/
theorem follow_put {ns : Names} {path : List Text} {dest : Destination} (h : d.follow ns path = .ok dest)
    (hdest : dest = .file names ∨ dest = .free names) :
    d.Ready names dest ∧ (d.put names content).follow ns path = .ok (.file names) := by
  have hput := d.contentAt?_put names content
  have hthere : ((d.put names content).contentAt? names).isSome = true := by rw [hput, if_pos rfl]; rfl
  -- one case for each kind of step; those that fail are the last alternative
  fun_induction d.follow ns path with
  | case1 =>
    cases h
    rcases hdest with hdest | hdest <;> cases hdest
  | case2 ns name rest hskip ih =>
    rw [follow_skip _ hskip]
    exact ih h
  | case3 ns name rest hskip hup ih =>
    rw [follow_up _ hskip hup]
    exact ih h
  | case5 ns name rest hskip hup hlong names' hfile hlast =>
    cases h
    obtain rfl : names = names' := by simpa [eq_comm] using hdest
    rw [follow_name _ hskip hup hlong, if_pos hthere, if_pos hlast]
    exact ⟨.file hfile, rfl⟩
  | case7 ns name rest hskip hup hlong names' hfile hdirectory ih =>
    -- a directory on the way: it is there still, and no file has been put in its place
    obtain ⟨hready, hrest⟩ := ih h
    have hne := hready.ne_of_directory hfile hdirectory
    have hfile' : ¬((d.put names content).contentAt? names').isSome = true := by rw [hput, if_neg hne]; exact hfile
    rw [follow_name _ hskip hup hlong, if_neg hfile', if_pos (d.hasDirectory_put names content hdirectory)]
    exact ⟨hready, hrest⟩
  | case8 ns name rest hskip hup hlong names' hfile hdirectory hlast =>
    cases h
    obtain rfl : names = names' := by simpa [eq_comm] using hdest
    rw [follow_name _ hskip hup hlong, if_pos hthere, if_pos hlast]
    exact ⟨.free hfile hdirectory, rfl⟩
  | _ => cases h

/-! ## Reading and writing -/

/-- Where a file was put, its path still leads. -/
theorem resolve_put {path : Text} (h : d.Leads names path) :
    (d.put names content).resolve path = .ok (.file names) := by
  obtain ⟨dest, hdest, hresolve⟩ : ∃ dest, (dest = .file names ∨ dest = .free names) ∧ d.resolve path = .ok dest := by
    rcases h with h | h
    · exact ⟨_, .inl rfl, h⟩
    · exact ⟨_, .inr rfl, h⟩
  unfold resolve at hresolve ⊢
  by_cases hnul : path.contains '\x00' = true
  · rw [if_pos hnul] at hresolve
    cases hresolve
  · rw [if_neg hnul] at hresolve ⊢
    by_cases hlong : longestPath < Utf8.size path
    · rw [if_pos hlong] at hresolve
      cases hresolve
    · rw [if_neg hlong] at hresolve ⊢
      rw [here_put]
      split at hresolve
      · cases hresolve
      · exact (d.follow_put names content hresolve hdest).2
      · exact (d.follow_put names content hresolve hdest).2

/-- **Writing** puts the content where the path leads. -/
theorem write_eq {d d' : Directory} {path : Text} {content : Octets} (h : d.write path content = .ok d') :
    ∃ names, d.Leads names path ∧ d' = d.put names content := by
  unfold write at h
  unfold Leads
  split at h
  · cases h
  · cases h
  · next names hresolve => exact ⟨names, .inr hresolve, (Except.ok.inj h).symm⟩
  · next names hresolve => exact ⟨names, .inl hresolve, (Except.ok.inj h).symm⟩

/-- **What is written at a path** is read there. -/
theorem read_of_write {d d' : Directory} {path : Text} {content : Octets} (h : d.write path content = .ok d') :
    d'.read path = .ok content := by
  obtain ⟨names, hleads, rfl⟩ := write_eq h
  unfold read
  rw [d.resolve_put names content hleads]
  dsimp only
  rw [contentAt?_put, if_pos rfl]
  rfl

end Directory

end RankSieve
